/-
  The frames between the host and the radio processor
  (`pkg/zigbee-dongle/ember/frame.go` and `ezsp_frame.go`).

  An EZSP frame is a command or a response with its own sequence number.  It is carried by
  an ASH DATA frame: the payload is combined with a pseudo-random sequence, a control byte
  is put before it and a CRC behind it, reserved bytes are stuffed, and flags are put around
  the result.
-/
import IotController.Foundation.Bytes

namespace IotController.Ember

open Foundation

/-! ## Stuffing and flags -/

def ashFlag : Byte := 0x7E

def ashEsc : Byte := 0x7D

def ashEscXor : Byte := 0x20

def ashCancel : Byte := 0x1A

def reservedByte (b : Byte) : Bool :=
  b == ashFlag || b == ashEsc || b == 0x11 || b == 0x13

def ashStuffing : Stuffing Byte where
  esc := ashEsc
  mask b := b ^^^ ashEscXor
  reserved := reservedByte
  mask_mask b := by rw [UInt8.xor_assoc, UInt8.xor_self, UInt8.xor_zero]
  esc_reserved := rfl
  mask_free b hb := by
    have hcases : b = ashFlag ∨ b = ashEsc ∨ b = 0x11 ∨ b = 0x13 := by
      simpa [reservedByte, or_assoc] using hb
    rcases hcases with rfl | rfl | rfl | rfl <;> rfl

def escapeASHFrame (data : List Byte) : List Byte := ashStuffing.stuff data

def unescapeASHFrame (raw : List Byte) : List Byte := ashStuffing.unstuff raw

variable (control : Byte) (data : List Byte) (body : List Byte) (crc : UInt16)

theorem unescape_escape : unescapeASHFrame (escapeASHFrame data) = data :=
  ashStuffing.unstuff_stuff data

theorem ashFlag_not_mem_escape : ashFlag ∉ escapeASHFrame data :=
  ashStuffing.not_mem_stuff rfl (by decide)

def stripFlags (raw : List Byte) : List Byte :=
  let raw := if raw.head? = some ashFlag then raw.tail else raw
  if raw.getLast? = some ashFlag then raw.dropLast else raw

def delimited (body : List Byte) : List Byte := ashFlag :: (body ++ [ashFlag])

@[simp] theorem stripFlags_delimited : stripFlags (delimited body) = body := by
  simp [stripFlags, delimited]

/-! ## The checksum -/

def crcShift (crc : UInt16) : UInt16 :=
  if crc &&& 0x8000 ≠ 0 then (crc <<< 1) ^^^ 0x1021 else crc <<< 1

def crcByte (crc : UInt16) (b : Byte) : UInt16 := crcShift^[8] (crc ^^^ (b.toUInt16 <<< 8))

def crcCCITT (data : List Byte) : UInt16 := data.foldl crcByte 0xFFFF

def crcBytes (crc : UInt16) : List Byte := [(crc >>> 8).toUInt8, (crc &&& 0xFF).toUInt8]

def bigEndianUint16 : List Byte → UInt16
  | hi :: lo :: _ => word hi lo
  | _ => 0

@[simp] theorem crcBytes_length : (crcBytes crc).length = 2 := rfl

@[simp] theorem bigEndianUint16_crcBytes : bigEndianUint16 (crcBytes crc) = crc := by
  rw [crcBytes, low_byte]
  exact word_bytes crc

def covered (unescaped : List Byte) : List Byte := unescaped.take (unescaped.length - 2)

def trailingCRC (unescaped : List Byte) : UInt16 :=
  bigEndianUint16 (unescaped.drop (unescaped.length - 2))

@[simp] theorem covered_append_crc :
    covered (body ++ crcBytes crc) = body := by
  simp [covered]

@[simp] theorem trailingCRC_append_crc :
    trailingCRC (body ++ crcBytes crc) = crc := by
  simp [trailingCRC]

/-! ## The pseudo-random sequence -/

def nextRandom (rand : Byte) : Byte :=
  if rand &&& 0x01 = 0 then rand >>> 1 else (rand >>> 1) ^^^ 0xB8

def generatePseudoRandomSequence (length : Nat) : List Byte := List.iterate nextRandom 0x42 length

def randomizeData (data : List Byte) : List Byte :=
  List.zipWith (· ^^^ ·) data (generatePseudoRandomSequence data.length)

def derandomizeData (data : List Byte) : List Byte := randomizeData data

@[simp] theorem randomizeData_length :
    (randomizeData data).length = data.length := by
  simp [randomizeData, generatePseudoRandomSequence]

theorem derandomize_randomize : derandomizeData (randomizeData data) = data := by
  have hlength : data.length ≤ (generatePseudoRandomSequence data.length).length := by
    simp [generatePseudoRandomSequence]
  have hcancel : ∀ a k : Byte, a ^^^ k ^^^ k = a := fun a k => by
    rw [UInt8.xor_assoc, UInt8.xor_self, UInt8.xor_zero]
  rw [derandomizeData, randomizeData, randomizeData_length]
  exact zipWith_zipWith_cancel hcancel hlength

/-! ## ASH frames -/

/-- The types of ASH frames. -/
inductive ASHFrameType where
  | data
  | ack
  | nak
  | rst
  | rstack
  | error
  deriving DecidableEq, Repr

theorem and_seven_lt (x : Byte) : x &&& 0x07 < 8 := by
  rw [UInt8.lt_iff_toNat_lt, UInt8.toNat_and]
  exact Nat.lt_of_le_of_lt Nat.and_le_right (by decide)

theorem frameNum_lt : (control >>> 4) &&& 0x07 < 8 := and_seven_lt _

theorem byte_zero_lt : (0 : Byte) < 8 := by decide

/-- `ASHFrame`, without the raw bytes that it keeps for the log. -/
structure ASHFrame where
  type : ASHFrameType
  control : Byte
  frameNum : Byte := 0
  ackNum : Byte := 0
  reTx : Bool := false
  nRdy : Bool := false
  reserved : Bool := false
  data : List Byte := []
  crc : UInt16
  frameNum_lt : frameNum < 8 := by exact byte_zero_lt
  ackNum_lt : ackNum < 8 := by exact byte_zero_lt
  deriving DecidableEq, Repr

/-- The errors of the two parsers. -/
inductive FrameError where
  | tooShort (bytes : Nat)
  | unknownType (control : Byte)
  | ezspTooShort (bytes : Nat)
  | extendedTooShort (bytes : Nat)
  deriving DecidableEq, Repr

def hex02X (b : Byte) : String :=
  String.ofList ([b >>> 4, b &&& 0x0F].map fun d => (Nat.digitChar d.toNat).toUpper)

def FrameError.message : FrameError → String
  | .tooShort bytes => s!"frame too short: {bytes} bytes (minimum 3)"
  | .unknownType control => "unknown frame type: 0x" ++ hex02X control
  | .ezspTooShort bytes => s!"EZSP frame too short: {bytes} bytes"
  | .extendedTooShort bytes => s!"extended EZSP frame too short: {bytes} bytes"

def frameType (control : Byte) : Option ASHFrameType :=
  if control &&& 0x80 = 0 then some .data
  else if control &&& 0xC0 = 0x80 then
    if control &&& 0x20 = 0 then some .ack else some .nak
  else if control = 0xC0 then some .rst
  else if control = 0xC1 then some .rstack
  else if control = 0xC2 then some .error
  else none

/-- The cases of `ParseASHFrame`, with the bytes between the control byte and the CRC. -/
def assemble (type : ASHFrameType) (control : Byte) (data : List Byte) (crc : UInt16) : ASHFrame :=
  match type with
  | .data =>
    { type := .data
      control := control
      frameNum := (control >>> 4) &&& 0x07
      reTx := (control >>> 3) &&& 0x01 = 1
      ackNum := control &&& 0x07
      data := data
      crc := crc
      frameNum_lt := frameNum_lt control
      ackNum_lt := and_seven_lt _ }
  | .ack =>
    { type := .ack
      control := control
      reserved := (control >>> 4) &&& 0x01 = 1
      nRdy := (control >>> 3) &&& 0x01 = 1
      ackNum := control &&& 0x07
      crc := crc
      ackNum_lt := and_seven_lt _ }
  | .nak =>
    { type := .nak
      control := control
      reserved := (control >>> 4) &&& 0x01 = 1
      nRdy := (control >>> 3) &&& 0x01 = 1
      ackNum := control &&& 0x07
      crc := crc
      ackNum_lt := and_seven_lt _ }
  | .rst => { type := .rst, control := control, crc := crc }
  | .rstack => { type := .rstack, control := control, data := data, crc := crc }
  | .error => { type := .error, control := control, data := data, crc := crc }

/-- `ParseASHFrame` from the unescaped bytes on; its later length tests repeat the first. -/
def parseUnescaped (unescaped : List Byte) : Except FrameError ASHFrame :=
  if unescaped.length < 3 then .error (.tooShort unescaped.length)
  else
    let control := unescaped.headD 0
    match frameType control with
    | some type =>
      .ok (assemble type control ((covered unescaped).drop 1) (trailingCRC unescaped))
    | none => .error (.unknownType control)

def parseASHFrame (raw : List Byte) : Except FrameError ASHFrame :=
  parseUnescaped (unescapeASHFrame (stripFlags raw))

def sealFrame (frameData : List Byte) : List Byte :=
  delimited (escapeASHFrame (frameData ++ crcBytes (crcCCITT frameData)))

def buildASHDataFrame (control : Byte) (data : List Byte) : List Byte :=
  sealFrame (control :: randomizeData data)

def buildASHACKFrame (ackNum : Byte) : List Byte := sealFrame [0x80 ||| (ackNum &&& 0x07)]

def buildASHNAKFrame (ackNum : Byte) : List Byte := sealFrame [0xA0 ||| (ackNum &&& 0x07)]

def buildRSTFrame : List Byte := List.replicate 32 ashCancel ++ sealFrame [0xC0]

def buildRSTACKFrame : List Byte := sealFrame [0xC1]

@[simp] theorem unescape_sealFrame (frameData : List Byte) :
    unescapeASHFrame (stripFlags (sealFrame frameData)) =
      frameData ++ crcBytes (crcCCITT frameData) := by
  rw [sealFrame, stripFlags_delimited, unescape_escape]

def dataFrame (control : Byte) (data : List Byte) : ASHFrame :=
  assemble .data control (randomizeData data) (crcCCITT (control :: randomizeData data))

theorem dataFrame_frameNum :
    (dataFrame control data).frameNum = (control >>> 4) &&& 0x07 := rfl

theorem dataFrame_data :
    (dataFrame control data).data = randomizeData data := rfl

theorem dataFrame_crc :
    (dataFrame control data).crc = crcCCITT (control :: randomizeData data) := rfl

theorem parse_buildASHDataFrame {control : Byte} (hcontrol : control &&& 0x80 = 0)
    (data : List Byte) :
    parseASHFrame (buildASHDataFrame control data) = .ok (dataFrame control data) := by
  have htype : frameType control = some .data := if_pos hcontrol
  rw [parseASHFrame, buildASHDataFrame, unescape_sealFrame, parseUnescaped]
  have hhead : (control :: randomizeData data ++
      crcBytes (crcCCITT (control :: randomizeData data))).headD 0 = control := rfl
  rw [if_neg (by simp)]
  simp only [covered_append_crc, trailingCRC_append_crc, hhead, htype, List.drop_succ_cons,
    List.drop_zero]
  rfl

theorem parse_buildASHACKFrame {ackNum : Byte} (hack : ackNum < 8) :
    ∃ frame, parseASHFrame (buildASHACKFrame ackNum) = .ok frame ∧ frame.type = .ack ∧
      frame.ackNum = ackNum := by
  have hbits : ∀ n : Fin 8, frameType (0x80 ||| (UInt8.ofNat n &&& 0x07)) = some .ack ∧
      (0x80 ||| (UInt8.ofNat n &&& 0x07)) &&& 0x07 = UInt8.ofNat n := by decide
  have hn : UInt8.ofNat ackNum.toNat = ackNum := UInt8.ofNat_toNat
  obtain ⟨htype, hnum⟩ := hbits ⟨ackNum.toNat, UInt8.lt_iff_toNat_lt.mp hack⟩
  rw [hn] at htype hnum
  rw [parseASHFrame, buildASHACKFrame, unescape_sealFrame, parseUnescaped, if_neg (by simp)]
  simp only [List.cons_append, List.headD_cons, htype]
  exact ⟨_, rfl, rfl, hnum⟩

/-- The bytes are read as a frame of type `t`. -/
def HasType (raw : List Byte) (t : ASHFrameType) : Prop :=
  ∃ frame, parseASHFrame raw = .ok frame ∧ frame.type = t

theorem hasType_iff (raw : List Byte) (t : ASHFrameType) :
    HasType raw t ↔ 3 ≤ (unescapeASHFrame (stripFlags raw)).length ∧
      frameType ((unescapeASHFrame (stripFlags raw)).headD 0) = some t := by
  unfold HasType parseASHFrame parseUnescaped
  generalize unescapeASHFrame (stripFlags raw) = unescaped
  by_cases hshort : unescaped.length < 3
  · simp only [if_pos hshort]
    constructor
    · rintro ⟨frame, h, -⟩
      cases h
    · rintro ⟨hlong, -⟩
      omega
  · rw [if_neg hshort]
    have hlong : 3 ≤ unescaped.length := Nat.not_lt.mp hshort
    cases htype : frameType (unescaped.headD 0) with
    | none =>
      simp only [htype]
      simp
    | some type =>
      simp only [htype, hlong, true_and]
      cases type <;> simp [assemble, eq_comm]

theorem hasType_sealFrame (t : ASHFrameType) :
    HasType (sealFrame (control :: data)) t ↔ frameType control = some t := by
  rw [hasType_iff, unescape_sealFrame]
  simp

theorem hasType_buildASHDataFrame {control : Byte} (hcontrol : control &&& 0x80 = 0)
    (data : List Byte) : HasType (buildASHDataFrame control data) .data :=
  (hasType_sealFrame _ _ _).mpr (if_pos hcontrol)

theorem not_hasType_data_nak (ackNum : Byte) : ¬ HasType (buildASHNAKFrame ackNum) .data := by
  have hnak : ∀ b : BitVec 8,
      (0xA0 ||| (UInt8.ofBitVec b &&& 0x07)) &&& 0x80 ≠ (0 : Byte) := by decide
  rw [buildASHNAKFrame, hasType_sealFrame, frameType, if_neg (hnak ackNum.toBitVec)]
  split_ifs <;> simp

/-! ## EZSP frames -/

def ezspCommand : Byte := 0x00

def ezspResponse : Byte := 0x80

def ezspExtendedFormat : Byte := 0x01

/-- A frame of the EZSP protocol. -/
structure EZSPFrame where
  sequence : Byte
  control : Byte
  frameID : UInt16
  parameters : List Byte
  deriving DecidableEq, Repr

def parseEZSPFrame : List Byte → Except FrameError EZSPFrame
  | sequence :: control :: frameID :: parameters =>
    .ok ⟨sequence, control, frameID.toUInt16, parameters⟩
  | data => .error (.ezspTooShort data.length)

def parseEZSPFrameExtended : List Byte → Except FrameError EZSPFrame
  | sequence :: fcLo :: _ :: idLo :: idHi :: parameters =>
    .ok ⟨sequence, if fcLo &&& 0x80 ≠ 0 then ezspResponse else ezspCommand,
      word idHi idLo, parameters⟩
  | data => .error (.extendedTooShort data.length)

def serializeEZSPFrameExtended (frame : EZSPFrame) : List Byte :=
  frame.sequence :: 0x00 :: ezspExtendedFormat :: frame.frameID.toUInt8 ::
    (frame.frameID >>> 8).toUInt8 :: frame.parameters

def parseEZSP (data : List Byte) : Except FrameError EZSPFrame :=
  if 5 ≤ data.length ∧ data.getD 2 0 &&& 0x03 = ezspExtendedFormat then
    parseEZSPFrameExtended data
  else parseEZSPFrame data

theorem parseEZSP_serialize {f : EZSPFrame} (hf : f.control = ezspCommand) :
    parseEZSP (serializeEZSPFrameExtended f) = .ok f := by
  have hformat : ezspExtendedFormat &&& 0x03 = ezspExtendedFormat := by decide
  have hextended : 5 ≤ (serializeEZSPFrameExtended f).length ∧
      (serializeEZSPFrameExtended f).getD 2 0 &&& 0x03 = ezspExtendedFormat :=
    ⟨by simp [serializeEZSPFrameExtended], hformat⟩
  rw [parseEZSP, if_pos hextended]
  simp [serializeEZSPFrameExtended, parseEZSPFrameExtended, word_bytes, ← hf]

/-- **What is sent is read.**  A command built into a DATA frame is read with its number,
acknowledgement, retransmit flag and checksum, and read back from the payload. -/
theorem command_round_trip (control : Byte) (hcontrol : control &&& 0x80 = 0) (f : EZSPFrame)
    (hf : f.control = ezspCommand) :
    ∃ frame,
      parseASHFrame (buildASHDataFrame control (serializeEZSPFrameExtended f)) = .ok frame ∧
      frame.type = .data ∧
      frame.frameNum = (control >>> 4) &&& 0x07 ∧
      frame.ackNum = control &&& 0x07 ∧
      frame.reTx = decide ((control >>> 3) &&& 0x01 = 1) ∧
      frame.crc = crcCCITT (covered (unescapeASHFrame (stripFlags
        (buildASHDataFrame control (serializeEZSPFrameExtended f))))) ∧
      covered (unescapeASHFrame (stripFlags
        (buildASHDataFrame control (serializeEZSPFrameExtended f)))) = control :: frame.data ∧
      parseEZSP (derandomizeData frame.data) = .ok f := by
  have hcovered : covered (unescapeASHFrame (stripFlags
      (buildASHDataFrame control (serializeEZSPFrameExtended f)))) =
        control :: randomizeData (serializeEZSPFrameExtended f) := by
    rw [buildASHDataFrame, unescape_sealFrame, covered_append_crc]
  refine ⟨_, parse_buildASHDataFrame hcontrol _, rfl, rfl, rfl, rfl, ?_, ?_, ?_⟩
  · rw [hcovered, dataFrame_crc]
  · rw [hcovered, dataFrame_data]
  · rw [dataFrame_data, derandomize_randomize]
    exact parseEZSP_serialize hf

/-- A command whose bytes are all reserved ones. -/
theorem command_round_trip_reserved :
    (0x7E : Byte) &&& 0x80 = 0 ∧
    ∃ frame,
      parseASHFrame (buildASHDataFrame 0x7E (serializeEZSPFrameExtended
        ⟨0x7D, ezspCommand, 0x1113, [0x7E, 0x7D]⟩)) = .ok frame ∧
      frame.frameNum = 7 ∧ frame.ackNum = 6 ∧ frame.reTx = true ∧
      parseEZSP (derandomizeData frame.data) = .ok ⟨0x7D, ezspCommand, 0x1113, [0x7E, 0x7D]⟩ := by
  obtain ⟨frame, hparse, -, hnum, hack, hretx, -, -, hpayload⟩ :=
    command_round_trip 0x7E (by decide) ⟨0x7D, ezspCommand, 0x1113, [0x7E, 0x7D]⟩ rfl
  refine ⟨by decide, frame, hparse, ?_, ?_, ?_, hpayload⟩
  · rw [hnum]
    decide
  · rw [hack]
    decide
  · rw [hretx]
    decide

end IotController.Ember
