/-
  The receive path with its bounds checks (`frame.go`,
  `ezsp_frame.go`, `controller.go` and `interview.go` of `pkg/zigbee-dongle/ember`).

  The functions of the source once more, with every index and slice expression where the
  source has it.  Each of them is `.ok` of the function without the checks (`receive_ok`).
-/
import IotController.Foundation.Slice
import IotController.Ember.Interview

namespace IotController.Ember.Bounds

open Foundation Dongle

/-! ## Frames -/

def unescapeFrom (raw : List Byte) : Nat → Nat → List Byte → Checked (List Byte)
  | 0, _, result => pure result
  | fuel + 1, i, result =>
    if i < raw.length then do
      let b ← index raw i
      if b = ashEsc ∧ i + 1 < raw.length then do
        let escaped ← index raw (i + 1 : Nat)
        unescapeFrom raw fuel (i + 2) (result ++ [escaped ^^^ ashEscXor])
      else unescapeFrom raw fuel (i + 1) (result ++ [b])
    else pure result

def unescapeASHFrame (raw : List Byte) : Checked (List Byte) :=
  if raw.length = 0 then pure raw else unescapeFrom raw raw.length 0 []

def stripLeading (raw : List Byte) : Checked (List Byte) :=
  if 0 < raw.length then do
    if (← index raw 0) = ashFlag then sliceFrom raw 1 else pure raw
  else pure raw

def stripTrailing (raw : List Byte) : Checked (List Byte) :=
  if 0 < raw.length then do
    if (← index raw (raw.length - 1)) = ashFlag then sliceTo raw (raw.length - 1) else pure raw
  else pure raw

def bigEndianUint16 (b : List Byte) : Checked UInt16 := do
  let lo ← index b 1
  let hi ← index b 0
  pure (word hi lo)

def littleEndianUint16 (b : List Byte) : Checked UInt16 := do
  let hi ← index b 1
  let lo ← index b 0
  pure (word hi lo)

def littleEndianUint64 (b : List Byte) : Checked UInt64 := do
  let _ ← index b 7
  pure (leUint64 (b.take 8))

def hasData : ASHFrameType → Bool
  | .data | .rstack | .error => true
  | .ack | .nak | .rst => false

def frameData (type : ASHFrameType) (unescaped : List Byte) : Checked (List Byte) :=
  if hasData type ∧ 3 < unescaped.length then slice unescaped 1 (unescaped.length - 2)
  else pure []

def parseUnescaped (unescaped : List Byte) : Checked (Except FrameError ASHFrame) :=
  if unescaped.length < 3 then pure (.error (.tooShort unescaped.length))
  else do
    let control ← index unescaped 0
    match frameType control with
    | none => pure (.error (.unknownType control))
    | some type =>
      let data ← frameData type unescaped
      let crc ← bigEndianUint16 (← sliceFrom unescaped (unescaped.length - 2))
      pure (.ok (assemble type control data crc))

def parseASHFrame (raw : List Byte) : Checked (Except FrameError ASHFrame) := do
  parseUnescaped (← unescapeASHFrame (← stripTrailing (← stripLeading raw)))

def parseEZSPFrame (data : List Byte) : Checked (Except FrameError EZSPFrame) :=
  if data.length < 3 then pure (.error (.ezspTooShort data.length))
  else do
    let sequence ← index data 0
    let control ← index data 1
    let frameID ← index data 2
    let parameters ← sliceFrom data 3
    pure (.ok ⟨sequence, control, frameID.toUInt16, parameters⟩)

def parseEZSPFrameExtended (data : List Byte) : Checked (Except FrameError EZSPFrame) :=
  if data.length < 5 then pure (.error (.extendedTooShort data.length))
  else do
    let fcLo ← index data 1
    let sequence ← index data 0
    let idLo ← index data 3
    let idHi ← index data 4
    let parameters ← sliceFrom data 5
    pure (.ok ⟨sequence, if fcLo &&& 0x80 ≠ 0 then ezspResponse else ezspCommand,
      word idHi idLo, parameters⟩)

def isExtended (data : List Byte) : Checked Bool :=
  if 5 ≤ data.length then do
    pure (decide ((← index data 2) &&& 0x03 = ezspExtendedFormat))
  else pure false

def parseEZSP (data : List Byte) : Checked (Except FrameError EZSPFrame) := do
  if ← isExtended data then parseEZSPFrameExtended data else parseEZSPFrame data

def derandomizeData (data : List Byte) : Checked (List Byte) :=
  let sequence := generatePseudoRandomSequence data.length
  (List.range data.length).mapM fun i : Nat => do
    let d ← index data i
    let s ← index sequence i
    pure (d ^^^ s)

/-! ## The controller -/

/-- The message that `EZSP_INCOMING_MESSAGE_HANDLER` carries, with its profile. -/
def incomingMessage (p : List Byte) : Checked (Option (UInt16 × IncomingMessage)) :=
  if p.length < 19 then pure none
  else do
    let profileID ← littleEndianUint16 (← slice p 1 3)
    let clusterID ← littleEndianUint16 (← slice p 3 5)
    let srcEndpoint ← index p 5
    let dstEndpoint ← index p 6
    let lqi ← index p 12
    let sender ← littleEndianUint16 (← slice p 14 16)
    let msgLen := (← index p 18).toNat
    if p.length < 19 + msgLen then pure none
    else do
      let payload ← slice p 19 (19 + msgLen : Nat)
      pure (some (profileID,
        { source := sender
          sourceEndpoint := srcEndpoint
          destinationEndpoint := dstEndpoint
          clusterID := clusterID
          linkQuality := lqi
          data := payload }))

variable (c : Controller) (ready : Bool) (data : List Byte) (raw : List Byte) (frame : EZSPFrame)

def handleCallback (frame : EZSPFrame) : Checked Controller :=
  let p := frame.parameters
  if frame.frameID = incomingMessageHandler then do
    match ← incomingMessage p with
    | none => pure c
    | some (profileID, msg) =>
      match c.waiterFor profileID msg.clusterID with
      | some w => pure (c.offerPayload w msg.data)
      | none => pure (c.offerOutput ready msg)
  else if frame.frameID = trustCenterJoinHandler then
    if p.length < 14 then pure c
    else do
      let networkAddr ← littleEndianUint16 (← slice p 0 2)
      let ieeeAddr ← littleEndianUint64 (← slice p 2 10)
      pure { c with joinEvents := c.joinEvents.trySend ⟨networkAddr, ieeeAddr⟩ }
  else if frame.frameID = stackStatusHandler then
    if 1 ≤ p.length then do
      let status ← index p 0
      pure { c with stackStatusCh := c.stackStatusCh.trySend status }
    else pure c
  else if frame.frameID = 0x009B then
    if 9 ≤ p.length then do
      let _ ← slice p 0 8
      let _ ← index p 8
      pure c
    else pure c
  else pure c

def route (data : List Byte) (frame : EZSPFrame) :
    Checked Controller :=
  if frame.control = ezspResponse then do
    let isAsyncCallback := decide ((← index data 1) &&& 0x10 ≠ 0)
    match c.handlers.lookup frame.sequence with
    | some h =>
      if isAsyncCallback then handleCallback c ready frame
      else pure { c with
        handlers := c.handlers.erase frame.sequence
        results := Function.update c.results h ((c.results h).trySend (some frame)) }
    | none => handleCallback c ready frame
  else handleCallback c ready frame

def acceptData (frame : ASHFrame) : Checked Handled := do
  let c := c.takeNumbers frame
  let ackFrame := buildASHACKFrame c.rxSeq
  let data ← derandomizeData frame.data
  match ← parseEZSP data with
  | .error _ => pure { controller := c, written := [ackFrame] }
  | .ok ezsp => do
      let controller ← route c ready data ezsp
      pure { controller := controller, written := [ackFrame], passed := [ezsp] }

/-- Does the check at the start of the DATA case refuse the frame? -/
def crcMismatch (raw : List Byte) : Checked Bool := do
  let unescapedRaw ← unescapeASHFrame (← slice raw 1 (raw.length - 1))
  if 3 ≤ unescapedRaw.length then do
    let expectedCRC ← bigEndianUint16 (← sliceFrom unescapedRaw (unescapedRaw.length - 2))
    let computedCRC := crcCCITT (← sliceTo unescapedRaw (unescapedRaw.length - 2))
    pure (decide (computedCRC ≠ expectedCRC))
  else pure false

def handleASHFrame (raw : List Byte) : Checked Handled := do
  match ← parseASHFrame raw with
  | .error _ => pure { controller := c }
  | .ok frame =>
    match frame.type with
    | .data => do
        if ← crcMismatch raw then
          pure { controller := c, written := [buildASHNAKFrame c.rxSeq] }
        else acceptData c ready frame
    | .nak =>
      match c.lastFrame with
      | some (control, ezspData) =>
        pure { controller := c, written := [buildASHDataFrame (control ||| 0x08) ezspData] }
      | none => pure { controller := c }
    | .rstack => pure { controller := c.reset }
    | .ack | .rst | .error => pure { controller := c }

def parserStep (p : Parser) (b : Byte) : Checked (Parser × List (List Byte)) :=
  if b = ashFlag then
    if p.currentFrame ≠ [] then
      let frame := p.currentFrame ++ [b]
      pure ({ p with currentFrame := [b] }, if 2 < frame.length then [frame] else [])
    else if p.garbageBuffer ≠ [] then do
      let potential := ashFlag :: (p.garbageBuffer ++ [ashFlag])
      match ← parseASHFrame potential with
      | .ok _ => pure (⟨[b], []⟩, [potential])
      | .error _ => pure (⟨[b], []⟩, [])
    else pure (⟨[b], []⟩, [])
  else if p.currentFrame ≠ [] then
    pure ({ p with currentFrame := p.currentFrame ++ [b] }, [])
  else
    let garbage := p.garbageBuffer ++ [b]
    pure ({ p with garbageBuffer := if 256 < garbage.length then [] else garbage }, [])

def readNodeDescriptor (data : List Byte) : Checked (Except Interview.ZdoError NodeDescriptor) :=
  if data.length < 4 then pure (.error (.nodeDescriptorTooShort data.length))
  else do
    let status ← index data 1
    if status ≠ 0x00 then pure (.error (.nodeDescriptorStatus status))
    else if data.length < 17 then pure (.error (.nodeDescriptorPayload data.length))
    else do
      let nodeDesc ← slice data 4 17
      let logicalType := (← index nodeDesc 0) &&& 0x07
      let macCapFlags ← index nodeDesc 2
      let manufacturerCode ← littleEndianUint16 (← slice nodeDesc 3 5)
      pure (.ok ⟨logicalType, macCapFlags, manufacturerCode⟩)

def readActiveEndpoints (data : List Byte) : Checked (Except Interview.ZdoError (List Byte)) :=
  if data.length < 5 then pure (.error (.activeEndpointsTooShort data.length))
  else do
    let status ← index data 1
    if status ≠ 0x00 then pure (.error (.activeEndpointsStatus status))
    else do
      let count := (← index data 4).toNat
      if data.length < 5 + count then
        pure (.error (.activeEndpointsTruncated (5 + count) data.length))
      else do
        let eps ← slice data 5 (5 + count : Nat)
        pure (.ok eps)

def readClusters (sd : List Byte) (off count : Nat) : Checked (List UInt16) :=
  (List.range count).mapM fun i : Nat => do
    littleEndianUint16 (← slice sd (off + i * 2 : Nat) (off + i * 2 + 2 : Nat))

def readSimpleDescriptor (data : List Byte) : Checked (Except Interview.ZdoError EndpointInfo) :=
  if data.length < 5 then pure (.error (.simpleDescriptorTooShort data.length))
  else do
    let status ← index data 1
    if status ≠ 0x00 then pure (.error (.simpleDescriptorStatus status))
    else if data.length < 6 then pure (.error .simpleDescriptorEmpty)
    else do
      let sd ← sliceFrom data 5
      if sd.length < 8 then pure (.error (.simpleDescriptorBody sd.length))
      else do
        let epID ← index sd 0
        let profileID ← littleEndianUint16 (← slice sd 1 3)
        let deviceID ← littleEndianUint16 (← slice sd 3 5)
        let deviceVer := (← index sd 5) &&& 0x0F
        let inCount := (← index sd 6).toNat
        if sd.length < 7 + inCount * 2 + 1 then pure (.error .inputClustersTruncated)
        else do
          let inputClusters ← readClusters sd 7 inCount
          let off := 7 + inCount * 2
          let outCount := (← index sd off).toNat
          if sd.length < off + 1 + outCount * 2 then pure (.error .outputClustersTruncated)
          else do
            let outputClusters ← readClusters sd (off + 1) outCount
            pure (.ok
              { id := epID.toUInt32
                profileID := profileID.toUInt32
                deviceID := deviceID.toUInt32
                deviceVersion := deviceVer.toUInt32
                inputClusters := inputClusters
                outputClusters := outputClusters })

/-! ## Frames are read within their bounds -/

theorem byte_ok {l : List Byte} {i : Int} (hi : 0 ≤ i) (hlt : i < l.length) :
    index l i = .ok (l.getD i.toNat 0) :=
  index_ok hi hlt 0

theorem unescapeFrom_ok {raw : List Byte} {fuel i : Nat} (hfuel : raw.length ≤ i + fuel)
    (result : List Byte) :
    unescapeFrom raw fuel i result = .ok (result ++ Ember.unescapeASHFrame (raw.drop i)) := by
  have hend : ∀ {i : Nat} (result : List Byte), raw.length ≤ i →
      result ++ Ember.unescapeASHFrame (raw.drop i) = result := by
    intro i result h
    rw [List.drop_of_length_le h]
    exact List.append_nil result
  induction fuel generalizing i result with
  | zero =>
    rw [hend result (by omega)]
    rfl
  | succ _ ih =>
    rw [unescapeFrom]
    by_cases hi : i < raw.length
    · rw [if_pos hi, byte_ok (Int.natCast_nonneg i) (by omega), ok_bind, Int.toNat_natCast,
        drop_eq_getD_cons hi 0]
      by_cases hesc : raw.getD i 0 = ashEsc ∧ i + 1 < raw.length
      · rw [if_pos hesc, byte_ok (Int.natCast_nonneg _) (by omega), ok_bind, Int.toNat_natCast,
          ih (by omega), drop_eq_getD_cons hesc.2 0, hesc.1, List.append_assoc]
        rfl
      · rw [if_neg hesc, ih (by omega), List.append_assoc]
        congr 2
        rcases not_and_or.mp hesc with hplain | hlast
        · exact (ashStuffing.unstuff_plain hplain _).symm
        · rw [List.drop_of_length_le (Nat.not_lt.mp hlast)]
          rfl
    · rw [if_neg hi, hend result (Nat.not_lt.mp hi)]
      rfl

theorem unescapeASHFrame_ok :
    unescapeASHFrame raw = .ok (Ember.unescapeASHFrame raw) := by
  unfold unescapeASHFrame
  split
  · rename_i h
    rw [List.length_eq_zero_iff.mp h]
    rfl
  · rw [unescapeFrom_ok (by omega)]
    rfl

theorem stripLeading_ok :
    stripLeading raw = .ok (if raw.head? = some ashFlag then raw.tail else raw) := by
  cases raw with
  | nil => rfl
  | cons a rest =>
    have hfrom : sliceFrom (a :: rest) 1 = .ok rest :=
      sliceFrom_ok (by omega) (by rw [List.length_cons]; omega)
    have hhead : index (a :: rest) 0 = .ok a := rfl
    rw [stripLeading, if_pos (by simp), hhead, ok_bind, hfrom, List.head?_cons]
    simp only [Option.some.injEq]
    split <;> rfl

theorem stripTrailing_ok :
    stripTrailing raw = .ok (if raw.getLast? = some ashFlag then raw.dropLast else raw) := by
  by_cases hlong : 0 < raw.length
  · have hto : sliceTo raw (raw.length - 1) = .ok raw.dropLast := by
      rw [sliceTo_ok (by omega) (by omega), List.dropLast_eq_take]
      congr 2
      omega
    have hindex : index raw (raw.length - 1) = .ok (raw.getD (raw.length - 1) 0) := by
      rw [index_ok (by omega) (by omega) 0]
      congr 2
      omega
    have hlast : raw.getLast? = some (raw.getD (raw.length - 1) 0) := by
      rw [List.getLast?_eq_getElem?, List.getD_eq_getElem?_getD,
        List.getElem?_eq_getElem (by omega)]
      rfl
    rw [stripTrailing, if_pos hlong, hindex, ok_bind, hto, hlast]
    simp only [Option.some.injEq]
    split <;> rfl
  · obtain rfl : raw = [] := List.length_eq_zero_iff.mp (by omega)
    rfl

theorem stripFlags_eq :
    (stripLeading raw >>= stripTrailing) = .ok (Ember.stripFlags raw) := by
  rw [stripLeading_ok, ok_bind, stripTrailing_ok]
  rfl

theorem bigEndianUint16_ok {b : List Byte} (hb : 2 ≤ b.length) :
    bigEndianUint16 b = .ok (Ember.bigEndianUint16 b) := by
  match b, hb with
  | hi :: lo :: rest, _ => rfl

theorem assemble_data {type : ASHFrameType} (htype : hasData type = false) (control : Byte)
    (data data' : List Byte) (crc : UInt16) :
    assemble type control data crc = assemble type control data' crc := by
  cases type with
  | data | rstack | error => cases htype
  | ack | nak | rst => rfl

theorem trailing_ok {unescaped : List Byte} (h : 2 ≤ unescaped.length) :
    sliceFrom unescaped (unescaped.length - 2) = .ok (unescaped.drop (unescaped.length - 2)) := by
  rw [sliceFrom_ok (by omega) (by omega)]
  congr 2
  omega

theorem frameData_ok (type : ASHFrameType) {unescaped : List Byte}
    (hlong : ¬ unescaped.length < 3) (control : Byte) :
    ∃ data, frameData type unescaped = .ok data ∧ ∀ crc,
      assemble type control data crc = assemble type control ((covered unescaped).drop 1) crc := by
  unfold frameData
  split
  · refine ⟨_, slice_ok (by omega) (by omega) (by omega), fun crc => ?_⟩
    congr 2
    rw [covered]
    congr 1
    omega
  · rename_i h
    refine ⟨[], rfl, fun crc => ?_⟩
    rcases not_and_or.mp h with hnone | hthree
    · exact assemble_data (by simpa using hnone) _ _ _ _
    · have hempty : (covered unescaped).drop 1 = [] := by
        rw [List.drop_eq_nil_iff, covered, List.length_take]
        omega
      rw [hempty]

theorem parseUnescaped_ok (unescaped : List Byte) :
    parseUnescaped unescaped = .ok (Ember.parseUnescaped unescaped) := by
  unfold parseUnescaped
  by_cases hshort : unescaped.length < 3
  · rw [if_pos hshort, Ember.parseUnescaped, if_pos hshort]
    rfl
  have hcontrol : index unescaped 0 = .ok (unescaped.headD 0) := by
    cases unescaped with
    | nil => exact absurd (by decide) hshort
    | cons => rfl
  have hcrc := trailing_ok (by omega : 2 ≤ unescaped.length)
  rw [if_neg hshort, hcontrol, ok_bind]
  cases htype : frameType (unescaped.headD 0) with
  | none =>
    rw [Ember.parseUnescaped, if_neg hshort]
    simp only [htype]
    rfl
  | some type =>
    obtain ⟨data, hframe, hassemble⟩ := frameData_ok type hshort (unescaped.headD 0)
    simp only [hframe, hcrc, ok_bind]
    rw [bigEndianUint16_ok (by rw [List.length_drop]; omega), ok_bind, Ember.parseUnescaped,
      if_neg hshort, hassemble]
    simp only [htype]
    rfl

theorem parseASHFrame_ok :
    parseASHFrame raw = .ok (Ember.parseASHFrame raw) := by
  have hstrip := stripFlags_eq raw
  rw [stripLeading_ok, ok_bind] at hstrip
  rw [parseASHFrame, stripLeading_ok, ok_bind, hstrip, ok_bind, unescapeASHFrame_ok, ok_bind,
    parseUnescaped_ok]
  rfl

theorem parseEZSPFrame_ok :
    parseEZSPFrame data = .ok (Ember.parseEZSPFrame data) := by
  unfold parseEZSPFrame
  match data with
  | [] | [_] | [_, _] => rfl
  | sequence :: control :: frameID :: parameters =>
    have hfrom : sliceFrom (sequence :: control :: frameID :: parameters) 3 = .ok parameters :=
      sliceFrom_ok (by omega) (by simp only [List.length_cons]; omega)
    rw [if_neg (by simp), hfrom]
    rfl

theorem parseEZSPFrameExtended_ok :
    parseEZSPFrameExtended data = .ok (Ember.parseEZSPFrameExtended data) := by
  unfold parseEZSPFrameExtended
  match data with
  | [] | [_] | [_, _] | [_, _, _] | [_, _, _, _] => rfl
  | sequence :: fcLo :: fcHi :: idLo :: idHi :: parameters =>
    have hfrom : sliceFrom (sequence :: fcLo :: fcHi :: idLo :: idHi :: parameters) 5 =
        .ok parameters :=
      sliceFrom_ok (by omega) (by simp only [List.length_cons]; omega)
    rw [if_neg (by simp), hfrom]
    rfl

theorem parseEZSP_ok : parseEZSP data = .ok (Ember.parseEZSP data) := by
  have hextended : isExtended data =
      .ok (decide (5 ≤ data.length ∧ data.getD 2 0 &&& 0x03 = ezspExtendedFormat)) := by
    unfold isExtended
    split
    · rename_i hlong
      rw [byte_ok (by omega) (by omega), ok_bind]
      simp only [hlong, true_and]
      rfl
    · rename_i hshort
      simp only [hshort, false_and]
      rfl
  rw [parseEZSP, hextended, ok_bind]
  simp only [decide_eq_true_eq]
  exact ite_ok (fun _ => parseEZSPFrameExtended_ok data) fun _ => parseEZSPFrame_ok data

theorem derandomizeData_ok :
    derandomizeData data = .ok (Ember.derandomizeData data) := by
  have hlength : (generatePseudoRandomSequence data.length).length = data.length := by
    simp [generatePseudoRandomSequence]
  have hturn : ∀ i ∈ List.range data.length, (do
      let d ← index data (i : Nat)
      let s ← index (generatePseudoRandomSequence data.length) (i : Nat)
      pure (d ^^^ s) : Checked Byte) =
        .ok (data.getD i 0 ^^^ (generatePseudoRandomSequence data.length).getD i 0) := by
    intro i hi
    have hlt : i < data.length := List.mem_range.mp hi
    rw [byte_ok (Int.natCast_nonneg i) (by omega), ok_bind,
      byte_ok (Int.natCast_nonneg i) (by omega)]
    rfl
  rw [derandomizeData, mapM_ok hturn]
  congr 1
  apply List.ext_getElem
  · simp [Ember.derandomizeData]
  · intro i hi hi'
    have hlt : i < data.length := by simpa using hi
    simp [Ember.derandomizeData, randomizeData, hlt, hlength]

/-! ## The controller stays within the bounds -/

theorem littleEndianUint16_part {p : List Byte} {lo hi : Nat} (hlo : lo + 2 = hi)
    (hhi : hi ≤ p.length) : littleEndianUint16 ((p.take hi).drop lo) = .ok (leUint16 p lo) := by
  have hlow : (p.take hi).drop lo = [p.getD lo 0, p.getD (lo + 1) 0] := by
    rw [List.drop_take, drop_eq_getD_cons (by omega) 0, drop_eq_getD_cons (by omega) 0]
    obtain rfl := hlo
    rw [Nat.add_sub_cancel_left]
    rfl
  rw [hlow]
  rfl

theorem word_ok {β : Type} {p : List Byte} {lo hi : Int} (hpos : 0 ≤ lo) (hlo : lo + 2 = hi)
    (hhi : hi ≤ p.length) (goOn : UInt16 → Checked β) :
    (slice p lo hi >>= fun b => littleEndianUint16 b >>= goOn) = goOn (leUint16 p lo.toNat) := by
  rw [slice_ok hpos (by omega) hhi, ok_bind, littleEndianUint16_part (by omega) (by omega), ok_bind]

theorem littleEndianUint64_part {p : List Byte} {lo hi : Nat} (hlo : lo + 8 = hi)
    (hhi : hi ≤ p.length) :
    littleEndianUint64 ((p.take hi).drop lo) = .ok (leUint64 ((p.drop lo).take 8)) := by
  have hpart : (p.take hi).drop lo = (p.drop lo).take 8 := by
    rw [List.drop_take]
    congr 1
    omega
  have hlength : ((p.drop lo).take 8).length = 8 := by
    rw [List.length_take, List.length_drop]
    omega
  rw [hpart, littleEndianUint64, byte_ok (by omega) (by omega), ok_bind, List.take_take]
  rfl

theorem counted_ok {p : List Byte} {lo count : Nat} (h : lo + count ≤ p.length) :
    slice p lo (lo + count : Nat) = .ok ((p.drop lo).take count) := by
  rw [slice_ok (by omega) (by omega) (by omega), Int.toNat_natCast, Int.toNat_natCast,
    List.drop_take, Nat.add_sub_cancel_left]

theorem incomingMessage_ok (p : List Byte) :
    incomingMessage p = .ok (Ember.incomingMessage p) := by
  refine ite_ok (fun _ => rfl) fun hshort => ?_
  simp (disch := omega) only [word_ok, byte_ok, ok_bind, Int.reduceToNat]
  refine ite_ok (fun _ => rfl) fun htruncated => ?_
  exact congrArg (· >>= _) (@counted_ok p 19 _ (by omega))

theorem handleCallback_ok :
    handleCallback c ready frame = .ok (c.handleCallback ready frame) := by
  unfold handleCallback Controller.handleCallback
  dsimp only
  split
  · rw [incomingMessage_ok, ok_bind]
    cases Ember.incomingMessage frame.parameters with
    | none => rfl
    | some message =>
      obtain ⟨profileID, msg⟩ := message
      dsimp only
      cases c.waiterFor profileID msg.clusterID <;> rfl
  split
  · split
    · rfl
    · have hieee : slice frame.parameters 2 10 = .ok ((frame.parameters.take 10).drop 2) :=
        slice_ok (by omega) (by omega) (by omega)
      simp (disch := omega) only [word_ok, hieee, ok_bind]
      rw [littleEndianUint64_part rfl (by omega)]
      rfl
  split
  · cases hp : frame.parameters with
    | nil | cons => rfl
  split
  · split
    · rw [slice_ok (by omega) (by omega) (by omega), ok_bind, byte_ok (by omega) (by omega)]
      rfl
    · rfl
  · rfl

theorem route_ok {data : List Byte} {frame : EZSPFrame} (hdata : Ember.parseEZSP data = .ok frame) :
    route c ready data frame = .ok (c.route ready data frame) := by
  have hlong : 1 < data.length := by
    match data, hdata with
    | [], h | [_], h => cases h
    | _ :: _ :: _, _ => simp
  unfold route Controller.route
  split
  · simp (disch := omega) only [byte_ok, ok_bind, Int.reduceToNat]
    cases c.handlers.lookup frame.sequence with
    | none => exact handleCallback_ok c ready frame
    | some =>
      simp only [decide_eq_true_eq]
      split
      · exact handleCallback_ok c ready frame
      · rfl
  · exact handleCallback_ok c ready frame

theorem acceptData_ok (frame : ASHFrame) :
    acceptData c ready frame = .ok (c.acceptData ready frame) := by
  rw [acceptData, derandomizeData_ok, ok_bind, parseEZSP_ok, ok_bind, Controller.acceptData]
  cases hdata : Ember.parseEZSP (Ember.derandomizeData frame.data) with
  | error => rfl
  | ok =>
    dsimp only
    rw [route_ok _ ready hdata]
    rfl

theorem crcMismatch_ok {raw : List Byte} (hlong : 2 ≤ raw.length) :
    crcMismatch raw = .ok (Ember.crcMismatch raw) := by
  have hbody : slice raw 1 (raw.length - 1) = .ok raw.tail.dropLast := by
    rw [slice_ok (by omega) (by omega) (by omega), List.dropLast_eq_take, List.length_tail,
      ← List.drop_one, List.drop_take]
    congr 2
    have hone : Int.toNat 1 = 1 := rfl
    omega
  rw [crcMismatch, hbody, ok_bind, unescapeASHFrame_ok, ok_bind, Ember.crcMismatch]
  generalize Ember.unescapeASHFrame raw.tail.dropLast = unescaped
  dsimp only
  split
  · rename_i hthree
    have hcrc := trailing_ok (by omega : 2 ≤ unescaped.length)
    have hcovered : sliceTo unescaped (unescaped.length - 2) = .ok (covered unescaped) := by
      rw [sliceTo_ok (by omega) (by omega), covered]
      congr 2
      omega
    rw [hcrc, ok_bind, bigEndianUint16_ok (by rw [List.length_drop]; omega), ok_bind, hcovered,
      ok_bind]
    simp only [hthree, decide_true, Bool.true_and]
    rfl
  · rename_i hshort
    simp only [hshort, decide_false, Bool.false_and]
    rfl

theorem two_le_length {raw : List Byte} {frame : ASHFrame}
    (h : Ember.parseASHFrame raw = .ok frame) : 2 ≤ raw.length := by
  match raw, h with
  | [], h => cases h
  | [b], h =>
    have hshort : (Ember.unescapeASHFrame (Ember.stripFlags [b])).length < 3 := by
      by_cases hb : b = ashFlag <;>
        simp [Ember.stripFlags, hb, Ember.unescapeASHFrame, Stuffing.unstuff]
    rw [Ember.parseASHFrame, Ember.parseUnescaped, if_pos hshort] at h
    cases h
  | _ :: _ :: _, _ => simp

theorem handleASHFrame_ok :
    handleASHFrame c ready raw = .ok (c.handleASHFrame ready raw) := by
  rw [handleASHFrame, parseASHFrame_ok, ok_bind, Controller.handleASHFrame]
  cases hparse : Ember.parseASHFrame raw with
  | error => rfl
  | ok frame =>
    dsimp only
    cases frame.type with
    | data =>
      dsimp only
      rw [crcMismatch_ok (two_le_length hparse), ok_bind]
      split
      · rfl
      · exact acceptData_ok c ready frame
    | nak =>
      dsimp only
      cases c.lastFrame <;> rfl
    | ack | rst | rstack | error => rfl

theorem parserStep_ok (p : Parser) (b : Byte) : parserStep p b = .ok (p.step b) := by
  unfold parserStep Parser.step
  split
  · split
    · rfl
    · split
      · rename_i hgarbage
        dsimp only
        rw [parseASHFrame_ok, ok_bind]
        simp only [hgarbage, ne_eq, not_false_eq_true, true_and, parses]
        cases Ember.parseASHFrame (ashFlag :: (p.garbageBuffer ++ [ashFlag])) <;> rfl
      · rename_i hgarbage
        simp only [not_not.mp hgarbage]
        rfl
  · split <;> rfl

theorem readNodeDescriptor_ok :
    readNodeDescriptor data = .ok (Interview.readNodeDescriptor data) := by
  refine ite_ok (fun _ => rfl) fun hshort => ?_
  simp (disch := omega) only [byte_ok, ok_bind, Int.reduceToNat]
  refine ite_ok (fun _ => rfl) fun _ => ite_ok (fun _ => rfl) fun hlong => ?_
  have hdesc : slice data 4 17 = .ok ((data.drop 4).take 13) := @counted_ok data 4 13 (by omega)
  have hlength : ((data.drop 4).take 13).length = 13 := by
    rw [List.length_take, List.length_drop]
    omega
  rw [hdesc, ok_bind]
  simp (disch := omega) only [word_ok, byte_ok, ok_bind, Int.reduceToNat]
  rfl

theorem readActiveEndpoints_ok :
    readActiveEndpoints data = .ok (Interview.readActiveEndpoints data) := by
  refine ite_ok (fun _ => rfl) fun hshort => ?_
  simp (disch := omega) only [byte_ok, ok_bind, Int.reduceToNat]
  refine ite_ok (fun _ => rfl) fun _ => ite_ok (fun _ => rfl) fun hcount => ?_
  exact congrArg (· >>= _) (@counted_ok data 5 _ (by omega))

theorem readClusters_ok {sd : List Byte} {off count : Nat} (h : off + count * 2 ≤ sd.length) :
    readClusters sd off count = .ok (Interview.readClusters sd off count) := by
  have hturn : ∀ i ∈ List.range count, (do
      littleEndianUint16 (← slice sd (off + i * 2 : Nat) (off + i * 2 + 2 : Nat)) :
        Checked UInt16) = .ok (leUint16 sd (off + i * 2)) := by
    intro i hi
    have hlt : i < count := List.mem_range.mp hi
    rw [slice_ok (by omega) (by omega) (by omega), ok_bind, Int.toNat_natCast, Int.toNat_natCast,
      littleEndianUint16_part rfl (by omega)]
  rw [readClusters, mapM_ok hturn]
  rfl

theorem readSimpleDescriptor_ok :
    readSimpleDescriptor data = .ok (Interview.readSimpleDescriptor data) := by
  refine ite_ok (fun _ => rfl) fun hshort => ?_
  simp (disch := omega) only [byte_ok, ok_bind, Int.reduceToNat]
  refine ite_ok (fun _ => rfl) fun _ => ite_ok (fun _ => rfl) fun hempty => ?_
  simp (disch := omega) only [sliceFrom_ok, ok_bind, Int.reduceToNat]
  generalize data.drop 5 = sd
  refine ite_ok (fun _ => rfl) fun hbody => ?_
  simp (disch := omega) only [word_ok, byte_ok, ok_bind, Int.reduceToNat]
  refine ite_ok (fun _ => rfl) fun hinputs => ?_
  rw [readClusters_ok (by omega), ok_bind, Int.toNat_natCast]
  refine ite_ok (fun _ => rfl) fun houtputs => ?_
  rw [readClusters_ok (by omega)]
  rfl

/-! ## What is forwarded -/

/-- The payload is what the length byte in front of it announces. -/
def Announced (p data : List Byte) : Prop :=
  ∃ len rest, p.drop 18 = len :: (data ++ rest) ∧ data.length = len.toNat

theorem incomingMessage_announced {p : List Byte} {profileID : UInt16} {msg : IncomingMessage}
    (h : Ember.incomingMessage p = some (profileID, msg)) : Announced p msg.data := by
  unfold Ember.incomingMessage at h
  split at h
  · cases h
  dsimp only at h
  split at h
  · cases h
  · cases h
    refine ⟨p.getD 18 0, (p.drop 19).drop (p.getD 18 0).toNat, ?_, ?_⟩
    · rw [List.take_append_drop]
      exact drop_eq_getD_cons (by omega) 0
    · rw [List.length_take, List.length_drop]
      omega

/-- What the output channel and the waiters got more than before was announced by a frame. -/
structure Forwards (c c' : Controller) (frames : List EZSPFrame) : Prop where
  output : ∃ sent, c'.output = c.output ++ sent ∧ ∀ msg ∈ sent, ∃ frame ∈ frames,
    frame.frameID = incomingMessageHandler ∧ Announced frame.parameters msg.data
  payloads : ∀ w data, data ∈ (c'.payloads w).buffer → data ∈ (c.payloads w).buffer ∨
    ∃ frame ∈ frames, frame.frameID = incomingMessageHandler ∧ Announced frame.parameters data

theorem Forwards.of_eq {c c' : Controller} (houtput : c'.output = c.output)
    (hpayloads : c'.payloads = c.payloads) (frames : List EZSPFrame) : Forwards c c' frames := by
  refine ⟨⟨[], by rw [houtput, List.append_nil], by simp⟩, fun w data hdata => Or.inl ?_⟩
  rw [← hpayloads]
  exact hdata

theorem Forwards.trans {c c' c'' : Controller} {first second : List EZSPFrame}
    (h : Forwards c c' first) (h' : Forwards c' c'' second) : Forwards c c'' (first ++ second) := by
  obtain ⟨sent, hsent, hfirst⟩ := h.output
  obtain ⟨sent', hsent', hsecond⟩ := h'.output
  refine ⟨⟨sent ++ sent', by rw [hsent', hsent, List.append_assoc], ?_⟩, ?_⟩
  · intro msg hmsg
    rcases List.mem_append.mp hmsg with hmem | hmem
    · obtain ⟨frame, hframe, hannounced⟩ := hfirst msg hmem
      exact ⟨frame, List.mem_append_left _ hframe, hannounced⟩
    · obtain ⟨frame, hframe, hannounced⟩ := hsecond msg hmem
      exact ⟨frame, List.mem_append_right _ hframe, hannounced⟩
  · intro w data hdata
    rcases h'.payloads w data hdata with hbefore | ⟨frame, hframe, hannounced⟩
    · rcases h.payloads w data hbefore with hbefore | ⟨frame, hframe, hannounced⟩
      · exact Or.inl hbefore
      · exact Or.inr ⟨frame, List.mem_append_left _ hframe, hannounced⟩
    · exact Or.inr ⟨frame, List.mem_append_right _ hframe, hannounced⟩

theorem handleCallback_forwards :
    Forwards c (c.handleCallback ready frame) [frame] := by
  unfold Controller.handleCallback
  split
  · rename_i hid
    split
    · exact Forwards.of_eq (by rfl) (by rfl) _
    · rename_i profileID msg hmsg
      have hannounced := incomingMessage_announced hmsg
      split
      · rename_i w hw
        refine ⟨⟨[], (List.append_nil _).symm, by simp⟩, fun w' data hdata => ?_⟩
        dsimp only [Controller.offerPayload] at hdata
        by_cases hw' : w' = w
        · subst hw'
          rw [Function.update_self] at hdata
          rcases Chan.mem_buffer_trySend hdata with hbefore | rfl
          · exact Or.inl hbefore
          · exact Or.inr ⟨frame, List.mem_cons_self, hid, hannounced⟩
        · rw [Function.update_of_ne hw'] at hdata
          exact Or.inl hdata
      · unfold Controller.offerOutput
        split
        · refine ⟨⟨[msg], rfl, ?_⟩, fun w data hdata => Or.inl hdata⟩
          intro m hm
          obtain rfl := List.mem_singleton.mp hm
          exact ⟨frame, List.mem_cons_self, hid, hannounced⟩
        · exact Forwards.of_eq (by rfl) (by rfl) _
  split
  · split <;> exact Forwards.of_eq (by rfl) (by rfl) _
  split
  · split <;> exact Forwards.of_eq (by rfl) (by rfl) _
  · exact Forwards.of_eq (by rfl) (by rfl) _

theorem route_forwards :
    Forwards c (c.route ready data frame) [frame] := by
  unfold Controller.route
  split
  · dsimp only
    split
    · split
      · exact handleCallback_forwards c ready frame
      · exact Forwards.of_eq (by rfl) (by rfl) _
    · exact handleCallback_forwards c ready frame
  · exact handleCallback_forwards c ready frame

theorem acceptData_forwards (frame : ASHFrame) :
    Forwards c (c.acceptData ready frame).controller (c.acceptData ready frame).passed := by
  have htake : Forwards c (c.takeNumbers frame) [] := Forwards.of_eq (by rfl) (by rfl) _
  unfold Controller.acceptData
  dsimp only
  split
  · exact htake
  · exact htake.trans (route_forwards _ ready _ _)

theorem handled_forwards :
    Forwards c (c.handleASHFrame ready raw).controller (c.handleASHFrame ready raw).passed := by
  unfold Controller.handleASHFrame
  split
  · exact Forwards.of_eq (by rfl) (by rfl) _
  · split
    · split
      · exact Forwards.of_eq (by rfl) (by rfl) _
      · exact acceptData_forwards c ready _
    · split <;> exact Forwards.of_eq (by rfl) (by rfl) _
    all_goals exact Forwards.of_eq (by rfl) (by rfl) _

/-! ## Byte streams -/

/-- The parser and the controller behind it. -/
structure Receiver where
  parser : Parser := {}
  controller : Controller
  passed : List EZSPFrame := []

def Receiver.take (r : Receiver) (raw : List Byte) : Receiver :=
  { r with
    controller := (r.controller.handleASHFrame ready raw).controller
    passed := r.passed ++ (r.controller.handleASHFrame ready raw).passed }

def Receiver.step (r : Receiver) (x : Byte × Bool) : Receiver :=
  (r.parser.step x.1).2.foldl (Receiver.take x.2) { r with parser := (r.parser.step x.1).1 }

def take (r : Receiver) (raw : List Byte) : Checked Receiver := do
  let handled ← handleASHFrame r.controller ready raw
  pure { r with controller := handled.controller, passed := r.passed ++ handled.passed }

def receive (r : Receiver) (x : Byte × Bool) : Checked Receiver := do
  let (parser, frames) ← parserStep r.parser x.1
  frames.foldlM (take x.2) { r with parser := parser }

theorem receive_ok (r : Receiver) (x : Byte × Bool) : receive r x = .ok (r.step x) := by
  have htake : ∀ (s : Receiver) (raw : List Byte), take x.2 s raw = .ok (s.take x.2 raw) := by
    intro s raw
    rw [take, handleASHFrame_ok]
    rfl
  rw [receive, parserStep_ok, ok_bind]
  exact foldlM_ok htake _ _

theorem Receiver.take_forwards {c : Controller} {r : Receiver}
    (h : Forwards c r.controller r.passed) (ready : Bool) (raw : List Byte) :
    Forwards c (r.take ready raw).controller (r.take ready raw).passed :=
  h.trans (handled_forwards r.controller ready raw)

theorem Receiver.step_forwards {c : Controller} {r : Receiver}
    (h : Forwards c r.controller r.passed) (x : Byte × Bool) :
    Forwards c (r.step x).controller (r.step x).passed := by
  have htake : ∀ (s : Receiver) (raw : List Byte), Forwards c s.controller s.passed →
      Forwards c (s.take x.2 raw).controller (s.take x.2 raw).passed :=
    fun s raw hs => Receiver.take_forwards hs x.2 raw
  have hopened : Forwards c { r with parser := (r.parser.step x.1).1 }.controller
      { r with parser := (r.parser.step x.1).1 }.passed := h
  exact run_invariant htake hopened (r.parser.step x.1).2

/-- **The receive path is total.**  Whatever bytes come, no index or slice expression is outside
its data; the output channel and the waiters get payloads of the announced length; and the
decoders of the interview read any payload. -/
theorem receive_total (c : Controller) (stream : List (Byte × Bool)) :
    (∃ r, stream.foldlM receive { controller := c } = .ok r ∧ Forwards c r.controller r.passed) ∧
      ∀ data, (∃ d, readNodeDescriptor data = .ok d) ∧ (∃ l, readActiveEndpoints data = .ok l) ∧
        ∃ d, readSimpleDescriptor data = .ok d := by
  refine ⟨⟨_, foldlM_ok receive_ok stream _, ?_⟩, fun data => ⟨?_, ?_, ?_⟩⟩
  · have hstep : ∀ (r : Receiver) (x : Byte × Bool), Forwards c r.controller r.passed →
        Forwards c (r.step x).controller (r.step x).passed :=
      fun r x hr => Receiver.step_forwards hr x
    have hstart : Forwards c (Receiver.mk {} c []).controller (Receiver.mk {} c []).passed :=
      Forwards.of_eq (by rfl) (by rfl) _
    exact run_invariant hstep hstart stream
  · exact ⟨_, readNodeDescriptor_ok data⟩
  · exact ⟨_, readActiveEndpoints_ok data⟩
  · exact ⟨_, readSimpleDescriptor_ok data⟩

end IotController.Ember.Bounds
