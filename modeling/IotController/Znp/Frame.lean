/-
  The frames of the serial line
  (`pkg/zigbee-dongle/znp/frame.go`, and of `port.go` the functions
  `chunkReaderAndParser`, `parseFramesFromBuffer` and `parseFrameFromBytes`).

  What is read from the port is added to a buffer, from which frames are taken as long as
  there are complete ones.  Bytes before a start-of-frame byte are garbage; a length that
  cannot be and a wrong checksum cost one byte, and the search goes on behind it.

  The port is open all the time: `p.done` ends the loop and is not modelled.
-/
import Mathlib.Data.List.DropRight
import Mathlib.Data.List.GetD
import IotController.Foundation.Bytes
import IotController.Foundation.Incremental
import IotController.Foundation.Slice

namespace IotController.Znp

open Foundation

/-! ## Frames -/

/-- A frame on the line to a ZNP. -/
structure Frame where
  type : Byte
  subsystem : Byte
  id : Byte
  data : List Byte
  deriving DecidableEq, Repr

def frameMaxDataLength : Nat := 250

def sof : Byte := 0xFE

def calculateFCS (buffer : List Byte) : Byte := buffer.foldl (fun fcs value => fcs ^^^ value) 0

def Frame.covered (frame : Frame) : List Byte :=
  UInt8.ofNat frame.data.length :: ((frame.type <<< 5) ||| frame.subsystem) :: frame.id :: frame.data

def Frame.bytes (frame : Frame) : List Byte :=
  sof :: frame.covered ++ [calculateFCS frame.covered]

def writeFrame (frame : Frame) : Checked (List Byte) :=
  if frameMaxDataLength < frame.data.length then .error (.raised "frame too large")
  else .ok frame.bytes

/-- The errors of the parser. -/
inductive FrameError where
  | invalidFrame
  | lengthMismatch (expected got : Nat)
  deriving DecidableEq, Repr

def FrameError.message : FrameError → String
  | .invalidFrame => "invalid frame"
  | .lengthMismatch expected got =>
    "frame length mismatch: expected " ++ toString expected ++ ", got " ++ toString got

def parseFrameFromBytes (data : List Byte) : Except FrameError Frame :=
  if data.length < 5 then .error .invalidFrame
  else if data.getD 0 0 ≠ sof then .error .invalidFrame
  else
    let length := (data.getD 1 0).toNat
    let expectedLength := 1 + 1 + 2 + length + 1
    if data.length ≠ expectedLength then .error (.lengthMismatch expectedLength data.length)
    else
      let fcsBuffer := data.getD 1 0 :: (data.take (2 + 2 + length)).drop 2
      let fcs := data.getD (data.length - 1) 0
      if fcs ≠ calculateFCS fcsBuffer then .error .invalidFrame
      else
        let cmd0 := data.getD 2 0
        let cmd1 := data.getD 3 0
        .ok ⟨cmd0 >>> 5, cmd0 &&& 0x1F, cmd1, (data.take (4 + length)).drop 4⟩

/-! ## The loop -/

def frameTurn (buffer : List Byte) : Turn Byte Frame :=
  if buffer.length < 5 then .wait buffer
  else
    let dataLength := (buffer.getD 1 0).toNat
    if frameMaxDataLength < dataLength then .goOn [] (buffer.drop 1)
    else
      let frameLength := 4 + dataLength + 1
      if frameLength ≤ buffer.length then
        match parseFrameFromBytes (buffer.take frameLength) with
        | .ok frame => .goOn [frame] (buffer.drop frameLength)
        | .error _ => .goOn [] (buffer.drop 1)
      else .wait buffer

/-- One turn of the loop: garbage before the first `SOF` is skipped. -/
def turn (buffer : List Byte) : Turn Byte Frame :=
  match buffer.dropWhile (· != sof) with
  | [] => .wait buffer
  | first :: rest => frameTurn (first :: rest)

/-- What a turn can do, and that more data does not change it. -/
theorem frameTurn_cases (buffer : List Byte) :
    frameTurn buffer = .wait buffer ∨
      ∃ out n, 0 < n ∧ n ≤ buffer.length ∧
        ∀ more, frameTurn (buffer ++ more) = .goOn out ((buffer ++ more).drop n) := by
  by_cases hshort : buffer.length < 5
  · exact Or.inl (if_pos hshort)
  -- the length byte is there, and stays the same
  have hlong (more : List Byte) : ¬ (buffer ++ more).length < 5 := by
    rw [List.length_append]
    omega
  have hbyte (more : List Byte) : (buffer ++ more).getD 1 0 = buffer.getD 1 0 :=
    List.getD_append buffer more 0 1 (by omega)
  by_cases hinvalid : frameMaxDataLength < (buffer.getD 1 0).toNat
  · refine Or.inr ⟨[], 1, Nat.one_pos, by omega, fun more => ?_⟩
    rw [frameTurn, if_neg (hlong more), hbyte, if_pos hinvalid]
  by_cases hcomplete : 4 + (buffer.getD 1 0).toNat + 1 ≤ buffer.length
  · have hall (more : List Byte) :
        4 + (buffer.getD 1 0).toNat + 1 ≤ (buffer ++ more).length := by
      rw [List.length_append]
      omega
    have hframe (more : List Byte) : (buffer ++ more).take (4 + (buffer.getD 1 0).toNat + 1) =
        buffer.take (4 + (buffer.getD 1 0).toNat + 1) :=
      List.take_append_of_le_length hcomplete
    cases hparse : parseFrameFromBytes (buffer.take (4 + (buffer.getD 1 0).toNat + 1)) with
    | ok frame =>
      refine Or.inr ⟨[frame], 4 + (buffer.getD 1 0).toNat + 1, by omega, hcomplete, fun more => ?_⟩
      rw [frameTurn, if_neg (hlong more), hbyte, if_neg hinvalid, if_pos (hall more),
        hframe more, hparse]
    | error =>
      refine Or.inr ⟨[], 1, Nat.one_pos, by omega, fun more => ?_⟩
      rw [frameTurn, if_neg (hlong more), hbyte, if_neg hinvalid, if_pos (hall more),
        hframe more, hparse]
  · refine Or.inl ?_
    rw [frameTurn, if_neg hshort, if_neg hinvalid, if_neg hcomplete]

theorem turn_eq {buffer start : List Byte} (h : buffer.dropWhile (· != sof) = start)
    (hne : start ≠ []) (more : List Byte) : turn (buffer ++ more) = frameTurn (start ++ more) := by
  have hskipped : (buffer ++ more).dropWhile (· != sof) = start ++ more := by
    rw [List.dropWhile_append, h, if_neg (by simpa using hne)]
  obtain ⟨first, rest, rfl⟩ := List.exists_cons_of_ne_nil hne
  rw [turn, hskipped]
  rfl

theorem turn_goOn {buffer rest : List Byte} {out : List Frame} (h : turn buffer = .goOn out rest) :
    ∃ start, buffer.dropWhile (· != sof) = start ∧ start ≠ [] ∧
      ∃ n, 0 < n ∧ n ≤ start.length ∧ rest = start.drop n ∧
        ∀ more, frameTurn (start ++ more) = .goOn out ((start ++ more).drop n) := by
  cases hstart : buffer.dropWhile (· != sof) with
  | nil =>
    rw [turn, hstart] at h
    cases h
  | cons first others =>
    have hturn := turn_eq hstart (List.cons_ne_nil first others) []
    rw [List.append_nil, List.append_nil, h] at hturn
    refine ⟨first :: others, rfl, List.cons_ne_nil first others, ?_⟩
    rcases frameTurn_cases (first :: others) with hwait | ⟨out', n, hpos, hle, hgoOn⟩
    · rw [hwait] at hturn
      cases hturn
    · have hgo := hgoOn []
      rw [List.append_nil, ← hturn] at hgo
      obtain ⟨rfl, rfl⟩ := Turn.goOn.inj hgo
      exact ⟨n, hpos, hle, rfl, hgoOn⟩

theorem turn_wait {buffer kept : List Byte} (h : turn buffer = .wait kept) :
    kept = buffer ∨ buffer.dropWhile (· != sof) = kept ∧ kept ≠ [] := by
  cases hstart : buffer.dropWhile (· != sof) with
  | nil =>
    rw [turn, hstart] at h
    exact Or.inl (Turn.wait.inj h).symm
  | cons first others =>
    have hturn := turn_eq hstart (List.cons_ne_nil first others) []
    rw [List.append_nil, List.append_nil, h] at hturn
    rcases frameTurn_cases (first :: others) with hwait | ⟨out, n, -, -, hgoOn⟩
    · rw [hwait] at hturn
      obtain rfl := Turn.wait.inj hturn
      exact Or.inr ⟨rfl, List.cons_ne_nil first others⟩
    · have hgo := hgoOn []
      rw [List.append_nil, ← hturn] at hgo
      cases hgo

def scanner : Scanner Byte Frame where
  turn := turn
  shrinks := by
    intro buffer out rest h
    obtain ⟨start, hstart, hne, n, hpos, hle, rfl, -⟩ := turn_goOn h
    have hlength : start.length ≤ buffer.length := hstart ▸ (List.dropWhile_suffix _).length_le
    rw [List.length_drop]
    omega
  goOn_append := by
    intro buffer out rest h more
    obtain ⟨start, hstart, hne, n, hpos, hle, rfl, hgoOn⟩ := turn_goOn h
    rw [turn_eq hstart hne, hgoOn, List.drop_append_of_le_length hle]
  wait_append := by
    intro buffer kept h more
    rcases turn_wait h with rfl | ⟨hkept, hne⟩
    · rfl
    · have hagain : kept.dropWhile (· != sof) = kept := by
        rw [← hkept, List.dropWhile_idempotent]
      rw [turn_eq hagain hne, turn_eq hkept hne]
  turn_nil := rfl

def parseFramesFromBuffer (buffer : List Byte) : List Frame × List Byte := scanner.drain buffer

def readChunk (state : List Frame × List Byte) (chunk : List Byte) : List Frame × List Byte :=
  if chunk.length = 0 then state
  else
    let parsed := parseFramesFromBuffer (state.2 ++ chunk)
    (state.1 ++ parsed.1, parsed.2)

def chunkReaderAndParser (chunks : List (List Byte)) : List Frame × List Byte :=
  chunks.foldl readChunk ([], [])

theorem readChunk_drain (buffer chunk : List Byte) :
    readChunk (scanner.drain buffer) chunk = scanner.feed (scanner.drain buffer) chunk := by
  unfold readChunk
  split_ifs with hempty
  · rw [scanner.feed_drain, List.length_eq_zero_iff.mp hempty, List.append_nil]
  · rfl

theorem chunkReaderAndParser_eq (chunks : List (List Byte)) :
    chunkReaderAndParser chunks = parseFramesFromBuffer chunks.flatten := by
  have hstart : scanner.drain [] = ([], []) := scanner.drain_wait scanner.turn_nil
  rw [chunkReaderAndParser, ← hstart]
  exact scanner.foldl_eq_drain readChunk_drain [] chunks

/-! ## Frames that were written -/

/-- It fits its header and the length byte. -/
structure Frame.WellFormed (frame : Frame) : Prop where
  type : frame.type < 8
  subsystem : frame.subsystem < 32
  data : frame.data.length ≤ frameMaxDataLength

theorem command_parts {type subsystem : Byte} (htype : type < 8) (hsubsystem : subsystem < 32) :
    ((type <<< 5) ||| subsystem) >>> 5 = type ∧ ((type <<< 5) ||| subsystem) &&& 0x1F = subsystem := by
  have hall : ∀ t : Fin 8, ∀ s : Fin 32,
      ((UInt8.ofNat t <<< 5) ||| UInt8.ofNat s) >>> 5 = UInt8.ofNat t ∧
        ((UInt8.ofNat t <<< 5) ||| UInt8.ofNat s) &&& 0x1F = UInt8.ofNat s := by
    decide +kernel
  simpa using hall ⟨type.toNat, htype⟩ ⟨subsystem.toNat, hsubsystem⟩

theorem length_bytes (frame : Frame) : frame.bytes.length = 4 + frame.data.length + 1 := by
  simp [Frame.bytes, Frame.covered]
  omega

theorem lengthByte_toNat {frame : Frame} (h : frame.WellFormed) :
    (UInt8.ofNat frame.data.length).toNat = frame.data.length := by
  have hdata : frame.data.length ≤ 250 := h.data
  rw [UInt8.toNat_ofNat']
  omega

theorem parseFrameFromBytes_bytes {frame : Frame} (h : frame.WellFormed) :
    parseFrameFromBytes frame.bytes = .ok frame := by
  obtain ⟨htype, hsubsystem⟩ := command_parts h.type h.subsystem
  have hlong : ¬ frame.bytes.length < 5 := by
    rw [length_bytes]
    omega
  have hcount : (frame.bytes.getD 1 0).toNat = frame.data.length := lengthByte_toNat h
  have hlength : frame.bytes.length = 1 + 1 + 2 + frame.data.length + 1 := length_bytes frame
  -- behind the four bytes of the header come the data and the checksum
  have hbytes : frame.bytes = [sof, UInt8.ofNat frame.data.length,
      (frame.type <<< 5) ||| frame.subsystem, frame.id] ++
        (frame.data ++ [calculateFCS frame.covered]) := rfl
  have htail : frame.bytes.take (4 + frame.data.length) = [sof, UInt8.ofNat frame.data.length,
      (frame.type <<< 5) ||| frame.subsystem, frame.id] ++ frame.data := by
    rw [hbytes, ← List.append_assoc, List.take_left' (by simp; omega)]
  have hfcs : frame.bytes.getD (frame.bytes.length - 1) 0 = calculateFCS frame.covered := by
    have hlast : frame.bytes.getLast? = some (calculateFCS frame.covered) := by
      rw [hbytes, ← List.append_assoc, List.getLast?_concat]
    rw [List.getD_eq_getElem?_getD, ← List.getLast?_eq_getElem?, hlast, Option.getD_some]
  have hsof : ¬ frame.bytes.getD 0 0 ≠ sof := not_not.mpr rfl
  have hcommand : frame.bytes.getD 2 0 = (frame.type <<< 5) ||| frame.subsystem := rfl
  have hchecked : ¬ calculateFCS frame.covered ≠ calculateFCS (frame.bytes.getD 1 0 ::
      ([sof, UInt8.ofNat frame.data.length, (frame.type <<< 5) ||| frame.subsystem, frame.id] ++
        frame.data).drop 2) := not_not.mpr rfl
  rw [parseFrameFromBytes, if_neg hlong, if_neg hsof]
  dsimp only
  rw [hcount, if_neg (not_not.mpr hlength), htail, hfcs, if_neg hchecked]
  rw [hcommand, htype, hsubsystem]
  rfl

theorem turn_bytes {frame : Frame} (h : frame.WellFormed) (rest : List Byte) :
    turn (frame.bytes ++ rest) = .goOn [frame] rest := by
  have hcount : ((frame.bytes ++ rest).getD 1 0).toNat = frame.data.length := lengthByte_toNat h
  have hlength := length_bytes frame
  have hstart : turn (frame.bytes ++ rest) = frameTurn (frame.bytes ++ rest) := by
    rfl
  have hlong : ¬ (frame.bytes ++ rest).length < 5 := by
    rw [List.length_append, hlength]
    omega
  have hcomplete : 4 + frame.data.length + 1 ≤ (frame.bytes ++ rest).length := by
    rw [List.length_append, hlength]
    omega
  rw [hstart, frameTurn, if_neg hlong, hcount, if_neg (Nat.not_lt.mpr h.data), if_pos hcomplete,
    List.take_left' hlength, parseFrameFromBytes_bytes h, List.drop_left' hlength]

theorem drain_bytes {frames : List Frame} (h : ∀ frame ∈ frames, frame.WellFormed) :
    scanner.drain (frames.flatMap Frame.bytes) = (frames, []) := by
  induction frames with
  | nil => exact scanner.drain_wait scanner.turn_nil
  | cons frame frames ih =>
    have hturn : scanner.turn (frame.bytes ++ frames.flatMap Frame.bytes) =
        .goOn [frame] (frames.flatMap Frame.bytes) :=
      turn_bytes (h frame List.mem_cons_self) _
    rw [List.flatMap_cons, scanner.drain_goOn hturn, ih fun f hf => h f (List.mem_cons_of_mem _ hf)]
    rfl

theorem writeFrame_ok {frame : Frame} (h : frame.data.length ≤ frameMaxDataLength) :
    writeFrame frame = .ok frame.bytes :=
  if_neg (Nat.not_lt.mpr h)

/-- **Frames survive the line.**  Frames that fit are read back in order, with nothing left; and
whatever bytes arrive, the pieces do not matter. -/
theorem stream_roundTrip_chunks :
    (∀ frames : List Frame, (∀ frame ∈ frames, frame.WellFormed) →
      ∃ encoded, frames.mapM writeFrame = .ok encoded ∧
        parseFramesFromBuffer encoded.flatten = (frames, [])) ∧
    (∀ (stream : List Byte) (chunks : List (List Byte)), chunks.flatten = stream →
      chunkReaderAndParser chunks = parseFramesFromBuffer stream) := by
  constructor
  · intro frames h
    have hwritten : frames.mapM writeFrame = .ok (frames.map Frame.bytes) :=
      mapM_ok fun frame hframe => writeFrame_ok (h frame hframe).data
    refine ⟨frames.map Frame.bytes, hwritten, ?_⟩
    rw [← List.flatMap_def]
    exact drain_bytes h
  · rintro stream chunks rfl
    exact chunkReaderAndParser_eq chunks

/-- A request for the version, and one to read item 0x0087. -/
def startupFrames : List Frame := [⟨1, 1, 0x02, []⟩, ⟨1, 1, 0x08, [0x87, 0x00, 0x00]⟩]

/-- They are read back, also when they arrive in three pieces behind a stray byte. -/
theorem startupFrames_read :
    (∃ encoded, startupFrames.mapM writeFrame = .ok encoded ∧
        parseFramesFromBuffer encoded.flatten = (startupFrames, [])) ∧
      chunkReaderAndParser [[0x00, 0xFE, 0x00, 0x21], [0x02, 0x23, 0xFE, 0x03, 0x21, 0x08],
          [0x87, 0x00, 0x00, 0xAD]] =
        parseFramesFromBuffer [0x00, 0xFE, 0x00, 0x21, 0x02, 0x23, 0xFE, 0x03, 0x21, 0x08, 0x87,
          0x00, 0x00, 0xAD] := by
  have hframes : ∀ frame ∈ startupFrames, frame.WellFormed := by
    intro frame hframe
    rcases List.mem_pair.mp hframe with rfl | rfl <;> exact ⟨by decide, by decide, by decide⟩
  exact ⟨stream_roundTrip_chunks.1 startupFrames hframes, stream_roundTrip_chunks.2 _ _ rfl⟩

end IotController.Znp
