/-
  `handleFrame` in `pkg/zigbee-dongle/znp/port.go`.

  A frame is read into the struct of its header.  A node descriptor that is too short for
  its struct is read by hand: five bytes are enough for an error, and from twenty on it is
  taken for a whole descriptor, whose last word ends at the twenty-first byte.
-/
import IotController.Znp.Commands

namespace IotController.Znp

open Foundation Scf

/-! ## The node descriptor by hand -/

def uint16Between (data : List Byte) (lo hi : Int) : Checked Kind.uint16.Integer := do
  let b ← slice data lo hi
  leUint 2 b

/-- The fields after the address. -/
structure NodeDescriptorBody where
  logicalType : Byte
  complexDescriptor : Byte
  userDescriptor : Byte
  reserved : Byte
  apsFlags : Byte
  frequencyBand : Byte
  macCapabilityFlags : Byte
  manufacturerCode : Kind.uint16.Integer
  maxBufferSize : Byte
  maxInTransferSize : Kind.uint16.Integer
  serverMask : Kind.uint16.Integer
  maxOutTransferSize : Kind.uint16.Integer
  descriptorCap : Byte

def NodeDescriptorBody.zero : NodeDescriptorBody := ⟨0, 0, 0, 0, 0, 0, 0, 0, 0, 0, 0, 0, 0⟩

def readNodeDescriptorBody (data : List Byte) : Checked NodeDescriptorBody := do
  let logicalType ← index data 5
  let complexDescriptor ← index data 6
  let userDescriptor ← index data 7
  let reserved ← index data 8
  let apsFlags ← index data 9
  let frequencyBand ← index data 10
  let macCapabilityFlags ← index data 11
  let manufacturerCode ← uint16Between data 12 14
  let maxBufferSize ← index data 14
  let maxInTransferSize ← uint16Between data 15 17
  let serverMask ← uint16Between data 17 19
  let maxOutTransferSize ← uint16Between data 19 21
  let descriptorCap ← if 21 < data.length then index data 21 else pure 0
  pure ⟨logicalType, complexDescriptor, userDescriptor, reserved, apsFlags, frequencyBand,
    macCapabilityFlags, manufacturerCode, maxBufferSize, maxInTransferSize, serverMask,
    maxOutTransferSize, descriptorCap⟩

def NodeDescriptorBody.record (srcAddr : Kind.uint16.Integer) (status : Byte)
    (nwkAddr : Kind.uint16.Integer) (body : NodeDescriptorBody) : Record zdoNodeDescriptor :=
  (srcAddr, uint8Value status, nwkAddr, uint8Value body.logicalType,
    uint8Value body.complexDescriptor, uint8Value body.userDescriptor, uint8Value body.reserved,
    uint8Value body.apsFlags, uint8Value body.frequencyBand, uint8Value body.macCapabilityFlags,
    body.manufacturerCode, uint8Value body.maxBufferSize, body.maxInTransferSize,
    body.serverMask, body.maxOutTransferSize, uint8Value body.descriptorCap, ())

def readNodeDescriptor (data : List Byte) : Checked (Record zdoNodeDescriptor) := do
  let srcAddr ← uint16Between data 0 2
  let status ← index data 2
  let nwkAddr ← uint16Between data 3 5
  if status = 0 ∧ 20 ≤ data.length then do
    let body ← readNodeDescriptorBody data
    pure (body.record srcAddr status nwkAddr)
  else pure (NodeDescriptorBody.zero.record srcAddr status nwkAddr)

section

variable {data : List Byte}

theorem uint16Between_returns {lo hi : Int} (hlo : 0 ≤ lo) (hwidth : hi = lo + 2)
    (hhi : hi ≤ data.length) : ∃ w, uint16Between data lo hi = .ok w := by
  have hlength : 2 ≤ ((data.take hi.toNat).drop lo.toNat).length := by
    rw [List.length_drop, List.length_take]
    omega
  rw [uint16Between, slice_ok hlo (by omega) hhi, ok_bind, leUint_ok (by decide) hlength]
  exact ⟨_, rfl⟩

theorem readNodeDescriptorBody_returns (h : 21 ≤ data.length) :
    ∃ body, readNodeDescriptorBody data = .ok body := by
  unfold readNodeDescriptorBody
  iterate 7 refine bind_returns (index_returns (by decide) (by omega)) fun _ => ?_
  refine bind_returns (uint16Between_returns (by decide) (by decide) (by omega)) fun _ => ?_
  refine bind_returns (index_returns (by decide) (by omega)) fun _ => ?_
  iterate 3
    refine bind_returns (uint16Between_returns (by decide) (by decide) (by omega)) fun _ => ?_
  split_ifs with hcap
  · exact bind_returns (index_returns (by decide) (by omega)) fun _ => ⟨_, rfl⟩
  · exact ⟨_, rfl⟩

theorem readNodeDescriptorBody_panics (h : data.length < 21) :
    ∃ panic, readNodeDescriptorBody data = .error panic := by
  have hword : ∃ panic, uint16Between data 19 21 = .error panic :=
    bind_panics (slice_panics (by omega)) _
  unfold readNodeDescriptorBody
  iterate 11 refine bind_panics_later _ fun _ => ?_
  exact bind_panics hword _

theorem readNodeDescriptor_returns_iff (h : 5 ≤ data.length) :
    (∃ desc, readNodeDescriptor data = .ok desc) ↔ ¬ (data.length = 20 ∧ data.getD 2 0 = 0) := by
  have hstatus : index data 2 = .ok (data.getD 2 0) := index_ok (by decide) (by omega) 0
  obtain ⟨srcAddr, hsrc⟩ : ∃ w, uint16Between data 0 2 = .ok w :=
    uint16Between_returns (by decide) (by decide) (by omega)
  obtain ⟨nwkAddr, hnwk⟩ : ∃ w, uint16Between data 3 5 = .ok w :=
    uint16Between_returns (by decide) (by decide) (by omega)
  rw [readNodeDescriptor, hsrc, ok_bind, hstatus, ok_bind, hnwk, ok_bind]
  split_ifs with hfull
  · obtain ⟨hzero, hlong⟩ := hfull
    rcases Nat.lt_or_ge data.length 21 with hshort | hlong
    · obtain ⟨panic, hpanic⟩ := readNodeDescriptorBody_panics hshort
      rw [hpanic]
      refine iff_of_false ?_ (not_not.mpr ⟨by omega, hzero⟩)
      rintro ⟨desc, hdesc⟩
      cases hdesc
    · obtain ⟨body, hbody⟩ := readNodeDescriptorBody_returns hlong
      rw [hbody]
      exact iff_of_true ⟨_, rfl⟩ fun hband => by omega
  · refine iff_of_true ⟨_, rfl⟩ ?_
    rintro ⟨hlength, hzero⟩
    exact hfull ⟨hzero, hlength.ge⟩

end

/-! ## The frame -/

/-- What a callback asks for. -/
inductive ErrorHandling where
  | panics
  | stops
  | continues
  deriving DecidableEq, Repr

/-- Called when a frame is read; `AfterRead` and `OnReadError` may be nil. -/
structure Callbacks where
  afterRead : Bool
  onReadError : Bool
  onParseError : Option (CommandError → Frame → ErrorHandling)

/-- A handler in the table of the port; permanent ones have no timer. -/
structure TableHandler where
  header : FrameHeader
  handler : Nat
  timed : Bool
  deriving DecidableEq, Repr

/-- What the handling of a frame calls. -/
inductive FrameEffect where
  | onParseError (err : CommandError)
  | afterRead (command : ParsedCommand)
  | onReadError (message : String)
  | fulfill (handler : Nat) (command : ParsedCommand)

/-- What is called, and the table after it. -/
structure FrameHandled where
  effects : List FrameEffect
  handlers : List TableHandler

def noHandlerMessage (frame : Frame) (handlers : List TableHandler) : String :=
  "received SRSP frame " ++ FrameHeader.text ⟨.srsp, frame.subsystem, frame.id⟩ ++
    " but no handler registered (registered handlers: [" ++
    " ".intercalate (handlers.map fun entry => entry.header.text) ++ "])"

/-- From `AfterRead` on.  The order of the table is that in which the map is ranged over. -/
def dispatch (cbs : Callbacks) (handlers : List TableHandler) (frame : Frame)
    (command : ParsedCommand) : FrameHandled :=
  let read := if cbs.afterRead then [FrameEffect.afterRead command] else []
  match handlers.find? fun entry => entry.header.Heads frame with
  | some entry =>
    ⟨read ++ [.fulfill entry.handler command],
      if entry.timed then handlers.filter fun other => !decide (other.header.Heads frame)
      else handlers⟩
  | none =>
    ⟨read ++ if cbs.onReadError ∧ frame.type = FrameType.srsp.code then
        [.onReadError (noHandlerMessage frame handlers)] else [],
      handlers⟩

def parseFailed (cbs : Callbacks) (handlers : List TableHandler) (frame : Frame)
    (err : CommandError) : Checked FrameHandled :=
  match cbs.onParseError with
  | none => pure ⟨[], handlers⟩
  | some callback =>
    match callback err frame with
    | .continues => pure ⟨[.onParseError err], handlers⟩
    | .stops => pure ⟨[.onParseError err], handlers⟩
    | .panics => .error (.raised err.message)

def handleFrame (cbs : Callbacks) (handlers : List TableHandler) (frame : Frame) :
    Checked FrameHandled := do
  match ← parseCommandFromFrame frame with
  | .ok command => pure (dispatch cbs handlers frame command)
  | .error err =>
    if Query.nodeDescriptor.indication.Heads frame ∧ 5 ≤ frame.data.length then do
      let desc ← readNodeDescriptor frame.data
      pure (dispatch cbs handlers frame ⟨"ZdoNodeDescriptor", zdoNodeDescriptor, desc⟩)
    else parseFailed cbs handlers frame err

/-! ## Which frames it returns for -/

/-- No callback asks for a panic. -/
def Callbacks.Lenient (cbs : Callbacks) : Prop :=
  ∀ callback ∈ cbs.onParseError, ∀ err frame, callback err frame ≠ .panics

/-- Slices of words find what the count bytes demand, and it is no node descriptor of twenty
bytes that says success. -/
def CrashFree (frame : Frame) : Prop :=
  (∀ command ∈ commandTypeByFrameHeader frame,
    (∃ field ∈ command.fields, ¬ field.type.Narrow) → Safe command.fields frame.data) ∧
  ¬ (Query.nodeDescriptor.indication.Heads frame ∧ frame.data.length = 20 ∧ frame.data.getD 2 0 = 0)

section

variable {cbs : Callbacks} {handlers : List TableHandler} {frame : Frame}

theorem parseFailed_returns (h : cbs.Lenient) (err : CommandError) :
    ∃ handled, parseFailed cbs handlers frame err = .ok handled := by
  unfold parseFailed
  cases hcallback : cbs.onParseError with
  | none => exact ⟨_, rfl⟩
  | some callback =>
    dsimp only
    cases hhandling : callback err frame with
    | panics => exact absurd hhandling (h callback hcallback err frame)
    | stops | continues => exact ⟨_, rfl⟩

theorem safe_iff_of_command {command : CommandStruct} (h : command ∈ commands)
    (data : List Byte) :
    ((∃ field ∈ command.fields, ¬ field.type.Narrow) → Safe command.fields data) ↔
      Safe command.fields data := by
  refine ⟨fun hwide => ?_, fun hsafe _ => hsafe⟩
  by_cases hnarrow : ∀ field ∈ command.fields, field.type.Narrow
  · exact safe_of_narrow hnarrow (commands_settable h) data
  · push Not at hnarrow
    exact hwide hnarrow

theorem nodeDescriptor_type (h : Query.nodeDescriptor.indication.Heads frame) :
    commandTypeByFrameHeader frame =
      some ⟨Query.nodeDescriptor.indication, "ZdoNodeDescriptor", zdoNodeDescriptor⟩ := by
  obtain ⟨type, subsystem, id, data⟩ := frame
  obtain ⟨htype, hsubsystem, hid⟩ := h
  dsimp only at htype hsubsystem hid
  subst htype hsubsystem hid
  rfl

theorem holds_zdoNodeDescriptor (data : List Byte) :
    Holds zdoNodeDescriptor data ↔ 22 ≤ data.length := by
  have hdemanded : demanded zdoNodeDescriptor data = some 22 := rfl
  simp [Holds, hdemanded]

theorem handleFrame_of_command {command : ParsedCommand}
    (h : parseCommandFromFrame frame = .ok (.ok command)) :
    handleFrame cbs handlers frame = .ok (dispatch cbs handlers frame command) := by
  rw [handleFrame, h]
  rfl

theorem handleFrame_of_error {err : CommandError} (hlenient : cbs.Lenient)
    (h : parseCommandFromFrame frame = .ok (.error err)) :
    (∃ handled, handleFrame cbs handlers frame = .ok handled) ↔
      ¬ (Query.nodeDescriptor.indication.Heads frame ∧ frame.data.length = 20 ∧
        frame.data.getD 2 0 = 0) := by
  rw [handleFrame, h, ok_bind]
  dsimp only
  split_ifs with hdescriptor
  · obtain ⟨hheader, hlength⟩ := hdescriptor
    have hread := readNodeDescriptor_returns_iff hlength
    cases hdesc : readNodeDescriptor frame.data with
    | ok desc => exact iff_of_true ⟨_, rfl⟩ fun hband => hread.mp ⟨desc, hdesc⟩ hband.2
    | error =>
      rw [hdesc] at hread
      refine iff_of_false (by rintro ⟨handled, hhandled⟩; cases hhandled) fun hband => ?_
      obtain ⟨desc, hok⟩ := hread.mpr fun hshort => hband ⟨hheader, hshort⟩
      cases hok
  · refine iff_of_true (parseFailed_returns hlenient err) ?_
    rintro ⟨hheader, hlength, -⟩
    exact hdescriptor ⟨hheader, by omega⟩

end

/-- **Which frames do not crash the port.**  For all frames, tables and callbacks that ask for
no panic, `handleFrame` returns exactly if the slices of words in the frame's struct have what
their counts demand or are refused, and it is no node descriptor of twenty bytes that says
success. -/
theorem handleFrame_returns_iff (cbs : Callbacks) (hlenient : cbs.Lenient)
    (handlers : List TableHandler) (frame : Frame) :
    (∃ handled, handleFrame cbs handlers frame = .ok handled) ↔ CrashFree frame := by
  cases htype : commandTypeByFrameHeader frame with
  | none =>
    rw [handleFrame_of_error hlenient (parseCommandFromFrame_unknown htype), CrashFree, htype]
    exact ⟨fun hband => ⟨nofun, hband⟩, And.right⟩
  | some command =>
    have hcrash : CrashFree frame ↔ Safe command.fields frame.data ∧
        ¬ (Query.nodeDescriptor.indication.Heads frame ∧ frame.data.length = 20 ∧
          frame.data.getD 2 0 = 0) := by
      simp only [CrashFree, htype, Option.mem_some_iff, forall_eq',
        safe_iff_of_command (commandType_mem htype)]
    rw [hcrash]
    by_cases hsafe : Safe command.fields frame.data
    · obtain ⟨hpresent, habsent⟩ := parseCommandFromFrame_safe htype hsafe
      by_cases hholds : Holds command.fields frame.data
      · -- the struct of a node descriptor is longer than twenty bytes
        obtain ⟨parsed, hparsed⟩ := hpresent hholds
        refine iff_of_true ⟨_, handleFrame_of_command hparsed⟩ ⟨hsafe, ?_⟩
        rintro ⟨hheader, hlength, -⟩
        obtain rfl := Option.some.inj (htype.symm.trans (nodeDescriptor_type hheader))
        have hlong := (holds_zdoNodeDescriptor frame.data).mp hholds
        omega
      · rw [handleFrame_of_error hlenient (habsent hholds)]
        exact ⟨fun hband => ⟨hsafe, hband⟩, And.right⟩
    · obtain ⟨panic, hpanic⟩ := parseCommandFromFrame_panics htype hsafe
      refine iff_of_false ?_ fun h => hsafe h.1
      rintro ⟨handled, hhandled⟩
      rw [handleFrame, hpanic] at hhandled
      cases hhandled

def ignoring : Callbacks := ⟨true, false, some fun _ _ => .continues⟩

theorem ignoring_lenient : ignoring.Lenient := by
  rintro callback ⟨⟩ err frame
  exact nofun

def refusedDescriptor : Frame := ⟨2, 5, 0x82, [0x34, 0x12, 0x80, 0x34, 0x12]⟩

theorem refusedDescriptor_handled :
    ignoring.Lenient ∧ ∃ handled, handleFrame ignoring [] refusedDescriptor = .ok handled := by
  refine ⟨ignoring_lenient,
    (handleFrame_returns_iff ignoring ignoring_lenient [] refusedDescriptor).mpr ⟨?_, by decide⟩⟩
  have htype : commandTypeByFrameHeader refusedDescriptor = _ := nodeDescriptor_type (by decide)
  rintro command hcommand ⟨field, hfield, hwide⟩
  rw [htype] at hcommand
  obtain rfl := Option.some.inj hcommand
  have hnarrow : ∀ f ∈ zdoNodeDescriptor, f.type.Narrow := by decide
  exact absurd (hnarrow field hfield) hwide

/-- A node descriptor of twenty bytes, and a source route whose count asks for one relay too
many, as they come from the line. -/
theorem twenty_bytes_crash :
    (∃ frame, parseFrameFromBytes
        [0xFE, 20, 0x45, 0x82, 0x34, 0x12, 0x00, 0x34, 0x12, 1, 0, 0, 0, 0, 8, 0x8E, 0x5F, 0x11,
          82, 82, 0, 0, 0, 82, 0x48] = .ok frame ∧
      handleFrame ignoring [] frame = .error (.slice 19 21 20)) ∧
    ∃ frame, parseFrameFromBytes [0xFE, 4, 0x45, 0xC4, 0x34, 0x12, 0x01, 0x78, 0xDA] = .ok frame ∧
      handleFrame ignoring [] frame = .error (.index 1 1) := by
  exact ⟨⟨⟨2, 5, 0x82, _⟩, rfl, rfl⟩, ⟨2, 5, 0xC4, _⟩, rfl, rfl⟩

end IotController.Znp
