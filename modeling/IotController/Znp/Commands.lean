/-
  The commands of the ZNP
  (`pkg/zigbee-dongle/znp/commands.go` and `command.go`).

  Each struct type of `commands.go` is registered under a header when the package is
  initialised; what cannot be registered is a panic.  A frame is read into the struct of
  its header.
-/
import IotController.Znp.Send

namespace IotController.Znp

open Foundation Scf

/-! ## Headers -/

def subsystemSYS : Byte := 1
def subsystemSAPI : Byte := 6
def subsystemUTIL : Byte := 7

/-- The frame has this header.  Frames of the reserved types have none. -/
def FrameHeader.Heads (header : FrameHeader) (frame : Frame) : Prop :=
  frame.type = header.type.code ∧ frame.subsystem = header.subsystem ∧ frame.id = header.id

instance (header : FrameHeader) (frame : Frame) : Decidable (header.Heads frame) :=
  inferInstanceAs (Decidable (_ ∧ _))

/-! ## Structs -/

def scalar (name : String) (kind : Kind) : Field := ⟨name, true, .plain kind, kind.text⟩
def byteSlice (name : String) : Field := ⟨name, true, .slice false .uint8 false, "[]uint8"⟩
def wordSlice (name : String) : Field := ⟨name, true, .slice false .uint16 false, "[]uint16"⟩

def deviceState (name : String) : Field := ⟨name, true, .plain .uint8, "znp.DeviceState"⟩

def statusOnly : List Field := [scalar "Status" .uint8]

def zdoNodeDescriptor : List Field :=
  [scalar "SrcAddr" .uint16, scalar "Status" .uint8, scalar "NWKAddr" .uint16,
    scalar "LogicalType" .uint8, scalar "ComplexDescriptor" .uint8, scalar "UserDescriptor" .uint8,
    scalar "Reserved" .uint8, scalar "APSFlags" .uint8, scalar "FrequencyBand" .uint8,
    scalar "MACCapabilityFlags" .uint8, scalar "ManufacturerCode" .uint16,
    scalar "MaxBufferSize" .uint8, scalar "MaxInTransferSize" .uint16,
    scalar "ServerMask" .uint16, scalar "MaxOutTransferSize" .uint16,
    scalar "DescriptorCap" .uint8]

def zdoSimpleDescriptor : List Field :=
  [scalar "SrcAddr" .uint16, scalar "Status" .uint8, scalar "NWKAddr" .uint16,
    scalar "Length" .uint8, scalar "Endpoint" .uint8, scalar "AppProfileID" .uint16,
    scalar "AppDeviceID" .uint16, scalar "AppDeviceVer" .uint8, scalar "Reserved" .uint8,
    scalar "NumInClusters" .uint8, wordSlice "InClusters", scalar "NumOutClusters" .uint8,
    wordSlice "OutClusters"]

/-- A registered struct and its header. -/
structure CommandStruct where
  header : FrameHeader
  name : String
  fields : List Field
  deriving DecidableEq

/-- The structs of `commands.go` in their order. -/
def commands : List CommandStruct :=
  [⟨⟨.sreq, subsystemSYS, 0x00⟩, "SysResetRequest", [scalar "Type" .uint8]⟩,
    ⟨⟨.srsp, subsystemSYS, 0x00⟩, "SysResetResponse", statusOnly⟩,
    ⟨⟨.sreq, subsystemSYS, 0x01⟩, "SysPingRequest", []⟩,
    ⟨⟨.srsp, subsystemSYS, 0x01⟩, "SysPingResponse", [scalar "Capabilities" .uint16]⟩,
    ⟨⟨.sreq, subsystemSYS, 0x02⟩, "SysVersionRequest", []⟩,
    ⟨⟨.srsp, subsystemSYS, 0x02⟩, "SysVersionResponse",
      [scalar "TransportRev" .uint8, scalar "Product" .uint8, scalar "MajorRel" .uint8,
        scalar "MinorRel" .uint8, scalar "MaintRel" .uint8, scalar "Revision" .uint32]⟩,
    ⟨⟨.sreq, subsystemSYS, 0x08⟩, "SysOsalNvReadRequest",
      [scalar "ID" .uint16, scalar "Offset" .uint8]⟩,
    ⟨⟨.srsp, subsystemSYS, 0x08⟩, "SysOsalNvReadResponse",
      [scalar "Status" .uint8, byteSlice "Value"]⟩,
    ⟨⟨.sreq, subsystemSYS, 0x09⟩, "SysOsalNvWriteRequest",
      [scalar "ID" .uint16, scalar "Offset" .uint8, byteSlice "Value"]⟩,
    ⟨⟨.srsp, subsystemSYS, 0x09⟩, "SysOsalNvWriteResponse", statusOnly⟩,
    ⟨⟨.areq, subsystemSYS, 0x80⟩, "SysResetInd",
      [scalar "Reason" .uint8, scalar "TransportRev" .uint8, scalar "Product" .uint8,
        scalar "MajorRel" .uint8, scalar "MinorRel" .uint8, scalar "MaintRel" .uint8]⟩,
    ⟨⟨.sreq, subsystemAF, 0x00⟩, "AfRegisterRequest",
      [scalar "Endpoint" .uint8, ⟨"AppProfID", true, .plain .uint16, "znp.ProfileID"⟩,
        scalar "AppDeviceID" .uint16, scalar "AddDevVer" .uint8, scalar "LatencyReq" .uint8,
        wordSlice "AppInClusters", wordSlice "AppOutClusters"]⟩,
    ⟨⟨.srsp, subsystemAF, 0x00⟩, "AfRegisterResponse", statusOnly⟩,
    ⟨⟨.sreq, subsystemAF, 0x01⟩, "AfDataRequest", afDataRequestFields⟩,
    ⟨⟨.srsp, subsystemAF, 0x01⟩, "AfDataResponse", statusOnly⟩,
    ⟨⟨.areq, subsystemAF, 0x80⟩, "AfDataConfirm",
      [scalar "Status" .uint8, scalar "Endpoint" .uint8, scalar "TransSeqNumber" .uint8]⟩,
    ⟨⟨.areq, subsystemAF, 0x81⟩, "AfIncomingMsg",
      [scalar "GroupID" .uint16, scalar "ClusterID" .uint16, scalar "SrcAddr" .uint16,
        scalar "SrcEndpoint" .uint8, scalar "DstEndpoint" .uint8, scalar "WasBroadcast" .uint8,
        scalar "LinkQuality" .uint8, scalar "SecureUse" .uint8, scalar "TimeStamp" .uint32,
        scalar "TransSeqNumber" .uint8, byteSlice "Data"]⟩,
    ⟨⟨.sreq, subsystemZDO, 0x05⟩, "ZdoActiveEPRequest",
      [scalar "DstAddr" .uint16, scalar "NWKAddrOfInterest" .uint16]⟩,
    ⟨⟨.srsp, subsystemZDO, 0x05⟩, "ZdoActiveEPResponse", statusOnly⟩,
    ⟨⟨.areq, subsystemZDO, 0x85⟩, "ZdoActiveEP",
      [scalar "SrcAddr" .uint16, scalar "Status" .uint8, scalar "NWKAddr" .uint16,
        byteSlice "ActiveEPs"]⟩,
    ⟨⟨.sreq, subsystemZDO, 0x36⟩, "ZdoMgmtPermitJoinRequest",
      [scalar "AddrMode" .uint8, scalar "DstAddr" .uint16, scalar "Duration" .uint8,
        scalar "TCSignificance" .uint8]⟩,
    ⟨⟨.srsp, subsystemZDO, 0x36⟩, "ZdoMgmtPermitJoinResponse", statusOnly⟩,
    ⟨⟨.areq, subsystemZDO, 0xb6⟩, "ZdoMgmtPermitJoin",
      [scalar "SrcAddr" .uint16, scalar "Status" .uint8]⟩,
    ⟨⟨.sreq, subsystemZDO, 0x40⟩, "ZdoStartupFromAppRequest", [scalar "StartDelay" .uint16]⟩,
    ⟨⟨.srsp, subsystemZDO, 0x40⟩, "ZdoStartupFromAppResponse", statusOnly⟩,
    ⟨⟨.sreq, subsystemZDO, 0x50⟩, "ZdoExtNwkInfoRequest", []⟩,
    ⟨⟨.srsp, subsystemZDO, 0x50⟩, "ZdoExtNwkInfoResponse",
      [scalar "ShortAddress" .uint16, scalar "DeviceState" .uint8, scalar "PanID" .uint16,
        scalar "ParentAddress" .uint16, scalar "ExtendedPanID" .uint64,
        scalar "ExtendedParentAddress" .uint64, scalar "Channel" .uint8]⟩,
    ⟨⟨.areq, subsystemZDO, 0xc0⟩, "ZdoStateChangeInd", [deviceState "State"]⟩,
    ⟨⟨.sreq, subsystemZDO, 0x02⟩, "ZdoNodeDescriptorRequest", [scalar "DstAddr" .uint16]⟩,
    ⟨⟨.srsp, subsystemZDO, 0x02⟩, "ZdoNodeDescriptorResponse", statusOnly⟩,
    ⟨Query.nodeDescriptor.indication, "ZdoNodeDescriptor", zdoNodeDescriptor⟩,
    ⟨⟨.sreq, subsystemZDO, 0x04⟩, "ZdoSimpleDescriptorRequest",
      [scalar "DstAddr" .uint16, scalar "NWKAddrOfInterest" .uint16, scalar "Endpoint" .uint8]⟩,
    ⟨⟨.srsp, subsystemZDO, 0x04⟩, "ZdoSimpleDescriptorResponse", statusOnly⟩,
    ⟨Query.simpleDescriptor.indication, "ZdoSimpleDescriptor", zdoSimpleDescriptor⟩,
    ⟨⟨.areq, subsystemZDO, 0xc1⟩, "ZdoEndDeviceAnnceInd",
      [scalar "SrcAddr" .uint16, scalar "NwkAddr" .uint16, scalar "IEEEAddr" .uint64,
        scalar "Capabilities" .uint8]⟩,
    ⟨⟨.areq, subsystemZDO, 0xca⟩, "ZdoTcDevInd",
      [scalar "SrcNwkAddr" .uint16, scalar "SrcIEEEAddr" .uint64,
        scalar "ParentNwkAddr" .uint16]⟩,
    ⟨⟨.areq, subsystemZDO, 0xc4⟩, "ZdoSrcRtgInd", zdoSrcRtgInd⟩,
    ⟨⟨.areq, subsystemZDO, 0xcb⟩, "ZdoPermitJoinInd", [scalar "Duration" .uint8]⟩,
    ⟨⟨.sreq, subsystemSAPI, 0x04⟩, "ZbReadConfigurationRequest", [scalar "ConfigID" .uint8]⟩,
    ⟨⟨.srsp, subsystemSAPI, 0x04⟩, "ZBReadConfigurationResponse",
      [scalar "Status" .uint8, scalar "ConfigID" .uint8, byteSlice "Value"]⟩,
    ⟨⟨.sreq, subsystemSAPI, 0x05⟩, "ZbWriteConfigurationRequest",
      [scalar "ConfigID" .uint8, byteSlice "Value"]⟩,
    ⟨⟨.srsp, subsystemSAPI, 0x05⟩, "ZbWriteConfigurationResponse", statusOnly⟩,
    ⟨⟨.sreq, subsystemUTIL, 0x00⟩, "UtilGetDeviceInfoRequest", []⟩,
    ⟨⟨.srsp, subsystemUTIL, 0x00⟩, "UtilGetDeviceInfoResponse",
      [scalar "Status" .uint8, scalar "IEEEAddr" .uint64, scalar "ShortAddr" .uint16,
        scalar "DeviceType" .uint8, deviceState "DeviceState", wordSlice "AssocDevices"]⟩]

/-! ## Registration -/

def registerCommand (registered : List CommandStruct) (command : CommandStruct) :
    Checked (List CommandStruct) :=
  match validateType (.struct command.name command.fields) with
  | some err => .error (.raised err)
  | none =>
    if registered.any fun other => other.name = command.name then
      .error (.raised ("command " ++ command.name ++ " already registered"))
    else if registered.any fun other => other.header = command.header then
      .error (.raised ("command " ++ command.header.text ++ " already registered"))
    else pure (registered ++ [command])

theorem registerCommand_valid {registered after : List CommandStruct} {command : CommandStruct}
    (hvalid : ∀ c ∈ registered, validateType (.struct c.name c.fields) = none)
    (h : registerCommand registered command = .ok after) :
    ∀ c ∈ after, validateType (.struct c.name c.fields) = none := by
  unfold registerCommand at h
  cases htype : validateType (.struct command.name command.fields) with
  | some => simp [htype] at h
  | none =>
    rw [htype] at h
    dsimp only at h
    split_ifs at h
    obtain rfl : registered ++ [command] = after := Except.ok.inj h
    intro c hc
    rcases List.mem_append.mp hc with hold | hnew
    · exact hvalid c hold
    · rw [List.mem_singleton.mp hnew]
      exact htype

theorem commands_registered : commands.foldlM registerCommand [] = .ok commands := by
  decide +kernel

theorem commands_valid {command : CommandStruct} (h : command ∈ commands) :
    ∀ field ∈ command.fields, field.type.checkedKind ∈ validKinds :=
  (validateType_struct_iff command.name command.fields).mp
    (foldlM_invariant (fun _ _ _ => registerCommand_valid) (List.forall_mem_nil _)
      commands_registered command h)

theorem commands_settable {command : CommandStruct} (h : command ∈ commands) :
    ∀ field ∈ command.fields, field.type.Settable field.exported := by
  have hall : ∀ c ∈ commands, ∀ field ∈ c.fields, field.type.Settable field.exported := by
    decide +kernel
  exact hall command h

/-! ## Reading -/

/-- The errors of the parser. -/
inductive CommandError where
  | unknownFrameHeader
  | invalidFrame
  deriving DecidableEq, Repr

def CommandError.message : CommandError → String
  | .unknownFrameHeader => "unknown serial frame header"
  | .invalidFrame => "invalid serial frame"

/-- A struct that was read. -/
structure ParsedCommand where
  name : String
  fields : List Field
  record : Record fields

def commandTypeByFrameHeader (frame : Frame) : Option CommandStruct :=
  commands.find? fun command => command.header.Heads frame

def parseCommandFromFrame (frame : Frame) : Checked (Except CommandError ParsedCommand) :=
  match commandTypeByFrameHeader frame with
  | none => pure (.error .unknownFrameHeader)
  | some command => do
      match ← parseValue command.name command.fields frame.data with
      | none => pure (.error .invalidFrame)
      | some (record, _) => pure (.ok ⟨command.name, command.fields, record⟩)

section

variable {frame : Frame} {command : CommandStruct}

theorem commandType_mem (h : commandTypeByFrameHeader frame = some command) :
    command ∈ commands :=
  List.mem_of_find?_eq_some h

theorem parseCommandFromFrame_unknown (h : commandTypeByFrameHeader frame = none) :
    parseCommandFromFrame frame = .ok (.error .unknownFrameHeader) := by
  rw [parseCommandFromFrame, h]
  rfl

theorem parseCommandFromFrame_safe (h : commandTypeByFrameHeader frame = some command)
    (hsafe : Safe command.fields frame.data) :
    (Holds command.fields frame.data → ∃ parsed, parseCommandFromFrame frame = .ok (.ok parsed)) ∧
      (¬ Holds command.fields frame.data →
        parseCommandFromFrame frame = .ok (.error .invalidFrame)) := by
  obtain ⟨hpresent, habsent⟩ : Total command.name command.fields frame.data :=
    total_of_safe (commands_valid (commandType_mem h)) hsafe
  rw [parseCommandFromFrame, h]
  constructor
  · rintro ⟨n, hn, hle⟩
    obtain ⟨record, hrecord⟩ := hpresent n hn hle
    dsimp only
    rw [hrecord]
    exact ⟨_, rfl⟩
  · intro hnot
    dsimp only
    rw [habsent hnot]
    rfl

theorem parseCommandFromFrame_panics (h : commandTypeByFrameHeader frame = some command)
    (hfails : ¬ Safe command.fields frame.data) :
    ∃ panic, parseCommandFromFrame frame = .error panic := by
  rw [parseCommandFromFrame, h]
  exact bind_panics (parseValue_panics (commands_valid (commandType_mem h)) hfails) _

end

/-! ## Commands over the line -/

/-- A command of the table with a value that a frame has room for. -/
structure Sent where
  command : CommandStruct
  registered : command ∈ commands
  record : Record command.fields
  short : Record.Short command.fields record
  fits : (Record.bytes command.fields record).length ≤ frameMaxDataLength
  text : String

namespace Sent

variable (s : Sent)

def asRegistered : RegisteredCommand where
  header := s.command.header
  name := s.command.name
  fields := s.command.fields
  record := s.record
  text := s.text

def frame : Frame :=
  ⟨s.command.header.type.code, s.command.header.subsystem, s.command.header.id,
    Record.bytes s.command.fields s.record⟩

/-- What the receiver makes of it; a nil slice arrives as an empty one. -/
def arrived : ParsedCommand :=
  ⟨s.command.name, s.command.fields, Record.emptied s.command.fields s.record⟩

end Sent

theorem commands_plain : ∀ c ∈ commands, c.header.type.code < 8 ∧ c.header.subsystem < 32 ∧
    ∀ field ∈ c.fields, field.type.Predeclared ∧ field.exported = true := by
  decide +kernel

theorem commands_found : ∀ c ∈ commands, commands.find? (fun other => other.header.Heads
    ⟨c.header.type.code, c.header.subsystem, c.header.id, []⟩) = some c := by
  decide +kernel

namespace Sent

variable (s : Sent)

theorem frame_wellFormed : s.frame.WellFormed :=
  ⟨(commands_plain s.command s.registered).1, (commands_plain s.command s.registered).2.1, s.fits⟩

theorem buildFrameForCommand_asRegistered :
    buildFrameForCommand s.asRegistered = .ok s.frame := by
  obtain ⟨-, -, hfields⟩ := commands_plain s.command s.registered
  have hbytes : serializeValue s.command.name s.command.fields s.record =
      .ok (Record.bytes s.command.fields s.record) :=
    serializeValue_ok s.command.name (fun field hfield => (hfields field hfield).1.valid)
      (fun field hfield => (hfields field hfield).2 ▸ (hfields field hfield).1.readable) s.record
  unfold buildFrameForCommand asRegistered
  dsimp only
  rw [hbytes, ok_bind, if_neg (Nat.not_lt.mpr s.fits), frame]
  rfl

theorem parseCommandFromFrame_frame : parseCommandFromFrame s.frame = .ok (.ok s.arrived) := by
  obtain ⟨-, -, hfields⟩ := commands_plain s.command s.registered
  have hread := @parseValue_bytes s.command.name s.command.fields s.record
    (fun field hfield => (hfields field hfield).1) (fun field hfield => (hfields field hfield).2)
    s.short []
  rw [List.append_nil] at hread
  have hfound : commandTypeByFrameHeader s.frame = some s.command :=
    commands_found s.command s.registered
  rw [parseCommandFromFrame, hfound]
  simp only [frame, hread, ok_bind]
  rfl

end Sent

/-- **Commands survive the line.**  Written commands of the table are read back from whatever
pieces their bytes arrive in: as many, in order, each as its struct. -/
theorem commands_over_the_line (sent : List Sent) :
    ∃ raw, sent.mapM (fun s => buildFrameForCommand s.asRegistered >>= writeFrame) = .ok raw ∧
      ∀ chunks : List (List Byte), chunks.flatten = raw.flatten →
        (chunkReaderAndParser chunks).2 = [] ∧
          (chunkReaderAndParser chunks).1.mapM parseCommandFromFrame =
            .ok (sent.map fun s => .ok s.arrived) := by
  have hwritten : ∀ s ∈ sent, (buildFrameForCommand s.asRegistered >>= writeFrame) =
      .ok s.frame.bytes := fun s _ => by
    rw [s.buildFrameForCommand_asRegistered, ok_bind, writeFrame_ok s.fits]
  refine ⟨_, mapM_ok hwritten, fun chunks hchunks => ?_⟩
  have hread : chunkReaderAndParser chunks = (sent.map Sent.frame, []) := by
    have hstream : chunks.flatten = (sent.map Sent.frame).flatMap Frame.bytes := by
      rw [hchunks, List.flatMap_def, List.map_map]
      rfl
    rw [chunkReaderAndParser_eq, hstream]
    exact drain_bytes (List.forall_mem_map.mpr fun s _ => s.frame_wellFormed)
  rw [hread]
  refine ⟨rfl, ?_⟩
  show (sent.map Sent.frame).mapM parseCommandFromFrame = _
  rw [List.mapM_map]
  exact mapM_ok fun s _ => s.parseCommandFromFrame_frame

/-- `SysPingRequest`. -/
def pingSent : Sent where
  command := ⟨⟨.sreq, subsystemSYS, 0x01⟩, "SysPingRequest", []⟩
  registered := by decide +kernel
  record := ()
  short := trivial
  fits := by decide
  text := "SysPingRequest"

/-- `SysOsalNvWriteRequest` for item 0x0087 with one byte. -/
def nvWriteSent : Sent where
  command := ⟨⟨.sreq, subsystemSYS, 0x09⟩, "SysOsalNvWriteRequest",
    [scalar "ID" .uint16, scalar "Offset" .uint8, byteSlice "Value"]⟩
  registered := by decide +kernel
  record := (uint16Value 0x0087, uint8Value 0, some [uint8Value 0x55], ())
  short := ⟨trivial, trivial, (by decide : 1 ≤ 255), trivial⟩
  fits := by decide +kernel
  text := "SysOsalNvWriteRequest"

/-- Both are read back from pieces that end inside the frames. -/
theorem commands_in_pieces :
    (chunkReaderAndParser [[0xFE, 0x05, 0x21], [0x09, 0x87, 0x00, 0x00, 0x01],
        [0x55, 0xFE, 0xFE, 0x00], [0x21, 0x01, 0x20]]).1.mapM parseCommandFromFrame =
      .ok [.ok nvWriteSent.arrived, .ok pingSent.arrived] := by
  obtain ⟨raw, hraw, hread⟩ := commands_over_the_line [nvWriteSent, pingSent]
  have hbytes : [nvWriteSent, pingSent].mapM
      (fun s => buildFrameForCommand s.asRegistered >>= writeFrame) =
        .ok [[0xFE, 0x05, 0x21, 0x09, 0x87, 0x00, 0x00, 0x01, 0x55, 0xFE],
          [0xFE, 0x00, 0x21, 0x01, 0x20]] := by decide +kernel
  obtain rfl := Except.ok.inj (hbytes.symm.trans hraw)
  exact (hread [[0xFE, 0x05, 0x21], [0x09, 0x87, 0x00, 0x00, 0x01], [0x55, 0xFE, 0xFE, 0x00],
    [0x21, 0x01, 0x20]] rfl).2

end IotController.Znp
