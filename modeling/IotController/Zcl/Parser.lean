/-
  ZCL messages from the radio (`pkg/zcl/parser.go`, `pkg/zcl/levelcontrol`,
  `pkg/zcl/colorcontrol`) and the events they become (`pkg/iot/events/nativezigbee.go`).

  The command registry and the codec of the ZCL library are written out for the commands of
  a cluster, whose structs are fixed.  How the library reads the body of a global command
  and how it marshals a value of an unforeseen Go type are parameters (`Library`).
-/
import IotController.Api.Binding
import IotController.Foundation.LittleEndian

namespace IotController.Zcl

open Foundation Api

/-- The errors of the parser. -/
inductive ParseError where
  | emptyData
  | eof
  /-- a field whose Go type the codec does not know -/
  | unsupportedType (field : String)
  | unknownGlobal (id : Nat)
  | unknownLocal (id : Nat)
  | unknownFrameType
  | unsupportedGlobal (goType : String)
  | unsupportedCommand (clusterID : Nat)
  | unsupportedDataType (dataType : Nat)
  | nilValue
  deriving DecidableEq

/-! ## Commands of a cluster -/

/-- The structs that `onoff`, `levelcontrol` and `colorcontrol` register. -/
inductive Local where
  | off | on | toggle | offWithEffect | onWithRecallGlobalScene | onWithTimedOff
  | moveToLevel | move | step | stop
  | moveToLevelWithOnOff | moveWithOnOff | stepWithOnOff | stopWithOnOff
  | moveToHue | moveHue | stepHue | moveToSaturation | moveSaturation | stepSaturation
  | moveToHueAndSaturation | moveToColor | moveColor | stepColor | moveToColorTemp
  | stopMoveStep | moveColorTemp | stepColorTemp
  deriving DecidableEq

/-- `GetLocalCommand` after the three `Register`. -/
def getLocalCommand (clusterID manufacturer direction id : Nat) : Option Local :=
  if manufacturer ≠ 0 ∨ direction ≠ 0 then none
  else
    match clusterID, id with
    | 0x0006, 0x00 => some .off
    | 0x0006, 0x01 => some .on
    | 0x0006, 0x02 => some .toggle
    | 0x0006, 0x40 => some .offWithEffect
    | 0x0006, 0x41 => some .onWithRecallGlobalScene
    | 0x0006, 0x42 => some .onWithTimedOff
    | 0x0008, 0x00 => some .moveToLevel
    | 0x0008, 0x01 => some .move
    | 0x0008, 0x02 => some .step
    | 0x0008, 0x03 => some .stop
    | 0x0008, 0x04 => some .moveToLevelWithOnOff
    | 0x0008, 0x05 => some .moveWithOnOff
    | 0x0008, 0x06 => some .stepWithOnOff
    | 0x0008, 0x07 => some .stopWithOnOff
    | 0x0300, 0x00 => some .moveToHue
    | 0x0300, 0x01 => some .moveHue
    | 0x0300, 0x02 => some .stepHue
    | 0x0300, 0x03 => some .moveToSaturation
    | 0x0300, 0x04 => some .moveSaturation
    | 0x0300, 0x05 => some .stepSaturation
    | 0x0300, 0x06 => some .moveToHueAndSaturation
    | 0x0300, 0x07 => some .moveToColor
    | 0x0300, 0x08 => some .moveColor
    | 0x0300, 0x09 => some .stepColor
    | 0x0300, 0x0A => some .moveToColorTemp
    | 0x0300, 0x47 => some .stopMoveStep
    | 0x0300, 0x4B => some .moveColorTemp
    | 0x0300, 0x4C => some .stepColorTemp
    | _, _ => none

/-- The fields of a struct by their widths in bytes.  The codec has no signed fields. -/
def Local.layout : Local → Except ParseError (List Nat)
  | off | on | toggle | onWithRecallGlobalScene | stop | stopWithOnOff | stopMoveStep => .ok []
  | offWithEffect | move | moveWithOnOff | moveHue | moveSaturation => .ok [1, 1]
  | moveToLevel | moveToLevelWithOnOff | moveToSaturation => .ok [1, 2]
  | step | stepWithOnOff | moveToHue | moveToHueAndSaturation => .ok [1, 1, 2]
  | stepHue | stepSaturation => .ok [1, 1, 1]
  | onWithTimedOff => .ok [1, 2, 2]
  | moveToColor => .ok [2, 2, 2]
  | moveToColorTemp => .ok [2, 2]
  | moveColorTemp => .ok [1, 2, 2, 2]
  | stepColorTemp => .ok [1, 2, 2, 2, 2]
  | moveColor => .error (.unsupportedType "RateX")
  | stepColor => .error (.unsupportedType "StepX")

/-- `ReadUint` for `n` bytes. -/
def readUint (n : Nat) (data : List Byte) : Except ParseError (Nat × List Byte) :=
  if data.length < n then .error .eof
  else .ok ((getLE (8 * n) (data.take n)).toNat, data.drop n)

def readFields : List Nat → List Byte → Except ParseError (List Nat)
  | [], _ => .ok []
  | n :: ns, data => do
    let (v, rest) ← readUint n data
    let vs ← readFields ns rest
    return v :: vs

/-! ## Messages -/

/-- The dynamic value that the library has read for an attribute. -/
inductive GoValue where
  | bool (b : Bool)
  | uint8 (n : UInt8)
  | uint16 (n : UInt16)
  | uint64 (n : UInt64)
  | int64 (n : Int64)
  | float32 (bits : UInt32)
  | float64 (bits : UInt64)
  | string (s : String)
  | bytes (b : List Byte)
  | other (goType : String)
  deriving DecidableEq

/-- A value with its type code. -/
structure AttributeDataTypeValue where
  dataType : UInt8
  value : GoValue
  deriving DecidableEq

/-- One attribute of a response. -/
structure ReadAttributeResponseRecord where
  identifier : UInt16
  status : UInt8
  dataTypeValue : Option AttributeDataTypeValue

/-- The global commands. -/
inductive Global where
  | reportAttributes (records : List (UInt16 × Option AttributeDataTypeValue))
  | readAttributes (identifier : List UInt16)
  | readAttributesResponse (records : List ReadAttributeResponseRecord)
  | other (goType : String)

/-- The codec of the Zigbee library. -/
structure Library where
  global : Nat → List Byte → Except ParseError Global
  marshal : GoValue → Option (List Byte)

/-- A command, global or of a cluster. -/
inductive Command where
  | global (c : Global)
  | ofCluster (c : Local) (fields : List Nat)

/-- `zcl.Message`, without what is copied from the application message. -/
structure Message where
  direction : Nat
  transactionSequence : Nat
  manufacturer : Nat
  command : Command

/-- `CommandRegistry.Unmarshal`.  The control byte has the frame type in two bits, then a
manufacturer and the direction. -/
def unmarshal (lib : Library) (clusterID : Nat) (data : List Byte) : Except ParseError Message := do
  let (control, rest) ← readUint 1 data
  let (manufacturer, rest) ← if control / 4 % 2 = 1 then readUint 2 rest else .ok (0, rest)
  let (seq, rest) ← readUint 1 rest
  let (id, rest) ← readUint 1 rest
  let direction := control / 8 % 2
  match control % 4 with
  | 0 =>
    let c ← lib.global id rest
    return ⟨direction, seq, manufacturer, .global c⟩
  | 1 =>
    match getLocalCommand clusterID manufacturer direction id with
    | none => .error (.unknownLocal id)
    | some c =>
      let fields ← readFields (← c.layout) rest
      return ⟨direction, seq, manufacturer, .ofCluster c fields⟩
  | _ => .error .unknownFrameType

/-! ## Attributes -/

/-- The `oneof` of `AttributeValue`. -/
inductive Slot where
  | boolValue (b : Bool)
  | uint8Value (n : UInt32)
  | uint16Value (n : UInt32)
  | uint32Value (n : UInt32)
  | uint64Value (n : UInt64)
  | int8Value (n : Int32)
  | int16Value (n : Int32)
  | int32Value (n : Int32)
  | int64Value (n : Int64)
  | float32Value (bits : UInt32)
  | float64Value (bits : UInt64)
  | stringValue (s : String)
  | octetStringValue (b : List Byte)
  | dataValue (b : List Byte)
  deriving DecidableEq

/-- A value, as the message has it. -/
structure AttributeValue where
  dataType : Nat
  value : Slot
  deriving DecidableEq

/-- The constants of `ZclDataType` are the codes of the types, 0xFF for an unknown one. -/
def convertDataType (dt : Nat) : Nat :=
  if dt ∈ [0x10, 0x20, 0x21, 0x22, 0x23, 0x24, 0x25, 0x26, 0x27, 0x28, 0x29, 0x2A, 0x2B, 0x2C,
    0x2D, 0x2E, 0x2F, 0x30, 0x31, 0x18, 0x19, 0x1A, 0x1B, 0x39, 0x3A, 0x42] then dt else 0xFF

/-- The switch of `convertAttributeValue`. -/
def slot (dataType : Nat) (value : GoValue) : Option Slot :=
  match dataType, value with
  | 0x10, .bool b => some (.boolValue b)
  | 0x20, .uint64 n | 0x18, .uint64 n => some (.uint8Value n.toUInt32)
  | 0x21, .uint64 n | 0x19, .uint64 n => some (.uint16Value n.toUInt32)
  | 0x22, .uint64 n | 0x1A, .uint64 n | 0x23, .uint64 n | 0x1B, .uint64 n =>
    some (.uint32Value n.toUInt32)
  | 0x24, .uint64 n | 0x1C, .uint64 n | 0x25, .uint64 n | 0x1D, .uint64 n
  | 0x26, .uint64 n | 0x1E, .uint64 n | 0x27, .uint64 n | 0x1F, .uint64 n =>
    some (.uint64Value n)
  | 0x30, .uint8 n => some (.uint8Value n.toUInt32)
  | 0x31, .uint16 n => some (.uint16Value n.toUInt32)
  | 0x28, .int64 n => some (.int8Value n.toInt32)
  | 0x29, .int64 n => some (.int16Value n.toInt32)
  | 0x2A, .int64 n | 0x2B, .int64 n => some (.int32Value n.toInt32)
  | 0x2C, .int64 n | 0x2D, .int64 n | 0x2E, .int64 n | 0x2F, .int64 n => some (.int64Value n)
  | 0x39, .float32 bits => some (.float32Value bits)
  | 0x3A, .float64 bits => some (.float64Value bits)
  | 0x42, .string s => some (.stringValue s)
  | 0x41, .bytes b => some (.octetStringValue b)
  | _, _ => none

def convertAttributeValue (lib : Library) :
    Option AttributeDataTypeValue → Except ParseError AttributeValue
  | none => .error .nilValue
  | some dtv =>
    match slot dtv.dataType.toNat dtv.value with
    | some v => .ok ⟨convertDataType dtv.dataType.toNat, v⟩
    | none =>
      match lib.marshal dtv.value with
      | some b => .ok ⟨convertDataType dtv.dataType.toNat, .dataValue b⟩
      | none => .error (.unsupportedDataType dtv.dataType.toNat)

/-- One attribute, as the message has it. -/
structure AttributeResponseRecord where
  attributeID : UInt32
  status : Nat
  value : Option AttributeValue
  deriving DecidableEq

/-- `convertStatus`: the number of the `ZclStatus`, where the sum is a byte. -/
def convertStatus (status : UInt8) : Nat := if status = 0 then 1 else (status + 1).toNat

def convertReportAttributes (lib : Library)
    (records : List (UInt16 × Option AttributeDataTypeValue)) :
    Except ParseError (List (UInt32 × AttributeValue)) :=
  records.mapM fun r => do return (r.1.toUInt32, ← convertAttributeValue lib r.2)

def convertReadAttributesResponse (lib : Library) (records : List ReadAttributeResponseRecord) :
    Except ParseError (List AttributeResponseRecord) :=
  records.mapM fun r => do
    let value ← if r.status = 0 ∧ r.dataTypeValue.isSome then
      some <$> convertAttributeValue lib r.dataTypeValue else .ok none
    return ⟨r.identifier.toUInt32, convertStatus r.status, value⟩

/-! ## Conversion -/

/-- `ZclMoveMode` and `ZclStepMode`. -/
inductive Mode where
  | unspecified
  | up
  | down
  deriving DecidableEq

/-- `convertMoveMode` and `convertStepMode`. -/
def convertMode : Nat → Mode
  | 0x00 => .up
  | 0x01 => .down
  | _ => .unspecified

/-- The `oneof` of `ZclCommand`. -/
inductive ZclCommand where
  | globalReportAttributes (records : List (UInt32 × AttributeValue))
  | globalReadAttributes (attributeIDs : List UInt32)
  | globalReadAttributesResponse (records : List AttributeResponseRecord)
  | genOnoffToggle
  | genOnoffOn
  | genOnoffOff
  | genLevelcontrolMoveToLevel (level transitionTime : Nat)
  | genLevelcontrolMove (moveMode : Mode) (rate : Nat)
  | genLevelcontrolStep (stepMode : Mode) (stepSize transitionTime : Nat)
  | genLevelcontrolStop
  | genColorcontrolMoveToColorTemp (colorTemperature transitionTime : Nat)
  | genColorcontrolMoveColorTemp (moveMode : Mode) (rate minMired maxMired : Nat)
  | genColorcontrolStepColorTemp (stepMode : Mode) (stepSize transitionTime minMired maxMired : Nat)
  | genColorcontrolMoveToHue
  | genColorcontrolMoveToSaturation
  | genColorcontrolMoveToHueAndSaturation
  deriving DecidableEq

def convertLocal (clusterID : Nat) (c : Local) (fields : List Nat) :
    Except ParseError ZclCommand :=
  match c, fields with
  | .toggle, _ => .ok .genOnoffToggle
  | .on, _ => .ok .genOnoffOn
  | .off, _ => .ok .genOnoffOff
  | .moveToLevel, [level, t] | .moveToLevelWithOnOff, [level, t] =>
    .ok (.genLevelcontrolMoveToLevel level t)
  | .move, [mode, rate] | .moveWithOnOff, [mode, rate] =>
    .ok (.genLevelcontrolMove (convertMode mode) rate)
  | .step, [mode, size, t] | .stepWithOnOff, [mode, size, t] =>
    .ok (.genLevelcontrolStep (convertMode mode) size t)
  | .stop, _ | .stopWithOnOff, _ => .ok .genLevelcontrolStop
  | .moveToColorTemp, [mireds, t] => .ok (.genColorcontrolMoveToColorTemp mireds t)
  | .moveColorTemp, [mode, rate, lo, hi] =>
    .ok (.genColorcontrolMoveColorTemp (convertMode mode) rate lo hi)
  | .stepColorTemp, [mode, size, t, lo, hi] =>
    .ok (.genColorcontrolStepColorTemp (convertMode mode) size t lo hi)
  | .stopMoveStep, _ => .ok .genLevelcontrolStop
  | _, _ => .error (.unsupportedCommand clusterID)

def convertCommand (lib : Library) (clusterID : Nat) : Command → Except ParseError ZclCommand
  | .global (.reportAttributes rs) => .globalReportAttributes <$> convertReportAttributes lib rs
  | .global (.readAttributes ids) => .ok (.globalReadAttributes (ids.map UInt16.toUInt32))
  | .global (.readAttributesResponse rs) =>
    .globalReadAttributesResponse <$> convertReadAttributesResponse lib rs
  | .global (.other goType) => .error (.unsupportedGlobal goType)
  | .ofCluster c fields => convertLocal clusterID c fields

/-- `ZclMessage`, with the fields of its frame. -/
structure ZclMessage where
  sourceIeee : String
  sourceNetwork : UInt32
  sourceEndpoint : UInt8
  destinationEndpoint : UInt8
  clusterID : UInt16
  linkQuality : UInt8
  direction : Nat
  transactionSequence : Nat
  manufacturerCode : Nat
  command : ZclCommand

def parseMessage (lib : Library) (sourceIEEE : String) (sourceNetwork : UInt32)
    (sourceEndpoint destinationEndpoint : UInt8) (clusterID : UInt16) (linkQuality : UInt8)
    (data : List Byte) : Except ParseError ZclMessage := do
  if data = [] then throw .emptyData
  let m ← unmarshal lib clusterID.toNat data
  let command ← convertCommand lib clusterID.toNat m.command
  return ⟨sourceIEEE, sourceNetwork, sourceEndpoint, destinationEndpoint, clusterID, linkQuality,
    m.direction, m.transactionSequence, m.manufacturer, command⟩

/-! ## Events -/

/-- The action of a command, empty if it has none. -/
def zclCommandToAction : ZclCommand → String
  | .genOnoffOn => "on"
  | .genOnoffOff => "off"
  | .genOnoffToggle => "toggle"
  | .genLevelcontrolMoveToLevel .. => "brightness_move_to_level"
  | .genLevelcontrolMove mode _ =>
    if mode = .down then "brightness_move_down" else "brightness_move_up"
  | .genLevelcontrolStep mode .. =>
    if mode = .down then "brightness_step_down" else "brightness_step_up"
  | .genLevelcontrolStop => "brightness_stop"
  | .genColorcontrolMoveToColorTemp .. => "color_temperature_move"
  | .genColorcontrolMoveColorTemp mode .. =>
    if mode = .down then "color_temperature_move_down" else "color_temperature_move_up"
  | .genColorcontrolStepColorTemp .. => "color_temperature_step"
  | .genColorcontrolMoveToHue => "hue_move"
  | .genColorcontrolMoveToSaturation => "saturation_move"
  | .genColorcontrolMoveToHueAndSaturation => "hue_saturation_move"
  | _ => ""

def fromZclMessage (msg : ZclMessage) (d : Device) : List DeviceEvent :=
  if zclCommandToAction msg.command ≠ "" then
    [⟨"action", zclCommandToAction msg.command, some d⟩]
  else []

/-- The actions of the devices on the three clusters. -/
def nativeActions : List String :=
  ["on", "off", "toggle", "brightness_move_to_level", "brightness_move_up", "brightness_move_down",
    "brightness_step_up", "brightness_step_down", "brightness_stop", "color_temperature_move",
    "color_temperature_move_up", "color_temperature_move_down", "color_temperature_step"]

theorem action_convertLocal {clusterID : Nat} {c : Local} {fields : List Nat}
    {command : ZclCommand} (h : convertLocal clusterID c fields = .ok command) :
    zclCommandToAction command ∈ nativeActions := by
  unfold convertLocal at h
  split at h
  all_goals cases h
  all_goals simp only [zclCommandToAction]
  all_goals try split_ifs
  all_goals decide

theorem action_convertCommand {lib : Library} {clusterID : Nat} {c : Command}
    {command : ZclCommand} (h : convertCommand lib clusterID c = .ok command)
    (haction : zclCommandToAction command ≠ "") :
    zclCommandToAction command ∈ nativeActions := by
  cases c with
  | ofCluster c fields => exact action_convertLocal h
  | global c =>
    -- a global command is no action
    refine absurd ?_ haction
    cases c with
    | reportAttributes rs =>
      rw [convertCommand] at h
      cases hrs : convertReportAttributes lib rs with
      | error => rw [hrs] at h; cases h
      | ok => rw [hrs] at h; cases h; rfl
    | readAttributes => cases h; rfl
    | readAttributesResponse rs =>
      rw [convertCommand] at h
      cases hrs : convertReadAttributesResponse lib rs with
      | error => rw [hrs] at h; cases h
      | ok => rw [hrs] at h; cases h; rfl
    | other => cases h

theorem exists_frame (lib : Library) {action : String} (h : action ∈ nativeActions) :
    ∃ clusterID data msg, parseMessage lib "" 0 1 1 clusterID 0 data = .ok msg ∧
      zclCommandToAction msg.command = action := by
  simp only [nativeActions, List.mem_cons, List.not_mem_nil, or_false] at h
  rcases h with rfl | rfl | rfl | rfl | rfl | rfl | rfl | rfl | rfl | rfl | rfl | rfl | rfl
  · exact ⟨0x0006, [1, 0, 0x01], _, rfl, rfl⟩
  · exact ⟨0x0006, [1, 0, 0x00], _, rfl, rfl⟩
  · exact ⟨0x0006, [1, 0, 0x02], _, rfl, rfl⟩
  · exact ⟨0x0008, [1, 0, 0x00, 0, 0, 0], _, rfl, rfl⟩
  · exact ⟨0x0008, [1, 0, 0x01, 0, 0], _, rfl, rfl⟩
  · exact ⟨0x0008, [1, 0, 0x01, 1, 0], _, rfl, rfl⟩
  · exact ⟨0x0008, [1, 0, 0x02, 0, 0, 0, 0], _, rfl, rfl⟩
  · exact ⟨0x0008, [1, 0, 0x02, 1, 0, 0, 0], _, rfl, rfl⟩
  · exact ⟨0x0008, [1, 0, 0x03], _, rfl, rfl⟩
  · exact ⟨0x0300, [1, 0, 0x0A, 0, 0, 0, 0], _, rfl, rfl⟩
  · exact ⟨0x0300, [1, 0, 0x4B, 0, 0, 0, 0, 0, 0, 0], _, rfl, rfl⟩
  · exact ⟨0x0300, [1, 0, 0x4B, 1, 0, 0, 0, 0, 0, 0], _, rfl, rfl⟩
  · exact ⟨0x0300, [1, 0, 0x4C, 0, 0, 0, 0, 0, 0, 0, 0, 0], _, rfl, rfl⟩

section

variable {lib : Library} {ieee : String} {nwk : UInt32} {se de : UInt8} {clusterID : UInt16}
  {lqi : UInt8} {data : List Byte} {msg : ZclMessage}

theorem parseMessage_ok (h : parseMessage lib ieee nwk se de clusterID lqi data = .ok msg) :
    ∃ m, unmarshal lib clusterID.toNat data = .ok m ∧
      convertCommand lib clusterID.toNat m.command = .ok msg.command := by
  unfold parseMessage at h
  split at h
  · cases h
  cases hm : unmarshal lib clusterID.toNat data with
  | error => rw [hm] at h; cases h
  | ok m =>
    refine ⟨m, rfl, ?_⟩
    rw [hm] at h
    cases hc : convertCommand lib clusterID.toNat m.command with
    | error =>
      simp only [bind, Except.bind, hc] at h
      cases h
    | ok command =>
      simp only [bind, Except.bind, pure, Except.pure, hc] at h
      cases h
      rfl

end

/-- **The vocabulary of the radio.**  A frame becomes the actions of `nativeActions`.  Those for
hue and saturation, which `zclCommandToAction` knows, are not among them: `convertCommand`
refuses the commands. -/
theorem events_exactly (lib : Library) (d : Device) (ev : DeviceEvent) :
    (∃ ieee nwk se de clusterID lqi data msg,
      parseMessage lib ieee nwk se de clusterID lqi data = .ok msg ∧ ev ∈ fromZclMessage msg d) ↔
      ev.property = "action" ∧ ev.value ∈ nativeActions ∧ ev.device = some d := by
  constructor
  · rintro ⟨ieee, nwk, se, de, clusterID, lqi, data, msg, hparse, hev⟩
    obtain ⟨m, -, hcommand⟩ := parseMessage_ok hparse
    unfold fromZclMessage at hev
    split_ifs at hev with haction
    · rw [List.mem_singleton.mp hev]
      exact ⟨rfl, action_convertCommand hcommand haction, rfl⟩
    · cases hev
  · obtain ⟨property, value, device⟩ := ev
    rintro ⟨rfl, hvalue, rfl⟩
    obtain ⟨clusterID, data, msg, hparse, rfl⟩ := exists_frame lib hvalue
    refine ⟨"", 0, 1, 1, clusterID, 0, data, msg, hparse, ?_⟩
    have hblank : "" ∉ nativeActions := by decide
    have haction : zclCommandToAction msg.command ≠ "" := fun h => hblank (h ▸ hvalue)
    simp [fromZclMessage, haction]

end IotController.Zcl
