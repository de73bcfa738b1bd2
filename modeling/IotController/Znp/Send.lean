/-
  `Send` in `pkg/zigbee-dongle/znp/controller.go`, with `WriteCommand` of
  `port.go` and `buildFrameForCommand` of `command.go` where it calls them.

  The message becomes an `AfDataRequest`, which `scf` writes with a count byte before the
  payload.  Nine bytes come before that, and a frame holds 250: a longer payload is a panic.
  So is a second handler for the response, which `WriteCommand` registers before it writes.
-/
import IotController.Dongle.Outgoing
import IotController.Scf.RoundTrip
import IotController.Znp.Frame
import IotController.Znp.Port

namespace IotController.Znp

open Foundation Dongle Scf

/-! ## Commands -/

/-- A command struct with its header, and the text of its `%#v`. -/
structure RegisteredCommand where
  header : FrameHeader
  name : String
  fields : List Field
  record : Record fields
  text : String

def buildFrameForCommand (command : RegisteredCommand) : Checked Frame := do
  let data ← serializeValue command.name command.fields command.record
  if frameMaxDataLength < data.length then .error (.raised ("command too large: " ++ command.text))
  else pure ⟨command.header.type.code, command.header.subsystem, command.header.id, data⟩

def uint8Value (b : Byte) : Kind.uint8.Integer := b.toBitVec
def uint16Value (w : UInt16) : Kind.uint16.Integer := w.toBitVec
def uint8Of (v : Kind.uint8.Integer) : Byte := UInt8.ofBitVec v
def uint16Of (v : Kind.uint16.Integer) : UInt16 := UInt16.ofBitVec v

def afDataRequestFields : List Field :=
  [⟨"DstAddr", true, .plain .uint16, "uint16"⟩, ⟨"DstEndpoint", true, .plain .uint8, "uint8"⟩,
    ⟨"SrcEndpoint", true, .plain .uint8, "uint8"⟩, ⟨"ClusterID", true, .plain .uint16, "uint16"⟩,
    ⟨"TransSeqNumber", true, .plain .uint8, "uint8"⟩, ⟨"Options", true, .plain .uint8, "uint8"⟩,
    ⟨"Radius", true, .plain .uint8, "uint8"⟩, ⟨"Data", true, .slice false .uint8 false, "[]uint8"⟩]

variable (msg : OutgoingMessage)

def afDataRequestRecord (sequence : Byte) : Record afDataRequestFields :=
  (uint16Value msg.short, uint8Value msg.destinationEndpoint, uint8Value msg.sourceEndpoint,
    uint16Value msg.clusterID, uint8Value sequence, uint8Value 0, uint8Value msg.radius,
    some (msg.data.map uint8Value), ())

/-- What a call of `Send` meets: the last sequence number, the port with others' handlers, and
how the write and the wait end. -/
structure Surroundings where
  sequence : UInt32
  text : String
  port : Port
  writeErr : Option String
  receiveErr : Option String

/-- `WriteCommandTimeout`: a synchronous request registers a handler before the frame is
written. -/
def writeCommand (command : RegisteredCommand) (around : Surroundings) : Checked Sending := do
  let frame ← buildFrameForCommand command
  if command.header.type = .sreq ∧ around.port.registerHandler command.header.response = none then
    .error (.raised ("handler for " ++ command.header.response.text ++ " already exists"))
  else
    let raw ← writeFrame frame
    match around.writeErr with
    | some err => pure ⟨[], some err⟩
    | none => pure ⟨[raw], if command.header.type = .sreq then around.receiveErr else none⟩

def send (around : Surroundings) : Checked Sending :=
  if msg.mode ≠ .nwk ∧ msg.mode ≠ .combined then
    pure ⟨[], some ("address mode not supported: " ++ msg.mode.text)⟩
  else
    let sequence := around.sequence + 1
    writeCommand ⟨afDataRequest, "AfDataRequest", afDataRequestFields,
      afDataRequestRecord msg sequence.toUInt8, around.text⟩ around

end IotController.Znp
