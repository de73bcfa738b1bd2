/-
  `Send` in `pkg/zigbee-dongle/ember/controller.go`, with
  `sendEZSPCommand` where it calls it.

  A command is written at most twice: after a timeout the session is reset and the command
  is sent again under other numbers.  The payload follows a length byte, `uint8(len(msg.Data))`.
-/
import IotController.Dongle.Outgoing
import IotController.Ember.Controller

namespace IotController.Ember

open Foundation Dongle

def ezspSendUnicast : UInt16 := 0x34

variable (msg : OutgoingMessage)

def unicastParams : List Byte :=
  [0x00, msg.short.toUInt8, (msg.short >>> 8).toUInt8,
    -- apsFrame: profile, cluster, endpoints, options, group and sequence
    0x04, 0x01, msg.clusterID.toUInt8, (msg.clusterID >>> 8).toUInt8, msg.sourceEndpoint,
    msg.destinationEndpoint, 0x00, 0x00, 0x00, 0x00, 0x00,
    -- messageTag and messageLength
    0x00, UInt8.ofNat msg.data.length] ++ msg.data

/-- What one attempt meets. -/
structure Attempt where
  sequence : Byte
  txSeq : Byte
  rxSeq : Byte
  txSeq_lt : txSeq < 8
  writeErr : Option String
  /-- what the handler receives: the parameters of the response, or an error -/
  answer : Except String (List Byte)

def Attempt.frame (a : Attempt) (frameID : UInt16) (params : List Byte) : List Byte :=
  buildASHDataFrame (dataControl a.txSeq a.rxSeq)
    (serializeEZSPFrameExtended ⟨a.sequence, ezspCommand, frameID, params⟩)

def hex04X (w : UInt16) : String := hex02X (w >>> 8).toUInt8 ++ hex02X w.toUInt8

/-- The DATA frames written, and what is returned; the RST between attempts is left out. -/
def sendEZSPCommand (frameID : UInt16) (params : List Byte) (first second : Attempt) :
    List (List Byte) × Except String (List Byte) :=
  match first.writeErr with
  | some err => ([], .error ("sending EZSP command 0x" ++ hex04X frameID ++ ": " ++ err))
  | none =>
    match first.answer with
    | .ok response => ([first.frame frameID params], .ok response)
    | .error _ =>
      match second.writeErr with
      | some err =>
        ([first.frame frameID params],
          .error ("retry sending EZSP command 0x" ++ hex04X frameID ++ ": " ++ err))
      | none =>
        match second.answer with
        | .ok response =>
          ([first.frame frameID params, second.frame frameID params], .ok response)
        | .error err =>
          ([first.frame frameID params, second.frame frameID params],
            .error ("retry waiting for EZSP command 0x" ++ hex04X frameID ++ ": " ++ err))

def sendErr : Except String (List Byte) → Option String
  | .error err => some ("SEND_UNICAST: " ++ err)
  | .ok [] => some "SEND_UNICAST response too short"
  | .ok (status :: _) =>
    if status ≠ 0x00 then some ("SEND_UNICAST status: 0x" ++ hex02X status) else none

def send (first second : Attempt) : Checked Sending :=
  let sent := sendEZSPCommand ezspSendUnicast (unicastParams msg) first second
  .ok ⟨sent.1, sendErr sent.2⟩

/-! ## What is sent -/

end IotController.Ember
