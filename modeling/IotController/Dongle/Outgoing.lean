/-
  Messages to devices (`pkg/zigbee-dongle/types`), and what it
  means that a dongle sends one as it is.

  A call of `Send` is faithful if it does not panic, hands over nothing only with an error,
  and all it hands over is read as the message's destination, endpoints, cluster and payload.
-/
import IotController.Foundation.Bytes
import IotController.Foundation.Slice

namespace IotController.Dongle

open Foundation

/-- How a destination is given. -/
inductive AddressMode where
  | none
  | group
  | nwk
  | ieee
  | combined
  | unknown (code : Byte)
  deriving DecidableEq, Repr

def AddressMode.text : AddressMode → String
  | .none => "None"
  | .group => "Group"
  | .nwk => "NWK"
  | .ieee => "IEEE"
  | .combined => "Combined"
  | .unknown _ => "Unknown"

/-- `OutgoingMessage`, with the mode and the short address of its `Destination`. -/
structure OutgoingMessage where
  mode : AddressMode
  short : UInt16
  destinationEndpoint : Byte
  sourceEndpoint : Byte
  clusterID : UInt16
  radius : Byte
  data : List Byte
  deriving DecidableEq, Repr

/-- What `Send` transmits and returns. -/
structure Sending where
  transmitted : List (List Byte)
  err : Option String
  deriving DecidableEq, Repr

end IotController.Dongle
