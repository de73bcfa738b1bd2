/-
  What an interview finds out about a device
  (`pkg/zigbee-dongle/types/types.go`; the two `InterviewDevice` read a node descriptor
  alike).
-/
import IotController.Foundation.Bytes

namespace IotController.Dongle

open Foundation

/-- Flags of a node descriptor. -/
structure DeviceCapabilities where
  alternatePanCoordinator : Bool
  receiverOnWhenIdle : Bool
  securityCapability : Bool
  deriving DecidableEq, Repr

/-- An endpoint, as described. -/
structure EndpointInfo where
  id : UInt32
  profileID : UInt32
  deviceID : UInt32
  deviceVersion : UInt32
  inputClusters : List UInt16
  outputClusters : List UInt16
  deriving DecidableEq, Repr

/-- The result of an interview. -/
structure DeviceInterviewInfo where
  networkAddress : UInt16
  deviceType : String := ""
  manufacturerID : UInt32 := 0
  capabilities : Option DeviceCapabilities := none
  endpoints : List EndpointInfo := []
  /-- attribute 0x0004 of the Basic cluster -/
  manufacturer : String := ""
  /-- attribute 0x0005 -/
  model : String := ""
  /-- attribute 0x0007 -/
  powerSource : Byte := 0
  deriving DecidableEq, Repr

/-- The fields that are used. -/
structure NodeDescriptor where
  logicalType : Byte
  macCapabilityFlags : Byte
  manufacturerCode : UInt16
  deriving DecidableEq, Repr

def NodeDescriptor.deviceType (d : NodeDescriptor) : String :=
  if d.logicalType = 0x00 then "Coordinator"
  else if d.logicalType = 0x01 then "Router"
  else if d.logicalType = 0x02 then "EndDevice"
  else "Unknown"

def NodeDescriptor.capabilities (d : NodeDescriptor) : DeviceCapabilities where
  alternatePanCoordinator := d.macCapabilityFlags &&& 0x01 ≠ 0
  receiverOnWhenIdle := d.macCapabilityFlags &&& 0x08 ≠ 0
  securityCapability := d.macCapabilityFlags &&& 0x40 ≠ 0

/-- What `InterviewDevice` returns, from the node descriptor, if any, and the endpoints
described. -/
def interviewInfo (networkAddress : UInt16) (descriptor : Option NodeDescriptor)
    (endpoints : List EndpointInfo) : DeviceInterviewInfo :=
  match descriptor with
  | none => { networkAddress, endpoints }
  | some d =>
    { networkAddress, endpoints
      deviceType := d.deviceType
      manufacturerID := d.manufacturerCode.toUInt32
      capabilities := some d.capabilities }

end IotController.Dongle
