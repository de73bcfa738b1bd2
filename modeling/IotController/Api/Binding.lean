/-
  Bindings, Devices and the events that Devices emit.

  `Binding` with its `EventTrigger` and `EventSelector`, the fields of `Device`
  that a selector reads (`api/v1`), and `DeviceEvent` (`pkg/iot/events`).
-/
import IotController.Api.Condition

namespace IotController.Api

open Foundation

/-- The devices a Binding listens to; empty fields select all. -/
structure EventSelector where
  ieee : String := ""
  device : String := ""
  deviceType : String := ""
  zone : String := ""
  labelSelector : GoMap String String := ∅
  deriving DecidableEq

/-- The event that a Binding waits for. -/
structure EventTrigger where
  property : String
  value : String := ""
  values : List String := []
  selector : EventSelector := {}
  minDuration : Duration := 0
  /-- A Duration is a 64-bit integer. -/
  minDuration_lt : minDuration < 2 ^ 63 := by decide
  deriving DecidableEq

/-- The `Binding` resource. -/
structure Binding where
  name : String
  event : EventTrigger
  condition : String
  deriving DecidableEq

/-- The `Device` resource, as Bindings see it. -/
structure Device where
  name : String
  labels : GoMap String String := ∅
  ieeeAddress : String := ""
  type : String := ""
  deriving DecidableEq

/-- The router may not have resolved the device. -/
structure DeviceEvent where
  property : String
  value : String
  device : Option Device
  deriving DecidableEq

end IotController.Api
