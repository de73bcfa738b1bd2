/-
  The enumerations of `proto/iot/v1/iot.proto`.

  `ZoneState`, `Brightness` and `ColorTemperature` reach the conditioner only
  through their name tables (`ZoneState_value` and its siblings), so they are
  closed.  `AxisKind`, `SourceKind` and `PushPolicy` arrive over the wire in a
  `PushActivation` request, where proto3 keeps numbers it has no name for; they
  carry an `unrecognized` case.
-/
import Mathlib.Tactic

namespace IotController.Proto

/-- The states of a zone. -/
inductive ZoneState where
  | unspecified
  | on
  | off
  | offtimer
  | color
  | randomcolor
  deriving DecidableEq, Repr, Inhabited

namespace ZoneState

def name : ZoneState → String
  | unspecified => "ZONE_STATE_UNSPECIFIED"
  | on => "ZONE_STATE_ON"
  | off => "ZONE_STATE_OFF"
  | offtimer => "ZONE_STATE_OFFTIMER"
  | color => "ZONE_STATE_COLOR"
  | randomcolor => "ZONE_STATE_RANDOMCOLOR"

def all : List ZoneState := [unspecified, on, off, offtimer, color, randomcolor]

def value (s : String) : Option ZoneState := all.find? fun z => z.name = s

@[simp] theorem value_name (z : ZoneState) : value z.name = some z := by
  cases z <;> decide

theorem name_ne_empty (z : ZoneState) : z.name ≠ "" := by
  cases z <;> decide

end ZoneState

/-- The levels with a name. -/
inductive Brightness where
  | unspecified
  | full
  | dim
  | low
  | dimplus
  | lowplus
  | verylow
  deriving DecidableEq, Repr, Inhabited

namespace Brightness

def name : Brightness → String
  | unspecified => "BRIGHTNESS_UNSPECIFIED"
  | full => "BRIGHTNESS_FULL"
  | dim => "BRIGHTNESS_DIM"
  | low => "BRIGHTNESS_LOW"
  | dimplus => "BRIGHTNESS_DIMPLUS"
  | lowplus => "BRIGHTNESS_LOWPLUS"
  | verylow => "BRIGHTNESS_VERYLOW"

def all : List Brightness := [unspecified, full, dim, low, dimplus, lowplus, verylow]

def value (s : String) : Option Brightness := all.find? fun b => b.name = s

end Brightness

/-- The temperatures with a name. -/
inductive ColorTemperature where
  | unspecified
  | firstlight
  | morning
  | day
  | lateafternoon
  | evening
  deriving DecidableEq, Repr, Inhabited

namespace ColorTemperature

def name : ColorTemperature → String
  | unspecified => "COLOR_TEMPERATURE_UNSPECIFIED"
  | firstlight => "COLOR_TEMPERATURE_FIRSTLIGHT"
  | morning => "COLOR_TEMPERATURE_MORNING"
  | day => "COLOR_TEMPERATURE_DAY"
  | lateafternoon => "COLOR_TEMPERATURE_LATEAFTERNOON"
  | evening => "COLOR_TEMPERATURE_EVENING"

def all : List ColorTemperature :=
  [unspecified, firstlight, morning, day, lateafternoon, evening]

def value (s : String) : Option ColorTemperature := all.find? fun c => c.name = s

end ColorTemperature

/-- The types of devices. -/
inductive DeviceType where
  | unspecified
  | coordinator
  | basicLight
  | colorLight
  | relay
  | leak
  | button
  | moisture
  | temperature
  | motion
  | ispindel
  | soil
  | airQuality
  | router
  deriving DecidableEq, Repr, Inhabited

/-- What a stack is for. -/
inductive AxisKind where
  | unspecified
  | state
  | brightness
  | colorTemperature
  | color
  | unrecognized (number : Int)
  deriving DecidableEq, Repr, Inhabited

namespace AxisKind

def name : AxisKind → String
  | unspecified => "AXIS_KIND_UNSPECIFIED"
  | state => "AXIS_KIND_STATE"
  | brightness => "AXIS_KIND_BRIGHTNESS"
  | colorTemperature => "AXIS_KIND_COLOR_TEMPERATURE"
  | color => "AXIS_KIND_COLOR"
  | unrecognized n => n.repr

end AxisKind

/-- Who pushes an Activation. -/
inductive SourceKind where
  | unspecified
  | background
  | timeWindow
  | binding
  | alert
  | button
  | manual
  | unrecognized (number : Int)
  deriving DecidableEq, Repr, Inhabited

namespace SourceKind

def name : SourceKind → String
  | unspecified => "SOURCE_KIND_UNSPECIFIED"
  | background => "SOURCE_KIND_BACKGROUND"
  | timeWindow => "SOURCE_KIND_TIME_WINDOW"
  | binding => "SOURCE_KIND_BINDING"
  | alert => "SOURCE_KIND_ALERT"
  | button => "SOURCE_KIND_BUTTON"
  | manual => "SOURCE_KIND_MANUAL"
  | unrecognized n => n.repr

end SourceKind

/-- What a push does to its source's entry. -/
inductive PushPolicy where
  | unspecified
  | refresh
  | replace
  | unrecognized (number : Int)
  deriving DecidableEq, Repr, Inhabited

end IotController.Proto
