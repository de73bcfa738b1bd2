/-
  The custom resources the conditioner reads.

  `Condition`, `Remediation`, `TimeIntervalSpec` and `Scene` of `api/v1`, with
  the fields that the modelled functions use.  The API server admits an object
  name only when it is a DNS subdomain, so a Condition's name has no slash; the
  structure carries that fact because the conditioner's map keys rest on it.
-/
import IotController.Foundation.GoMap

namespace IotController.Api

open Foundation

/-- An instant, in nanoseconds since Go's zero time. -/
abbrev Time : Type := Int

abbrev Duration : Type := Int

namespace Time

def isZero (t : Time) : Bool := t == 0

/-- `Time.Sub`, which saturates at the range of a 64-bit Duration. -/
def sub (t u : Time) : Duration := max (-(2 ^ 63)) (min (2 ^ 63 - 1) (t - u))

theorem sub_nonneg {t u : Time} (h : u ≤ t) : 0 ≤ sub t u :=
  le_max_of_le_right (le_min (by norm_num) (Int.sub_nonneg_of_le h))

theorem add_le_of_le_sub {t u : Time} {d : Duration} (hd : 0 < d) (h : d ≤ sub t u) :
    u + d ≤ t := by
  rcases le_max_iff.mp h with hlow | hmin
  · exact absurd (lt_of_lt_of_le hd hlow) (by norm_num)
  · have hle : d ≤ t - u := (le_min_iff.mp hmin).2
    exact add_comm d u ▸ Int.add_le_of_le_sub_right hle

theorem le_sub_of_add_le {t u : Time} {d : Duration} (hd : d < 2 ^ 63) (h : u + d ≤ t) :
    d ≤ sub t u :=
  le_max_of_le_right (le_min (Int.le_sub_one_of_lt hd)
    (Int.le_sub_right_of_add_le (add_comm u d ▸ h)))

end Time

def second : Duration := 1000000000

def minute : Duration := 60 * second

/-- A part of the day, in texts. -/
structure TimePeriod where
  startTime : String
  endTime : String
  deriving DecidableEq, Repr

/-- A window around a solar event. -/
structure SunWindow where
  event : String
  before : Duration := 0
  after : Duration := 0
  deriving DecidableEq, Repr

/-- When a Remediation may act. -/
structure TimeIntervalSpec where
  times : List TimePeriod := []
  weekdays : List String := []
  daysOfMonth : List String := []
  months : List String := []
  years : List String := []
  location : String := ""
  sunRelative : List SunWindow := []
  deriving DecidableEq, Repr

/-- The window of an Epoch, in texts. -/
structure When where
  start : String := ""
  stop : String := ""
  deriving DecidableEq, Repr

/-- What a Condition does to one zone. -/
structure Remediation where
  zone : String
  activeState : String := ""
  inactiveState : String := ""
  activeScene : String := ""
  inactiveScene : String := ""
  whenGate : When := {}
  timeIntervals : List TimeIntervalSpec := []
  activeBrightnessDelta : Int := 0
  activeCompute : String := ""
  activeComputeArgs : GoMap String String := ∅
  deriving DecidableEq

/-- Labels that an alert has to carry. -/
structure Match where
  labels : GoMap String String := ∅
  deriving DecidableEq

/-- The `Condition` resource. -/
structure Condition where
  name : String
  /-- Object names are DNS subdomains. -/
  name_valid : '/' ∉ name.toList
  enabled : Bool := false
  remediations : List Remediation := []
  «matches» : List Match := []
  schedule : String := ""

/-- The values of a `Scene` resource. -/
structure Scene where
  brightness : String := ""
  color : String := ""
  colorTemperature : String := ""
  deriving DecidableEq, Repr

end IotController.Api
