/-
  `ApplyValues`, the Computer contract and the `static`
  Computer (`modules/conditioner/computer`).

  An `ApplyValues` has one group of fields per axis: the state, the brightness
  enum with its continuous sibling, the colour temperature enum with its Kelvin
  sibling, and the colour.  Two values agree on an axis if `v.only a = w.only a`.
-/
import IotController.Api.Condition
import IotController.Proto.Enums

namespace IotController.Compute

open Foundation Api Proto

/-- A float64 other than NaN, up to `==` (so the two zeros are one value). -/
inductive Double where
  | negInf
  | finite (q : ℚ)
  | posInf
  deriving DecidableEq

namespace Double

instance : Zero Double := ⟨.finite 0⟩

def pos : Double → Bool
  | negInf => false
  | finite q => 0 < q
  | posInf => true

end Double

/-- A place on earth. -/
structure Location where
  lat : Double := 0
  lon : Double := 0
  deriving DecidableEq

/-- A zone's target; zero fields are not set. -/
structure ApplyValues where
  state : ZoneState := .unspecified
  brightness : Brightness := .unspecified
  colorTemperature : ColorTemperature := .unspecified
  color : String := ""
  brightnessValue : Double := 0
  colorTemperatureKelvin : Int := 0
  deriving DecidableEq

namespace ApplyValues

def empty : ApplyValues := {}

/-- Copy the fields of one axis from `val`; an axis without fields copies nothing. -/
def setAxis (target : ApplyValues) (axis : AxisKind) (val : ApplyValues) : ApplyValues :=
  match axis with
  | .state => { target with state := val.state }
  | .brightness =>
    { target with brightness := val.brightness, brightnessValue := val.brightnessValue }
  | .colorTemperature =>
    { target with
      colorTemperature := val.colorTemperature
      colorTemperatureKelvin := val.colorTemperatureKelvin }
  | .color => { target with color := val.color }
  | .unspecified => target
  | .unrecognized _ => target

/-- The fields of one axis, with every other field at zero. -/
def only (v : ApplyValues) (axis : AxisKind) : ApplyValues := empty.setAxis axis v

@[simp] theorem only_setAxis_self (t v : ApplyValues) (a : AxisKind) :
    (t.setAxis a v).only a = v.only a := by
  cases a <;> rfl

@[simp] theorem only_setAxis_of_ne (t v : ApplyValues) {a b : AxisKind} (h : a ≠ b) :
    (t.setAxis a v).only b = t.only b := by
  cases a <;> cases b <;> first | rfl | exact absurd rfl h

@[simp] theorem only_empty (a : AxisKind) : empty.only a = empty := by
  cases a <;> rfl

theorem eq_of_only {v w : ApplyValues} (h : ∀ a, v.only a = w.only a) : v = w := by
  have hstate := congrArg ApplyValues.state (h .state)
  have hbrightness := congrArg ApplyValues.brightness (h .brightness)
  have hbrightnessValue := congrArg ApplyValues.brightnessValue (h .brightness)
  have htemperature := congrArg ApplyValues.colorTemperature (h .colorTemperature)
  have hkelvin := congrArg ApplyValues.colorTemperatureKelvin (h .colorTemperature)
  have hcolor := congrArg ApplyValues.color (h .color)
  cases v
  cases w
  simp only [only, setAxis] at hstate hbrightness hbrightnessValue htemperature hkelvin hcolor
  subst hstate hbrightness hbrightnessValue htemperature hkelvin hcolor
  rfl

def isEmptyTarget (t : ApplyValues) : Bool :=
  t.state == .unspecified && t.brightness == .unspecified && t.brightnessValue == 0 &&
    t.colorTemperature == .unspecified && t.colorTemperatureKelvin == 0 && t.color == ""

theorem isEmptyTarget_iff (t : ApplyValues) : t.isEmptyTarget = true ↔ t = empty := by
  cases t
  simp only [isEmptyTarget, empty, Bool.and_eq_true, beq_iff_eq, ApplyValues.mk.injEq]
  tauto

def claimedAxes (v : ApplyValues) : List AxisKind :=
  (if v.state ≠ .unspecified then [.state] else []) ++
    (if v.brightness ≠ .unspecified ∨ v.brightnessValue ≠ 0 then [.brightness] else []) ++
    (if v.colorTemperature ≠ .unspecified ∨ v.colorTemperatureKelvin ≠ 0
      then [.colorTemperature] else []) ++
    (if v.color ≠ "" then [.color] else [])

end ApplyValues

abbrev Args : Type := GoMap String String

/-- `Computer`, with the optional `TTLAdvisor`.  The first argument of `compute` numbers the
outside inputs, so that equal calls may be answered differently. -/
structure Computer where
  compute : Nat → Time → Location → Args → Except String ApplyValues
  suggestedTTL : Option (Args → Duration) := none

def staticName : String := "static"

/-- `args[key]`, which is empty for a missing key. -/
def Args.value (args : Args) (key : String) : String := (args.lookup key).getD ""

def staticComputer : Computer where
  compute _ _ _ args := .ok
    { state := (ZoneState.value (Args.value args "state")).getD .unspecified
      brightness := (Brightness.value (Args.value args "brightness")).getD .unspecified
      colorTemperature :=
        (ColorTemperature.value (Args.value args "color_temperature")).getD .unspecified
      color := Args.value args "color" }

end IotController.Compute
