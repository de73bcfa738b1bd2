/-
  The `prom_scalar` Computer
  (`modules/conditioner/computer/prom_scalar.go`).

  A call maps the number that the server answers with onto one of the two continuous axes.
  When the server cannot be asked, the answer is the fail-safe that the arguments declare,
  for either axis, and otherwise the last mapped value for the same digest of the arguments.

  The arithmetic of float64 is a parameter, since nothing here depends on it but that the
  zero is zero.
-/
import IotController.Compute.Query

namespace IotController.Compute

open Foundation Api Proto

/-- float64, as far as it is used. -/
structure Floats (F : Type) where
  zero : F
  add : F → F → F
  sub : F → F → F
  mul : F → F → F
  div : F → F → F
  eq : F → F → Bool
  lt : F → F → Bool
  /-- `int32(f)` -/
  toInt32 : F → Int
  parseFloat : String → Except String F
  /-- `%g` -/
  format : F → String
  eq_zero : eq zero zero = true

/-- The axis that the scalar drives. -/
inductive OutputAxis where
  | unknown
  | brightnessValue
  | colorTemperatureKelvin
  deriving DecidableEq

def lowerWord (s : String) : String := String.ofList ((trimSpace s).toList.map toLower)

def parseOutputAxis (s : String) : Except String OutputAxis :=
  let word := lowerWord s
  if word = "brightness" ∨ word = "brightness_value" then .ok .brightnessValue
  else if word = "color_temperature" ∨ word = "color_temperature_kelvin" then
    .ok .colorTemperatureKelvin
  else if word = "" then .error "output_axis is required"
  else .error ("unknown output_axis " ++ s.quote ++ " (want brightness or color_temperature)")

/-- `ApplyValues` over any number format. -/
structure ScalarValues (F : Type) where
  state : ZoneState := .unspecified
  brightness : Brightness := .unspecified
  colorTemperature : ColorTemperature := .unspecified
  color : String := ""
  brightnessValue : F
  colorTemperatureKelvin : Int := 0
  deriving DecidableEq

/-- The parsed arguments. -/
structure PromScalarParams (F : Type) where
  promql : String
  axis : OutputAxis
  inMin : F
  inMax : F
  outMin : F
  outMax : F
  clamp : Bool
  deriving DecidableEq

/-- A call, and what the server answers. -/
structure ScalarCall (F : Type) where
  args : Args
  fetch : Except String F

variable {F : Type} (floats : Floats F)

variable (args : Args) (p : PromScalarParams F)

def parseRequiredFloat (key : String) : Except String F :=
  let s := trimSpace (Args.value args key)
  if s = "" then .error ("args." ++ key ++ " is required")
  else match floats.parseFloat s with
    | .ok f => .ok f
    | .error err => .error ("args." ++ key ++ " = " ++ s.quote ++ ": not a number: " ++ err)

def parseClamp : Except String Bool :=
  let s := lowerWord (Args.value args "clamp")
  if s = "" ∨ s = "true" ∨ s = "yes" ∨ s = "1" then .ok true
  else if s = "false" ∨ s = "no" ∨ s = "0" then .ok false
  else .error ("clamp " ++ s.quote ++ ": want true or false")

def parsePromScalarParams : Except String (PromScalarParams F) := do
  let promql := trimSpace (Args.value args "query")
  if promql = "" then .error "args.query is required"
  let axis ← parseOutputAxis (Args.value args "output_axis")
  let inMin ← parseRequiredFloat floats args "in_min"
  let inMax ← parseRequiredFloat floats args "in_max"
  let outMin ← parseRequiredFloat floats args "out_min"
  let outMax ← parseRequiredFloat floats args "out_max"
  if floats.eq inMin inMax then
    .error ("in_min == in_max (" ++ floats.format inMin ++ "): mapping has zero input range")
  let clamp ← parseClamp args
  .ok { promql, axis, inMin, inMax, outMin, outMax, clamp }

def PromScalarParams.interpolate (value : F) : F :=
  let t := floats.div (floats.sub value p.inMin) (floats.sub p.inMax p.inMin)
  let out := floats.add p.outMin (floats.mul t (floats.sub p.outMax p.outMin))
  if p.clamp = false then out
  else
    let (lo, hi) := if floats.lt p.outMax p.outMin then (p.outMax, p.outMin) else (p.outMin, p.outMax)
    if floats.lt out lo then lo else if floats.lt hi out then hi else out

def PromScalarParams.assignAxis (v : F) : ScalarValues F :=
  match p.axis with
  | .unknown => { brightnessValue := floats.zero }
  | .brightnessValue => { brightnessValue := v }
  | .colorTemperatureKelvin =>
    { brightnessValue := floats.zero, colorTemperatureKelvin := floats.toInt32 v }

def parseOnError (key : String) : Except String (Option F) :=
  let s := trimSpace (Args.value args key)
  if s = "" then .ok none
  else match floats.parseFloat s with
    | .ok f => .ok (some f)
    | .error err => .error (key ++ " " ++ s.quote ++ ": " ++ err)

def parseOnErrorContinuous : Except String (Option (ScalarValues F)) := do
  let brightness ← parseOnError floats args "on_error.brightness_value"
  let kelvin ← parseOnError floats args "on_error.color_temperature_kelvin"
  if brightness.isNone && kelvin.isNone then .ok none
  else .ok (some
    { brightnessValue := brightness.getD floats.zero
      colorTemperatureKelvin := (kelvin.map floats.toInt32).getD 0 })

abbrev ScalarCache (F : Type) : Type := GoMap String (ScalarValues F)

variable (digest : String → String)

/-- `Compute` of the scalar, with the cache after it. -/
def promScalarCompute (cache : ScalarCache F) (call : ScalarCall F) :
    Except String (ScalarValues F) × ScalarCache F :=
  match parsePromScalarParams floats call.args with
  | .error err => (.error ("prom_scalar: " ++ err), cache)
  | .ok p =>
    let cacheKey := hashArgs digest call.args
    match call.fetch with
    | .error err =>
      match parseOnErrorContinuous floats call.args with
      | .error perr => (.error ("prom_scalar: on_error parse: " ++ perr), cache)
      | .ok (some failSafe) => (.ok failSafe, cache)
      | .ok none =>
        match cache.lookup cacheKey with
        | some cached => (.ok cached, cache)
        | none => (.error ("prom_scalar: " ++ err), cache)
    | .ok value =>
      let vals := p.assignAxis floats (p.interpolate floats value)
      (.ok vals, cache.insert cacheKey vals)

def scalarCacheAfter (calls : List (ScalarCall F)) : ScalarCache F :=
  run (fun cache call => (promScalarCompute floats digest cache call).2) ∅ calls

def scalarAnswer (before : List (ScalarCall F)) (call : ScalarCall F) :
    Except String (ScalarValues F) :=
  (promScalarCompute floats digest (scalarCacheAfter floats digest before) call).1

/-! ## The axis -/

/-- Only the field of the axis may differ from zero. -/
structure ScalarValues.OnAxis (axis : OutputAxis) (v : ScalarValues F) : Prop where
  state : v.state = .unspecified
  brightness : v.brightness = .unspecified
  colorTemperature : v.colorTemperature = .unspecified
  color : v.color = ""
  brightnessValue : axis ≠ .brightnessValue → floats.eq v.brightnessValue floats.zero = true
  colorTemperatureKelvin : axis ≠ .colorTemperatureKelvin → v.colorTemperatureKelvin = 0

/-- The fail-safe is zero off its axis. -/
def FailSafeOnAxis (axis : OutputAxis) : Prop :=
  ∀ failSafe, parseOnErrorContinuous floats args = .ok (some failSafe) →
    (axis ≠ .brightnessValue → floats.eq failSafe.brightnessValue floats.zero = true) ∧
    (axis ≠ .colorTemperatureKelvin → failSafe.colorTemperatureKelvin = 0)

/-- Earlier calls with the digest drive the same axis. -/
def SharesAxis (calls : List (ScalarCall F)) (args : Args) (axis : OutputAxis) : Prop :=
  ∀ c ∈ calls, hashArgs digest c.args = hashArgs digest args →
    ∀ q, parsePromScalarParams floats c.args = .ok q → q.axis = axis

variable {floats digest}

theorem assignAxis_onAxis (v : F) :
    (p.assignAxis floats v).OnAxis floats p.axis := by
  unfold PromScalarParams.assignAxis
  cases p.axis <;> constructor <;> simp [floats.eq_zero]

theorem failSafe_onAxis {args : Args} {failSafe : ScalarValues F} {axis : OutputAxis}
    (h : parseOnErrorContinuous floats args = .ok (some failSafe))
    (haxis : FailSafeOnAxis floats args axis) : failSafe.OnAxis floats axis := by
  obtain ⟨hbrightness, hkelvin⟩ := haxis failSafe h
  suffices hrest : failSafe.state = .unspecified ∧ failSafe.brightness = .unspecified ∧
      failSafe.colorTemperature = .unspecified ∧ failSafe.color = "" from
    ⟨hrest.1, hrest.2.1, hrest.2.2.1, hrest.2.2.2, hbrightness, hkelvin⟩
  unfold parseOnErrorContinuous at h
  cases hb : parseOnError floats args "on_error.brightness_value" with
  | error => simp [hb, bind, Except.bind] at h
  | ok brightness =>
    cases hk : parseOnError floats args "on_error.color_temperature_kelvin" with
    | error => simp [hb, hk, bind, Except.bind] at h
    | ok kelvin =>
      simp only [hb, hk, bind, Except.bind] at h
      split at h
      · cases h
      · cases h
        exact ⟨rfl, rfl, rfl, rfl⟩

theorem cached_onAxis {calls : List (ScalarCall F)} {args : Args} {axis : OutputAxis}
    (h : SharesAxis floats digest calls args axis) {v : ScalarValues F}
    (hv : (scalarCacheAfter floats digest calls).lookup (hashArgs digest args) = some v) :
    v.OnAxis floats axis := by
  refine @run_invariant_of_mem _ _ _
    (fun cache : ScalarCache F => ∀ v, cache.lookup (hashArgs digest args) = some v →
      v.OnAxis floats axis) calls (fun cache c hc hcache v hv => ?_) ∅ nofun v hv
  have hshared := h c hc
  unfold promScalarCompute at hv
  cases hq : parsePromScalarParams floats c.args with
  | error => exact hcache v (by simpa [hq] using hv)
  | ok q =>
    cases hfetch : c.fetch with
    | ok value =>
      simp only [hq, hfetch, GoMap.lookup_insert_eq] at hv
      split at hv
      · rename_i hkey
        cases hv
        exact hshared hkey.symm q hq ▸ assignAxis_onAxis q _
      · exact hcache v hv
    | error =>
      refine hcache v ?_
      simp only [hq, hfetch] at hv
      repeat' split at hv
      all_goals exact hv

/-- A successful call leaves the other axes at zero, if its fail-safe does and earlier calls
with its digest are for the same axis. -/
theorem promScalar_on_axis (floats : Floats F) (digest : String → String)
    (before : List (ScalarCall F)) (call : ScalarCall F) {p : PromScalarParams F}
    (hp : parsePromScalarParams floats call.args = .ok p)
    (hfailSafe : FailSafeOnAxis floats call.args p.axis)
    (hshared : SharesAxis floats digest before call.args p.axis) {v : ScalarValues F}
    (hv : scalarAnswer floats digest before call = .ok v) : v.OnAxis floats p.axis := by
  unfold scalarAnswer promScalarCompute at hv
  rw [hp] at hv
  cases hfetch : call.fetch with
  | ok value =>
    simp only [hfetch] at hv
    cases hv
    exact assignAxis_onAxis p _
  | error err =>
    simp only [hfetch] at hv
    split at hv
    · cases hv
    · cases hv
      exact failSafe_onAxis ‹_› hfailSafe
    · split at hv
      · cases hv
        exact cached_onAxis hshared ‹_›
      · cases hv

def wholeFloats : Floats Int where
  zero := 0
  add := (· + ·)
  sub := (· - ·)
  mul := (· * ·)
  div := (· / ·)
  eq a b := a = b
  lt a b := a < b
  toInt32 := id
  parseFloat s :=
    if s = "0" then .ok 0 else if s = "100" then .ok 100 else if s = "2200" then .ok 2200
    else .error "invalid syntax"
  format := Int.repr
  eq_zero := rfl

def cloudArgs (onError value : String) : Args :=
  GoMap.ofList [("query", "clouds"), ("output_axis", "brightness"), ("in_min", "0"),
    ("in_max", "100"), ("out_min", "0"), ("out_max", "100"), (onError, value)]

def cloudParams : PromScalarParams Int := ⟨"clouds", .brightnessValue, 0, 100, 0, 100, true⟩

/-- The server is out of reach, and the answer is the brightness that is declared. -/
theorem clouds_on_axis :
    let call : ScalarCall Int := ⟨cloudArgs "on_error.brightness_value" "100", .error "timeout"⟩
    scalarAnswer wholeFloats id [] call = .ok { brightnessValue := 100 } ∧
      ScalarValues.OnAxis wholeFloats .brightnessValue { brightnessValue := 100 } := by
  intro call
  have hanswer : scalarAnswer wholeFloats id [] call = .ok { brightnessValue := 100 } := by
    decide +kernel
  have honError : parseOnErrorContinuous wholeFloats call.args =
      .ok (some { brightnessValue := 100 }) := by
    decide +kernel
  refine ⟨hanswer, promScalar_on_axis wholeFloats id [] call (p := cloudParams)
    (by decide +kernel) (fun failSafe h => ?_) nofun hanswer⟩
  cases honError.symm.trans h
  exact ⟨fun hne => absurd rfl hne, fun _ => rfl⟩

/-- With a colour temperature declared the call for the brightness sets that. -/
theorem clouds_set_kelvin :
    let args := cloudArgs "on_error.color_temperature_kelvin" "2200"
    parsePromScalarParams wholeFloats args = .ok cloudParams ∧
      scalarAnswer wholeFloats id [] ⟨args, .error "timeout"⟩ =
        .ok { brightnessValue := 0, colorTemperatureKelvin := 2200 } := by
  decide +kernel

end IotController.Compute
