/-
  The two forms of a zone's brightness
  (`pkg/iot/zone.go`, `AdjustBrightness` in `modules/zonekeeper/zonekeeper.go`).

  The Status reports the enumeration value, a Flush sends the number.  The setters write
  both.  The two steps write the enumeration value alone, so that from then on the forms
  disagree, and a call of `AdjustBrightness` is reported and not seen on a light.
-/
import IotController.ZoneKeeper.Keeper

namespace IotController.ZoneKeeper

open Foundation Api Proto Compute
open Iot

/-! ## Setters -/

/-- The level is the one nearest to the number. -/
def FormsAgree (z : Zone) : Prop := z.brightness = brightnessNearestEnum z.brightnessValue

/-- The step does not move. -/
def AtTheEnd (z : Zone) : Setter → Prop
  | .incrementBrightness => z.brightness = .full
  | .decrementBrightness => z.brightness = .verylow
  | _ => True

theorem nearestEnum_canonical (b : Brightness) :
    brightnessNearestEnum (brightnessCanonical b) = b := by
  cases b <;> decide +kernel

theorem brightnessValue_incrementBrightness (z : Zone) :
    z.incrementBrightness.brightnessValue = z.brightnessValue := by
  unfold Zone.incrementBrightness
  split <;> rfl

theorem brightnessValue_decrementBrightness (z : Zone) :
    z.decrementBrightness.brightnessValue = z.brightnessValue := by
  unfold Zone.decrementBrightness
  split <;> rfl

theorem incrementBrightness_eq_iff (z : Zone) :
    z.incrementBrightness.brightness = z.brightness ↔ z.brightness = .full := by
  unfold Zone.incrementBrightness
  split <;> simp_all

theorem decrementBrightness_eq_iff (z : Zone) :
    z.decrementBrightness.brightness = z.brightness ↔ z.brightness = .verylow := by
  unfold Zone.decrementBrightness
  split <;> simp_all

theorem formsAgree_apply_iff {z : Zone} (h : FormsAgree z) (c : Setter) :
    FormsAgree (c.apply z) ↔ AtTheEnd z c := by
  cases c with
  | setState | setColorTemperature | setColorTemperatureKelvin | setColor =>
    exact iff_of_true h trivial
  | setBrightness b => exact iff_of_true (nearestEnum_canonical b).symm trivial
  | setBrightnessValue => exact iff_of_true rfl trivial
  | incrementBrightness =>
    show z.incrementBrightness.brightness =
      brightnessNearestEnum z.incrementBrightness.brightnessValue ↔ _
    rw [brightnessValue_incrementBrightness, ← h]
    exact incrementBrightness_eq_iff z
  | decrementBrightness =>
    show z.decrementBrightness.brightness =
      brightnessNearestEnum z.decrementBrightness.brightnessValue ↔ _
    rw [brightnessValue_decrementBrightness, ← h]
    exact decrementBrightness_eq_iff z

theorem brightnessValue_adjustBrightness (delta : Int) (z : Zone) :
    (adjustBrightness delta z).brightnessValue = z.brightnessValue := by
  have hiterate : ∀ {step : Zone → Zone}, (∀ z, (step z).brightnessValue = z.brightnessValue) →
      ∀ n, (step^[n] z).brightnessValue = z.brightnessValue := by
    intro step hstep n
    induction n with
    | zero => rfl
    | succ _ ih => rw [Function.iterate_succ_apply', hstep, ih]
  unfold adjustBrightness
  dsimp only
  split_ifs
  · exact hiterate brightnessValue_incrementBrightness _
  · exact hiterate brightnessValue_incrementBrightness _
  · exact hiterate brightnessValue_decrementBrightness _
  · exact hiterate brightnessValue_decrementBrightness _
  · rfl

theorem defaultBrightnessMap_injective : Function.Injective defaultBrightnessMap := by
  intro a b h
  cases a <;> cases b <;> first | rfl | exact absurd h (by decide)

theorem brightVal_ne_iff {z w : Zone} (hvalue : w.brightnessValue = z.brightnessValue)
    (hne : w.brightness ≠ z.brightness) :
    w.brightVal ≠ z.brightVal ↔ z.brightnessValue.pos = false := by
  unfold Zone.brightVal
  rw [hvalue]
  cases hpos : z.brightnessValue.pos with
  | true => simp
  | false => simpa using defaultBrightnessMap_injective.ne hne

/-- **The two forms of the brightness** agree all along a sequence of calls exactly when no step
moves.  A call of `AdjustBrightness` that changes the Status changes the next Flush's level
exactly when the number was never set. -/
theorem brightness_forms_agree_iff (z : Zone) (hz : FormsAgree z) (calls : List Setter) :
    ((∀ n, FormsAgree (run Setter.apply z (calls.take n))) ↔
        Along Setter.apply AtTheEnd z calls) ∧
      ∀ (api : ZoneResource) (env : FlushEnv) (name : String) (delta : Int) (k k' : Keeper)
        (w w' : LiveZone) (status : ZoneStatus),
        getZone api name k = .ok (w, k') →
        (adjustBrightnessCall api env name delta k).status = some status →
        status.brightness ≠ (apiStatus w.values).brightness →
        (adjustBrightnessCall api env name delta k).keeper.zones.lookup name = some w' →
        (w'.values.brightVal ≠ w.values.brightVal ↔ w.values.brightnessValue.pos = false) := by
  have hstep : ∀ z : Zone, ∀ c ∈ calls, FormsAgree z →
      (FormsAgree (Setter.apply z c) ↔ AtTheEnd z c) := fun z c _ h => formsAgree_apply_iff h c
  refine ⟨invariant_iff_along hstep hz, ?_⟩
  intro api env name delta k k' w w' status hget hstatus hreported hafter
  unfold adjustBrightnessCall at hstatus hafter
  rw [hget] at hstatus hafter
  by_cases hdelta : delta = 0
  · simp [hdelta] at hstatus
  simp only [if_neg hdelta, Option.some.injEq, GoMap.lookup_insert_eq, if_true] at hstatus hafter
  subst hstatus hafter
  have hvalue :
      (flush env unlimited
        { w with values := adjustBrightness delta w.values }).zone.values.brightnessValue
        = w.values.brightnessValue := by
    rw [values_flush]
    split_ifs
    · exact brightnessValue_adjustBrightness delta w.values
    · exact brightnessValue_adjustBrightness delta w.values
  exact brightVal_ne_iff hvalue fun h => hreported (congrArg Brightness.name h)

/-! ### A dimmer without effect -/

def studyZone (values : Zone) : LiveZone where
  name := "study"
  values := values
  devices := [⟨"desk", .basicLight⟩]
  named := by decide
  distinct := by decide

def studyKeeper (values : Zone) : Keeper :=
  { zones := (∅ : GoMap String LiveZone).insert "study" (studyZone values) }

def studyEnv : FlushEnv where
  range := MapOrder.stored
  now _ _ := 0
  sentAt _ _ := 0
  reply _ _ := none

def studyDimmed (delta : Int) (values : Zone) : Answer :=
  adjustBrightnessCall { get := .found {} } studyEnv "study" delta (studyKeeper values)

def studyDim : ZoneStatus := { brightness := "BRIGHTNESS_DIM" }

/-- The forms of a dimmed zone agree, and at full brightness too.  A step up is reported and
does not change the level. -/
theorem study_first_step : FormsAgree (initialValues studyDim) ∧
    (∀ n, FormsAgree (run Setter.apply (initialValues studyDim)
      ([.setBrightness .full, .incrementBrightness].take n))) ∧
    ((adjustBrightnessCall { get := .found studyDim } studyEnv "study" 1 {}).keeper.zones.lookup
        "study").map (fun w => w.values.brightVal) = some (initialValues studyDim).brightVal := by
  have hdim : FormsAgree (initialValues studyDim) := by
    unfold FormsAgree
    decide +kernel
  have hagree := brightness_forms_agree_iff (initialValues studyDim) hdim
    [.setBrightness .full, .incrementBrightness]
  refine ⟨hdim, hagree.1.mpr ⟨trivial, rfl, trivial⟩, ?_⟩
  have hlevel := hagree.2 { get := .found studyDim } studyEnv "study" 1 {} _ _ _ _ rfl rfl
    (by decide +kernel) rfl
  exact congrArg some (not_not.mp fun h => absurd (hlevel.mp h) (by decide +kernel))

/-- At full brightness a step down is reported, and the light is sent the level
it had. -/
theorem study_step_not_sent :
    (studyDimmed (-1) (({} : Zone).setBrightness .full)).status.map ZoneStatus.brightness =
        some "BRIGHTNESS_DIMPLUS" ∧
      (studyDimmed (-1) (({} : Zone).setBrightness .full)).sent =
        [("desk", .on), ("desk", .setBrightness 254)] ∧
      (({} : Zone).setBrightness .full).brightVal = 254 ∧
      ¬ FormsAgree (({} : Zone).setBrightness .full).decrementBrightness := by
  refine ⟨rfl, ?_, ?_, ?_⟩
  · decide +kernel
  · decide +kernel
  · unfold FormsAgree
    decide +kernel

end IotController.ZoneKeeper
