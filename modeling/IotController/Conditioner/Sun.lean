/-
  Windows around a solar event
  (`modules/conditioner/sun.go`).

  A sun window is a span around sunrise, sunset, solar noon or solar midnight.  The code
  anchors it on the calendar date of `now`, so it looks at the window of one day only: the
  part of a window that lies on another date is seen only if that date's own window covers
  it.

  The calendar and the solar library are parameters.  A date is a day number; the zone of
  `now` decides where a date begins.
-/
import IotController.Conditioner.World

namespace IotController.Conditioner

open Foundation Api Proto Compute

/-! ## Events and windows -/

/-- The dates of a place, each with its midnight. -/
structure Calendar where
  midnight : Int → Time
  date : Time → Int
  date_eq_iff : ∀ t d, date t = d ↔ midnight d ≤ t ∧ t < midnight (d + 1)

abbrev SunriseSunset : Type := Location → Int → Time × Time

/-- Half of a negative span is rounded towards zero. -/
def sunEvent (sun : SunriseSunset) (event : String) (date : Int) (loc : Location) :
    Except String Time :=
  let rise := (sun loc date).1
  let set := (sun loc date).2
  if event = "sunrise" then .ok rise
  else if event = "sunset" then .ok set
  else if event = "noon" then .ok (rise + (set.sub rise).tdiv 2)
  else if event = "midnight" then
    let nextRise := (sun loc (date + 1)).1
    .ok (set + (nextRise.sub set).tdiv 2)
  else .error ("unknown sun event " ++ event.quote)

def sunRelativeWindow (cal : Calendar) (sun : SunriseSunset) (window : SunWindow) (now : Time)
    (loc : Location) : Except String (Time × Time) :=
  match sunEvent sun window.event (cal.date now) loc with
  | .error message => .error message
  | .ok event => .ok (event - window.before, event + window.after)

def inSunWindow (cal : Calendar) (sun : SunriseSunset) (window : SunWindow) (now : Time)
    (loc : Location) : Except String Bool :=
  match sunRelativeWindow cal sun window now loc with
  | .error message => .error message
  | .ok (start, stop) => .ok (!(now < start : Bool) && !(stop < now : Bool))

def Env.withSun (cal : Calendar) (sun : SunriseSunset) (env : Env) : Env :=
  { env with
    inSunWindow := fun loc window now => (Conditioner.inSunWindow cal sun window now loc).toOption }

/-! ## Continuity -/

section Continuity

variable {cal : Calendar} {sun : SunriseSunset} {window : SunWindow} {loc : Location}
  {event : Int → Time}

/-- The instant is in the window of date `d`. -/
def InWindowOf (window : SunWindow) (event : Int → Time) (d : Int) (t : Time) : Prop :=
  event d - window.before ≤ t ∧ t ≤ event d + window.after

def firstOn (cal : Calendar) (window : SunWindow) (event : Int → Time) (d d' : Int) : Time :=
  max (event d - window.before) (cal.midnight d')

def lastOn (cal : Calendar) (window : SunWindow) (event : Int → Time) (d d' : Int) : Time :=
  min (event d + window.after) (cal.midnight (d' + 1) - 1)

def Covered (cal : Calendar) (window : SunWindow) (event : Int → Time) (d d' : Int) : Prop :=
  firstOn cal window event d d' ≤ lastOn cal window event d d' →
    event d' - window.before ≤ firstOn cal window event d d' ∧
      lastOn cal window event d d' ≤ event d' + window.after

theorem between_iff (d : Int) (t : Time) {d' : Int} :
    (firstOn cal window event d d' ≤ t ∧ t ≤ lastOn cal window event d d') ↔
      InWindowOf window event d t ∧ cal.date t = d' := by
  rw [cal.date_eq_iff, ← Int.le_sub_one_iff, firstOn, lastOn, max_le_iff, le_min_iff, InWindowOf]
  tauto

theorem inSunWindow_iff (hevent : ∀ d, sunEvent sun window.event d loc = .ok (event d))
    (now : Time) :
    inSunWindow cal sun window now loc = .ok true ↔ InWindowOf window event (cal.date now) now := by
  simp only [inSunWindow, sunRelativeWindow, hevent, Except.ok.injEq, Bool.and_eq_true,
    Bool.not_eq_true', decide_eq_false_iff_not, not_lt, InWindowOf]

theorem covered_of_own_date {d : Int}
    (hown : ∀ t, InWindowOf window event d t → cal.date t = d) {d' : Int} (hne : d' ≠ d) :
    Covered cal window event d d' := by
  intro hreaches
  obtain ⟨hin, hdate⟩ := (between_iff d (firstOn cal window event d d')).mp ⟨le_rfl, hreaches⟩
  exact absurd (hdate.symm.trans (hown _ hin)) hne

/-- **Continuity of sun windows.**  Being in the window is being in that of some day exactly
when every day's window is covered on every other date by that date's own. -/
theorem inSunWindow_continuous_iff
    (hevent : ∀ d, sunEvent sun window.event d loc = .ok (event d)) :
    (∀ now, inSunWindow cal sun window now loc = .ok true ↔
      ∃ d, event d - window.before ≤ now ∧ now ≤ event d + window.after) ↔
    ∀ d d', d' ≠ d → Covered cal window event d d' := by
  constructor
  · intro hcontinuous d d' _ hreaches
    -- both ends are instants of date `d'` in the window of `d`
    have hend : ∀ t, firstOn cal window event d d' ≤ t → t ≤ lastOn cal window event d d' →
        InWindowOf window event d' t := by
      intro t hfirst hlast
      obtain ⟨hin, rfl⟩ := (between_iff d t).mp ⟨hfirst, hlast⟩
      exact (inSunWindow_iff hevent t).mp ((hcontinuous t).mpr ⟨d, hin⟩)
    exact ⟨(hend _ le_rfl hreaches).1, (hend _ hreaches le_rfl).2⟩
  · intro hcovered now
    rw [inSunWindow_iff hevent]
    refine ⟨fun h => ⟨cal.date now, h⟩, ?_⟩
    rintro ⟨d, hin⟩
    by_cases hdate : cal.date now = d
    · rw [hdate]
      exact hin
    · obtain ⟨hfirst, hlast⟩ := (between_iff d now).mpr ⟨hin, rfl⟩
      obtain ⟨hlow, hhigh⟩ := hcovered d (cal.date now) hdate (hfirst.trans hlast)
      exact ⟨hlow.trans hfirst, hlast.trans hhigh⟩

end Continuity

/-! ## Around sunset at the equinox -/

def day : Duration := 1440 * minute

theorem day_pos : 0 < day := by decide

def utc : Calendar where
  midnight d := d * day
  date t := t / day
  date_eq_iff t d := by
    rw [le_antisymm_iff, and_comm, Int.le_ediv_iff_mul_le day_pos]
    refine and_congr_right fun _ => ?_
    rw [← Int.lt_add_one_iff, Int.ediv_lt_iff_lt_mul day_pos]

def equinox : SunriseSunset := fun _ d => (d * day + 360 * minute, d * day + 1080 * minute)

def overnight : SunWindow := { event := "sunset", before := 30 * minute, after := 720 * minute }

def aroundSunset : SunWindow := { event := "sunset", before := 30 * minute, after := 30 * minute }

/-- A window that stays on its date is seen whole. -/
theorem aroundSunset_continuous :
    (∀ d, sunEvent equinox aroundSunset.event d {} = .ok (d * day + 1080 * minute)) ∧
    ∀ now, inSunWindow utc equinox aroundSunset now {} = .ok true ↔
      ∃ d : Int, d * day + 1080 * minute - 30 * minute ≤ now ∧
        now ≤ d * day + 1080 * minute + 30 * minute := by
  refine ⟨fun _ => rfl, ?_⟩
  refine (@inSunWindow_continuous_iff utc equinox aroundSunset {}
    (fun d => d * day + 1080 * minute) (fun _ => rfl)).mpr fun d d' hne => ?_
  refine covered_of_own_date (fun t ht => (utc.date_eq_iff t d).mpr ?_) hne
  have hfirst : (d * 86400000000000 + 64800000000000 - 1800000000000 : Int) ≤ t := ht.1
  have hlast : (d * 86400000000000 + 64800000000000 + 1800000000000 : Int) ≥ t := ht.2
  show (d * 86400000000000 : Int) ≤ t ∧ ((d + 1) * 86400000000000 : Int) > t
  constructor <;> omega

/-- At one in the morning the window that opened the evening before is not seen. -/
theorem overnight_closed_at_one :
    let one := 1 * day + 60 * minute
    ¬ (inSunWindow utc equinox overnight one {} = .ok true ↔
        ∃ d : Int, d * day + 1080 * minute - 30 * minute ≤ one ∧
          one ≤ d * day + 1080 * minute + 720 * minute) ∧
      (∀ d, utc.midnight d ≤ (equinox {} d).2 ∧ (equinox {} d).2 ≤ utc.midnight d + day) ∧
      ∀ env : Env, env.cfg.location = {} → withinActiveWindow (env.withSun utc equinox)
        { zone := "porch", timeIntervals := [{ sunRelative := [overnight] }] } one = false := by
  refine ⟨fun h => absurd (h.mpr ⟨0, by decide, by decide⟩) (by decide), fun d => ?_,
    fun env hloc => ?_⟩
  · show (d * 86400000000000 : Int) ≤ d * 86400000000000 + 64800000000000 ∧
      (d * 86400000000000 + 64800000000000 : Int) ≤ d * 86400000000000 + 86400000000000
    constructor <;> omega
  · have hclosed : inSunWindow utc equinox overnight (1 * day + 60 * minute) {} = .ok false := by
      decide
    simp only [withinActiveWindow, intervalActive, Env.withSun, hloc, List.isEmpty_cons,
      List.any_cons, List.any_nil, hclosed]
    rfl

end IotController.Conditioner
