/-
  The `ramp` Computer and the daily window
  (`modules/conditioner/computer/ramp.go`, `computeWindow` of `fade.go`).

  A ramp moves one field of a zone step by step between two values, along their physical
  order, over a window that opens every day at a local time.  Ramps and window fades find
  the window from the calendar date of the present instant: past local midnight they look at
  the window of the new day, which has not opened yet.

  `DailyWindow` is such a window in a zone with a fixed offset, for which every date has 24
  hours.  Progress and positions are exact rationals.
-/
import IotController.Compute.Fade

namespace IotController.Compute

open Foundation Api Proto Iot

/-! ## Steps in physical order -/

def brightnessPhysical : List Brightness := [.verylow, .low, .lowplus, .dim, .dimplus, .full]

def colorTempPhysical : List ColorTemperature :=
  [.firstlight, .morning, .day, .lateafternoon, .evening]

section Steps

variable {E : Type} [DecidableEq E]

def rampIndex (length : Nat) (start stop : Nat) (progress : ℚ) : Nat :=
  (min (max (mathRound (lerp start stop progress)) 0) (length - 1)).toNat

/-- `interpolateBrightness` and `interpolateColorTemp`: the step nearest to the line between the
ends. -/
def interpolateStep (physical : List E) (start stop : E) (progress : ℚ) : E :=
  if start ∈ physical ∧ stop ∈ physical then
    physical.getD
      (rampIndex physical.length (physical.idxOf start) (physical.idxOf stop) progress) stop
  else stop

theorem interpolateStep_ne {physical : List E} {stop e : E} (hstop : stop ≠ e)
    (hphysical : e ∉ physical) (start : E) (progress : ℚ) :
    interpolateStep physical start stop progress ≠ e := by
  unfold interpolateStep
  split
  · rw [List.getD_eq_getElem?_getD]
    cases hget : physical[rampIndex physical.length (physical.idxOf start)
        (physical.idxOf stop) progress]? with
    | none => exact hstop
    | some e' =>
      rintro rfl
      exact hphysical (List.mem_of_getElem? hget)
  · exact hstop

end Steps

def interpolateBrightness : Brightness → Brightness → ℚ → Brightness :=
  interpolateStep brightnessPhysical

def interpolateColorTemp : ColorTemperature → ColorTemperature → ℚ → ColorTemperature :=
  interpolateStep colorTempPhysical

def rampEnds {E : Type} (parse : String → Option E) (what : String) (names : List String)
    (args : Args) : Except String (E × E) :=
  let unknown (s : String) : String :=
    "ramp: unknown " ++ what ++ " " ++ s.quote ++ " (want one of " ++ ", ".intercalate names ++ ")"
  match parse (Args.value args "from") with
  | none => .error (unknown (Args.value args "from"))
  | some start =>
    match parse (Args.value args "to") with
    | none => .error (unknown (Args.value args "to"))
    | some stop => .ok (start, stop)

def rampField (lib : GoLibrary) (args : Args) (progress : ℚ) : Except String ApplyValues :=
  let field := Args.value args "field"
  if field = "brightness" then do
    let (start, stop) ← rampEnds (parseBrightness lib) "brightness"
      (brightnessPhysical.map Brightness.name) args
    .ok { brightness := interpolateBrightness start stop progress }
  else if field = "color_temperature" then do
    let (start, stop) ← rampEnds (parseColorTemp lib) "color_temperature"
      (colorTempPhysical.map ColorTemperature.name) args
    .ok { colorTemperature := interpolateColorTemp start stop progress }
  else if field = "" then .error "ramp: args.field is required (brightness | color_temperature)"
  else
    .error ("ramp: unknown field " ++ field.quote ++ " (want brightness | color_temperature)")

def rampTimezone (args : Args) : String :=
  if Args.value args "timezone" = "" then "UTC" else Args.value args "timezone"

/-- `Compute` of the ramp. -/
def rampCompute (lib : GoLibrary) (now : Time) (args : Args) : Except String ApplyValues :=
  let durationStr := Args.value args "duration"
  let tzStr := rampTimezone args
  let startAtStr := Args.value args "start_at"
  match lib.parseDuration durationStr with
  | .error message => .error ("ramp: parse duration " ++ durationStr.quote ++ ": " ++ message)
  | .ok duration =>
    if duration ≤ 0 then
      .error ("ramp: duration must be > 0, got " ++ lib.formatDuration duration)
    else match lib.loadLocation tzStr with
      | .error message => .error ("ramp: load timezone " ++ tzStr.quote ++ ": " ++ message)
      | .ok date =>
        match parseHHMM lib startAtStr with
        | .error message =>
          .error ("ramp: parse start_at " ++ startAtStr.quote ++ ": " ++ message)
        | .ok (hh, mm) =>
          let startToday := date now hh mm
          if now < startToday ∨ startToday + duration < now then .ok {}
          else
            rampField lib args (max 0 (min 1 ((now.sub startToday : ℚ) / (duration : ℚ))))

/-! ## Days -/

def dayLength : Duration := 24 * 60 * minute

/-- A window that opens every day at `hh:mm` in a zone `offset` ahead of UTC, and lasts
at most a day. -/
structure DailyWindow where
  offset : Duration
  hh : Int
  mm : Int
  duration : Duration
  clock : 0 ≤ hh ∧ hh ≤ 23 ∧ 0 ≤ mm ∧ mm ≤ 59
  length : 0 < duration ∧ duration ≤ dayLength

namespace DailyWindow

def date (w : DailyWindow) (t : Time) : Int := (t + w.offset) / dayLength

def start (w : DailyWindow) (d : Int) : Time :=
  d * dayLength - w.offset + (w.hh * 60 + w.mm) * minute

def zone (w : DailyWindow) : TimeZone := fun t hh mm =>
  w.date t * dayLength - w.offset + (hh * 60 + mm) * minute

/-- The window of date `d` is open. -/
def Covers (w : DailyWindow) (d : Int) (now : Time) : Prop :=
  w.start d ≤ now ∧ now ≤ w.start d + w.duration

instance (w : DailyWindow) (d : Int) (now : Time) : Decidable (w.Covers d now) :=
  inferInstanceAs (Decidable (_ ∧ _))

def progress (w : DailyWindow) (d : Int) (now : Time) : ℚ :=
  ((now - w.start d : Int) : ℚ) / (w.duration : ℚ)

variable {w : DailyWindow} {d : Int} {now : Time}

theorem zone_eq_start (w : DailyWindow) (now : Time) :
    w.zone now w.hh w.mm = w.start (w.date now) :=
  rfl

theorem date_of_covers (h : w.Covers d now) :
    w.date now = d ∨ w.date now = d + 1 ∧ now ≤ w.start (d + 1) := by
  have hint : ∀ now offset d hh mm duration : Int,
      0 ≤ hh → hh ≤ 23 → 0 ≤ mm → mm ≤ 59 → duration ≤ 86400000000000 →
      d * 86400000000000 - offset + (hh * 60 + mm) * 60000000000 ≤ now →
      now ≤ d * 86400000000000 - offset + (hh * 60 + mm) * 60000000000 + duration →
      (now + offset) / 86400000000000 = d ∨ (now + offset) / 86400000000000 = d + 1 ∧
        now ≤ (d + 1) * 86400000000000 - offset + (hh * 60 + mm) * 60000000000 := by
    intro now offset d hh mm duration _ _ _ _ _ _ _
    omega
  obtain ⟨hh0, hh1, hm0, hm1⟩ := w.clock
  exact hint now w.offset d w.hh w.mm w.duration hh0 hh1 hm0 hm1 w.length.2 h.1 h.2

theorem outside_iff : (now < w.start d ∨ w.start d + w.duration < now) ↔ ¬ w.Covers d now := by
  rw [Covers, not_and_or, not_le, not_le]

theorem progress_mem (h : w.Covers d now) : 0 ≤ w.progress d now ∧ w.progress d now ≤ 1 := by
  have hpos : (0 : ℚ) < (w.duration : ℚ) := by exact_mod_cast w.length.1
  have hopen : (0 : Int) ≤ now - w.start d := Int.sub_nonneg_of_le h.1
  have hclose : now - w.start d ≤ w.duration := Int.sub_left_le_of_le_add h.2
  refine ⟨div_nonneg (by exact_mod_cast hopen) hpos.le, ?_⟩
  rw [progress, div_le_one hpos]
  exact_mod_cast hclose

theorem sub_start (h : w.Covers d now) : now.sub (w.start d) = now - w.start d := by
  have hopen : (0 : Int) ≤ now - w.start d := Int.sub_nonneg_of_le h.1
  have hclose : now - w.start d ≤ w.duration := Int.sub_left_le_of_le_add h.2
  have hday : w.duration ≤ 86400000000000 := w.length.2
  have hrange : (now - w.start d : Int) ≤ 2 ^ 63 - 1 := by
    refine le_trans (le_trans hclose hday) ?_
    norm_num
  rw [Time.sub, min_eq_right hrange, max_eq_right]
  exact le_trans (by norm_num) hopen

end DailyWindow

/-- Arguments of a ramp over the window: they parse, and the ramp leads to a value. -/
structure RampArgs (lib : GoLibrary) (args : Args) (w : DailyWindow) : Prop where
  duration : lib.parseDuration (Args.value args "duration") = .ok w.duration
  zone : lib.loadLocation (rampTimezone args) = .ok w.zone
  startAt : parseHHMM lib (Args.value args "start_at") = .ok (w.hh, w.mm)
  ends :
    (Args.value args "field" = "brightness" ∧ ∃ start stop,
      parseBrightness lib (Args.value args "from") = some start ∧
      parseBrightness lib (Args.value args "to") = some stop ∧ stop ≠ .unspecified) ∨
    (Args.value args "field" = "color_temperature" ∧ ∃ start stop,
      parseColorTemp lib (Args.value args "from") = some start ∧
      parseColorTemp lib (Args.value args "to") = some stop ∧ stop ≠ .unspecified)

section Ramp

variable {lib : GoLibrary} {args : Args} {w : DailyWindow} {d : Int} {now : Time}

theorem RampArgs.field_ok (h : RampArgs lib args w) (progress : ℚ) :
    ∃ v, rampField lib args progress = .ok v ∧ v ≠ {} := by
  rcases h.ends with ⟨hfield, start, stop, hstart, hstop, hne⟩ |
    ⟨hfield, start, stop, hstart, hstop, hne⟩
  · have hvalue : interpolateBrightness start stop progress ≠ .unspecified :=
      interpolateStep_ne hne (by decide) start progress
    refine ⟨{ brightness := interpolateBrightness start stop progress }, ?_, ?_⟩
    · simp only [rampField, hfield, if_true, rampEnds, hstart, hstop]
      rfl
    · exact fun hempty => hvalue (congrArg ApplyValues.brightness hempty)
  · have hvalue : interpolateColorTemp start stop progress ≠ .unspecified :=
      interpolateStep_ne hne (by decide) start progress
    refine ⟨{ colorTemperature := interpolateColorTemp start stop progress }, ?_, ?_⟩
    · simp only [rampField, hfield, if_true, rampEnds, hstart, hstop]
      rfl
    · exact fun hempty => hvalue (congrArg ApplyValues.colorTemperature hempty)

theorem rampCompute_eq (h : RampArgs lib args w) (now : Time) :
    rampCompute lib now args =
      if now < w.start (w.date now) ∨ w.start (w.date now) + w.duration < now then .ok {}
      else rampField lib args
        (max 0 (min 1 ((now.sub (w.start (w.date now)) : ℚ) / (w.duration : ℚ)))) := by
  simp only [rampCompute, h.duration, h.zone, h.startAt, not_le.mpr w.length.1, if_false,
    DailyWindow.zone_eq_start]
  rfl

theorem rampCompute_of_covers (h : RampArgs lib args w) (hcovers : w.Covers (w.date now) now) :
    rampCompute lib now args = rampField lib args (w.progress (w.date now) now) := by
  obtain ⟨h0, h1⟩ := DailyWindow.progress_mem hcovers
  rw [rampCompute_eq h, if_neg (mt DailyWindow.outside_iff.mp (not_not.mpr hcovers)),
    DailyWindow.sub_start hcovers]
  rw [DailyWindow.progress] at h0 h1
  rw [min_eq_right h1, max_eq_right h0, DailyWindow.progress]

end Ramp

/-! ## A fade in its window -/

/-- The arguments are those of a fade over the window. -/
structure WindowFade (lib : GoLibrary) (args : Args) (p : FadeParams) (w : DailyWindow) :
    Prop where
  parses : parseFadeArgs lib args = .ok p
  anchor : p.anchor = "window"
  duration : p.duration = w.duration
  zone : lib.loadLocation p.timezone = .ok w.zone
  startAt : parseHHMM lib p.startAt = .ok (w.hh, w.mm)

def windowValues (p : FadeParams) (entry : FadeSnapshot) (progress : ℚ) : ApplyValues :=
  if progress < 1 then fadeAxes p entry progress else finalValues p

def snapshotOr (zones : FadeZoneReader) (p : FadeParams) (args : Args) (startedAt : Time)
    (store : FadeSnapshotStore) : FadeSnapshot :=
  (store.lookup (Args.value args "_condition", Args.value args "_zone")).getD
    (resolveFromValues zones (Args.value args "_zone") p startedAt)

def brightnessStart (p : FadeParams) (entry : FadeSnapshot) : ℚ :=
  if p.brightnessFrom = 0 then entry.brightnessFrom else p.brightnessFrom

def kelvinStart (p : FadeParams) (entry : FadeSnapshot) : Int :=
  if p.colorTempFromKelvin = 0 then entry.colorTemperatureKelvin else p.colorTempFromKelvin

/-- At the progress an axis with a target has a level that is not zero, or the end sets the
state. -/
def Shows (p : FadeParams) (entry : FadeSnapshot) (progress : ℚ) : Prop :=
  (p.brightnessTo ≠ 0 ∧ lerp (brightnessStart p entry) p.brightnessTo progress ≠ 0) ∨
    (p.colorTempToKelvin ≠ 0 ∧
      mathRound (lerp (kelvinStart p entry) p.colorTempToKelvin progress) ≠ 0) ∨
    (progress = 1 ∧ p.terminalState ≠ .unspecified)

section Fade

variable {lib : GoLibrary} {args : Args} {p : FadeParams} {w : DailyWindow} {d : Int} {now : Time}
  {entry : FadeSnapshot}

theorem brightnessFields_eq_empty_iff (q : ℚ) :
    ((.finite q : Double) = 0 ∧ brightnessNearestEnum (.finite q) = .unspecified) ↔ q = 0 := by
  constructor
  · exact fun h => Double.finite.inj h.1
  · rintro rfl
    exact ⟨rfl, by simp [brightnessNearestEnum]⟩

theorem kelvinFields_eq_empty_iff (k : Int) :
    (k = 0 ∧ colorTempNearestEnum k = .unspecified) ↔ k = 0 :=
  and_iff_left_of_imp fun h => by rw [h]; rfl

theorem fadeAxes_eq_empty_iff (progress : ℚ) :
    fadeAxes p entry progress = {} ↔
      (p.brightnessTo = 0 ∨ lerp (brightnessStart p entry) p.brightnessTo progress = 0) ∧
        (p.colorTempToKelvin = 0 ∨
          mathRound (lerp (kelvinStart p entry) p.colorTempToKelvin progress) = 0) := by
  rw [← brightnessFields_eq_empty_iff (lerp _ _ _), ← kelvinFields_eq_empty_iff (mathRound _)]
  unfold fadeAxes brightnessStart kelvinStart
  by_cases hbrightness : p.brightnessTo = 0 <;> by_cases hkelvin : p.colorTempToKelvin = 0 <;>
    simp only [hbrightness, hkelvin, if_true, if_false, true_or, false_or, ApplyValues.mk.injEq,
      true_and, and_true] <;> tauto

theorem windowValues_ne_empty_iff {progress : ℚ} (h1 : progress ≤ 1) :
    windowValues p entry progress ≠ {} ↔ Shows p entry progress := by
  unfold windowValues Shows
  split
  · rename_i hlt
    rw [Ne, fadeAxes_eq_empty_iff]
    simp only [hlt.ne, false_and, or_false]
    tauto
  · rename_i hlt
    obtain rfl : progress = 1 := le_antisymm h1 (not_lt.mp hlt)
    have hlerp : ∀ start stop : ℚ, lerp start stop 1 = stop := fun start stop => by
      rw [lerp, one_mul, add_sub_cancel]
    rw [hlerp, hlerp, mathRound_intCast, Ne, finalValues]
    simp only [ApplyValues.mk.injEq, true_and]
    have hbrightness := brightnessFields_eq_empty_iff p.brightnessTo
    have hkelvin := kelvinFields_eq_empty_iff p.colorTempToKelvin
    tauto

/-- A fade is measured from the beginning of its snapshot and from nowhere else. -/
theorem fadeProgress_eq_iff (hfade : WindowFade lib args p w) (hcovers : w.Covers d now) :
    fadeProgress p entry now = w.progress d now ↔ entry.startedAt = w.start d := by
  have hpos : (w.duration : ℚ) ≠ 0 := by exact_mod_cast w.length.1.ne'
  have hsub : now.sub entry.startedAt = now.sub (w.start d) ↔ entry.startedAt = w.start d := by
    have hopen : (0 : Int) ≤ now - w.start d := Int.sub_nonneg_of_le hcovers.1
    have hclose : now - w.start d ≤ 86400000000000 :=
      le_trans (Int.sub_left_le_of_le_add hcovers.2) w.length.2
    have hint : ∀ now a b : Int, 0 ≤ now - b → now - b ≤ 86400000000000 →
        (max (-2 ^ 63) (min (2 ^ 63 - 1) (now - a)) = max (-2 ^ 63) (min (2 ^ 63 - 1) (now - b)) ↔
          a = b) := by
      intro now a b _ _
      omega
    exact hint now entry.startedAt (w.start d) hopen hclose
  rw [← hsub, DailyWindow.sub_start hcovers, fadeProgress, DailyWindow.progress, hfade.duration,
    div_left_inj' hpos]
  norm_cast

theorem interpolate_of_covers (hfade : WindowFade lib args p w) (hcovers : w.Covers d now)
    (hstarted : entry.startedAt = w.start d) (cond zone : String) (store : FadeSnapshotStore) :
    (interpolate p entry now cond zone store).1 = windowValues p entry (w.progress d now) := by
  have hprogress := (fadeProgress_eq_iff hfade hcovers).mpr hstarted
  obtain ⟨h0, h1⟩ := DailyWindow.progress_mem hcovers
  by_cases hlt : w.progress d now < 1
  · simp only [interpolate, hprogress, not_lt.mpr h0, if_false, min_eq_left h1, hlt, if_true,
      windowValues]
  · have hpos : 0 < p.duration := hfade.duration ▸ w.length.1
    have hover : FadeOver p entry.startedAt now :=
      (one_le_fadeProgress_iff hpos).mp (by rw [hprogress]; exact not_lt.mp hlt)
    rw [interpolate_of_over hpos hover, windowValues, if_neg hlt]

theorem fadeCompute_eq (hfade : WindowFade lib args p w) (zones : FadeZoneReader) (now : Time)
    (store : FadeSnapshotStore) :
    (now < w.start (w.date now) ∨ w.start (w.date now) + w.duration < now →
      fadeCompute lib zones now args store =
        (.ok {}, deleteSnapshot (Args.value args "_condition") (Args.value args "_zone") store)) ∧
    (¬ (now < w.start (w.date now) ∨ w.start (w.date now) + w.duration < now) →
      ∃ store', (fadeCompute lib zones now args store).1 =
        .ok (interpolate p (snapshotOr zones p args (w.start (w.date now)) store) now
          (Args.value args "_condition") (Args.value args "_zone") store').1) := by
  simp only [fadeCompute, hfade.parses, hfade.anchor, if_true, computeWindow, hfade.zone,
    hfade.startAt, DailyWindow.zone_eq_start, hfade.duration, snapshotOr]
  constructor
  · intro hout
    rw [if_pos hout]
  · intro hin
    rw [if_neg hin]
    cases store.lookup (Args.value args "_condition", Args.value args "_zone") with
    | some => exact ⟨store, rfl⟩
    | none => exact ⟨_, rfl⟩

end Fade

theorem DailyWindow.start_succ (w : DailyWindow) (d : Int) :
    w.start (d + 1) = w.start d + dayLength := by
  simp only [DailyWindow.start]
  ring

theorem DailyWindow.date_start (w : DailyWindow) (d : Int) : w.date (w.start d) = d := by
  have hint : ∀ offset d hh mm : Int, 0 ≤ hh → hh ≤ 23 → 0 ≤ mm → mm ≤ 59 →
      (d * 86400000000000 - offset + (hh * 60 + mm) * 60000000000 + offset) / 86400000000000 = d := by
    intro offset d hh mm _ _ _ _
    omega
  obtain ⟨hh0, hh1, hm0, hm1⟩ := w.clock
  exact hint w.offset d w.hh w.mm hh0 hh1 hm0 hm1

/-- In the window of date `d`, the present date's is open before midnight and where two windows
of 24 hours meet. -/
theorem DailyWindow.covers_date_iff {w : DailyWindow} {d : Int} {now : Time}
    (hcovers : w.Covers d now) :
    w.Covers (w.date now) now ↔ w.date now = d ∨ now = w.start (d + 1) := by
  constructor
  · intro hopen
    refine (DailyWindow.date_of_covers hcovers).imp id fun ⟨hdate, hle⟩ => ?_
    exact le_antisymm hle (hdate ▸ hopen.1)
  · rintro (hdate | rfl)
    · rwa [hdate]
    · rw [DailyWindow.date_start]
      exact ⟨le_refl _, Int.le_add_of_nonneg_right w.length.1.le⟩

theorem DailyWindow.progress_meeting {w : DailyWindow} {d : Int}
    (hcovers : w.Covers d (w.start (d + 1))) :
    w.progress (d + 1) (w.start (d + 1)) = 0 ∧ w.progress d (w.start (d + 1)) = 1 := by
  have hpos : (w.duration : ℚ) ≠ 0 := by exact_mod_cast w.length.1.ne'
  have hlast := hcovers.2
  rw [DailyWindow.start_succ] at hlast
  have hday : w.duration = dayLength := le_antisymm w.length.2 (Int.le_of_add_le_add_left hlast)
  refine ⟨by simp [DailyWindow.progress], ?_⟩
  rw [DailyWindow.progress, DailyWindow.start_succ, ← hday, add_sub_cancel_left]
  exact div_self hpos

/-- The ramp returns a value, which is the one at the progress of the window of date `d`. -/
def RampCovers (lib : GoLibrary) (args : Args) (w : DailyWindow) (d : Int) (now : Time) : Prop :=
  ∃ v, rampCompute lib now args = .ok v ∧ v ≠ {} ∧ rampField lib args (w.progress d now) = .ok v

/-- The fade returns a value, with the progress of the window of date `d`. -/
def FadeCovers (lib : GoLibrary) (zones : FadeZoneReader) (args : Args) (p : FadeParams)
    (w : DailyWindow) (d : Int) (now : Time) (store : FadeSnapshotStore) : Prop :=
  let entry := snapshotOr zones p args (w.start (w.date now)) store
  ∃ v, (fadeCompute lib zones now args store).1 = .ok v ∧ v ≠ {} ∧
    fadeProgress p entry now = w.progress d now ∧ windowValues p entry (w.progress d now) = v

section Cover

variable {lib : GoLibrary} {args : Args} {w : DailyWindow} {d : Int} {now : Time}

theorem rampCovers_iff (hcovers : w.Covers d now) (h : RampArgs lib args w) :
    RampCovers lib args w d now ↔ w.date now = d ∨
      (now = w.start (d + 1) ∧ rampField lib args 0 = rampField lib args 1) := by
  by_cases hopen : w.Covers (w.date now) now
  · obtain ⟨v, hv, hne⟩ := h.field_ok (w.progress (w.date now) now)
    have hcompute := (rampCompute_of_covers h hopen).trans hv
    have hsame : RampCovers lib args w d now ↔
        rampField lib args (w.progress d now) = rampField lib args (w.progress (w.date now) now) := by
      rw [hv]
      refine ⟨fun ⟨u, hu, _, hfield⟩ => ?_, fun hfield => ⟨v, hcompute, hne, hfield⟩⟩
      rw [hfield, ← hu, hcompute]
    rw [hsame]
    rcases (DailyWindow.covers_date_iff hcovers).mp hopen with hdate | rfl
    · exact iff_of_true (by rw [hdate]) (Or.inl hdate)
    · rw [DailyWindow.date_start, (DailyWindow.progress_meeting hcovers).1,
        (DailyWindow.progress_meeting hcovers).2]
      constructor
      · exact fun hfield => Or.inr ⟨rfl, hfield.symm⟩
      · rintro (hdate | ⟨-, hfield⟩)
        · exact absurd hdate (by omega)
        · exact hfield.symm
  · have hclosed := mt (DailyWindow.covers_date_iff hcovers).mpr hopen
    refine iff_of_false ?_ fun hright => hclosed (hright.imp id And.left)
    rintro ⟨v, hv, hne, -⟩
    rw [rampCompute_eq h, if_pos (DailyWindow.outside_iff.mpr hopen)] at hv
    exact hne (Except.ok.inj hv).symm

theorem fadeCovers_iff {p : FadeParams} (hcovers : w.Covers d now) (h : WindowFade lib args p w)
    (zones : FadeZoneReader) (store : FadeSnapshotStore) :
    FadeCovers lib zones args p w d now store ↔ (w.date now = d ∨ now = w.start (d + 1)) ∧
      (snapshotOr zones p args (w.start (w.date now)) store).startedAt = w.start d ∧
      Shows p (snapshotOr zones p args (w.start (w.date now)) store) (w.progress d now) := by
  rw [← DailyWindow.covers_date_iff hcovers, ← fadeProgress_eq_iff h hcovers,
    ← windowValues_ne_empty_iff (DailyWindow.progress_mem hcovers).2]
  by_cases hopen : w.Covers (w.date now) now
  · obtain ⟨store', hfade⟩ := (fadeCompute_eq h zones now store).2
      (mt DailyWindow.outside_iff.mp (not_not.mpr hopen))
    constructor
    · rintro ⟨v, -, hne, hprogress, hvalue⟩
      exact ⟨hopen, hprogress, hvalue ▸ hne⟩
    · rintro ⟨-, hprogress, hne⟩
      refine ⟨_, ?_, hne, hprogress, rfl⟩
      rw [hfade, interpolate_of_covers h hcovers ((fadeProgress_eq_iff h hcovers).mp hprogress)]
  · refine iff_of_false ?_ fun hright => hopen hright.1
    rintro ⟨v, hv, hne, -⟩
    rw [(fadeCompute_eq h zones now store).1 (DailyWindow.outside_iff.mpr hopen)] at hv
    exact hne (Except.ok.inj hv).symm

end Cover

/-- **Daily windows.**  At an instant of the window of date `d`, a ramp returns that window's
value exactly when the instant has the date `d`, or is where two windows of 24 hours meet and
the ramp ends where it begins.  A window fade does exactly when the present date's window is
open, its snapshot is of date `d`, and a value at that progress is not zero.  Past midnight both
return nothing, and the fade drops its snapshot. -/
theorem dailyWindow_cover (lib : GoLibrary) (w : DailyWindow) (d : Int) (now : Time)
    (hcovers : w.Covers d now) (rampArgs : Args) (hramp : RampArgs lib rampArgs w)
    (fadeArgs : Args) (p : FadeParams) (hfade : WindowFade lib fadeArgs p w)
    (zones : FadeZoneReader) (store : FadeSnapshotStore) :
    (RampCovers lib rampArgs w d now ↔ w.date now = d ∨
      (now = w.start (d + 1) ∧ rampField lib rampArgs 0 = rampField lib rampArgs 1)) ∧
    (FadeCovers lib zones fadeArgs p w d now store ↔
      (w.date now = d ∨ now = w.start (d + 1)) ∧
        (snapshotOr zones p fadeArgs (w.start (w.date now)) store).startedAt = w.start d ∧
        Shows p (snapshotOr zones p fadeArgs (w.start (w.date now)) store) (w.progress d now)) ∧
    (w.date now ≠ d → now ≠ w.start (d + 1) →
      rampCompute lib now rampArgs = .ok {} ∧
      fadeCompute lib zones now fadeArgs store =
        (.ok {}, deleteSnapshot (Args.value fadeArgs "_condition") (Args.value fadeArgs "_zone")
          store)) := by
  refine ⟨rampCovers_iff hcovers hramp, fadeCovers_iff hcovers hfade zones store,
    fun hdate hne => ?_⟩
  have hout := DailyWindow.outside_iff.mpr
    (mt (DailyWindow.covers_date_iff hcovers).mp (not_or.mpr ⟨hdate, hne⟩))
  refine ⟨?_, (fadeCompute_eq hfade zones now store).1 hout⟩
  rw [rampCompute_eq hramp, if_pos hout]

/-! ## A lamp that is dimmed into the night -/

def nightWindow : DailyWindow where
  offset := 0
  hh := 22
  mm := 0
  duration := 240 * minute
  clock := by decide
  length := by decide

def nightLibrary : GoLibrary where
  parseDuration _ := .ok (240 * minute)
  formatDuration _ := "4h0m0s"
  loadLocation _ := .ok nightWindow.zone
  atoi s := if s = "22" then .ok 22 else .ok 0

def nightRamp : Args :=
  GoMap.ofList [("field", "brightness"), ("from", Brightness.full.name),
    ("to", Brightness.verylow.name), ("start_at", "22:00"), ("duration", "4h")]

def nightFade : Args :=
  GoMap.ofList [("_condition", "sleep"), ("_zone", "lamp"), ("start_at", "22:00"),
    ("duration", "4h"), ("brightness_from", Brightness.full.name),
    ("brightness_to", Brightness.verylow.name)]

def nightParams : FadeParams where
  anchor := "window"
  duration := 240 * minute
  startAt := "22:00"
  timezone := "UTC"
  brightnessTo := 70 / 254
  brightnessFrom := 1

def nightClock (hour minutes : Int) : Time := (hour * 60 + minutes) * minute

theorem nightRamp_args : RampArgs nightLibrary nightRamp nightWindow where
  duration := rfl
  zone := rfl
  startAt := rfl
  ends := Or.inl ⟨by decide, .full, .verylow, by decide, by decide, by decide⟩

theorem nightFade_args : WindowFade nightLibrary nightFade nightParams nightWindow where
  parses := rfl
  anchor := rfl
  duration := rfl
  zone := rfl
  startAt := rfl

/-- At 23:00 both are a quarter on their way. -/
theorem night_before_midnight :
    RampCovers nightLibrary nightRamp nightWindow 0 (nightClock 23 0) ∧
      FadeCovers nightLibrary (fun _ => none) nightFade nightParams nightWindow 0 (nightClock 23 0)
        ∅ ∧ nightWindow.progress 0 (nightClock 23 0) = 1 / 4 := by
  have hquarter : nightWindow.progress 0 (nightClock 23 0) = 1 / 4 := by
    have hpassed : nightClock 23 0 - nightWindow.start 0 = 60 * minute := by decide
    rw [DailyWindow.progress, hpassed]
    norm_num [nightWindow, minute, second]
  obtain ⟨hramp, hfade, -⟩ := dailyWindow_cover nightLibrary nightWindow 0 (nightClock 23 0)
    (by decide) nightRamp nightRamp_args nightFade nightParams nightFade_args (fun _ => none) ∅
  refine ⟨hramp.mpr (Or.inl (by decide)), hfade.mpr ⟨Or.inl (by decide), rfl, Or.inl ⟨?_, ?_⟩⟩,
    hquarter⟩
  · norm_num [nightParams]
  · rw [hquarter]
    norm_num [lerp, brightnessStart, nightParams]

def nightStore : FadeSnapshotStore :=
  (fadeCompute nightLibrary (fun _ => none) (nightClock 23 0) nightFade ∅).2

theorem nightStore_snapshot :
    ∃ entry, nightStore.lookup ("sleep", "lamp") = some entry ∧
      entry.startedAt = nightWindow.start 0 := by
  have hbelongs : Belongs nightLibrary nightParams (nightWindow.start 0) (nightClock 23 0) :=
    Or.inr ⟨rfl, nightWindow.zone, 22, 0, rfl, rfl, rfl, by decide, by decide⟩
  have hnone : Underway nightParams ("sleep", "lamp") (nightWindow.start 0) ∅ := rfl
  obtain ⟨vals, store', hcall, -, hkept⟩ := fadeCompute_of_underway nightFade_args.parses rfl rfl
    (by decide) hbelongs hnone fun _ => none
  obtain ⟨entry, hentry, hstarted⟩ := hkept (by decide)
  refine ⟨entry, ?_, hstarted⟩
  rw [nightStore, hcall]
  exact hentry

/-- At 00:30, an hour and a half before the end, both return nothing and the snapshot is gone.
If the call at 23:00 is the night's last, the next night's fade starts at its end. -/
theorem night_past_midnight :
    (nightWindow.Covers 0 (nightClock 24 30) ∧
      rampCompute nightLibrary (nightClock 24 30) nightRamp = .ok {} ∧
      (nightStore.lookup ("sleep", "lamp")).isSome = true ∧
      (fadeCompute nightLibrary (fun _ => none) (nightClock 24 30) nightFade nightStore).1 =
        .ok {} ∧
      ((fadeCompute nightLibrary (fun _ => none) (nightClock 24 30) nightFade nightStore).2.lookup
        ("sleep", "lamp")).isSome = false) ∧
    nightWindow.Covers 1 (nightClock 47 0) ∧ nightWindow.progress 1 (nightClock 47 0) = 1 / 4 ∧
      (fadeCompute nightLibrary (fun _ => none) (nightClock 47 0) nightFade nightStore).1 =
        .ok (finalValues nightParams) := by
  obtain ⟨entry, hentry, hstarted⟩ := nightStore_snapshot
  have hdropped := (fadeCompute_eq nightFade_args (fun _ => none) (nightClock 24 30)
    nightStore).1 (by decide)
  have hinside : ¬ (nightClock 47 0 < nightWindow.start (nightWindow.date (nightClock 47 0)) ∨
      nightWindow.start (nightWindow.date (nightClock 47 0)) + nightWindow.duration <
        nightClock 47 0) := by decide
  obtain ⟨store', hstale⟩ :=
    (fadeCompute_eq nightFade_args (fun _ => none) (nightClock 47 0) nightStore).2 hinside
  refine ⟨⟨by decide, rfl, by rw [hentry]; rfl, by rw [hdropped], ?_⟩, by decide, ?_, ?_⟩
  · have hdelete : deleteSnapshot (Args.value nightFade "_condition") (Args.value nightFade "_zone")
        nightStore = nightStore.erase ("sleep", "lamp") := if_pos (by decide)
    rw [hdropped, hdelete, GoMap.lookup_erase_eq, if_pos rfl]
    rfl
  · have hpassed : nightClock 47 0 - nightWindow.start 1 = 60 * minute := by decide
    rw [DailyWindow.progress, hpassed]
    norm_num [nightWindow, minute, second]
  · have hsnapshot : snapshotOr (fun _ => none) nightParams nightFade
        (nightWindow.start (nightWindow.date (nightClock 47 0))) nightStore = entry := by
      show (nightStore.lookup ("sleep", "lamp")).getD _ = entry
      rw [hentry]
      rfl
    have hover : FadeOver nightParams entry.startedAt (nightClock 47 0) := by
      rw [hstarted]
      decide
    rw [hstale, hsnapshot, interpolate_of_over (by decide) hover]

end IotController.Compute
