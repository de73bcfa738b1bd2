/-
  The Computers that follow the sun
  (`modules/conditioner/computer/sun.go` and `circadian.go`).

  Both ask the solar library for the sunrise and the sunset of a calendar date and look
  where the present instant lies between them.  Which date that is depends on the longitude:
  far in the west the evening of a date, far in the east its morning, falls on another date
  of UTC.  The Computers try today's date and yesterday's, and what neither claims is night.

  Kelvin values on the curve are exact rationals, where the source has float64 values.
-/
import IotController.Compute.Ramp

namespace IotController.Compute

open Foundation Api Proto Iot

def hour : Duration := 60 * minute

theorem sub_le_of_le {t u : Time} (h : u ≤ t) : Time.sub t u ≤ t - u :=
  max_le (le_trans (by norm_num) (Int.sub_nonneg_of_le h)) (min_le_right _ _)

/-- `SunriseSunset` at one location, by date in days: sunrise before sunset, less than a day
apart, no further than a day from the date's UTC day. -/
structure SolarTable where
  sunrise : Int → Time
  sunset : Int → Time
  ordered : ∀ d, sunrise d < sunset d
  short : ∀ d, sunset d < sunrise d + dayLength
  near : ∀ d, (d - 1) * dayLength ≤ sunrise d ∧ sunset d ≤ (d + 2) * dayLength

def calendarDate (offset : Duration) (now : Time) : Int := (now + offset) / dayLength

def triedDates (offset : Duration) (now : Time) : List Int :=
  [0, -1].map fun days => calendarDate offset now + days

/-! ## Buckets -/

def bucketFor (now rise sunset : Time) : Option ColorTemperature :=
  let dawnStart := rise + -(30 * minute)
  let morningEnd := rise + 2 * hour
  let lateStart := sunset + -(2 * hour)
  let eveningStart := sunset + 30 * minute
  if dawnStart ≤ now ∧ now < rise then some .firstlight
  else if rise ≤ now ∧ now < morningEnd then some .morning
  else if morningEnd ≤ now ∧ now < lateStart then some .day
  else if lateStart ≤ now ∧ now < eveningStart then some .lateafternoon
  else none

def sunCompute (sky : SolarTable) (offset : Duration) (now : Time) : Except String ApplyValues :=
  match (triedDates offset now).findSome? fun d =>
    bucketFor now (sky.sunrise d) (sky.sunset d) with
  | some ct => .ok { colorTemperature := ct }
  | none => .ok { colorTemperature := .evening }

/-- The daylight envelope of a date, from dawn to the end of the late afternoon, also on a short
day. -/
def DaylightOf (sky : SolarTable) (d : Int) (now : Time) : Prop :=
  min (sky.sunrise d - 30 * minute) (sky.sunset d - 2 * hour) ≤ now ∧
    now < max (sky.sunrise d + 2 * hour) (sky.sunset d + 30 * minute)

theorem bucketFor_isSome_iff (sky : SolarTable) (d : Int) (now : Time) :
    (bucketFor now (sky.sunrise d) (sky.sunset d)).isSome = true ↔ DaylightOf sky d now := by
  have hint : ∀ now rise sunset : Int, rise < sunset →
      ((if rise + -1800000000000 ≤ now ∧ now < rise then some ColorTemperature.firstlight
        else if rise ≤ now ∧ now < rise + 7200000000000 then some .morning
        else if rise + 7200000000000 ≤ now ∧ now < sunset + -7200000000000 then some .day
        else if sunset + -7200000000000 ≤ now ∧ now < sunset + 1800000000000 then
          some .lateafternoon
        else none).isSome = true ↔
        min (rise - 1800000000000) (sunset - 7200000000000) ≤ now ∧
          now < max (rise + 7200000000000) (sunset + 1800000000000)) := by
    intro now rise sunset _
    split_ifs
    all_goals simp only [Option.isSome_some, Option.isSome_none, true_iff, Bool.false_eq_true,
      false_iff]
    all_goals omega
  exact hint now (sky.sunrise d) (sky.sunset d) (sky.ordered d)

theorem bucketFor_ne_evening {now rise sunset : Time} {ct : ColorTemperature}
    (h : bucketFor now rise sunset = some ct) : ct ≠ .evening := by
  unfold bucketFor at h
  dsimp only at h
  split at h
  · cases h; decide
  split at h
  · cases h; decide
  split at h
  · cases h; decide
  split at h
  · cases h; decide
  · cases h

/-! ## The circadian curve -/

def int32 (n : Int) : Int := Int.bmod n (2 ^ 32)

/-- The colour temperatures of the curve. -/
structure CircadianParams where
  noonKelvin : Int := 5500
  eveningKelvin : Int := 2700
  nightKelvin : Int := 2200
  biasKelvin : Int := 0
  deriving DecidableEq

variable (lib : GoLibrary) (args : Args) (p : CircadianParams)

def parseKelvin (key : String) (default : Int) :
    Except String Int :=
  let s := trimSpace (Args.value args key)
  if s = "" then .ok default
  else match lib.atoi s with
    | .error message => .error ("circadian: parse " ++ key ++ " " ++ s.quote ++ ": " ++ message)
    | .ok n => .ok (int32 n)

def parseCircadianArgs : Except String CircadianParams := do
  let noonKelvin ← parseKelvin lib args "noon_kelvin" 5500
  let eveningKelvin ← parseKelvin lib args "evening_kelvin" 2700
  let nightKelvin ← parseKelvin lib args "night_kelvin" 2200
  let biasKelvin ← parseKelvin lib args "bias_kelvin" 0
  .ok { noonKelvin, eveningKelvin, nightKelvin, biasKelvin }

def clampKelvin (k : Int) : Int := if k < 1500 then 1500 else if 10000 < k then 10000 else k

/-- A point of the curve. -/
structure Anchor where
  t : Time
  k : ℚ

def anchors (rise sunset : Time) : List Anchor :=
  let midpoint := rise + (sunset.sub rise).tdiv 2
  [⟨rise + -(30 * minute), p.nightKelvin⟩, ⟨rise, 2700⟩, ⟨rise + 2 * hour, 5000⟩,
    ⟨midpoint, p.noonKelvin⟩, ⟨sunset + -(2 * hour), 4500⟩, ⟨sunset, 3000⟩,
    ⟨sunset + 30 * minute, p.eveningKelvin⟩, ⟨sunset + 60 * minute, p.nightKelvin⟩]

def sortAnchors (l : List Anchor) : List Anchor := l.insertionSort fun a b => a.t ≤ b.t

/-- The loop over the segments; `a` is the anchor behind `now`. -/
def kelvinLoop (now : Time) (a : Anchor) : List Anchor → ℚ
  | [] => a.k
  | b :: rest =>
    if now < b.t then
      if 0 < b.t.sub a.t then
        a.k + (b.k - a.k) * ((now.sub a.t : ℚ) / (b.t.sub a.t : ℚ))
      else b.k
    else kelvinLoop now b rest

def kelvinFor (now rise sunset : Time) (p : CircadianParams) : Option Int :=
  match sortAnchors (anchors p rise sunset) with
  | [] => none
  | first :: rest =>
    if now < first.t ∨ ((first :: rest).getLast (by simp)).t < now then none
    else some (clampKelvin (int32 (mathRound (kelvinLoop now first rest) + p.biasKelvin)))

def resultFor (k : Int) : ApplyValues :=
  { colorTemperatureKelvin := k, colorTemperature := colorTempNearestEnum k }

def nightFloor : Int := clampKelvin (int32 (p.nightKelvin + p.biasKelvin))

def circadianCompute (sky : SolarTable) (offset : Duration) (now : Time) (args : Args) :
    Except String ApplyValues :=
  match parseCircadianArgs lib args with
  | .error message => .error message
  | .ok p =>
    match (triedDates offset now).findSome? fun d =>
      kelvinFor now (sky.sunrise d) (sky.sunset d) p with
    | some k => .ok (resultFor k)
    | none => .ok (resultFor (nightFloor p))

/-- The instant is on the curve of date `d`. -/
def CurveOf (sky : SolarTable) (d : Int) (now : Time) : Prop :=
  min (sky.sunrise d - 30 * minute) (sky.sunset d - 2 * hour) ≤ now ∧
    now ≤ max (sky.sunrise d + 2 * hour) (sky.sunset d + 60 * minute)

theorem outside_sorted_iff {first : Anchor} {rest : List Anchor}
    (hsorted : (first :: rest).Pairwise fun a b => a.t ≤ b.t) (now : Time) :
    (now < first.t ∨ ((first :: rest).getLast (by simp)).t < now) ↔
      (∀ a ∈ first :: rest, now < a.t) ∨ ∀ a ∈ first :: rest, a.t < now := by
  have : Std.Refl fun a b : Anchor => a.t ≤ b.t := ⟨fun a => le_refl a.t⟩
  constructor
  · rintro (hbefore | hafter)
    · refine Or.inl fun a ha => ?_
      rcases List.mem_cons.mp ha with rfl | ha
      · exact hbefore
      · exact lt_of_lt_of_le hbefore (List.rel_of_pairwise_cons hsorted ha)
    · exact Or.inr fun a ha => lt_of_le_of_lt (hsorted.rel_getLast ha) hafter
  · rintro (hbefore | hafter)
    · exact Or.inl (hbefore first List.mem_cons_self)
    · exact Or.inr (hafter _ (List.getLast_mem _))

theorem kelvinFor_isSome_iff_anchors (now rise sunset : Time) (p : CircadianParams) :
    (kelvinFor now rise sunset p).isSome = true ↔
      (∃ a ∈ anchors p rise sunset, a.t ≤ now) ∧ ∃ a ∈ anchors p rise sunset, now ≤ a.t := by
  have hperm : (sortAnchors (anchors p rise sunset)).Perm (anchors p rise sunset) :=
    List.perm_insertionSort _ _
  have : Std.Total fun a b : Anchor => a.t ≤ b.t := ⟨fun a b => le_total a.t b.t⟩
  have : IsTrans Anchor fun a b => a.t ≤ b.t := ⟨fun _ _ _ => le_trans⟩
  have hsorted : (sortAnchors (anchors p rise sunset)).Pairwise fun a b => a.t ≤ b.t :=
    List.pairwise_insertionSort _ _
  unfold kelvinFor
  split
  · rename_i hnil
    rw [hnil] at hperm
    exact absurd hperm.symm.eq_nil (by simp [anchors])
  · rename_i first rest hcons
    rw [hcons] at hperm hsorted
    have hmem : ∀ a, a ∈ first :: rest ↔ a ∈ anchors p rise sunset := fun a => hperm.mem_iff
    have houtside := outside_sorted_iff hsorted now
    simp only [hmem] at houtside
    split
    · rename_i hout
      refine iff_of_false (by simp) ?_
      rintro ⟨⟨a, ha, hle⟩, b, hb, hge⟩
      rcases houtside.mp hout with hbefore | hafter
      · exact absurd hle (not_le.mpr (hbefore a ha))
      · exact absurd hge (not_le.mpr (hafter b hb))
    · rename_i hin
      rw [houtside] at hin
      simp only [not_or, not_forall, not_lt, exists_prop] at hin
      simpa using hin

theorem kelvinFor_isSome_iff (sky : SolarTable) (d : Int) (now : Time) (p : CircadianParams) :
    (kelvinFor now (sky.sunrise d) (sky.sunset d) p).isSome = true ↔ CurveOf sky d now := by
  have hint : ∀ now rise sunset middle : Int, rise ≤ middle → middle ≤ sunset →
      (((rise + -1800000000000 ≤ now ∨ rise ≤ now ∨ rise + 7200000000000 ≤ now ∨ middle ≤ now ∨
          sunset + -7200000000000 ≤ now ∨ sunset ≤ now ∨ sunset + 1800000000000 ≤ now ∨
          sunset + 3600000000000 ≤ now) ∧
        (now ≤ rise + -1800000000000 ∨ now ≤ rise ∨ now ≤ rise + 7200000000000 ∨ now ≤ middle ∨
          now ≤ sunset + -7200000000000 ∨ now ≤ sunset ∨ now ≤ sunset + 1800000000000 ∨
          now ≤ sunset + 3600000000000)) ↔
        min (rise - 1800000000000) (sunset - 7200000000000) ≤ now ∧
          now ≤ max (rise + 7200000000000) (sunset + 3600000000000)) := by
    intro now rise sunset middle _ _
    omega
  have hsub : 0 ≤ (sky.sunset d).sub (sky.sunrise d) := Time.sub_nonneg (sky.ordered d).le
  have hlow : sky.sunrise d ≤ sky.sunrise d + ((sky.sunset d).sub (sky.sunrise d)).tdiv 2 :=
    Int.le_add_of_nonneg_right (Int.tdiv_nonneg hsub (by decide))
  have hhigh : sky.sunrise d + ((sky.sunset d).sub (sky.sunrise d)).tdiv 2 ≤ sky.sunset d := by
    have hhalf : ∀ rise sunset length : Int, length ≤ sunset - rise → 0 ≤ length →
        rise + length / 2 ≤ sunset := by
      intro rise sunset length _ _
      omega
    rw [Int.tdiv_eq_ediv_of_nonneg hsub]
    exact hhalf _ _ _ (sub_le_of_le (sky.ordered d).le) hsub
  rw [kelvinFor_isSome_iff_anchors]
  simp only [anchors, List.exists_mem_cons_iff, List.not_mem_nil, false_and, exists_false, or_false]
  exact hint now (sky.sunrise d) (sky.sunset d) _ hlow hhigh

/-! ## The right day -/

/-- An instant of daylight has a bucket of such a date, and the night's value means no
daylight. -/
def SunFound (sky : SolarTable) (offset : Duration) (now : Time) : Prop :=
  (∀ d, DaylightOf sky d now → ∃ owner ct, DaylightOf sky owner now ∧
    bucketFor now (sky.sunrise owner) (sky.sunset owner) = some ct ∧
    sunCompute sky offset now = .ok { colorTemperature := ct }) ∧
  (sunCompute sky offset now = .ok { colorTemperature := .evening } → ∀ d, ¬ DaylightOf sky d now)

/-- On the curve of a day, the result is that of such a day. -/
def CircadianFound (sky : SolarTable) (offset : Duration) (now : Time) (args : Args)
    (p : CircadianParams) : Prop :=
  ∀ d, CurveOf sky d now → ∃ owner k, CurveOf sky owner now ∧
    kelvinFor now (sky.sunrise owner) (sky.sunset owner) p = some k ∧
    circadianCompute lib sky offset now args = .ok (resultFor k)

section Found

variable {sky : SolarTable} {offset : Duration} {now : Time}

theorem sunFound_iff :
    SunFound sky offset now ↔
      ∀ d, DaylightOf sky d now → ∃ t ∈ triedDates offset now, DaylightOf sky t now := by
  unfold SunFound sunCompute
  cases hfind : (triedDates offset now).findSome? fun d =>
      bucketFor now (sky.sunrise d) (sky.sunset d) with
  | some ct =>
    obtain ⟨t, ht, hbucket⟩ := List.exists_of_findSome?_eq_some hfind
    have howner : DaylightOf sky t now := (bucketFor_isSome_iff sky t now).mp (by rw [hbucket]; rfl)
    refine iff_of_true ⟨fun d _ => ⟨t, ct, howner, hbucket, rfl⟩, fun hevening => ?_⟩
      fun d _ => ⟨t, ht, howner⟩
    have hct : ct = .evening := by
      have hvalues := Except.ok.inj hevening
      exact congrArg ApplyValues.colorTemperature hvalues
    exact absurd hct (bucketFor_ne_evening hbucket)
  | none =>
    have hnone : ∀ t ∈ triedDates offset now, ¬ DaylightOf sky t now := by
      intro t ht howner
      rw [← bucketFor_isSome_iff, List.findSome?_eq_none_iff.mp hfind t ht] at howner
      cases howner
    constructor
    · rintro ⟨-, hnight⟩ d hd
      exact absurd hd (hnight rfl d)
    · intro htried
      have hno : ∀ d, ¬ DaylightOf sky d now := by
        intro d hd
        obtain ⟨t, ht, howner⟩ := htried d hd
        exact hnone t ht howner
      exact ⟨fun d hd => absurd hd (hno d), fun _ => hno⟩

theorem resultFor_injective {k k' : Int} (h : resultFor k = resultFor k') : k = k' :=
  congrArg ApplyValues.colorTemperatureKelvin h

theorem circadianFound_iff {lib : GoLibrary} {args : Args} {p : CircadianParams}
    (hargs : parseCircadianArgs lib args = .ok p) :
    CircadianFound lib sky offset now args p ↔
      ∀ d, CurveOf sky d now → (∃ t ∈ triedDates offset now, CurveOf sky t now) ∨
        ∃ owner, CurveOf sky owner now ∧
          kelvinFor now (sky.sunrise owner) (sky.sunset owner) p = some (nightFloor p) := by
  unfold CircadianFound circadianCompute
  rw [hargs]
  dsimp only
  cases hfind : (triedDates offset now).findSome? fun d =>
      kelvinFor now (sky.sunrise d) (sky.sunset d) p with
  | some k =>
    obtain ⟨t, ht, hkelvin⟩ := List.exists_of_findSome?_eq_some hfind
    have howner : CurveOf sky t now := (kelvinFor_isSome_iff sky t now p).mp (by rw [hkelvin]; rfl)
    exact iff_of_true (fun d _ => ⟨t, k, howner, hkelvin, rfl⟩) fun d _ => Or.inl ⟨t, ht, howner⟩
  | none =>
    have hnone : ∀ t ∈ triedDates offset now, ¬ CurveOf sky t now := by
      intro t ht howner
      rw [← kelvinFor_isSome_iff sky t now p, List.findSome?_eq_none_iff.mp hfind t ht] at howner
      cases howner
    constructor
    · intro hfound d hd
      obtain ⟨owner, k, howner, hkelvin, hresult⟩ := hfound d hd
      rw [← resultFor_injective (Except.ok.inj hresult)] at hkelvin
      exact Or.inr ⟨owner, howner, hkelvin⟩
    · intro htried d hd
      rcases htried d hd with ⟨t, ht, howner⟩ | ⟨owner, howner, hkelvin⟩
      · exact absurd howner (hnone t ht)
      · exact ⟨owner, nightFloor p, howner, hkelvin, rfl⟩

end Found

/-- **The right day.**  The sun's bucket is that of a date that owns the instant, if any does,
exactly when a date that is tried owns it.  So it is for the circadian curve, except that the
night floor may be the value on an owner's curve. -/
theorem solar_day_found_iff (lib : GoLibrary) (sky : SolarTable) (offset : Duration) (now : Time)
    (args : Args) (p : CircadianParams) (hargs : parseCircadianArgs lib args = .ok p) :
    (SunFound sky offset now ↔
      ∀ d, DaylightOf sky d now → ∃ t ∈ triedDates offset now, DaylightOf sky t now) ∧
    (CircadianFound lib sky offset now args p ↔
      ∀ d, CurveOf sky d now → (∃ t ∈ triedDates offset now, CurveOf sky t now) ∨
        ∃ owner, CurveOf sky owner now ∧
          kelvinFor now (sky.sunrise owner) (sky.sunset owner) p = some (nightFloor p)) :=
  ⟨sunFound_iff, circadianFound_iff hargs⟩

/-- Where every envelope lies within its date and the next, as from Greenwich to the west, the
right day is always found. -/
theorem solar_day_found_of_west {sky : SolarTable} {offset : Duration}
    (hwest : ∀ d,
      d * dayLength - offset ≤ min (sky.sunrise d - 30 * minute) (sky.sunset d - 2 * hour) ∧
      max (sky.sunrise d + 2 * hour) (sky.sunset d + 60 * minute) < (d + 2) * dayLength - offset)
    (now : Time) {lib : GoLibrary} {args : Args} {p : CircadianParams}
    (hargs : parseCircadianArgs lib args = .ok p) :
    SunFound sky offset now ∧ CircadianFound lib sky offset now args p := by
  have hdate : ∀ d, CurveOf sky d now → d ∈ triedDates offset now := by
    intro d ⟨hopen, hclose⟩
    have hint : ∀ now offset d : Int, d * 86400000000000 - offset ≤ now →
        now < (d + 2) * 86400000000000 - offset →
        d = (now + offset) / 86400000000000 + 0 ∨ d = (now + offset) / 86400000000000 + -1 := by
      intro now offset d _ _
      omega
    have htried := hint now offset d (le_trans (hwest d).1 hopen) (lt_of_le_of_lt hclose (hwest d).2)
    exact List.mem_pair.mpr htried
  refine ⟨sunFound_iff.mpr fun d hd => ⟨d, hdate d ?_, hd⟩,
    (circadianFound_iff hargs).mpr fun d hd => Or.inl ⟨d, hdate d hd, hd⟩⟩
  refine ⟨hd.1, le_trans hd.2.le (max_le_max (le_refl _) ?_)⟩
  exact Int.add_le_add_left (by decide) _

/-! ## Two skies -/

/-- Twelve hours of daylight every day, from `rise` after the date's UTC midnight. -/
def evenSky (rise : Duration) (hrise : -dayLength ≤ rise ∧ rise ≤ dayLength) : SolarTable where
  sunrise d := d * dayLength + rise
  sunset d := d * dayLength + rise + 12 * hour
  ordered d := Int.lt_add_of_pos_right _ (by decide)
  short d := Int.add_lt_add_left (by decide) _
  near d := by
    have hint : ∀ d rise : Int, -86400000000000 ≤ rise → rise ≤ 86400000000000 →
        (d - 1) * 86400000000000 ≤ d * 86400000000000 + rise ∧
          d * 86400000000000 + rise + 43200000000000 ≤ (d + 2) * 86400000000000 := by
      intro d rise _ _
      omega
    exact hint d rise hrise.1 hrise.2

def greenwichSky : SolarTable := evenSky (6 * hour) (by decide)

def aucklandSky : SolarTable := evenSky (-(6 * hour)) (by decide)

/-- An hour after sunrise of day 1000, which owns the instant. -/
theorem greenwich_every_day :
    DaylightOf greenwichSky 1000 (1000 * dayLength + 7 * hour) ∧
      CurveOf greenwichSky 1000 (1000 * dayLength + 7 * hour) ∧
      SunFound greenwichSky 0 (1000 * dayLength + 7 * hour) ∧
      CircadianFound nightLibrary greenwichSky 0 (1000 * dayLength + 7 * hour) ∅ {} := by
  refine ⟨⟨by decide, by decide⟩, ⟨by decide, by decide⟩,
    solar_day_found_of_west (fun d => ?_) _ rfl⟩
  have hint : ∀ d : Int,
      d * 86400000000000 - 0 ≤ min (d * 86400000000000 + 21600000000000 - 1800000000000)
          (d * 86400000000000 + 21600000000000 + 43200000000000 - 7200000000000) ∧
        max (d * 86400000000000 + 21600000000000 + 7200000000000)
          (d * 86400000000000 + 21600000000000 + 43200000000000 + 3600000000000) <
        (d + 2) * 86400000000000 - 0 := by
    intro d
    omega
  exact hint d

/-- Noon at Greenwich. -/
theorem greenwich_noon :
    SunFound greenwichSky 0 (12 * hour) ∧
      CircadianFound nightLibrary greenwichSky 0 (12 * hour) ∅ {} := by
  have htoday : (0 : Int) ∈ triedDates 0 (12 * hour) := by decide
  obtain ⟨hsun, hcurve⟩ := solar_day_found_iff nightLibrary greenwichSky 0 (12 * hour) ∅ {} rfl
  exact ⟨hsun.mpr fun _ _ => ⟨0, htoday, by decide, by decide⟩,
    hcurve.mpr fun _ _ => Or.inl ⟨0, htoday, by decide, by decide⟩⟩

/-- At 19:00 UTC, an hour after sunrise at Auckland, only the next date owns the instant: bucket
and curve are the night's. -/
theorem auckland_morning :
    (∀ d, DaylightOf aucklandSky d (19 * hour) ↔ d = 1) ∧
      bucketFor (19 * hour) (aucklandSky.sunrise 1) (aucklandSky.sunset 1) = some .morning ∧
      sunCompute aucklandSky 0 (19 * hour) = .ok { colorTemperature := .evening } ∧
      (∀ d, CurveOf aucklandSky d (19 * hour) ↔ d = 1) ∧
      kelvinFor (19 * hour) (aucklandSky.sunrise 1) (aucklandSky.sunset 1) {} = some 3850 ∧
      circadianCompute nightLibrary aucklandSky 0 (19 * hour) ∅ = .ok (resultFor 2200) := by
  have hint : ∀ d : Int,
      (min (d * 86400000000000 + -21600000000000 - 1800000000000)
          (d * 86400000000000 + -21600000000000 + 43200000000000 - 7200000000000) ≤ 68400000000000 ∧
        68400000000000 < max (d * 86400000000000 + -21600000000000 + 7200000000000)
          (d * 86400000000000 + -21600000000000 + 43200000000000 + 1800000000000)) ↔ d = 1 := by
    intro d
    omega
  have hint' : ∀ d : Int,
      (min (d * 86400000000000 + -21600000000000 - 1800000000000)
          (d * 86400000000000 + -21600000000000 + 43200000000000 - 7200000000000) ≤ 68400000000000 ∧
        68400000000000 ≤ max (d * 86400000000000 + -21600000000000 + 7200000000000)
          (d * 86400000000000 + -21600000000000 + 43200000000000 + 3600000000000)) ↔ d = 1 := by
    intro d
    omega
  -- 19:00 is halfway between sunrise and the end of the morning
  have hloop : ∀ rest : List Anchor,
      kelvinLoop (19 * hour) ⟨17 * hour + 30 * minute, 2200⟩
        (⟨18 * hour, 2700⟩ :: ⟨20 * hour, 5000⟩ :: rest) = 3850 := by
    intro rest
    have hpassed : Time.sub (19 * hour) (18 * hour) = 3600000000000 := by decide
    have hlength : Time.sub (20 * hour) (18 * hour) = 7200000000000 := by decide
    rw [kelvinLoop, if_neg (by decide), kelvinLoop, if_pos (by decide), if_pos (by decide), hpassed,
      hlength]
    norm_num
  have hkelvin : kelvinFor (19 * hour) (aucklandSky.sunrise 1) (aucklandSky.sunset 1) {} =
      some (clampKelvin (int32 (mathRound (kelvinLoop (19 * hour)
        ⟨17 * hour + 30 * minute, ((2200 : Int) : ℚ)⟩
        (⟨18 * hour, 2700⟩ :: ⟨20 * hour, 5000⟩ ::
          (anchors {} (aucklandSky.sunrise 1) (aucklandSky.sunset 1)).drop 3)) + 0))) := rfl
  refine ⟨hint, by decide, rfl, hint', ?_, rfl⟩
  have hround : mathRound 3850 = 3850 := mathRound_intCast 3850
  rw [hkelvin, Int.cast_ofNat, hloop, hround]
  rfl

end IotController.Compute
