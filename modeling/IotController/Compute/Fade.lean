/-
  The `fade` Computer and its snapshot store
  (`modules/conditioner/computer/fade.go` and `fade_snapshots.go`, with
  `parseHHMM`, `parseBrightness` and `parseColorTemp` of `ramp.go`).

  A fade moves brightness and colour temperature along one line from where they were when
  the fade began.  The beginning is a snapshot, kept for each Condition and zone: a window
  fade takes it at its first call inside the window, an event fade finds the one that
  `ActivateCondition` left.

  Progress and levels are exact rationals, where the source has float64 values; a span of up
  to 104 days is at its end for both at the same instant.  The colour of a snapshot is
  written and read by nothing and is left out.
-/
import IotController.Iot.Zone

namespace IotController.Compute

open Foundation Api Proto Iot

/-! ## The Go library -/

/-- A `time.Location`: `time.Date` on the calendar date of an instant, at an hour
and a minute. -/
abbrev TimeZone : Type := Time → Int → Int → Time

/-- The location of the name `UTC`. -/
def utcZone : TimeZone := fun t hh mm =>
  t / (1440 * minute) * (1440 * minute) + (hh * 60 + mm) * minute

/-- The library functions that the parsers call. -/
structure GoLibrary where
  parseDuration : String → Except String Duration
  formatDuration : Duration → String
  loadLocation : String → Except String TimeZone
  atoi : String → Except String Int

variable (lib : GoLibrary) (args : Args) (zones : FadeZoneReader) (c : Char)

def isSpace : Bool :=
  let n := c.toNat
  (0x09 ≤ n && n ≤ 0x0d) || n = 0x20 || n = 0x85 || n = 0xa0 || n = 0x1680 ||
    (0x2000 ≤ n && n ≤ 0x200a) || n = 0x2028 || n = 0x2029 || n = 0x202f || n = 0x205f ||
    n = 0x3000

def trimSpace (s : String) : String :=
  String.ofList ((s.toList.dropWhile isSpace).reverse.dropWhile isSpace).reverse

/-- `unicode.ToLower` for ASCII words: besides ASCII capitals, only the dotted I and the Kelvin
sign count. -/
def toLower : Char :=
  if c.toNat = 0x130 then 'i' else if c.toNat = 0x212a then 'k' else c.toLower

/-- The fold of `strings.EqualFold` for ASCII words: besides ASCII letters, only the Kelvin sign
and the long s count. -/
def simpleFold : Char :=
  if c.toNat = 0x212a then 'k' else if c.toNat = 0x17f then 's' else c.toLower

def equalFold (s t : String) : Bool := s.toList.map simpleFold = t.toList.map simpleFold

/-- `math.Round`: halves go away from zero. -/
def mathRound (q : ℚ) : Int := if q < 0 then -⌊-q + 1 / 2⌋ else ⌊q + 1 / 2⌋

@[simp] theorem mathRound_intCast (k : Int) : mathRound (k : ℚ) = k := by
  have hhalf : ∀ n : Int, ⌊(n : ℚ) + 1 / 2⌋ = n := by
    intro n
    rw [Int.floor_eq_iff]
    constructor <;> linarith
  unfold mathRound
  split
  · rw [← Int.cast_neg, hhalf, neg_neg]
  · exact hhalf k

theorem mathRound_le {q : ℚ} {n : Int} (h : q ≤ n) : mathRound q ≤ n := by
  unfold mathRound
  split
  · exact neg_le.mp (Int.le_floor.mpr (by push_cast; linarith))
  · exact Int.lt_add_one_iff.mp (Int.floor_lt.mpr (by push_cast; linarith))

theorem le_mathRound {q : ℚ} {n : Int} (h : n ≤ q) : n ≤ mathRound q := by
  unfold mathRound
  split
  · exact le_neg.mp (Int.lt_add_one_iff.mp (Int.floor_lt.mpr (by push_cast; linarith)))
  · exact Int.le_floor.mpr (by linarith)

/-! ## Arguments -/

def fadeName : String := "fade"

def parseEnum {E : Type} (lib : GoLibrary) (value : String → Option E) (all : List E)
    (s : String) : Option E :=
  match value (trimSpace s) with
  | some e => some e
  | none =>
    match lib.atoi (trimSpace s) with
    | .error _ => none
    | .ok n => if 0 ≤ Int.bmod n (2 ^ 32) then all[(Int.bmod n (2 ^ 32)).toNat]? else none

def parseBrightness : String → Option Brightness :=
  parseEnum lib Brightness.value Brightness.all

def parseColorTemp : String → Option ColorTemperature :=
  parseEnum lib ColorTemperature.value ColorTemperature.all

def parseHHMM (s : String) : Except String (Int × Int) :=
  match (trimSpace s).toList.span (· ≠ ':') with
  | (_, []) => .error ("expected HH:MM, got " ++ (trimSpace s).quote)
  | (hours, _ :: minutes) =>
    match lib.atoi (String.ofList hours) with
    | .error message => .error ("hour: " ++ message)
    | .ok hour =>
      if hour < 0 ∨ 23 < hour then .error ("hour out of range: " ++ hour.repr)
      else match lib.atoi (String.ofList minutes) with
        | .error message => .error ("minute: " ++ message)
        | .ok minute =>
          if minute < 0 ∨ 59 < minute then
            .error ("minute out of range: " ++ minute.repr)
          else .ok (hour, minute)

/-- A level of zero is an axis that is not used, or a beginning that is taken from the snapshot.
-/
structure FadeParams where
  anchor : String
  duration : Duration
  startAt : String := ""
  timezone : String := ""
  brightnessTo : ℚ := 0
  brightnessFrom : ℚ := 0
  colorTempToKelvin : Int := 0
  colorTempFromKelvin : Int := 0
  terminalState : ZoneState := .unspecified
  deriving DecidableEq

def parseLevel {E V : Type} [Zero V] (parse : String → Option E) (canonical : E → V)
    (args : Args) (key : String) : Except String V :=
  if Args.value args key = "" then .ok 0
  else match parse (Args.value args key) with
    | none => .error ("fade: unknown " ++ key ++ " " ++ (Args.value args key).quote)
    | some e => .ok (canonical e)

/-- The argument `terminal_state`: a short word in any case, or the name of the
state. -/
def parseTerminalState : Except String ZoneState :=
  if Args.value args "terminal_state" = "" then .ok .unspecified
  else
    let s := trimSpace (Args.value args "terminal_state")
    let word := String.ofList (s.toList.map toLower)
    if word = "off" then .ok .off
    else if word = "on" then .ok .on
    else if word = "offtimer" then .ok .offtimer
    else match ZoneState.value s with
      | some state => .ok state
      | none => .error ("fade: unknown terminal_state " ++ s.quote)

def fadeAnchor : String :=
  if trimSpace (Args.value args "anchor") = "" then "window"
  else trimSpace (Args.value args "anchor")

def parseFadeDuration : Except String Duration :=
  let s := trimSpace (Args.value args "duration")
  if s = "" then .error "fade: args.duration is required"
  else match lib.parseDuration s with
    | .error message => .error ("fade: parse duration " ++ s.quote ++ ": " ++ message)
    | .ok d =>
      if d ≤ 0 then .error ("fade: duration must be > 0, got " ++ lib.formatDuration d)
      else .ok d

/-- `start_at` and `timezone`, which only a window fade has. -/
def parseFadeStart : Except String (String × String) :=
  if fadeAnchor args ≠ "window" then .ok ("", "")
  else if trimSpace (Args.value args "start_at") = "" then
    .error "fade: args.start_at is required when anchor=window"
  else if trimSpace (Args.value args "timezone") = "" then
    .ok (trimSpace (Args.value args "start_at"), "UTC")
  else .ok (trimSpace (Args.value args "start_at"), trimSpace (Args.value args "timezone"))

def parseFadeArgs : Except String FadeParams := do
  let duration ← parseFadeDuration lib args
  let (startAt, timezone) ← parseFadeStart args
  let brightnessTo ←
    parseLevel (parseBrightness lib) (canonical brightnessTable) args "brightness_to"
  let brightnessFrom ←
    parseLevel (parseBrightness lib) (canonical brightnessTable) args "brightness_from"
  let colorTempToKelvin ←
    parseLevel (parseColorTemp lib) colorTempCanonical args "color_temperature_to"
  let colorTempFromKelvin ←
    parseLevel (parseColorTemp lib) colorTempCanonical args "color_temperature_from"
  let terminalState ← parseTerminalState args
  .ok
    { anchor := fadeAnchor args
      duration := duration
      startAt := startAt
      timezone := timezone
      brightnessTo := brightnessTo
      brightnessFrom := brightnessFrom
      colorTempToKelvin := colorTempToKelvin
      colorTempFromKelvin := colorTempFromKelvin
      terminalState := terminalState }

theorem bind_eq_ok {α β : Type} {x : Except String α} {f : α → Except String β} {r : β}
    (h : x >>= f = .ok r) : ∃ a, x = .ok a ∧ f a = .ok r := by
  cases x with
  | error => cases h
  | ok a => exact ⟨a, rfl, h⟩

theorem pos_of_parseFadeDuration {lib : GoLibrary} {args : Args} {d : Duration}
    (h : parseFadeDuration lib args = .ok d) : 0 < d := by
  simp only [parseFadeDuration] at h
  split at h
  · cases h
  · split at h
    · cases h
    · split at h
      · cases h
      · rename_i hpos
        cases h
        exact not_le.mp hpos

theorem parseFadeArgs_spec {lib : GoLibrary} {args : Args} {p : FadeParams}
    (h : parseFadeArgs lib args = .ok p) : p.anchor = fadeAnchor args ∧ 0 < p.duration := by
  obtain ⟨duration, hduration, h⟩ := bind_eq_ok h
  obtain ⟨⟨startAt, timezone⟩, -, h⟩ := bind_eq_ok h
  obtain ⟨brightnessTo, -, h⟩ := bind_eq_ok h
  obtain ⟨brightnessFrom, -, h⟩ := bind_eq_ok h
  obtain ⟨colorTempToKelvin, -, h⟩ := bind_eq_ok h
  obtain ⟨colorTempFromKelvin, -, h⟩ := bind_eq_ok h
  obtain ⟨terminalState, -, h⟩ := bind_eq_ok h
  simp only [Except.ok.injEq] at h
  subst h
  dsimp only
  exact ⟨rfl, pos_of_parseFadeDuration hduration⟩

/-! ## Snapshots -/

/-- Where a fade began. -/
structure FadeSnapshot where
  startedAt : Time
  brightnessFrom : ℚ := 0
  colorTemperatureKelvin : Int := 0
  deriving DecidableEq

/-- By Condition and zone.  `Get`, `Set` and `Delete` are `lookup`, `insert` and `erase`. -/
abbrev FadeSnapshotStore : Type := GoMap (String × String) FadeSnapshot

/-- The levels in a zone's status. -/
structure ZoneLevels where
  brightness : String := ""
  colorTemperature : String := ""
  deriving DecidableEq

abbrev FadeZoneReader : Type := String → Option ZoneLevels

def currentBrightness (zone : String) : ℚ :=
  match zones zone with
  | none => 0
  | some z =>
    if z.brightness = "" then 0
    else canonical brightnessTable ((Brightness.value z.brightness).getD .unspecified)

def currentColorTemperatureKelvin (zone : String) : Int :=
  match zones zone with
  | none => 0
  | some z =>
    if z.colorTemperature = "" then 0
    else colorTempCanonical ((ColorTemperature.value z.colorTemperature).getD .unspecified)

def resolveFromValues (zone : String) (p : FadeParams) (startedAt : Time) : FadeSnapshot where
  startedAt := startedAt
  brightnessFrom :=
    if p.brightnessTo = 0 then 0
    else if p.brightnessFrom ≠ 0 then p.brightnessFrom
    else currentBrightness zones zone
  colorTemperatureKelvin :=
    if p.colorTempToKelvin = 0 then 0
    else if p.colorTempFromKelvin ≠ 0 then p.colorTempFromKelvin
    else currentColorTemperatureKelvin zones zone

def seedEventSnapshot (now : Time) (zone : String) (args : Args) : Option FadeSnapshot :=
  match parseFadeArgs lib args with
  | .error _ => none
  | .ok p => if p.anchor ≠ "event" then none else some (resolveFromValues zones zone p now)

theorem seedEventSnapshot_isSome_iff {lib : GoLibrary} {args : Args}
    (hanchor : Args.value args "anchor" = "event") (zones : FadeZoneReader) (now : Time)
    (zone : String) :
    (seedEventSnapshot lib zones now zone args).isSome = true ↔
      ∃ p, parseFadeArgs lib args = .ok p := by
  unfold seedEventSnapshot
  cases hparse : parseFadeArgs lib args with
  | error => simp
  | ok p =>
    have hevent : p.anchor = "event" := by
      rw [(parseFadeArgs_spec hparse).1, fadeAnchor, hanchor]
      decide
    simp [hevent]

/-! ## Interpolation -/

def fadeProgress (p : FadeParams) (entry : FadeSnapshot) (now : Time) : ℚ :=
  (now.sub entry.startedAt : ℚ) / (p.duration : ℚ)

def lerp (start stop progress : ℚ) : ℚ := start + progress * (stop - start)

def fadeAxes (p : FadeParams) (entry : FadeSnapshot) (progress : ℚ) : ApplyValues :=
  let vals : ApplyValues :=
    if p.brightnessTo = 0 then {}
    else
      let start := if p.brightnessFrom = 0 then entry.brightnessFrom else p.brightnessFrom
      let v := Double.finite (lerp start p.brightnessTo progress)
      { brightnessValue := v, brightness := brightnessNearestEnum v }
  if p.colorTempToKelvin = 0 then vals
  else
    let start :=
      if p.colorTempFromKelvin = 0 then entry.colorTemperatureKelvin else p.colorTempFromKelvin
    let k := mathRound (lerp start p.colorTempToKelvin progress)
    { vals with colorTemperatureKelvin := k, colorTemperature := colorTempNearestEnum k }

/-- Drop a snapshot; the empty names are never a key. -/
def deleteSnapshot (cond zone : String) (store : FadeSnapshotStore) : FadeSnapshotStore :=
  if cond ≠ "" ∧ zone ≠ "" then store.erase (cond, zone) else store

def interpolate (p : FadeParams) (entry : FadeSnapshot) (now : Time) (cond zone : String)
    (store : FadeSnapshotStore) : ApplyValues × FadeSnapshotStore :=
  if fadeProgress p entry now < 0 then ({}, store)
  else
    let progress := min (fadeProgress p entry now) 1
    let vals := fadeAxes p entry progress
    if progress < 1 then (vals, store)
    else
      (if p.terminalState ≠ .unspecified then { vals with state := p.terminalState } else vals,
        deleteSnapshot cond zone store)

/-! ## Compute -/

def computeWindow (now : Time) (cond zone : String) (p : FadeParams) (store : FadeSnapshotStore) :
    Except String ApplyValues × FadeSnapshotStore :=
  match lib.loadLocation p.timezone with
  | .error message =>
    (.error ("fade: load timezone " ++ p.timezone.quote ++ ": " ++ message), store)
  | .ok date =>
    match parseHHMM lib p.startAt with
    | .error message =>
      (.error ("fade: parse start_at " ++ p.startAt.quote ++ ": " ++ message), store)
    | .ok (hh, mm) =>
      let startToday := date now hh mm
      if now < startToday ∨ startToday + p.duration < now then
        (.ok {}, deleteSnapshot cond zone store)
      else match store.lookup (cond, zone) with
        | some entry =>
          let (vals, store) := interpolate p entry now cond zone store
          (.ok vals, store)
        | none =>
          let entry := resolveFromValues zones zone p startToday
          let (vals, store) := interpolate p entry now cond zone (store.insert (cond, zone) entry)
          (.ok vals, store)

def computeEvent (now : Time) (cond zone : String) (p : FadeParams) (store : FadeSnapshotStore) :
    Except String ApplyValues × FadeSnapshotStore :=
  if cond = "" ∨ zone = "" then (.ok {}, store)
  else match store.lookup (cond, zone) with
    | none => (.ok {}, store)
    | some entry =>
      let (vals, store) := interpolate p entry now cond zone store
      (.ok vals, store)

/-- `Compute` of the fade, with the store after it. -/
def fadeCompute (now : Time) (args : Args) (store : FadeSnapshotStore) :
    Except String ApplyValues × FadeSnapshotStore :=
  match parseFadeArgs lib args with
  | .error message => (.error message, store)
  | .ok p =>
    let cond := Args.value args "_condition"
    let zone := Args.value args "_zone"
    if p.anchor = "window" then computeWindow lib zones now cond zone p store
    else if p.anchor = "event" then computeEvent now cond zone p store
    else
      (.error ("fade: unknown anchor " ++ p.anchor.quote ++ " (want window | event)"), store)

/-- `SuggestedTTL`: half a minute more than the fade takes. -/
def fadeSuggestedTTL : Duration :=
  match parseFadeArgs lib args with
  | .error _ => 0
  | .ok p => if p.duration ≤ 0 then 0 else p.duration + 30 * second

/-- What `NewFade` registers.  `compute` answers without snapshots; a caller with a store uses
`fadeCompute`. -/
def newFade : Computer where
  compute _ now _ args := (fadeCompute lib (fun _ => none) now args ∅).1
  suggestedTTL := some (fadeSuggestedTTL lib)

/-! ## What a call does

A call is past the end of its fade or it is not.  Past the end it returns the final
values and drops the snapshot; before, the snapshot stays. -/

/-- The fade has ended by `now`. -/
def FadeOver (p : FadeParams) (startedAt now : Time) : Prop := p.duration ≤ now.sub startedAt

instance (p : FadeParams) (startedAt now : Time) : Decidable (FadeOver p startedAt now) :=
  inferInstanceAs (Decidable (_ ≤ _))

def finalValues (p : FadeParams) : ApplyValues where
  state := p.terminalState
  brightness := brightnessNearestEnum (.finite p.brightnessTo)
  brightnessValue := .finite p.brightnessTo
  colorTemperature := colorTempNearestEnum p.colorTempToKelvin
  colorTemperatureKelvin := p.colorTempToKelvin

section Call

variable {p : FadeParams} {entry : FadeSnapshot} {now : Time} {cond zone : String}
  {store : FadeSnapshotStore}

theorem one_le_fadeProgress_iff (hpos : 0 < p.duration) :
    1 ≤ fadeProgress p entry now ↔ FadeOver p entry.startedAt now := by
  have hpos' : (0 : ℚ) < (p.duration : ℚ) := by exact_mod_cast hpos
  rw [fadeProgress, le_div_iff₀ hpos', one_mul, FadeOver]
  exact_mod_cast Iff.rfl

@[simp] theorem lerp_one (start stop : ℚ) : lerp start stop 1 = stop := by
  simp [lerp]

theorem fadeAxes_one (p : FadeParams) (entry : FadeSnapshot) :
    fadeAxes p entry 1 = { finalValues p with state := .unspecified } := by
  by_cases hbrightness : p.brightnessTo = 0
  · by_cases htemperature : p.colorTempToKelvin = 0
    · simp [fadeAxes, finalValues, hbrightness, htemperature, brightnessNearestEnum,
        colorTempNearestEnum]
      rfl
    · simp [fadeAxes, finalValues, hbrightness, htemperature, brightnessNearestEnum]
      rfl
  · by_cases htemperature : p.colorTempToKelvin = 0
    · simp [fadeAxes, finalValues, hbrightness, htemperature, colorTempNearestEnum]
    · simp [fadeAxes, finalValues, hbrightness, htemperature]

theorem interpolate_of_over (hpos : 0 < p.duration) (hover : FadeOver p entry.startedAt now) :
    interpolate p entry now cond zone store = (finalValues p, deleteSnapshot cond zone store) := by
  have hprogress : 1 ≤ fadeProgress p entry now := (one_le_fadeProgress_iff hpos).mpr hover
  have hbegun : ¬ fadeProgress p entry now < 0 := not_lt.mpr (zero_le_one.trans hprogress)
  simp only [interpolate, hbegun, if_false, min_eq_right hprogress, lt_irrefl, fadeAxes_one]
  by_cases hterminal : p.terminalState = .unspecified
  · simp [hterminal, finalValues]
  · simp [hterminal, finalValues]

theorem interpolate_of_not_over (hpos : 0 < p.duration)
    (hover : ¬ FadeOver p entry.startedAt now) :
    (interpolate p entry now cond zone store).2 = store := by
  have hprogress : fadeProgress p entry now < 1 :=
    not_le.mp fun h => hover ((one_le_fadeProgress_iff hpos).mp h)
  unfold interpolate
  split
  · rfl
  · simp [min_eq_left hprogress.le, hprogress]

theorem lookup_deleteSnapshot_of_ne {key : String × String} (hkey : key ≠ (cond, zone)) :
    (deleteSnapshot cond zone store).lookup key = store.lookup key := by
  unfold deleteSnapshot
  split
  · rw [GoMap.lookup_erase_eq, if_neg hkey]
  · rfl

theorem lookup_interpolate_of_ne {key : String × String} (hkey : key ≠ (cond, zone)) :
    (interpolate p entry now cond zone store).2.lookup key = store.lookup key := by
  unfold interpolate
  split
  · rfl
  · dsimp only
    split
    · rfl
    · exact lookup_deleteSnapshot_of_ne hkey

theorem lookup_fadeCompute_of_ne {key : String × String} {args : Args}
    (hkey : key ≠ (Args.value args "_condition", Args.value args "_zone")) (lib : GoLibrary)
    (zones : FadeZoneReader) (now : Time) (store : FadeSnapshotStore) :
    (fadeCompute lib zones now args store).2.lookup key = store.lookup key := by
  unfold fadeCompute
  split
  · rfl
  · dsimp only
    split
    · unfold computeWindow
      split
      · rfl
      · split
        · rfl
        · dsimp only
          split
          · exact lookup_deleteSnapshot_of_ne hkey
          · split
            · exact lookup_interpolate_of_ne hkey
            · refine (lookup_interpolate_of_ne hkey).trans ?_
              rw [GoMap.lookup_insert_eq, if_neg hkey]
    · split
      · unfold computeEvent
        split
        · rfl
        · split
          · rfl
          · exact lookup_interpolate_of_ne hkey
      · rfl

/-- The fade that began at `startedAt` has its snapshot, or it is a window fade that
has yet to take it. -/
def Underway (p : FadeParams) (key : String × String) (startedAt : Time)
    (store : FadeSnapshotStore) : Prop :=
  match store.lookup key with
  | some entry => entry.startedAt = startedAt
  | none => p.anchor = "window"

/-- A call at `now` belongs to the fade begun at `startedAt`, a window fade to its day's
window. -/
def Belongs (p : FadeParams) (startedAt now : Time) : Prop :=
  p.anchor = "event" ∨
    p.anchor = "window" ∧ ∃ date hh mm, lib.loadLocation p.timezone = .ok date ∧
      parseHHMM lib p.startAt = .ok (hh, mm) ∧ date now hh mm = startedAt ∧
      startedAt ≤ now ∧ now ≤ startedAt + p.duration

theorem interpolate_spec {startedAt : Time} (now : Time) (hpos : 0 < p.duration)
    (hentry : store.lookup (cond, zone) = some entry) (hstarted : entry.startedAt = startedAt) :
    (FadeOver p startedAt now → (interpolate p entry now cond zone store).1 = finalValues p) ∧
      (¬ FadeOver p startedAt now →
        (interpolate p entry now cond zone store).2.lookup (cond, zone) = some entry) := by
  subst hstarted
  constructor
  · intro hover
    rw [interpolate_of_over hpos hover]
  · intro hover
    rw [interpolate_of_not_over hpos hover, hentry]

/-- **One call of a fade under way.**  It succeeds: past the end with the final values, before
it with the snapshot kept. -/
theorem fadeCompute_of_underway {lib : GoLibrary} {args : Args} {startedAt : Time}
    (hparse : parseFadeArgs lib args = .ok p) (hcond : Args.value args "_condition" = cond)
    (hzone : Args.value args "_zone" = zone) (hnames : cond ≠ "" ∧ zone ≠ "")
    (hbelongs : Belongs lib p startedAt now) (hunderway : Underway p (cond, zone) startedAt store)
    (zones : FadeZoneReader) :
    ∃ vals store', fadeCompute lib zones now args store = (.ok vals, store') ∧
      (FadeOver p startedAt now → vals = finalValues p) ∧
      (¬ FadeOver p startedAt now →
        ∃ entry, store'.lookup (cond, zone) = some entry ∧ entry.startedAt = startedAt) := by
  have hpos := (parseFadeArgs_spec hparse).2
  subst hcond hzone
  rcases hbelongs with hanchor | ⟨hanchor, date, hh, mm, hdate, hhhmm, hstart, hafter, hbefore⟩
  · -- an event fade has its snapshot
    have hne : p.anchor ≠ "window" := by rw [hanchor]; decide
    cases hentry : store.lookup (Args.value args "_condition", Args.value args "_zone") with
    | none =>
      rw [Underway, hentry] at hunderway
      exact absurd hunderway hne
    | some entry =>
      rw [Underway, hentry] at hunderway
      obtain ⟨hfinal, hkeep⟩ := interpolate_spec now hpos hentry hunderway
      refine ⟨_, _, ?_, hfinal, fun hover => ⟨entry, hkeep hover, hunderway⟩⟩
      simp only [fadeCompute, hparse, hanchor, computeEvent, hentry]
      simp [hnames]
  · have hinside : ¬ (now < startedAt ∨ startedAt + p.duration < now) :=
      not_or.mpr ⟨not_lt.mpr hafter, not_lt.mpr hbefore⟩
    cases hentry : store.lookup (Args.value args "_condition", Args.value args "_zone") with
    | none =>
      -- the first call inside the window takes the snapshot
      have hseed := AList.lookup_insert
        (a := (Args.value args "_condition", Args.value args "_zone"))
        (b := resolveFromValues zones (Args.value args "_zone") p startedAt) store
      obtain ⟨hfinal, hkeep⟩ := interpolate_spec now hpos hseed rfl
      refine ⟨_, _, ?_, hfinal, fun hover => ⟨_, hkeep hover, rfl⟩⟩
      simp only [fadeCompute, hparse, hanchor, if_true, computeWindow, hdate, hhhmm, hstart,
        hinside, if_false, hentry]
    | some entry =>
      rw [Underway, hentry] at hunderway
      obtain ⟨hfinal, hkeep⟩ := interpolate_spec now hpos hentry hunderway
      refine ⟨_, _, ?_, hfinal, fun hover => ⟨entry, hkeep hover, hunderway⟩⟩
      simp only [fadeCompute, hparse, hanchor, if_true, computeWindow, hdate, hhhmm, hstart,
        hinside, if_false, hentry]

end Call

end IotController.Compute
