/-
  The `query` Computer
  (`modules/conditioner/computer/query.go`).

  A call asks a metrics server for one number and answers with the values that the arguments
  declare under `on_true` or `on_false`.  When the server cannot be asked, the values under
  `on_error` are the answer if any is declared, and otherwise the last answer to the same
  arguments that came from the server; the Computer keeps it in a cache that all its callers
  share.

  The key of the cache is a digest of the arguments in the order of their keys, with `=` and
  a zero byte as separators.
-/
import Mathlib.Data.String.Basic
import IotController.Compute.Fade
import IotController.Foundation.Run

namespace IotController.Compute

open Foundation Api Proto

/-! ## Values -/

/-- A float64 up to `==`. -/
inductive Float64 where
  | nan
  | number (x : Double)
  deriving DecidableEq

/-- `0 < x`, which is false for NaN. -/
def Float64.pos : Float64 → Bool
  | nan => false
  | number x => x.pos

def isHexDigit (c : Char) : Bool :=
  ('0' ≤ c && c ≤ '9') || ('A' ≤ c && c ≤ 'F') || ('a' ≤ c && c ≤ 'f')

/-- Six hexadecimal digits, with or without a hash in front. -/
def hexColorRE (s : String) : Bool :=
  let digits := match s.toList with
    | '#' :: rest => rest
    | chars => chars
  digits.length = 6 && digits.all isHexDigit

def normalizeColor (s : String) : String :=
  let s := if s.toList.head? = some '#' then s else "#" ++ s
  String.ofList (s.toList.map Char.toUpper)

def parseArg {V : Type} (args : Args) (key : String) (default : V) (parse : String → Option V)
    (fault : String → String) : Except String V :=
  let s := Args.value args key
  if s = "" then .ok default
  else match parse s with
    | some v => .ok v
    | none => .error (fault s)

def parseApplyValues (lib : GoLibrary) (args : Args) (group : String) :
    Except String ApplyValues := do
  let unknown (field s : String) : String := "unknown " ++ group ++ field ++ " " ++ s.quote
  let state ← parseArg args (group ++ ".state") .unspecified ZoneState.value (unknown ".state")
  let brightness ← parseArg args (group ++ ".brightness") .unspecified (parseBrightness lib)
    (unknown ".brightness")
  let colorTemperature ← parseArg args (group ++ ".color_temperature") .unspecified
    (parseColorTemp lib) (unknown ".color_temperature")
  let color ← parseArg args (group ++ ".color") ""
    (fun s => if hexColorRE (trimSpace s) then some (normalizeColor (trimSpace s)) else none)
    (fun s => "invalid " ++ group ++ ".color " ++ (trimSpace s).quote ++ " (want #RRGGBB)")
  .ok { state, brightness, colorTemperature, color }

def onErrorKeys : List String :=
  ["on_error.state", "on_error.brightness", "on_error.color_temperature", "on_error.color"]

def hasOnErrorArgs (args : Args) : Bool :=
  onErrorKeys.any fun key => trimSpace (Args.value args key) ≠ ""

/-! ## The cache key -/

def canonicalArgs (args : Args) : String :=
  String.join ((args.keys.insertionSort (· ≤ ·)).map fun key =>
    key ++ "=" ++ Args.value args key ++ "\x00")

/-- `hashArgs`, with `digest` for the hexadecimal SHA-256. -/
def hashArgs (digest : String → String) (args : Args) : String := digest (canonicalArgs args)

/-- The maps have the same entries. -/
def SameArgs (a b : Args) : Prop := ∀ key, a.lookup key = b.lookup key

theorem SameArgs.symm {a b : Args} (h : SameArgs a b) : SameArgs b a := fun key => (h key).symm

theorem hashArgs_congr (digest : String → String) {a b : Args} (h : SameArgs a b) :
    hashArgs digest a = hashArgs digest b := by
  have hkeys : a.keys.Perm b.keys := by
    refine (List.perm_ext_iff_of_nodup a.keys_nodup b.keys_nodup).mpr fun key => ?_
    rw [← AList.mem_keys, ← AList.mem_keys, ← AList.lookup_isSome, ← AList.lookup_isSome, h key]
  have hsorted : a.keys.insertionSort (· ≤ ·) = b.keys.insertionSort (· ≤ ·) :=
    List.Perm.eq_of_pairwise (fun _ _ _ _ => le_antisymm) (List.pairwise_insertionSort _ _)
      (List.pairwise_insertionSort _ _)
      (((List.perm_insertionSort _ _).trans hkeys).trans (List.perm_insertionSort _ _).symm)
  have hvalue : ∀ key, Args.value a key = Args.value b key := fun key => by
    rw [Args.value, Args.value, h key]
  simp only [hashArgs, canonicalArgs, hsorted, hvalue]

/-! ## Calls -/

/-- A call, and what the server answers. -/
structure QueryCall where
  args : Args
  fetch : Except String Float64

abbrev QueryCache : Type := GoMap String ApplyValues

section Compute

variable (lib : GoLibrary) (digest : String → String)

/-- `Compute` of the query, with the cache after it. -/
def queryCompute (cache : QueryCache) (call : QueryCall) :
    Except String ApplyValues × QueryCache :=
  if trimSpace (Args.value call.args "query") = "" then
    (.error "query: args.query (PromQL) is required", cache)
  else
    let cacheKey := hashArgs digest call.args
    match call.fetch with
    | .error err =>
      if hasOnErrorArgs call.args then
        match parseApplyValues lib call.args "on_error" with
        | .error perr => (.error ("query: on_error parse: " ++ perr), cache)
        | .ok failSafe => (.ok failSafe, cache)
      else match cache.lookup cacheKey with
        | some cached => (.ok cached, cache)
        | none => (.error ("query: " ++ err), cache)
    | .ok value =>
      match parseApplyValues lib call.args (if value.pos then "on_true" else "on_false") with
      | .error perr => (.error ("query: " ++ perr), cache)
      | .ok vals => (.ok vals, cache.insert cacheKey vals)

def cacheAfter (calls : List QueryCall) : QueryCache :=
  run (fun cache call => (queryCompute lib digest cache call).2) ∅ calls

def answer (before : List QueryCall) (call : QueryCall) : Except String ApplyValues :=
  (queryCompute lib digest (cacheAfter lib digest before) call).1

def QueryCall.write (call : QueryCall) : Option (String × ApplyValues) :=
  if trimSpace (Args.value call.args "query") = "" then none
  else match call.fetch with
    | .error _ => none
    | .ok value =>
      match parseApplyValues lib call.args (if value.pos then "on_true" else "on_false") with
      | .error _ => none
      | .ok vals => some (hashArgs digest call.args, vals)

variable {lib digest}

theorem queryCompute_cache (cache : QueryCache) (call : QueryCall) :
    (queryCompute lib digest cache call).2 =
      GoMap.record (QueryCall.write lib digest) cache call := by
  unfold queryCompute GoMap.record QueryCall.write
  split
  · rfl
  · cases call.fetch with
    | error =>
      dsimp only
      split
      · split <;> rfl
      · split <;> rfl
    | ok value =>
      dsimp only
      cases parseApplyValues lib call.args (if value.pos then "on_true" else "on_false") with
      | error | ok => rfl

theorem write_eq_some_iff (cache : QueryCache) (call : QueryCall) (key : String)
    (v : ApplyValues) :
    QueryCall.write lib digest call = some (key, v) ↔
      hashArgs digest call.args = key ∧ (∃ value, call.fetch = .ok value) ∧
        (queryCompute lib digest cache call).1 = .ok v := by
  unfold QueryCall.write queryCompute
  split
  · simp
  · cases hfetch : call.fetch with
    | error => simp
    | ok value =>
      cases hparse : parseApplyValues lib call.args
          (if value.pos then "on_true" else "on_false") with
      | error perr | ok vals => simp [hparse]

/-- `v` is the last good answer to `args`. -/
def LastGood (lib : GoLibrary) (digest : String → String) (calls : List QueryCall) (args : Args)
    (v : ApplyValues) : Prop :=
  ∃ before call after, calls = before ++ call :: after ∧ SameArgs call.args args ∧
    (∃ value, call.fetch = .ok value) ∧ answer lib digest before call = .ok v ∧
    ∀ later₁ d later₂, after = later₁ ++ d :: later₂ → SameArgs d.args args →
      (∃ value, d.fetch = .ok value) →
      ∀ w, answer lib digest (before ++ call :: later₁) d ≠ .ok w

theorem cacheAfter_eq (calls : List QueryCall) :
    cacheAfter lib digest calls = calls.foldl (GoMap.record (QueryCall.write lib digest)) ∅ := by
  unfold cacheAfter run
  simp only [queryCompute_cache]

theorem assigned_eq_some_iff (before : List QueryCall) (call : QueryCall) (key : String)
    (v : ApplyValues) :
    GoMap.assigned (QueryCall.write lib digest) key call = some v ↔
      hashArgs digest call.args = key ∧ (∃ value, call.fetch = .ok value) ∧
        answer lib digest before call = .ok v := by
  rw [answer, ← write_eq_some_iff (cacheAfter lib digest before)]
  unfold GoMap.assigned
  cases hwrite : QueryCall.write lib digest call with
  | none => simp
  | some w =>
    obtain ⟨key', v'⟩ := w
    by_cases hkey : key = key'
    · simp [hkey]
    · have hne : key' ≠ key := fun h => hkey h.symm
      simp [hkey, hne]

/-- **The cache.**  Among calls whose digests differ from that of `args`, the entry of `args` is
its last good answer. -/
theorem cacheAfter_lookup_iff {calls : List QueryCall} {args : Args}
    (hkeys : ∀ c ∈ calls, hashArgs digest c.args = hashArgs digest args → SameArgs c.args args)
    (v : ApplyValues) :
    (cacheAfter lib digest calls).lookup (hashArgs digest args) = some v ↔
      LastGood lib digest calls args v := by
  rw [cacheAfter_eq, GoMap.lookup_log_eq_some_iff]
  constructor
  · rintro ⟨before, call, after, rfl, hassigned, hnone⟩
    obtain ⟨hkey, hfetch, hanswer⟩ := (assigned_eq_some_iff before call _ v).mp hassigned
    refine ⟨before, call, after, rfl, hkeys call (by simp) hkey, hfetch, hanswer, ?_⟩
    intro later₁ d later₂ hafter hsame hfetched w hw
    have hassigned' := (assigned_eq_some_iff (before ++ call :: later₁) d _ w).mpr
      ⟨hashArgs_congr digest hsame, hfetched, hw⟩
    rw [hnone d (by simp [hafter])] at hassigned'
    cases hassigned'
  · rintro ⟨before, call, after, rfl, hsame, hfetch, hanswer, hlater⟩
    refine ⟨before, call, after, rfl, (assigned_eq_some_iff before call _ v).mpr
      ⟨hashArgs_congr digest hsame, hfetch, hanswer⟩, ?_⟩
    intro d hd
    obtain ⟨later₁, later₂, hafter⟩ := List.append_of_mem hd
    cases hassigned : GoMap.assigned (QueryCall.write lib digest) (hashArgs digest args) d with
    | none => rfl
    | some w =>
      obtain ⟨hkey, hfetched, hw⟩ :=
        (assigned_eq_some_iff (before ++ call :: later₁) d _ w).mp hassigned
      have hsame' := hkeys d (by simp [hd]) hkey
      exact absurd hw (hlater later₁ d later₂ hafter hsame' hfetched w)

end Compute

/-! ## Resolution -/

/-- There is a query, and the arguments parse. -/
structure ValidArgs (lib : GoLibrary) (args : Args) : Prop where
  query : trimSpace (Args.value args "query") ≠ ""
  parses : ∀ group ∈ ["on_true", "on_false", "on_error"],
    ∃ v, parseApplyValues lib args group = .ok v

/-- **Resolution.**  After any calls, a call that the server answers returns what its arguments
declare for a positive or another value.  A call that fails returns what `on_error` declares, if
anything, otherwise the last good answer to the same arguments, otherwise an error, and leaves
the cache, whose values were all returned by answered calls. -/
theorem query_resolution (lib : GoLibrary) (digest : String → String) (before : List QueryCall)
    (call : QueryCall) (hvalid : ValidArgs lib call.args)
    (hkeys : ∀ c ∈ before, hashArgs digest c.args = hashArgs digest call.args →
      SameArgs c.args call.args) :
    (∀ value, call.fetch = .ok value →
      ∃ v, parseApplyValues lib call.args (if value.pos then "on_true" else "on_false") = .ok v ∧
        answer lib digest before call = .ok v) ∧
    (∀ err, call.fetch = .error err →
      (hasOnErrorArgs call.args = true →
        ∃ v, parseApplyValues lib call.args "on_error" = .ok v ∧
          answer lib digest before call = .ok v) ∧
      (hasOnErrorArgs call.args = false →
        (∀ v, answer lib digest before call = .ok v ↔ LastGood lib digest before call.args v) ∧
        ((∀ v, ¬ LastGood lib digest before call.args v) →
          answer lib digest before call = .error ("query: " ++ err))) ∧
      cacheAfter lib digest (before ++ [call]) = cacheAfter lib digest before) ∧
    ∀ key v, (cacheAfter lib digest (before ++ [call])).lookup key = some v →
      ∃ earlier c later, before ++ [call] = earlier ++ c :: later ∧
        (∃ value, c.fetch = .ok value) ∧ answer lib digest earlier c = .ok v := by
  refine ⟨?_, ?_, ?_⟩
  · intro value hfetch
    obtain ⟨v, hv⟩ := hvalid.parses (if value.pos then "on_true" else "on_false")
      (by split <;> simp)
    refine ⟨v, hv, ?_⟩
    simp only [answer, queryCompute, if_neg hvalid.query, hfetch, hv]
  · intro err hfetch
    refine ⟨?_, ?_, ?_⟩
    · intro hdeclared
      obtain ⟨v, hv⟩ := hvalid.parses "on_error" (by simp)
      refine ⟨v, hv, ?_⟩
      simp only [answer, queryCompute, if_neg hvalid.query, hfetch, hdeclared, if_true, hv]
    · intro hundeclared
      have hcached : ∀ v, (cacheAfter lib digest before).lookup (hashArgs digest call.args) =
          some v ↔ LastGood lib digest before call.args v := cacheAfter_lookup_iff hkeys
      simp only [answer, queryCompute, if_neg hvalid.query, hfetch, hundeclared,
        Bool.false_eq_true, if_false]
      cases hlookup : (cacheAfter lib digest before).lookup (hashArgs digest call.args) with
      | none =>
        simp only [hlookup, reduceCtorEq, false_iff] at hcached
        simp [hcached]
      | some cached =>
        rw [hlookup] at hcached
        refine ⟨fun v => by simpa using hcached v, fun hnone => ?_⟩
        exact absurd ((hcached cached).mp rfl) (hnone cached)
    · rw [cacheAfter_eq, cacheAfter_eq, List.foldl_append]
      have hwrite : QueryCall.write lib digest call = none := by
        simp [QueryCall.write, hvalid.query, hfetch]
      simp [GoMap.record, hwrite]
  · intro key v hlookup
    rw [cacheAfter_eq, GoMap.lookup_log_eq_some_iff] at hlookup
    obtain ⟨earlier, c, later, hcalls, hassigned, -⟩ := hlookup
    obtain ⟨-, hfetch, hanswer⟩ := (assigned_eq_some_iff earlier c key v).mp hassigned
    exact ⟨earlier, c, later, hcalls, hfetch, hanswer⟩

def plainLibrary : GoLibrary where
  parseDuration := .error
  formatDuration _ := "0s"
  loadLocation := .error
  atoi := .error

def lampQuery : Args :=
  ((AList.singleton "query" "up").insert "on_true.state" ZoneState.on.name).insert
    "on_false.state" ZoneState.off.name

/-- The server answers with one, then it is out of reach: the lamp stays on. -/
theorem lampQuery_keeps_last_good :
    answer plainLibrary id [⟨lampQuery, .ok (.number (.finite 1))⟩] ⟨lampQuery, .error "timeout"⟩ =
      .ok { state := .on } := by
  have hvalid : ValidArgs plainLibrary lampQuery :=
    { query := by decide
      parses := by
        intro group hgroup
        fin_cases hgroup <;> exact ⟨_, rfl⟩ }
  have hresolved := query_resolution plainLibrary id [⟨lampQuery, .ok (.number (.finite 1))⟩]
    ⟨lampQuery, .error "timeout"⟩ hvalid
    (by
      intro c hc _
      rw [List.mem_singleton.mp hc]
      exact fun _ => rfl)
  refine (((hresolved.2.1 "timeout" rfl).2.1 (by decide)).1 _).mpr ?_
  refine ⟨[], _, [], rfl, fun _ => rfl, ⟨_, rfl⟩, rfl, ?_⟩
  intro later₁ d later₂ hafter
  exact absurd hafter (by simp)

end IotController.Compute
