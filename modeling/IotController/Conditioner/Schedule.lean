/-
  Named events that fire at a given time
  (`modules/conditioner/schedule.go`).

  An event is an entry of the map `events` together with a goroutine, here a `Job`, which
  waits for its timer, hands one item over on the unbuffered channel `itemCh` and ends.
  `run` receives one item at a time, executes it under the job's context and then removes
  the event by name.

  A label of `step` is one atomic action of one party: a call of `add` or `remove` under the
  mutex, a choice of a goroutine's `select`, a hand-over on the channel, one of the two
  halves of an iteration of `run`.  A label that is not enabled changes nothing.
-/
import IotController.Conditioner.ApplyDesired

namespace IotController.Conditioner

open Foundation Api Proto Compute

/-! ## State -/

def matched (a b : Request) : Bool :=
  (match a.sceneReq, b.sceneReq with
    | none, none => true
    | some x, some y => x.name = y.name ∧ x.scene = y.scene
    | _, _ => false) &&
  (match a.stateReq, b.stateReq with
    | none, none => true
    | some x, some y => x.name = y.name ∧ x.state = y.state
    | _, _ => false)

/-- The call a request context belongs to; an event's goroutine keeps it to link its span. -/
inductive Origin where
  | setSchedule (cond zone : String)
  | epoch (location name cond zone : String)
  deriving DecidableEq

/-- The context of a call. -/
structure Ctx where
  err : Option String := none
  origin : Origin

/-- The errors of `add`. -/
inductive AddError where
  /-- `ctx.Err()` -/
  | context (message : String)
  | emptyRequest
  deriving DecidableEq

/-- Who cancelled a job. -/
inductive Cause where
  /-- a caller of `add` or `remove`, at this time -/
  | caller (since : Time)
  /-- `run`, after it executed the item of this job -/
  | finished (job : Nat)
  | stopped
  deriving DecidableEq

/-- Where a job's goroutine stands. -/
inductive Phase where
  | waiting
  | sending
  | handed
  | returned
  deriving DecidableEq

/-- The goroutine of one event and its context.  A job is known by its position
in `Schedule.jobs`. -/
structure Job where
  name : String
  t : Time
  req : Request
  origin : Origin
  phase : Phase := .waiting
  cause : Option Cause := none

/-- The context's `cancel`; only the first call counts. -/
def Job.cancel (cause : Cause) (j : Job) : Job := { j with cause := j.cause.or (some cause) }

/-- A caller replaced or removed the event before its time. -/
def Job.Withdrawn (j : Job) : Prop := ∃ since, j.cause = some (.caller since) ∧ since < j.t

/-- An entry of the map `events`. -/
structure Event where
  job : Nat
  t : Time
  req : Request

/-- What a goroutine hands over. -/
structure Item where
  job : Nat
  name : String
  req : Request

/-- Where `run` stands. -/
inductive Runner where
  | idle
  | holding (item : Item)
  | executed (item : Item)
  | stopped

def Runner.job : Runner → Option Nat
  | .holding item => some item.job
  | .executed item => some item.job
  | .idle => none
  | .stopped => none

/-- A call of `execRequest` by `run`; with a cancelled context nothing is sent. -/
structure Execution where
  job : Nat
  req : Request
  live : Bool

/-- The clock, and the goroutines around it.  `executions` lists the newest first. -/
structure Schedule where
  now : Time
  events : GoMap String Event := ∅
  jobs : List Job := []
  runner : Runner := .idle
  executions : List Execution := []

namespace Schedule

/-! ## The operations -/

def remove (cause : Cause) (name : String) (s : Schedule) : Schedule :=
  match s.events.lookup name with
  | none => s
  | some v =>
    { s with
      events := s.events.erase name
      jobs := s.jobs.modify v.job (Job.cancel cause) }

def start (origin : Origin) (name : String) (t : Time) (req : Request) (s : Schedule) : Schedule :=
  { s with
    events := s.events.insert name ⟨s.jobs.length, t, req⟩
    jobs := s.jobs ++ [{ name := name, t := t, req := req, origin := origin }] }

def Repeats (name : String) (t : Time) (req : Request) (s : Schedule) : Prop :=
  ∃ v ∈ s.events.lookup name, matched v.req req = true ∧ t = v.t

instance (name : String) (t : Time) (req : Request) (s : Schedule) :
    Decidable (s.Repeats name t req) :=
  inferInstanceAs (Decidable (∃ v ∈ s.events.lookup name, matched v.req req = true ∧ t = v.t))

def add (ctx : Ctx) (name : String) (t : Time) (req : Option Request) (s : Schedule) :
    Option AddError × Schedule :=
  match ctx.err, req with
  | some message, _ => (some (.context message), s)
  | none, none => (some .emptyRequest, s)
  | none, some req =>
    if s.Repeats name t req then (none, s)
    else (none, (s.remove (.caller s.now) name).start ctx.origin name t req)

def stop (s : Schedule) : Schedule :=
  s.events.keys.foldl (fun s name => s.remove .stopped name) s

def goto (g : Nat) (phase : Phase) (s : Schedule) : Schedule :=
  { s with jobs := s.jobs.modify g fun j => { j with phase := phase } }

def live (s : Schedule) (g : Nat) : Bool := s.jobs[g]?.any fun j => j.cause.isNone

def exec (i : Item) (s : Schedule) : Schedule :=
  { s with
    runner := .executed i
    executions := ⟨i.job, i.req, s.live i.job⟩ :: s.executions }

/-- One atomic action of one party. -/
inductive Label where
  | add (ctx : Ctx) (name : String) (t : Time) (req : Option Request)
  | remove (name : String)
  | advance (d : Nat)
  | fire (g : Nat)
  | wake (g : Nat)
  | handOver (g : Nat)
  | execute
  | finish
  | stop

/-- One action of one party; one that is not enabled does nothing. -/
def step (s : Schedule) : Label → Schedule
  | .add ctx name t req => (s.add ctx name t req).2
  | .remove name => s.remove (.caller s.now) name
  | .advance d => { s with now := s.now + d }
  | .fire g =>
    match s.jobs[g]? with
    | some j => if j.phase = .waiting ∧ j.t ≤ s.now then s.goto g .sending else s
    | none => s
  | .wake g =>
    match s.jobs[g]? with
    | some j => if j.phase = .waiting ∧ j.cause ≠ none then s.goto g .returned else s
    | none => s
  | .handOver g =>
    match s.runner, s.jobs[g]? with
    | .idle, some j =>
      if j.phase = .sending then
        { s.goto g .handed with runner := .holding ⟨g, j.name, j.req⟩ }
      else s
    | _, _ => s
  | .execute =>
    match s.runner with
    | .holding i => s.exec i
    | _ => s
  | .finish =>
    match s.runner with
    | .executed i => { s.remove (.finished i.job) i.name with runner := .idle }
    | _ => s
  | .stop =>
    match s.runner with
    | .idle => { s.stop with runner := .stopped }
    | _ => s

/-! ## Events and jobs -/

/-- `events` are the live jobs, `run` works on a handed-over item, and only jobs were executed. -/
structure Consistent (s : Schedule) : Prop where
  owner : ∀ {g : Nat} {j : Job}, s.jobs[g]? = some j → j.cause = none →
    ∃ v, s.events.lookup j.name = some v ∧ v.job = g
  entry : ∀ {name : String} {v : Event}, s.events.lookup name = some v →
    ∃ j, s.jobs[v.job]? = some j ∧ j.name = name ∧ j.t = v.t ∧ j.req = v.req ∧ j.cause = none
  item : ∀ {i : Item}, s.runner = .holding i ∨ s.runner = .executed i →
    ∃ j, s.jobs[i.job]? = some j ∧ j.name = i.name ∧ j.req = i.req ∧ j.phase = .handed
  past : ∀ {x : Execution}, x ∈ s.executions → x.job < s.jobs.length

variable {s : Schedule} {g : Nat} {j : Job} {name : String}

theorem Consistent.eq_of_live (hs : s.Consistent) {g' : Nat} {j' : Job} (hj : s.jobs[g]? = some j)
    (hj' : s.jobs[g']? = some j') (hname : j'.name = j.name) (hlive : j.cause = none)
    (hlive' : j'.cause = none) : g' = g := by
  obtain ⟨v, hv, rfl⟩ := hs.owner hj hlive
  obtain ⟨v', hv', rfl⟩ := hs.owner hj' hlive'
  rw [hname, hv] at hv'
  rw [Option.some.inj hv']

theorem Consistent.lt_of_runner (hs : s.Consistent) (h : s.runner.job = some g) :
    g < s.jobs.length := by
  have hjob : ∀ i, (s.runner = .holding i ∨ s.runner = .executed i) → i.job < s.jobs.length := by
    intro i hi
    obtain ⟨j, hj, -⟩ := hs.item hi
    exact (List.getElem?_eq_some_iff.mp hj).1
  cases hrunner : s.runner with
  | holding i =>
    rw [hrunner] at h
    exact Option.some.inj h ▸ hjob i (Or.inl hrunner)
  | executed i =>
    rw [hrunner] at h
    exact Option.some.inj h ▸ hjob i (Or.inr hrunner)
  | idle | stopped => rw [hrunner] at h; cases h

def dropJob (cause : Cause) (name : String) (j : Job) : Job :=
  if j.name = name ∧ j.cause = none then { j with cause := some cause } else j

@[simp] theorem dropJob_name (cause : Cause) (name : String) (j : Job) :
    (dropJob cause name j).name = j.name := by
  unfold dropJob; split <;> rfl

@[simp] theorem dropJob_t (cause : Cause) (name : String) (j : Job) :
    (dropJob cause name j).t = j.t := by
  unfold dropJob; split <;> rfl

@[simp] theorem dropJob_req (cause : Cause) (name : String) (j : Job) :
    (dropJob cause name j).req = j.req := by
  unfold dropJob; split <;> rfl

@[simp] theorem dropJob_origin (cause : Cause) (name : String) (j : Job) :
    (dropJob cause name j).origin = j.origin := by
  unfold dropJob; split <;> rfl

@[simp] theorem dropJob_phase (cause : Cause) (name : String) (j : Job) :
    (dropJob cause name j).phase = j.phase := by
  unfold dropJob; split <;> rfl

theorem dropJob_of_ne (h : j.name ≠ name) (cause : Cause) :
    dropJob cause name j = j := if_neg fun hc => h hc.1

theorem dropJob_of_cancelled (h : j.cause ≠ none) (cause : Cause) (name : String) :
    dropJob cause name j = j := if_neg fun hc => h hc.2

theorem dropJob_cause_of_live (h : j.cause = none) (cause : Cause) :
    (dropJob cause j.name j).cause = some cause := by
  simp [dropJob, h]

theorem of_dropJob_cause {cause : Cause} (h : (dropJob cause name j).cause = none) :
    j.name ≠ name ∧ j.cause = none := by
  by_cases hc : j.name = name ∧ j.cause = none
  · simp [dropJob, hc] at h
  · rw [dropJob, if_neg hc] at h
    exact ⟨fun hname => hc ⟨hname, h⟩, h⟩

section Remove

variable (cause : Cause) (name : String) (s : Schedule)

@[simp] theorem remove_now : (s.remove cause name).now = s.now := by
  unfold remove; split <;> rfl

@[simp] theorem remove_runner : (s.remove cause name).runner = s.runner := by
  unfold remove; split <;> rfl

@[simp] theorem remove_executions : (s.remove cause name).executions = s.executions := by
  unfold remove; split <;> rfl

@[simp] theorem remove_length : (s.remove cause name).jobs.length = s.jobs.length := by
  unfold remove
  split
  · rfl
  · exact List.length_modify _ _ _

theorem remove_lookup (name' : String) :
    (s.remove cause name).events.lookup name' =
      if name' = name then none else s.events.lookup name' := by
  unfold remove
  split
  · rename_i hnone
    split
    · rename_i heq
      rw [heq, hnone]
    · rfl
  · exact GoMap.lookup_erase_eq _ _ _

end Remove

theorem Consistent.remove_jobs (hs : s.Consistent) (cause : Cause) (name : String) (g : Nat) :
    (s.remove cause name).jobs[g]? = s.jobs[g]?.map (dropJob cause name) := by
  cases hv : s.events.lookup name with
  | none =>
    have hsame : s.remove cause name = s := by simp [remove, hv]
    rw [hsame]
    cases hj : s.jobs[g]? with
    | none => rfl
    | some =>
      -- a live job of the name would have an entry
      refine congrArg some (if_neg fun hc => ?_).symm
      obtain ⟨v, hlookup, -⟩ := hs.owner hj hc.2
      rw [hc.1, hv] at hlookup
      cases hlookup
  | some v =>
    obtain ⟨jv, hjv, hname, -, -, hlive⟩ := hs.entry hv
    have hjobs : (s.remove cause name).jobs = s.jobs.modify v.job (Job.cancel cause) := by
      simp [remove, hv]
    rw [hjobs, List.getElem?_modify]
    cases hj : s.jobs[g]? with
    | none => rfl
    | some j =>
      show some (if v.job = g then j.cancel cause else j) = some (dropJob cause name j)
      refine congrArg some ?_
      by_cases hg : v.job = g
      · subst hg
        obtain rfl : jv = j := Option.some.inj (hjv.symm.trans hj)
        simp [dropJob, hname, hlive, Job.cancel]
      · rw [if_neg hg, dropJob, if_neg]
        intro hc
        exact hg (hs.eq_of_live hj hjv (hname.trans hc.1.symm) hc.2 hlive)

theorem Consistent.remove (hs : s.Consistent) (cause : Cause) (name : String) :
    (s.remove cause name).Consistent where
  owner {g j} hj hlive := by
    rw [hs.remove_jobs] at hj
    obtain ⟨j₀, hj₀, rfl⟩ := Option.map_eq_some_iff.mp hj
    obtain ⟨hname, hlive₀⟩ := of_dropJob_cause hlive
    obtain ⟨v, hv, hg⟩ := hs.owner hj₀ hlive₀
    exact ⟨v, by rw [remove_lookup, dropJob_name, if_neg hname, hv], hg⟩
  entry {name' v} hv := by
    rw [remove_lookup] at hv
    split at hv
    · cases hv
    · rename_i hname
      obtain ⟨j, hj, rfl, ht, hreq, hlive⟩ := hs.entry hv
      exact ⟨j, by rw [hs.remove_jobs, hj, Option.map_some, dropJob_of_ne hname], rfl, ht, hreq,
        hlive⟩
  item {i} hi := by
    rw [remove_runner] at hi
    obtain ⟨j, hj, hname, hreq, hphase⟩ := hs.item hi
    exact ⟨_, by rw [hs.remove_jobs, hj, Option.map_some], by simpa using hname, by simpa using hreq,
      by simpa using hphase⟩
  past {x} hx := by
    rw [remove_executions] at hx
    rw [remove_length]
    exact hs.past hx

theorem of_start_jobs {origin : Origin} {t : Time} {req : Request}
    (h : (s.start origin name t req).jobs[g]? = some j) :
    s.jobs[g]? = some j ∨
      g = s.jobs.length ∧ j = { name := name, t := t, req := req, origin := origin } := by
  simp only [start, List.getElem?_append] at h
  split at h
  · exact Or.inl h
  · rename_i hg
    refine Or.inr ?_
    cases hk : g - s.jobs.length with
    | zero =>
      rw [hk] at h
      exact ⟨by omega, (Option.some.inj h).symm⟩
    | succ =>
      rw [hk] at h
      simp at h

theorem start_jobs_of_some (h : s.jobs[g]? = some j) (origin : Origin) (name : String) (t : Time)
    (req : Request) : (s.start origin name t req).jobs[g]? = some j := by
  have hg : g < s.jobs.length := (List.getElem?_eq_some_iff.mp h).1
  simp only [start]
  rw [List.getElem?_append_left hg, h]

theorem start_jobs_length (s : Schedule) (origin : Origin) (name : String) (t : Time)
    (req : Request) :
    (s.start origin name t req).jobs[s.jobs.length]? =
      some { name := name, t := t, req := req, origin := origin } :=
  List.getElem?_concat_length

theorem Consistent.start (hs : s.Consistent) (hfree : s.events.lookup name = none) (origin : Origin)
    (t : Time) (req : Request) :
    (s.start origin name t req).Consistent where
  owner {g j} hj hlive := by
    show ∃ v, (s.events.insert name _).lookup j.name = some v ∧ v.job = g
    rw [GoMap.lookup_insert_eq]
    rcases of_start_jobs hj with hold | ⟨rfl, rfl⟩
    · obtain ⟨v, hv, hg⟩ := hs.owner hold hlive
      have hne : j.name ≠ name := fun heq => by rw [heq, hfree] at hv; cases hv
      exact ⟨v, by rw [if_neg hne, hv], hg⟩
    · exact ⟨_, if_pos rfl, rfl⟩
  entry {name' v} hv := by
    have hlookup : (if name' = name then some ⟨s.jobs.length, t, req⟩ else s.events.lookup name')
        = some v := (GoMap.lookup_insert_eq s.events name name' _).symm.trans hv
    split at hlookup
    · rename_i heq
      obtain rfl := Option.some.inj hlookup
      exact ⟨_, start_jobs_length s origin name t req, heq.symm, rfl, rfl, rfl⟩
    · obtain ⟨j, hj, hrest⟩ := hs.entry hlookup
      exact ⟨j, start_jobs_of_some hj origin name t req, hrest⟩
  item {i} hi := by
    obtain ⟨j, hj, hrest⟩ := hs.item hi
    exact ⟨j, start_jobs_of_some hj origin name t req, hrest⟩
  past {x} hx := by
    have hlt := hs.past hx
    simp only [Schedule.start, List.length_append]
    exact Nat.lt_add_right _ hlt

theorem add_cases (ctx : Ctx) (name : String) (t : Time) (req : Option Request) (s : Schedule) :
    (s.add ctx name t req).2 = s ∨
      ∃ r, ctx.err = none ∧ req = some r ∧ ¬ s.Repeats name t r ∧
        (s.add ctx name t req).2 = (s.remove (.caller s.now) name).start ctx.origin name t r := by
  unfold add
  split
  · exact Or.inl rfl
  · exact Or.inl rfl
  · rename_i r herr
    by_cases hr : s.Repeats name t r
    · exact Or.inl (by rw [if_pos hr])
    · exact Or.inr ⟨r, herr, rfl, hr, by rw [if_neg hr]⟩

theorem remove_lookup_self (cause : Cause) (name : String) (s : Schedule) :
    (s.remove cause name).events.lookup name = none := by
  rw [remove_lookup, if_pos rfl]

theorem goto_jobs (g : Nat) (phase : Phase) (s : Schedule) (g' : Nat) :
    (s.goto g phase).jobs[g']? =
      s.jobs[g']?.map fun j => if g = g' then { j with phase := phase } else j :=
  List.getElem?_modify _ _ _ _

theorem goto_jobs_self (h : s.jobs[g]? = some j) (phase : Phase) :
    (s.goto g phase).jobs[g]? = some { j with phase := phase } := by
  rw [goto_jobs, h, Option.map_some, if_pos rfl]

theorem goto_jobs_of_ne {g' : Nat} (h : g ≠ g') (phase : Phase) :
    (s.goto g phase).jobs[g']? = s.jobs[g']? := by
  rw [goto_jobs]
  simp [h]

theorem of_goto_jobs {g' : Nat} {phase : Phase} {j' : Job}
    (h : (s.goto g phase).jobs[g']? = some j') :
    (g = g' ∧ ∃ j, s.jobs[g']? = some j ∧ { j with phase := phase } = j') ∨
      (g ≠ g' ∧ s.jobs[g']? = some j') := by
  by_cases hg : g = g'
  · subst hg
    rw [goto_jobs] at h
    obtain ⟨j, hj, hj'⟩ := Option.map_eq_some_iff.mp h
    rw [if_pos rfl] at hj'
    exact Or.inl ⟨rfl, j, hj, hj'⟩
  · rw [goto_jobs_of_ne hg] at h
    exact Or.inr ⟨hg, h⟩

theorem Consistent.goto (hs : s.Consistent) (hj : s.jobs[g]? = some j) (hphase : j.phase ≠ .handed)
    (phase : Phase) :
    (s.goto g phase).Consistent where
  owner {g' j'} hj' hlive := by
    rcases of_goto_jobs hj' with ⟨-, j₀, hj₀, rfl⟩ | ⟨-, hold⟩
    · exact hs.owner (j := j₀) hj₀ hlive
    · exact hs.owner hold hlive
  entry {name v} hv := by
    obtain ⟨j', hj', hname, ht, hreq, hlive⟩ := hs.entry hv
    refine ⟨_, by rw [goto_jobs, hj', Option.map_some], ?_⟩
    split <;> exact ⟨hname, ht, hreq, hlive⟩
  item {i} hi := by
    obtain ⟨j', hj', hrest⟩ := hs.item hi
    have hne : g ≠ i.job := by
      rintro rfl
      obtain rfl := Option.some.inj (hj.symm.trans hj')
      exact hphase hrest.2.2
    exact ⟨j', by rw [goto_jobs_of_ne hne, hj'], hrest⟩
  past {x} hx := by
    simp only [Schedule.goto, List.length_modify]
    exact hs.past hx

theorem stop_invariant {P : Schedule → Prop}
    (hremove : ∀ t name, P t → P (t.remove .stopped name)) (h : P s) : P s.stop :=
  List.foldlRecOn _ _ h fun t ht name _ => hremove t name ht

theorem Consistent.stop (hs : s.Consistent) : s.stop.Consistent :=
  stop_invariant (fun _ name ht => ht.remove .stopped name) hs

theorem stop_jobs_ne (hs : s.Consistent) (hnone : s.jobs[g]? = none) (j : Job) :
    s.stop.jobs[g]? ≠ some j := by
  have hstop : s.stop.Consistent ∧ s.stop.jobs[g]? = none :=
    stop_invariant (P := fun t => t.Consistent ∧ t.jobs[g]? = none)
      (fun t name ht => ⟨ht.1.remove _ name, by rw [ht.1.remove_jobs, ht.2]; rfl⟩) ⟨hs, hnone⟩
  simp [hstop.2]

theorem Consistent.withRunner (hs : s.Consistent) {runner : Runner} {executions : List Execution}
    (hitem : ∀ i, runner = .holding i ∨ runner = .executed i →
      ∃ j, s.jobs[i.job]? = some j ∧ j.name = i.name ∧ j.req = i.req ∧ j.phase = .handed)
    (hpast : ∀ x ∈ executions, x.job < s.jobs.length) :
    Consistent { s with runner := runner, executions := executions } :=
  ⟨fun h => hs.owner h, fun h => hs.entry h, fun h => hitem _ h, fun h => hpast _ h⟩

/-- **What a step can do.**  A label whose guard does not hold leaves the schedule
as it is. -/
inductive Effect (s : Schedule) : Label → Schedule → Prop where
  | stutter (e : Label) : Effect s e s
  | add (ctx : Ctx) (name : String) (t : Time) (r : Request) (herr : ctx.err = none)
      (hrepeats : ¬ s.Repeats name t r) :
      Effect s (.add ctx name t (some r))
        ((s.remove (.caller s.now) name).start ctx.origin name t r)
  | remove (name : String) : Effect s (.remove name) (s.remove (.caller s.now) name)
  | advance (d : Nat) : Effect s (.advance d) { s with now := s.now + d }
  | fire (g : Nat) (j : Job) (hj : s.jobs[g]? = some j) (hphase : j.phase = .waiting)
      (hdue : j.t ≤ s.now) : Effect s (.fire g) (s.goto g .sending)
  | wake (g : Nat) (j : Job) (hj : s.jobs[g]? = some j) (hphase : j.phase = .waiting)
      (hcause : j.cause ≠ none) : Effect s (.wake g) (s.goto g .returned)
  | handOver (g : Nat) (j : Job) (hidle : s.runner = .idle) (hj : s.jobs[g]? = some j)
      (hphase : j.phase = .sending) :
      Effect s (.handOver g) { s.goto g .handed with runner := .holding ⟨g, j.name, j.req⟩ }
  | execute (i : Item) (hi : s.runner = .holding i) : Effect s .execute (s.exec i)
  | finish (i : Item) (hi : s.runner = .executed i) :
      Effect s .finish { s.remove (.finished i.job) i.name with runner := .idle }
  | stop (hidle : s.runner = .idle) : Effect s .stop { s.stop with runner := .stopped }

theorem effect_step (s : Schedule) (e : Label) : s.Effect e (s.step e) := by
  cases e with
  | add ctx name t req =>
    show s.Effect _ (s.add ctx name t req).2
    rcases add_cases ctx name t req s with hsame | ⟨r, herr, rfl, hrepeats, hnew⟩
    · rw [hsame]
      exact .stutter _
    · rw [hnew]
      exact .add ctx name t r herr hrepeats
  | remove name => exact .remove name
  | advance d => exact .advance d
  | fire g =>
    simp only [Schedule.step]
    split
    · rename_i j hj
      split
      · rename_i h
        exact .fire g j hj h.1 h.2
      · exact .stutter _
    · exact .stutter _
  | wake g =>
    simp only [Schedule.step]
    split
    · rename_i j hj
      split
      · rename_i h
        exact .wake g j hj h.1 h.2
      · exact .stutter _
    · exact .stutter _
  | handOver g =>
    simp only [Schedule.step]
    split
    · rename_i j hidle hj
      split
      · rename_i h
        exact .handOver g j hidle hj h
      · exact .stutter _
    · exact .stutter _
  | execute =>
    simp only [Schedule.step]
    split
    · rename_i i hi
      exact .execute i hi
    · exact .stutter _
  | finish =>
    simp only [Schedule.step]
    split
    · rename_i i hi
      exact .finish i hi
    · exact .stutter _
  | stop =>
    simp only [Schedule.step]
    split
    · rename_i hidle
      exact .stop hidle
    · exact .stutter _

theorem Consistent.step (hs : s.Consistent) (e : Label) : (s.step e).Consistent := by
  have heffect := effect_step s e
  generalize s.step e = s' at heffect ⊢
  cases heffect with
  | stutter => exact hs
  | add ctx name t r _ _ =>
    exact (hs.remove _ name).start (remove_lookup_self _ name s) ctx.origin t r
  | remove name => exact hs.remove _ name
  | advance =>
    exact ⟨fun h => hs.owner h, fun h => hs.entry h, fun h => hs.item h, fun h => hs.past h⟩
  | fire _ _ hj hphase => exact hs.goto hj (by simp [hphase]) .sending
  | wake _ _ hj hphase => exact hs.goto hj (by simp [hphase]) .returned
  | handOver _ _ _ hj hphase =>
    have hgoto := hs.goto hj (by simp [hphase]) .handed
    refine hgoto.withRunner ?_ fun x hx => hgoto.past hx
    rintro i (hi | hi)
    · obtain rfl := Runner.holding.inj hi
      exact ⟨_, goto_jobs_self hj .handed, rfl, rfl, rfl⟩
    · cases hi
  | execute _ hi =>
    obtain ⟨j, hj, hrest⟩ := hs.item (Or.inl hi)
    refine hs.withRunner ?_ ?_
    · rintro i' (h | h)
      · cases h
      · obtain rfl := Runner.executed.inj h
        exact ⟨j, hj, hrest⟩
    · intro x hx
      rcases List.mem_cons.mp hx with rfl | hx
      · exact (List.getElem?_eq_some_iff.mp hj).1
      · exact hs.past hx
  | finish i =>
    have hremove := hs.remove (.finished i.job) i.name
    exact hremove.withRunner (by simp) fun x hx => hremove.past hx
  | stop => exact hs.stop.withRunner (by simp) fun x hx => hs.stop.past hx

/-! ## Jobs along a run -/

/-- A job goes on: it stays the job of its event, and a cancelled context stays
cancelled. -/
def Continues (j j' : Job) : Prop :=
  j'.name = j.name ∧ j'.t = j.t ∧ j'.req = j.req ∧ j'.origin = j.origin ∧
    (j.cause ≠ none → j'.cause = j.cause)

theorem Continues.refl (j : Job) : Continues j j := ⟨rfl, rfl, rfl, rfl, fun _ => rfl⟩

theorem Continues.trans {j' j'' : Job} (h : Continues j j') (h' : Continues j' j'') :
    Continues j j'' := by
  obtain ⟨hname, ht, hreq, horigin, hcause⟩ := h
  obtain ⟨hname', ht', hreq', horigin', hcause'⟩ := h'
  refine ⟨hname'.trans hname, ht'.trans ht, hreq'.trans hreq, horigin'.trans horigin, fun hc => ?_⟩
  have := hcause hc
  exact (hcause' (this ▸ hc)).trans this

theorem Consistent.remove_continues (hs : s.Consistent) (cause : Cause) (name : String)
    (hj : s.jobs[g]? = some j) : ∃ j', (s.remove cause name).jobs[g]? = some j' ∧ Continues j j' :=
  ⟨_, by rw [hs.remove_jobs, hj, Option.map_some], by simp, by simp, by simp, by simp,
    fun hc => by rw [dropJob_of_cancelled hc]⟩

theorem goto_continues (g₀ : Nat) (phase : Phase) (hj : s.jobs[g]? = some j) :
    ∃ j', (s.goto g₀ phase).jobs[g]? = some j' ∧ Continues j j' := by
  by_cases hg : g₀ = g
  · subst hg
    exact ⟨_, goto_jobs_self hj phase, rfl, rfl, rfl, rfl, fun _ => rfl⟩
  · exact ⟨j, by rw [goto_jobs_of_ne hg, hj], .refl j⟩

theorem Consistent.stop_continues (hs : s.Consistent) (hj : s.jobs[g]? = some j) :
    ∃ j', s.stop.jobs[g]? = some j' ∧ Continues j j' := by
  let kept : Schedule → Prop := fun t =>
    t.Consistent ∧ ∃ j', t.jobs[g]? = some j' ∧ Continues j j'
  have hkept : kept s.stop := by
    refine stop_invariant ?_ ⟨hs, j, hj, .refl j⟩
    rintro t name ⟨ht, j', hj', hcont⟩
    obtain ⟨j'', hj'', hcont'⟩ := ht.remove_continues .stopped name hj'
    exact ⟨ht.remove .stopped name, j'', hj'', hcont.trans hcont'⟩
  exact hkept.2

theorem Consistent.step_continues (hs : s.Consistent) (e : Label) (hj : s.jobs[g]? = some j) :
    ∃ j', (s.step e).jobs[g]? = some j' ∧ Continues j j' := by
  have hsame : ∃ j', s.jobs[g]? = some j' ∧ Continues j j' := ⟨j, hj, .refl j⟩
  have heffect := effect_step s e
  generalize s.step e = s' at heffect ⊢
  cases heffect with
  | stutter | advance | execute => exact hsame
  | add _ name _ _ _ _ =>
    obtain ⟨j', hj', hcont⟩ := hs.remove_continues (.caller s.now) name hj
    exact ⟨j', start_jobs_of_some hj' _ _ _ _, hcont⟩
  | remove name => exact hs.remove_continues _ name hj
  | fire g₀ _ _ _ _ | wake g₀ _ _ _ _ | handOver g₀ _ _ _ _ => exact goto_continues g₀ _ hj
  | finish _ _ => exact hs.remove_continues _ _ hj
  | stop => exact hs.stop_continues hj

theorem stop_executions (s : Schedule) : s.stop.executions = s.executions :=
  stop_invariant (P := (·.executions = s.executions))
    (fun t name ht => (remove_executions _ name t).trans ht) rfl

theorem stop_runner (s : Schedule) : s.stop.runner = s.runner :=
  stop_invariant (P := (·.runner = s.runner))
    (fun t name ht => (remove_runner _ name t).trans ht) rfl

theorem step_executions (s : Schedule) (e : Label) :
    (s.step e).executions = s.executions ∨
      ∃ i, e = .execute ∧ s.runner = .holding i ∧ s.step e = s.exec i := by
  have heffect := effect_step s e
  generalize s.step e = s' at heffect ⊢
  cases heffect with
  | add _ _ _ _ _ _ | remove | finish _ _ => exact Or.inl (remove_executions _ _ s)
  | execute i hi => exact Or.inr ⟨i, rfl, hi, rfl⟩
  | stop => exact Or.inl (stop_executions s)
  | _ => exact Or.inl rfl

def new (now : Time) : Schedule := { now := now }

theorem Consistent.new (now : Time) : (Schedule.new now).Consistent where
  owner h := by simp [Schedule.new] at h
  entry h := by simp [Schedule.new] at h
  item h := by simp [Schedule.new] at h
  past h := by simp [Schedule.new] at h

end Schedule

end IotController.Conditioner
