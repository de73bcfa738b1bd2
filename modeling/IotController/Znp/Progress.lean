/-
  How far an interview is from its return (`InterviewDevice` in
  `pkg/zigbee-dongle/znp/interview.go`).

  The loops of an interview are bounded: six attempts at the node descriptor, two at the
  list of endpoints, one for each of at most 255 endpoints.  `Interview.work` counts the
  steps that are left, and `Port.pending` how far the result that is waited for is from its
  slot.
-/
import IotController.Znp.Interview

namespace IotController.Znp

open Foundation

/-! ## How far an interview is from its return -/

def Stage.attempts : Stage → Nat
  | nodeDescriptor attempt => (5 - attempt) + 257
  | activeEndpoints attempt => (1 - attempt) + 255
  | simpleDescriptor _ rest => rest.length

def Pc.steps : Pc → Nat
  | register => 7
  | request _ .start => 5
  | request _ (.registered _) => 4
  | request _ (.failing _) | request _ (.receiving _) => 3
  | await _ => 2
  | returning => 0

theorem Pc.steps_register : Pc.register.steps = 7 := rfl

theorem Pc.steps_returning : Pc.returning.steps = 0 := rfl

def Interview.work (i : Interview) : Nat :=
  (if i.pc = .returning then 0 else 8 * i.stage.attempts) + i.pc.steps + i.deferred.length + 1

def Interview.waitsFor (i : Interview) : Option Nat :=
  match i.pc with
  | .request _ (.receiving k) => some k
  | .await k => some k
  | _ => none

/-- How far a result is from the slot of a handler. -/
def Port.pending (p : Port) (k : Nat) : Nat :=
  2 * (p.handlers (p.handler k).header == some k).toNat + (p.reader.map Prod.fst == some k).toNat +
    (p.handler k).timer.isFailing.toNat

/-- How far the interview of a thread is from its return. -/
def State.work (s : State) (t : Nat) : Nat :=
  match s.threads t with
  | some (.interview i) => 5 * i.work + (i.waitsFor.map s.port.pending).getD 0
  | _ => 0

/-! ## Every step brings the return nearer -/

theorem work_goto {i : Interview} {stage : Stage} (h : stage.attempts < i.stage.attempts)
    (hsteps : 2 ≤ i.pc.steps) (k : Nat) : ((i.ended k).goto stage).work < i.work := by
  have hpc : i.pc ≠ .returning := by
    intro hpc
    rw [hpc, Pc.steps_returning] at hsteps
    omega
  simp only [Interview.work, Interview.goto, Interview.ended, hpc, reduceCtorEq, if_false,
    Pc.steps_register, List.length_cons]
  omega

theorem work_finish {i : Interview} (hsteps : 2 ≤ i.pc.steps) (k : Nat) :
    (i.ended k).finish.work < i.work := by
  simp only [Interview.work, Interview.finish, Interview.ended, if_true, Pc.steps_returning,
    List.length_cons]
  omega

theorem work_nextEndpoint {i : Interview} {rest : List Byte}
    (h : rest.length ≤ i.stage.attempts) (hsteps : 2 ≤ i.pc.steps) (k : Nat) :
    ((i.ended k).nextEndpoint rest).work < i.work := by
  cases rest with
  | nil => exact work_finish hsteps k
  | cons =>
    refine work_goto ?_ hsteps k
    simpa [Stage.attempts] using h

theorem work_retry {i : Interview} (hsteps : 2 ≤ i.pc.steps) (k : Nat) :
    (i.ended k).retry.work < i.work := by
  unfold Interview.retry
  split
  · rename_i attempt hstage
    have hstage' : i.stage = .nodeDescriptor attempt := hstage
    split
    · refine work_goto ?_ hsteps k
      simp only [hstage', Stage.attempts]
      omega
    · refine work_goto ?_ hsteps k
      simp only [hstage', Stage.attempts]
      omega
  · rename_i attempt hstage
    have hstage' : i.stage = .activeEndpoints attempt := hstage
    split
    · refine work_goto ?_ hsteps k
      simp only [hstage', Stage.attempts]
      omega
    · exact work_finish hsteps k
  · rename_i endpoint rest hstage
    have hstage' : i.stage = .simpleDescriptor endpoint rest := hstage
    refine work_nextEndpoint ?_ hsteps k
    simp [hstage', Stage.attempts]

theorem work_take {i i' : Interview} {c : Command} (hsteps : 2 ≤ i.pc.steps) {k : Nat}
    (h : (i.ended k).take c = some i') : i'.work < i.work := by
  unfold Interview.take at h
  split at h
  · rename_i attempt d hstage
    have hstage' : i.stage = .nodeDescriptor attempt := hstage
    split at h
    · cases h
      exact work_retry hsteps k
    · cases h
      exact work_goto (i := { i with descriptor := some d })
        (by simp only [hstage', Stage.attempts]; omega) hsteps k
  · rename_i attempt l hstage
    have hstage' : i.stage = .activeEndpoints attempt := hstage
    split at h
    · cases h
      exact work_retry hsteps k
    · cases h
      refine work_nextEndpoint (i := { i with listed := some l }) ?_ hsteps k
      have hbounded := l.bounded
      simp only [hstage', Stage.attempts]
      omega
  · rename_i endpoint rest d hstage
    have hstage' : i.stage = .simpleDescriptor endpoint rest := hstage
    split at h
    · cases h
      exact work_retry hsteps k
    · cases h
      refine work_nextEndpoint (i := { i with described := i.described ++ [(endpoint, d)] })
        ?_ hsteps k
      simp [hstage', Stage.attempts]
  · cases h

def Call.writeFailed : Call → Bool
  | send _ => false
  | interview i =>
    match i.pc with
    | .request _ (.failing _) => true
    | _ => false

namespace Interview

theorem writeFailed_nextEndpoint (i : Interview) (rest : List Byte) :
    (Call.interview (i.nextEndpoint rest)).writeFailed = false := by
  cases rest <;> rfl

theorem writeFailed_retry (i : Interview) : (Call.interview i.retry).writeFailed = false := by
  unfold retry
  split
  · split <;> rfl
  · split <;> rfl
  · exact writeFailed_nextEndpoint i _

theorem writeFailed_take {i i' : Interview} {c : Command} (h : i.take c = some i') :
    (Call.interview i').writeFailed = false := by
  unfold take at h
  split at h
  · split at h
    · cases h
      exact writeFailed_retry i
    · cases h
      rfl
  · split at h
    · cases h
      exact writeFailed_retry i
    · cases h
      exact writeFailed_nextEndpoint _ _
  · split at h
    · cases h
      exact writeFailed_retry i
    · cases h
      exact writeFailed_nextEndpoint _ _
  · cases h

end Interview

inductive After (call : Call) : Call → Prop where
  | registers {header : FrameHeader} {goOn : Nat → Call} (h : call.next = .register header goOn)
      (k : Nat) : After call (goOn k)
  | writes {header : FrameHeader} {wrote failed : Call}
      (h : call.next = .write header wrote failed) : After call wrote
  | fails {k : Nat} {c : Call} (h : call.next = .fail k (some c)) : After call c
  | receives {k : Nat} {goOn : HandlerResult → Option (Option Call)} {result : HandlerResult}
      {c : Call} (h : call.next = .receive k goOn) (hgoOn : goOn result = some (some c)) :
      After call c

/-- **Each step of an interview leaves it with less to do.** -/
theorem After.interview {i : Interview} {c : Call} (h : After (.interview i) c) :
    ∃ i', c = .interview i' ∧ i'.work < i.work ∧ c.writeFailed = false := by
  cases h with
  | registers h =>
    rcases Interview.inv_register h with ⟨hpc, rfl⟩ | ⟨h', hpc, rfl⟩
    · exact ⟨_, rfl, by simp [Interview.work, hpc, Pc.steps], rfl⟩
    · exact ⟨_, rfl, by simp [Interview.work, hpc, Pc.steps], rfl⟩
  | writes h =>
    obtain ⟨h', k, hpc, rfl, -⟩ := Interview.inv_write h
    exact ⟨_, rfl, by simp [Interview.work, hpc, Pc.steps], rfl⟩
  | fails h =>
    rcases Interview.inv_fail h with ⟨h', hpc, hc⟩ | ⟨rest, hpc, hdeferred, hc⟩
    · cases hc
      exact ⟨_, rfl, work_retry (by simp [hpc, Pc.steps]) h', Interview.writeFailed_retry _⟩
    · cases hc
      exact ⟨_, rfl, by simp [Interview.work, hpc, hdeferred], by simp [Call.writeFailed, hpc]⟩
  | receives h hgoOn =>
    obtain ⟨i', hc, hcases⟩ := Interview.inv_receive h hgoOn
    cases hc
    rcases hcases with ⟨h', hpc, rfl⟩ | ⟨h', hpc, rfl⟩ | ⟨command, -, hpc, htake⟩
    · exact ⟨_, rfl, by simp [Interview.work, hpc, Pc.steps], rfl⟩
    · have hsteps : 2 ≤ i.pc.steps := by
        rcases hpc with hpc | hpc <;> simp [hpc, Pc.steps]
      exact ⟨_, rfl, work_retry hsteps h', Interview.writeFailed_retry _⟩
    · exact ⟨_, rfl, work_take (by simp [hpc, Pc.steps]) htake, Interview.writeFailed_take htake⟩

/-! ## The way of a result -/

section Pending

variable {p p' : Port}

theorem pending_le (p : Port) (k : Nat) : p.pending k ≤ 4 := by
  have h₁ := Bool.toNat_le (p.handlers (p.handler k).header == some k)
  have h₂ := Bool.toNat_le (p.reader.map Prod.fst == some k)
  have h₃ := Bool.toNat_le (p.handler k).timer.isFailing
  unfold Port.pending
  omega

theorem pending_setHandler {h : Nat} {x : Handler} (hheader : x.header = (p.handler h).header)
    (htimer : x.timer.isFailing = (p.handler h).timer.isFailing) (k : Nat) :
    (p.setHandler h x).pending k = p.pending k := by
  by_cases hk : k = h
  · subst hk
    simp [Port.pending, Port.setHandler, hheader, htimer]
  · simp [Port.pending, Port.setHandler, hk]

theorem pending_put {h : Nat} {result : HandlerResult} (hput : p.put h result = some p') (k : Nat) :
    p'.pending k = p.pending k := by
  obtain ⟨-, results, -, rfl⟩ := put_eq_some hput
  exact pending_setHandler (x := { p.handler h with results }) rfl rfl k

theorem pending_receive {h : Nat} {result : HandlerResult}
    (hget : p.receive h = some (result, p')) (k : Nat) : p'.pending k = p.pending k := by
  obtain ⟨-, results, -, rfl⟩ := receive_eq_some hget
  exact pending_setHandler (x := { p.handler h with results }) rfl rfl k

theorem pending_delete_le (header : FrameHeader) (k : Nat) :
    (p.delete header).pending k ≤ p.pending k := by
  unfold Port.pending
  by_cases hheader : (p.handler k).header = header
  · simp [Port.delete, hheader]
  · simp [Port.delete, hheader]

theorem pending_registerHandler {header : FrameHeader} (h : p.registerHandler header = some p')
    {k : Nat} (hk : k < p.next) : p'.pending k = p.pending k := by
  obtain ⟨hnone, rfl⟩ := registerHandler_eq_some h
  have hne : k ≠ p.next := Nat.ne_of_lt hk
  unfold Port.pending
  simp only [Function.update_of_ne hne]
  by_cases hheader : (p.handler k).header = header
  · simp [hheader, hnone, hne.symm]
  · simp [hheader]

theorem pending_removeHandler {k : Nat} (hreg : p.handlers (p.handler k).header = some k)
    (harmed : (p.handler k).timer = .armed) :
    (p.removeHandler k).pending k + 1 = p.pending k := by
  simp only [Port.removeHandler, harmed, hreg, if_true, Port.pending, Port.setHandler, Port.delete,
    Function.update_self, Timer.isFailing, beq_self_eq_true, Option.none_beq_some,
    Bool.toNat_true, Bool.toNat_false]
  omega

theorem pending_removeHandler_le (h k : Nat) : (p.removeHandler h).pending k ≤ p.pending k := by
  by_cases harmed : (p.handler h).timer = .armed
  · by_cases hreg : p.handlers (p.handler h).header = some h
    · by_cases hk : k = h
      · subst hk
        have hless := pending_removeHandler hreg harmed
        omega
      · simp only [Port.removeHandler, harmed, hreg, if_true]
        refine (pending_delete_le _ k).trans (le_of_eq ?_)
        simp [Port.pending, Port.setHandler, hk]
    · simp only [Port.removeHandler, harmed, hreg, if_true, if_false]
      exact le_of_eq (pending_setHandler (x := { p.handler h with timer := .spent }) rfl
        (by simp [harmed, Timer.isFailing]) k)
  · simp [Port.removeHandler, harmed]

theorem pending_timerFail {k : Nat} (hfailing : (p.handler k).timer = .failing)
    (hput : p.fail k = some p') : (p.timerFail k).pending k + 1 = p.pending k := by
  obtain ⟨-, results, -, rfl⟩ := put_eq_some hput
  simp [Port.timerFail, hput, hfailing, Port.pending, Port.setHandler, Timer.isFailing]

theorem pending_timerFail_le (h k : Nat) : (p.timerFail h).pending k ≤ p.pending k := by
  by_cases hfailing : (p.handler h).timer = .failing
  · cases hfail : p.fail h with
    | none => simp [Port.timerFail, hfailing, hfail]
    | some =>
      by_cases hk : k = h
      · subst hk
        have hless := pending_timerFail hfailing hfail
        omega
      · simp only [Port.timerFail, hfailing, hfail, if_true]
        rw [← pending_put hfail k]
        simp [Port.pending, Port.setHandler, hk]
  · simp [Port.timerFail, hfailing]

theorem pending_handleFrame {c : Command} {k : Nat} (hv : p.Valid) (hreader : p.reader = none)
    (hreg : p.handlers c.header = some k) : (p.handleFrame c).pending k + 1 = p.pending k := by
  obtain ⟨-, hheader, -⟩ := hv.keyed c.header k hreg
  simp [Port.handleFrame, hreader, hreg, Port.pending, Port.delete, hheader]
  omega

theorem pending_handleFrame_le (hv : p.Valid) (c : Command) (k : Nat) :
    (p.handleFrame c).pending k ≤ p.pending k := by
  cases hreader : p.reader with
  | some => simp [Port.handleFrame, hreader]
  | none =>
    cases hreg : p.handlers c.header with
    | none => simp [Port.handleFrame, hreader, hreg]
    | some h =>
      by_cases hk : k = h
      · subst hk
        have hless := pending_handleFrame hv hreader hreg
        omega
      · refine le_trans (le_of_eq ?_) (pending_delete_le c.header k)
        simp [Port.handleFrame, hreader, hreg, Port.pending, Port.delete, Ne.symm hk]

theorem pending_fulfill {k : Nat} {c : Command} (hreader : p.reader = some (k, c))
    (hput : p.put k (some c) = some p') : p.fulfill.pending k + 1 = p.pending k := by
  obtain ⟨-, results, -, rfl⟩ := put_eq_some hput
  have hstop : (p.handler k).timer.stop.isFailing = (p.handler k).timer.isFailing := by
    cases (p.handler k).timer <;> rfl
  simp only [Port.fulfill, hreader, hput, Port.pending, Port.setHandler, Function.update_self, hstop,
    Option.map_none, Option.map_some, Option.none_beq_some, beq_self_eq_true, Bool.toNat_true,
    Bool.toNat_false]
  omega

theorem pending_fulfill_le (k : Nat) : p.fulfill.pending k ≤ p.pending k := by
  cases hreader : p.reader with
  | none => simp [Port.fulfill, hreader]
  | some out =>
    obtain ⟨h, c⟩ := out
    cases hput : p.put h (some c) with
    | none => simp [Port.fulfill, hreader, hput]
    | some =>
      by_cases hk : k = h
      · subst hk
        have hless := pending_fulfill hreader hput
        omega
      · obtain ⟨-, results, -, rfl⟩ := put_eq_some hput
        simp [Port.fulfill, hreader, hput, Port.pending, Port.setHandler, hk]

end Pending

/-! ## No step sets an interview back -/

section Nearer

variable {s s' : State} {t : Nat} {i : Interview}

theorem work_of_interview (h : s.threads t = some (.interview i)) :
    s.work t = 5 * i.work + (i.waitsFor.map s.port.pending).getD 0 := by
  simp only [State.work, h]

theorem work_of_none (h : s.threads t = none) : s.work t = 0 := by
  simp only [State.work, h]

theorem work_pos (h : s.threads t = some (.interview i)) : 0 < s.work t := by
  rw [work_of_interview h, Interview.work]
  omega

theorem work_lt_of_interview {i' : Interview} (h : s.threads t = some (.interview i))
    (h' : s'.threads t = some (.interview i')) (hless : i'.work < i.work) :
    s'.work t < s.work t := by
  have hbound : (i'.waitsFor.map s'.port.pending).getD 0 ≤ 4 := by
    cases i'.waitsFor with
    | none => exact Nat.zero_le _
    | some k => exact pending_le s'.port k
  rw [work_of_interview h, work_of_interview h']
  omega

theorem work_le_of_pending (h : s.threads t = some (.interview i))
    (h' : s'.threads t = s.threads t)
    (hpending : ∀ k, i.waitsFor = some k → s'.port.pending k ≤ s.port.pending k) :
    s'.work t ≤ s.work t := by
  rw [work_of_interview h, work_of_interview (h'.trans h)]
  cases hwaits : i.waitsFor with
  | none => exact le_refl _
  | some k => exact Nat.add_le_add_left (hpending k hwaits) _

theorem waitsFor_lt (hv : s.Valid) (h : s.threads t = some (.interview i)) {k : Nat}
    (hk : i.waitsFor = some k) : k < s.port.next := by
  refine hv.known t _ h k ?_
  unfold Interview.waitsFor at hk
  split at hk
  · rename_i h' k' hpc
    cases hk
    simp [Call.handlers, Call.holds, Request.holds, hpc]
  · rename_i k' hpc
    cases hk
    simp [Call.handlers, Call.holds, hpc]
  · cases hk

/-- An interview's own step brings it nearer to its return, unless it waits or the process
ends. -/
theorem nearer_performed (hcall : s.threads t = some (.interview i))
    (h : Performed s t (.interview i) s') :
    s'.work t < s.work t ∨ s'.threads t = s.threads t ∧ s'.work t ≤ s.work t ∧
      (s.port.Blocks (Call.interview i).next ∨ s'.panicked = true) := by
  have hafter : ∀ (port : Port) (c : Call), After (.interview i) c →
      ({ s with port }.become t (some c)).work t < s.work t := by
    intro port c hc
    obtain ⟨i', rfl, hless, -⟩ := hc.interview
    exact work_lt_of_interview hcall (become_threads_self _ _ _) hless
  have hgone : ∀ s' : State, s'.threads t = none → s'.work t < s.work t := by
    intro s' hnone
    rw [work_of_none hnone]
    exact work_pos hcall
  cases h with
  | waits hblocks => exact Or.inr ⟨rfl, le_refl _, Or.inl hblocks⟩
  | clashes => exact Or.inr ⟨rfl, le_refl _, Or.inr rfl⟩
  | confused _ hport =>
    refine Or.inr ⟨rfl, work_le_of_pending hcall rfl fun k _ => ?_, Or.inr rfl⟩
    exact le_of_eq (pending_receive hport k)
  | registers hnext => exact Or.inl (hafter _ _ (.registers hnext _))
  | writes hnext => exact Or.inl (hafter s.port _ (.writes hnext))
  | @fails _ goOn _ hnext =>
    cases goOn with
    | none => exact Or.inl (hgone _ (become_threads_self _ _ _))
    | some => exact Or.inl (hafter _ _ (.fails hnext))
  | @receives _ _ _ _ c hnext _ hgoOn =>
    cases c with
    | none => exact Or.inl (hgone _ (become_threads_self _ _ _))
    | some => exact Or.inl (hafter _ _ (.receives hnext hgoOn))
  | finishes => exact Or.inl (hgone _ (become_threads_self _ _ _))

theorem pending_performed {u : Nat} {call : Call} (h : Performed s u call s') {k : Nat}
    (hk : k < s.port.next) : s'.port.pending k = s.port.pending k := by
  cases h with
  | waits | clashes | writes | finishes => rfl
  | confused _ hport | receives _ hport => exact pending_receive hport k
  | registers _ hport => exact pending_registerHandler hport hk
  | fails _ hport => exact pending_put hport k

theorem threads_performed {u : Nat} {call : Call} (h : Performed s u call s') (hne : t ≠ u) :
    s'.threads t = s.threads t := by
  cases h with
  | waits | clashes | confused => rfl
  | registers | writes | fails | receives | finishes => exact become_threads_of_ne _ _ hne

theorem kind_performed {call : Call} (hcall : s.threads t = some call) (h : Performed s t call s')
    (c : Call) (hc : s'.threads t = some c) : c.isSend = call.isSend := by
  cases h with
  | waits | clashes | confused =>
    rw [hcall] at hc
    cases hc
    rfl
  | registers hnext =>
    rw [become_threads_self] at hc
    cases hc
    exact (next_register hnext _).1
  | writes hnext =>
    rw [become_threads_self] at hc
    cases hc
    exact (next_write hnext).1.1
  | fails hnext =>
    rw [become_threads_self] at hc
    obtain ⟨_, _, hgoOn⟩ := next_fail hnext
    exact (hgoOn c hc).1
  | receives hnext _ hgoOn =>
    rw [become_threads_self] at hc
    subst hc
    obtain ⟨_, _, _, _, hreceived⟩ := next_receive hnext
    exact (hreceived _ c hgoOn).1
  | finishes =>
    have hnone := become_threads_self s t none
    rw [hnone] at hc
    cases hc

/-- **No step sets an interview back, and its own steps bring its return nearer.** -/
theorem nearer_step (hv : s.Valid) (hcall : s.threads t = some (.interview i)) (a : Action) :
    (step s a).work t ≤ s.work t ∧
      ((step s a).threads t ≠ s.threads t → (step s a).work t < s.work t) := by
  have hstays : ∀ s' : State, s'.threads t = s.threads t →
      (∀ k, k < s.port.next → s'.port.pending k ≤ s.port.pending k) →
      s'.work t ≤ s.work t ∧ (s'.threads t ≠ s.threads t → s'.work t < s.work t) := by
    intro s' hsame hpending
    refine ⟨work_le_of_pending hcall hsame fun k hk => ?_, fun hne => absurd hsame hne⟩
    exact hpending k (waitsFor_lt hv hcall hk)
  have h := stepped s a
  generalize step s a = s' at h ⊢
  cases h with
  | idle => exact hstays s rfl fun _ _ => le_refl _
  | @calls _ u _ hfree =>
    have hne : t ≠ u := by
      rintro rfl
      rw [hcall] at hfree
      cases hfree
    exact hstays _ (become_threads_of_ne _ _ hne) fun _ _ => le_refl _
  | @performs s' u _ hcall' h =>
    by_cases hu : t = u
    · subst hu
      rw [hcall] at hcall'
      cases hcall'
      rcases nearer_performed hcall h with hlt | ⟨hsame, hle, -⟩
      · exact ⟨hlt.le, fun _ => hlt⟩
      · exact ⟨hle, fun hne => absurd hsame hne⟩
    · exact hstays s' (threads_performed h hu) fun k hk => le_of_eq (pending_performed h hk)
  | @fails u _ header _ _ hcall' hnext =>
    by_cases hu : t = u
    · subst hu
      rw [hcall] at hcall'
      cases hcall'
      obtain ⟨h, k, hpc, -, rfl⟩ := Interview.inv_write hnext
      have hless : { i with pc := .request h (.failing k) }.work < i.work := by
        simp [Interview.work, hpc, Pc.steps]
      have hlt : (State.become { s with port := s.port.delete header } t (some (.interview
          { i with pc := .request h (.failing k) }))).work t < s.work t :=
        work_lt_of_interview hcall (become_threads_self _ _ _) hless
      exact ⟨hlt.le, fun _ => hlt⟩
    · exact hstays _ (become_threads_of_ne _ _ hu) fun k _ => pending_delete_le header k
  | frame c => exact hstays _ rfl fun k _ => pending_handleFrame_le hv.port c k
  | fulfill => exact hstays _ rfl fun k _ => pending_fulfill_le k
  | expire h => exact hstays _ rfl fun k _ => pending_removeHandler_le h k
  | timerFail h => exact hstays _ rfl fun k _ => pending_timerFail_le h k

end Nearer

end IotController.Znp
