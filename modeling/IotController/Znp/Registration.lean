/-
  No header is registered twice (`registerHandler` in
  `pkg/zigbee-dongle/znp/port.go` panics when it is).

  Handlers are found by the header of a frame alone, so that two calls that wait for the
  same header at the same time bring the process down, and so does an attempt that registers
  its header while the handler of the attempt before it is still registered.
-/
import IotController.Znp.Interview

namespace IotController.Znp

open Foundation

/-! ## Orderly runs -/

/-- The handler of an attempt about to end because its write failed or its time-out is there. -/
def State.givingUp (s : State) (t : Nat) : Option (Nat × FrameHeader) :=
  match s.threads t with
  | some (.interview i) =>
    match i.pc with
    | .request h (.failing _) => some (h, i.stage.query.indication)
    | .request h (.receiving k) =>
      if (s.port.handler k).results.buffer = [none] then some (h, i.stage.query.indication)
      else none
    | _ => none
  | _ => none

/-- `Send` and `InterviewDevice` do not overlap with their own kind, and a failed attempt ends
when its handler is gone. -/
def Orderly (s : State) : Action → Prop
  | .send _ => ∀ t call, s.threads t = some call → call.isSend = false
  | .interview _ _ => ∀ t call, s.threads t = some call → call.isSend = true
  | .advance t => ∀ x ∈ s.givingUp t, s.port.handlers x.2 ≠ some x.1
  | _ => True

instance (s : State) (t : Nat) : Decidable (Orderly s (.advance t)) :=
  inferInstanceAs (Decidable (∀ x ∈ s.givingUp t, s.port.handlers x.2 ≠ some x.1))

theorem givingUp_failing {s : State} {t h k : Nat} {i : Interview}
    (hcall : s.threads t = some (.interview i)) (hpc : i.pc = .request h (.failing k)) :
    s.givingUp t = some (h, i.stage.query.indication) := by
  simp [State.givingUp, hcall, hpc]

theorem givingUp_receiving {s : State} {t h k : Nat} {i : Interview}
    (hcall : s.threads t = some (.interview i)) (hpc : i.pc = .request h (.receiving k))
    (hbuffer : (s.port.handler k).results.buffer = [none]) :
    s.givingUp t = some (h, i.stage.query.indication) := by
  simp [State.givingUp, hcall, hpc, hbuffer]

/-! ## The invariant -/

/-- At most one call of each kind.  Registered handlers are held and empty; given-up ones are
not registered. -/
structure Inv (s : State) : Prop where
  valid : s.Valid
  calm : s.panicked = false
  alone : ∀ t u call call', s.threads t = some call → s.threads u = some call' →
    call.isSend = call'.isSend → t = u
  headed : ∀ t call, s.threads t = some call → ∀ x ∈ call.holds, (s.port.handler x.1).header = x.2
  owned : ∀ header k, s.port.handlers header = some k →
    ∃ t call, s.threads t = some call ∧ (k, header) ∈ call.holds
  silent : ∀ header k, s.port.handlers header = some k → (s.port.handler k).results.buffer = []
  released : ∀ t call, s.threads t = some call → ∀ k ∈ call.released,
    ∀ header, s.port.handlers header ≠ some k

theorem inv_init : Inv {} where
  valid := State.valid_init
  calm := rfl
  alone := by simp
  headed := by simp
  owned := by simp [Port.init]
  silent := by simp [Port.init]
  released := by simp

namespace Inv

variable {s : State} (hinv : Inv s)
include hinv

variable {t : Nat} {call : Call}

theorem not_registered_of_buffer {k : Nat} (h : (s.port.handler k).results.buffer ≠ [])
    (header : FrameHeader) : s.port.handlers header ≠ some k :=
  fun hreg => h (hinv.silent header k hreg)

theorem moved {port : Port} (hmoved : Moved s.port port) (hport : port.Valid) :
    Inv { s with port } where
  valid := hinv.valid.moved hmoved hport
  calm := hinv.calm
  alone := hinv.alone
  headed t call hcall x hx := (hmoved.header x.1).trans (hinv.headed t call hcall x hx)
  owned header k hreg := hinv.owned header k (hmoved.handlers header k hreg)
  silent header k hreg := by
    simp only at hreg ⊢
    rw [hmoved.results header k hreg]
    exact hinv.silent header k (hmoved.handlers header k hreg)
  released t call hcall k hk header hreg :=
    hinv.released t call hcall k hk header (hmoved.handlers header k hreg)

theorem calls {a : Action} {t : Nat} {c : Call} (hfree : s.threads t = none) (hc : a.Calls t c)
    (horderly : Orderly s a) (hvalid : State.Valid (s.become t (some c))) :
    Inv (s.become t (some c)) where
  valid := hvalid
  calm := hinv.calm
  alone := by
    have hother : ∀ u c', s.threads u = some c' → c'.isSend ≠ c.isSend := by
      intro u c' hc'
      cases hc with
      | send =>
        rw [horderly u c' hc']
        exact Bool.false_ne_true
      | interview =>
        rw [horderly u c' hc']
        exact Bool.false_ne_true.symm
    intro u v c₁ c₂ h₁ h₂ hsame
    by_cases hu : u = t
    · by_cases hv : v = t
      · exact hu.trans hv.symm
      · subst hu
        rw [become_threads_self] at h₁
        rw [become_threads_of_ne _ _ hv] at h₂
        cases h₁
        exact absurd hsame.symm (hother v c₂ h₂)
    · rw [become_threads_of_ne _ _ hu] at h₁
      rcases become_threads_cases h₂ with ⟨rfl, hself⟩ | ⟨hv, h₂⟩
      · cases hself
        exact absurd hsame (hother u c₁ h₁)
      · exact hinv.alone u v c₁ c₂ h₁ h₂ hsame
  headed u c' hc' x hx := by
    rcases become_threads_cases hc' with ⟨rfl, hself⟩ | ⟨hu, hc'⟩
    · cases hself
      rw [hc.holds] at hx
      cases hx
    · exact hinv.headed u c' hc' x hx
  owned header k hreg := by
    obtain ⟨u, owner, howner, hholds⟩ := hinv.owned header k hreg
    have hu : u ≠ t := by
      rintro rfl
      rw [hfree] at howner
      cases howner
    exact ⟨u, owner, by rw [become_threads_of_ne _ _ hu]; exact howner, hholds⟩
  silent := hinv.silent
  released u c' hc' k hk := by
    rcases become_threads_cases hc' with ⟨rfl, hself⟩ | ⟨hu, hc'⟩
    · cases hself
      rw [hc.released] at hk
      cases hk
    · exact hinv.released u c' hc' k hk

section

variable (hcall : s.threads t = some call)
include hcall

theorem free {header : FrameHeader} {goOn : Nat → Call}
    (hnext : call.next = .register header goOn) : s.port.handlers header = none := by
  by_contra hsome
  obtain ⟨k, hreg⟩ := Option.ne_none_iff_exists'.mp hsome
  obtain ⟨u, owner, howner, hholds⟩ := hinv.owned header k hreg
  obtain ⟨hown, hkind⟩ := next_register_header hnext
  -- whoever holds the header is a call of the same kind, hence this one
  have hkinds : call.isSend = owner.isSend :=
    Bool.eq_iff_iff.mpr (hkind.symm.trans (holds_header hholds))
  obtain rfl := hinv.alone t u call owner hcall howner hkinds
  rw [hcall] at howner
  cases howner
  exact hown _ hholds rfl

theorem header_eq {k : Nat} {header : FrameHeader}
    (hholds : (k, header) ∈ call.holds) {header' : FrameHeader}
    (hreg : s.port.handlers header' = some k) : header' = header := by
  obtain ⟨-, rfl, -⟩ := hinv.valid.port.keyed header' k hreg
  exact hinv.headed t call hcall (k, header) hholds

theorem not_registered_of_givingUp {h : Nat} {header : FrameHeader}
    (hholds : (h, header) ∈ call.holds)
    (hgive : s.givingUp t = some (h, header)) (horderly : Orderly s (.advance t))
    (header' : FrameHeader) : s.port.handlers header' ≠ some h := by
  intro hreg
  obtain rfl := hinv.header_eq hcall hholds hreg
  exact horderly (h, header') hgive hreg

theorem alone_become {port : Port} {c : Option Call}
    (hkind : ∀ c' ∈ c, c'.isSend = call.isSend) (u v : Nat) (c₁ c₂ : Call)
    (h₁ : ({ s with port }.become t c).threads u = some c₁)
    (h₂ : ({ s with port }.become t c).threads v = some c₂) (hsame : c₁.isSend = c₂.isSend) :
    u = v := by
  -- the thread's call before the step speaks for the one after it
  have hbefore : ∀ w c', ({ s with port }.become t c).threads w = some c' →
      ∃ c'', s.threads w = some c'' ∧ c''.isSend = c'.isSend := by
    intro w c' hc'
    rcases become_threads_cases hc' with ⟨rfl, hself⟩ | ⟨hw, hc'⟩
    · exact ⟨call, hcall, (hkind c' hself).symm⟩
    · exact ⟨c', hc', rfl⟩
  obtain ⟨c₁', hc₁', hk₁⟩ := hbefore u c₁ h₁
  obtain ⟨c₂', hc₂', hk₂⟩ := hbefore v c₂ h₂
  exact hinv.alone u v c₁' c₂' hc₁' hc₂' (hk₁.trans (hsame.trans hk₂.symm))

theorem goesOn {port : Port} {c : Option Call}
    (hmoved : Moved s.port port) (hvalid : State.Valid ({ s with port }.become t c))
    (hkind : ∀ c' ∈ c, c'.isSend = call.isSend) (hheld : ∀ c' ∈ c, ∀ x ∈ c'.holds, x ∈ call.holds)
    (hown : ∀ header k, port.handlers header = some k → (k, header) ∈ call.holds →
      ∃ c' ∈ c, (k, header) ∈ c'.holds)
    (hreleased : ∀ c' ∈ c, ∀ k ∈ c'.released, ∀ header, port.handlers header ≠ some k) :
    Inv ({ s with port }.become t c) where
  valid := hvalid
  calm := hinv.calm
  alone := hinv.alone_become hcall hkind
  headed u c' hc' x hx := by
    refine (hmoved.header x.1).trans ?_
    rcases become_threads_cases hc' with ⟨rfl, hself⟩ | ⟨hu, hc'⟩
    · exact hinv.headed u call hcall x (hheld c' hself x hx)
    · exact hinv.headed u c' hc' x hx
  owned header k hreg := by
    obtain ⟨u, owner, howner, hholds⟩ := hinv.owned header k (hmoved.handlers header k hreg)
    by_cases hu : u = t
    · subst hu
      rw [hcall] at howner
      cases howner
      obtain ⟨c', hc', hholds'⟩ := hown header k hreg hholds
      exact ⟨u, c', by rw [become_threads_self]; exact hc', hholds'⟩
    · exact ⟨u, owner, by rw [become_threads_of_ne _ _ hu]; exact howner, hholds⟩
  silent header k hreg := by
    simp only [become_port] at hreg ⊢
    rw [hmoved.results header k hreg]
    exact hinv.silent header k (hmoved.handlers header k hreg)
  released u c' hc' k hk header hreg := by
    rcases become_threads_cases hc' with ⟨rfl, hself⟩ | ⟨hu, hc'⟩
    · exact hreleased c' hself k hk header hreg
    · exact hinv.released u c' hc' k hk header (hmoved.handlers header k hreg)

theorem registers {header : FrameHeader} {goOn : Nat → Call} {port : Port}
    (hnext : call.next = .register header goOn)
    (hport : s.port.registerHandler header = some port)
    (hvalid : State.Valid ({ s with port }.become t (some (goOn s.port.next)))) :
    Inv ({ s with port }.become t (some (goOn s.port.next))) := by
  obtain ⟨hkind, hholds, hreleased⟩ := next_register hnext s.port.next
  obtain ⟨hnone, rfl⟩ := registerHandler_eq_some hport
  -- the other handlers of a call have smaller numbers
  have hold : ∀ u c, s.threads u = some c → ∀ k ∈ c.handlers, k ≠ s.port.next :=
    fun u c hc k hk => Nat.ne_of_lt (hinv.valid.known u c hc k hk)
  have hentries : ∀ hd k, Function.update s.port.handlers header (some s.port.next) hd = some k →
      (hd = header ∧ k = s.port.next) ∨ s.port.handlers hd = some k := by
    intro hd k hreg
    by_cases heq : hd = header
    · subst heq
      rw [Function.update_self] at hreg
      exact Or.inl ⟨rfl, (Option.some.inj hreg).symm⟩
    · rw [Function.update_of_ne heq] at hreg
      exact Or.inr hreg
  constructor
  case valid => exact hvalid
  case calm => exact hinv.calm
  case alone =>
    refine hinv.alone_become hcall ?_
    rintro c ⟨⟩
    exact hkind
  case headed =>
    intro u c hc x hx
    rcases become_threads_cases hc with ⟨rfl, hself⟩ | ⟨hu, hc⟩
    · cases hself
      rw [hholds] at hx
      rcases List.mem_cons.mp hx with rfl | hx
      · simp
      · have hne := hold u call hcall x.1 (by
          simp only [Call.handlers, List.mem_append, List.mem_map]
          exact Or.inl ⟨x, hx, rfl⟩)
        simp only [become_port, Function.update_of_ne hne]
        exact hinv.headed u call hcall x hx
    · have hne := hold u c hc x.1 (by
        simp only [Call.handlers, List.mem_append, List.mem_map]
        exact Or.inl ⟨x, hx, rfl⟩)
      simp only [become_port, Function.update_of_ne hne]
      exact hinv.headed u c hc x hx
  case owned =>
    intro hd k hreg
    rcases hentries hd k hreg with ⟨rfl, rfl⟩ | hreg
    · exact ⟨t, _, become_threads_self _ _ _, by rw [hholds]; exact List.mem_cons_self⟩
    · obtain ⟨u, owner, howner, hmem⟩ := hinv.owned hd k hreg
      by_cases hu : u = t
      · subst hu
        rw [hcall] at howner
        cases howner
        exact ⟨u, _, become_threads_self _ _ _, by
          rw [hholds]; exact List.mem_cons_of_mem _ hmem⟩
      · exact ⟨u, owner, by rw [become_threads_of_ne _ _ hu]; exact howner, hmem⟩
  case silent =>
    intro hd k hreg
    rcases hentries hd k hreg with ⟨rfl, rfl⟩ | hreg
    · simp
    · have hne : k ≠ s.port.next := Nat.ne_of_lt (hinv.valid.port.keyed hd k hreg).1
      simp only [become_port, Function.update_of_ne hne]
      exact hinv.silent hd k hreg
  case released =>
    intro u c hc k hk hd hreg
    have hmine : ∃ c', s.threads u = some c' ∧ k ∈ c'.released := by
      rcases become_threads_cases hc with ⟨rfl, hself⟩ | ⟨hu, hc⟩
      · cases hself
        rw [hreleased] at hk
        exact ⟨call, hcall, hk⟩
      · exact ⟨c, hc, hk⟩
    obtain ⟨c', hc', hk'⟩ := hmine
    rcases hentries hd k hreg with ⟨-, rfl⟩ | hreg
    · exact hold u c' hc' s.port.next (by simp [Call.handlers, hk']) rfl
    · exact hinv.released u c' hc' k hk' hd hreg

theorem performed {s' : State} (horderly : Orderly s (.advance t))
    (h : Performed s t call s') : Inv s' := by
  have hvalid := hinv.valid.performed hcall h
  cases h with
  | waits => exact hinv
  | clashes hnext hreg =>
    rw [hinv.free hcall hnext] at hreg
    cases hreg
  | registers hnext hport => exact hinv.registers hcall hnext hport hvalid
  | writes hnext =>
    obtain ⟨⟨hkind, hholds, hreleased⟩, -⟩ := next_write hnext
    refine hinv.goesOn hcall (Moved.refl s.port) hvalid ?_ ?_ ?_ ?_
    · rintro c ⟨⟩
      exact hkind
    · rintro c ⟨⟩ x hx
      rwa [hholds] at hx
    · intro header k _ hmem
      exact ⟨_, rfl, by rw [hholds]; exact hmem⟩
    · rintro c ⟨⟩ k hk
      rw [hreleased] at hk
      exact hinv.released t call hcall k hk
  | @fails k _ _ hnext hport =>
    obtain ⟨rest, hreleased, hgoOn⟩ := next_fail hnext
    have hout := hinv.released t call hcall k (by rw [hreleased]; exact List.mem_cons_self)
    have hmoved := moved_put hout hport
    -- nothing that the call holds is registered
    have hheld : ∀ x ∈ call.holds, ∀ header, s.port.handlers header ≠ some x.1 := by
      rcases next_fail_holds hnext with hnil | ⟨i, k', rfl, hpc, hholds⟩
      · simp [hnil]
      · intro x hx
        have hx' := hx
        rw [hholds, List.mem_singleton] at hx'
        subst hx'
        exact hinv.not_registered_of_givingUp hcall hx (givingUp_failing hcall hpc) horderly
    refine hinv.goesOn hcall hmoved hvalid (fun c hc => (hgoOn c hc).1) ?_ ?_ ?_
    · intro c hc x hx
      rw [(hgoOn c hc).2.1] at hx
      cases hx
    · intro header k' hreg hmem
      exact absurd (hmoved.handlers header k' hreg) (hheld _ hmem header)
    · intro c hc k' hk' header hreg
      have hreg' := hmoved.handlers header k' hreg
      rw [(hgoOn c hc).2.2, List.mem_append, List.mem_map] at hk'
      rcases hk' with ⟨x, hx, rfl⟩ | hk'
      · exact hheld x hx header hreg'
      · refine hinv.released t call hcall k' ?_ header hreg'
        rw [hreleased]
        exact List.mem_cons_of_mem _ hk'
  | @confused k _ _ _ hnext hport hpanic =>
    -- results are of the kind that the header says
    obtain ⟨c, header, rfl, hholds, hne⟩ := next_receive_none hnext hpanic
    have htyped := hinv.valid.port.typed k c (by rw [(receive_eq_some hport).1]; simp)
    rw [hinv.headed t call hcall (k, header) hholds] at htyped
    exact absurd htyped hne
  | @receives k _ result _ c hnext hport hgoOn =>
    obtain ⟨header, others, hholds, hnone, hreceived⟩ := next_receive hnext
    obtain ⟨hfull, results, -, rfl⟩ := receive_eq_some hport
    have hout := hinv.not_registered_of_buffer (k := k) (by simp [hfull])
    have hmoved : Moved s.port (s.port.setHandler k { s.port.handler k with results }) :=
      moved_setHandler rfl fun ⟨hd, hreg⟩ => absurd hreg (hout hd)
    -- a registered handler of the call is not the one that was received from
    have hothers : ∀ header' k', s.port.handlers header' = some k' →
        (k', header') ∈ call.holds → (k', header') ∈ others := by
      intro header' k' hreg hmem
      rw [hholds] at hmem
      rcases List.mem_cons.mp hmem with heq | hmem
      · cases heq
        exact absurd hreg (hout _)
      · exact hmem
    cases c with
    | none =>
      refine hinv.goesOn hcall hmoved hvalid (by simp) (by simp) ?_ (by simp)
      intro header' k' hreg hmem
      have hmem' := hothers header' k' hreg hmem
      rw [hnone result hgoOn] at hmem'
      cases hmem'
    | some c =>
      obtain ⟨hkind, hc⟩ := hreceived result c hgoOn
      refine hinv.goesOn hcall hmoved hvalid ?_ ?_ ?_ ?_
      · rintro c' ⟨⟩
        exact hkind
      · rintro c' ⟨⟩ x hx
        cases hc with
        | answered _ hc =>
          rw [hc] at hx
          rw [hholds]
          exact List.mem_cons_of_mem _ hx
        | timedOut _ _ _ hc | ended _ hc =>
          rw [hc] at hx
          cases hx
      · intro header' k' hreg hmem
        have hmem' := hothers header' k' hreg hmem
        cases hc with
        | answered _ hc => exact ⟨c, rfl, by rw [hc]; exact hmem'⟩
        | timedOut hi hpc ho =>
          subst hi
          rw [ho, List.mem_singleton] at hmem'
          cases hmem'
          exact absurd hreg (hinv.not_registered_of_givingUp hcall hmem
            (givingUp_receiving hcall hpc hfull) horderly _)
        | ended ho =>
          rw [ho] at hmem'
          cases hmem'
      · rintro c' ⟨⟩ k' hk' header' hreg
        have hbefore := hinv.released t call hcall
        cases hc with
        | answered _ _ hreleased =>
          rw [hreleased] at hk'
          exact hbefore k' hk' header' hreg
        | timedOut hi hpc ho _ hreleased =>
          rw [hreleased, ho, List.mem_append] at hk'
          rcases hk' with hk' | hk'
          · subst hi
            simp only [List.map_cons, List.map_nil, List.mem_singleton] at hk'
            subst hk'
            refine hinv.not_registered_of_givingUp hcall ?_
              (givingUp_receiving hcall hpc hfull) horderly header' hreg
            rw [hholds, ho]
            exact List.mem_cons_of_mem _ List.mem_cons_self
          · exact hbefore k' hk' header' hreg
        | ended _ _ hreleased =>
          rw [hreleased] at hk'
          rcases List.mem_cons.mp hk' with rfl | hk'
          · exact hout header' hreg
          · exact hbefore k' hk' header' hreg
  | @finishes i hnext =>
    obtain ⟨rfl, hpc, -⟩ := next_finish hnext
    have hholds : (Call.interview i).holds = [] := by simp [Call.holds, hpc]
    have hgone : Inv ({ s with port := s.port }.become t none) := by
      refine hinv.goesOn hcall (Moved.refl s.port) ⟨hvalid.port, hvalid.known⟩
        (by simp) (by simp) ?_ (by simp)
      intro header k _ hmem
      rw [hholds] at hmem
      cases hmem
    exact ⟨hvalid, hgone.calm, hgone.alone, hgone.headed, hgone.owned, hgone.silent, hgone.released⟩

end

theorem step {a : Action} (horderly : Orderly s a) : Inv (step s a) := by
  have hvalid := hinv.valid.step a
  have h := stepped s a
  generalize Znp.step s a = s' at h hvalid ⊢
  cases h with
  | idle => exact hinv
  | calls hfree hc => exact hinv.calls hfree hc horderly hvalid
  | performs hcall h => exact hinv.performed hcall horderly h
  | @fails t call header _ failed hcall hnext =>
    obtain ⟨-, hkind, k, hholds, hreleased⟩ := next_write hnext
    refine hinv.goesOn hcall (moved_delete header) hvalid ?_ ?_ ?_ ?_
    · rintro c ⟨⟩
      exact hkind
    · rintro c ⟨⟩ x hx
      rw [hholds]
      exact List.mem_cons_of_mem _ hx
    · intro header' k' hreg hmem
      obtain ⟨hne, -⟩ := handlers_of_delete hreg
      rw [hholds] at hmem
      rcases List.mem_cons.mp hmem with heq | hmem
      · cases heq
        exact absurd rfl hne
      · exact ⟨failed, rfl, hmem⟩
    · rintro c ⟨⟩ k' hk' header' hreg
      obtain ⟨hne, hreg'⟩ := handlers_of_delete hreg
      rw [hreleased] at hk'
      rcases List.mem_cons.mp hk' with rfl | hk'
      · refine hne (hinv.header_eq hcall ?_ hreg')
        rw [hholds]
        exact List.mem_cons_self
      · exact hinv.released t call hcall k' hk' header' hreg'
  | frame c => exact hinv.moved (moved_handleFrame c) (hinv.valid.port.handleFrame c)
  | fulfill => exact hinv.moved (moved_fulfill hinv.valid.port) hinv.valid.port.fulfill
  | expire k => exact hinv.moved (moved_removeHandler k) (hinv.valid.port.removeHandler k)
  | timerFail k =>
    exact hinv.moved (moved_timerFail hinv.valid.port k) (hinv.valid.port.timerFail k)

end Inv

/-- **No header is registered twice** in a run in which neither two `Send` nor two interviews
overlap, and an attempt whose synchronous request failed ends only when its handler is gone. -/
theorem never_registered_twice (actions : List Action) (h : Along step Orderly {} actions) :
    (run step {} actions).panicked = false :=
  (invariant_of_along (fun _ _ hinv horderly => hinv.step horderly) inv_init h).calm

/-- An attempt's request times out after its handler; the second attempt registers one. -/
def lateTimeout : List Action :=
  [.interview 0 0x1234, .advance 0, .advance 0, .advance 0, .expire 0, .timerFail 0, .expire 1,
    .timerFail 1, .advance 0, .advance 0]

theorem lateTimeout_registers :
    Along step Orderly {} lateTimeout ∧ (run step {} lateTimeout).panicked = false := by
  have horderly : Along step Orderly {} lateTimeout := by
    refine ⟨?_, ?_, ?_, ?_, trivial, trivial, trivial, trivial, ?_, ?_, trivial⟩
    · intro t call h
      cases h
    all_goals decide
  exact ⟨horderly, never_registered_twice _ horderly⟩

def twoSends : List Action := [.send 0, .send 1, .advance 0, .advance 1]

/-- The write of the first attempt's request fails, and the second attempt follows at
once. -/
def failedWrite : List Action :=
  [.interview 0 0x1234, .advance 0, .advance 0, .writeFails 0, .advance 0, .advance 0]

/-- Both bring the process down. -/
theorem registered_twice :
    (run step {} twoSends).panicked = true ∧ (run step {} failedWrite).panicked = true := by
  decide

end IotController.Znp
