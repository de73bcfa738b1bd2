/-
  Whether an interview returns (`InterviewDevice` in
  `pkg/zigbee-dongle/znp/interview.go`, the one-slot channel of a `Handler` in `port.go`,
  the flag of `handleDeviceJoin` in `modules/zigbeecoordinator/zigbeecoordinator.go`).

  The handler of an attempt is sent one result by the loop or by its timer, and a last
  `fail` when the interview returns.  It is received from once, but only if the synchronous
  request of the attempt was answered.  After a synchronous request that was not, the two
  sends meet in a slot for one and the second of them never ends.
-/
import IotController.Znp.Progress
import IotController.Znp.Registration

namespace IotController.Znp

open Foundation

/-- Synchronous requests of interviews are answered; a write of a `Send` fails while its handler
is registered. -/
def Answered (s : State) : Action → Prop
  | .writeFails t => ∀ call, s.threads t = some call → call.isSend = true ∧
      ∀ x ∈ call.holds, s.port.handlers x.2 = some x.1
  | .expire h => ∀ q : Query, s.port.handlers q.request.response ≠ some h
  | _ => True

/-- Calls do not overlap and synchronous requests are answered. -/
def Steady (s : State) (a : Action) : Prop := Orderly s a ∧ Answered s a

/-- Somebody is about to send to the handler. -/
def State.Sending (s : State) (k : Nat) : Prop :=
  (∃ c, s.port.reader = some (k, c)) ∨ (s.port.handler k).timer = .failing ∨
    ∃ t call goOn, s.threads t = some call ∧ call.next = .fail k goOn

/-- The flag of `handleDeviceJoin`, set while the interview of an address runs. -/
def State.Interviewing (s : State) (networkAddress : UInt16) : Prop :=
  ∃ t i, s.threads t = some (.interview i) ∧ i.networkAddress = networkAddress

/-- Every send finds room; no step sets an interview back, its own bring it nearer, and it can
always return, with the flag cleared. -/
structure Unblocked (s : State) : Prop where
  room : ∀ k, s.Sending k → (s.port.handler k).results.HasRoom
  nearer : ∀ t i, s.threads t = some (.interview i) → ∀ a, (step s a).work t ≤ s.work t ∧
    ((step s a).threads t ≠ s.threads t → (step s a).work t < s.work t)
  returns : ∀ t i, s.threads t = some (.interview i) → ∃ rest, Along step Steady s rest ∧
    (run step s rest).threads t = none ∧
    ¬ (run step s rest).Interviewing i.networkAddress

/-! ## Nothing is owed beyond the slot -/

section Answered

variable {p : Port} {h k : Nat}

theorem handler_handleFrame (c : Command) : (p.handleFrame c).handler = p.handler := by
  unfold Port.handleFrame
  split <;> rfl

theorem answered_fulfill
    (hk : (p.handler k).timer ≠ .failing ∧ none ∉ (p.handler k).results.buffer) :
    (p.fulfill.handler k).timer ≠ .failing ∧ none ∉ (p.fulfill.handler k).results.buffer := by
  unfold Port.fulfill
  split
  · exact hk
  · rename_i h c hreader
    cases hput : p.put h (some c) with
    | none => exact hk
    | some =>
      obtain ⟨-, results, hbuffer, rfl⟩ := put_eq_some hput
      by_cases hne : k = h
      · subst hne
        have hstop : (p.handler k).timer.stop ≠ .failing := by
          cases htimer : (p.handler k).timer with
          | armed | spent => simp [Timer.stop]
          | failing => exact absurd htimer hk.1
        simp [Port.setHandler, hbuffer, hstop]
      · simpa [Port.setHandler, hne] using hk

theorem answered_removeHandler (hout : h = k → p.handlers (p.handler k).header ≠ some h)
    (hk : (p.handler k).timer ≠ .failing ∧ none ∉ (p.handler k).results.buffer) :
    ((p.removeHandler h).handler k).timer ≠ .failing ∧
      none ∉ ((p.removeHandler h).handler k).results.buffer := by
  by_cases hne : k = h
  · subst hne
    unfold Port.removeHandler
    split
    · rw [if_neg (hout rfl)]
      simpa [Port.setHandler] using hk.2
    · exact hk
  · unfold Port.removeHandler
    split
    · split
      · simpa [Port.setHandler, Port.delete, hne] using hk
      · simpa [Port.setHandler, hne] using hk
    · exact hk

theorem answered_timerFail
    (hk : (p.handler k).timer ≠ .failing ∧ none ∉ (p.handler k).results.buffer) :
    ((p.timerFail h).handler k).timer ≠ .failing ∧
      none ∉ ((p.timerFail h).handler k).results.buffer := by
  unfold Port.timerFail
  split
  · rename_i hfailing
    have hne : k ≠ h := by
      rintro rfl
      exact hk.1 hfailing
    cases hfail : p.fail h with
    | none => exact hk
    | some =>
      obtain ⟨-, results, -, rfl⟩ := put_eq_some hfail
      simpa [Port.setHandler, hne] using hk
  · exact hk

end Answered

/-- A handler to receive from is owed one result, one only to be sent to none, and none more
than one.  Calls share no handlers.  Timers fail no interview's synchronous request. -/
structure Clear (s : State) : Prop where
  inv : Inv s
  one : ∀ k, s.port.owed k ≤ 1
  owed : ∀ t call, s.threads t = some call → ∀ x ∈ call.holds, s.port.owed x.1 = 1
  paid : ∀ t call, s.threads t = some call → ∀ k ∈ call.released, s.port.owed k = 0
  distinct : ∀ t call, s.threads t = some call → call.handlers.Nodup
  apart : ∀ t u call call', s.threads t = some call → s.threads u = some call' →
    ∀ k ∈ call.handlers, k ∈ call'.handlers → t = u
  answered : ∀ t call, s.threads t = some call → ∀ k, ∀ q : Query,
    (k, q.request.response) ∈ call.holds →
    (s.port.handler k).timer ≠ .failing ∧ none ∉ (s.port.handler k).results.buffer
  written : ∀ t call, s.threads t = some call → call.writeFailed = false

theorem mem_handlers_of_holds {call : Call} {x : Nat × FrameHeader} (h : x ∈ call.holds) :
    x.1 ∈ call.handlers :=
  List.mem_append_left _ (List.mem_map.mpr ⟨x, h, rfl⟩)

theorem mem_handlers_of_released {call : Call} {k : Nat} (h : k ∈ call.released) :
    k ∈ call.handlers :=
  List.mem_append_right _ h

theorem After.writeFailed {call c : Call} (h : After call c) : c.writeFailed = false := by
  match call with
  | .interview i =>
    obtain ⟨i', rfl, -, hwritten⟩ := h.interview
    exact hwritten
  | .send r =>
    have hsend : ∀ c : Call, c.isSend = true → c.writeFailed = false := by
      rintro (r | i) hkind
      · rfl
      · cases hkind
    cases h with
    | registers h k => exact hsend _ (next_register h k).1
    | writes h => exact hsend _ (next_write h).1.1
    | fails h =>
      obtain ⟨_, _, hgoOn⟩ := next_fail h
      exact hsend _ (hgoOn _ rfl).1
    | receives h hgoOn =>
      obtain ⟨_, _, _, _, hreceived⟩ := next_receive h
      exact hsend _ (hreceived _ _ hgoOn).1

theorem clear_init : Clear {} where
  inv := inv_init
  one := by simp [Port.owed, Port.init, Timer.isFailing]
  owed := by simp
  paid := by simp
  distinct := by simp
  apart := by simp
  answered := by simp
  written := by simp

namespace Clear

variable {s : State} (hclear : Clear s)
include hclear

theorem moved {port : Port} (hinv : Inv { s with port }) (howed : ∀ k, port.owed k = s.port.owed k)
    (hanswered : ∀ t call, s.threads t = some call → ∀ k, ∀ q : Query,
      (k, q.request.response) ∈ call.holds →
      (port.handler k).timer ≠ .failing ∧ none ∉ (port.handler k).results.buffer) :
    Clear { s with port } where
  inv := hinv
  one k := by
    simp only [howed k]
    exact hclear.one k
  owed t call hcall x hx := (howed x.1).trans (hclear.owed t call hcall x hx)
  paid t call hcall k hk := (howed k).trans (hclear.paid t call hcall k hk)
  distinct := hclear.distinct
  apart := hclear.apart
  answered := hanswered
  written := hclear.written

variable {t : Nat} {call : Call}

theorem goesOn {p : Port} {m : List Nat} {c : Option Call}
    (hmine : ∀ u call, u ≠ t → s.threads u = some call → ∀ k ∈ call.handlers, k ∉ m)
    (hinv : Inv ({ s with port := p }.become t c)) (hone : ∀ k, p.owed k ≤ 1)
    (hothers : ∀ k, k < s.port.next → k ∉ m →
      p.owed k = s.port.owed k ∧ p.handler k = s.port.handler k)
    (howed : ∀ c' ∈ c, ∀ x ∈ c'.holds, p.owed x.1 = 1)
    (hpaid : ∀ c' ∈ c, ∀ k ∈ c'.released, p.owed k = 0)
    (hhandlers : ∀ c' ∈ c, c'.handlers.Nodup ∧ ∀ k ∈ c'.handlers, k ∈ m ∨ k = s.port.next)
    (hanswered : ∀ c' ∈ c, ∀ k, ∀ q : Query, (k, q.request.response) ∈ c'.holds →
      (p.handler k).timer ≠ .failing ∧ none ∉ (p.handler k).results.buffer)
    (hwritten : ∀ c' ∈ c, c'.writeFailed = false) : Clear ({ s with port := p }.become t c) := by
  -- the handlers of another thread are not touched
  have hfree : ∀ u, u ≠ t → ∀ c', s.threads u = some c' → ∀ k ∈ c'.handlers,
      p.owed k = s.port.owed k ∧ p.handler k = s.port.handler k := by
    intro u hu c' hc' k hk
    exact hothers k (hclear.inv.valid.known u c' hc' k hk) (hmine u c' hu hc' k hk)
  -- and none of them is the thread's own
  have hsep : ∀ u, u ≠ t → ∀ c₁ ∈ c, ∀ c₂, s.threads u = some c₂ → ∀ k ∈ c₁.handlers,
      k ∉ c₂.handlers := by
    intro u hu c₁ hc₁ c₂ hc₂ k hk₁ hk₂
    rcases (hhandlers c₁ hc₁).2 k hk₁ with hk | rfl
    · exact hmine u c₂ hu hc₂ k hk₂ hk
    · exact Nat.lt_irrefl _ (hclear.inv.valid.known u c₂ hc₂ _ hk₂)
  constructor
  case inv => exact hinv
  case one => exact hone
  case owed =>
    intro u c' hc' x hx
    rcases become_threads_cases hc' with ⟨rfl, hmem⟩ | ⟨hu, hc'⟩
    · exact howed c' hmem x hx
    · exact (hfree u hu c' hc' x.1 (mem_handlers_of_holds hx)).1.trans (hclear.owed u c' hc' x hx)
  case paid =>
    intro u c' hc' k hk
    rcases become_threads_cases hc' with ⟨rfl, hmem⟩ | ⟨hu, hc'⟩
    · exact hpaid c' hmem k hk
    · exact (hfree u hu c' hc' k (mem_handlers_of_released hk)).1.trans (hclear.paid u c' hc' k hk)
  case distinct =>
    intro u c' hc'
    rcases become_threads_cases hc' with ⟨rfl, hmem⟩ | ⟨hu, hc'⟩
    · exact (hhandlers c' hmem).1
    · exact hclear.distinct u c' hc'
  case apart =>
    intro u v c₁ c₂ h₁ h₂ k hk₁ hk₂
    rcases become_threads_cases h₁ with ⟨rfl, hmem₁⟩ | ⟨hu, hc₁⟩
    · rcases become_threads_cases h₂ with ⟨rfl, hmem₂⟩ | ⟨hv, hc₂⟩
      · rfl
      · exact absurd hk₂ (hsep v hv c₁ hmem₁ c₂ hc₂ k hk₁)
    · rcases become_threads_cases h₂ with ⟨rfl, hmem₂⟩ | ⟨hv, hc₂⟩
      · exact absurd hk₁ (hsep u hu c₂ hmem₂ c₁ hc₁ k hk₂)
      · exact hclear.apart u v c₁ c₂ hc₁ hc₂ k hk₁ hk₂
  case answered =>
    intro u c' hc' k q hk
    rcases become_threads_cases hc' with ⟨rfl, hmem⟩ | ⟨hu, hc'⟩
    · exact hanswered c' hmem k q hk
    · have hsame := (hfree u hu c' hc' k (mem_handlers_of_holds hk)).2
      simp only [become_port, hsame]
      exact hclear.answered u c' hc' k q hk
  case written =>
    intro u c' hc'
    rcases become_threads_cases hc' with ⟨rfl, hmem⟩ | ⟨hu, hc'⟩
    · exact hwritten c' hmem
    · exact hclear.written u c' hc'

theorem calls {a : Action} {t : Nat} {c : Call} (hc : a.Calls t c)
    (hinv : Inv (s.become t (some c))) : Clear (s.become t (some c)) := by
  refine hclear.goesOn (p := s.port) (m := []) ?_ hinv hclear.one (fun _ _ _ => ⟨rfl, rfl⟩)
    ?_ ?_ ?_ ?_ ?_
  · intro u call _ _ k _ hk
    cases hk
  · rintro c' ⟨⟩ x hx
    rw [hc.holds] at hx
    cases hx
  · rintro c' ⟨⟩ k hk
    rw [hc.released] at hk
    cases hk
  · rintro c' ⟨⟩
    simp [hc.handlers]
  · rintro c' ⟨⟩ k q hk
    rw [hc.holds] at hk
    cases hk
  · rintro c' ⟨⟩
    cases hc <;> rfl

section

variable (hcall : s.threads t = some call)
include hcall

theorem not_mine (u : Nat) (c : Call) (hu : u ≠ t)
    (hc : s.threads u = some c) : ∀ k ∈ c.handlers, k ∉ call.handlers :=
  fun k hk hmine => hu (hclear.apart u t c call hc hcall k hk hmine)

theorem holds_ne_released {x : Nat × FrameHeader} (hx : x ∈ call.holds) {k : Nat}
    (hk : k ∈ call.released) : k ≠ x.1 := by
  rintro rfl
  have howed := hclear.owed t call hcall x hx
  rw [hclear.paid t call hcall x.1 hk] at howed
  cases howed

theorem registers {header : FrameHeader} {goOn : Nat → Call} {port : Port}
    (hnext : call.next = .register header goOn)
    (hport : s.port.registerHandler header = some port)
    (hinv : Inv ({ s with port }.become t (some (goOn s.port.next)))) :
    Clear ({ s with port }.become t (some (goOn s.port.next))) := by
  obtain ⟨-, hholds, hreleased⟩ := next_register hnext s.port.next
  obtain ⟨hnew, hold⟩ := owed_registerHandler hclear.inv.valid.port hport
  have hlt := hclear.inv.valid.known t call hcall
  have hne : ∀ k ∈ call.handlers, k ≠ s.port.next := fun k hk => Nat.ne_of_lt (hlt k hk)
  have hhandlers : (goOn s.port.next).handlers = s.port.next :: call.handlers := by
    simp [Call.handlers, hholds, hreleased]
  have hself : port.handler s.port.next = ⟨header, .empty, .armed⟩ := by
    obtain ⟨-, rfl⟩ := registerHandler_eq_some hport
    simp
  have hother : ∀ k, k ≠ s.port.next → port.handler k = s.port.handler k := by
    intro k hk
    obtain ⟨-, rfl⟩ := registerHandler_eq_some hport
    simp [hk]
  refine hclear.goesOn (hclear.not_mine hcall) hinv ?_ ?_ ?_ ?_ ?_ ?_ ?_
  · intro k
    by_cases hk : k = s.port.next
    · rw [hk, hnew]
    · rw [hold k hk]
      exact hclear.one k
  · intro k hk _
    exact ⟨hold k (Nat.ne_of_lt hk), hother k (Nat.ne_of_lt hk)⟩
  · rintro c ⟨⟩ x hx
    rw [hholds] at hx
    rcases List.mem_cons.mp hx with rfl | hx
    · exact hnew
    · rw [hold x.1 (hne x.1 (mem_handlers_of_holds hx))]
      exact hclear.owed t call hcall x hx
  · rintro c ⟨⟩ k hk
    rw [hreleased] at hk
    rw [hold k (hne k (mem_handlers_of_released hk))]
    exact hclear.paid t call hcall k hk
  · rintro c ⟨⟩
    rw [hhandlers]
    refine ⟨List.nodup_cons.mpr ⟨fun hmem => hne _ hmem rfl, hclear.distinct t call hcall⟩, ?_⟩
    intro k hk
    rcases List.mem_cons.mp hk with rfl | hk
    · exact Or.inr rfl
    · exact Or.inl hk
  · rintro c ⟨⟩ k q hk
    rw [hholds] at hk
    rcases List.mem_cons.mp hk with heq | hk
    · cases heq
      simp [hself]
    · rw [hother k (hne k (mem_handlers_of_holds hk))]
      exact hclear.answered t call hcall k q hk
  · rintro c ⟨⟩
    exact (After.registers hnext s.port.next).writeFailed

theorem fails {k : Nat} {goOn : Option Call} {port : Port}
    (hnext : call.next = .fail k goOn)
    (hport : s.port.fail k = some port) (hinv : Inv ({ s with port }.become t goOn)) :
    Clear ({ s with port }.become t goOn) := by
  obtain ⟨rest, hreleased, hgoOn⟩ := next_fail hnext
  obtain ⟨hself, hothers⟩ := owed_put hport
  have hpaid : s.port.owed k = 0 :=
    hclear.paid t call hcall k (by rw [hreleased]; exact List.mem_cons_self)
  -- no write has failed, so that the call holds nothing
  have hnil : call.holds = [] := by
    rcases next_fail_holds hnext with hnil | ⟨i, k', rfl, hpc, -⟩
    · exact hnil
    · have hwritten := hclear.written t _ hcall
      simp [Call.writeFailed, hpc] at hwritten
  have hhandlers : ∀ c ∈ goOn, c.holds = [] ∧ c.released = rest := by
    intro c hc
    obtain ⟨-, hholds, hrest⟩ := hgoOn c hc
    rw [hnil, List.map_nil, List.nil_append] at hrest
    exact ⟨hholds, hrest⟩
  have hdistinct : k ∉ rest ∧ rest.Nodup := by
    have hall := hclear.distinct t call hcall
    rw [Call.handlers, hnil, hreleased, List.map_nil, List.nil_append] at hall
    exact List.nodup_cons.mp hall
  have hmem : ∀ k' ∈ rest, k' ∈ call.handlers := by
    intro k' hk'
    refine mem_handlers_of_released ?_
    rw [hreleased]
    exact List.mem_cons_of_mem k hk'
  refine hclear.goesOn (hclear.not_mine hcall) hinv ?_ ?_ ?_ ?_ ?_ ?_ ?_
  · intro k'
    by_cases hk : k' = k
    · rw [hk, hself, hpaid]
    · rw [hothers k' hk]
      exact hclear.one k'
  · intro k' _ hout
    have hne : k' ≠ k := by
      rintro rfl
      refine hout (mem_handlers_of_released ?_)
      rw [hreleased]
      exact List.mem_cons_self
    obtain ⟨-, results, -, rfl⟩ := put_eq_some hport
    exact ⟨hothers k' hne, by simp [Port.setHandler, hne]⟩
  · intro c hc x hx
    rw [(hhandlers c hc).1] at hx
    cases hx
  · intro c hc k' hk'
    rw [(hhandlers c hc).2] at hk'
    have hne : k' ≠ k := by
      rintro rfl
      exact hdistinct.1 hk'
    rw [hothers k' hne]
    refine hclear.paid t call hcall k' ?_
    rw [hreleased]
    exact List.mem_cons_of_mem k hk'
  · intro c hc
    have hc' : c.handlers = rest := by simp [Call.handlers, hhandlers c hc]
    rw [hc']
    exact ⟨hdistinct.2, fun k' hk' => Or.inl (hmem k' hk')⟩
  · intro c hc k' q hk'
    rw [(hhandlers c hc).1] at hk'
    cases hk'
  · rintro c rfl
    exact (After.fails hnext).writeFailed

theorem receives {k : Nat} {goOn : HandlerResult → Option (Option Call)}
    {result : HandlerResult} {port : Port} {c : Option Call}
    (hnext : call.next = .receive k goOn) (hport : s.port.receive k = some (result, port))
    (hgoOn : goOn result = some c) (hinv : Inv ({ s with port }.become t c)) :
    Clear ({ s with port }.become t c) := by
  obtain ⟨header, others, hholds, -, hreceived⟩ := next_receive hnext
  obtain ⟨hself, hrest⟩ := owed_receive hport
  have hmine : (k, header) ∈ call.holds := by
    rw [hholds]
    exact List.mem_cons_self
  have howed : s.port.owed k = 1 := hclear.owed t call hcall _ hmine
  have hpaid : port.owed k = 0 := by omega
  have hsub : ∀ c' ∈ c, c'.handlers.Sublist call.handlers := by
    rintro c' rfl
    exact (hreceived result c' hgoOn).2.handlers hholds
  have hout : ∀ x ∈ others, x.1 ≠ k := by
    have hall := hclear.distinct t call hcall
    rw [Call.handlers, hholds, List.map_cons, List.cons_append] at hall
    intro x hx heq
    refine (List.nodup_cons.mp hall).1 (List.mem_append_left _ ?_)
    exact List.mem_map.mpr ⟨x, hx, heq⟩
  have hheld : ∀ x ∈ others, x ∈ call.holds := by
    intro x hx
    rw [hholds]
    exact List.mem_cons_of_mem _ hx
  have hsame : ∀ k', k' ≠ k → port.handler k' = s.port.handler k' := by
    intro k' hne
    obtain ⟨-, results, -, rfl⟩ := receive_eq_some hport
    simp [Port.setHandler, hne]
  have hbefore : ∀ k' ∈ call.released, port.owed k' = 0 := by
    intro k' hk'
    rw [hrest k' (hclear.holds_ne_released hcall hmine hk')]
    exact hclear.paid t call hcall k' hk'
  -- what the call still holds it held before, and what it gave up is paid
  have hafter : ∀ c' ∈ c, (∀ x ∈ c'.holds, x ∈ others) ∧ ∀ k' ∈ c'.released, port.owed k' = 0 := by
    rintro c' rfl
    cases (hreceived result c' hgoOn).2 with
    | answered _ hc hreleased =>
      refine ⟨by simp [hc], ?_⟩
      rw [hreleased]
      exact hbefore
    | timedOut hi hpc =>
      -- a synchronous request is not failed by its timer
      subst hi
      have hanswered := (hclear.answered t _ hcall k _ (by
        simp only [Call.holds, hpc, Request.holds]
        exact List.mem_append_left _ (List.mem_singleton.mpr rfl))).2
      rw [(receive_eq_some hport).1] at hanswered
      exact absurd (List.mem_singleton.mpr rfl) hanswered
    | ended _ hc hreleased =>
      refine ⟨by simp [hc], ?_⟩
      rw [hreleased]
      intro k' hk'
      rcases List.mem_cons.mp hk' with rfl | hk'
      · exact hpaid
      · exact hbefore k' hk'
  refine hclear.goesOn (hclear.not_mine hcall) hinv ?_ ?_ ?_ ?_ ?_ ?_ ?_
  · intro k'
    by_cases hk : k' = k
    · rw [hk, hpaid]
      exact Nat.zero_le 1
    · rw [hrest k' hk]
      exact hclear.one k'
  · intro k' _ hmem
    have hne : k' ≠ k := by
      rintro rfl
      exact hmem (mem_handlers_of_holds hmine)
    exact ⟨hrest k' hne, hsame k' hne⟩
  · intro c' hc' x hx
    have hx' := (hafter c' hc').1 x hx
    rw [hrest x.1 (hout x hx')]
    exact hclear.owed t call hcall x (hheld x hx')
  · intro c' hc'
    exact (hafter c' hc').2
  · intro c' hc'
    have hlist := hsub c' hc'
    exact ⟨(hclear.distinct t call hcall).sublist hlist, fun k' hk' => Or.inl (hlist.subset hk')⟩
  · intro c' hc' k' q hk'
    have hk'' := (hafter c' hc').1 _ hk'
    rw [hsame k' (hout _ hk'')]
    exact hclear.answered t call hcall k' q (hheld _ hk'')
  · rintro c' rfl
    exact (After.receives hnext hgoOn).writeFailed

theorem performed {s' : State} (horderly : Orderly s (.advance t))
    (h : Performed s t call s') : Clear s' := by
  have hinv := hclear.inv.performed hcall horderly h
  -- a step that leaves the port alone
  have hstays : ∀ c : Option Call, Inv ({ s with port := s.port }.become t c) →
      (∀ c' ∈ c, c'.holds = call.holds ∧ c'.released = call.released ∧ c'.writeFailed = false) →
      Clear ({ s with port := s.port }.become t c) := by
    intro c hinv hc
    have hsame : ∀ c' ∈ c, c'.handlers = call.handlers := by
      intro c' hc'
      rw [Call.handlers, Call.handlers, (hc c' hc').1, (hc c' hc').2.1]
    refine hclear.goesOn (hclear.not_mine hcall) hinv hclear.one (fun _ _ _ => ⟨rfl, rfl⟩)
      ?_ ?_ ?_ ?_ fun c' hc' => (hc c' hc').2.2
    · intro c' hc' x hx
      rw [(hc c' hc').1] at hx
      exact hclear.owed t call hcall x hx
    · intro c' hc' k hk
      rw [(hc c' hc').2.1] at hk
      exact hclear.paid t call hcall k hk
    · intro c' hc'
      rw [hsame c' hc']
      exact ⟨hclear.distinct t call hcall, fun k hk => Or.inl hk⟩
    · intro c' hc' k q hk
      rw [(hc c' hc').1] at hk
      exact hclear.answered t call hcall k q hk
  cases h with
  | waits => exact hclear
  | clashes | confused => exact absurd hinv.calm Bool.noConfusion
  | registers hnext hport => exact hclear.registers hcall hnext hport hinv
  | writes hnext =>
    obtain ⟨⟨-, hholds, hreleased⟩, -⟩ := next_write hnext
    refine hstays _ hinv ?_
    rintro c' ⟨⟩
    exact ⟨hholds, hreleased, (After.writes hnext).writeFailed⟩
  | fails hnext hport => exact hclear.fails hcall hnext hport hinv
  | receives hnext hport hgoOn => exact hclear.receives hcall hnext hport hgoOn hinv
  | finishes =>
    have hgone := hstays none ⟨⟨hinv.valid.port, hinv.valid.known⟩, hinv.calm, hinv.alone,
      hinv.headed, hinv.owned, hinv.silent, hinv.released⟩ (by simp)
    exact ⟨hinv, hgone.one, hgone.owed, hgone.paid, hgone.distinct, hgone.apart, hgone.answered,
      hgone.written⟩

theorem writeFails {header : FrameHeader} {wrote failed : Call}
    (hnext : call.next = .write header wrote failed) (hanswered : Answered s (.writeFails t))
    (hinv : Inv ({ s with port := s.port.delete header }.become t (some failed))) :
    Clear ({ s with port := s.port.delete header }.become t (some failed)) := by
  obtain ⟨-, hkind, k, hholds, hreleased⟩ := next_write hnext
  obtain ⟨hsend, hregistered⟩ := hanswered call hcall
  have hmine : (k, header) ∈ call.holds := by
    rw [hholds]
    exact List.mem_cons_self
  have hreg : s.port.handlers header = some k := hregistered _ hmine
  have hpaid : (s.port.delete header).owed k = 0 := by
    have hless := owed_delete hclear.inv.valid.port hreg
    have howed := hclear.owed t call hcall _ hmine
    simp only at howed
    omega
  have hother : ∀ k', k' ≠ k → (s.port.delete header).owed k' = s.port.owed k' := by
    intro k' hne
    refine owed_delete_of_ne fun hsome => hne ?_
    exact Option.some.inj (hsome.symm.trans hreg)
  have hperm := write_handlers hholds hreleased
  have hout : ∀ x ∈ failed.holds, x.1 ≠ k := by
    have hall := hclear.distinct t call hcall
    rw [Call.handlers, hholds, List.map_cons, List.cons_append] at hall
    intro x hx heq
    refine (List.nodup_cons.mp hall).1 (List.mem_append_left _ ?_)
    exact List.mem_map.mpr ⟨x, hx, heq⟩
  have hheld : ∀ x ∈ failed.holds, x ∈ call.holds := by
    intro x hx
    rw [hholds]
    exact List.mem_cons_of_mem _ hx
  refine hclear.goesOn (hclear.not_mine hcall) hinv ?_ ?_ ?_ ?_ ?_ ?_ ?_
  · intro k'
    by_cases hk : k' = k
    · rw [hk, hpaid]
      exact Nat.zero_le 1
    · rw [hother k' hk]
      exact hclear.one k'
  · intro k' _ hmem
    refine ⟨hother k' ?_, rfl⟩
    rintro rfl
    exact hmem (mem_handlers_of_holds hmine)
  · rintro c ⟨⟩ x hx
    rw [hother x.1 (hout x hx)]
    exact hclear.owed t call hcall x (hheld x hx)
  · rintro c ⟨⟩ k' hk'
    rw [hreleased] at hk'
    rcases List.mem_cons.mp hk' with rfl | hk'
    · exact hpaid
    · rw [hother k' (hclear.holds_ne_released hcall hmine hk')]
      exact hclear.paid t call hcall k' hk'
  · rintro c ⟨⟩
    exact ⟨hperm.nodup_iff.mpr (hclear.distinct t call hcall),
      fun k' hk' => Or.inl (hperm.subset hk')⟩
  · rintro c ⟨⟩ k' q hk'
    exact hclear.answered t call hcall k' q (hheld _ hk')
  · rintro c ⟨⟩
    rw [hsend] at hkind
    cases failed with
    | send => rfl
    | interview => cases hkind

end

theorem step {a : Action} (hsteady : Steady s a) : Clear (step s a) := by
  obtain ⟨horderly, hanswered⟩ := hsteady
  have hinv := hclear.inv.step horderly
  have h := stepped s a
  generalize Znp.step s a = s' at h hinv ⊢
  cases h with
  | idle => exact hclear
  | calls _ hc => exact hclear.calls hc hinv
  | performs hcall h => exact hclear.performed hcall horderly h
  | fails hcall hnext => exact hclear.writeFails hcall hnext hanswered hinv
  | frame c =>
    refine hclear.moved hinv (owed_handleFrame hclear.inv.valid.port c) ?_
    rw [handler_handleFrame]
    exact hclear.answered
  | fulfill =>
    refine hclear.moved hinv owed_fulfill ?_
    intro t call hcall k q hk
    exact answered_fulfill (hclear.answered t call hcall k q hk)
  | expire h =>
    refine hclear.moved hinv (owed_removeHandler h) ?_
    intro t call hcall k q hk
    refine answered_removeHandler ?_ (hclear.answered t call hcall k q hk)
    -- a request that is still registered is not timed out
    have hheader : (s.port.handler k).header = q.request.response :=
      hclear.inv.headed t call hcall _ hk
    rintro rfl
    rw [hheader]
    exact hanswered q
  | timerFail h =>
    refine hclear.moved hinv (owed_timerFail h) ?_
    intro t call hcall k q hk
    exact answered_timerFail (hclear.answered t call hcall k q hk)

end Clear

/-! ## An interview can always go on -/

section Progress

variable {s : State}

theorem owed_cases {p : Port} {k : Nat} (h : p.owed k = 1) :
    p.handlers (p.handler k).header = some k ∨ (∃ c, p.reader = some (k, c)) ∨
      (p.handler k).timer = .failing ∨ ∃ result, (p.handler k).results.buffer = [result] := by
  by_contra hnone
  rw [not_or, not_or, not_or] at hnone
  obtain ⟨hregistered, hreader, hfailing, hbuffer⟩ := hnone
  have hidle : p.reader.map Prod.fst ≠ some k := by
    intro hsome
    obtain ⟨⟨k', c⟩, hreader', hk⟩ := Option.map_eq_some_iff.mp hsome
    cases hk
    exact hreader ⟨c, hreader'⟩
  have htimer : (p.handler k).timer.isFailing = false := by
    rw [← Bool.not_eq_true, Timer.isFailing_iff]
    exact hfailing
  simp only [Port.owed, beq_eq_false_iff_ne.mpr hregistered, beq_eq_false_iff_ne.mpr hidle, htimer,
    Bool.toNat_false, Nat.zero_add] at h
  exact hbuffer (List.length_eq_one_iff.mp h)

theorem Clear.buffer_eq_nil (hclear : Clear s) {k : Nat} (h : s.Sending k) :
    (s.port.handler k).results.buffer = [] := by
  have hone := hclear.one k
  refine List.eq_nil_of_length_eq_zero ?_
  rcases h with ⟨c, hreader⟩ | hfailing | ⟨t, call, goOn, hcall, hnext⟩
  · simp only [Port.owed, hreader, Option.map_some, beq_self_eq_true, Bool.toNat_true] at hone
    omega
  · simp only [Port.owed, hfailing, Timer.isFailing, Bool.toNat_true] at hone
    omega
  · obtain ⟨rest, hreleased, -⟩ := next_fail hnext
    have hpaid := hclear.paid t call hcall k (by rw [hreleased]; exact List.mem_cons_self)
    simp only [Port.owed] at hpaid
    omega

/-- Thread `t` has the only interview, or there is none. -/
structure OnlyInterview (s : State) (t : Nat) : Prop where
  clear : Clear s
  own : ∀ call, s.threads t = some call → call.isSend = false
  others : ∀ u call, u ≠ t → s.threads u = some call → call.isSend = true

def State.distance (s : State) (t : Nat) : Nat := 2 * s.work t + s.port.reader.isSome.toNat

theorem distance_lt_of_work {s' : State} {t : Nat} (h : s'.work t < s.work t) :
    s'.distance t < s.distance t := by
  have hbound := Bool.toNat_le s'.port.reader.isSome
  unfold State.distance
  omega

theorem orderly_of_givingUp {t : Nat} (h : s.givingUp t = none) : Orderly s (.advance t) := by
  intro x hx
  rw [h] at hx
  cases hx

/-- Some action brings the interview nearer to its return. -/
def CanWork (s : State) (t : Nat) : Prop :=
  ∃ a, Steady s a ∧ OnlyInterview (step s a) t ∧ (step s a).work t < s.work t

namespace OnlyInterview

variable {t : Nat} (honly : OnlyInterview s t)
include honly

theorem moved {a : Action} (hsteady : Steady s a) (hthreads : (step s a).threads = s.threads) :
    OnlyInterview (step s a) t where
  clear := honly.clear.step hsteady
  own := by
    rw [hthreads]
    exact honly.own
  others := by
    rw [hthreads]
    exact honly.others

theorem advances {i : Interview} (hcall : s.threads t = some (.interview i))
    (hkeeps : s.givingUp t = none) (hready : ¬ s.port.Blocks (Call.interview i).next) :
    CanWork s t := by
  have hsteady : Steady s (.advance t) := ⟨orderly_of_givingUp hkeeps, trivial⟩
  have hclear := honly.clear.step hsteady
  have h : Performed s t (.interview i) (step s (.advance t)) := by
    have hperform : step s (.advance t) = s.perform t (Call.interview i).next := by
      simp [step, honly.clear.inv.calm, hcall]
    rw [hperform]
    exact performed s t _
  refine ⟨.advance t, hsteady, ?_⟩
  generalize step s (.advance t) = s' at h hclear ⊢
  refine ⟨⟨hclear, ?_, ?_⟩, ?_⟩
  · intro c hc
    exact (kind_performed hcall h c hc).trans rfl
  · intro u call hne hu
    rw [threads_performed h hne] at hu
    exact honly.others u call hne hu
  · rcases nearer_performed hcall h with hless | ⟨-, -, hblocks | hpanicked⟩
    · exact hless
    · exact absurd hblocks hready
    · rw [hclear.inv.calm] at hpanicked
      cases hpanicked

theorem waits {i : Interview} {k : Nat} {port : Port} {a : Action}
    (hcall : s.threads t = some (.interview i)) (hwaits : i.waitsFor = some k)
    (hsteady : Steady s a) (hstep : step s a = { s with port })
    (hpending : port.pending k + 1 = s.port.pending k) :
    CanWork s t := by
  refine ⟨a, hsteady, honly.moved hsteady (by rw [hstep]), ?_⟩
  have hafter : (step s a).threads t = some (.interview i) := by
    rw [hstep]
    exact hcall
  rw [work_of_interview hcall, work_of_interview hafter, hwaits, hstep]
  simp only [Option.map_some, Option.getD_some]
  omega

theorem fulfills {k : Nat} {c : Command} (hreader : s.port.reader = some (k, c))
    (hcall : s.threads t ≠ none) :
    OnlyInterview (step s .fulfill) t ∧ (step s .fulfill).distance t < s.distance t := by
  have hstep : step s .fulfill = { s with port := s.port.fulfill } := by
    simp [step, honly.clear.inv.calm]
  refine ⟨honly.moved ⟨trivial, trivial⟩ (by rw [hstep]), ?_⟩
  obtain ⟨call, hcall⟩ := Option.ne_none_iff_exists'.mp hcall
  obtain ⟨i, rfl⟩ := exists_interview (honly.own call hcall)
  have hnearer := (nearer_step honly.clear.inv.valid hcall .fulfill).1
  have hidle : (step s .fulfill).port.reader = none := by
    obtain ⟨p', hput⟩ := exists_put (some c) (honly.clear.buffer_eq_nil (Or.inl ⟨c, hreader⟩))
    simp [hstep, Port.fulfill, hreader, hput]
  simp only [State.distance, hidle, hreader, Option.isSome_none, Option.isSome_some,
    Bool.toNat_false, Bool.toNat_true]
  omega

theorem answers {i : Interview} {h k : Nat} (hreader : s.port.reader = none)
    (hcall : s.threads t = some (.interview i)) (hpc : i.pc = .request h (.receiving k)) :
    CanWork s t := by
  have hholds : (k, i.stage.query.request.response) ∈ (Call.interview i).holds := by
    simp [Call.holds, Request.holds, hpc]
  have hwaits : i.waitsFor = some k := by simp [Interview.waitsFor, hpc]
  have hheader := honly.clear.inv.headed t _ hcall _ hholds
  obtain ⟨hfailing, hanswered⟩ := honly.clear.answered t _ hcall k _ hholds
  rcases owed_cases (honly.clear.owed t _ hcall _ hholds) with hreg | ⟨c, hbusy⟩ | hfails | hresult
  · simp only at hheader hreg
    rw [hheader] at hreg
    have hsteady : Steady s (.frame (.response i.stage.query.request)) := ⟨trivial, trivial⟩
    have hpending := pending_handleFrame (c := .response i.stage.query.request)
      honly.clear.inv.valid.port hreader hreg
    refine honly.waits hcall hwaits hsteady ?_ hpending
    simp [step, honly.clear.inv.calm]
  · rw [hreader] at hbusy
    cases hbusy
  · exact absurd hfails hfailing
  · obtain ⟨result, hbuffer⟩ := hresult
    simp only at hbuffer
    have hsome : result ≠ none := by
      rintro rfl
      rw [hbuffer] at hanswered
      exact hanswered (List.mem_singleton.mpr rfl)
    obtain ⟨p', hget⟩ := exists_receive hbuffer
    refine honly.advances hcall (by simp [State.givingUp, hcall, hpc, hbuffer, hsome]) ?_
    simp [Call.next, Interview.next, hpc, Request.next, Port.Blocks, hget]

theorem ends {i : Interview} {k : Nat} (hreader : s.port.reader = none)
    (hcall : s.threads t = some (.interview i)) (hpc : i.pc = .await k) : CanWork s t := by
  have hholds : (k, i.stage.query.indication) ∈ (Call.interview i).holds := by
    simp [Call.holds, hpc]
  have hwaits : i.waitsFor = some k := by simp [Interview.waitsFor, hpc]
  have hheader := honly.clear.inv.headed t _ hcall _ hholds
  rcases owed_cases (honly.clear.owed t _ hcall _ hholds) with hreg | ⟨c, hbusy⟩ | hfails | hresult
  · simp only at hheader hreg
    have hsteady : Steady s (.expire k) := by
      refine ⟨trivial, fun q hq => ?_⟩
      have hindication := honly.clear.inv.header_eq hcall hholds hq
      exact indication_ne_response _ _ hindication.symm
    have harmed := (honly.clear.inv.valid.port.keyed _ k hreg).2.2
    refine honly.waits hcall hwaits hsteady ?_ (pending_removeHandler hreg harmed)
    simp [step, honly.clear.inv.calm]
  · rw [hreader] at hbusy
    cases hbusy
  · obtain ⟨p', hput⟩ := exists_put none (honly.clear.buffer_eq_nil (Or.inr (Or.inl hfails)))
    have hsteady : Steady s (.timerFail k) := ⟨trivial, trivial⟩
    refine honly.waits hcall hwaits hsteady ?_ (pending_timerFail hfails hput)
    simp [step, honly.clear.inv.calm]
  · obtain ⟨result, hbuffer⟩ := hresult
    obtain ⟨p', hget⟩ := exists_receive hbuffer
    refine honly.advances hcall (by simp [State.givingUp, hcall, hpc]) ?_
    simp [Call.next, Interview.next, hpc, Port.Blocks, hget]

/-- **An interview that has not returned can go on.** -/
theorem progress (hcall : s.threads t ≠ none) :
    ∃ a, Steady s a ∧ OnlyInterview (step s a) t ∧ (step s a).distance t < s.distance t := by
  cases hreader : s.port.reader with
  | some out =>
    obtain ⟨k, c⟩ := out
    exact ⟨.fulfill, ⟨trivial, trivial⟩, honly.fulfills hreader hcall⟩
  | none =>
    obtain ⟨call, hcall⟩ := Option.ne_none_iff_exists'.mp hcall
    obtain ⟨i, rfl⟩ := exists_interview (honly.own call hcall)
    have hwork : CanWork s t := by
      cases hpc : i.pc with
      | register =>
        refine honly.advances hcall (by simp [State.givingUp, hcall, hpc]) ?_
        simp [Call.next, Interview.next, hpc, Port.Blocks]
      | request _ r =>
        cases r with
        | start | registered =>
          refine honly.advances hcall (by simp [State.givingUp, hcall, hpc]) ?_
          simp [Call.next, Interview.next, hpc, Request.next, Port.Blocks]
        | failing =>
          have hwritten := honly.clear.written t _ hcall
          simp [Call.writeFailed, hpc] at hwritten
        | receiving => exact honly.answers hreader hcall hpc
      | await => exact honly.ends hreader hcall hpc
      | returning =>
        refine honly.advances hcall (by simp [State.givingUp, hcall, hpc]) ?_
        cases hdeferred : i.deferred with
        | nil => simp [Call.next, Interview.next, hpc, hdeferred, Port.Blocks]
        | cons k rest =>
          have hnext : (Call.interview i).next =
              .fail k (some (.interview { i with deferred := rest })) := by
            simp [Call.next, Interview.next, hpc, hdeferred]
          obtain ⟨p', hput⟩ := exists_put none
            (honly.clear.buffer_eq_nil (Or.inr (Or.inr ⟨t, _, _, hcall, hnext⟩)))
          have hfail : s.port.fail k = some p' := hput
          simp [hnext, Port.Blocks, hfail]
    obtain ⟨a, hsteady, honly', hless⟩ := hwork
    exact ⟨a, hsteady, honly', distance_lt_of_work hless⟩

end OnlyInterview

/-- **Every interview can go on to its return.** -/
theorem Clear.returns (hclear : Clear s) {t : Nat} {i : Interview}
    (hcall : s.threads t = some (.interview i)) :
    ∃ rest, Along Znp.step Steady s rest ∧ (run Znp.step s rest).threads t = none ∧
      ¬ (run Znp.step s rest).Interviewing i.networkAddress := by
  have honly : OnlyInterview s t := by
    refine ⟨hclear, ?_, ?_⟩
    · intro call hcall'
      rw [hcall] at hcall'
      cases hcall'
      rfl
    · intro u call hne hu
      by_contra hkind
      refine hne (hclear.inv.alone u t call _ hu hcall ?_)
      rw [Bool.not_eq_true] at hkind
      exact hkind
  -- every state in which thread `t` is not through has a step that brings it nearer
  have hprogress : ∀ s' : State, OnlyInterview s' t →
      ¬ (s'.threads t = none ∧ ∀ u call, s'.threads u = some call → call.isSend = true) →
      ∃ a, Steady s' a ∧ OnlyInterview (Znp.step s' a) t ∧
        (Znp.step s' a).distance t < s'.distance t := by
    intro s' honly' hunsettled
    refine honly'.progress fun hnone => hunsettled ⟨hnone, ?_⟩
    intro u call hu
    refine honly'.others u call ?_ hu
    rintro rfl
    rw [hnone] at hu
    cases hu
  obtain ⟨rest, halong, hdone, hsends⟩ :=
    exists_settled_run (fun s' => s'.distance t) hprogress s honly
  refine ⟨rest, halong, hdone, ?_⟩
  rintro ⟨u, i', hu, -⟩
  cases hsends u _ hu

end Progress

/-- **An interview returns** when calls do not overlap and synchronous requests are answered: no
send waits for ever, no step sets it back, and at any time it can go on to its return. -/
theorem interview_returns (actions : List Action) (h : Along step Steady {} actions) :
    Unblocked (run step {} actions) := by
  have hclear : Clear (run step {} actions) :=
    invariant_of_along (fun _ _ hclear hsteady => hclear.step hsteady) clear_init h
  refine ⟨?_, ?_, ?_⟩
  · intro k hsending
    rw [Chan.HasRoom, hclear.buffer_eq_nil hsending]
    exact Nat.zero_lt_one
  · intro t i hcall a
    exact nearer_step hclear.inv.valid hcall a
  · intro t i hcall
    exact hclear.returns hcall

def silentDevice : List Action :=
  [.interview 0 0x1234, .advance 0, .advance 0, .advance 0,
    .frame (.response Query.nodeDescriptor.request), .fulfill, .advance 0]

theorem silentDevice_returns :
    Along step Steady {} silentDevice ∧ Unblocked (run step {} silentDevice) := by
  have hsteady : Along step Steady {} silentDevice := by
    refine ⟨⟨?_, trivial⟩, ⟨?_, trivial⟩, ⟨?_, trivial⟩, ⟨?_, trivial⟩, ⟨trivial, trivial⟩,
      ⟨trivial, trivial⟩, ⟨?_, trivial⟩, trivial⟩
    · intro t call h
      cases h
    all_goals decide
  exact ⟨hsteady, interview_returns _ hsteady⟩

/-! ## An interview that never returns -/

/-- Thread `t` is at its last `fail` for `k`, whose slot is taken and which nobody receives
from. -/
structure Stuck (s : State) (t k : Nat) (networkAddress : UInt16) : Prop where
  valid : s.Valid
  sending : ∃ i rest, s.threads t = some (.interview i) ∧ i.networkAddress = networkAddress ∧
    i.pc = .returning ∧ i.deferred = k :: rest
  full : (s.port.handler k).results.buffer ≠ []
  unheld : ∀ u call, s.threads u = some call → ∀ x ∈ call.holds, x.1 ≠ k

theorem full_put {p p' : Port} {h k : Nat} {result : HandlerResult}
    (hput : p.put h result = some p') (hfull : (p.handler k).results.buffer ≠ []) :
    (p'.handler k).results.buffer ≠ [] := by
  obtain ⟨hempty, results, -, rfl⟩ := put_eq_some hput
  have hne : k ≠ h := by
    rintro rfl
    exact hfull hempty
  simpa [Port.setHandler, hne] using hfull

namespace Stuck

variable {s : State} {t k : Nat} {networkAddress : UInt16} (hstuck : Stuck s t k networkAddress)
include hstuck

theorem lt : k < s.port.next := by
  obtain ⟨i, rest, hcall, -, hpc, hdeferred⟩ := hstuck.sending
  exact hstuck.valid.known t _ hcall k (by simp [Call.handlers, Call.released, hpc, hdeferred])

theorem moved {port : Port} (hvalid : State.Valid { s with port })
    (hfull : (port.handler k).results.buffer ≠ []) : Stuck { s with port } t k networkAddress :=
  ⟨hvalid, hstuck.sending, hfull, hstuck.unheld⟩

theorem goesOn {port : Port} {u : Nat} {call : Call} {c : Option Call} (hne : u ≠ t)
    (hcall : s.threads u = some call) (hvalid : State.Valid ({ s with port }.become u c))
    (hfull : (port.handler k).results.buffer ≠ [])
    (hholds : ∀ c' ∈ c, ∀ x ∈ c'.holds, x ∈ call.holds ∨ x.1 = s.port.next) :
    Stuck ({ s with port }.become u c) t k networkAddress where
  valid := hvalid
  sending := by
    rw [become_threads_of_ne _ _ hne.symm]
    exact hstuck.sending
  full := hfull
  unheld v c' hc' x hx := by
    rcases become_threads_cases hc' with ⟨rfl, hself⟩ | ⟨hv, hc'⟩
    · rcases hholds c' hself x hx with hx | hnew
      · exact hstuck.unheld v call hcall x hx
      · rw [hnew]
        exact (Nat.ne_of_lt hstuck.lt).symm
    · exact hstuck.unheld v c' hc' x hx

theorem full_receive {u h : Nat} {call : Call} {goOn : HandlerResult → Option (Option Call)}
    {result : HandlerResult} {port : Port} (hcall : s.threads u = some call)
    (hnext : call.next = .receive h goOn) (hport : s.port.receive h = some (result, port)) :
    (port.handler k).results.buffer ≠ [] := by
  obtain ⟨header, others, hholds, -⟩ := next_receive hnext
  have hne : h ≠ k :=
    hstuck.unheld u call hcall (h, header) (by rw [hholds]; exact List.mem_cons_self)
  obtain ⟨-, results, -, rfl⟩ := receive_eq_some hport
  simpa [Port.setHandler, hne.symm] using hstuck.full

theorem performed {s' : State} {u : Nat} {call : Call} (hcall : s.threads u = some call)
    (h : Performed s u call s') : Stuck s' t k networkAddress := by
  have hvalid := hstuck.valid.performed hcall h
  by_cases hu : u = t
  · -- the interview itself waits for room
    subst hu
    obtain ⟨i, rest, hi, -, hpc, hdeferred⟩ := hstuck.sending
    rw [hcall] at hi
    cases hi
    have hsends : (Call.interview i).next =
        .fail k (some (.interview { i with deferred := rest })) := by
      simp [Call.next, Interview.next, hpc, hdeferred]
    cases h with
    | waits => exact hstuck
    | fails hnext hport =>
      rw [hsends] at hnext
      cases hnext
      exact absurd (put_eq_some hport).1 hstuck.full
    | clashes hnext | registers hnext | writes hnext | confused hnext | receives hnext
    | finishes hnext =>
      rw [hsends] at hnext
      cases hnext
  · cases h with
    | waits => exact hstuck
    | clashes => exact ⟨hvalid, hstuck.sending, hstuck.full, hstuck.unheld⟩
    | confused hnext hport =>
      exact ⟨hvalid, hstuck.sending, hstuck.full_receive hcall hnext hport, hstuck.unheld⟩
    | registers hnext hport =>
      refine hstuck.goesOn hu hcall hvalid ?_ ?_
      · obtain ⟨-, rfl⟩ := registerHandler_eq_some hport
        simpa [Nat.ne_of_lt hstuck.lt] using hstuck.full
      · rintro c ⟨⟩ x hx
        rw [(next_register hnext _).2.1] at hx
        rcases List.mem_cons.mp hx with rfl | hx
        · exact Or.inr rfl
        · exact Or.inl hx
    | writes hnext =>
      refine hstuck.goesOn hu hcall hvalid hstuck.full ?_
      rintro c ⟨⟩ x hx
      rw [(next_write hnext).1.2.1] at hx
      exact Or.inl hx
    | fails hnext hport =>
      refine hstuck.goesOn hu hcall hvalid (full_put hport hstuck.full) ?_
      intro c hc x hx
      obtain ⟨_, _, hgoOn⟩ := next_fail hnext
      rw [(hgoOn c hc).2.1] at hx
      cases hx
    | receives hnext hport hgoOn =>
      refine hstuck.goesOn hu hcall hvalid (hstuck.full_receive hcall hnext hport) ?_
      rintro c rfl x hx
      obtain ⟨header, others, hholds, -, hreceived⟩ := next_receive hnext
      rw [hholds]
      exact Or.inl (List.mem_cons_of_mem _ ((hreceived _ c hgoOn).2.holds hx))
    | finishes =>
      have hgone := hstuck.goesOn (c := none) hu hcall
        ⟨hvalid.port, hvalid.known⟩ hstuck.full (by simp)
      exact ⟨hvalid, hgone.sending, hgone.full, hgone.unheld⟩

theorem step (a : Action) : Stuck (step s a) t k networkAddress := by
  have hvalid := hstuck.valid.step a
  have h := stepped s a
  generalize Znp.step s a = s' at h hvalid ⊢
  cases h with
  | idle => exact hstuck
  | @calls _ u _ hfree hc =>
    have hne : t ≠ u := by
      rintro rfl
      obtain ⟨i, rest, hi, -⟩ := hstuck.sending
      rw [hfree] at hi
      cases hi
    refine ⟨hvalid, ?_, hstuck.full, ?_⟩
    · rw [become_threads_of_ne _ _ hne]
      exact hstuck.sending
    · intro v c' hc' x hx
      rcases become_threads_cases hc' with ⟨rfl, hself⟩ | ⟨hv, hc'⟩
      · cases hself
        rw [hc.holds] at hx
        cases hx
      · exact hstuck.unheld v c' hc' x hx
  | performs hcall h => exact hstuck.performed hcall h
  | @fails u _ _ _ _ hcall hnext =>
    have hne : u ≠ t := by
      rintro rfl
      obtain ⟨i, rest, hi, -, hpc, hdeferred⟩ := hstuck.sending
      rw [hcall] at hi
      cases hi
      simp [Call.next, Interview.next, hpc, hdeferred] at hnext
    refine hstuck.goesOn hne hcall hvalid hstuck.full ?_
    rintro c ⟨⟩ x hx
    obtain ⟨-, -, k', hholds, -⟩ := next_write hnext
    rw [hholds]
    exact Or.inl (List.mem_cons_of_mem _ hx)
  | frame =>
    refine hstuck.moved hvalid ?_
    rw [handler_handleFrame]
    exact hstuck.full
  | fulfill =>
    refine hstuck.moved hvalid ?_
    unfold Port.fulfill
    split
    · exact hstuck.full
    · rename_i h c hreader
      cases hput : s.port.put h (some c) with
      | none => exact hstuck.full
      | some =>
        have hfull := full_put hput hstuck.full
        by_cases hk : k = h
        · subst hk
          simpa [Port.setHandler] using hfull
        · simpa [Port.setHandler, hk] using hfull
  | expire h =>
    refine hstuck.moved hvalid ?_
    have hfull := hstuck.full
    unfold Port.removeHandler
    by_cases hk : k = h
    · subst hk
      split
      · split <;> simpa [Port.setHandler, Port.delete] using hfull
      · exact hfull
    · split
      · split <;> simpa [Port.setHandler, Port.delete, hk] using hfull
      · exact hfull
  | timerFail h =>
    refine hstuck.moved hvalid ?_
    unfold Port.timerFail
    split
    · cases hput : s.port.fail h with
      | none => exact hstuck.full
      | some =>
        have hfull := full_put hput hstuck.full
        by_cases hk : k = h
        · subst hk
          simpa [Port.setHandler] using hfull
        · simpa [Port.setHandler, hk] using hfull
    · exact hstuck.full

theorem forever (rest : List Action) : Stuck (run Znp.step s rest) t k networkAddress := by
  have hstep : ∀ (s : State) (a : Action), Stuck s t k networkAddress →
      Stuck (Znp.step s a) t k networkAddress := fun _ a h => h.step a
  exact run_invariant hstep hstuck rest

end Stuck

/-- The first attempt's request and handler time out.  The second is answered, without
endpoints. -/
def unansweredRequest : List Action :=
  [.interview 0 0x1234, .advance 0, .advance 0, .advance 0, .expire 1, .timerFail 1, .expire 0,
    .timerFail 0, .advance 0,
    .advance 0, .advance 0, .advance 0, .frame (.response Query.nodeDescriptor.request), .fulfill,
    .advance 0, .frame (.nodeDescriptor ⟨0, 0x1234, ⟨2, 0x80, 0x115f⟩⟩), .fulfill, .advance 0,
    .advance 0, .advance 0, .advance 0, .frame (.response Query.activeEP.request), .fulfill,
    .advance 0, .frame (.activeEP ⟨0, 0x1234, [], by decide⟩), .fulfill, .advance 0,
    .advance 0, .advance 0]

theorem unansweredRequest_orderly : Along step Orderly {} unansweredRequest := by
  unfold unansweredRequest
  simp only [Along, Orderly, true_and, and_true]
  -- what is left: the call of `InterviewDevice`, and fifteen times that it goes on
  refine ⟨?_, ?_, ?_, ?_, ?_, ?_, ?_, ?_, ?_, ?_, ?_, ?_, ?_, ?_, ?_, ?_⟩
  · intro t call h
    cases h
  all_goals decide

/-- The interview does not return, whatever comes, and its device's flag stays set. -/
theorem interview_stuck : Along step Orderly {} unansweredRequest ∧ ∀ rest,
    (run step (run step {} unansweredRequest) rest).threads 0 ≠ none ∧
      (run step (run step {} unansweredRequest) rest).Interviewing 0x1234 := by
  have hinv : Inv (run step {} unansweredRequest) :=
    invariant_of_along (fun _ _ hinv horderly => hinv.step horderly) inv_init
      unansweredRequest_orderly
  have hcall : ∃ i, (run step {} unansweredRequest).threads 0 = some (.interview i) ∧
      i.networkAddress = 0x1234 ∧ i.pc = .returning ∧ i.deferred = [0] :=
    ⟨_, rfl, rfl, rfl, rfl⟩
  have hstuck : Stuck (run step {} unansweredRequest) 0 0 0x1234 := by
    obtain ⟨i, hi, haddress, hpc, hdeferred⟩ := hcall
    refine ⟨hinv.valid, ⟨i, [], hi, haddress, hpc, hdeferred⟩, by decide, ?_⟩
    intro u call hu x hx hzero
    have hheader : x.2 = Query.nodeDescriptor.indication := by
      rw [← hinv.headed u call hu x hx, hzero]
      rfl
    cases hkind : call.isSend with
    | true =>
      -- the handler is not for the answer to a `Send`
      have hsend := (holds_header hx).mpr hkind
      rw [hheader] at hsend
      exact indication_ne_response _ _ hsend
    | false =>
      -- and this is the only interview
      obtain rfl := hinv.alone u 0 call _ hu hi hkind
      rw [hi] at hu
      cases hu
      simp [Call.holds, hpc] at hx
  refine ⟨unansweredRequest_orderly, fun rest => ?_⟩
  obtain ⟨i, _, hi, haddress, -⟩ := (hstuck.forever rest).sending
  refine ⟨?_, 0, i, hi, haddress⟩
  rw [hi]
  exact Option.some_ne_none _

end IotController.Znp
