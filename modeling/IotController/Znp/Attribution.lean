/-
  Whose responses an interview takes (`InterviewDevice` in
  `pkg/zigbee-dongle/znp/interview.go`, `handleFrame` in `port.go`).

  The loop gives a frame to whoever is registered under its header, and the interview takes
  what it is given: it compares neither the node that a response is about nor the endpoint
  with what it asked for.
-/
import IotController.Dongle.Attribution
import IotController.Znp.Interview

namespace IotController.Znp

open Foundation Dongle

/-! ## What an interview has taken -/

def Command.reply : Command → Option Response
  | response _ => none
  | nodeDescriptor d =>
    if d.status = 0 then some (.nodeDescriptor ⟨d.nwkAddr, d.descriptor⟩) else none
  | activeEP l => if l.status = 0 then some (.activeEP ⟨l.nwkAddr, l.activeEPs⟩) else none
  | simpleDescriptor d =>
    if d.status = 0 then some (.simpleDescriptor ⟨d.nwkAddr, d.endpointInfo⟩) else none

def Stage.endpoints : Stage → List Byte
  | simpleDescriptor endpoint rest => endpoint :: rest
  | nodeDescriptor _ | activeEndpoints _ => []

namespace Interview

def record (i : Interview) : Record where
  networkAddress := i.networkAddress
  descriptor := i.descriptor.map fun d => ⟨d.nwkAddr, d.descriptor⟩
  listed := i.listed.map fun l => ⟨l.nwkAddr, l.activeEPs⟩
  described := i.described.map fun x => (x.1, ⟨x.2.nwkAddr, x.2.endpointInfo⟩)

theorem record_info (i : Interview) : i.record.info = i.info := by
  have hdescriptor : (i.record.descriptor.map Reply.value) =
      i.descriptor.map ZdoNodeDescriptor.descriptor := by
    cases h : i.descriptor <;> simp [record, h]
  have hdescribed : (i.record.described.map fun x => x.2.value) =
      i.described.map fun e => e.2.endpointInfo := by
    simp [record]
  rw [Record.info, hdescriptor, hdescribed]
  rfl

def current (i : Interview) : Option Nat :=
  match i.pc with
  | .request h _ | .await h => some h
  | .register | .returning => none

def asked (i : Interview) : Option Byte :=
  match i.stage with
  | .simpleDescriptor endpoint _ => some endpoint
  | .nodeDescriptor _ | .activeEndpoints _ => none

def remaining (i : Interview) : List Byte :=
  if i.pc = .returning then [] else i.stage.endpoints

/-- What the interview has taken is attributed, and endpoints are described only after
they were listed. -/
structure Sound (heard : Response → Prop) (i : Interview) : Prop where
  findings : Findings heard i.record i.remaining
  begun : i.asked = none → i.described = []

variable {heard : Response → Prop} {i i' : Interview}

theorem sound_init (networkAddress : UInt16) : Sound heard { networkAddress } where
  findings := findings_init networkAddress
  begun _ := rfl

theorem Sound.pc (h : i.Sound heard) {pc : Pc} (hpc : i.pc ≠ .returning) :
    Sound heard { i with pc } where
  findings := by
    refine h.findings.skip ?_
    rw [remaining, remaining, if_neg hpc]
    split
    · exact List.nil_sublist _
    · exact List.Sublist.refl _
  begun := h.begun

theorem Sound.ended (h : i.Sound heard) (k : Nat) : (i.ended k).Sound heard :=
  ⟨h.findings, h.begun⟩

theorem sound_nextEndpoint {rest : List Byte} (hfindings : Findings heard i.record rest)
    (hbegun : i.asked = none → i.described = []) : (i.nextEndpoint rest).Sound heard := by
  cases rest with
  | nil => exact ⟨hfindings, hbegun⟩
  | cons => exact ⟨hfindings, fun h => nomatch h⟩

theorem Sound.retry (h : i.Sound heard) (hpc : i.pc ≠ .returning) : i.retry.Sound heard := by
  have hfindings := h.findings
  rw [remaining, if_neg hpc] at hfindings
  unfold Interview.retry
  cases hstage : i.stage with
  | nodeDescriptor | activeEndpoints =>
    rw [hstage] at hfindings
    have hbegun := h.begun (by simp [asked, hstage])
    dsimp only
    split
    · exact ⟨hfindings, fun _ => hbegun⟩
    · exact ⟨hfindings, fun _ => hbegun⟩
  | simpleDescriptor =>
    rw [hstage] at hfindings
    exact sound_nextEndpoint (hfindings.skip (List.sublist_cons_self _ _)) h.begun

theorem Sound.take (h : i.Sound heard) (hpc : i.pc ≠ .returning) {c : Command}
    (hc : ∀ r ∈ c.reply, r.Answers i.networkAddress i.asked ∧ heard r)
    (htake : i.take c = some i') : i'.Sound heard := by
  have hfindings := h.findings
  rw [remaining, if_neg hpc] at hfindings
  unfold Interview.take at htake
  split at htake
  · rename_i attempt d hstage
    rw [hstage] at hfindings
    split at htake
    · cases htake
      exact h.retry hpc
    · rename_i hstatus
      cases htake
      have hreply : (Command.nodeDescriptor d).reply =
          some (.nodeDescriptor ⟨d.nwkAddr, d.descriptor⟩) := if_pos (not_not.mp hstatus)
      obtain ⟨hanswers, hheard⟩ := hc _ hreply
      exact ⟨hfindings.takeDescriptor hanswers.node hheard,
        fun _ => h.begun (by simp [asked, hstage])⟩
  · rename_i attempt l hstage
    rw [hstage] at hfindings
    split at htake
    · cases htake
      exact h.retry hpc
    · rename_i hstatus
      cases htake
      have hreply : (Command.activeEP l).reply = some (.activeEP ⟨l.nwkAddr, l.activeEPs⟩) :=
        if_pos (not_not.mp hstatus)
      obtain ⟨hanswers, hheard⟩ := hc _ hreply
      have hfirst : i.described = [] := h.begun (by simp [asked, hstage])
      refine sound_nextEndpoint ?_ fun _ => hfirst
      exact hfindings.takeList hanswers.node hheard (by simp [record, hfirst])
  · rename_i endpoint rest d hstage
    rw [hstage] at hfindings
    split at htake
    · cases htake
      exact h.retry hpc
    · rename_i hstatus
      cases htake
      have hreply : (Command.simpleDescriptor d).reply =
          some (.simpleDescriptor ⟨d.nwkAddr, d.endpointInfo⟩) := if_pos (not_not.mp hstatus)
      obtain ⟨hanswers, hheard⟩ := hc _ hreply
      have hid := hanswers.endpoint _ rfl endpoint (by simp [asked, hstage])
      refine sound_nextEndpoint ?_ (by simp [asked, hstage])
      have hfindings' := hfindings.takeEndpoint rfl hanswers.node hheard hid
      simpa [record] using hfindings'
  · cases htake

theorem current_nextEndpoint (i : Interview) (rest : List Byte) :
    (i.nextEndpoint rest).current = none := by
  cases rest <;> rfl

theorem current_retry (i : Interview) : i.retry.current = none := by
  unfold Interview.retry
  split
  · split <;> rfl
  · split <;> rfl
  · exact current_nextEndpoint i _

theorem current_take {c : Command} (h : i.take c = some i') : i'.current = none := by
  unfold Interview.take at h
  split at h
  · split at h
    · cases h
      exact current_retry i
    · cases h
      rfl
  · split at h
    · cases h
      exact current_retry i
    · cases h
      exact current_nextEndpoint _ _
  · split at h
    · cases h
      exact current_retry i
    · cases h
      exact current_nextEndpoint _ _
  · cases h

end Interview

/-! ## What is given to a handler -/

/-- The frame is in the handler's slot or with the loop. -/
def Port.Delivers (p : Port) (k : Nat) (c : Command) : Prop :=
  some c ∈ (p.handler k).results.buffer ∨ p.reader = some (k, c)

section Delivers

variable {p p' : Port} {k : Nat} {c : Command}

theorem delivers_setHandler {h : Nat} {x : Handler}
    (hx : ∀ c, some c ∈ x.results.buffer → some c ∈ (p.handler h).results.buffer)
    (hd : (p.setHandler h x).Delivers k c) : p.Delivers k c := by
  rcases hd with hbuffer | hreader
  · by_cases hk : k = h
    · subst hk
      exact Or.inl (hx c (by simpa [Port.setHandler] using hbuffer))
    · exact Or.inl (by simpa [Port.setHandler, hk] using hbuffer)
  · exact Or.inr hreader

theorem delivers_timer {h : Nat} {timer : Timer}
    (hd : (p.setHandler h { p.handler h with timer }).Delivers k c) : p.Delivers k c :=
  delivers_setHandler (x := { p.handler h with timer }) (fun _ hc => hc) hd

theorem delivers_fail {h : Nat} (hput : p.fail h = some p') (hd : p'.Delivers k c) :
    p.Delivers k c := by
  obtain ⟨-, results, hbuffer, rfl⟩ := put_eq_some hput
  refine delivers_setHandler (fun c hc => ?_) hd
  simp [hbuffer] at hc

theorem delivers_receive {h : Nat} {result : HandlerResult}
    (hget : p.receive h = some (result, p')) (hd : p'.Delivers k c) : p.Delivers k c := by
  obtain ⟨-, results, hbuffer, rfl⟩ := receive_eq_some hget
  refine delivers_setHandler (fun c hc => ?_) hd
  simp [hbuffer] at hc

theorem delivers_registerHandler {header : FrameHeader}
    (h : p.registerHandler header = some p') (hk : k < p.next) (hd : p'.Delivers k c) :
    p.Delivers k c := by
  obtain ⟨-, rfl⟩ := registerHandler_eq_some h
  rcases hd with hbuffer | hreader
  · exact Or.inl (by simpa [Nat.ne_of_lt hk] using hbuffer)
  · exact Or.inr hreader

theorem not_delivers_registerHandler (hv : p.Valid) {header : FrameHeader}
    (h : p.registerHandler header = some p') : ¬ p'.Delivers p.next c := by
  obtain ⟨-, rfl⟩ := registerHandler_eq_some h
  rintro (hbuffer | hreader)
  · simp at hbuffer
  · exact Nat.lt_irrefl _ (hv.reader p.next c hreader).1

theorem delivers_removeHandler {h : Nat} (hd : (p.removeHandler h).Delivers k c) :
    p.Delivers k c := by
  unfold Port.removeHandler at hd
  split at hd
  · split at hd
    · have hset : (p.setHandler h { p.handler h with timer := .failing }).Delivers k c := hd
      exact delivers_timer hset
    · exact delivers_timer hd
  · exact hd

theorem delivers_timerFail {h : Nat} (hd : (p.timerFail h).Delivers k c) : p.Delivers k c := by
  unfold Port.timerFail at hd
  split at hd
  · cases hfail : p.fail h with
    | none =>
      rw [hfail] at hd
      exact hd
    | some =>
      rw [hfail] at hd
      exact delivers_fail hfail (delivers_timer hd)
  · exact hd

theorem delivers_fulfill (hd : p.fulfill.Delivers k c) : p.Delivers k c := by
  unfold Port.fulfill at hd
  split at hd
  · exact hd
  · rename_i h command hreader
    cases hput : p.put h (some command) with
    | none =>
      rw [hput] at hd
      exact hd
    | some =>
      rw [hput] at hd
      obtain ⟨-, results, hbuffer, rfl⟩ := put_eq_some hput
      rcases hd with hd | hd
      · by_cases hk : k = h
        · subst hk
          simp only [Port.setHandler, Function.update_self, hbuffer, List.mem_singleton,
            Option.some.injEq] at hd
          subst hd
          exact Or.inr hreader
        · exact Or.inl (by simpa [Port.setHandler, hk] using hd)
      · cases hd

theorem delivers_handleFrame {command : Command} (hd : (p.handleFrame command).Delivers k c) :
    p.Delivers k c ∨ c = command ∧ p.reader = none ∧ p.handlers command.header = some k := by
  unfold Port.handleFrame at hd
  split at hd
  · rename_i h hreader hreg
    rcases hd with hd | hd
    · exact Or.inl (Or.inl hd)
    · cases hd
      exact Or.inr ⟨rfl, hreader, hreg⟩
  · exact Or.inl hd

end Delivers

/-! ## Responses to the requests of an interview -/

/-- A frame given to the handler of an interview's attempt answers what it asked. -/
def Addressed (s : State) : Action → Prop
  | .frame c => s.port.reader = none → ∀ t i k, s.threads t = some (.interview i) →
      i.current = some k → s.port.handlers c.header = some k →
      ∀ r ∈ c.reply, r.Answers i.networkAddress i.asked
  | _ => True

/-- What an attempt's handler is given answers what was asked; what was returned is attributed. -/
structure Attributing (heard : Response → Prop) (s : State) : Prop where
  valid : s.Valid
  sound : ∀ t i, s.threads t = some (.interview i) → i.Sound heard
  given : ∀ t i k, s.threads t = some (.interview i) → i.current = some k →
    ∀ c, s.port.Delivers k c → ∀ r ∈ c.reply, r.Answers i.networkAddress i.asked ∧ heard r
  returned : ∀ i ∈ s.returned, Attributed heard i.record

theorem attributing_init (heard : Response → Prop) : Attributing heard {} where
  valid := State.valid_init
  sound := by simp
  given := by simp
  returned := by simp

theorem current_lt {s : State} (hv : s.Valid) {t k : Nat} {i : Interview}
    (hcall : s.threads t = some (.interview i)) (hk : i.current = some k) : k < s.port.next := by
  refine hv.known t _ hcall k ?_
  unfold Interview.current at hk
  split at hk
  · rename_i h r hpc
    cases hk
    simp [Call.handlers, Call.holds, hpc]
  · rename_i h hpc
    cases hk
    simp [Call.handlers, Call.holds, hpc]
  · cases hk
  · cases hk

namespace Attributing

variable {heard : Response → Prop} {s : State} (hinv : Attributing heard s)
include hinv

theorem moved {port : Port} (hvalid : State.Valid { s with port })
    (hgiven : ∀ t i k, s.threads t = some (.interview i) → i.current = some k →
      ∀ c, port.Delivers k c → s.port.Delivers k c ∨
        ∀ r ∈ c.reply, r.Answers i.networkAddress i.asked ∧ heard r) :
    Attributing heard { s with port } where
  valid := hvalid
  sound := hinv.sound
  given t i k hcall hk c hc := by
    rcases hgiven t i k hcall hk c hc with hc | hanswers
    · exact hinv.given t i k hcall hk c hc
    · exact hanswers
  returned := hinv.returned

theorem goesOn {p : Port} {t : Nat} {c : Option Call}
    (hvalid : State.Valid ({ s with port := p }.become t c))
    (hport : ∀ k, k < s.port.next → ∀ c, p.Delivers k c → s.port.Delivers k c)
    (hown : ∀ i', c = some (.interview i') → i'.Sound heard ∧ ∀ k, i'.current = some k →
      (∀ c, ¬ p.Delivers k c) ∨ ∃ i, s.threads t = some (.interview i) ∧
        i.current = some k ∧ i.networkAddress = i'.networkAddress ∧ i.asked = i'.asked) :
    Attributing heard ({ s with port := p }.become t c) where
  valid := hvalid
  sound u i hu := by
    rcases become_threads_cases hu with ⟨rfl, hself⟩ | ⟨hne, hu⟩
    · exact (hown i hself).1
    · exact hinv.sound u i hu
  given u i k hu hk command hcommand := by
    rcases become_threads_cases hu with ⟨rfl, hself⟩ | ⟨hne, hu⟩
    · rcases (hown i hself).2 k hk with hnone | ⟨i₀, hi₀, hk₀, haddress, hasked⟩
      · exact absurd hcommand (hnone command)
      · rw [← haddress, ← hasked]
        exact hinv.given u i₀ k hi₀ hk₀ command
          (hport k (current_lt hinv.valid hi₀ hk₀) command hcommand)
    · exact hinv.given u i k hu hk command (hport k (current_lt hinv.valid hu hk) command hcommand)
  returned := hinv.returned

theorem performed {s' : State} {t : Nat} {call : Call} (hcall : s.threads t = some call)
    (h : Performed s t call s') : Attributing heard s' := by
  have hvalid := hinv.valid.performed hcall h
  -- an interview between two attempts
  have hbetween : ∀ (port : Port) (i' : Interview), i'.Sound heard → i'.current = none →
      i'.Sound heard ∧ ∀ k, i'.current = some k → (∀ c, ¬ port.Delivers k c) ∨
        ∃ i, s.threads t = some (.interview i) ∧ i.current = some k ∧
          i.networkAddress = i'.networkAddress ∧ i.asked = i'.asked := by
    intro port i' hsound hnone
    refine ⟨hsound, fun k hk => ?_⟩
    rw [hnone] at hk
    cases hk
  cases h with
  | waits => exact hinv
  | clashes => exact ⟨hvalid, hinv.sound, hinv.given, hinv.returned⟩
  | confused _ hport =>
    refine ⟨hvalid, hinv.sound, ?_, hinv.returned⟩
    intro u i k hu hk c hc
    exact hinv.given u i k hu hk c (delivers_receive hport hc)
  | registers hnext hport =>
    refine hinv.goesOn hvalid (fun k hk c => delivers_registerHandler hport hk) ?_
    rintro i' hi'
    have hkind := (next_register hnext s.port.next).1
    rw [Option.some.inj hi'] at hkind
    obtain ⟨i, rfl⟩ := exists_interview hkind.symm
    have hsound := hinv.sound t i hcall
    rcases Interview.inv_register hnext with ⟨hpc, rfl⟩ | ⟨h, hpc, rfl⟩
    · cases hi'
      refine ⟨hsound.pc (by simp [hpc]), fun k hk => Or.inl fun c => ?_⟩
      cases hk
      exact not_delivers_registerHandler hinv.valid.port hport
    · cases hi'
      refine ⟨hsound.pc (by simp [hpc]), fun k hk => Or.inr ⟨i, hcall, ?_, rfl, rfl⟩⟩
      rw [← hk]
      simp [Interview.current, hpc]
  | writes hnext =>
    refine hinv.goesOn (p := s.port) hvalid (fun k _ c hc => hc) ?_
    rintro i' hi'
    have hkind := (next_write hnext).1.1
    rw [Option.some.inj hi'] at hkind
    obtain ⟨i, rfl⟩ := exists_interview hkind.symm
    obtain ⟨h, k, hpc, rfl, -⟩ := Interview.inv_write hnext
    cases hi'
    refine ⟨(hinv.sound t i hcall).pc (by simp [hpc]), fun k hk => Or.inr ⟨i, hcall, ?_, rfl, rfl⟩⟩
    rw [← hk]
    simp [Interview.current, hpc]
  | fails hnext hport =>
    refine hinv.goesOn hvalid (fun k _ c => delivers_fail hport) ?_
    rintro i' rfl
    obtain ⟨_, _, hgoOn⟩ := next_fail hnext
    obtain ⟨i, rfl⟩ := exists_interview (hgoOn _ rfl).1.symm
    have hsound := hinv.sound t i hcall
    rcases Interview.inv_fail hnext with ⟨h, hpc, hi'⟩ | ⟨rest, hpc, -, hi'⟩
    · cases hi'
      refine hbetween _ _ ?_ (Interview.current_retry _)
      exact (hsound.ended h).retry (by simp [Interview.ended, hpc])
    · cases hi'
      refine hbetween _ _ ⟨hsound.findings, hsound.begun⟩ ?_
      simp [Interview.current, hpc]
  | @receives k _ _ _ c hnext hport hgoOn =>
    refine hinv.goesOn hvalid (fun k _ c => delivers_receive hport) ?_
    rintro i' rfl
    obtain ⟨_, _, _, _, hreceived⟩ := next_receive hnext
    obtain ⟨i, rfl⟩ := exists_interview (hreceived _ _ hgoOn).1.symm
    have hsound := hinv.sound t i hcall
    obtain ⟨i'', hi'', hcases⟩ := Interview.inv_receive hnext hgoOn
    cases hi''
    rcases hcases with ⟨h, hpc, rfl⟩ | ⟨h, hpc, rfl⟩ | ⟨command, rfl, hpc, htake⟩
    · refine ⟨hsound.pc (by simp [hpc]), fun k hk => Or.inr ⟨i, hcall, ?_, rfl, rfl⟩⟩
      rw [← hk]
      simp [Interview.current, hpc]
    · refine hbetween _ _ ?_ (Interview.current_retry _)
      refine (hsound.ended h).retry ?_
      rcases hpc with hpc | hpc <;> simp [Interview.ended, hpc]
    · refine hbetween _ _ ?_ (Interview.current_take htake)
      -- what is taken was given to the handler of the attempt
      refine (hsound.ended k).take (by simp [Interview.ended, hpc]) ?_ htake
      refine hinv.given t i k hcall (by simp [Interview.current, hpc]) command (Or.inl ?_)
      rw [(receive_eq_some hport).1]
      exact List.mem_singleton.mpr rfl
  | @finishes _ hnext =>
    obtain ⟨rfl, -, -⟩ := next_finish hnext
    have hgone := hinv.goesOn (p := s.port) (t := t) (c := none)
      ⟨hvalid.port, hvalid.known⟩ (fun k _ c hc => hc) (by simp)
    refine ⟨hvalid, hgone.sound, hgone.given, ?_⟩
    intro i' hi'
    rcases List.mem_append.mp hi' with hi' | hi'
    · exact hinv.returned i' hi'
    · rw [List.mem_singleton] at hi'
      subst hi'
      exact (hinv.sound t i' hcall).findings.attributed

theorem step {a : Action} (haddressed : Addressed s a)
    (hheard : ∀ c, a = .frame c → ∀ r ∈ c.reply, heard r) : Attributing heard (step s a) := by
  have hvalid := hinv.valid.step a
  have h := stepped s a
  generalize Znp.step s a = s' at h hvalid ⊢
  cases h with
  | idle => exact hinv
  | @calls _ t c _ hc =>
    refine hinv.goesOn (p := s.port) hvalid (fun k _ c hc => hc) ?_
    intro i' hi'
    cases hc with
    | send => cases hi'
    | interview _ networkAddress =>
      cases hi'
      exact ⟨Interview.sound_init networkAddress, fun k hk => nomatch hk⟩
  | performs hcall h => exact hinv.performed hcall h
  | @fails t _ header _ _ hcall hnext =>
    refine hinv.goesOn (p := s.port.delete header) hvalid (fun k _ c hc => hc) ?_
    intro i' hi'
    have hkind := (next_write hnext).2.1
    rw [Option.some.inj hi'] at hkind
    obtain ⟨i, rfl⟩ := exists_interview hkind.symm
    obtain ⟨h, k, hpc, -, rfl⟩ := Interview.inv_write hnext
    cases hi'
    refine ⟨(hinv.sound t i hcall).pc (by simp [hpc]), fun k hk => Or.inr ⟨i, hcall, ?_, rfl, rfl⟩⟩
    rw [← hk]
    simp [Interview.current, hpc]
  | frame =>
    refine hinv.moved hvalid ?_
    intro t i k hcall hk c' hc'
    rcases delivers_handleFrame hc' with hc' | ⟨rfl, hreader, hreg⟩
    · exact Or.inl hc'
    · refine Or.inr fun r hr => ?_
      exact ⟨haddressed hreader t i k hcall hk hreg r hr, hheard c' rfl r hr⟩
  | fulfill => exact hinv.moved hvalid fun _ _ _ _ _ _ hc => Or.inl (delivers_fulfill hc)
  | expire => exact hinv.moved hvalid fun _ _ _ _ _ _ hc => Or.inl (delivers_removeHandler hc)
  | timerFail => exact hinv.moved hvalid fun _ _ _ _ _ _ hc => Or.inl (delivers_timerFail hc)

end Attributing

/-- A frame brought the response. -/
def Heard (actions : List Action) (r : Response) : Prop :=
  ∃ c, Action.frame c ∈ actions ∧ r ∈ c.reply

theorem attributing_run {actions : List Action} (h : Along step Addressed {} actions) :
    Attributing (Heard actions) (run step {} actions) := by
  have hstep : ∀ (s : State) (a : Action), Attributing (Heard actions) s →
      (Addressed s a ∧ a ∈ actions) → Attributing (Heard actions) (step s a) := by
    rintro s a hinv ⟨haddressed, hmem⟩
    refine hinv.step haddressed ?_
    rintro c rfl r hr
    exact ⟨c, hmem, hr⟩
  exact invariant_of_along hstep (attributing_init _) h.and_mem

end IotController.Znp
