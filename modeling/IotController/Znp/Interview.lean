/-
  The calls that wait for frames (`WriteCommandTimeout` in
  `pkg/zigbee-dongle/znp/port.go`, `Send` in `controller.go`, `InterviewDevice` in
  `interview.go`).

  `Send` makes one synchronous request.  `InterviewDevice` goes through attempts: each
  registers a handler for the answer of the device, makes a synchronous request and, if that
  was answered, waits for the device.  An attempt that fails is followed by the next; the
  handlers of all attempts get a last `fail` when the interview returns.

  Each call runs on a thread of its own, and so do the loop and every timer.
-/
import IotController.Foundation.Run
import IotController.Znp.Port

namespace IotController.Znp

open Foundation Dongle

/-! ## Calls -/

/-- Where a synchronous request stands. -/
inductive Request where
  | start
  | registered (h : Nat)
  /-- the write failed and the entry is deleted; its `fail` is to come -/
  | failing (h : Nat)
  | receiving (h : Nat)
  deriving DecidableEq, Repr

/-- What an interview asks for. -/
inductive Stage where
  | nodeDescriptor (attempt : Nat)
  | activeEndpoints (attempt : Nat)
  | simpleDescriptor (endpoint : Byte) (rest : List Byte)
  deriving DecidableEq, Repr

def Stage.query : Stage → Query
  | nodeDescriptor _ => .nodeDescriptor
  | activeEndpoints _ => .activeEP
  | simpleDescriptor _ _ => .simpleDescriptor

/-- Where an attempt stands. -/
inductive Pc where
  | register
  | request (h : Nat) (r : Request)
  | await (h : Nat)
  | returning
  deriving DecidableEq, Repr

/-- An interview.  What it finds out is kept as the responses that it took it from. -/
structure Interview where
  networkAddress : UInt16
  stage : Stage := .nodeDescriptor 0
  pc : Pc := .register
  /-- the handlers of earlier attempts, whose `fail` is deferred, the latest first -/
  deferred : List Nat := []
  descriptor : Option ZdoNodeDescriptor := none
  listed : Option ZdoActiveEP := none
  /-- the endpoints that were asked for, with what was taken for each -/
  described : List (Byte × ZdoSimpleDescriptor) := []
  deriving DecidableEq, Repr

def ZdoSimpleDescriptor.endpointInfo (d : ZdoSimpleDescriptor) : EndpointInfo where
  id := d.endpoint.toUInt32
  profileID := d.appProfileID.toUInt32
  deviceID := d.appDeviceID.toUInt32
  deviceVersion := d.appDeviceVer.toUInt32
  inputClusters := d.inClusters
  outputClusters := d.outClusters

def Interview.info (i : Interview) : DeviceInterviewInfo :=
  interviewInfo i.networkAddress (i.descriptor.map ZdoNodeDescriptor.descriptor)
    (i.described.map fun e => e.2.endpointInfo)

namespace Interview

def goto (i : Interview) (stage : Stage) : Interview := { i with stage, pc := .register }

def finish (i : Interview) : Interview := { i with pc := .returning }

def nextEndpoint (i : Interview) : List Byte → Interview
  | [] => i.finish
  | endpoint :: rest => i.goto (.simpleDescriptor endpoint rest)

def retry (i : Interview) : Interview :=
  match i.stage with
  | .nodeDescriptor attempt =>
    if attempt + 1 < 6 then i.goto (.nodeDescriptor (attempt + 1))
    else i.goto (.activeEndpoints 0)
  | .activeEndpoints attempt =>
    if attempt + 1 < 2 then i.goto (.activeEndpoints (attempt + 1)) else i.finish
  | .simpleDescriptor _ rest => i.nextEndpoint rest

/-- What is done with the answer of the device; `none` is a type assertion that fails. -/
def take (i : Interview) (c : Command) : Option Interview :=
  match i.stage, c with
  | .nodeDescriptor _, .nodeDescriptor d =>
    if d.status ≠ 0 then some i.retry
    else some ({ i with descriptor := some d }.goto (.activeEndpoints 0))
  | .activeEndpoints _, .activeEP l =>
    if l.status ≠ 0 then some i.retry
    else some ({ i with listed := some l }.nextEndpoint l.activeEPs)
  | .simpleDescriptor endpoint rest, .simpleDescriptor d =>
    if d.status ≠ 0 then some i.retry
    else some ({ i with described := i.described ++ [(endpoint, d)] }.nextEndpoint rest)
  | _, _ => none

def ended (i : Interview) (h : Nat) : Interview := { i with deferred := h :: i.deferred }

end Interview

/-- A call that uses the port. -/
inductive Call where
  | send (r : Request)
  | interview (i : Interview)
  deriving DecidableEq, Repr

def Call.isSend : Call → Bool
  | send _ => true
  | interview _ => false

theorem exists_interview {call : Call} (h : call.isSend = false) : ∃ i, call = .interview i := by
  match call, h with
  | .interview i, _ => exact ⟨i, rfl⟩

/-- The next access to the port. -/
inductive Next where
  | register (header : FrameHeader) (goOn : Nat → Call)
  /-- `writeFrame`; when it fails the entry of `header` is deleted -/
  | write (header : FrameHeader) (wrote failed : Call)
  /-- `fail`; `none` for a call that then returns -/
  | fail (h : Nat) (goOn : Option Call)
  /-- `Receive`; `none` for a panic -/
  | receive (h : Nat) (goOn : HandlerResult → Option (Option Call))
  | finish (i : Interview)

/-- `WriteCommandTimeout` for a synchronous request, inside a call. -/
def Request.next (header : FrameHeader) (inside : Request → Call) (done : Bool → Option Call) :
    Request → Next
  | start => .register header.response fun h => inside (.registered h)
  | registered h => .write header.response (inside (.receiving h)) (inside (.failing h))
  | failing h => .fail h (done false)
  | receiving h => .receive h fun result => some (done result.isSome)

/-- The next access of an interview to the port. -/
def Interview.next (i : Interview) : Next :=
  match i.pc with
  | .register =>
    .register i.stage.query.indication fun h => .interview { i with pc := .request h .start }
  | .request h r =>
    r.next i.stage.query.request (fun r => .interview { i with pc := .request h r }) fun ok =>
      some (.interview (if ok then { i with pc := .await h } else (i.ended h).retry))
  | .await h =>
    .receive h fun result =>
      match result with
      | none => some (some (.interview (i.ended h).retry))
      | some c => ((i.ended h).take c).map fun i => some (.interview i)
  | .returning =>
    match i.deferred with
    | h :: rest => .fail h (some (.interview { i with deferred := rest }))
    | [] => .finish i

def Call.next : Call → Next
  | send r => r.next afDataRequest send fun _ => none
  | interview i => i.next

/-! ## The system -/

/-- The port and the calls that use it. -/
structure State where
  port : Port := Port.init
  threads : Nat → Option Call := fun _ => none
  returned : List Interview := []
  panicked : Bool := false

def State.become (s : State) (t : Nat) (call : Option Call) : State :=
  { s with threads := Function.update s.threads t call }

@[simp] theorem become_port (s : State) (t : Nat) (call : Option Call) :
    (s.become t call).port = s.port := rfl

theorem become_threads_self (s : State) (t : Nat) (call : Option Call) :
    (s.become t call).threads t = call := by
  simp [State.become]

theorem become_threads_of_ne (s : State) {t u : Nat} (call : Option Call) (h : u ≠ t) :
    (s.become t call).threads u = s.threads u := by
  simp [State.become, h]

theorem become_threads_cases {s : State} {t u : Nat} {call : Option Call} {c : Call}
    (h : (s.become t call).threads u = some c) :
    (u = t ∧ call = some c) ∨ (u ≠ t ∧ s.threads u = some c) := by
  by_cases hu : u = t
  · subst hu
    rw [become_threads_self] at h
    exact Or.inl ⟨rfl, h⟩
  · rw [become_threads_of_ne _ _ hu] at h
    exact Or.inr ⟨hu, h⟩

/-- A call's access to the port. -/
def State.perform (s : State) (t : Nat) : Next → State
  | .register header goOn =>
    match s.port.registerHandler header with
    | none => { s with panicked := true }
    | some port => { s with port }.become t (some (goOn s.port.next))
  | .write _ wrote _ => s.become t (some wrote)
  | .fail h goOn =>
    match s.port.fail h with
    | none => s
    | some port => { s with port }.become t goOn
  | .receive h goOn =>
    match s.port.receive h with
    | none => s
    | some (result, port) =>
      match goOn result with
      | none => { s with port, panicked := true }
      | some call => { s with port }.become t call
  | .finish i => { s.become t none with returned := s.returned ++ [i] }

/-- A step of a call, the loop or a timer. -/
inductive Action where
  | send (t : Nat)
  | interview (t : Nat) (networkAddress : UInt16)
  | advance (t : Nat)
  | writeFails (t : Nat)
  | frame (c : Command)
  | fulfill
  | expire (h : Nat)
  | timerFail (h : Nat)
  deriving DecidableEq, Repr

def State.call (s : State) (t : Nat) (call : Call) : State :=
  match s.threads t with
  | none => s.become t (some call)
  | some _ => s

def State.writeFails (s : State) (t : Nat) : Next → State
  | .write header _ failed => { s with port := s.port.delete header }.become t (some failed)
  | _ => s

/-- One step of a call, the loop or a timer. -/
def step (s : State) (a : Action) : State :=
  if s.panicked then s
  else
    match a with
    | .send t => s.call t (.send .start)
    | .interview t networkAddress => s.call t (.interview { networkAddress })
    | .advance t => ((s.threads t).map fun call => s.perform t call.next).getD s
    | .writeFails t => ((s.threads t).map fun call => s.writeFails t call.next).getD s
    | .frame c => { s with port := s.port.handleFrame c }
    | .fulfill => { s with port := s.port.fulfill }
    | .expire h => { s with port := s.port.removeHandler h }
    | .timerFail h => { s with port := s.port.timerFail h }

/-! ## The handlers of a call -/

def Request.holds (header : FrameHeader) : Request → List (Nat × FrameHeader)
  | registered h | receiving h => [(h, header.response)]
  | start | failing _ => []

/-- The handler that a request has given up and is yet to send to. -/
def Request.released : Request → List Nat
  | failing h => [h]
  | start | registered _ | receiving _ => []

/-- The handlers that a call has registered and is to receive from. -/
def Call.holds : Call → List (Nat × FrameHeader)
  | send r => r.holds afDataRequest
  | interview i =>
    match i.pc with
    | .request h r => r.holds i.stage.query.request ++ [(h, i.stage.query.indication)]
    | .await h => [(h, i.stage.query.indication)]
    | .register | .returning => []

/-- The handlers that a call is only yet to send to. -/
def Call.released : Call → List Nat
  | send r => r.released
  | interview i =>
    match i.pc with
    | .request _ r => r.released ++ i.deferred
    | .register | .await _ | .returning => i.deferred

def Call.handlers (call : Call) : List Nat := call.holds.map Prod.fst ++ call.released

namespace Interview

theorem holds_retry (i : Interview) : (Call.interview i.retry).holds = [] := by
  unfold retry nextEndpoint
  repeat' split
  all_goals rfl

theorem released_retry (i : Interview) : (Call.interview i.retry).released = i.deferred := by
  unfold retry nextEndpoint
  repeat' split
  all_goals rfl

theorem handlers_nextEndpoint (i : Interview) (rest : List Byte) :
    (Call.interview (i.nextEndpoint rest)).holds = [] ∧
      (Call.interview (i.nextEndpoint rest)).released = i.deferred := by
  cases rest <;> exact ⟨rfl, rfl⟩

theorem handlers_take {i i' : Interview} {c : Command} (h : i.take c = some i') :
    (Call.interview i').holds = [] ∧ (Call.interview i').released = i.deferred := by
  unfold take at h
  split at h
  · split at h
    · cases h
      exact ⟨holds_retry i, released_retry i⟩
    · cases h
      exact ⟨rfl, rfl⟩
  · split at h
    · cases h
      exact ⟨holds_retry i, released_retry i⟩
    · cases h
      exact handlers_nextEndpoint _ _
  · split at h
    · cases h
      exact ⟨holds_retry i, released_retry i⟩
    · cases h
      exact handlers_nextEndpoint _ _
  · cases h

theorem header_ne_of_take {i : Interview} {c : Command} (h : i.take c = none) :
    c.header ≠ i.stage.query.indication := by
  unfold take at h
  intro heq
  cases hstage : i.stage with
  | nodeDescriptor =>
    cases c with
    | nodeDescriptor => simp only [hstage] at h; split at h <;> cases h
    | response | activeEP | simpleDescriptor =>
      simp [hstage, Stage.query, Command.header, Query.indication, FrameHeader.response] at heq
  | activeEndpoints =>
    cases c with
    | activeEP => simp only [hstage] at h; split at h <;> cases h
    | response | nodeDescriptor | simpleDescriptor =>
      simp [hstage, Stage.query, Command.header, Query.indication, FrameHeader.response] at heq
  | simpleDescriptor =>
    cases c with
    | simpleDescriptor => simp only [hstage] at h; split at h <;> cases h
    | response | nodeDescriptor | activeEP =>
      simp [hstage, Stage.query, Command.header, Query.indication, FrameHeader.response] at heq

end Interview

/-! ## What an interview does next -/

/-- **What an interview does next**, by its program counter. -/
inductive Interview.Does (i : Interview) : Next → Prop where
  | registers (hpc : i.pc = .register) :
      Does i (.register i.stage.query.indication fun k =>
        .interview { i with pc := .request k .start })
  | requests {h : Nat} (hpc : i.pc = .request h .start) :
      Does i (.register i.stage.query.request.response fun k =>
        .interview { i with pc := .request h (.registered k) })
  | writes {h k : Nat} (hpc : i.pc = .request h (.registered k)) :
      Does i (.write i.stage.query.request.response
        (.interview { i with pc := .request h (.receiving k) })
        (.interview { i with pc := .request h (.failing k) }))
  | gaveUp {h k : Nat} (hpc : i.pc = .request h (.failing k)) :
      Does i (.fail k (some (.interview (i.ended h).retry)))
  | waits {h k : Nat} (hpc : i.pc = .request h (.receiving k)) :
      Does i (.receive k fun result => some (some (.interview
        (if result.isSome then { i with pc := .await h } else (i.ended h).retry))))
  | awaits {h : Nat} (hpc : i.pc = .await h) :
      Does i (.receive h fun result =>
        match result with
        | none => some (some (.interview (i.ended h).retry))
        | some c => ((i.ended h).take c).map fun i => some (.interview i))
  | unwinds {h : Nat} {rest : List Nat} (hpc : i.pc = .returning)
      (hdeferred : i.deferred = h :: rest) :
      Does i (.fail h (some (.interview { i with deferred := rest })))
  | finishes (hpc : i.pc = .returning) (hdeferred : i.deferred = []) : Does i (.finish i)

namespace Interview

theorem does (i : Interview) : i.Does i.next := by
  unfold next
  split
  · exact .registers ‹_›
  · rename_i r hpc
    cases r with
    | start => exact .requests hpc
    | registered => exact .writes hpc
    | failing => exact .gaveUp hpc
    | receiving => exact .waits hpc
  · exact .awaits ‹_›
  · split
    · exact .unwinds ‹_› ‹_›
    · exact .finishes ‹_› ‹_›

variable {i : Interview}

theorem inv_register {header : FrameHeader} {goOn : Nat → Call}
    (h : i.next = .register header goOn) :
    (i.pc = .register ∧ goOn = fun k => .interview { i with pc := .request k .start }) ∨
      ∃ h, i.pc = .request h .start ∧
        goOn = fun k => .interview { i with pc := .request h (.registered k) } := by
  cases h ▸ i.does with
  | registers hpc => exact Or.inl ⟨hpc, rfl⟩
  | requests hpc => exact Or.inr ⟨_, hpc, rfl⟩

theorem inv_write {header : FrameHeader} {wrote failed : Call}
    (h : i.next = .write header wrote failed) :
    ∃ h k, i.pc = .request h (.registered k) ∧
      wrote = .interview { i with pc := .request h (.receiving k) } ∧
      failed = .interview { i with pc := .request h (.failing k) } := by
  cases h ▸ i.does with
  | writes hpc => exact ⟨_, _, hpc, rfl, rfl⟩

theorem inv_fail {k : Nat} {goOn : Option Call} (h : i.next = .fail k goOn) :
    (∃ h, i.pc = .request h (.failing k) ∧ goOn = some (.interview (i.ended h).retry)) ∨
      ∃ rest, i.pc = .returning ∧ i.deferred = k :: rest ∧
        goOn = some (.interview { i with deferred := rest }) := by
  cases h ▸ i.does with
  | gaveUp hpc => exact Or.inl ⟨_, hpc, rfl⟩
  | unwinds hpc hdeferred => exact Or.inr ⟨_, hpc, hdeferred, rfl⟩

/-- A receive: the request is answered, the attempt is over, or the device's answer is taken. -/
theorem inv_receive {k : Nat} {goOn : HandlerResult → Option (Option Call)}
    {result : HandlerResult} {c : Option Call} (h : i.next = .receive k goOn)
    (hgoOn : goOn result = some c) :
    ∃ i', c = some (.interview i') ∧
      ((∃ h, i.pc = .request h (.receiving k) ∧ i' = { i with pc := .await h }) ∨
        (∃ h, (i.pc = .request h (.receiving k) ∨ i.pc = .await h) ∧ i' = (i.ended h).retry) ∨
        ∃ command, result = some command ∧ i.pc = .await k ∧
          (i.ended k).take command = some i') := by
  cases h ▸ i.does with
  | waits hpc =>
    cases hgoOn
    cases result with
    | none => exact ⟨_, rfl, Or.inr (Or.inl ⟨_, Or.inl hpc, rfl⟩)⟩
    | some => exact ⟨_, rfl, Or.inl ⟨_, hpc, rfl⟩⟩
  | awaits hpc =>
    cases result with
    | none =>
      cases hgoOn
      exact ⟨_, rfl, Or.inr (Or.inl ⟨_, Or.inr hpc, rfl⟩)⟩
    | some command =>
      obtain ⟨i', htake, hi'⟩ := Option.map_eq_some_iff.mp hgoOn
      cases hi'
      exact ⟨i', rfl, Or.inr (Or.inr ⟨command, rfl, hpc, htake⟩)⟩

end Interview

/-! ## What the next step does with the handlers -/

section Next

variable {call : Call}

theorem next_register {header : FrameHeader} {goOn : Nat → Call}
    (h : call.next = .register header goOn) (k : Nat) :
    (goOn k).isSend = call.isSend ∧ (goOn k).holds = (k, header) :: call.holds ∧
      (goOn k).released = call.released := by
  match call with
  | .send .start => cases h; exact ⟨rfl, rfl, rfl⟩
  | .interview i =>
    cases (show i.next = _ from h) ▸ i.does with
    | registers hpc | requests hpc =>
      simp [Call.holds, Call.released, Call.isSend, Request.holds, Request.released, hpc]

theorem next_register_header {header : FrameHeader} {goOn : Nat → Call}
    (h : call.next = .register header goOn) :
    (∀ x ∈ call.holds, x.2 ≠ header) ∧ (header = afDataRequest.response ↔ call.isSend = true) := by
  match call with
  | .send .start => cases h; simp [Call.holds, Request.holds, Call.isSend]
  | .interview i =>
    cases (show i.next = _ from h) ▸ i.does with
    | registers hpc | requests hpc =>
      simp [Call.holds, Call.isSend, Request.holds, hpc, indication_ne_response, response_ne_af]

theorem holds_header {x : Nat × FrameHeader} (h : x ∈ call.holds) :
    x.2 = afDataRequest.response ↔ call.isSend = true := by
  match call with
  | .send r =>
    cases r <;> simp_all [Call.holds, Request.holds, Call.isSend]
  | .interview i =>
    simp only [Call.holds] at h
    split at h
    · rename_i k r hpc
      rcases List.mem_append.mp h with h | h
      · cases r <;> simp_all [Request.holds, Call.isSend, response_ne_af]
      · simp_all [Call.isSend, indication_ne_response]
    · simp_all [Call.isSend, indication_ne_response]
    · cases h
    · cases h

theorem next_write {header : FrameHeader} {wrote failed : Call}
    (h : call.next = .write header wrote failed) :
    (wrote.isSend = call.isSend ∧ wrote.holds = call.holds ∧ wrote.released = call.released) ∧
      failed.isSend = call.isSend ∧ ∃ k, call.holds = (k, header) :: failed.holds ∧
        failed.released = k :: call.released := by
  match call with
  | .send (.registered k) => cases h; exact ⟨⟨rfl, rfl, rfl⟩, rfl, k, rfl, rfl⟩
  | .interview i =>
    cases (show i.next = _ from h) ▸ i.does with
    | writes hpc =>
      simp [Call.holds, Call.released, Call.isSend, Request.holds, Request.released, hpc]

theorem next_fail {k : Nat} {goOn : Option Call} (h : call.next = .fail k goOn) :
    ∃ rest, call.released = k :: rest ∧ ∀ c ∈ goOn, c.isSend = call.isSend ∧
      c.holds = [] ∧ c.released = call.holds.map Prod.fst ++ rest := by
  match call with
  | .send (.failing k) => cases h; exact ⟨[], rfl, by simp⟩
  | .interview i =>
    cases (show i.next = _ from h) ▸ i.does with
    | gaveUp hpc =>
      refine ⟨i.deferred, by simp [Call.released, Request.released, hpc], ?_⟩
      rintro c ⟨⟩
      refine ⟨rfl, Interview.holds_retry _, ?_⟩
      simp [Interview.released_retry, Interview.ended, Call.holds, Request.holds, hpc]
    | @unwinds _ rest hpc hdeferred =>
      refine ⟨rest, by simp [Call.released, hpc, hdeferred], ?_⟩
      rintro c ⟨⟩
      simp [Call.holds, Call.released, Call.isSend, hpc]

theorem next_fail_holds {k : Nat} {goOn : Option Call} (h : call.next = .fail k goOn) :
    call.holds = [] ∨ ∃ i k', call = .interview i ∧ i.pc = .request k' (.failing k) ∧
      call.holds = [(k', i.stage.query.indication)] := by
  match call with
  | .send (.failing k) => exact Or.inl rfl
  | .interview i =>
    cases (show i.next = _ from h) ▸ i.does with
    | gaveUp hpc => exact Or.inr ⟨i, _, rfl, hpc, by simp [Call.holds, Request.holds, hpc]⟩
    | unwinds hpc => exact Or.inl (by simp [Call.holds, hpc])

inductive Received (call : Call) (others : List (Nat × FrameHeader)) (k : Nat) :
    HandlerResult → Call → Prop where
  | answered {result : HandlerResult} {c : Call} (hresult : result ≠ none)
      (hholds : c.holds = others) (hreleased : c.released = call.released) :
      Received call others k result c
  | timedOut {c : Call} {i : Interview} {h : Nat} (hcall : call = .interview i)
      (hpc : i.pc = .request h (.receiving k))
      (hothers : others = [(h, i.stage.query.indication)]) (hholds : c.holds = [])
      (hreleased : c.released = others.map Prod.fst ++ call.released) :
      Received call others k none c
  /-- the attempt's own handler was received from, and the attempt is over -/
  | ended {result : HandlerResult} {c : Call} (hothers : others = []) (hholds : c.holds = [])
      (hreleased : c.released = k :: call.released) : Received call others k result c

theorem next_receive {k : Nat} {goOn : HandlerResult → Option (Option Call)}
    (h : call.next = .receive k goOn) :
    ∃ header others, call.holds = (k, header) :: others ∧
      (∀ result, goOn result = some none → others = []) ∧
      ∀ result c, goOn result = some (some c) →
        c.isSend = call.isSend ∧ Received call others k result c := by
  match call with
  | .send (.receiving k) => cases h; exact ⟨afDataRequest.response, [], rfl, by simp, by simp⟩
  | .interview i =>
    cases (show i.next = _ from h) ▸ i.does with
    | @waits k' _ hpc =>
      refine ⟨i.stage.query.request.response, [(k', i.stage.query.indication)],
        by simp [Call.holds, Request.holds, hpc], by simp, ?_⟩
      rintro (_ | command) c hc
      · cases hc
        refine ⟨rfl, .timedOut rfl hpc rfl (Interview.holds_retry _) ?_⟩
        show (Call.interview (i.ended k').retry).released = _
        rw [Interview.released_retry]
        simp [Interview.ended, Call.released, Request.released, hpc]
      · cases hc
        refine ⟨rfl, .answered (by simp) (by simp [Call.holds]) ?_⟩
        simp [Call.released, Request.released, hpc]
    | awaits hpc =>
      refine ⟨i.stage.query.indication, [], by simp [Call.holds, hpc], by simp, ?_⟩
      have hreleased : (Call.interview i).released = i.deferred := by simp [Call.released, hpc]
      rintro (_ | command) c hc
      · cases hc
        refine ⟨rfl, .ended rfl (Interview.holds_retry _) ?_⟩
        rw [Interview.released_retry, hreleased, Interview.ended]
      · obtain ⟨i', htake, hi'⟩ := Option.map_eq_some_iff.mp hc
        cases hi'
        obtain ⟨hholds, hrest⟩ := Interview.handlers_take htake
        refine ⟨rfl, .ended rfl hholds ?_⟩
        rw [hrest, hreleased, Interview.ended]

theorem next_receive_none {k : Nat} {goOn : HandlerResult → Option (Option Call)}
    {result : HandlerResult} (h : call.next = .receive k goOn) (hnone : goOn result = none) :
    ∃ c header, result = some c ∧ (k, header) ∈ call.holds ∧ c.header ≠ header := by
  match call with
  | .send (.receiving k) => cases h; cases hnone
  | .interview i =>
    cases (show i.next = _ from h) ▸ i.does with
    | waits => cases hnone
    | awaits hpc =>
      match result, hnone with
      | some c, hnone =>
        have htake : (i.ended k).take c = none := by simpa using hnone
        have hkind : c.header ≠ (i.ended k).stage.query.indication :=
          Interview.header_ne_of_take htake
        exact ⟨c, i.stage.query.indication, rfl, by simp [Call.holds, hpc], hkind⟩

theorem next_finish {i : Interview} (h : call.next = .finish i) :
    call = .interview i ∧ i.pc = .returning ∧ i.deferred = [] := by
  match call with
  | .interview i' =>
    cases (show i'.next = _ from h) ▸ i'.does with
    | finishes hpc hdeferred => exact ⟨rfl, hpc, hdeferred⟩

end Next

theorem Received.handlers {call c : Call} {others : List (Nat × FrameHeader)} {k : Nat}
    {header : FrameHeader} {result : HandlerResult} (hcall : call.holds = (k, header) :: others)
    (h : Received call others k result c) : c.handlers.Sublist call.handlers := by
  unfold Call.handlers
  rw [hcall]
  cases h with
  | answered _ hholds hreleased | timedOut _ _ _ hholds hreleased =>
    rw [hholds, hreleased]
    exact List.sublist_cons_self _ _
  | ended hothers hholds hreleased =>
    rw [hholds, hreleased, hothers]
    exact List.Sublist.refl _

theorem Received.holds {call c : Call} {others : List (Nat × FrameHeader)} {k : Nat}
    {result : HandlerResult} (h : Received call others k result c) : c.holds ⊆ others := by
  cases h with
  | answered _ hholds => exact hholds ▸ List.Subset.refl _
  | timedOut _ _ _ hholds | ended _ hholds => exact hholds ▸ List.nil_subset _

theorem fail_handlers {call c : Call} {k : Nat} {rest : List Nat}
    (hcall : call.released = k :: rest)
    (h : c.holds = [] ∧ c.released = call.holds.map Prod.fst ++ rest) :
    c.handlers.Sublist call.handlers := by
  rw [Call.handlers, Call.handlers, h.1, h.2, hcall, List.map_nil, List.nil_append]
  exact (List.sublist_cons_self k rest).append_left _

theorem write_handlers {call failed : Call} {k : Nat} {header : FrameHeader}
    (hholds : call.holds = (k, header) :: failed.holds)
    (hreleased : failed.released = k :: call.released) :
    failed.handlers.Perm call.handlers := by
  rw [Call.handlers, Call.handlers, hholds, hreleased]
  exact List.perm_middle

/-! ## One step of a thread -/

def Port.Blocks (p : Port) : Next → Prop
  | .fail h _ => p.fail h = none
  | .receive h _ => p.receive h = none
  | .register _ _ | .write _ _ _ | .finish _ => False

/-- What a call's own step can do. -/
inductive Performed (s : State) (t : Nat) (call : Call) : State → Prop where
  | waits (hblocks : s.port.Blocks call.next) : Performed s t call s
  | clashes {header : FrameHeader} {goOn : Nat → Call} {k : Nat}
      (hnext : call.next = .register header goOn) (hreg : s.port.handlers header = some k) :
      Performed s t call { s with panicked := true }
  | registers {header : FrameHeader} {goOn : Nat → Call} {port : Port}
      (hnext : call.next = .register header goOn)
      (hport : s.port.registerHandler header = some port) :
      Performed s t call ({ s with port }.become t (some (goOn s.port.next)))
  | writes {header : FrameHeader} {wrote failed : Call}
      (hnext : call.next = .write header wrote failed) :
      Performed s t call (s.become t (some wrote))
  | fails {k : Nat} {goOn : Option Call} {port : Port} (hnext : call.next = .fail k goOn)
      (hport : s.port.fail k = some port) : Performed s t call ({ s with port }.become t goOn)
  | confused {k : Nat} {goOn : HandlerResult → Option (Option Call)} {result : HandlerResult}
      {port : Port} (hnext : call.next = .receive k goOn)
      (hport : s.port.receive k = some (result, port)) (hpanic : goOn result = none) :
      Performed s t call { s with port, panicked := true }
  | receives {k : Nat} {goOn : HandlerResult → Option (Option Call)} {result : HandlerResult}
      {port : Port} {c : Option Call} (hnext : call.next = .receive k goOn)
      (hport : s.port.receive k = some (result, port)) (hgoOn : goOn result = some c) :
      Performed s t call ({ s with port }.become t c)
  | finishes {i : Interview} (hnext : call.next = .finish i) :
      Performed s t call { s.become t none with returned := s.returned ++ [i] }

theorem performed (s : State) (t : Nat) (call : Call) :
    Performed s t call (s.perform t call.next) := by
  cases hnext : call.next with
  | register header =>
    simp only [State.perform]
    cases hport : s.port.registerHandler header with
    | none =>
      obtain ⟨k, hreg⟩ := registerHandler_eq_none hport
      exact .clashes hnext hreg
    | some => exact .registers hnext hport
  | write => exact .writes hnext
  | fail k =>
    simp only [State.perform]
    cases hport : s.port.fail k with
    | none => exact .waits (by rw [hnext]; exact hport)
    | some => exact .fails hnext hport
  | receive k goOn =>
    simp only [State.perform]
    cases hport : s.port.receive k with
    | none => exact .waits (by rw [hnext]; exact hport)
    | some out =>
      obtain ⟨result, port⟩ := out
      dsimp only
      cases hresult : goOn result with
      | none => exact .confused hnext hport hresult
      | some => exact .receives hnext hport hresult
  | finish => exact .finishes hnext

inductive Action.Calls : Action → Nat → Call → Prop where
  | send (t : Nat) : Calls (.send t) t (.send .start)
  | interview (t : Nat) (networkAddress : UInt16) :
      Calls (.interview t networkAddress) t (.interview { networkAddress })

theorem Action.Calls.holds {a : Action} {t : Nat} {c : Call} (h : a.Calls t c) : c.holds = [] := by
  cases h <;> rfl

theorem Action.Calls.released {a : Action} {t : Nat} {c : Call} (h : a.Calls t c) :
    c.released = [] := by
  cases h <;> rfl

theorem Action.Calls.handlers {a : Action} {t : Nat} {c : Call} (h : a.Calls t c) :
    c.handlers = [] := by
  rw [Call.handlers, h.holds, h.released]
  rfl

/-- What an action can do. -/
inductive Stepped (s : State) : Action → State → Prop where
  | idle (a : Action) : Stepped s a s
  | calls {a : Action} {t : Nat} {c : Call} (hfree : s.threads t = none) (hc : a.Calls t c) :
      Stepped s a (s.become t (some c))
  | performs {s' : State} {t : Nat} {call : Call} (hcall : s.threads t = some call)
      (h : Performed s t call s') : Stepped s (.advance t) s'
  | fails {t : Nat} {call : Call} {header : FrameHeader} {wrote failed : Call}
      (hcall : s.threads t = some call) (hnext : call.next = .write header wrote failed) :
      Stepped s (.writeFails t) ({ s with port := s.port.delete header }.become t (some failed))
  | frame (c : Command) : Stepped s (.frame c) { s with port := s.port.handleFrame c }
  | fulfill : Stepped s .fulfill { s with port := s.port.fulfill }
  | expire (h : Nat) : Stepped s (.expire h) { s with port := s.port.removeHandler h }
  | timerFail (h : Nat) : Stepped s (.timerFail h) { s with port := s.port.timerFail h }

theorem stepped_call (s : State) {a : Action} {t : Nat} {c : Call} (h : a.Calls t c) :
    Stepped s a (s.call t c) := by
  unfold State.call
  cases hthread : s.threads t with
  | none => exact .calls hthread h
  | some => exact .idle a

theorem stepped (s : State) (a : Action) : Stepped s a (step s a) := by
  unfold step
  split
  · exact .idle a
  · cases a with
    | send t => exact stepped_call s (.send t)
    | interview t networkAddress => exact stepped_call s (.interview t networkAddress)
    | advance t =>
      dsimp only
      cases hcall : s.threads t with
      | none => exact .idle _
      | some call => exact .performs hcall (performed s t call)
    | writeFails t =>
      dsimp only
      cases hcall : s.threads t with
      | none => exact .idle _
      | some call =>
        simp only [Option.map_some, Option.getD_some]
        cases hnext : call.next with
        | write => exact .fails hcall hnext
        | register | fail | receive | finish => exact .idle _
    | frame c => exact .frame c
    | fulfill => exact .fulfill
    | expire h => exact .expire h
    | timerFail h => exact .timerFail h

/-! ## What always holds -/

/-- The port is valid, and calls hold handlers it gave out. -/
structure State.Valid (s : State) : Prop where
  port : s.port.Valid
  known : ∀ t call, s.threads t = some call → ∀ k ∈ call.handlers, k < s.port.next

theorem State.valid_init : State.Valid {} where
  port := Port.valid_init
  known := by simp

namespace State.Valid

variable {s : State} (hv : s.Valid)
include hv

theorem moved {port : Port} (hmoved : Moved s.port port) (hport : port.Valid) :
    State.Valid { s with port } where
  port := hport
  known t call hcall k hk := by
    rw [hmoved.next]
    exact hv.known t call hcall k hk

theorem become {port : Port} {t : Nat} {call : Option Call} (hport : port.Valid)
    (hnext : s.port.next ≤ port.next)
    (hknown : ∀ c ∈ call, ∀ k ∈ c.handlers, k < port.next) :
    State.Valid ({ s with port }.become t call) where
  port := hport
  known u c hc k hk := by
    rcases become_threads_cases hc with ⟨rfl, hself⟩ | ⟨hu, hc⟩
    · exact hknown c hself k hk
    · exact lt_of_lt_of_le (hv.known u c hc k hk) hnext

theorem performed {s' : State} {t : Nat} {call : Call} (hcall : s.threads t = some call)
    (h : Performed s t call s') : s'.Valid := by
  have hknown := hv.known t call hcall
  cases h with
  | waits => exact hv
  | clashes => exact ⟨hv.port, hv.known⟩
  | registers hnext hport =>
    obtain ⟨-, hholds, hreleased⟩ := next_register hnext s.port.next
    have hvalid := hv.port.registerHandler hport
    obtain ⟨-, rfl⟩ := registerHandler_eq_some hport
    refine hv.become hvalid (Nat.le_succ _) ?_
    rintro c ⟨⟩ k hk
    simp only [Call.handlers, hholds, hreleased, List.map_cons, List.cons_append,
      List.mem_cons] at hk
    rcases hk with rfl | hk
    · exact Nat.lt_succ_self _
    · exact Nat.lt_succ_of_lt (hknown k hk)
  | writes hnext =>
    obtain ⟨⟨-, hholds, hreleased⟩, -⟩ := next_write hnext
    refine hv.become hv.port (le_refl _) ?_
    rintro c ⟨⟩ k hk
    rw [Call.handlers, hholds, hreleased] at hk
    exact hknown k hk
  | @fails k _ _ hnext hport =>
    obtain ⟨rest, hreleased, hgoOn⟩ := next_fail hnext
    have hk : k < s.port.next := hknown k (by simp [Call.handlers, hreleased])
    have hvalid := hv.port.fail hk hport
    obtain ⟨-, results, -, rfl⟩ := put_eq_some hport
    refine hv.become hvalid (le_refl _) ?_
    intro c hc k' hk'
    exact hknown k' ((fail_handlers hreleased (hgoOn c hc).2).subset hk')
  | @confused k _ _ _ hnext hport =>
    obtain ⟨header, others, hholds, -, -⟩ := next_receive hnext
    have hk : k < s.port.next := hknown k (by simp [Call.handlers, hholds])
    have hvalid := hv.port.receive hk hport
    obtain ⟨-, results, -, rfl⟩ := receive_eq_some hport
    exact ⟨hvalid, hv.known⟩
  | @receives k _ result _ _ hnext hport hgoOn =>
    obtain ⟨header, others, hholds, -, hreceived⟩ := next_receive hnext
    have hk : k < s.port.next := hknown k (by simp [Call.handlers, hholds])
    have hvalid := hv.port.receive hk hport
    obtain ⟨-, results, -, rfl⟩ := receive_eq_some hport
    refine hv.become hvalid (le_refl _) ?_
    rintro c' rfl k' hk'
    exact hknown k' (((hreceived result c' hgoOn).2.handlers hholds).subset hk')
  | finishes =>
    have hbecome : State.Valid ({ s with port := s.port }.become t none) :=
      hv.become hv.port (le_refl _) (by simp)
    exact ⟨hbecome.port, hbecome.known⟩

theorem step (a : Action) : (step s a).Valid := by
  have h := stepped s a
  generalize Znp.step s a = s' at h ⊢
  cases h with
  | idle => exact hv
  | @calls _ _ _ _ hc =>
    refine hv.become hv.port (le_refl _) ?_
    rintro c' ⟨⟩ k hk
    rw [hc.handlers] at hk
    cases hk
  | performs hcall h => exact hv.performed hcall h
  | @fails t call header _ _ hcall hnext =>
    obtain ⟨-, -, k, hholds, hreleased⟩ := next_write hnext
    refine hv.become (hv.port.delete header) (le_refl _) ?_
    rintro c ⟨⟩ k' hk'
    exact hv.known t call hcall k' ((write_handlers hholds hreleased).subset hk')
  | frame c => exact hv.moved (moved_handleFrame c) (hv.port.handleFrame c)
  | fulfill => exact hv.moved (moved_fulfill hv.port) hv.port.fulfill
  | expire k => exact hv.moved (moved_removeHandler k) (hv.port.removeHandler k)
  | timerFail k => exact hv.moved (moved_timerFail hv.port k) (hv.port.timerFail k)

end State.Valid

end IotController.Znp
