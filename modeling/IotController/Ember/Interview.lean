/-
  The interview of a device
  (`pkg/zigbee-dongle/ember/interview.go`, the waiters of `controller.go`).

  `InterviewDevice` makes three kinds of calls, `zdoNodeDescriptor`, `zdoActiveEndpoints`
  and `zdoSimpleDescriptor`.  Each registers a waiter for the cluster of the response, sends
  a request, waits for a payload and removes the waiter.  Interviews run on threads of their
  own, and `handleCallback` gives a payload to the waiter that was registered last for its
  cluster.
-/
import IotController.Dongle.Attribution
import IotController.Ember.Controller
import IotController.Foundation.Run

namespace IotController.Ember.Interview

open Foundation Dongle

/-! ## Errors -/

/-- The errors of an interview. -/
inductive ZdoError where
  | unicast (err : String)
  | unicastTooShort
  | unicastStatus (status : Byte)
  | context (err : String)
  | nodeDescriptorTimeout
  | nodeDescriptorTooShort (bytes : Nat)
  | nodeDescriptorStatus (status : Byte)
  | nodeDescriptorPayload (bytes : Nat)
  | activeEndpointsTimeout
  | activeEndpointsTooShort (bytes : Nat)
  | activeEndpointsStatus (status : Byte)
  | activeEndpointsTruncated (expected got : Nat)
  | simpleDescriptorTimeout (endpoint : Byte)
  | simpleDescriptorTooShort (bytes : Nat)
  | simpleDescriptorStatus (status : Byte)
  | simpleDescriptorEmpty
  | simpleDescriptorBody (bytes : Nat)
  | inputClustersTruncated
  | outputClustersTruncated
  deriving DecidableEq, Repr

def ZdoError.message : ZdoError → String
  | unicast err => "SEND_UNICAST: " ++ err
  | unicastTooShort => "SEND_UNICAST response too short"
  | unicastStatus status => "SEND_UNICAST status: 0x" ++ hex02X status
  | context err => err
  | nodeDescriptorTimeout => "node descriptor response timeout"
  | nodeDescriptorTooShort bytes => s!"node descriptor response too short: {bytes} bytes"
  | nodeDescriptorStatus status => "node descriptor status: 0x" ++ hex02X status
  | nodeDescriptorPayload bytes => s!"node descriptor payload too short: {bytes} bytes"
  | activeEndpointsTimeout => "active endpoints response timeout"
  | activeEndpointsTooShort bytes => s!"active endpoints response too short: {bytes} bytes"
  | activeEndpointsStatus status => "active endpoints status: 0x" ++ hex02X status
  | activeEndpointsTruncated expected got =>
    s!"active endpoints list truncated: expected {expected}, got {got} bytes"
  | simpleDescriptorTimeout endpoint => s!"simple descriptor timeout for endpoint {endpoint}"
  | simpleDescriptorTooShort bytes => s!"simple descriptor response too short: {bytes} bytes"
  | simpleDescriptorStatus status => "simple descriptor status: 0x" ++ hex02X status
  | simpleDescriptorEmpty => "simple descriptor too short"
  | simpleDescriptorBody bytes => s!"simple descriptor body too short: {bytes} bytes"
  | inputClustersTruncated => "simple descriptor input clusters truncated"
  | outputClustersTruncated => "simple descriptor output clusters truncated"

/-! ## Reading a payload

Payloads begin with a sequence number, a status and the address of the node that they are
about. -/

def readNodeDescriptor (data : List Byte) : Except ZdoError NodeDescriptor :=
  if data.length < 4 then .error (.nodeDescriptorTooShort data.length)
  else if data.getD 1 0 ≠ 0x00 then .error (.nodeDescriptorStatus (data.getD 1 0))
  else if data.length < 17 then .error (.nodeDescriptorPayload data.length)
  else
    let nodeDesc := (data.drop 4).take 13
    .ok
      { logicalType := nodeDesc.getD 0 0 &&& 0x07
        macCapabilityFlags := nodeDesc.getD 2 0
        manufacturerCode := leUint16 nodeDesc 3 }

def readActiveEndpoints (data : List Byte) : Except ZdoError (List Byte) :=
  if data.length < 5 then .error (.activeEndpointsTooShort data.length)
  else if data.getD 1 0 ≠ 0x00 then .error (.activeEndpointsStatus (data.getD 1 0))
  else
    let count := (data.getD 4 0).toNat
    if data.length < 5 + count then .error (.activeEndpointsTruncated (5 + count) data.length)
    else .ok ((data.drop 5).take count)

def readClusters (sd : List Byte) (off count : Nat) : List UInt16 :=
  (List.range count).map fun i => leUint16 sd (off + i * 2)

def readSimpleDescriptor (data : List Byte) : Except ZdoError EndpointInfo :=
  if data.length < 5 then .error (.simpleDescriptorTooShort data.length)
  else if data.getD 1 0 ≠ 0x00 then .error (.simpleDescriptorStatus (data.getD 1 0))
  else if data.length < 6 then .error .simpleDescriptorEmpty
  else
    let sd := data.drop 5
    if sd.length < 8 then .error (.simpleDescriptorBody sd.length)
    else
      let inCount := (sd.getD 6 0).toNat
      if sd.length < 7 + inCount * 2 + 1 then .error .inputClustersTruncated
      else
        let off := 7 + inCount * 2
        let outCount := (sd.getD off 0).toNat
        if sd.length < off + 1 + outCount * 2 then .error .outputClustersTruncated
        else .ok
          { id := (sd.getD 0 0).toUInt32
            profileID := (leUint16 sd 1).toUInt32
            deviceID := (leUint16 sd 3).toUInt32
            deviceVersion := (sd.getD 5 0 &&& 0x0F).toUInt32
            inputClusters := readClusters sd 7 inCount
            outputClusters := readClusters sd (off + 1) outCount }

/-- The address that a payload is about, which is not read by the three calls. -/
def nwkAddrOfInterest (data : List Byte) : UInt16 := leUint16 data 2

/-! ## The call that is being made -/

/-- What an interview asks for. -/
inductive Stage where
  | nodeDescriptor (attempt : Nat)
  | activeEndpoints
  | simpleDescriptor (endpoint : Byte) (rest : List Byte)
  deriving DecidableEq, Repr

namespace Stage

def responseCluster : Stage → UInt16
  | nodeDescriptor _ => 0x8002
  | activeEndpoints => 0x8005
  | simpleDescriptor _ _ => 0x8004

def timeoutError : Stage → ZdoError
  | nodeDescriptor _ => .nodeDescriptorTimeout
  | activeEndpoints => .activeEndpointsTimeout
  | simpleDescriptor endpoint _ => .simpleDescriptorTimeout endpoint

def asked : Stage → Option Byte
  | simpleDescriptor endpoint _ => some endpoint
  | nodeDescriptor _ | activeEndpoints => none

def endpoints : Stage → List Byte
  | simpleDescriptor endpoint rest => endpoint :: rest
  | nodeDescriptor _ | activeEndpoints => []

/-- What a payload says to the call, if the call accepts it. -/
def reply (stage : Stage) (data : List Byte) : Option Response :=
  match stage with
  | nodeDescriptor _ =>
    (readNodeDescriptor data).toOption.map fun d =>
      .nodeDescriptor ⟨nwkAddrOfInterest data, d⟩
  | activeEndpoints =>
    (readActiveEndpoints data).toOption.map fun l => .activeEP ⟨nwkAddrOfInterest data, l⟩
  | simpleDescriptor _ _ =>
    (readSimpleDescriptor data).toOption.map fun d =>
      .simpleDescriptor ⟨nwkAddrOfInterest data, d⟩

end Stage

/-- What comes after a question. -/
inductive Next where
  | ask (stage : Stage)
  | done
  | fail (err : String)
  deriving DecidableEq, Repr

def Next.endpoint : List Byte → Next
  | [] => done
  | endpoint :: rest => ask (.simpleDescriptor endpoint rest)

/-- Where an interview stands. -/
inductive Pc where
  | register
  | pause (w : Nat)
  | send (w : Nat)
  | wait (w : Nat)
  | remove (next : Next)
  deriving DecidableEq, Repr

/-- An interview under way. -/
structure Call where
  record : Record
  stage : Stage := .nodeDescriptor 0
  pc : Pc := .register
  deriving DecidableEq, Repr

namespace Call

def fail (c : Call) (err : ZdoError) : Call :=
  match c.stage with
  | .nodeDescriptor _ => { c with pc := .remove (.fail ("node descriptor: " ++ err.message)) }
  | .activeEndpoints => { c with pc := .remove (.fail ("active endpoints: " ++ err.message)) }
  | .simpleDescriptor _ rest => { c with pc := .remove (.endpoint rest) }

def retry (c : Call) (w : Nat) (err : ZdoError) : Call :=
  match c.stage with
  | .nodeDescriptor attempt =>
    if attempt < 2 then { c with stage := .nodeDescriptor (attempt + 1), pc := .pause w }
    else c.fail err
  | .activeEndpoints | .simpleDescriptor _ _ => c.fail err

def take (c : Call) (w : Nat) (data : List Byte) : Call :=
  match c.stage with
  | .nodeDescriptor _ =>
    match readNodeDescriptor data with
    | .ok d =>
      { c with
        record := { c.record with descriptor := some ⟨nwkAddrOfInterest data, d⟩ }
        pc := .remove (.ask .activeEndpoints) }
    | .error (.nodeDescriptorStatus status) => c.retry w (.nodeDescriptorStatus status)
    | .error err => c.fail err
  | .activeEndpoints =>
    match readActiveEndpoints data with
    | .ok [] => { c with pc := .remove (.fail "no active endpoints found") }
    | .ok (endpoint :: rest) =>
      { c with
        record := { c.record with
          listed := some ⟨nwkAddrOfInterest data, endpoint :: rest⟩ }
        pc := .remove (.ask (.simpleDescriptor endpoint rest)) }
    | .error err => c.fail err
  | .simpleDescriptor endpoint rest =>
    match readSimpleDescriptor data with
    | .ok d =>
      { c with
        record := { c.record with
          described := c.record.described ++ [(endpoint, ⟨nwkAddrOfInterest data, d⟩)] }
        pc := .remove (.endpoint rest) }
    | .error err => c.fail err

end Call

/-! ## The system -/

/-- The controller and its interviews. -/
structure State where
  controller : Controller := Controller.init
  next : Nat := 0
  threads : Nat → Option Call := fun _ => none
  returned : List Record := []
  /-- the errors that were returned, with the address -/
  failed : List (UInt16 × String) := []

def State.become (s : State) (t : Nat) (call : Option Call) : State :=
  { s with threads := Function.update s.threads t call }

/-- What can happen to an interview. -/
inductive Event where
  /-- it goes on: the pause is over, the request is sent, a payload is received -/
  | advance
  | sendFails (err : ZdoError)
  | timeout
  | cancel (err : String)
  deriving DecidableEq, Repr

/-- One step of the system. -/
inductive Action where
  | interview (t : Nat) (networkAddress : UInt16)
  | event (t : Nat) (e : Event)
  | callback (ready : Bool) (frame : EZSPFrame)

/-- A receive from the channel of a waiter; `none` while it waits. -/
def receivePayload (c : Controller) (w : Nat) : Option (List Byte × Controller) :=
  (c.payloads w).receive.map fun (data, ch) =>
    (data, { c with payloads := Function.update c.payloads w ch })

def State.resume (s : State) (t : Nat) (c : Call) : Next → State
  | .ask stage => s.become t (some { c with stage, pc := .register })
  | .done => { s.become t none with returned := s.returned ++ [c.record] }
  | .fail err =>
    { s.become t none with failed := s.failed ++ [(c.record.networkAddress, err)] }

/-- The step of an interview at `pc`. -/
def State.perform (s : State) (t : Nat) (c : Call) : Pc → Event → State
  | .register, .advance =>
    { s with
      controller := s.controller.registerZDOWaiter c.stage.responseCluster s.next
      next := s.next + 1 }.become t (some { c with pc := .send s.next })
  | .pause w, .advance => s.become t (some { c with pc := .send w })
  | .pause _, .cancel err => s.become t (some (c.fail (.context err)))
  | .send w, .advance => s.become t (some { c with pc := .wait w })
  | .send w, .sendFails err => s.become t (some (c.retry w err))
  | .wait w, .advance =>
    match receivePayload s.controller w with
    | none => s
    | some (data, controller) => { s with controller }.become t (some (c.take w data))
  | .wait w, .timeout => s.become t (some (c.retry w c.stage.timeoutError))
  | .wait _, .cancel err => s.become t (some (c.fail (.context err)))
  | .remove next, .advance =>
    { s with controller := s.controller.removeZDOWaiter c.stage.responseCluster }.resume t c next
  | _, _ => s

def step (s : State) : Action → State
  | .interview t networkAddress =>
    match s.threads t with
    | none => s.become t (some { record := { networkAddress } })
    | some _ => s
  | .event t e => ((s.threads t).map fun c => s.perform t c c.pc e).getD s
  | .callback ready frame => { s with controller := s.controller.handleCallback ready frame }

theorem become_threads_self (s : State) (t : Nat) (call : Option Call) :
    (s.become t call).threads t = call := by
  simp [State.become]

theorem become_threads_of_ne (s : State) {t u : Nat} (call : Option Call) (h : u ≠ t) :
    (s.become t call).threads u = s.threads u := by
  simp [State.become, h]

/-! ## What an interview has taken -/

namespace Call

def waiter (c : Call) : Option Nat :=
  match c.pc with
  | .pause w | .send w | .wait w => some w
  | .register | .remove _ => none

def remaining (c : Call) : List Byte :=
  match c.pc with
  | .remove (.ask stage) => stage.endpoints
  | .remove .done | .remove (.fail _) => []
  | .register | .pause _ | .send _ | .wait _ => c.stage.endpoints

/-- What the interview has taken is attributed, and endpoints are described only after
they were listed. -/
structure Sound (heard : Response → Prop) (c : Call) : Prop where
  findings : Findings heard c.record c.remaining
  begun : c.stage.asked = none → c.record.described = []
  onward : ∀ stage, c.pc = .remove (.ask stage) → stage.asked = none → c.record.described = []

structure Alike (c' c : Call) : Prop where
  address : c'.record.networkAddress = c.record.networkAddress
  cluster : c'.stage.responseCluster = c.stage.responseCluster
  asked : c'.stage.asked = c.stage.asked
  reply : c'.stage.reply = c.stage.reply

variable {heard : Response → Prop} {c : Call}

theorem Alike.pc (c : Call) (pc : Pc) : Alike { c with pc } c := ⟨rfl, rfl, rfl, rfl⟩

theorem sound_init (networkAddress : UInt16) : Sound heard { record := { networkAddress } } where
  findings := findings_init networkAddress
  begun _ := rfl
  onward stage h := by cases h

theorem Sound.pc (h : c.Sound heard) (hpc : c.remaining = c.stage.endpoints) {pc : Pc}
    (hremove : ∀ next, pc ≠ .remove next) : Sound heard { c with pc } where
  findings := by
    have hremaining : { c with pc }.remaining = c.stage.endpoints := by
      cases pc with
      | remove next => exact absurd rfl (hremove next)
      | register | pause w | send w | wait w => rfl
    rw [hremaining, ← hpc]
    exact h.findings
  begun := h.begun
  onward stage hstage := absurd hstage (hremove _)

theorem sound_endpoint {rest : List Byte} (hfindings : Findings heard c.record rest)
    (hbegun : c.stage.asked = none → c.record.described = []) :
    Sound heard { c with pc := .remove (.endpoint rest) } := by
  cases rest with
  | nil => exact ⟨hfindings, hbegun, fun stage hstage => nomatch hstage⟩
  | cons =>
    refine ⟨hfindings, hbegun, ?_⟩
    rintro stage ⟨⟩ hasked
    cases hasked

theorem Sound.fail (h : c.Sound heard) (hpc : c.remaining = c.stage.endpoints) (err : ZdoError) :
    (c.fail err).Sound heard := by
  have hfindings := h.findings
  rw [hpc] at hfindings
  obtain ⟨record, stage, pc⟩ := c
  cases stage with
  | nodeDescriptor | activeEndpoints =>
    exact ⟨hfindings.skip (List.nil_sublist _), h.begun, fun stage hstage => nomatch hstage⟩
  | simpleDescriptor endpoint rest =>
    have hrest : Findings heard record rest := hfindings.skip (List.sublist_cons_self _ _)
    exact sound_endpoint (c := ⟨record, .simpleDescriptor endpoint rest, pc⟩) hrest h.begun

theorem waiter_fail (c : Call) (err : ZdoError) : (c.fail err).waiter = none := by
  unfold Call.fail
  cases c.stage <;> rfl

theorem Sound.retry (h : c.Sound heard) (hpc : c.remaining = c.stage.endpoints) (w : Nat)
    (err : ZdoError) : (c.retry w err).Sound heard := by
  unfold Call.retry
  cases hstage : c.stage with
  | nodeDescriptor =>
    dsimp only
    split
    · have hfindings := h.findings
      rw [hpc, hstage] at hfindings
      have hbegun := h.begun (by rw [hstage]; rfl)
      exact ⟨hfindings, fun _ => hbegun, fun stage hstage => nomatch hstage⟩
    · exact h.fail hpc err
  | activeEndpoints | simpleDescriptor => exact h.fail hpc err

theorem waiter_retry (c : Call) (w : Nat) (err : ZdoError) :
    (c.retry w err).waiter = none ∨ (c.retry w err).waiter = some w ∧ (c.retry w err).Alike c := by
  unfold Call.retry
  cases hstage : c.stage with
  | nodeDescriptor =>
    dsimp only
    split
    · exact Or.inr ⟨rfl, rfl, by rw [hstage]; rfl, by rw [hstage]; rfl, by rw [hstage]; rfl⟩
    · exact Or.inl (waiter_fail c err)
  | activeEndpoints | simpleDescriptor => exact Or.inl (waiter_fail c err)

theorem Sound.take (h : c.Sound heard) (hpc : c.remaining = c.stage.endpoints) (w : Nat)
    {data : List Byte} (hdata : ∀ r ∈ c.stage.reply data,
      r.Answers c.record.networkAddress c.stage.asked ∧ heard r) :
    (c.take w data).Sound heard := by
  have hfindings := h.findings
  rw [hpc] at hfindings
  unfold Call.take
  cases hstage : c.stage with
  | nodeDescriptor =>
    dsimp only
    split
    · rename_i d hread
      obtain ⟨hanswers, hheard⟩ := hdata (.nodeDescriptor ⟨nwkAddrOfInterest data, d⟩) (by
        simp [hstage, Stage.reply, hread, Except.toOption])
      rw [hstage] at hfindings
      have hbegun := h.begun (by rw [hstage]; rfl)
      exact ⟨hfindings.takeDescriptor hanswers.node hheard, fun _ => hbegun, fun _ _ _ => hbegun⟩
    · exact h.retry hpc w _
    · exact h.fail hpc _
  | activeEndpoints =>
    dsimp only
    split
    · have hbegun := h.begun (by rw [hstage]; rfl)
      exact ⟨hfindings.skip (List.nil_sublist _), fun _ => hbegun,
        fun stage hstage => nomatch hstage⟩
    · rename_i endpoint rest hread
      obtain ⟨hanswers, hheard⟩ := hdata
        (.activeEP ⟨nwkAddrOfInterest data, endpoint :: rest⟩) (by
          simp [hstage, Stage.reply, hread, Except.toOption])
      have hbegun := h.begun (by rw [hstage]; rfl)
      refine ⟨hfindings.takeList hanswers.node hheard hbegun, fun _ => hbegun, ?_⟩
      rintro stage ⟨⟩ hasked
      cases hasked
    · exact h.fail hpc _
  | simpleDescriptor endpoint rest =>
    dsimp only
    split
    · rename_i d hread
      obtain ⟨hanswers, hheard⟩ := hdata (.simpleDescriptor ⟨nwkAddrOfInterest data, d⟩) (by
        simp [hstage, Stage.reply, hread, Except.toOption])
      have hid := hanswers.endpoint _ rfl endpoint (by rw [hstage]; rfl)
      rw [hstage] at hfindings
      exact sound_endpoint (c := ⟨_, .simpleDescriptor endpoint rest, c.pc⟩)
        (hfindings.takeEndpoint rfl hanswers.node hheard hid) fun hasked => nomatch hasked
    · exact h.fail hpc _

theorem waiter_take (c : Call) (w : Nat) (data : List Byte) :
    (c.take w data).waiter = none ∨ (c.take w data).waiter = some w ∧ (c.take w data).Alike c := by
  unfold Call.take
  cases hstage : c.stage with
  | nodeDescriptor =>
    dsimp only
    split
    · exact Or.inl rfl
    · exact waiter_retry c w _
    · exact Or.inl (waiter_fail c _)
  | activeEndpoints =>
    dsimp only
    split
    · exact Or.inl rfl
    · exact Or.inl rfl
    · exact Or.inl (waiter_fail c _)
  | simpleDescriptor =>
    dsimp only
    split
    · exact Or.inl rfl
    · exact Or.inl (waiter_fail c _)

end Call

/-! ## What is given to a waiter -/

def messageOf (frame : EZSPFrame) : Option (UInt16 × IncomingMessage) :=
  if frame.frameID = incomingMessageHandler then incomingMessage frame.parameters else none

section Callback

variable {controller : Controller} {ready : Bool} {frame : EZSPFrame}

theorem handleCallback_zdoWaiters :
    (controller.handleCallback ready frame).zdoWaiters = controller.zdoWaiters := by
  unfold Controller.handleCallback
  split
  · split
    · rfl
    · split
      · rfl
      · unfold Controller.offerOutput
        split <;> rfl
  · split
    · split <;> rfl
    · split
      · split <;> rfl
      · rfl

theorem handleCallback_payloads {w : Nat} {data : List Byte}
    (h : data ∈ ((controller.handleCallback ready frame).payloads w).buffer) :
    data ∈ (controller.payloads w).buffer ∨
      ∃ profileID msg, messageOf frame = some (profileID, msg) ∧ data = msg.data ∧
        controller.waiterFor profileID msg.clusterID = some w ∧
        (controller.payloads w).HasRoom := by
  unfold Controller.handleCallback at h
  split at h
  · rename_i hid
    split at h
    · exact Or.inl h
    · rename_i profileID msg hmsg
      split at h
      · rename_i w' hwaiter
        by_cases hw : w = w'
        · subst hw
          by_cases hroom : (controller.payloads w).HasRoom
          · simp only [Controller.offerPayload, Function.update_self] at h
            rcases Chan.mem_buffer_trySend h with hold | hnew
            · exact Or.inl hold
            · exact Or.inr ⟨profileID, msg, by rw [messageOf, if_pos hid, hmsg], hnew, hwaiter, hroom⟩
          · simp only [Controller.offerPayload, Function.update_self, Chan.trySend,
              dif_neg hroom] at h
            exact Or.inl h
        · simp only [Controller.offerPayload, Function.update_of_ne hw] at h
          exact Or.inl h
      · unfold Controller.offerOutput at h
        split at h <;> exact Or.inl h
  · split at h
    · split at h <;> exact Or.inl h
    · split at h
      · split at h <;> exact Or.inl h
      · exact Or.inl h

end Callback

theorem lookup_of_waiterFor {controller : Controller} {profileID clusterID : UInt16} {w : Nat}
    (h : controller.waiterFor profileID clusterID = some w) :
    controller.zdoWaiters.lookup clusterID = some w := by
  unfold Controller.waiterFor at h
  split at h
  · exact h
  · cases h

theorem receivePayload_eq_some {controller controller' : Controller} {w : Nat} {data : List Byte}
    (h : receivePayload controller w = some (data, controller')) :
    data ∈ (controller.payloads w).buffer ∧ controller'.zdoWaiters = controller.zdoWaiters ∧
      ∀ w' data', data' ∈ (controller'.payloads w').buffer →
        data' ∈ (controller.payloads w').buffer := by
  unfold receivePayload at h
  obtain ⟨⟨data', ch⟩, hreceive, hout⟩ := Option.map_eq_some_iff.mp h
  cases hout
  have hbuffer := Chan.receive_eq_some hreceive
  refine ⟨by simp [hbuffer], rfl, ?_⟩
  intro w' data' hdata'
  by_cases hw : w' = w
  · subst hw
    simp only [Function.update_self] at hdata'
    rw [hbuffer]
    exact List.mem_cons_of_mem _ hdata'
  · simpa [hw] using hdata'

/-! ## Responses to the requests of an interview -/

/-- A message that is given to the waiter of a call answers what the call asked. -/
def Addressed (s : State) : Action → Prop
  | .callback _ frame => ∀ profileID msg w, messageOf frame = some (profileID, msg) →
      s.controller.waiterFor profileID msg.clusterID = some w →
      (s.controller.payloads w).HasRoom →
      ∀ t c, s.threads t = some c → c.waiter = some w → ∀ r ∈ c.stage.reply msg.data,
        r.Answers c.record.networkAddress c.stage.asked
  | .interview _ _ | .event _ _ => True

/-- What is given to a waiter answers what was asked, and what was taken and returned is
attributed. -/
structure Attributing (heard : Response → Prop) (s : State) : Prop where
  table : ∀ cluster w, s.controller.zdoWaiters.lookup cluster = some w → w < s.next
  known : ∀ t c w, s.threads t = some c → c.waiter = some w → w < s.next
  keyed : ∀ cluster w t c, s.controller.zdoWaiters.lookup cluster = some w →
    s.threads t = some c → c.waiter = some w → c.stage.responseCluster = cluster
  sound : ∀ t c, s.threads t = some c → c.Sound heard
  given : ∀ t c w, s.threads t = some c → c.waiter = some w →
    ∀ data ∈ (s.controller.payloads w).buffer, ∀ r ∈ c.stage.reply data,
      r.Answers c.record.networkAddress c.stage.asked ∧ heard r
  returned : ∀ r ∈ s.returned, Attributed heard r

theorem attributing_init (heard : Response → Prop) : Attributing heard {} where
  table := by simp [Controller.init]
  known := by simp
  keyed := by simp
  sound := by simp
  given := by simp
  returned := by simp

namespace Attributing

variable {heard : Response → Prop} {s : State} (hinv : Attributing heard s)
include hinv

theorem goesOn {d : Controller} {t : Nat} {c : Option Call}
    (htable : ∀ cluster w, d.zdoWaiters.lookup cluster = some w →
      s.controller.zdoWaiters.lookup cluster = some w)
    (hslots : ∀ w data, data ∈ (d.payloads w).buffer → data ∈ (s.controller.payloads w).buffer)
    (hown : ∀ c', c = some c' → c'.Sound heard ∧ ∀ w, c'.waiter = some w →
      ∃ c₀, s.threads t = some c₀ ∧ c₀.waiter = some w ∧ c'.Alike c₀) :
    Attributing heard ({ s with controller := d }.become t c) := by
  -- every call speaks for one that was there before
  have hbefore : ∀ u c' w, ({ s with controller := d }.become t c).threads u = some c' →
      c'.waiter = some w → ∃ c₀, s.threads u = some c₀ ∧ c₀.waiter = some w ∧ c'.Alike c₀ := by
    intro u c' w hc' hw
    by_cases hu : u = t
    · subst hu
      rw [become_threads_self] at hc'
      exact (hown c' hc').2 w hw
    · rw [become_threads_of_ne _ _ hu] at hc'
      exact ⟨c', hc', hw, .pc c' c'.pc⟩
  constructor
  case table =>
    intro cluster w hw
    exact hinv.table cluster w (htable cluster w hw)
  case known =>
    intro u c' w hc' hw
    obtain ⟨c₀, hc₀, hw₀, -⟩ := hbefore u c' w hc' hw
    exact hinv.known u c₀ w hc₀ hw₀
  case keyed =>
    intro cluster w u c' hlookup hc' hw
    obtain ⟨c₀, hc₀, hw₀, halike⟩ := hbefore u c' w hc' hw
    rw [halike.cluster]
    exact hinv.keyed cluster w u c₀ (htable cluster w hlookup) hc₀ hw₀
  case sound =>
    intro u c' hc'
    by_cases hu : u = t
    · subst hu
      rw [become_threads_self] at hc'
      exact (hown c' hc').1
    · rw [become_threads_of_ne _ _ hu] at hc'
      exact hinv.sound u c' hc'
  case given =>
    intro u c' w hc' hw data hdata
    obtain ⟨c₀, hc₀, hw₀, halike⟩ := hbefore u c' w hc' hw
    rw [halike.reply, halike.address, halike.asked]
    exact hinv.given u c₀ w hc₀ hw₀ data (hslots w data hdata)
  case returned => exact hinv.returned

theorem stays {t : Nat} {c : Call} (hsound : c.Sound heard)
    (hwaiter : ∀ w, c.waiter = some w →
      ∃ c₀, s.threads t = some c₀ ∧ c₀.waiter = some w ∧ c.Alike c₀) :
    Attributing heard (s.become t (some c)) := by
  refine hinv.goesOn (d := s.controller) (fun _ _ h => h) (fun _ _ h => h) ?_
  rintro c' ⟨⟩
  exact ⟨hsound, hwaiter⟩

theorem registers {t : Nat} {c : Call} (hcall : s.threads t = some c) (hpc : c.pc = .register) :
    Attributing heard (s.perform t c .register .advance) := by
  have hsound : Call.Sound heard { c with pc := .send s.next } :=
    (hinv.sound t c hcall).pc (by simp [Call.remaining, hpc]) (by simp)
  -- the new waiter belongs to this thread, and older ones are not touched
  have hthread : ∀ u c' w, (s.perform t c .register .advance).threads u = some c' →
      c'.waiter = some w → (w = s.next ∧ c' = { c with pc := .send s.next }) ∨
        (w ≠ s.next ∧ s.threads u = some c') := by
    intro u c' w hc' hw
    by_cases hu : u = t
    · subst hu
      have hself : some { c with pc := .send s.next } = some c' :=
        (become_threads_self _ u _).symm.trans hc'
      cases hself
      cases hw
      exact Or.inl ⟨rfl, rfl⟩
    · have hother : s.threads u = some c' := (become_threads_of_ne _ _ hu).symm.trans hc'
      exact Or.inr ⟨Nat.ne_of_lt (hinv.known u c' w hother hw), hother⟩
  have htable : ∀ cluster w,
      (s.perform t c .register .advance).controller.zdoWaiters.lookup cluster = some w →
      (w = s.next ∧ c.stage.responseCluster = cluster) ∨
        s.controller.zdoWaiters.lookup cluster = some w := by
    intro cluster w hw
    have hlookup := GoMap.lookup_insert_eq s.controller.zdoWaiters c.stage.responseCluster
      cluster s.next
    rw [show (s.perform t c .register .advance).controller.zdoWaiters =
      s.controller.zdoWaiters.insert c.stage.responseCluster s.next from rfl, hlookup] at hw
    split at hw
    · rename_i heq
      cases hw
      exact Or.inl ⟨rfl, heq.symm⟩
    · exact Or.inr hw
  constructor
  case table =>
    intro cluster w hw
    rcases htable cluster w hw with ⟨rfl, -⟩ | hold
    · exact Nat.lt_succ_self _
    · exact Nat.lt_succ_of_lt (hinv.table cluster w hold)
  case known =>
    intro u c' w hc' hw
    rcases hthread u c' w hc' hw with ⟨rfl, -⟩ | ⟨-, hother⟩
    · exact Nat.lt_succ_self _
    · exact Nat.lt_succ_of_lt (hinv.known u c' w hother hw)
  case keyed =>
    intro cluster w u c' hlookup hc' hw
    rcases hthread u c' w hc' hw with ⟨rfl, rfl⟩ | ⟨hne, hother⟩
    · rcases htable cluster _ hlookup with ⟨-, hcluster⟩ | hold
      · exact hcluster
      · exact absurd (hinv.table cluster _ hold) (Nat.lt_irrefl _)
    · rcases htable cluster w hlookup with ⟨heq, -⟩ | hold
      · exact absurd heq hne
      · exact hinv.keyed cluster w u c' hold hother hw
  case sound =>
    intro u c' hc'
    by_cases hu : u = t
    · subst hu
      have hself : some { c with pc := .send s.next } = some c' :=
        (become_threads_self _ u _).symm.trans hc'
      cases hself
      exact hsound
    · exact hinv.sound u c' ((become_threads_of_ne _ _ hu).symm.trans hc')
  case given =>
    intro u c' w hc' hw data hdata
    rcases hthread u c' w hc' hw with ⟨rfl, -⟩ | ⟨hne, hother⟩
    · simp [State.perform, State.become, Controller.registerZDOWaiter] at hdata
    · refine hinv.given u c' w hother hw data ?_
      simpa [State.perform, State.become, Controller.registerZDOWaiter, hne] using hdata
  case returned => exact hinv.returned

theorem removes {t : Nat} {c : Call} {next : Next} (hcall : s.threads t = some c)
    (hpc : c.pc = .remove next) :
    Attributing heard (s.perform t c (.remove next) .advance) := by
  have hsound := hinv.sound t c hcall
  have hgoesOn : ∀ c' : Option Call, (∀ c₁, c' = some c₁ → c₁.Sound heard ∧ c₁.waiter = none) →
      Attributing heard ({ s with
        controller := s.controller.removeZDOWaiter c.stage.responseCluster }.become t c') := by
    intro c' hc'
    refine hinv.goesOn ?_ (fun _ _ h => h) ?_
    · intro cluster w hw
      have hlookup := GoMap.lookup_erase_eq s.controller.zdoWaiters c.stage.responseCluster cluster
      rw [Controller.removeZDOWaiter, hlookup] at hw
      split at hw
      · cases hw
      · exact hw
    · intro c₁ hc₁
      obtain ⟨hsound₁, hnone⟩ := hc' c₁ hc₁
      refine ⟨hsound₁, fun w hw => ?_⟩
      rw [hnone] at hw
      cases hw
  have hgone := hgoesOn none (by simp)
  have hfindings := hsound.findings
  cases next with
  | ask stage =>
    refine hgoesOn _ ?_
    rintro c₁ ⟨⟩
    refine ⟨⟨?_, hsound.onward stage hpc, fun stage hstage => nomatch hstage⟩, rfl⟩
    simpa [Call.remaining, hpc] using hfindings
  | done =>
    refine ⟨hgone.table, hgone.known, hgone.keyed, hgone.sound, hgone.given, ?_⟩
    intro r hr
    rcases List.mem_append.mp hr with hr | hr
    · exact hinv.returned r hr
    · rw [List.mem_singleton] at hr
      subst hr
      exact hfindings.attributed
  | fail =>
    exact ⟨hgone.table, hgone.known, hgone.keyed, hgone.sound, hgone.given, hgone.returned⟩

theorem performed {t : Nat} {c : Call} (hcall : s.threads t = some c) (e : Event) :
    Attributing heard (s.perform t c c.pc e) := by
  have hsound := hinv.sound t c hcall
  have hnone : ∀ c' : Call, c'.waiter = none → ∀ w, c'.waiter = some w →
      ∃ c₀, s.threads t = some c₀ ∧ c₀.waiter = some w ∧ c'.Alike c₀ := by
    intro c' hnone w hw
    rw [hnone] at hw
    cases hw
  have hsame : ∀ (c' : Call) (w : Nat), c.waiter = some w →
      c'.waiter = none ∨ c'.waiter = some w ∧ c'.Alike c → ∀ w', c'.waiter = some w' →
      ∃ c₀, s.threads t = some c₀ ∧ c₀.waiter = some w' ∧ c'.Alike c₀ := by
    rintro c' w hw (hc' | ⟨hc', halike⟩) w' hw'
    · exact hnone c' hc' w' hw'
    · rw [hc'] at hw'
      cases hw'
      exact ⟨c, hcall, hw, halike⟩
  cases hpc : c.pc with
  | register =>
    cases e with
    | advance => exact hinv.registers hcall hpc
    | sendFails | timeout | cancel => exact hinv
  | pause w =>
    have hremaining : c.remaining = c.stage.endpoints := by simp [Call.remaining, hpc]
    have hw : c.waiter = some w := by simp [Call.waiter, hpc]
    cases e with
    | advance =>
      exact hinv.stays (hsound.pc hremaining (by simp)) (hsame _ w hw (Or.inr ⟨rfl, .pc c _⟩))
    | cancel => exact hinv.stays (hsound.fail hremaining _) (hnone _ (c.waiter_fail _))
    | sendFails | timeout => exact hinv
  | send w =>
    have hremaining : c.remaining = c.stage.endpoints := by simp [Call.remaining, hpc]
    have hw : c.waiter = some w := by simp [Call.waiter, hpc]
    cases e with
    | advance =>
      exact hinv.stays (hsound.pc hremaining (by simp)) (hsame _ w hw (Or.inr ⟨rfl, .pc c _⟩))
    | sendFails =>
      exact hinv.stays (hsound.retry hremaining w _) (hsame _ w hw (c.waiter_retry w _))
    | timeout | cancel => exact hinv
  | wait w =>
    have hremaining : c.remaining = c.stage.endpoints := by simp [Call.remaining, hpc]
    have hw : c.waiter = some w := by simp [Call.waiter, hpc]
    cases e with
    | advance =>
      simp only [State.perform]
      cases hreceive : receivePayload s.controller w with
      | none => exact hinv
      | some out =>
        obtain ⟨data, controller⟩ := out
        obtain ⟨hdata, htable, hslots⟩ := receivePayload_eq_some hreceive
        refine hinv.goesOn (fun _ _ h => htable ▸ h) hslots ?_
        rintro c' ⟨⟩
        refine ⟨hsound.take hremaining w ?_, hsame _ w hw (c.waiter_take w data)⟩
        exact hinv.given t c w hcall hw data hdata
    | timeout =>
      exact hinv.stays (hsound.retry hremaining w _) (hsame _ w hw (c.waiter_retry w _))
    | cancel => exact hinv.stays (hsound.fail hremaining _) (hnone _ (c.waiter_fail _))
    | sendFails => exact hinv
  | remove =>
    cases e with
    | advance => exact hinv.removes hcall hpc
    | sendFails | timeout | cancel => exact hinv

theorem step {a : Action} (haddressed : Addressed s a)
    (hheard : ∀ ready frame profileID msg, a = .callback ready frame →
      messageOf frame = some (profileID, msg) → ∀ stage : Stage,
      msg.clusterID = stage.responseCluster → ∀ r ∈ stage.reply msg.data, heard r) :
    Attributing heard (step s a) := by
  cases a with
  | interview t networkAddress =>
    simp only [Interview.step]
    cases hthread : s.threads t with
    | some => exact hinv
    | none =>
      exact hinv.stays (Call.sound_init networkAddress) fun w hw => nomatch hw
  | event t e =>
    simp only [Interview.step]
    cases hthread : s.threads t with
    | none => exact hinv
    | some => exact hinv.performed hthread e
  | callback ready frame =>
    have hwaiters := @handleCallback_zdoWaiters s.controller ready frame
    refine ⟨?_, hinv.known, ?_, hinv.sound, ?_, hinv.returned⟩
    · simp only [Interview.step, hwaiters]
      exact hinv.table
    · simp only [Interview.step, hwaiters]
      exact hinv.keyed
    · intro t c w hc hw data hdata r hr
      rcases handleCallback_payloads hdata with hold | ⟨profileID, msg, hmsg, rfl, hwaiter, hroom⟩
      · exact hinv.given t c w hc hw data hold r hr
      · have hcluster := hinv.keyed _ w t c (lookup_of_waiterFor hwaiter) hc hw
        exact ⟨haddressed profileID msg w hmsg hwaiter hroom t c hc hw r hr,
          hheard ready frame profileID msg rfl hmsg c.stage hcluster.symm r hr⟩

end Attributing

/-- A callback brought the response. -/
def Heard (actions : List Action) (r : Response) : Prop :=
  ∃ ready frame profileID msg, ∃ stage : Stage, Action.callback ready frame ∈ actions ∧
    messageOf frame = some (profileID, msg) ∧ msg.clusterID = stage.responseCluster ∧
    r ∈ stage.reply msg.data

theorem attributing_run {actions : List Action} (h : Along step Addressed {} actions) :
    Attributing (Heard actions) (run step {} actions) := by
  have hstep : ∀ (s : State) (a : Action), Attributing (Heard actions) s →
      (Addressed s a ∧ a ∈ actions) → Attributing (Heard actions) (step s a) := by
    rintro s a hinv ⟨haddressed, hmem⟩
    refine hinv.step haddressed ?_
    rintro ready frame profileID msg rfl hmsg stage hcluster r hr
    exact ⟨ready, frame, profileID, msg, stage, hmem, hmsg, hcluster, hr⟩
  exact invariant_of_along hstep (attributing_init _) h.and_mem

end IotController.Ember.Interview
