/-
  `FormNetwork` in `pkg/zigbee-dongle/ember/controller.go`,
  with `GetNetworkInfo` and `setInitialSecurityState` where it calls them.

  A call goes through a chain of commands, each of which is answered or fails, and waits
  twice for a stack-status callback.  Callbacks come at any time and are kept in a channel
  with ten places, also those that came before the call.
-/
import IotController.Dongle.Network
import IotController.Ember.Controller
import IotController.Foundation.Slice

namespace IotController.Ember.FormNetwork

open Foundation Dongle

/-! ## Parameters on the wire -/

def networkParams (p : NetworkParameters) : List Byte :=
  beBytes 8 p.extendedPanID ++ [p.panID.toUInt8, (p.panID >>> 8).toUInt8] ++
    [0x03, p.channel, 0x00, 0x00, 0x00, 0x00, 0x00, 0xF8, 0xFF, 0x07]

/-- What tells networks apart. -/
structure Identity where
  extendedPanID : UInt64
  panID : UInt16
  channel : Byte
  deriving DecidableEq

def requested (p : NetworkParameters) : Identity := ⟨p.extendedPanID, p.panID, p.channel⟩

def readIdentity (bytes : List Byte) : Identity :=
  ⟨beUint64 (bytes.take 8), leUint16 bytes 8, bytes.getD 11 0⟩

theorem readIdentity_networkParams (p : NetworkParameters) :
    readIdentity (networkParams p) = requested p := by
  have hlength : (beBytes 8 p.extendedPanID).length = 8 := beBytes_length 8 _
  have htake : (networkParams p).take 8 = beBytes 8 p.extendedPanID := by
    rw [networkParams, List.append_assoc, List.take_left' hlength]
  have hrest : ∀ i, (networkParams p).getD (8 + i) 0 =
      ([p.panID.toUInt8, (p.panID >>> 8).toUInt8] ++
        [0x03, p.channel, 0x00, 0x00, 0x00, 0x00, 0x00, 0xF8, 0xFF, 0x07] : List Byte).getD i 0 := by
    intro i
    rw [networkParams, List.append_assoc, List.getD_eq_getElem?_getD,
      List.getElem?_append_right (by omega), hlength, Nat.add_sub_cancel_left,
      List.getD_eq_getElem?_getD]
  have hpan : leUint16 (networkParams p) 8 = p.panID := by
    rw [leUint16, hrest 1, hrest 0]
    exact word_bytes p.panID
  have hchannel : (networkParams p).getD 11 0 = p.channel := hrest 3
  rw [readIdentity, htake, beUint64_beBytes (fits_eight _), hpan, hchannel, requested]

/-! ## The call -/

/-- The errors of `FormNetwork`. -/
inductive FormError where
  | security (err : String)
  | securityTooShort
  | securityRefused (code : Byte)
  | blocked
  | refused (code : Byte)
  | networkDown
  | timeout (elapsed : String) (formStatus lastPolledState : Byte)
  deriving DecidableEq, Repr

def FormError.message : FormError → String
  | .security err => "setting initial security state: " ++ err
  | .securityTooShort => "security state response too short"
  | .securityRefused code =>
    "setting initial security state failed with status 0x" ++ hex02X code
  | .blocked =>
    "form network rejected: device returned 0x58 (TRANSMIT_BLOCKED); try power cycle or different firmware/dongle"
  | .refused code => "form network command failed with status 0x" ++ hex02X code
  | .networkDown => "network formation failed: device reported NETWORK_DOWN (0x91)"
  | .timeout elapsed formStatus lastPolledState =>
    "timeout waiting for network to form after FORM_NETWORK (elapsed: " ++ elapsed ++
      ", FORM_NETWORK returned 0x" ++ hex02X formStatus ++ ")" ++
      (if lastPolledState ≠ 0xFF then
        "; last NETWORK_STATE poll: 0x" ++ hex02X lastPolledState
      else "")

/-- The answer to a command. -/
inductive Reply where
  | response (params : List Byte)
  | failed (err : String)
  deriving DecidableEq

def Reply.arrived : Reply → Bool
  | .response _ => true
  | .failed _ => false

/-! ## Responses

`sendEZSPCommand` returns a pointer to the response and an error; when it fails the pointer
is nil. -/

@[simp] def Reply.resp : Reply → Option (List Byte)
  | .response params => some params
  | .failed _ => none

@[simp] def Reply.err : Reply → Option String
  | .response _ => none
  | .failed err => some err

@[simp] def parameters : Option (List Byte) → Checked (List Byte)
  | some params => .ok params
  | none => .error .nilPointer

/-- `resp.Parameters[0]` where `len(resp.Parameters) >= 1`. -/
def firstParameter (resp : Option (List Byte)) : Checked (Option Byte) := do
  let params ← parameters resp
  if 1 ≤ params.length then some <$> index params 0 else pure none

/-- The same where `err == nil` stands before it. -/
def checkedParameter (resp : Option (List Byte)) (err : Option String) : Checked (Option Byte) :=
  if err = none then firstParameter resp else pure none

@[simp] theorem firstParameter_none : firstParameter none = .error .nilPointer := rfl

@[simp] theorem firstParameter_nil : firstParameter (some []) = .ok none := rfl

@[simp] theorem firstParameter_cons (b : Byte) (rest : List Byte) :
    firstParameter (some (b :: rest)) = .ok (some b) := by
  have hlength : 1 ≤ (b :: rest).length := Nat.succ_pos _
  rw [firstParameter, parameters, ok_bind, if_pos hlength]
  rfl

@[simp] theorem checkedParameter_none (resp : Option (List Byte)) :
    checkedParameter resp none = firstParameter resp :=
  if_pos rfl

@[simp] theorem checkedParameter_some (resp : Option (List Byte)) (err : String) :
    checkedParameter resp (some err) = .ok none :=
  if_neg (Option.some_ne_none err)

/-! ## The state of a call -/

/-- Where the call is.  A command that is named here is on its way. -/
inductive Pc where
  | leaving
  | init
  /-- at the head of the loop that waits for the restored network -/
  | restoreHead
  | restorePoll
  /-- NETWORK_STATE, GET_NETWORK_PARAMETERS, GET_NODE_ID and GET_PARENT_CHILD_PARAMETERS
  of `GetNetworkInfo` -/
  | infoState
  | infoParams
  | infoNode
  | infoParent
  | mismatchLeave
  /-- the select after NOT_JOINED -/
  | notJoined
  /-- SET_INITIAL_SECURITY_STATE, SET_EXTENDED_SECURITY_BITMASK and CLEAR_KEY_TABLE -/
  | security
  | extendedSecurity
  | clearing
  | forming
  /-- at the head of the loop that waits for the new network -/
  | waitHead
  | waiting
  | statePoll
  | returned (err : Option FormError)
  | crashed
  deriving DecidableEq

/-- A call of `FormNetwork`, and what was reported to it. -/
structure Call where
  pc : Pc
  /-- `stackStatusCh`; each status with whether it was produced after FORM_NETWORK -/
  stackStatusCh : Chan (Byte × Bool) 10
  /-- what the radio processor reported of its network in this call -/
  reported : Option Identity := none
  /-- the parameters of the FORM_NETWORK that was sent -/
  formed : Option (List Byte) := none
  formStatus : Byte := 0xFF
  lastPolledState : Byte := 0xFF
  /-- whether the evidence for the new network was produced after FORM_NETWORK -/
  evidence : Option Bool := none

def Call.start (skipForcedLeave : Bool) (buffered : List Byte) (h : buffered.length ≤ 10) :
    Call where
  pc := if skipForcedLeave then .init else .leaving
  stackStatusCh := ⟨buffered.map fun status => (status, false), by simpa using h⟩

/-- What a call meets. -/
inductive Action where
  | callback (status : Byte) (fresh : Bool)
  | written
  | answer (r : Reply)
  /-- a loop reads the clock; after the deadline with the time that has passed -/
  | clock (late : Option String)
  | receive
  /-- the timer of a select fires; `poll` says whether a poll is due -/
  | tick (poll : Bool)

/-- The two codes of NETWORK_UP. -/
def networkUp (status : Byte) : Prop := status = 0x90 ∨ status = 0x15

instance (status : Byte) : Decidable (networkUp status) := inferInstanceAs (Decidable (_ ∨ _))

/-- The two codes of a joined network. -/
def joined (state : Byte) : Prop := state = 0x02 ∨ state = 0x03

instance (state : Byte) : Decidable (joined state) := inferInstanceAs (Decidable (_ ∨ _))

/-- "network is up but couldn't verify parameters, assuming correct". -/
def Call.unverified (s : Call) : Call := { s with pc := .returned none, evidence := none }

/-- How a call goes on after the answer to its command. -/
def Call.resumed (p : NetworkParameters) (s : Call) (resp : Option (List Byte))
    (err : Option String) : Checked Call :=
  match s.pc with
  | .leaving => do
      let _ ← checkedParameter resp err
      pure { s with pc := .init }
  | .init => do
      match ← checkedParameter resp err with
      | some status =>
        if status = 0x00 then pure { s with pc := .restoreHead }
        else if status = 0x93 ∨ status = 0x17 then pure { s with pc := .notJoined }
        else pure { s with pc := .security }
      | none => pure { s with pc := .security }
  | .restorePoll => do
      match ← checkedParameter resp err with
      | some state =>
        if state = 0x02 then pure { s with pc := .infoState }
        else pure { s with pc := .restoreHead }
      | none => pure { s with pc := .restoreHead }
  | .infoState => do
      match ← checkedParameter resp err with
      | some state => if joined state then pure { s with pc := .infoParams } else pure s.unverified
      | none => pure s.unverified
  | .infoParams =>
    match err with
    | some _ => pure s.unverified
    | none => do
        let params ← parameters resp
        match ← firstParameter resp with
        | some status =>
          if status ≠ 0x00 ∨ params.length < 20 then pure s.unverified
          -- behind the status comes the node type
          else pure { s with pc := .infoNode, reported := some (readIdentity (params.drop 2)) }
        | none => pure s.unverified
  | .infoNode =>
    match err with
    | some _ => pure s.unverified
    | none => do
        let params ← parameters resp
        if params.length < 2 then pure s.unverified else pure { s with pc := .infoParent }
  | .infoParent =>
    match err with
    | some _ => pure s.unverified
    | none => do
        let params ← parameters resp
        if params.length < 11 then pure s.unverified
        else if s.reported = some (requested p) then
          pure { s with pc := .returned none, evidence := none }
        else pure { s with pc := .mismatchLeave }
  | .mismatchLeave => do
      -- `leaveResp, _ :=` drops the error
      let _ ← firstParameter resp
      pure { s with pc := .security }
  | .security =>
    match err with
    | some err => pure { s with pc := .returned (some (.security err)) }
    | none => do
        match ← firstParameter resp with
        | none => pure { s with pc := .returned (some .securityTooShort) }
        | some status =>
          if status = 0x00 ∨ status = 0x46 ∨ status = 0x58 ∨ status = 0x68 then
            pure { s with pc := .extendedSecurity }
          else pure { s with pc := .returned (some (.securityRefused status)) }
  | .extendedSecurity => do
      let _ ← checkedParameter resp err
      pure { s with pc := .clearing }
  | .clearing => do
      let _ ← checkedParameter resp err
      pure { s with pc := .forming }
  | .forming => do
      match ← checkedParameter resp err with
      | none => pure { s with pc := .waitHead }
      | some status =>
        if status = 0x00 then pure { s with pc := .waitHead, formStatus := status }
        else if status = 0x58 then
          pure { s with pc := .returned (some .blocked), formStatus := status }
        else if 0x18 ≤ status ∧ status ≤ 0x1F then
          pure { s with pc := .waitHead, formStatus := status }
        else pure { s with pc := .returned (some (.refused status)), formStatus := status }
  | .statePoll => do
      match ← checkedParameter resp err with
      | some state =>
        if joined state then
          pure { s with
            pc := .returned none
            lastPolledState := state
            evidence := some s.formed.isSome }
        else pure { s with pc := .waitHead, lastPolledState := state }
      | none => pure { s with pc := .waitHead }
  | _ => pure s

/-- A panic ends the call. -/
def Call.settled (s : Call) : Checked Call → Call
  | .ok t => t
  | .error _ => { s with pc := .crashed }

@[simp] theorem Call.settled_ok (s t : Call) : s.settled (.ok t) = t := rfl

@[simp] theorem Call.settled_pure (s t : Call) : s.settled (pure t) = t := rfl

@[simp] theorem Call.settled_error (s : Call) (panic : Panic) :
    s.settled (.error panic) = { s with pc := .crashed } := rfl

@[simp] theorem Call.settled_ite (s : Call) (c : Prop) [Decidable c] (x y : Checked Call) :
    s.settled (if c then x else y) = if c then s.settled x else s.settled y :=
  apply_ite s.settled c x y

def Call.answered (p : NetworkParameters) (s : Call) (r : Reply) : Call :=
  s.settled (s.resumed p r.resp r.err)

def Call.received (s : Call) (status : Byte) (fresh : Bool) (rest : Chan (Byte × Bool) 10) : Call :=
  match s.pc with
  | .notJoined =>
    if networkUp status then
      { s with pc := .returned none, stackStatusCh := rest, evidence := none }
    else { s with pc := .security, stackStatusCh := rest }
  | .waiting =>
    if networkUp status then
      { s with pc := .returned none, stackStatusCh := rest, evidence := some fresh }
    else if status = 0x91 then
      { s with pc := .returned (some .networkDown), stackStatusCh := rest }
    else { s with pc := .waitHead, stackStatusCh := rest }
  | _ => s

/-- How a call goes on with what it meets. -/
def step (p : NetworkParameters) (s : Call) : Action → Call
  | .callback status fresh =>
    { s with stackStatusCh := s.stackStatusCh.trySend (status, fresh && s.formed.isSome) }
  | .written => if s.pc = .forming then { s with formed := some (networkParams p) } else s
  | .answer r =>
    -- what was not sent is not answered
    if s.pc = .forming ∧ s.formed = none ∧ r.arrived = true then s else s.answered p r
  | .clock late =>
    match s.pc, late with
    | .restoreHead, none => { s with pc := .restorePoll }
    | .restoreHead, some _ => { s with pc := .security }
    | .waitHead, none => { s with pc := .waiting }
    | .waitHead, some elapsed =>
      { s with pc := .returned (some (.timeout elapsed s.formStatus s.lastPolledState)) }
    | _, _ => s
  | .receive =>
    match s.stackStatusCh.receive with
    | some ((status, fresh), rest) => s.received status fresh rest
    | none => s
  | .tick poll =>
    match s.pc with
    | .notJoined => { s with pc := .security }
    | .waiting => { s with pc := if poll then .statePoll else .waitHead }
    | _ => s

/-- The network asked for was reported, or was formed and the evidence came after that. -/
def Truthful (p : NetworkParameters) (s : Call) : Prop :=
  s.reported = some (requested p) ∨
    (∃ bytes, s.formed = some bytes ∧ readIdentity bytes = requested p) ∧ s.evidence = some true

/-- A call that returns without an error tells the truth. -/
def Honest (p : NetworkParameters) (s : Call) : Prop :=
  s.pc = .returned none → Truthful p s

/-- The answer or status, taken as evidence, is complete and recent. -/
def Verified (p : NetworkParameters) (s : Call) : Action → Prop
  | .answer r =>
    match s.pc, r with
    | .infoState, .response (state :: _) => joined state
    | .infoState, _ => False
    | .infoParams, .response (status :: rest) => status = 0x00 ∧ 19 ≤ rest.length
    | .infoParams, _ => False
    | .infoNode, .response params => 2 ≤ params.length ∨ s.reported = some (requested p)
    | .infoNode, .failed _ => s.reported = some (requested p)
    | .infoParent, .response params => 11 ≤ params.length ∨ s.reported = some (requested p)
    | .infoParent, .failed _ => s.reported = some (requested p)
    | .statePoll, .response (state :: _) => joined state → s.formed.isSome = true
    | _, _ => True
  | .receive =>
    ∀ status ∈ s.stackStatusCh.buffer.head?, networkUp status.1 →
      s.pc ≠ .notJoined ∧ (s.pc = .waiting → status.2 = true)
  | _ => True

/-! ## What a step can do -/

def Pc.concludes : Pc → Bool
  | .infoState | .infoParams | .infoNode | .infoParent | .statePoll => true
  | _ => false

/-- Nothing was reported before GET_NETWORK_PARAMETERS; what was before the forming is another
network. -/
def ReportOk (p : NetworkParameters) (s : Call) : Prop :=
  match s.pc with
  | .leaving | .init | .restoreHead | .restorePoll | .infoState | .infoParams | .notJoined =>
    s.reported = none
  | .mismatchLeave | .security | .extendedSecurity | .clearing | .forming | .waitHead | .waiting
  | .statePoll => s.reported ≠ some (requested p)
  | .infoNode | .infoParent | .returned _ | .crashed => True

/-- The invariant of a call. -/
structure Known (p : NetworkParameters) (s : Call) : Prop where
  report : ReportOk p s
  formed : ∀ bytes ∈ s.formed, bytes = networkParams p
  fresh : ∀ e ∈ s.stackStatusCh.buffer, e.2 = true → s.formed.isSome = true

variable {p : NetworkParameters} {s : Call}

theorem honest_of_pc (h : s.pc ≠ .returned none) : Honest p s :=
  fun hpc => absurd hpc h

theorem honest_unverified_iff (p : NetworkParameters) (s : Call) :
    Honest p s.unverified ↔ s.reported = some (requested p) := by
  simp [Honest, Truthful, Call.unverified]

theorem answered_pc {r : Reply} (hconcludes : s.pc.concludes = false)
    (hreturned : s.pc ≠ .returned none) : (s.answered p r).pc ≠ .returned none := by
  rcases r with (_ | ⟨status, rest⟩) | err <;> cases hpc : s.pc <;>
    simp [Call.answered, Call.resumed, hpc, ok_bind] <;> (try split_ifs) <;>
    simp_all [Pc.concludes]

theorem verified_answer {r : Reply} (hconcludes : s.pc.concludes = false) :
    Verified p s (.answer r) := by
  unfold Verified
  dsimp only
  split <;> simp_all [Pc.concludes]

theorem truthful_of_formed (hknown : Known p s) {s' : Call} (hformed : s'.formed = s.formed)
    (hsome : s.formed.isSome = true) (hevidence : s'.evidence = some true) : Truthful p s' := by
  obtain ⟨bytes, hbytes⟩ := Option.isSome_iff_exists.mp hsome
  have hread : readIdentity bytes = requested p := by
    rw [hknown.formed bytes hbytes]
    exact readIdentity_networkParams p
  exact Or.inr ⟨⟨bytes, hformed.trans hbytes, hread⟩, hevidence⟩

section

attribute [local simp] Call.answered Call.resumed Verified ok_bind

theorem honest_answered_iff (hknown : Known p s) (hhonest : Honest p s) (r : Reply) :
    Honest p (s.answered p r) ↔ Verified p s (.answer r) := by
  have hreport := hknown.report
  unfold ReportOk at hreport
  cases hpc : s.pc with
  | infoState =>
    rw [hpc] at hreport
    have hnone : ¬ s.reported = some (requested p) := by simp [hreport]
    rcases r with (_ | ⟨state, rest⟩) | err
    · simp [hpc, honest_unverified_iff, hnone]
    · simp [hpc]
      split
      · rename_i hjoined
        exact iff_of_true (honest_of_pc (by simp)) hjoined
      · rename_i hjoined
        rw [honest_unverified_iff]
        exact iff_of_false hnone hjoined
    · simp [hpc, honest_unverified_iff, hnone]
  | infoParams =>
    rw [hpc] at hreport
    have hnone : ¬ s.reported = some (requested p) := by simp [hreport]
    rcases r with (_ | ⟨status, rest⟩) | err
    · simp [hpc, honest_unverified_iff, hnone]
    · simp [hpc]
      split
      · rename_i hbad
        rw [honest_unverified_iff]
        refine iff_of_false hnone fun h => hbad.elim (fun hstatus => hstatus h.1) fun hlength => ?_
        omega
      · rename_i hgood
        refine iff_of_true (honest_of_pc (by simp)) ?_
        rw [not_or, not_not] at hgood
        exact ⟨hgood.1, by omega⟩
    · simp [hpc, honest_unverified_iff, hnone]
  | infoNode =>
    cases r with
    | response =>
      simp [hpc]
      split
      · rename_i hshort
        rw [honest_unverified_iff]
        exact ⟨Or.inr, fun h => h.resolve_left (by omega)⟩
      · exact iff_of_true (honest_of_pc (by simp)) (Or.inl (by omega))
    | failed => simp [hpc, honest_unverified_iff]
  | infoParent =>
    cases r with
    | response =>
      simp [hpc]
      split_ifs with hshort hsame
      · rw [honest_unverified_iff]
        exact ⟨Or.inr, fun h => h.resolve_left (by omega)⟩
      · exact iff_of_true (fun _ => Or.inl hsame) (Or.inr hsame)
      · exact iff_of_true (honest_of_pc (by simp)) (Or.inl (by omega))
    | failed => simp [hpc, honest_unverified_iff]
  | statePoll =>
    rw [hpc] at hreport
    rcases r with (_ | ⟨state, rest⟩) | err
    · simp [hpc]
      exact honest_of_pc (by simp)
    · simp [hpc]
      split
      · rename_i hjoined
        cases hformed : s.formed.isSome with
        | true =>
          exact iff_of_true (fun _ => truthful_of_formed hknown rfl hformed rfl) fun _ => rfl
        | false =>
          refine iff_of_false (fun h => ?_) (fun h => absurd (h hjoined) (by simp))
          rcases h rfl with hsame | ⟨-, hevidence⟩
          · exact hreport hsame
          · cases hevidence
      · rename_i hjoined
        exact iff_of_true (honest_of_pc (by simp)) fun h => absurd h hjoined
    · simp [hpc]
      exact honest_of_pc (by simp)
  | returned =>
    have hsame : s.answered p r = s := by simp [hpc]
    rw [hsame]
    exact iff_of_true hhonest (verified_answer (by simp [hpc, Pc.concludes]))
  | _ =>
    refine iff_of_true (honest_of_pc (answered_pc ?_ ?_)) (verified_answer ?_) <;>
      simp [hpc, Pc.concludes]

end

theorem honest_received_iff (hknown : Known p s) (hhonest : Honest p s) {status : Byte}
    {fresh : Bool} {rest : Chan (Byte × Bool) 10}
    (hreceive : s.stackStatusCh.receive = some ((status, fresh), rest)) :
    Honest p (s.received status fresh rest) ↔ Verified p s .receive := by
  have hbuffer := Chan.receive_eq_some hreceive
  have hreport := hknown.report
  unfold ReportOk at hreport
  have hverified : Verified p s .receive ↔
      (networkUp status → s.pc ≠ .notJoined ∧ (s.pc = .waiting → fresh = true)) := by
    simp [Verified, hbuffer]
  rw [hverified]
  cases hpc : s.pc with
  | notJoined =>
    rw [hpc] at hreport
    simp only [Call.received, hpc]
    split
    · rename_i hup
      refine iff_of_false (fun h => ?_) (fun h => (h hup).1 rfl)
      rcases h rfl with hsame | ⟨-, hevidence⟩
      · rw [hreport] at hsame
        cases hsame
      · cases hevidence
    · rename_i hup
      exact iff_of_true (honest_of_pc (by simp)) fun h => absurd h hup
  | waiting =>
    rw [hpc] at hreport
    simp only [Call.received, hpc]
    split_ifs with hup hdown
    · cases fresh with
      | true =>
        have hformed := hknown.fresh (status, true) (by simp [hbuffer]) rfl
        exact iff_of_true (fun _ => truthful_of_formed hknown rfl hformed rfl) (by simp)
      | false =>
        refine iff_of_false (fun h => ?_) (fun h => absurd ((h hup).2 trivial) (by simp))
        rcases h rfl with hsame | ⟨-, hevidence⟩
        · exact hreport hsame
        · cases hevidence
    · exact iff_of_true (honest_of_pc (by simp)) fun h => absurd h hup
    · exact iff_of_true (honest_of_pc (by simp)) fun h => absurd h hup
  | _ =>
    have hsame : s.received status fresh rest = s := by simp only [Call.received, hpc]
    rw [hsame]
    exact iff_of_true hhonest (by simp)

theorem honest_step_iff (hknown : Known p s) (hhonest : Honest p s) (a : Action) :
    Honest p (step p s a) ↔ Verified p s a := by
  cases a with
  | callback => exact iff_of_true hhonest trivial
  | written =>
    simp only [step]
    split
    · rename_i hpc
      exact iff_of_true (honest_of_pc (by simp [hpc])) trivial
    · exact iff_of_true hhonest trivial
  | answer r =>
    simp only [step]
    split
    · rename_i h
      exact iff_of_true hhonest (verified_answer (by simp [h.1, Pc.concludes]))
    · exact honest_answered_iff hknown hhonest r
  | clock =>
    simp only [step]
    split
    case h_5 => exact iff_of_true hhonest trivial
    all_goals exact iff_of_true (honest_of_pc (by simp)) trivial
  | receive =>
    simp only [step]
    split
    · rename_i status fresh rest hreceive
      exact honest_received_iff hknown hhonest hreceive
    · rename_i hempty
      have hbuffer := Chan.receive_eq_none hempty
      exact iff_of_true hhonest (by simp [Verified, hbuffer])
  | tick poll =>
    simp only [step]
    split
    · exact iff_of_true (honest_of_pc (by simp)) trivial
    · exact iff_of_true (honest_of_pc (by cases poll <;> simp)) trivial
    · exact iff_of_true hhonest trivial

/-! ## What every run keeps -/

theorem answered_frame (p : NetworkParameters) (s : Call) (r : Reply) :
    (s.answered p r).formed = s.formed ∧ (s.answered p r).stackStatusCh = s.stackStatusCh := by
  rcases r with (_ | ⟨status, rest⟩) | err <;> cases hpc : s.pc <;>
    simp [Call.answered, Call.resumed, hpc, ok_bind, Call.unverified] <;> split_ifs <;> simp

theorem reportOk_answered (h : ReportOk p s) (r : Reply) : ReportOk p (s.answered p r) := by
  unfold ReportOk at h
  rcases r with (_ | ⟨status, rest⟩) | err <;> cases hpc : s.pc <;>
    simp [Call.answered, Call.resumed, hpc, ok_bind, Call.unverified] <;> (try split_ifs) <;>
    simp_all [ReportOk]

theorem received_frame (s : Call) (status : Byte) (fresh : Bool) (rest : Chan (Byte × Bool) 10) :
    (s.received status fresh rest).formed = s.formed ∧
      ((s.received status fresh rest).stackStatusCh = rest ∨
        (s.received status fresh rest).stackStatusCh = s.stackStatusCh) := by
  unfold Call.received
  split <;> (try split_ifs) <;> simp

theorem reportOk_received (h : ReportOk p s) (status : Byte) (fresh : Bool)
    (rest : Chan (Byte × Bool) 10) : ReportOk p (s.received status fresh rest) := by
  unfold ReportOk at h
  unfold Call.received
  split <;> (try split_ifs) <;> simp_all [ReportOk]

theorem known_step (h : Known p s) (a : Action) : Known p (step p s a) := by
  have hreport := h.report
  unfold ReportOk at hreport
  cases a with
  | callback =>
    refine ⟨h.report, h.formed, ?_⟩
    intro e he htrue
    rcases Chan.mem_buffer_trySend he with he | rfl
    · exact h.fresh e he htrue
    · simp only [Bool.and_eq_true] at htrue
      exact htrue.2
  | written =>
    simp only [step]
    split
    · refine ⟨h.report, ?_, fun _ _ _ => rfl⟩
      rintro bytes ⟨⟩
      rfl
    · exact h
  | answer r =>
    simp only [step]
    split
    · exact h
    · obtain ⟨hformed, hchan⟩ := answered_frame p s r
      refine ⟨reportOk_answered h.report r, ?_, ?_⟩
      · rw [hformed]
        exact h.formed
      · rw [hformed, hchan]
        exact h.fresh
  | clock =>
    simp only [step]
    split <;> refine ⟨?_, h.formed, h.fresh⟩ <;> simp_all [ReportOk]
  | receive =>
    simp only [step]
    split
    · rename_i status fresh rest hreceive
      have hbuffer := Chan.receive_eq_some hreceive
      obtain ⟨hformed, hchan⟩ := received_frame s status fresh rest
      refine ⟨reportOk_received h.report status fresh rest, ?_, ?_⟩
      · rw [hformed]
        exact h.formed
      · rw [hformed]
        intro e he
        refine h.fresh e ?_
        rcases hchan with hchan | hchan
        · rw [hchan] at he
          rw [hbuffer]
          exact List.mem_cons_of_mem _ he
        · rwa [hchan] at he
    · exact h
  | tick poll =>
    simp only [step]
    split <;> refine ⟨?_, h.formed, h.fresh⟩ <;> cases poll <;> simp_all [ReportOk]

theorem known_start (p : NetworkParameters) (skipForcedLeave : Bool) (buffered : List Byte)
    (h : buffered.length ≤ 10) : Known p (Call.start skipForcedLeave buffered h) where
  report := by cases skipForcedLeave <;> rfl
  formed := by simp [Call.start]
  fresh := by
    intro e he htrue
    obtain ⟨status, -, rfl⟩ := List.mem_map.mp he
    cases htrue

/-- **When a call tells the truth.**  A call without an error has formed or found the network
asked for, exactly in the runs in which `GetNetworkInfo` can verify a restored network,
NETWORK_UP does not follow NOT_JOINED, and NETWORK_UP or a poll is taken for the new network
only if produced after FORM_NETWORK. -/
theorem formNetwork_honest_iff (p : NetworkParameters) (skipForcedLeave : Bool)
    (buffered : List Byte) (hbuffered : buffered.length ≤ 10) (actions : List Action) :
    (∀ n, Honest p (run (step p) (Call.start skipForcedLeave buffered hbuffered)
      (actions.take n))) ↔
      Along (step p) (Verified p) (Call.start skipForcedLeave buffered hbuffered) actions := by
  have hstart : Honest p (Call.start skipForcedLeave buffered hbuffered) := by
    apply honest_of_pc
    cases skipForcedLeave <;> simp [Call.start]
  have hexact : ∀ s, ∀ a ∈ actions, Known p s ∧ Honest p s →
      (Honest p (step p s a) ↔ Verified p s a) :=
    fun s a _ h => honest_step_iff h.1 h.2 a
  have hkeep : ∀ s, ∀ a ∈ actions, Known p s ∧ Honest p s → Verified p s a →
      Known p (step p s a) ∧ Honest p (step p s a) :=
    fun s a ha h hverified => ⟨known_step h.1 a, (hexact s a ha h).mpr hverified⟩
  exact property_iff_along (fun s h => h.2) hexact hkeep
    ⟨known_start p skipForcedLeave buffered hbuffered, hstart⟩

def newNetwork : NetworkParameters := ⟨0x1A62, 0x00124B0001020304, 15, zeroKey⟩

/-- The answers from NETWORK_INIT to CLEAR_KEY_TABLE when there is no network. -/
def upToForming : List Action :=
  [.answer (.response [0x70]), .answer (.response [0x00]), .answer (.response [0x00]),
    .answer (.response [0x00])]

/-- A network that is formed and comes up. -/
theorem formed_network_honest :
    ([] : List Byte).length ≤ 10 ∧
    Honest newNetwork (run (step newNetwork) (Call.start true [] (by decide))
      (upToForming ++ [.written, .answer (.response [0x00]), .clock none, .callback 0x90 true,
        .receive])) := by
  refine ⟨by decide, ?_⟩
  have hverified : Along (step newNetwork) (Verified newNetwork) (Call.start true [] (by decide))
      (upToForming ++ [.written, .answer (.response [0x00]), .clock none, .callback 0x90 true,
        .receive]) := by
    refine ⟨trivial, trivial, trivial, trivial, trivial, trivial, trivial, trivial, ?_, trivial⟩
    rintro status ⟨⟩ -
    exact ⟨by decide +kernel, fun _ => rfl⟩
  exact (formNetwork_honest_iff newNetwork true [] (by decide) _).mpr hverified 9

/-- No error though the restored network could not be verified, on NETWORK_UP after NOT_JOINED
or from before the call, and on a poll after a FORM_NETWORK never written. -/
theorem formNetwork_not_honest :
    ¬ Honest newNetwork (run (step newNetwork) (Call.start true [] (by decide))
      [.answer (.response [0x00]), .clock none, .answer (.response [0x02]),
        .answer (.failed "timeout")]) ∧
    ¬ Honest newNetwork (run (step newNetwork) (Call.start true [] (by decide))
      [.answer (.response [0x93]), .callback 0x90 false, .receive]) ∧
    ¬ Honest newNetwork (run (step newNetwork) (Call.start true [0x90] (by decide))
      (upToForming ++ [.written, .answer (.response [0x00]), .clock none, .receive])) ∧
    ¬ Honest newNetwork (run (step newNetwork) (Call.start true [] (by decide))
      (upToForming ++ [.answer (.failed "write"), .clock none, .tick true,
        .answer (.response [0x02])])) := by
  refine ⟨fun h => ?_, fun h => ?_, fun h => ?_, fun h => ?_⟩ <;>
    rcases h (by decide +kernel) with hsame | ⟨-, hevidence⟩
  all_goals first
    | exact absurd hsame (by decide +kernel)
    | exact absurd hevidence (by decide +kernel)

end IotController.Ember.FormNetwork
