/-
  Forming a network when the radio processor is silent.

  `sendEZSPCommand` returns a nil pointer with its error, and the code behind each command
  of `FormNetwork` and `GetNetworkInfo` has its own check before it reads the response.
-/
import IotController.Ember.FormNetwork

namespace IotController.Ember.FormNetwork

open Foundation Dongle

variable (p : NetworkParameters)

def checkedStep (s : Call) : Action → Checked Call
  | .answer r =>
    if s.pc = .forming ∧ s.formed = none ∧ r.arrived = true then pure s
    else s.resumed p r.resp r.err
  | .callback status fresh => pure (step p s (.callback status fresh))
  | .written => pure (step p s .written)
  | .clock late => pure (step p s (.clock late))
  | .receive => pure (step p s .receive)
  | .tick poll => pure (step p s (.tick poll))

/-- LEAVE_NETWORK after a mismatch does not fail. -/
def LeaveAnswered (s : Call) (a : Action) : Prop :=
  s.pc = .mismatchLeave → ∀ err, a ≠ .answer (.failed err)

/-! ## Silence -/

theorem resumed_answered {s : Call} {r : Reply} (h : s.pc = .mismatchLeave → ∀ err, r ≠ .failed err) :
    s.resumed p r.resp r.err = .ok (s.answered p r) := by
  have hok : ∃ t, s.resumed p r.resp r.err = .ok t := by
    rcases r with (_ | ⟨status, rest⟩) | err <;> cases hpc : s.pc
    case failed.mismatchLeave => exact absurd rfl (h hpc err)
    all_goals
      simp only [Call.resumed, hpc, Reply.resp, Reply.err, checkedParameter_none,
        checkedParameter_some, firstParameter_nil, firstParameter_cons, parameters, ok_bind]
      (try split_ifs) <;> exact ⟨_, rfl⟩
  obtain ⟨t, ht⟩ := hok
  rw [Call.answered, ht, Call.settled_ok]

theorem resumed_silentLeave {s : Call} (h : s.pc = .mismatchLeave) (err : Option String) :
    s.resumed p none err = .error .nilPointer := by
  unfold Call.resumed
  rw [h]
  rfl

theorem checkedStep_ok (s : Call) (a : Action) (h : LeaveAnswered s a) :
    checkedStep p s a = .ok (step p s a) := by
  cases a with
  | answer r =>
    have hresumed := resumed_answered p fun hpc err hr => h hpc err (congrArg Action.answer hr)
    rw [checkedStep, step, hresumed, apply_ite Except.ok]
    rfl
  | callback | written | clock | receive | tick => rfl

theorem checkedStep_panics (s : Call) (a : Action) (h : ¬ LeaveAnswered s a) :
    ∃ panic, checkedStep p s a = .error panic := by
  unfold LeaveAnswered at h
  push Not at h
  obtain ⟨hpc, err, rfl⟩ := h
  refine ⟨.nilPointer, ?_⟩
  have hsent : ¬ (s.pc = .forming ∧ s.formed = none ∧ (Reply.failed err).arrived = true) :=
    fun hforming => nomatch hforming.2.2
  rw [checkedStep, if_neg hsent]
  exact resumed_silentLeave p hpc (some err)

/-- **When a call survives silence.**  Whatever the commands of `FormNetwork` return, the
parameters of a response that did not arrive are never read, exactly in the runs in which
LEAVE_NETWORK does not fail after a restored network did not match. -/
theorem formNetwork_survives_iff (p : NetworkParameters) (skipForcedLeave : Bool)
    (buffered : List Byte) (hbuffered : buffered.length ≤ 10) (actions : List Action) :
    (∀ panic, actions.foldlM (checkedStep p) (Call.start skipForcedLeave buffered hbuffered) ≠
      .error panic) ↔
      Along (step p) LeaveAnswered (Call.start skipForcedLeave buffered hbuffered) actions :=
  foldlM_safe_iff_along (checkedStep_ok p) (checkedStep_panics p) actions _

def otherNetwork : List Action :=
  [.answer (.response [0x00]), .clock none, .answer (.response [0x02]),
    .answer (.response [0x02]),
    .answer (.response [0x00, 0x01, 0, 0, 0, 0, 0, 0, 0, 1, 0x34, 0x12, 3, 11, 0, 0, 0, 0, 0, 0]),
    .answer (.response [0x00, 0x00]), .answer (.response [0, 0, 0, 0, 0, 0, 0, 0, 0, 0xFF, 0xFF])]

/-- It is left, and SET_INITIAL_SECURITY_STATE stays without an answer. -/
theorem otherNetwork_left :
    ([] : List Byte).length ≤ 10 ∧
    ∀ panic, List.foldlM (checkedStep newNetwork) (Call.start true [] (by decide))
      (otherNetwork ++ [.answer (.response [0x00]), .answer (.failed "timeout")]) ≠
        .error panic := by
  refine ⟨by decide, (formNetwork_survives_iff newNetwork true [] (by decide) _).mpr ?_⟩
  refine ⟨fun _ _ => nofun, fun _ _ => nofun, fun _ _ => nofun, fun _ _ => nofun,
    fun _ _ => nofun, fun _ _ => nofun, fun _ _ => nofun, fun _ _ => nofun, ?_, trivial⟩
  exact fun hpc => absurd hpc (by decide +kernel)

/-- LEAVE_NETWORK times out, and the call crashes. -/
theorem otherNetwork_crashes :
    List.foldlM (checkedStep newNetwork) (Call.start true [] (by decide))
      (otherNetwork ++ [.answer (.failed "timeout")]) = .error .nilPointer := by
  rfl

end IotController.Ember.FormNetwork
