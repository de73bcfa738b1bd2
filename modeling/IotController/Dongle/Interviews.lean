/-
  What the two implementations of `InterviewDevice` return for a
  short address (`pkg/zigbee-dongle/znp/interview.go`, `pkg/zigbee-dongle/ember/interview.go`).

  Both match a response to a request by its kind alone.
-/
import IotController.Ember.Interview
import IotController.Znp.Attribution

namespace IotController.Dongle

open Foundation

/-- **What interviews return is attributed** when each response given to an interview answers
what it asked. -/
theorem interviews_attributed (frames : List Znp.Action) (callbacks : List Ember.Interview.Action)
    (hznp : Along Znp.step Znp.Addressed {} frames)
    (hember : Along Ember.Interview.step Ember.Interview.Addressed {} callbacks) :
    (∀ i ∈ (run Znp.step {} frames).returned, i.record.info = i.info ∧
      Attributed (Znp.Heard frames) i.record) ∧
    ∀ r ∈ (run Ember.Interview.step {} callbacks).returned,
      Attributed (Ember.Interview.Heard callbacks) r := by
  have hfirst := Znp.attributing_run hznp
  have hsecond := Ember.Interview.attributing_run hember
  exact ⟨fun i hi => ⟨i.record_info, hfirst.returned i hi⟩, hsecond.returned⟩

/-! ## Two interviews of one device -/

/-- An interview of `0x1234` over the ZNP, whose node descriptor is answered for `node`. -/
def znpInterview (node : UInt16) : List Znp.Action :=
  [.interview 0 0x1234, .advance 0, .advance 0, .advance 0,
    .frame (.response Znp.Query.nodeDescriptor.request), .fulfill, .advance 0,
    .frame (.nodeDescriptor ⟨0, node, ⟨2, 0x80, 0x115f⟩⟩), .fulfill, .advance 0,
    .advance 0, .advance 0, .advance 0,
    .frame (.response Znp.Query.activeEP.request), .fulfill, .advance 0,
    .frame (.activeEP ⟨0, 0x1234, [1], by decide⟩), .fulfill, .advance 0,
    .advance 0, .advance 0, .advance 0,
    .frame (.response Znp.Query.simpleDescriptor.request), .fulfill, .advance 0,
    .frame (.simpleDescriptor ⟨0, 0x1234, 1, 0x0104, 0x0302, 0, [0x0402], []⟩), .fulfill,
    .advance 0, .advance 0, .advance 0, .advance 0, .advance 0]

def zdpResponse (cluster : Byte) (payload : List Byte) : Ember.Interview.Action :=
  .callback false ⟨0, Ember.ezspResponse, Ember.incomingMessageHandler,
    [0, 0, 0, cluster, 0x80, 0, 0, 0, 0, 0, 0, 0, 0xFF, 0, 0x34, 0x12, 0, 0,
      payload.length.toUInt8] ++ payload⟩

/-- The same over the Ember stack; `low` and `high` are the bytes of the node described. -/
def emberInterview (low high : Byte) : List Ember.Interview.Action :=
  [.interview 0 0x1234, .event 0 .advance, .event 0 .advance,
    zdpResponse 0x02 [0, 0, low, high, 2, 0, 0x80, 0x5f, 0x11, 0, 0, 0, 0, 0, 0, 0, 0],
    .event 0 .advance, .event 0 .advance, .event 0 .advance, .event 0 .advance,
    zdpResponse 0x05 [0, 0, 0x34, 0x12, 1, 1],
    .event 0 .advance, .event 0 .advance, .event 0 .advance, .event 0 .advance,
    zdpResponse 0x04 [0, 0, 0x34, 0x12, 10, 1, 0x04, 0x01, 0x02, 0x03, 0, 1, 0x02, 0x04, 0],
    .event 0 .advance, .event 0 .advance]

theorem znpInterview_addressed : Along Znp.step Znp.Addressed {} (znpInterview 0x1234) := by
  refine ⟨trivial, trivial, trivial, trivial, ?_, trivial, trivial, ?_, trivial, trivial, trivial,
    trivial, trivial, ?_, trivial, trivial, ?_, trivial, trivial, trivial, trivial, trivial, ?_,
    trivial, trivial, ?_, trivial, trivial, trivial, trivial, trivial, trivial, trivial⟩
  · rintro - t i k - - - r ⟨⟩
  · rintro - (_ | t) i k hcall - - r hr
    · cases hcall
      cases hr
      exact ⟨rfl, fun _ h => nomatch h⟩
    · cases hcall
  · rintro - t i k - - - r ⟨⟩
  · rintro - (_ | t) i k hcall - - r hr
    · cases hcall
      cases hr
      exact ⟨rfl, fun _ h => nomatch h⟩
    · cases hcall
  · rintro - t i k - - - r ⟨⟩
  · rintro - (_ | t) i k hcall - - r hr
    · cases hcall
      cases hr
      refine ⟨rfl, ?_⟩
      rintro id ⟨⟩ e ⟨⟩
      rfl
    · cases hcall

theorem emberInterview_addressed :
    Along Ember.Interview.step Ember.Interview.Addressed {} (emberInterview 0x34 0x12) := by
  refine ⟨trivial, trivial, trivial, ?_, trivial, trivial, trivial, trivial, ?_, trivial, trivial,
    trivial, trivial, ?_, trivial, trivial, trivial⟩
  · rintro profileID msg w hmsg - - (_ | t) c hc - r hr
    · cases hmsg
      cases hc
      cases hr
      exact ⟨rfl, fun _ h => nomatch h⟩
    · cases hc
  · rintro profileID msg w hmsg - - (_ | t) c hc - r hr
    · cases hmsg
      cases hc
      cases hr
      exact ⟨rfl, fun _ h => nomatch h⟩
    · cases hc
  · rintro profileID msg w hmsg - - (_ | t) c hc - r hr
    · cases hmsg
      cases hc
      cases hr
      refine ⟨rfl, ?_⟩
      rintro id ⟨⟩ e ⟨⟩
      rfl
    · cases hc

/-- Both return, and what they return is attributed. -/
theorem own_responses_attributed :
    (run Znp.step {} (znpInterview 0x1234)).returned.length = 1 ∧
    (run Ember.Interview.step {} (emberInterview 0x34 0x12)).returned.length = 1 ∧
    (∀ i ∈ (run Znp.step {} (znpInterview 0x1234)).returned, i.record.info = i.info ∧
      Attributed (Znp.Heard (znpInterview 0x1234)) i.record) ∧
    ∀ r ∈ (run Ember.Interview.step {} (emberInterview 0x34 0x12)).returned,
      Attributed (Ember.Interview.Heard (emberInterview 0x34 0x12)) r :=
  ⟨by decide, by decide, interviews_attributed _ _ znpInterview_addressed emberInterview_addressed⟩

/-- **A response of another node is taken**: both return that of `0x5678` for `0x1234`. -/
theorem foreign_response_taken :
    (∃ i ∈ (run Znp.step {} (znpInterview 0x5678)).returned,
      ¬ Attributed (Znp.Heard (znpInterview 0x5678)) i.record) ∧
    ∃ r ∈ (run Ember.Interview.step {} (emberInterview 0x78 0x56)).returned,
      ¬ Attributed (Ember.Interview.Heard (emberInterview 0x78 0x56)) r := by
  have hznp : ∃ i ∈ (run Znp.step {} (znpInterview 0x5678)).returned,
      i.record.networkAddress = 0x1234 ∧ ∃ d ∈ i.record.descriptor, d.nwkAddr = 0x5678 :=
    ⟨_, List.mem_singleton.mpr rfl, rfl, _, rfl, rfl⟩
  have hember : ∃ r ∈ (run Ember.Interview.step {} (emberInterview 0x78 0x56)).returned,
      r.networkAddress = 0x1234 ∧ ∃ d ∈ r.descriptor, d.nwkAddr = 0x5678 :=
    ⟨_, List.mem_singleton.mpr rfl, rfl, _, rfl, rfl⟩
  have hforeign : ∀ (heard : Response → Prop) (r : Record), r.networkAddress = 0x1234 →
      (∃ d ∈ r.descriptor, d.nwkAddr = 0x5678) → ¬ Attributed heard r := by
    rintro heard r hnode ⟨d, hd, haddress⟩ h
    have hsame := (h.descriptor d hd).1
    rw [haddress, hnode] at hsame
    exact absurd hsame (by decide)
  obtain ⟨i, hi, hnode, hd⟩ := hznp
  obtain ⟨r, hr, hnode', hd'⟩ := hember
  exact ⟨⟨i, hi, hforeign _ _ hnode hd⟩, ⟨r, hr, hforeign _ _ hnode' hd'⟩⟩

end IotController.Dongle
