/-
  Whom the findings of an interview are about.

  An interview of a short address asks for the node descriptor, for the list of active
  endpoints and for the descriptor of each of them.  Every response names the node that it
  is about, and the descriptor of an endpoint names the endpoint.  `Record` is what an
  interview has taken, with these names.
-/
import IotController.Dongle.Interview

namespace IotController.Dongle

open Foundation

/-! ## Responses -/

/-- A value and the node it is about. -/
structure Reply (α : Type) where
  nwkAddr : UInt16
  value : α
  deriving DecidableEq, Repr

/-- A response to an interview's question. -/
inductive Response where
  | nodeDescriptor (reply : Reply NodeDescriptor)
  | activeEP (reply : Reply (List Byte))
  | simpleDescriptor (reply : Reply EndpointInfo)
  deriving DecidableEq, Repr

def Response.nwkAddr : Response → UInt16
  | nodeDescriptor reply => reply.nwkAddr
  | activeEP reply => reply.nwkAddr
  | simpleDescriptor reply => reply.nwkAddr

def Response.endpoint : Response → Option UInt32
  | simpleDescriptor reply => some reply.value.id
  | nodeDescriptor _ | activeEP _ => none

/-- It is about the node and the endpoint asked for. -/
structure Response.Answers (r : Response) (networkAddress : UInt16) (asked : Option Byte) :
    Prop where
  node : r.nwkAddr = networkAddress
  endpoint : ∀ id ∈ r.endpoint, ∀ e ∈ asked, id = e.toUInt32

/-! ## Records -/

/-- What an interview has taken.  Endpoints stand with the one that was asked for. -/
structure Record where
  networkAddress : UInt16
  descriptor : Option (Reply NodeDescriptor) := none
  listed : Option (Reply (List Byte)) := none
  described : List (Byte × Reply EndpointInfo) := []
  deriving DecidableEq, Repr

def Record.info (r : Record) : DeviceInterviewInfo :=
  interviewInfo r.networkAddress (r.descriptor.map Reply.value) (r.described.map fun x => x.2.value)

def Record.active (r : Record) : List Byte := (r.listed.map Reply.value).getD []

theorem Record.info_endpoints (r : Record) :
    r.info.endpoints = r.described.map fun x => x.2.value := by
  unfold Record.info interviewInfo
  split <;> rfl

/-- Every entry comes from a response about the node that was asked; each endpoint was listed,
as often as it comes. -/
structure Attributed (heard : Response → Prop) (r : Record) : Prop where
  descriptor : ∀ d ∈ r.descriptor, d.nwkAddr = r.networkAddress ∧ heard (.nodeDescriptor d)
  listed : ∀ l ∈ r.listed, l.nwkAddr = r.networkAddress ∧ heard (.activeEP l)
  described : ∀ x ∈ r.described, x.2.nwkAddr = r.networkAddress ∧
    heard (.simpleDescriptor x.2) ∧ x.2.value.id = x.1.toUInt32 ∧ x.1 ∈ r.active
  once : ∀ id, (r.info.endpoints.map EndpointInfo.id).count id ≤
    (r.active.map UInt8.toUInt32).count id

/-! ## On the way -/

/-- What an interview has taken so far, when the endpoints `remaining` are still to be
asked for. -/
structure Findings (heard : Response → Prop) (r : Record) (remaining : List Byte) : Prop where
  descriptor : ∀ d ∈ r.descriptor, d.nwkAddr = r.networkAddress ∧ heard (.nodeDescriptor d)
  listed : ∀ l ∈ r.listed, l.nwkAddr = r.networkAddress ∧ heard (.activeEP l)
  described : ∀ x ∈ r.described, x.2.nwkAddr = r.networkAddress ∧
    heard (.simpleDescriptor x.2) ∧ x.2.value.id = x.1.toUInt32
  ordered : (r.described.map Prod.fst ++ remaining).Sublist r.active

variable {heard : Response → Prop}

theorem findings_init (networkAddress : UInt16) : Findings heard { networkAddress } [] where
  descriptor := by simp
  listed := by simp
  described := by simp
  ordered := List.Sublist.refl _

namespace Findings

variable {r : Record} {remaining : List Byte} (h : Findings heard r remaining)
include h

theorem takeDescriptor {d : Reply NodeDescriptor} (hnode : d.nwkAddr = r.networkAddress)
    (hheard : heard (.nodeDescriptor d)) :
    Findings heard { r with descriptor := some d } remaining where
  descriptor := by
    rintro d' ⟨⟩
    exact ⟨hnode, hheard⟩
  listed := h.listed
  described := h.described
  ordered := h.ordered

theorem takeList {l : Reply (List Byte)} (hnode : l.nwkAddr = r.networkAddress)
    (hheard : heard (.activeEP l)) (hfirst : r.described = []) :
    Findings heard { r with listed := some l } l.value where
  descriptor := h.descriptor
  listed := by
    rintro l' ⟨⟩
    exact ⟨hnode, hheard⟩
  described := h.described
  ordered := by
    rw [hfirst]
    exact List.Sublist.refl _

theorem skip {rest : List Byte} (hrest : rest.Sublist remaining) : Findings heard r rest where
  descriptor := h.descriptor
  listed := h.listed
  described := h.described
  ordered := (hrest.append_left _).trans h.ordered

theorem takeEndpoint {endpoint : Byte} {rest : List Byte}
    (hremaining : remaining = endpoint :: rest) {d : Reply EndpointInfo}
    (hnode : d.nwkAddr = r.networkAddress) (hheard : heard (.simpleDescriptor d))
    (hid : d.value.id = endpoint.toUInt32) :
    Findings heard { r with described := r.described ++ [(endpoint, d)] } rest where
  descriptor := h.descriptor
  listed := h.listed
  described := by
    intro x hx
    rcases List.mem_append.mp hx with hx | hx
    · exact h.described x hx
    · rw [List.mem_singleton] at hx
      subst hx
      exact ⟨hnode, hheard, hid⟩
  ordered := by
    have hordered := h.ordered
    rw [hremaining] at hordered
    have happend : (r.described ++ [(endpoint, d)]).map Prod.fst ++ rest =
        r.described.map Prod.fst ++ endpoint :: rest := by simp
    show List.Sublist (_ ++ rest) r.active
    rw [happend]
    exact hordered

/-- **What an interview has taken is attributed at any time.** -/
theorem attributed : Attributed heard r := by
  have hsub : (r.described.map Prod.fst).Sublist r.active :=
    (List.sublist_append_left _ _).trans h.ordered
  refine ⟨h.descriptor, h.listed, ?_, ?_⟩
  · intro x hx
    obtain ⟨hnode, hheard, hid⟩ := h.described x hx
    exact ⟨hnode, hheard, hid, hsub.subset (List.mem_map_of_mem hx)⟩
  · intro id
    -- the entries have the ids that were asked for, in that order
    have hids : r.info.endpoints.map EndpointInfo.id =
        (r.described.map Prod.fst).map UInt8.toUInt32 := by
      rw [r.info_endpoints, List.map_map, List.map_map]
      refine List.map_congr_left fun x hx => ?_
      exact (h.described x hx).2.2
    rw [hids]
    exact (hsub.map _).count_le id

end Findings

end IotController.Dongle
