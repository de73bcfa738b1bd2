/-
  The handlers of the ZNP port
  (`pkg/zigbee-dongle/znp/port.go`, the messages of `commands.go`).

  Whoever waits for a frame registers a handler under the frame's header.  A handler has a
  slot for one result, which is put there by the thread that reads frames or by the
  handler's timer; whichever comes first takes the handler out of the table and only then
  sends.  All sends wait while the slot is full.
-/
import IotController.Dongle.Interview
import IotController.Foundation.Channel

namespace IotController.Znp

open Foundation Dongle

/-! ## Frames -/

/-- The types of frames. -/
inductive FrameType where
  | poll
  | sreq
  | areq
  | srsp
  deriving DecidableEq, Repr

def subsystemAF : Byte := 4
def subsystemZDO : Byte := 5

/-- What tells commands apart. -/
structure FrameHeader where
  type : FrameType
  subsystem : Byte
  id : Byte
  deriving DecidableEq, Repr

def FrameType.code : FrameType → Byte
  | .poll => 0
  | .sreq => 1
  | .areq => 2
  | .srsp => 3

def FrameType.text : FrameType → String
  | .poll => "POLL"
  | .sreq => "SREQ"
  | .areq => "AREQ"
  | .srsp => "SRSP"

def subsystemText (subsystem : Byte) : String :=
  (["RPC_ERROR", "SYS", "MAC", "NWK", "AF", "ZDO", "SAPI", "UTIL", "DEBUG", "APP"][
    subsystem.toNat]?).getD ("Reserved(" ++ toString subsystem.toNat ++ ")")

def FrameHeader.text (header : FrameHeader) : String :=
  "\x7b" ++ header.type.text ++ " " ++ subsystemText header.subsystem ++ " 0x" ++
    String.ofList (Nat.toDigits 16 header.id.toNat) ++ "\x7d"

def FrameHeader.response (header : FrameHeader) : FrameHeader := { header with type := .srsp }

/-- The questions of an interview. -/
inductive Query where
  | nodeDescriptor
  | activeEP
  | simpleDescriptor
  deriving DecidableEq, Repr

def Query.request : Query → FrameHeader
  | nodeDescriptor => ⟨.sreq, subsystemZDO, 0x02⟩
  | activeEP => ⟨.sreq, subsystemZDO, 0x05⟩
  | simpleDescriptor => ⟨.sreq, subsystemZDO, 0x04⟩

def Query.indication : Query → FrameHeader
  | nodeDescriptor => ⟨.areq, subsystemZDO, 0x82⟩
  | activeEP => ⟨.areq, subsystemZDO, 0x85⟩
  | simpleDescriptor => ⟨.areq, subsystemZDO, 0x84⟩

def afDataRequest : FrameHeader := ⟨.sreq, subsystemAF, 0x01⟩

theorem indication_ne_response (q : Query) (header : FrameHeader) :
    q.indication ≠ header.response := by
  cases q <;> simp [Query.indication, FrameHeader.response]

theorem response_ne_af (q : Query) : q.request.response ≠ afDataRequest.response := by
  cases q <;> decide

/-- The answer about a node. -/
structure ZdoNodeDescriptor where
  status : Byte
  nwkAddr : UInt16
  descriptor : NodeDescriptor
  deriving DecidableEq, Repr

/-- A list has one byte for its length. -/
structure ZdoActiveEP where
  status : Byte
  nwkAddr : UInt16
  activeEPs : List Byte
  bounded : activeEPs.length ≤ 255
  deriving DecidableEq, Repr

/-- The answer about an endpoint. -/
structure ZdoSimpleDescriptor where
  status : Byte
  nwkAddr : UInt16
  endpoint : Byte
  appProfileID : UInt16
  appDeviceID : UInt16
  appDeviceVer : Byte
  inClusters : List UInt16
  outClusters : List UInt16
  deriving DecidableEq, Repr

/-- A command that the port has read. -/
inductive Command where
  /-- the answer to a synchronous request -/
  | response (request : FrameHeader)
  | nodeDescriptor (d : ZdoNodeDescriptor)
  | activeEP (l : ZdoActiveEP)
  | simpleDescriptor (d : ZdoSimpleDescriptor)
  deriving DecidableEq, Repr

def Command.header : Command → FrameHeader
  | response request => request.response
  | nodeDescriptor _ => Query.nodeDescriptor.indication
  | activeEP _ => Query.activeEP.indication
  | simpleDescriptor _ => Query.simpleDescriptor.indication

/-! ## Handlers -/

/-- The timer of a handler. -/
inductive Timer where
  | armed
  /-- it has taken the handler out of the table and is to send -/
  | failing
  /-- it was stopped, came too late or has sent -/
  | spent
  deriving DecidableEq, Repr

def Timer.stop : Timer → Timer
  | armed => spent
  | t => t

def Timer.isFailing : Timer → Bool
  | failing => true
  | _ => false

@[simp] theorem Timer.isFailing_iff (t : Timer) : t.isFailing = true ↔ t = .failing := by
  cases t <;> simp [isFailing]

abbrev HandlerResult : Type := Option Command

/-- A slot for one result, with its timer. -/
structure Handler where
  header : FrameHeader
  results : Chan HandlerResult 1
  timer : Timer

/-- Handlers are numbered as they are made. -/
structure Port where
  handlers : FrameHeader → Option Nat
  handler : Nat → Handler
  next : Nat
  reader : Option (Nat × Command)

def Port.init : Port where
  handlers _ := none
  handler _ := ⟨afDataRequest, .empty, .spent⟩
  next := 0
  reader := none

def Port.setHandler (p : Port) (h : Nat) (x : Handler) : Port :=
  { p with handler := Function.update p.handler h x }

def Port.delete (p : Port) (header : FrameHeader) : Port :=
  { p with handlers := Function.update p.handlers header none }

/-- `registerHandler` with a time-out, for the handler numbered `p.next`; `none` when it
panics. -/
def Port.registerHandler (p : Port) (header : FrameHeader) : Option Port :=
  match p.handlers header with
  | some _ => none
  | none => some
      { p with
        handlers := Function.update p.handlers header (some p.next)
        handler := Function.update p.handler p.next ⟨header, .empty, .armed⟩
        next := p.next + 1 }

def Port.put (p : Port) (h : Nat) (result : HandlerResult) : Option Port :=
  ((p.handler h).results.send result).map fun results =>
    p.setHandler h { p.handler h with results }

def Port.fail (p : Port) (h : Nat) : Option Port := p.put h none

def Port.receive (p : Port) (h : Nat) : Option (HandlerResult × Port) :=
  (p.handler h).results.receive.map fun (result, results) =>
    (result, p.setHandler h { p.handler h with results })

/-- The timer of a handler runs out: `removeHandler` up to its `fail`. -/
def Port.removeHandler (p : Port) (h : Nat) : Port :=
  if (p.handler h).timer = .armed then
    if p.handlers (p.handler h).header = some h then
      (p.setHandler h { p.handler h with timer := .failing }).delete (p.handler h).header
    else p.setHandler h { p.handler h with timer := .spent }
  else p

def Port.timerFail (p : Port) (h : Nat) : Port :=
  if (p.handler h).timer = .failing then
    match p.fail h with
    | some p => p.setHandler h { p.handler h with timer := .spent }
    | none => p
  else p

/-- `handleFrame` up to its `fulfill`.  The loop takes the next frame when it is through
with the last. -/
def Port.handleFrame (p : Port) (c : Command) : Port :=
  match p.reader, p.handlers c.header with
  | none, some h => { p.delete c.header with reader := some (h, c) }
  | _, _ => p

def Port.fulfill (p : Port) : Port :=
  match p.reader with
  | none => p
  | some (h, c) =>
    match p.put h (some c) with
    | none => p
    | some p =>
      { p.setHandler h { p.handler h with timer := (p.handler h).timer.stop } with
        reader := none }

/-! ## What the operations do -/

section Operations

variable {p p' : Port}

theorem registerHandler_eq_some {header : FrameHeader} (h : p.registerHandler header = some p') :
    p.handlers header = none ∧ p' =
      { p with
        handlers := Function.update p.handlers header (some p.next)
        handler := Function.update p.handler p.next ⟨header, .empty, .armed⟩
        next := p.next + 1 } := by
  unfold Port.registerHandler at h
  cases hheader : p.handlers header with
  | some => simp [hheader] at h
  | none =>
    simp only [hheader, Option.some.injEq] at h
    exact ⟨rfl, h.symm⟩

theorem registerHandler_eq_none {header : FrameHeader} (h : p.registerHandler header = none) :
    ∃ k, p.handlers header = some k := by
  unfold Port.registerHandler at h
  cases hheader : p.handlers header with
  | some k => exact ⟨k, rfl⟩
  | none => simp [hheader] at h

theorem put_eq_some {k : Nat} {result : HandlerResult} (h : p.put k result = some p') :
    (p.handler k).results.buffer = [] ∧ ∃ results : Chan HandlerResult 1,
      results.buffer = [result] ∧ p' = p.setHandler k { p.handler k with results } := by
  unfold Port.put at h
  cases hsend : (p.handler k).results.send result with
  | none => simp [hsend] at h
  | some results =>
    obtain ⟨hroom, hbuffer⟩ := Chan.send_eq_some hsend
    have hempty : (p.handler k).results.buffer = [] :=
      List.eq_nil_of_length_eq_zero (Nat.lt_one_iff.mp hroom)
    simp only [hsend, Option.map_some, Option.some.injEq] at h
    refine ⟨hempty, results, ?_, h.symm⟩
    rw [hbuffer, hempty, List.nil_append]

theorem exists_put {k : Nat} (result : HandlerResult) (h : (p.handler k).results.buffer = []) :
    ∃ p', p.put k result = some p' := by
  have hroom : (p.handler k).results.HasRoom := by
    simp [Chan.HasRoom, h]
  rw [Port.put, Chan.send, dif_pos hroom]
  exact ⟨_, rfl⟩

theorem receive_eq_some {k : Nat} {result : HandlerResult} (h : p.receive k = some (result, p')) :
    (p.handler k).results.buffer = [result] ∧ ∃ results : Chan HandlerResult 1,
      results.buffer = [] ∧ p' = p.setHandler k { p.handler k with results } := by
  unfold Port.receive at h
  cases hreceive : (p.handler k).results.receive with
  | none => simp [hreceive] at h
  | some out =>
    obtain ⟨first, results⟩ := out
    simp only [hreceive, Option.map_some, Option.some.injEq, Prod.mk.injEq] at h
    obtain ⟨rfl, rfl⟩ := h
    have hbuffer := Chan.receive_eq_some hreceive
    have hbounded := (p.handler k).results.bounded
    rw [hbuffer, List.length_cons] at hbounded
    have hrest : results.buffer = [] := List.eq_nil_of_length_eq_zero (by omega)
    exact ⟨by rw [hbuffer, hrest], results, hrest, rfl⟩

theorem exists_receive {k : Nat} {result : HandlerResult}
    (h : (p.handler k).results.buffer = [result]) : ∃ p', p.receive k = some (result, p') := by
  cases hreceive : p.receive k with
  | none =>
    have hnone : (p.handler k).results.receive = none := by
      simpa [Port.receive] using hreceive
    rw [Chan.receive_eq_none hnone] at h
    cases h
  | some out =>
    obtain ⟨first, p'⟩ := out
    have hfirst := (receive_eq_some hreceive).1
    rw [h] at hfirst
    cases hfirst
    exact ⟨p', rfl⟩

end Operations

/-! ## What always holds -/

/-- A registered handler has its own header and a running timer.  The loop holds frames for
handlers it took out of the table.  Results are of the header's kind, and free numbers stand for
nothing. -/
structure Port.Valid (p : Port) : Prop where
  keyed : ∀ header h, p.handlers header = some h →
    h < p.next ∧ (p.handler h).header = header ∧ (p.handler h).timer = .armed
  reader : ∀ h c, p.reader = some (h, c) →
    h < p.next ∧ (p.handler h).header = c.header ∧ p.handlers c.header ≠ some h
  fresh : ∀ h, p.next ≤ h → (p.handler h).results.buffer = [] ∧ (p.handler h).timer = .spent
  typed : ∀ h c, some c ∈ (p.handler h).results.buffer → c.header = (p.handler h).header

theorem Port.valid_init : Port.init.Valid where
  keyed := by simp [Port.init]
  reader := by simp [Port.init]
  fresh := by simp [Port.init]
  typed := by simp [Port.init]

namespace Port.Valid

variable {p p' : Port} (hv : p.Valid)
include hv

theorem delete (header : FrameHeader) : (p.delete header).Valid where
  keyed := by
    intro hd h hreg
    by_cases heq : hd = header
    · simp [Port.delete, heq] at hreg
    · simp only [Port.delete, Function.update_of_ne heq] at hreg
      exact hv.keyed hd h hreg
  reader := by
    intro h c hreader
    obtain ⟨hlt, hheader, hout⟩ := hv.reader h c hreader
    refine ⟨hlt, hheader, ?_⟩
    by_cases heq : c.header = header
    · simp [Port.delete, heq]
    · simpa only [Port.delete, Function.update_of_ne heq] using hout
  fresh := hv.fresh
  typed := hv.typed

theorem setHandler {k : Nat} {x : Handler} (hlt : k < p.next)
    (hheader : x.header = (p.handler k).header)
    (htimer : ∀ header, p.handlers header = some k → x.timer = .armed)
    (htyped : ∀ c, some c ∈ x.results.buffer → c.header = x.header) :
    (p.setHandler k x).Valid where
  keyed := by
    intro hd h hreg
    obtain ⟨hlt', hhd, harmed⟩ := hv.keyed hd h hreg
    refine ⟨hlt', ?_⟩
    by_cases heq : h = k
    · subst heq
      simp only [Port.setHandler, Function.update_self]
      exact ⟨hheader.trans hhd, htimer hd hreg⟩
    · simp only [Port.setHandler, Function.update_of_ne heq]
      exact ⟨hhd, harmed⟩
  reader := by
    intro h c hreader
    obtain ⟨hlt', hhd, hout⟩ := hv.reader h c hreader
    refine ⟨hlt', ?_, hout⟩
    by_cases heq : h = k
    · subst heq
      simp only [Port.setHandler, Function.update_self]
      exact hheader.trans hhd
    · simpa only [Port.setHandler, Function.update_of_ne heq] using hhd
  fresh := by
    intro h hle
    have hne : h ≠ k := by
      have hle' : p.next ≤ h := hle
      omega
    simp only [Port.setHandler, Function.update_of_ne hne]
    exact hv.fresh h hle
  typed := by
    intro h c hmem
    by_cases heq : h = k
    · subst heq
      simp only [Port.setHandler, Function.update_self] at hmem ⊢
      exact htyped c hmem
    · simp only [Port.setHandler, Function.update_of_ne heq] at hmem ⊢
      exact hv.typed h c hmem

theorem registerHandler {header : FrameHeader} (h : p.registerHandler header = some p') :
    p'.Valid := by
  obtain ⟨hnone, rfl⟩ := registerHandler_eq_some h
  constructor
  case keyed =>
    intro hd k hreg
    by_cases heq : hd = header
    · subst heq
      simp only [Function.update_self, Option.some.injEq] at hreg
      subst hreg
      simp
    · simp only [Function.update_of_ne heq] at hreg
      obtain ⟨hlt, hhd, harmed⟩ := hv.keyed hd k hreg
      have hne : k ≠ p.next := by omega
      simp only [Function.update_of_ne hne]
      exact ⟨by omega, hhd, harmed⟩
  case reader =>
    intro k c hreader
    obtain ⟨hlt, hhd, hout⟩ := hv.reader k c hreader
    have hne : k ≠ p.next := by omega
    simp only [Function.update_of_ne hne]
    refine ⟨by omega, hhd, ?_⟩
    by_cases heq : c.header = header
    · rw [heq, Function.update_self]
      exact fun hsome => hne (Option.some.inj hsome).symm
    · rwa [Function.update_of_ne heq]
  case fresh =>
    intro k hle
    have hle' : p.next + 1 ≤ k := hle
    have hne : k ≠ p.next := by omega
    simp only [Function.update_of_ne hne]
    exact hv.fresh k (by omega)
  case typed =>
    intro k c hmem
    by_cases heq : k = p.next
    · subst heq
      simp at hmem
    · simp only [Function.update_of_ne heq] at hmem ⊢
      exact hv.typed k c hmem

theorem put {k : Nat} {result : HandlerResult} (hlt : k < p.next)
    (hkind : ∀ c, result = some c → c.header = (p.handler k).header)
    (h : p.put k result = some p') : p'.Valid := by
  obtain ⟨-, results, hbuffer, rfl⟩ := put_eq_some h
  refine hv.setHandler hlt rfl (fun hd hreg => (hv.keyed hd k hreg).2.2) ?_
  intro c hmem
  simp only [hbuffer, List.mem_singleton] at hmem
  exact hkind c hmem.symm

theorem fail {k : Nat} (hlt : k < p.next) (h : p.fail k = some p') : p'.Valid :=
  hv.put hlt (by simp) h

theorem receive {k : Nat} {result : HandlerResult} (hlt : k < p.next)
    (h : p.receive k = some (result, p')) : p'.Valid := by
  obtain ⟨-, results, hbuffer, rfl⟩ := receive_eq_some h
  refine hv.setHandler hlt rfl (fun hd hreg => (hv.keyed hd k hreg).2.2) ?_
  simp [hbuffer]

theorem lt_of_timer {k : Nat} (h : (p.handler k).timer ≠ .spent) : k < p.next := by
  by_contra hle
  exact h (hv.fresh k (not_lt.mp hle)).2

theorem removeHandler (k : Nat) : (p.removeHandler k).Valid := by
  unfold Port.removeHandler
  split
  · rename_i harmed
    have hlt : k < p.next := hv.lt_of_timer (by simp [harmed])
    split
    · -- it is out of the table before the timer counts as failing
      refine (hv.delete (p.handler k).header).setHandler hlt rfl ?_ (hv.typed k)
      intro hd hreg
      obtain ⟨-, hheader, -⟩ := (hv.delete (p.handler k).header).keyed hd k hreg
      subst hheader
      simp [Port.delete] at hreg
    · rename_i hout
      refine hv.setHandler hlt rfl ?_ (hv.typed k)
      intro hd hreg
      obtain ⟨-, hheader, -⟩ := hv.keyed hd k hreg
      subst hheader
      exact absurd hreg hout
  · exact hv

theorem timerFail (k : Nat) : (p.timerFail k).Valid := by
  unfold Port.timerFail
  split
  · rename_i hfailing
    have hlt : k < p.next := hv.lt_of_timer (by simp [hfailing])
    cases hfail : p.fail k with
    | none => exact hv
    | some =>
      have hv' := hv.fail hlt hfail
      obtain ⟨-, results, -, rfl⟩ := put_eq_some hfail
      refine hv'.setHandler hlt rfl ?_ (hv'.typed k)
      intro hd hreg
      have harmed := (hv.keyed hd k hreg).2.2
      rw [hfailing] at harmed
      cases harmed
  · exact hv

theorem handleFrame (c : Command) : (p.handleFrame c).Valid := by
  unfold Port.handleFrame
  split
  · rename_i h hreader hreg
    obtain ⟨hlt, hheader, -⟩ := hv.keyed c.header h hreg
    have hdelete := hv.delete c.header
    refine ⟨hdelete.keyed, ?_, hdelete.fresh, hdelete.typed⟩
    intro k c' hreader'
    simp only [Option.some.injEq, Prod.mk.injEq] at hreader'
    obtain ⟨rfl, rfl⟩ := hreader'
    exact ⟨hlt, hheader, by simp [Port.delete]⟩
  · exact hv

theorem fulfill : p.fulfill.Valid := by
  unfold Port.fulfill
  split
  · exact hv
  · rename_i h c hreader
    obtain ⟨hlt, hheader, hout⟩ := hv.reader h c hreader
    cases hput : p.put h (some c) with
    | none => exact hv
    | some =>
      have hkind : ∀ c', some c = some c' → c'.header = (p.handler h).header := by
        rintro c' ⟨⟩
        exact hheader.symm
      have hv' := hv.put hlt hkind hput
      obtain ⟨-, results, -, rfl⟩ := put_eq_some hput
      have hset := hv'.setHandler (x := { (p.setHandler h { p.handler h with results }).handler h
          with timer := ((p.setHandler h { p.handler h with results }).handler h).timer.stop })
        hlt rfl ?_ (hv'.typed h)
      · exact ⟨hset.keyed, by simp, hset.fresh, hset.typed⟩
      · intro hd hreg
        obtain ⟨-, hhd, -⟩ := hv.keyed hd h hreg
        rw [← hhd, hheader] at hreg
        exact absurd hreg hout

end Port.Valid

/-! ## What a handler is owed -/

/-- The results yet to be sent or asked for: while registered, with the loop, with the timer, in
the slot. -/
def Port.owed (p : Port) (h : Nat) : Nat :=
  (p.handlers (p.handler h).header == some h).toNat + (p.reader.map Prod.fst == some h).toNat +
    (p.handler h).timer.isFailing.toNat + (p.handler h).results.buffer.length

section Owed

variable {p p' : Port}

theorem owed_setHandler_of_ne {h k : Nat} (hne : h ≠ k) (x : Handler) :
    (p.setHandler k x).owed h = p.owed h := by
  simp only [Port.owed, Port.setHandler, Function.update_of_ne hne]

theorem owed_put {k : Nat} {result : HandlerResult} (hput : p.put k result = some p') :
    p'.owed k = p.owed k + 1 ∧ ∀ h, h ≠ k → p'.owed h = p.owed h := by
  obtain ⟨hempty, results, hbuffer, rfl⟩ := put_eq_some hput
  refine ⟨?_, fun h hne => owed_setHandler_of_ne hne _⟩
  simp [Port.owed, Port.setHandler, hempty, hbuffer]

theorem owed_receive {k : Nat} {result : HandlerResult} (hget : p.receive k = some (result, p')) :
    p'.owed k + 1 = p.owed k ∧ ∀ h, h ≠ k → p'.owed h = p.owed h := by
  obtain ⟨hfull, results, hbuffer, rfl⟩ := receive_eq_some hget
  refine ⟨?_, fun h hne => owed_setHandler_of_ne hne _⟩
  simp [Port.owed, Port.setHandler, hfull, hbuffer]

theorem owed_delete_of_ne {header : FrameHeader} {h : Nat} (hne : p.handlers header ≠ some h) :
    (p.delete header).owed h = p.owed h := by
  have hsame : (Function.update p.handlers header none (p.handler h).header == some h) =
      (p.handlers (p.handler h).header == some h) := by
    by_cases heq : (p.handler h).header = header
    · rw [heq, Function.update_self]
      simp [hne]
    · rw [Function.update_of_ne heq]
  simp only [Port.owed, Port.delete, hsame]

theorem owed_removeHandler (k h : Nat) : (p.removeHandler k).owed h = p.owed h := by
  unfold Port.removeHandler
  split
  · rename_i harmed
    split
    · rename_i hreg
      by_cases heq : h = k
      · subst heq
        simp only [Port.owed, Port.setHandler, Port.delete, Function.update_self, hreg, harmed,
          Timer.isFailing, beq_self_eq_true, Option.none_beq_some, Bool.toNat_true,
          Bool.toNat_false]
        omega
      · have hne : (p.setHandler k { p.handler k with timer := .failing }).handlers
            (p.handler k).header ≠ some h := by
          intro hsome
          exact heq (Option.some.inj (hsome.symm.trans hreg))
        rw [owed_delete_of_ne hne, owed_setHandler_of_ne heq]
    · by_cases heq : h = k
      · subst heq
        simp [Port.owed, Port.setHandler, harmed, Timer.isFailing]
      · exact owed_setHandler_of_ne heq _
  · rfl

theorem owed_timerFail (k h : Nat) : (p.timerFail k).owed h = p.owed h := by
  unfold Port.timerFail
  split
  · rename_i hfailing
    cases hfail : p.fail k with
    | none => rfl
    | some =>
      by_cases heq : h = k
      · subst heq
        obtain ⟨hempty, results, hbuffer, rfl⟩ := put_eq_some hfail
        simp [Port.owed, Port.setHandler, hfailing, hempty, hbuffer, Timer.isFailing]
      · rw [owed_setHandler_of_ne heq]
        exact (owed_put hfail).2 h heq
  · rfl

theorem owed_fulfill (h : Nat) : p.fulfill.owed h = p.owed h := by
  unfold Port.fulfill
  split
  · rfl
  · rename_i k c hreader
    cases hput : p.put k (some c) with
    | none => rfl
    | some =>
      obtain ⟨hempty, results, hbuffer, rfl⟩ := put_eq_some hput
      by_cases heq : h = k
      · subst heq
        have hstop : (p.handler h).timer.stop.isFailing = (p.handler h).timer.isFailing := by
          cases (p.handler h).timer <;> rfl
        simp only [Port.owed, Port.setHandler, Function.update_self, hreader, hempty, hbuffer, hstop,
          Option.map_some, Option.map_none, beq_self_eq_true, Option.none_beq_some,
          Bool.toNat_true, Bool.toNat_false, List.length_singleton, List.length_nil]
        omega
      · have hk : ¬ k = h := fun hk => heq hk.symm
        simp [Port.owed, Port.setHandler, Function.update_of_ne heq, hreader, hk]

variable (hv : p.Valid)
include hv

theorem owed_delete {header : FrameHeader} {k : Nat} (hreg : p.handlers header = some k) :
    (p.delete header).owed k + 1 = p.owed k := by
  obtain ⟨-, rfl, -⟩ := hv.keyed header k hreg
  simp only [Port.owed, Port.delete, Function.update_self, hreg, beq_self_eq_true, Bool.toNat_true]
  simp only [Option.none_beq_some, Bool.toNat_false]
  omega

theorem owed_registerHandler {header : FrameHeader} (h : p.registerHandler header = some p') :
    p'.owed p.next = 1 ∧ ∀ k, k ≠ p.next → p'.owed k = p.owed k := by
  obtain ⟨hnone, rfl⟩ := registerHandler_eq_some h
  constructor
  · -- the loop has no frame for a handler that did not exist
    have hreader : p.reader.map Prod.fst ≠ some p.next := by
      intro hsome
      obtain ⟨⟨k, c⟩, hreader, hk⟩ := Option.map_eq_some_iff.mp hsome
      obtain ⟨hlt, -⟩ := hv.reader k c hreader
      simp only at hk
      omega
    simp [Port.owed, beq_eq_false_iff_ne.mpr hreader, Timer.isFailing]
  · intro k hne
    have hsame : (Function.update p.handlers header (some p.next) (p.handler k).header == some k) =
        (p.handlers (p.handler k).header == some k) := by
      by_cases heq : (p.handler k).header = header
      · rw [heq, Function.update_self, hnone]
        simp [hne.symm]
      · rw [Function.update_of_ne heq]
    simp only [Port.owed, Function.update_of_ne hne, hsame]

theorem owed_handleFrame (c : Command) (h : Nat) : (p.handleFrame c).owed h = p.owed h := by
  unfold Port.handleFrame
  split
  · rename_i k hreader hreg
    obtain ⟨-, hheader, -⟩ := hv.keyed c.header k hreg
    by_cases heq : h = k
    · subst heq
      simp [Port.owed, Port.delete, hheader, hreg, hreader]
    · have hother := @owed_delete_of_ne p c.header h
        (fun hsome => heq (Option.some.inj (hsome.symm.trans hreg)))
      rw [← hother]
      have hk : ¬ k = h := fun hk => heq hk.symm
      simp [Port.owed, Port.delete, hreader, hk]
  · rfl

end Owed

/-! ## The loop and the timers -/

/-- `p'` is `p` after the loop or a timer: handlers may have gone, and those left got nothing. -/
structure Moved (p p' : Port) : Prop where
  next : p'.next = p.next
  header : ∀ h, (p'.handler h).header = (p.handler h).header
  handlers : ∀ header h, p'.handlers header = some h → p.handlers header = some h
  results : ∀ header h, p'.handlers header = some h → (p'.handler h).results = (p.handler h).results

section Moved

variable {p p' p'' : Port}

theorem Moved.refl (p : Port) : Moved p p :=
  ⟨rfl, fun _ => rfl, fun _ _ h => h, fun _ _ _ => rfl⟩

theorem Moved.trans (h : Moved p p') (h' : Moved p' p'') : Moved p p'' where
  next := h'.next.trans h.next
  header k := (h'.header k).trans (h.header k)
  handlers hd k hreg := h.handlers hd k (h'.handlers hd k hreg)
  results hd k hreg := (h'.results hd k hreg).trans (h.results hd k (h'.handlers hd k hreg))

theorem handlers_of_delete {header hd : FrameHeader} {h : Nat}
    (hreg : (p.delete header).handlers hd = some h) : hd ≠ header ∧ p.handlers hd = some h := by
  by_cases heq : hd = header
  · simp [Port.delete, heq] at hreg
  · simp only [Port.delete, Function.update_of_ne heq] at hreg
    exact ⟨heq, hreg⟩

theorem moved_delete (header : FrameHeader) : Moved p (p.delete header) where
  next := rfl
  header _ := rfl
  handlers _ _ hreg := (handlers_of_delete hreg).2
  results _ _ _ := rfl

theorem moved_setHandler {k : Nat} {x : Handler} (hheader : x.header = (p.handler k).header)
    (hresults : (∃ header, p.handlers header = some k) → x.results = (p.handler k).results) :
    Moved p (p.setHandler k x) where
  next := rfl
  header h := by
    by_cases heq : h = k
    · subst heq
      simpa [Port.setHandler] using hheader
    · simp [Port.setHandler, heq]
  handlers _ _ hreg := hreg
  results hd h hreg := by
    by_cases heq : h = k
    · subst heq
      simpa [Port.setHandler] using hresults ⟨hd, hreg⟩
    · simp [Port.setHandler, heq]

theorem moved_put {k : Nat} {result : HandlerResult} (hout : ∀ header, p.handlers header ≠ some k)
    (hput : p.put k result = some p') : Moved p p' := by
  obtain ⟨-, results, -, rfl⟩ := put_eq_some hput
  exact moved_setHandler rfl fun ⟨hd, hreg⟩ => absurd hreg (hout hd)

theorem moved_removeHandler (k : Nat) : Moved p (p.removeHandler k) := by
  unfold Port.removeHandler
  split
  · split
    · have hset : Moved p (p.setHandler k { p.handler k with timer := .failing }) :=
        moved_setHandler rfl fun _ => rfl
      exact hset.trans (moved_delete _)
    · exact moved_setHandler rfl fun _ => rfl
  · exact Moved.refl p

variable (hv : p.Valid)
include hv

theorem Port.Valid.not_registered {k : Nat} (h : p.handlers (p.handler k).header ≠ some k)
    (header : FrameHeader) : p.handlers header ≠ some k := by
  intro hreg
  obtain ⟨-, rfl, -⟩ := hv.keyed header k hreg
  exact h hreg

theorem moved_timerFail (k : Nat) : Moved p (p.timerFail k) := by
  unfold Port.timerFail
  split
  · rename_i hfailing
    cases hfail : p.fail k with
    | none => exact Moved.refl p
    | some =>
      have hout : ∀ header, p.handlers header ≠ some k := by
        intro header hreg
        have harmed := (hv.keyed header k hreg).2.2
        rw [hfailing] at harmed
        cases harmed
      exact (moved_put hout hfail).trans (moved_setHandler rfl fun _ => rfl)
  · exact Moved.refl p

omit hv in
theorem moved_handleFrame (c : Command) : Moved p (p.handleFrame c) := by
  unfold Port.handleFrame
  split
  · have hdelete := moved_delete (p := p) c.header
    exact ⟨hdelete.next, hdelete.header, hdelete.handlers, hdelete.results⟩
  · exact Moved.refl p

theorem moved_fulfill : Moved p p.fulfill := by
  unfold Port.fulfill
  split
  · exact Moved.refl p
  · rename_i h c hreader
    obtain ⟨-, hheader, hout⟩ := hv.reader h c hreader
    cases hput : p.put h (some c) with
    | none => exact Moved.refl p
    | some p' =>
      have hout : ∀ header, p.handlers header ≠ some h :=
        hv.not_registered (by rw [hheader]; exact hout)
      have hstop : Moved p'
          (p'.setHandler h { p'.handler h with timer := (p'.handler h).timer.stop }) :=
        moved_setHandler rfl fun _ => rfl
      have hmoved := (moved_put hout hput).trans hstop
      exact ⟨hmoved.next, hmoved.header, hmoved.handlers, hmoved.results⟩

end Moved

end IotController.Znp
