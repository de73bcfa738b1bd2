/-
  DATA frames from the radio processor to the host.

  The radio processor numbers its payloads 0, 1, 2, ..., puts the number modulo 8 into the
  control byte, has fewer than 8 frames unacknowledged and may send those again.  The line
  keeps the order and may lose frames and acknowledgements.  The host is `handleASHFrame`.
-/
import IotController.Ember.Controller
import IotController.Foundation.SlidingWindow

namespace IotController.Ember.Delivery

open Foundation Foundation.SlidingWindow

/-! ## The session -/

/-- A payload of the radio processor: bytes that are read as an EZSP frame. -/
structure Payload where
  data : List Byte
  frame : EZSPFrame
  reads : parseEZSP data = .ok frame

def number (i : Nat) : Byte := UInt8.ofNat (i % 8)

/-- A frame on the line to the host. -/
structure Flight where
  index : Nat
  reTx : Bool
  ackNum : Fin 8
  deriving DecidableEq

def Flight.control (f : Flight) : Byte :=
  (number f.index <<< 4) ||| (if f.reTx then 0x08 else 0) ||| UInt8.ofNat f.ackNum

def Flight.raw (payload : Nat → Payload) (f : Flight) : List Byte :=
  buildASHDataFrame f.control (payload f.index).data

/-- Both ends of the line. -/
structure Session where
  controller : Controller
  sent : Nat := 0
  acked : Nat := 0
  wire : List Flight := []
  acks : List (List Byte) := []
  /-- every frame that the host sent in answer -/
  written : List (List Byte) := []
  /-- the EZSP frames given to a handler or to `handleCallback`, each with the payload
  that it was read from -/
  passed : List (Nat × EZSPFrame) := []

def Session.start (c : Controller) : Session := { controller := c.reset }

/-- A step of either end, or of the line. -/
inductive Action where
  | send (ackNum : Fin 8)
  | resend (i : Nat) (ackNum : Fin 8)
  | lose (j : Nat)
  | deliver (ready : Bool)
  | loseAck (j : Nat)
  | takeAck
  /-- a command, a time-out or a receiver changes the rest of the controller -/
  | host (c : Controller)

/-- An acknowledgement that is not between what was known and what was sent is discarded. -/
def ncpTakesAck (sent acked : Nat) (raw : List Byte) : Nat :=
  match parseASHFrame raw with
  | .ok frame =>
    if frame.type = .ack ∧ readAck 8 acked frame.ackNum.toNat ≤ sent then
      readAck 8 acked frame.ackNum.toNat
    else acked
  | .error _ => acked

/-- One move of either end or of the line. -/
def step (k : Fin 8) (payload : Nat → Payload) (s : Session) : Action → Session
  | .send ackNum =>
    if s.sent < s.acked + k then
      { s with sent := s.sent + 1, wire := s.wire ++ [⟨s.sent, false, ackNum⟩] }
    else s
  | .resend i ackNum =>
    if s.acked ≤ i ∧ i < s.sent then { s with wire := s.wire ++ [⟨i, true, ackNum⟩] } else s
  | .lose j => { s with wire := s.wire.eraseIdx j }
  | .deliver ready =>
    match s.wire with
    | [] => s
    | f :: rest =>
      let handled := s.controller.handleASHFrame ready (f.raw payload)
      { s with
        controller := handled.controller
        wire := rest
        acks := s.acks ++ handled.written
        written := s.written ++ handled.written
        passed := s.passed ++ handled.passed.map fun frame => (f.index, frame) }
  | .loseAck j => { s with acks := s.acks.eraseIdx j }
  | .takeAck =>
    match s.acks with
    | [] => s
    | raw :: rest => { s with acked := ncpTakesAck s.sent s.acked raw, acks := rest }
  | .host c => if c.rxSeq = s.controller.rxSeq then { s with controller := c } else s

def Action.move : Action → Move
  | .send _ => .send
  | .resend i _ => .resend i
  | .lose j => .lose j
  | .deliver _ => .deliver
  | .loseAck j => .loseAck j
  | .takeAck => .takeAck
  | .host _ => .idle

def reference (k : Fin 8) (l : Link) (a : Action) : Link := l.step k a.move

def ackFrame (expected : Nat) : List Byte := buildASHACKFrame (number expected)

/-- The session and the reference agree on everything but the payloads. -/
structure Simulates (k : Fin 8) (s : Session) (l : Link) : Prop where
  sent : s.sent = l.sent
  acked : s.acked = l.acked
  wire : s.wire.map Flight.index = l.wire
  acks : s.acks = l.acks.map ackFrame
  written : s.written = l.answers.map ackFrame
  rxSeq : s.controller.rxSeq = number l.expected
  inv : Inv k l

/-! ## Numbers -/

theorem number_toNat (i : Nat) : (number i).toNat = i % 8 := by
  have hlt : i % 8 < 8 := Nat.mod_lt _ (by decide)
  rw [number, UInt8.toNat_ofNat']
  omega

theorem number_lt (i : Nat) : number i < 8 := by
  rw [UInt8.lt_iff_toNat_lt, number_toNat]
  exact Nat.mod_lt _ (by decide)

theorem number_eq_iff (i j : Nat) : number i = number j ↔ i % 8 = j % 8 := by
  rw [← UInt8.toNat_inj, number_toNat, number_toNat]

theorem number_succ (i : Nat) : (number i + 1) % 8 = number (i + 1) := by
  have hlt : i % 8 < 8 := Nat.mod_lt _ (by decide)
  rw [← UInt8.toNat_inj, UInt8.toNat_mod, UInt8.toNat_add, number_toNat, number_toNat]
  show (i % 8 + 1) % 256 % 8 = (i + 1) % 8
  omega

theorem Flight.control_bits (f : Flight) :
    f.control &&& 0x80 = 0 ∧ (f.control >>> 4) &&& 0x07 = number f.index ∧
      f.control &&& 0x07 = UInt8.ofNat f.ackNum := by
  have hbits : ∀ (n ack : Fin 8) (reTx : Bool),
      ((UInt8.ofNat n <<< 4) ||| (if reTx then 0x08 else 0) ||| UInt8.ofNat ack) &&& 0x80 = 0 ∧
      (((UInt8.ofNat n <<< 4) ||| (if reTx then 0x08 else 0) ||| UInt8.ofNat ack) >>> 4) &&& 0x07
        = UInt8.ofNat n ∧
      ((UInt8.ofNat n <<< 4) ||| (if reTx then 0x08 else 0) ||| UInt8.ofNat ack) &&& 0x07
        = UInt8.ofNat ack := by decide
  exact hbits ⟨f.index % 8, Nat.mod_lt _ (by decide)⟩ f.ackNum f.reTx

theorem handle_flight (c : Controller) (ready : Bool) (payload : Nat → Payload) (f : Flight) :
    (c.handleASHFrame ready (f.raw payload)).passed = [(payload f.index).frame] ∧
    (c.handleASHFrame ready (f.raw payload)).written =
      [buildASHACKFrame (c.handleASHFrame ready (f.raw payload)).controller.rxSeq] ∧
    (c.handleASHFrame ready (f.raw payload)).controller.rxSeq =
      if number f.index = c.rxSeq then (c.rxSeq + 1) % 8 else c.rxSeq := by
  obtain ⟨hcontrol, hnumber, -⟩ := f.control_bits
  have hnum : (dataFrame f.control (payload f.index).data).frameNum = number f.index := by
    rw [dataFrame_frameNum, hnumber]
  rw [Flight.raw, c.handle_data ready hcontrol (payload f.index).reads]
  refine ⟨rfl, ?_, ?_⟩
  · rw [(Controller.route_numbers _ _ _ _).1]
  · rw [(Controller.route_numbers _ _ _ _).1, Controller.takeNumbers_rxSeq, hnum]

variable {k : Fin 8} {s : Session} {payload : Nat → Payload}

theorem rxSeq_after {l : Link} (h : Simulates k s l) (ready : Bool) (payload : Nat → Payload)
    {f : Flight} (hf : f.index ∈ l.wire) :
    (s.controller.handleASHFrame ready (f.raw payload)).controller.rxSeq =
      number (after l.expected f.index) := by
  have hiff : number f.index = number l.expected ↔ f.index = l.expected := by
    rw [number_eq_iff]
    exact h.inv.number_eq_iff k.isLt hf
  rw [(handle_flight s.controller ready payload f).2.2, h.rxSeq, number_succ, after]
  by_cases hexpected : f.index = l.expected
  · rw [if_pos (hiff.mpr hexpected), if_pos hexpected]
  · rw [if_neg (fun hn => hexpected (hiff.mp hn)), if_neg hexpected]

theorem ncpTakesAck_eq {l : Link} (h : Inv k l) {a : Nat} (ha : a ∈ l.acks) :
    ncpTakesAck l.sent l.acked (ackFrame a) = a := by
  obtain ⟨frame, hparse, htype, hnum⟩ := parse_buildASHACKFrame (number_lt a)
  have hread : readAck 8 l.acked frame.ackNum.toNat = a := by
    rw [hnum, number_toNat]
    exact h.readAck_eq k.isLt ha
  have hle : a ≤ l.sent := (h.acks_mem a ha).2.trans h.expected_le
  simp only [ncpTakesAck, ackFrame, hparse, hread]
  rw [if_pos ⟨htype, hle⟩]

theorem simulates_start (k : Fin 8) (c : Controller) : Simulates k (Session.start c) {} :=
  ⟨rfl, rfl, rfl, rfl, rfl, rfl, inv_start k⟩

theorem simulates_step (s : Session) (l : Link) (a : Action) (h : Simulates k s l) :
    Simulates k (step k payload s a) (reference k l a) := by
  have hinv : Inv k (reference k l a) := inv_step h.inv a.move
  obtain ⟨hsent, hacked, hwire, hacks, hwritten, hrx, hkeep⟩ := h
  cases a with
  | send =>
    by_cases hroom : l.sent < l.acked + k
    · have hroom' : s.sent < s.acked + k := by rw [hsent, hacked]; exact hroom
      rw [reference, Action.move, Link.step, if_pos hroom] at hinv ⊢
      rw [step, if_pos hroom']
      exact ⟨congrArg (· + 1) hsent, hacked, by simp [hwire, hsent], hacks, hwritten, hrx, hinv⟩
    · have hroom' : ¬ s.sent < s.acked + k := by rw [hsent, hacked]; exact hroom
      rw [reference, Action.move, Link.step, if_neg hroom, step, if_neg hroom']
      exact ⟨hsent, hacked, hwire, hacks, hwritten, hrx, hkeep⟩
  | resend i =>
    by_cases hi : l.acked ≤ i ∧ i < l.sent
    · have hi' : s.acked ≤ i ∧ i < s.sent := by rw [hsent, hacked]; exact hi
      rw [reference, Action.move, Link.step, if_pos hi] at hinv ⊢
      rw [step, if_pos hi']
      exact ⟨hsent, hacked, by simp [hwire], hacks, hwritten, hrx, hinv⟩
    · have hi' : ¬ (s.acked ≤ i ∧ i < s.sent) := by rw [hsent, hacked]; exact hi
      rw [reference, Action.move, Link.step, if_neg hi, step, if_neg hi']
      exact ⟨hsent, hacked, hwire, hacks, hwritten, hrx, hkeep⟩
  | lose j =>
    refine ⟨hsent, hacked, ?_, hacks, hwritten, hrx, hinv⟩
    show (s.wire.eraseIdx j).map Flight.index = l.wire.eraseIdx j
    rw [← hwire, List.eraseIdx_map]
  | deliver ready =>
    cases hs : s.wire with
    | nil =>
      have hl : l.wire = [] := by rw [← hwire, hs, List.map_nil]
      simp only [reference, Action.move, Link.step, step, hl, hs]
      exact ⟨hsent, hacked, by rw [hs, hl]; rfl, hacks, hwritten, hrx, hkeep⟩
    | cons f rest =>
      have hl : l.wire = f.index :: rest.map Flight.index := by rw [← hwire, hs, List.map_cons]
      have hnext := rxSeq_after ⟨hsent, hacked, hwire, hacks, hwritten, hrx, hkeep⟩ ready payload
        (hl ▸ List.mem_cons_self)
      have hanswer := (handle_flight s.controller ready payload f).2.1
      rw [hnext] at hanswer
      simp only [reference, Action.move, Link.step, step, hl, hs, hanswer] at hinv ⊢
      exact ⟨hsent, hacked, rfl, by simp [hacks, ackFrame], by simp [hwritten, ackFrame], hnext,
        hinv⟩
  | loseAck j =>
    refine ⟨hsent, hacked, hwire, ?_, hwritten, hrx, hinv⟩
    show s.acks.eraseIdx j = (l.acks.eraseIdx j).map ackFrame
    rw [hacks, List.eraseIdx_map]
  | takeAck =>
    cases hl : l.acks with
    | nil =>
      have hs : s.acks = [] := by rw [hacks, hl, List.map_nil]
      simp only [reference, Action.move, Link.step, step, hl, hs]
      exact ⟨hsent, hacked, hwire, hacks, hwritten, hrx, hkeep⟩
    | cons a rest =>
      have hs : s.acks = ackFrame a :: rest.map ackFrame := by rw [hacks, hl, List.map_cons]
      have hread := ncpTakesAck_eq hkeep (hl ▸ List.mem_cons_self)
      simp only [reference, Action.move, Link.step, step, hl, hs] at hinv ⊢
      rw [hsent, hacked, hread]
      exact ⟨rfl, rfl, hwire, rfl, hwritten, hrx, hinv⟩
  | host c =>
    by_cases hc : c.rxSeq = s.controller.rxSeq
    · rw [step, if_pos hc]
      exact ⟨hsent, hacked, hwire, hacks, hwritten, hc.trans hrx, hinv⟩
    · rw [step, if_neg hc]
      exact ⟨hsent, hacked, hwire, hacks, hwritten, hrx, hinv⟩

theorem simulates_run (k : Fin 8) (payload : Nat → Payload) (c : Controller)
    (actions : List Action) :
    Simulates k (run (step k payload) (Session.start c) actions) (run (reference k) {} actions) :=
  run_simulation simulates_step (simulates_start k c) actions

/-! ## The payloads -/

def firstPayloads (payload : Nat → Payload) (count : Nat) : List (Nat × EZSPFrame) :=
  (List.range count).map fun i => (i, (payload i).frame)

/-- What was passed on is a part of the payloads from the first on, in order and each
one once. -/
def InOrder (payload : Nat → Payload) (s : Session) : Prop :=
  ∃ count, s.passed = firstPayloads payload count

/-- A frame that arrives has the number expected. -/
def InSequence (s : Session) : Action → Prop
  | .deliver _ => ∀ f ∈ s.wire.head?, number f.index = s.controller.rxSeq
  | _ => True

theorem firstPayloads_succ (payload : Nat → Payload) (count : Nat) :
    firstPayloads payload (count + 1) =
      firstPayloads payload count ++ [(count, (payload count).frame)] := by
  simp [firstPayloads, List.range_succ]

theorem InOrder.indices (h : InOrder payload s) :
    s.passed.map Prod.fst = List.range s.passed.length := by
  obtain ⟨count, hpassed⟩ := h
  rw [hpassed]
  simp [firstPayloads, Function.comp_def]

theorem append_inOrder_iff (payload : Nat → Payload) (count i : Nat) :
    (∃ count', firstPayloads payload count ++ [(i, (payload i).frame)] =
      firstPayloads payload count') ↔ i = count := by
  constructor
  · rintro ⟨count', h⟩
    have hlength : count + 1 = count' := by
      simpa [firstPayloads] using congrArg List.length h
    rw [← hlength, firstPayloads_succ] at h
    have hlast := List.append_cancel_left h
    simp only [List.cons.injEq, Prod.mk.injEq, and_true] at hlast
    exact hlast.1
  · rintro rfl
    exact ⟨i + 1, (firstPayloads_succ payload i).symm⟩

def Good (k : Fin 8) (payload : Nat → Payload) (s : Session) : Prop :=
  ∃ l, Simulates k s l ∧ s.passed = firstPayloads payload l.expected

theorem step_passed_of_quiet {a : Action} (h : ∀ ready, a = .deliver ready → s.wire = []) :
    (step k payload s a).passed = s.passed := by
  cases a with
  | send | resend | takeAck | host =>
    rw [step]
    split <;> rfl
  | deliver ready => simp only [step, h ready rfl]
  | lose j | loseAck j => rfl

theorem good_of_quiet (hgood : Good k payload s) {a : Action}
    (h : ∀ ready, a = .deliver ready → s.wire = []) : Good k payload (step k payload s a) := by
  obtain ⟨l, hsim, hpassed⟩ := hgood
  have hl : a.move = .deliver → l.wire = [] := by
    intro ha
    cases a with
    | deliver ready => rw [← hsim.wire, h ready rfl, List.map_nil]
    | _ => cases ha
  refine ⟨_, simulates_step s l a hsim, ?_⟩
  rw [step_passed_of_quiet h, reference, Link.step_expected_of_quiet hl, hpassed]

theorem step_deliver_passed {f : Flight} {rest : List Flight} (hwire : s.wire = f :: rest)
    (ready : Bool) :
    (step k payload s (.deliver ready)).passed =
      s.passed ++ [(f.index, (payload f.index).frame)] := by
  simp only [step, hwire, (handle_flight s.controller ready payload f).1]
  rfl

theorem quiet_or_delivers (s : Session) (a : Action) :
    (∀ ready, a = .deliver ready → s.wire = []) ∨
      ∃ ready f rest, a = .deliver ready ∧ s.wire = f :: rest := by
  cases a with
  | deliver ready =>
    cases hwire : s.wire with
    | nil => exact Or.inl fun _ _ => rfl
    | cons f rest => exact Or.inr ⟨ready, f, rest, rfl, rfl⟩
  | _ => exact Or.inl fun _ h => by cases h

theorem inSequence_of_quiet {a : Action} (h : ∀ ready, a = .deliver ready → s.wire = []) :
    InSequence s a := by
  cases a with
  | deliver ready => simp [InSequence, h ready rfl]
  | _ => trivial

theorem inSequence_deliver_iff {l : Link} (hsim : Simulates k s l) {f : Flight} {rest : List Flight}
    (hwire : s.wire = f :: rest) (ready : Bool) :
    InSequence s (.deliver ready) ↔ f.index = l.expected := by
  have hmem : f.index ∈ l.wire := by
    rw [← hsim.wire, hwire]
    exact List.mem_cons_self
  have hnumber : InSequence s (.deliver ready) ↔ number f.index = number l.expected := by
    simp [InSequence, hwire, hsim.rxSeq]
  rw [hnumber, number_eq_iff]
  exact hsim.inv.number_eq_iff k.isLt hmem

theorem inOrder_step_iff (hgood : Good k payload s) (a : Action) :
    InOrder payload (step k payload s a) ↔ InSequence s a := by
  rcases quiet_or_delivers s a with hquiet | ⟨ready, f, rest, rfl, hwire⟩
  · obtain ⟨l, -, hpassed⟩ := good_of_quiet hgood hquiet
    exact iff_of_true ⟨l.expected, hpassed⟩ (inSequence_of_quiet hquiet)
  · obtain ⟨l, hsim, hpassed⟩ := hgood
    rw [inSequence_deliver_iff hsim hwire, InOrder, step_deliver_passed hwire, hpassed]
    exact append_inOrder_iff payload l.expected f.index

theorem good_step (hgood : Good k payload s) (a : Action) (hseq : InSequence s a) :
    Good k payload (step k payload s a) := by
  rcases quiet_or_delivers s a with hquiet | ⟨ready, f, rest, rfl, hwire⟩
  · exact good_of_quiet hgood hquiet
  · obtain ⟨l, hsim, hpassed⟩ := hgood
    have hindex := (inSequence_deliver_iff hsim hwire ready).mp hseq
    have hl : l.wire = f.index :: rest.map Flight.index := by
      rw [← hsim.wire, hwire, List.map_cons]
    have hexpected : (reference k l (.deliver ready)).expected = l.expected + 1 := by
      simp only [reference, Action.move, Link.step, hl, after, hindex, if_pos]
    refine ⟨_, simulates_step s l _ hsim, ?_⟩
    rw [step_deliver_passed hwire, hexpected, firstPayloads_succ, hpassed, hindex]

/-- **In order and exactly once.**  Every acknowledgement carries the next number expected.  The
payloads are passed on in order and once each exactly when every frame that arrives has the
number that the host expects. -/
theorem in_order_iff (k : Fin 8) (payload : Nat → Payload) (c : Controller)
    (actions : List Action) :
    (∀ n, InOrder payload (run (step k payload) (Session.start c) (actions.take n)) ∧
      (run (step k payload) (Session.start c) (actions.take n)).written =
        (run (reference k) {} (actions.take n)).answers.map ackFrame) ↔
      Along (step k payload) InSequence (Session.start c) actions := by
  have hstart : Good k payload (Session.start c) := ⟨{}, simulates_start k c, rfl⟩
  have hsound : ∀ s, Good k payload s → InOrder payload s := fun s h =>
    h.elim fun l hl => ⟨l.expected, hl.2⟩
  have hexact : (∀ n, InOrder payload (run (step k payload) (Session.start c) (actions.take n))) ↔
      Along (step k payload) InSequence (Session.start c) actions :=
    property_iff_along hsound (fun s a _ h => inOrder_step_iff h a)
      (fun s a _ h => good_step h a) hstart
  constructor
  · intro h
    exact hexact.mp fun n => (h n).1
  · intro h n
    exact ⟨hexact.mpr h n, (simulates_run k payload c (actions.take n)).written⟩

def upPayload : Payload := ⟨[1, 0x80, 0x01, 0x18, 0x00, 0x02], ⟨1, ezspResponse, 0x18, [0x02]⟩, rfl⟩

/-- The acknowledgement of the first payload is lost and the payload is sent again. -/
def lostAck : List Action := [.send 1, .deliver true, .loseAck 0, .resend 0 1, .deliver true]

/-- A payload sent again is passed on again, and one behind a lost one before it. -/
theorem resent_payload_passed_twice :
    ¬ InOrder (fun _ => upPayload)
      (run (step 7 fun _ => upPayload) (Session.start Controller.init) lostAck) ∧
    ¬ InOrder (fun _ => upPayload)
      (run (step 7 fun _ => upPayload) (Session.start Controller.init)
        [.send 1, .send 1, .lose 0, .deliver true]) := by
  constructor
  · intro h
    exact absurd h.indices (by decide +kernel)
  · intro h
    exact absurd h.indices (by decide +kernel)

end IotController.Ember.Delivery
