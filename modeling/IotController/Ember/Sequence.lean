/-
  The numbers of the host's DATA frames
  (`sendEZSPCommand` and the DATA case of `handleASHFrame` in
  `pkg/zigbee-dongle/ember/controller.go`).

  Each command runs on a thread of its own.  It reads `txSeq` for the control byte of its
  frame, reads it again to store the number after it, keeps the frame for a NAK, writes it
  and waits for the response.  A command that times out resets the session and goes through
  the same steps once more.  There is no lock around them, and every DATA frame from the
  radio processor stores its own acknowledgement number in `txSeq`.
-/
import IotController.Ember.Delivery

namespace IotController.Ember.Sequence

open Foundation
open Ember.Delivery (number number_toNat number_lt number_eq_iff number_succ Flight)

/-! ## Commands -/

abbrev DataControl : Type := { control : Byte // control &&& 0x80 = 0 }

/-- Where a command stands. -/
inductive Phase where
  | ready
  | numbered (control : DataControl)
  /-- `txSeq` is read for the increment -/
  | loaded (control : DataControl) (txSeq : Byte)
  | bumped (control : DataControl)
  /-- the frame is kept for a NAK, and is to be written -/
  | kept (control : DataControl)
  | waiting
  deriving DecidableEq

/-- A call of `sendEZSPCommand`. -/
structure Command where
  frameID : UInt16
  params : List Byte
  sequence : Byte
  retried : Bool := false
  phase : Phase := .ready
  deriving DecidableEq

def Command.ezspData (cmd : Command) : List Byte :=
  serializeEZSPFrameExtended ⟨cmd.sequence, ezspCommand, cmd.frameID, cmd.params⟩

def Phase.inSection : Phase → Bool
  | .numbered _ | .loaded _ _ | .bumped _ | .kept _ => true
  | .ready | .waiting => false

/-- A frame's number, and what was acknowledged then. -/
structure Sent where
  number : Byte
  acked : Nat
  deriving DecidableEq

/-- The controller and its commands. -/
structure State where
  controller : Controller
  sequence : UInt32 := 0
  threads : Nat → Option Command := fun _ => none
  sent : List Sent := []
  acked : Nat := 0
  /-- what the last DATA frame acknowledged, if one came since the last increment -/
  heard : Option Nat := none

def State.start (c : Controller) : State := { controller := c.reset }

/-- The command is between taking its number and writing its frame. -/
def InSection (s : State) (t : Nat) : Prop :=
  ∃ cmd, s.threads t = some cmd ∧ cmd.phase.inSection = true

/-- A step of a command. -/
inductive Move where
  | takeNumber
  | load
  | store
  | keep
  | write
  | writeFails
  | respond
  | expire
  deriving DecidableEq

/-- One step of the system. -/
inductive Action where
  | call (t : Nat) (frameID : UInt16) (params : List Byte)
  | move (t : Nat) (m : Move)
  /-- a DATA frame that acknowledges the first `a` frames -/
  | deliver (ready : Bool) (frameNum : Nat) (reTx : Bool) (a : Nat) (data : List Byte)
  | ack (a : Nat)
  | rstack

def State.become (s : State) (t : Nat) (cmd : Option Command) : State :=
  { s with threads := Function.update s.threads t cmd }

/-- The next number of `NextSequence`, with the counter after it. -/
def nextSequence (sequence : UInt32) : UInt32 × Byte := (sequence + 1, (sequence + 1).toUInt8)

def ncpFrame (frameNum : Nat) (reTx : Bool) (a : Nat) (data : List Byte) : List Byte :=
  buildASHDataFrame (Flight.control ⟨frameNum, reTx, ⟨a % 8, Nat.mod_lt _ (by decide)⟩⟩) data

def nextControl (c : Controller) : DataControl :=
  ⟨dataControl c.txSeq c.rxSeq, c.control_data⟩

/-- A move of one command. -/
def State.advance (s : State) (t : Nat) (cmd : Command) (m : Move) : State :=
  match m, cmd.phase with
  | .takeNumber, .ready =>
    s.become t (some { cmd with phase := .numbered (nextControl s.controller) })
  | .load, .numbered control =>
    s.become t (some { cmd with phase := .loaded control s.controller.txSeq })
  | .store, .loaded control txSeq =>
    { s.become t (some { cmd with phase := .bumped control }) with
      controller := { s.controller with txSeq := (txSeq + 1) % 8, txSeq_lt := mod_eight_lt _ }
      heard := none }
  | .keep, .bumped control =>
    { s.become t (some { cmd with phase := .kept control }) with
      controller := s.controller.storeLast control.1 control.2 cmd.ezspData }
  | .write, .kept control =>
    { s.become t (some { cmd with phase := .waiting }) with
      sent := s.sent ++ [⟨(control.1 >>> 4) &&& 0x07, s.acked⟩] }
  | .writeFails, .kept _ => s.become t none
  | .respond, .waiting => s.become t none
  | .expire, .waiting =>
    -- the session is reset; the second time the command is given up
    if cmd.retried then s.become t none
    else
      let (counter, sequence) := nextSequence s.sequence
      { s.become t (some { cmd with sequence := sequence, retried := true, phase := .ready }) with
        sequence := counter }
  | _, _ => s

/-- A command's move, or a frame from the radio processor. -/
def step (s : State) : Action → State
  | .call t frameID params =>
    match s.threads t with
    | none =>
      let (counter, sequence) := nextSequence s.sequence
      { s.become t (some { frameID, params, sequence }) with sequence := counter }
    | some _ => s
  | .move t m =>
    match s.threads t with
    | some cmd => s.advance t cmd m
    | none => s
  | .deliver ready frameNum reTx a data =>
    -- an acknowledgement of frames that were not sent is not a correct one
    if a ≤ s.sent.length then
      { s with
        controller := (s.controller.handleASHFrame ready (ncpFrame frameNum reTx a data)).controller
        acked := max s.acked a
        heard := some a }
    else s
  | .ack a => if a ≤ s.sent.length then { s with acked := max s.acked a } else s
  | .rstack => { s with controller := s.controller.reset, sent := [], acked := 0, heard := none }

/-- Each number follows the one before. -/
def Consecutive (sent : List Sent) : Prop :=
  ∀ (i : Nat) (x y : Sent), sent[i]? = some x → sent[i + 1]? = some y → y.number = (x.number + 1) % 8

/-- A number is free when its frame is acknowledged. -/
def NoReuse (sent : List Sent) : Prop :=
  ∀ (i j : Nat) (x y : Sent), i < j → sent[i]? = some x → sent[j]? = some y →
    x.number = y.number → i < y.acked

/-- A command takes its number when no other is between its number and its frame, the last DATA
frame acknowledged every frame, and fewer than 8 are unacknowledged.  No write fails, no DATA
frame comes between the readings of `txSeq`, and no RSTACK between a command's number and its
frame. -/
def Orderly (s : State) : Action → Prop
  | .move _ .takeNumber =>
    (∀ t, ¬ InSection s t) ∧ (∀ a ∈ s.heard, a = s.sent.length) ∧ s.sent.length < s.acked + 8
  | .move _ .writeFails => False
  | .deliver _ _ _ _ _ =>
    ∀ t cmd, s.threads t = some cmd → ∀ control, cmd.phase ≠ .numbered control
  | .rstack => ∀ t, ¬ InSection s t
  | _ => True

/-! ## The invariant -/

/-- The frames carry the numbers from 0 on, each with at most 7 unacknowledged ones
before it. -/
def LogOk (sent : List Sent) : Prop :=
  ∀ (i : Nat) (x : Sent), sent[i]? = some x → x.number = number i ∧ i < x.acked + 8

def PhaseOk (s : State) : Phase → Prop
  | .numbered control =>
    (control.1 >>> 4) &&& 0x07 = number s.sent.length ∧ s.controller.txSeq = number s.sent.length
  | .loaded control txSeq =>
    (control.1 >>> 4) &&& 0x07 = number s.sent.length ∧ txSeq = number s.sent.length
  | .bumped control | .kept control =>
    (control.1 >>> 4) &&& 0x07 = number s.sent.length ∧
      s.controller.txSeq = number (s.heard.getD (s.sent.length + 1))
  | .ready | .waiting => True

/-- No command is between taking its number and writing its frame, or just one is. -/
inductive Numbering (s : State) : Prop where
  | free (none : ∀ t, ¬ InSection s t)
      (txSeq : s.controller.txSeq = number (s.heard.getD s.sent.length))
  | held (t : Nat) (cmd : Command) (thread : s.threads t = some cmd)
      (inside : cmd.phase.inSection = true) (alone : ∀ u, InSection s u → u = t)
      (room : s.sent.length < s.acked + 8) (phase : PhaseOk s cmd.phase)

structure Inv (s : State) : Prop where
  log : LogOk s.sent
  numbering : Numbering s

theorem LogOk.consecutive {sent : List Sent} (h : LogOk sent) : Consecutive sent := by
  intro i x y hx hy
  rw [(h i x hx).1, (h (i + 1) y hy).1, number_succ]

theorem LogOk.noReuse {sent : List Sent} (h : LogOk sent) : NoReuse sent := by
  intro i j x y hij hx hy hnumber
  obtain ⟨hy, hroom⟩ := h j y hy
  rw [(h i x hx).1, hy, number_eq_iff] at hnumber
  omega

theorem LogOk.append {sent : List Sent} (h : LogOk sent) {x : Sent}
    (hnumber : x.number = number sent.length) (hroom : sent.length < x.acked + 8) :
    LogOk (sent ++ [x]) := by
  intro i y hy
  rw [List.getElem?_append] at hy
  split at hy
  · exact h i y hy
  · rename_i hlen
    have hi : i = sent.length := by
      have hlt := (List.getElem?_eq_some_iff.mp hy).1
      simp only [List.length_singleton] at hlt
      omega
    subst hi
    simp only [Nat.sub_self, List.getElem?_cons_zero, Option.some.injEq] at hy
    subst hy
    exact ⟨hnumber, hroom⟩

theorem Numbering.of_inside {s : State} (h : Numbering s) {t : Nat} {cmd : Command}
    (hcmd : s.threads t = some cmd) (hinside : cmd.phase.inSection = true) :
    (∀ u, InSection s u → u = t) ∧ s.sent.length < s.acked + 8 ∧ PhaseOk s cmd.phase := by
  cases h with
  | free hnone => exact absurd ⟨cmd, hcmd, hinside⟩ (hnone t)
  | held u cmd' hcmd' _ halone hroom hphase =>
    obtain rfl : t = u := halone t ⟨cmd, hcmd, hinside⟩
    obtain rfl : cmd' = cmd := Option.some.inj (hcmd'.symm.trans hcmd)
    exact ⟨halone, hroom, hphase⟩

theorem alone_update {s s' : State} {t : Nat} {cmd : Option Command}
    (hthreads : s'.threads = Function.update s.threads t cmd)
    (halone : ∀ u, InSection s u → u = t) (u : Nat) (hu : InSection s' u) : u = t := by
  by_contra hne
  unfold InSection at hu
  rw [hthreads, Function.update_of_ne hne] at hu
  exact hne (halone u hu)

theorem none_update {s s' : State} {t : Nat} {cmd : Option Command}
    (hthreads : s'.threads = Function.update s.threads t cmd)
    (halone : ∀ u, InSection s u → u = t)
    (houtside : ∀ c, cmd = some c → c.phase.inSection = false) (u : Nat) : ¬ InSection s' u := by
  intro hu
  obtain rfl := alone_update hthreads halone u hu
  obtain ⟨c, hc, hinside⟩ := hu
  rw [hthreads, Function.update_self] at hc
  rw [houtside c hc] at hinside
  cases hinside

theorem Numbering.outside {s s' : State} (h : Numbering s) {t : Nat} {cmd : Option Command}
    (hthreads : s'.threads = Function.update s.threads t cmd)
    (hcontroller : s'.controller = s.controller) (hsent : s'.sent = s.sent)
    (hacked : s'.acked = s.acked) (hheard : s'.heard = s.heard)
    (hbefore : ∀ c, s.threads t = some c → c.phase.inSection = false)
    (hafter : ∀ c, cmd = some c → c.phase.inSection = false) : Numbering s' := by
  have hsame : ∀ u, InSection s' u ↔ InSection s u := by
    intro u
    unfold InSection
    rw [hthreads, Function.update_apply]
    split
    · rename_i hu
      subst hu
      constructor
      · rintro ⟨c, hc, hinside⟩
        rw [hafter c hc] at hinside
        cases hinside
      · rintro ⟨c, hc, hinside⟩
        rw [hbefore c hc] at hinside
        cases hinside
    · exact Iff.rfl
  cases h with
  | free hnone htx =>
    refine .free (fun u hu => hnone u ((hsame u).mp hu)) ?_
    rw [hcontroller, hheard, hsent, htx]
  | held u c hc hinside halone hroom hphase =>
    have hne : u ≠ t := by
      rintro rfl
      rw [hbefore c hc] at hinside
      cases hinside
    refine .held u c ?_ hinside (fun v hv => halone v ((hsame v).mp hv)) ?_ ?_
    · rw [hthreads, Function.update_of_ne hne, hc]
    · rw [hsent, hacked]
      exact hroom
    · unfold PhaseOk at hphase ⊢
      rw [hcontroller, hsent, hheard]
      exact hphase

theorem nextControl_frameNum (c : Controller) :
    ((nextControl c).1 >>> 4) &&& 0x07 = c.txSeq := by
  have hbits : ∀ tx rx : Fin 8,
      (dataControl (UInt8.ofNat tx) (UInt8.ofNat rx) >>> 4) &&& 0x07 = UInt8.ofNat tx := by
    decide
  have h := hbits ⟨c.txSeq.toNat, UInt8.lt_iff_toNat_lt.mp c.txSeq_lt⟩
    ⟨c.rxSeq.toNat, UInt8.lt_iff_toNat_lt.mp c.rxSeq_lt⟩
  simp only [UInt8.ofNat_toNat] at h
  exact h

theorem inv_advance {s : State} (h : Inv s) {t : Nat} {cmd : Command}
    (hcmd : s.threads t = some cmd) (m : Move) (horderly : Orderly s (.move t m)) :
    Inv (s.advance t cmd m) := by
  obtain ⟨hlog, hnum⟩ := h
  have hwas : ∀ c, s.threads t = some c → c = cmd := fun c hc =>
    Option.some.inj (hc.symm.trans hcmd)
  obtain ⟨frameID, params, sequence, retried, phase⟩ := cmd
  -- a move that the phase does not have changes nothing
  cases m with
  | takeNumber =>
    cases phase with
    | ready =>
      obtain ⟨hnone, hheard, hroom⟩ := horderly
      have htx : s.controller.txSeq = number s.sent.length := by
        cases hnum with
        | free _ htx =>
          rw [htx]
          cases hh : s.heard with
          | none => rfl
          | some a => rw [Option.getD_some, hheard a hh]
        | held u c hc hinside => exact absurd ⟨c, hc, hinside⟩ (hnone u)
      refine ⟨hlog, .held t _ (Function.update_self ..) rfl
        (alone_update rfl fun u hu => absurd hu (hnone u)) hroom ⟨?_, htx⟩⟩
      rw [nextControl_frameNum]
      exact htx
    | _ => exact ⟨hlog, hnum⟩
  | load =>
    cases phase with
    | numbered =>
      obtain ⟨halone, hroom, hok⟩ := hnum.of_inside hcmd rfl
      exact ⟨hlog, .held t _ (Function.update_self ..) rfl (alone_update rfl halone) hroom hok⟩
    | _ => exact ⟨hlog, hnum⟩
  | store =>
    cases phase with
    | loaded _ txSeq =>
      obtain ⟨halone, hroom, hok⟩ := hnum.of_inside hcmd rfl
      refine ⟨hlog, .held t _ (Function.update_self ..) rfl (alone_update rfl halone) hroom
        ⟨hok.1, ?_⟩⟩
      show (txSeq + 1) % 8 = number (s.sent.length + 1)
      rw [hok.2, number_succ]
    | _ => exact ⟨hlog, hnum⟩
  | keep =>
    cases phase with
    | bumped =>
      obtain ⟨halone, hroom, hok⟩ := hnum.of_inside hcmd rfl
      exact ⟨hlog, .held t _ (Function.update_self ..) rfl (alone_update rfl halone) hroom hok⟩
    | _ => exact ⟨hlog, hnum⟩
  | write =>
    cases phase with
    | kept =>
      obtain ⟨halone, hroom, hok⟩ := hnum.of_inside hcmd rfl
      refine ⟨hlog.append hok.1 hroom, .free (none_update rfl halone ?_) ?_⟩
      · rintro c ⟨⟩
        rfl
      · show s.controller.txSeq = number (s.heard.getD (s.sent ++ [_]).length)
        rw [List.length_append]
        exact hok.2
    | _ => exact ⟨hlog, hnum⟩
  | writeFails => exact absurd horderly id
  | respond =>
    cases phase with
    | waiting =>
      refine ⟨hlog, hnum.outside rfl rfl rfl rfl rfl (fun c hc => ?_) nofun⟩
      rw [hwas c hc]
      rfl
    | _ => exact ⟨hlog, hnum⟩
  | expire =>
    cases phase with
    | waiting =>
      have hbefore : ∀ c, s.threads t = some c → c.phase.inSection = false := fun c hc => by
        rw [hwas c hc]
        rfl
      cases retried with
      | true => exact ⟨hlog, hnum.outside rfl rfl rfl rfl rfl hbefore nofun⟩
      | false =>
        refine ⟨hlog, hnum.outside rfl rfl rfl rfl rfl hbefore ?_⟩
        rintro c ⟨⟩
        rfl
    | _ => exact ⟨hlog, hnum⟩

theorem deliver_txSeq (c : Controller) (ready : Bool) (frameNum : Nat) (reTx : Bool) (a : Nat)
    (data : List Byte) :
    (c.handleASHFrame ready (ncpFrame frameNum reTx a data)).controller.txSeq = number a := by
  obtain ⟨hcontrol, -, hack⟩ :=
    Flight.control_bits ⟨frameNum, reTx, ⟨a % 8, Nat.mod_lt _ (by decide)⟩⟩
  rw [ncpFrame, c.handle_data_txSeq ready hcontrol, hack]
  rfl

theorem inv_step (s : State) (a : Action) (h : Inv s) (horderly : Orderly s a) :
    Inv (step s a) := by
  cases a with
  | call =>
    rw [step]
    split
    · rename_i hnone
      refine ⟨h.log, h.numbering.outside rfl rfl rfl rfl rfl (by simp [hnone]) ?_⟩
      rintro c ⟨⟩
      rfl
    · exact h
  | move _ m =>
    rw [step]
    split
    · rename_i cmd hcmd
      exact inv_advance h hcmd m horderly
    · exact h
  | deliver ready frameNum reTx a data =>
    rw [step]
    split
    · refine ⟨h.log, ?_⟩
      have htx := deliver_txSeq s.controller ready frameNum reTx a data
      cases h.numbering with
      | free hnone => exact .free hnone htx
      | held t cmd hcmd hinside halone _ hphase =>
        have hroom' : s.sent.length < max s.acked a + 8 := by omega
        refine .held t cmd hcmd hinside halone hroom' ?_
        cases hp : cmd.phase with
        | numbered control => exact absurd hp (horderly t cmd hcmd control)
        | loaded =>
          rw [hp] at hphase
          exact hphase
        | bumped control | kept control =>
          rw [hp] at hphase
          exact ⟨hphase.1, htx⟩
        | ready | waiting => trivial
    · exact h
  | ack a =>
    rw [step]
    split
    · refine ⟨h.log, ?_⟩
      cases h.numbering with
      | free hnone htx => exact .free hnone htx
      | held t cmd hcmd hinside halone _ hphase =>
        have hroom' : s.sent.length < max s.acked a + 8 := by omega
        exact .held t cmd hcmd hinside halone hroom' hphase
    · exact h
  | rstack => exact ⟨by simp [LogOk, step], .free horderly rfl⟩

theorem inv_start (c : Controller) : Inv (State.start c) := by
  refine ⟨by simp [LogOk, State.start], .free ?_ rfl⟩
  rintro t ⟨cmd, hcmd, -⟩
  cases hcmd

/-- **Numbers in order.**  In every orderly run the session's frames carry consecutive numbers,
and none is used again before its frame is acknowledged. -/
theorem numbers_in_order (c : Controller) (actions : List Action)
    (horderly : Along step Orderly (State.start c) actions) :
    Consecutive (run step (State.start c) actions).sent ∧
      NoReuse (run step (State.start c) actions).sent := by
  have hinv : Inv (run step (State.start c) actions) :=
    invariant_of_along inv_step (inv_start c) horderly
  exact ⟨hinv.log.consecutive, hinv.log.noReuse⟩

def sends (t : Nat) : List Action :=
  .call t 0x18 [] :: [Move.takeNumber, .load, .store, .keep, .write].map (Action.move t)

def callback (a : Nat) : Action := .deliver true 0 false a []

theorem none_inside {s : State} (h : ∀ t, s.threads (t + 2) = none)
    (h₀ : ∀ cmd, s.threads 0 = some cmd → cmd.phase.inSection = false)
    (h₁ : ∀ cmd, s.threads 1 = some cmd → cmd.phase.inSection = false) (t : Nat) :
    ¬ InSection s t := by
  rintro ⟨cmd, hcmd, hinside⟩
  match t with
  | 0 => rw [h₀ cmd hcmd] at hinside; cases hinside
  | 1 => rw [h₁ cmd hcmd] at hinside; cases hinside
  | t + 2 => rw [h t] at hcmd; cases hcmd

/-- Two commands with a DATA frame between them that acknowledges the first. -/
theorem acknowledged_command_in_order :
    Along step Orderly (State.start Controller.init) (sends 0 ++ callback 1 :: sends 1) ∧
      Consecutive (run step (State.start Controller.init)
        (sends 0 ++ callback 1 :: sends 1)).sent := by
  have horderly :
      Along step Orderly (State.start Controller.init) (sends 0 ++ callback 1 :: sends 1) := by
    refine ⟨trivial, ⟨?_, ?_, by decide⟩, trivial, trivial, trivial, trivial, ?_, trivial,
      ⟨?_, ?_, by decide +kernel⟩, trivial, trivial, trivial, trivial, trivial⟩
    · exact none_inside (fun _ => rfl) (by rintro cmd ⟨⟩; rfl) (by rintro cmd ⟨⟩)
    · rintro a ⟨⟩
    · have hnone := none_inside (s := run step (State.start Controller.init) (sends 0))
        (fun _ => rfl) (by rintro cmd ⟨⟩; rfl) (by rintro cmd ⟨⟩)
      rintro t cmd hcmd control hphase
      exact hnone t ⟨cmd, hcmd, by rw [hphase]; rfl⟩
    · exact none_inside (fun _ => rfl) (by rintro cmd ⟨⟩; rfl) (by rintro cmd ⟨⟩; rfl)
    · rintro a ⟨⟩
      rfl
  exact ⟨horderly, (numbers_in_order _ _ horderly).1⟩

/-- A number is used again after a DATA frame that acknowledges less than was sent, by
overlapping commands, and by the ninth command without an acknowledgement. -/
theorem number_used_again :
    ¬ NoReuse (run step (State.start Controller.init) (sends 0 ++ callback 0 :: sends 1)).sent ∧
    ¬ NoReuse (run step (State.start Controller.init)
      (.call 0 0x18 [] :: .move 0 .takeNumber :: sends 1 ++
        [Move.load, .store, .keep, .write].map (Action.move 0))).sent ∧
    ¬ NoReuse (run step (State.start Controller.init) ((List.range 9).flatMap sends)).sent := by
  refine ⟨fun h => ?_, fun h => ?_, fun h => ?_⟩
  · exact absurd (h 0 1 ⟨0, 0⟩ ⟨0, 0⟩ (by decide) (by decide +kernel) (by decide +kernel) rfl)
      (by decide)
  · exact absurd (h 0 1 ⟨0, 0⟩ ⟨0, 0⟩ (by decide) (by decide +kernel) (by decide +kernel) rfl)
      (by decide)
  · exact absurd (h 0 8 ⟨0, 0⟩ ⟨0, 0⟩ (by decide) (by decide +kernel) (by decide +kernel) rfl)
      (by decide)

end IotController.Ember.Sequence
