/-
  The host's side of the ASH link
  (`pkg/zigbee-dongle/ember/controller.go`: `frameParser`, `handleASHFrame`,
  `handleCallback`, the handler and waiter tables, and the part of
  `sendEZSPCommand` that numbers a frame).

  `frameParser` cuts the byte stream at the flags.  `handleASHFrame` takes one frame at a
  time: a DATA frame is checked, acknowledged and its EZSP frame passed on to the handler
  that waits for its sequence number, or else to `handleCallback`; a NAK sends the last DATA
  frame again; an RSTACK starts the numbers anew.

  Only a DATA frame's checksum is checked.
-/
import IotController.Ember.Frame
import IotController.Foundation.Channel
import IotController.Foundation.GoMap

namespace IotController.Ember

open Foundation

/-! ## Cutting the byte stream -/

/-- The state of `frameParser`. -/
structure Parser where
  /-- empty before the first flag, then the flag and what followed it -/
  currentFrame : List Byte := []
  garbageBuffer : List Byte := []

def parses (raw : List Byte) : Bool :=
  match parseASHFrame raw with
  | .ok _ => true
  | .error _ => false

/-- `frameParser` on one byte. -/
def Parser.step (p : Parser) (b : Byte) : Parser × List (List Byte) :=
  if b = ashFlag then
    if p.currentFrame ≠ [] then
      let frame := p.currentFrame ++ [b]
      -- the flag also opens the next frame
      ({ p with currentFrame := [b] }, if 2 < frame.length then [frame] else [])
    else
      let potential := ashFlag :: (p.garbageBuffer ++ [ashFlag])
      (⟨[b], []⟩, if p.garbageBuffer ≠ [] ∧ parses potential = true then [potential] else [])
  else if p.currentFrame ≠ [] then
    ({ p with currentFrame := p.currentFrame ++ [b] }, [])
  else
    let garbage := p.garbageBuffer ++ [b]
    ({ p with garbageBuffer := if 256 < garbage.length then [] else garbage }, [])

def Parser.frames (p : Parser) : List Byte → List (List Byte)
  | [] => []
  | b :: rest => (p.step b).2 ++ Parser.frames (p.step b).1 rest

/-- What `frameParser` hands on: a frame between flags. -/
def Delivered (raw : List Byte) : Prop :=
  ∃ body, body ≠ [] ∧ ashFlag ∉ body ∧ raw = delimited body

/-- The current frame starts with its only flag, and there is none before the first. -/
structure Parser.Valid (p : Parser) : Prop where
  current : p.currentFrame = [] ∨ ∃ body, ashFlag ∉ body ∧ p.currentFrame = ashFlag :: body
  garbage : ashFlag ∉ p.garbageBuffer

theorem Parser.valid_init : Parser.Valid {} := ⟨Or.inl rfl, List.not_mem_nil⟩

theorem Parser.step_valid {p : Parser} (hp : p.Valid) (b : Byte) :
    (p.step b).1.Valid ∧ ∀ raw ∈ (p.step b).2, Delivered raw := by
  by_cases hb : b = ashFlag
  · subst hb
    rcases hp.current with hempty | ⟨body, hbody, hcurrent⟩
    · rw [Parser.step, if_pos rfl, if_neg (by simp [hempty])]
      refine ⟨⟨Or.inr ⟨[], List.not_mem_nil, rfl⟩, List.not_mem_nil⟩, ?_⟩
      intro raw hraw
      dsimp only at hraw
      split at hraw
      · rename_i h
        rw [List.mem_singleton] at hraw
        exact ⟨p.garbageBuffer, h.1, hp.garbage, hraw⟩
      · cases hraw
    · rw [Parser.step, if_pos rfl, if_pos (by simp [hcurrent])]
      refine ⟨⟨Or.inr ⟨[], List.not_mem_nil, rfl⟩, hp.garbage⟩, ?_⟩
      intro raw hraw
      dsimp only at hraw
      split at hraw
      · rename_i hlength
        rw [List.mem_singleton] at hraw
        refine ⟨body, ?_, hbody, by rw [hraw, hcurrent]; rfl⟩
        rintro rfl
        simp [hcurrent] at hlength
      · cases hraw
  · rcases hp.current with hempty | ⟨body, hbody, hcurrent⟩
    · rw [Parser.step, if_neg hb, if_neg (by simp [hempty])]
      refine ⟨⟨Or.inl hempty, ?_⟩, by simp⟩
      dsimp only
      split
      · exact List.not_mem_nil
      · simp [hp.garbage, Ne.symm hb]
    · rw [Parser.step, if_neg hb, if_pos (by simp [hcurrent])]
      refine ⟨⟨Or.inr ⟨body ++ [b], ?_, by simp [hcurrent]⟩, hp.garbage⟩, by simp⟩
      simp [hbody, Ne.symm hb]

theorem Parser.delivered_of_mem_frames {p : Parser} (hp : p.Valid) {stream : List Byte}
    {raw : List Byte} (hraw : raw ∈ p.frames stream) : Delivered raw := by
  induction stream generalizing p with
  | nil => cases hraw
  | cons b _ ih =>
    obtain ⟨hvalid, hframes⟩ := Parser.step_valid hp b
    rcases List.mem_append.mp hraw with hfirst | hrest
    · exact hframes raw hfirst
    · exact ih hvalid hrest

/-! ## The controller -/

/-- A device that has joined. -/
structure DeviceJoinEvent where
  networkAddress : UInt16
  ieeeAddress : UInt64
  deriving DecidableEq, Repr

/-- A message from a device. -/
structure IncomingMessage where
  source : UInt16
  sourceEndpoint : Byte
  destinationEndpoint : Byte
  clusterID : UInt16
  linkQuality : Byte
  data : List Byte
  deriving DecidableEq, Repr

/-- The fields that frames read or change.  Handlers and waiters have numbers; their channels
one slot. -/
structure Controller where
  txSeq : Byte
  rxSeq : Byte
  handlers : GoMap Byte Nat
  /-- the results of each handler, `none` for a time-out -/
  results : Nat → Chan (Option EZSPFrame) 1
  zdoWaiters : GoMap UInt16 Nat
  payloads : Nat → Chan (List Byte) 1
  stackStatusCh : Chan Byte 10
  joinEvents : Chan DeviceJoinEvent 10
  /-- what the reader of the unbuffered output channel took -/
  output : List IncomingMessage
  /-- `lastFrameControl` and `lastFrameEZSP` -/
  lastFrame : Option (Byte × List Byte)
  txSeq_lt : txSeq < 8
  rxSeq_lt : rxSeq < 8
  lastFrame_data : ∀ f ∈ lastFrame, f.1 &&& 0x80 = 0

def Controller.init : Controller where
  txSeq := 0
  rxSeq := 0
  handlers := ∅
  results _ := .empty
  zdoWaiters := ∅
  payloads _ := .empty
  stackStatusCh := .empty
  joinEvents := .empty
  output := []
  lastFrame := none
  txSeq_lt := byte_zero_lt
  rxSeq_lt := byte_zero_lt
  lastFrame_data := by simp

theorem mod_eight_lt (x : Byte) : x % 8 < 8 := by
  rw [UInt8.lt_iff_toNat_lt, UInt8.toNat_mod]
  exact Nat.mod_lt _ (by decide)

variable (c : Controller) (ready : Bool) (p : List Byte)

def Controller.reset : Controller :=
  { c with txSeq := 0, rxSeq := 0, txSeq_lt := byte_zero_lt, rxSeq_lt := byte_zero_lt }

def dataControl (txSeq rxSeq : Byte) : Byte := (txSeq <<< 4) ||| (rxSeq &&& 0x07)

theorem dataControl_data {txSeq : Byte} (htx : txSeq < 8) (rxSeq : Byte) :
    dataControl txSeq rxSeq &&& 0x80 = 0 := by
  have hshift : ∀ b : BitVec 8, b < 8#8 → (b <<< 4) &&& 0x80#8 = 0#8 := by decide
  have hack : (0x07 : Byte) &&& 0x80 = 0 := by decide
  have hnum : (txSeq <<< 4) &&& 0x80 = 0 :=
    UInt8.toBitVec_inj.mp (by simpa using hshift txSeq.toBitVec htx)
  rw [dataControl, or_and_mask, hnum, UInt8.and_assoc, hack, UInt8.and_zero, UInt8.or_zero]

theorem Controller.control_data : dataControl c.txSeq c.rxSeq &&& 0x80 = 0 :=
  dataControl_data c.txSeq_lt c.rxSeq

def Controller.bumpTx : Controller :=
  { c with txSeq := (c.txSeq + 1) % 8, txSeq_lt := mod_eight_lt _ }

def Controller.storeLast (control : Byte) (hcontrol : control &&& 0x80 = 0) (ezspData : List Byte) :
    Controller :=
  { c with
    lastFrame := some (control, ezspData)
    lastFrame_data := by
      intro f hf
      cases hf
      exact hcontrol }

/-- The numbering in `sendEZSPCommand` when nothing comes in between. -/
def Controller.numberFrame (ezspData : List Byte) : Controller × List Byte :=
  (c.bumpTx.storeLast _ c.control_data ezspData,
    buildASHDataFrame (dataControl c.txSeq c.rxSeq) ezspData)

/-! ## Callbacks -/

def leUint16 (i : Nat) : UInt16 := word (p.getD (i + 1) 0) (p.getD i 0)

def leUint64 : UInt64 := p.foldr (fun b v => b.toUInt64 ||| (v <<< 8)) 0

def incomingMessageHandler : UInt16 := 0x45

def trustCenterJoinHandler : UInt16 := 0x24

def stackStatusHandler : UInt16 := 0x19

/-- The message that `EZSP_INCOMING_MESSAGE_HANDLER` carries, with its profile. -/
def incomingMessage : Option (UInt16 × IncomingMessage) :=
  if p.length < 19 then none
  else
    let msgLen := (p.getD 18 0).toNat
    if p.length < 19 + msgLen then none
    else some (leUint16 p 1,
      { source := leUint16 p 14
        sourceEndpoint := p.getD 5 0
        destinationEndpoint := p.getD 6 0
        clusterID := leUint16 p 3
        linkQuality := p.getD 12 0
        data := (p.drop 19).take msgLen })

def Controller.offerPayload (w : Nat) (payload : List Byte) : Controller :=
  { c with payloads := Function.update c.payloads w ((c.payloads w).trySend payload) }

def Controller.offerOutput (msg : IncomingMessage) : Controller :=
  if ready then { c with output := c.output ++ [msg] } else c

def Controller.waiterFor (profileID clusterID : UInt16) : Option Nat :=
  if profileID = 0x0000 ∧ 0x8000 ≤ clusterID then c.zdoWaiters.lookup clusterID else none

/-- `ready` says whether somebody is receiving from the output channel. -/
def Controller.handleCallback (frame : EZSPFrame) : Controller :=
  if frame.frameID = incomingMessageHandler then
    match incomingMessage frame.parameters with
    | none => c
    | some (profileID, msg) =>
      match c.waiterFor profileID msg.clusterID with
      | some w => c.offerPayload w msg.data
      | none => c.offerOutput ready msg
  else if frame.frameID = trustCenterJoinHandler then
    if frame.parameters.length < 14 then c
    else
      let event : DeviceJoinEvent :=
        ⟨leUint16 frame.parameters 0, leUint64 ((frame.parameters.drop 2).take 8)⟩
      { c with joinEvents := c.joinEvents.trySend event }
  else if frame.frameID = stackStatusHandler then
    match frame.parameters with
    | status :: _ => { c with stackStatusCh := c.stackStatusCh.trySend status }
    | [] => c
  else c

def Controller.registerHandler (sequence : Byte) (h : Nat) : Controller :=
  { c with
    handlers := c.handlers.insert sequence h
    results := Function.update c.results h .empty }

def Controller.registerZDOWaiter (cluster : UInt16) (w : Nat) : Controller :=
  { c with
    zdoWaiters := c.zdoWaiters.insert cluster w
    payloads := Function.update c.payloads w .empty }

def Controller.removeZDOWaiter (cluster : UInt16) : Controller :=
  { c with zdoWaiters := c.zdoWaiters.erase cluster }

/-! ## Frames from the radio processor -/

/-- What the handling of a frame leaves. -/
structure Handled where
  controller : Controller
  /-- the frames given to `WriteBytes`, whose failure is only logged -/
  written : List (List Byte) := []
  /-- the EZSP frames given to a handler or to `handleCallback` -/
  passed : List EZSPFrame := []

/-- An EZSP frame that is no callback goes to the handler of its sequence number, whose slot is
free. -/
def Controller.route (data : List Byte) (frame : EZSPFrame) :
    Controller :=
  if frame.control = ezspResponse then
    let isAsyncCallback := data.getD 1 0 &&& 0x10 ≠ 0
    match c.handlers.lookup frame.sequence with
    | some h =>
      if isAsyncCallback then c.handleCallback ready frame
      else
        { c with
          handlers := c.handlers.erase frame.sequence
          results := Function.update c.results h ((c.results h).trySend (some frame)) }
    | none => c.handleCallback ready frame
  else c.handleCallback ready frame

def Controller.takeNumbers (frame : ASHFrame) : Controller :=
  { c with
    rxSeq := if frame.frameNum = c.rxSeq then (c.rxSeq + 1) % 8 else c.rxSeq
    txSeq := if frame.ackNum ≠ c.txSeq then frame.ackNum else c.txSeq
    rxSeq_lt := by
      split
      · exact mod_eight_lt _
      · exact c.rxSeq_lt
    txSeq_lt := by
      split
      · exact frame.ackNum_lt
      · exact c.txSeq_lt }

theorem Controller.takeNumbers_rxSeq (frame : ASHFrame) :
    (c.takeNumbers frame).rxSeq =
      if frame.frameNum = c.rxSeq then (c.rxSeq + 1) % 8 else c.rxSeq := rfl

theorem Controller.takeNumbers_txSeq (frame : ASHFrame) :
    (c.takeNumbers frame).txSeq = frame.ackNum := by
  show (if frame.ackNum ≠ c.txSeq then frame.ackNum else c.txSeq) = frame.ackNum
  split
  · rfl
  · rename_i h
    exact (not_not.mp h).symm

def Controller.acceptData (frame : ASHFrame) : Handled :=
  let c := c.takeNumbers frame
  let ackFrame := buildASHACKFrame c.rxSeq
  let data := derandomizeData frame.data
  match parseEZSP data with
  | .error _ => { controller := c, written := [ackFrame] }
  | .ok ezsp =>
    { controller := c.route ready data ezsp, written := [ackFrame], passed := [ezsp] }

/-- Does the check at the start of the DATA case refuse the frame? -/
def crcMismatch (raw : List Byte) : Bool :=
  let unescaped := unescapeASHFrame (raw.tail.dropLast)
  decide (3 ≤ unescaped.length) && decide (crcCCITT (covered unescaped) ≠ trailingCRC unescaped)

/-- What the host does with a frame. -/
def Controller.handleASHFrame (raw : List Byte) : Handled :=
  match parseASHFrame raw with
  | .error _ => { controller := c }
  | .ok frame =>
    match frame.type with
    | .data =>
      if crcMismatch raw then { controller := c, written := [buildASHNAKFrame c.rxSeq] }
      else c.acceptData ready frame
    | .nak =>
      match c.lastFrame with
      | some (control, ezspData) =>
        { controller := c, written := [buildASHDataFrame (control ||| 0x08) ezspData] }
      | none => { controller := c }
    | .rstack => { controller := c.reset }
    | .ack | .rst | .error => { controller := c }

theorem Controller.handleCallback_numbers (frame : EZSPFrame) :
    (c.handleCallback ready frame).rxSeq = c.rxSeq ∧
      (c.handleCallback ready frame).txSeq = c.txSeq := by
  unfold Controller.handleCallback
  split
  · split
    · exact ⟨rfl, rfl⟩
    · split
      · exact ⟨rfl, rfl⟩
      · unfold Controller.offerOutput
        split <;> exact ⟨rfl, rfl⟩
  · split
    · split <;> exact ⟨rfl, rfl⟩
    · split
      · split <;> exact ⟨rfl, rfl⟩
      · exact ⟨rfl, rfl⟩

theorem Controller.route_numbers (data : List Byte) (frame : EZSPFrame) :
    (c.route ready data frame).rxSeq = c.rxSeq ∧ (c.route ready data frame).txSeq = c.txSeq := by
  unfold Controller.route
  split
  · dsimp only
    split
    · split
      · exact c.handleCallback_numbers ready frame
      · exact ⟨rfl, rfl⟩
    · exact c.handleCallback_numbers ready frame
  · exact c.handleCallback_numbers ready frame

theorem crcMismatch_build (control : Byte) (data : List Byte) :
    crcMismatch (buildASHDataFrame control data) = false := by
  have hbody : (buildASHDataFrame control data).tail.dropLast =
      stripFlags (buildASHDataFrame control data) := by
    rw [buildASHDataFrame, sealFrame, stripFlags_delimited]
    simp [delimited]
  rw [crcMismatch, hbody, buildASHDataFrame, unescape_sealFrame, covered_append_crc,
    trailingCRC_append_crc]
  simp

theorem Controller.handle_build {control : Byte} (hcontrol : control &&& 0x80 = 0)
    (data : List Byte) :
    c.handleASHFrame ready (buildASHDataFrame control data) =
      c.acceptData ready (dataFrame control data) := by
  have htype : (dataFrame control data).type = .data := rfl
  rw [Controller.handleASHFrame, parse_buildASHDataFrame hcontrol]
  simp only [htype, crcMismatch_build]
  rfl

/-- **A DATA frame** is answered with the next number expected and passed on, whatever its
number. -/
theorem Controller.handle_data {control : Byte} (hcontrol : control &&& 0x80 = 0) {data : List Byte}
    {ezsp : EZSPFrame} (hdata : parseEZSP data = .ok ezsp) :
    c.handleASHFrame ready (buildASHDataFrame control data) =
      { controller := (c.takeNumbers (dataFrame control data)).route ready data ezsp
        written := [buildASHACKFrame (c.takeNumbers (dataFrame control data)).rxSeq]
        passed := [ezsp] } := by
  have hread : derandomizeData (dataFrame control data).data = data := derandomize_randomize data
  rw [c.handle_build ready hcontrol]
  simp only [Controller.acceptData, hread, hdata]

theorem Controller.handle_data_txSeq {control : Byte} (hcontrol : control &&& 0x80 = 0)
    (data : List Byte) :
    (c.handleASHFrame ready (buildASHDataFrame control data)).controller.txSeq =
      control &&& 0x07 := by
  have htake : (c.takeNumbers (dataFrame control data)).txSeq = control &&& 0x07 := by
    rw [Controller.takeNumbers_txSeq]
    rfl
  rw [c.handle_build ready hcontrol, Controller.acceptData]
  split
  · exact htake
  · rw [(Controller.route_numbers _ _ _ _).2]
    exact htake

/-! ## Frames with a wrong checksum -/

/-- The checksum at the end of the frame is not that of its control byte and data. -/
def Corrupted (raw : List Byte) : Prop :=
  crcCCITT (covered (unescapeASHFrame (stripFlags raw))) ≠
    trailingCRC (unescapeASHFrame (stripFlags raw))

instance (raw : List Byte) : Decidable (Corrupted raw) := inferInstanceAs (Decidable (_ ≠ _))

/-- The frame left the numbers, the tables and the channels as they were, and no
DATA frame was sent. -/
structure Inert (c : Controller) (h : Handled) : Prop where
  txSeq : h.controller.txSeq = c.txSeq
  rxSeq : h.controller.rxSeq = c.rxSeq
  handlers : h.controller.handlers = c.handlers
  results : h.controller.results = c.results
  zdoWaiters : h.controller.zdoWaiters = c.zdoWaiters
  payloads : h.controller.payloads = c.payloads
  stackStatusCh : h.controller.stackStatusCh = c.stackStatusCh
  joinEvents : h.controller.joinEvents = c.joinEvents
  output : h.controller.output = c.output
  written : ∀ raw ∈ h.written, ¬ HasType raw .data

theorem Inert.of_same {c : Controller} {written : List (List Byte)} {passed : List EZSPFrame}
    (h : ∀ raw ∈ written, ¬ HasType raw .data) : Inert c ⟨c, written, passed⟩ :=
  ⟨rfl, rfl, rfl, rfl, rfl, rfl, rfl, rfl, rfl, h⟩

theorem Delivered.tail_dropLast {raw : List Byte} (h : Delivered raw) :
    raw.tail.dropLast = stripFlags raw := by
  obtain ⟨body, -, -, rfl⟩ := h
  rw [stripFlags_delimited]
  simp [delimited]

theorem crcMismatch_of_corrupted {raw : List Byte} (hraw : Delivered raw)
    (hcorrupted : Corrupted raw) (hdata : HasType raw .data) : crcMismatch raw = true := by
  have hlong := ((hasType_iff raw .data).mp hdata).1
  rw [crcMismatch, hraw.tail_dropLast]
  simp only [Bool.and_eq_true, decide_eq_true_eq]
  exact ⟨hlong, hcorrupted⟩

theorem Controller.retransmit_data {control : Byte} {ezspData : List Byte}
    (hlast : c.lastFrame = some (control, ezspData)) :
    HasType (buildASHDataFrame (control ||| 0x08) ezspData) .data := by
  have hflag : (0x08 : Byte) &&& 0x80 = 0 := by decide
  have hcontrol : control &&& 0x80 = 0 := c.lastFrame_data (control, ezspData) hlast
  apply hasType_buildASHDataFrame
  rw [or_and_mask, hcontrol, hflag, UInt8.or_zero]

def afterFirstCommand : Controller :=
  (Controller.init.numberFrame (serializeEZSPFrameExtended ⟨1, ezspCommand, 0x18, []⟩)).1

def noisyRstack : List Byte := [0x7E, 0xC1, 0x00, 0x00, 0x7E]

def noisyNak : List Byte := [0x7E, 0xA1, 0x00, 0x00, 0x7E]

/-- A DATA frame with four bytes of payload, of which two bits were changed. -/
def noisyData : List Byte := [0x7E, 0x25, 0xC2, 0x21, 0x28, 0x46, 0x5E, 0x30, 0x7E]

/-- **What a corrupted frame does.**  It is inert unless read as a NAK while a DATA frame is
stored, or as an RSTACK while a number is not zero. -/
theorem corrupted_inert_iff (c : Controller) (ready : Bool) (stream raw : List Byte)
    (hraw : raw ∈ Parser.frames {} stream) (hcorrupted : Corrupted raw) :
    Inert c (c.handleASHFrame ready raw) ↔
      (HasType raw .nak → c.lastFrame = none) ∧
        (HasType raw .rstack → c.txSeq = 0 ∧ c.rxSeq = 0) := by
  have hdelivered := Parser.delivered_of_mem_frames Parser.valid_init hraw
  cases hparse : parseASHFrame raw with
  | error =>
    have hnone : ∀ t, ¬ HasType raw t := by
      rintro t ⟨frame, hframe, -⟩
      rw [hparse] at hframe
      cases hframe
    have hinert : Inert c (c.handleASHFrame ready raw) := by
      rw [Controller.handleASHFrame, hparse]
      exact Inert.of_same (by simp)
    exact iff_of_true hinert ⟨fun h => absurd h (hnone _), fun h => absurd h (hnone _)⟩
  | ok frame =>
    have htype : ∀ t, HasType raw t ↔ frame.type = t := by
      intro t
      constructor
      · rintro ⟨frame', hframe, rfl⟩
        rw [hparse] at hframe
        cases hframe
        rfl
      · exact fun h => ⟨frame, hparse, h⟩
    rw [htype, htype, Controller.handleASHFrame, hparse]
    dsimp only
    cases hframe : frame.type with
    | data =>
      have hmismatch := crcMismatch_of_corrupted hdelivered hcorrupted ((htype _).mpr hframe)
      rw [if_pos hmismatch]
      simp only [reduceCtorEq, false_implies, and_self, iff_true]
      exact Inert.of_same (by simpa using not_hasType_data_nak c.rxSeq)
    | nak =>
      simp only [reduceCtorEq, false_implies, and_true, forall_const]
      cases hlast : c.lastFrame with
      | none => simpa using Inert.of_same (by simp)
      | some =>
        refine iff_of_false (fun h => ?_) (by simp)
        exact h.written _ (by simp) (c.retransmit_data hlast)
    | rstack =>
      simp only [reduceCtorEq, false_implies, true_and, forall_const]
      constructor
      · intro h
        exact ⟨h.txSeq.symm, h.rxSeq.symm⟩
      · rintro ⟨htx, hrx⟩
        exact ⟨htx.symm, hrx.symm, rfl, rfl, rfl, rfl, rfl, rfl, rfl, by simp⟩
    | ack | rst | error =>
      simp only [reduceCtorEq, false_implies, and_self, iff_true]
      exact Inert.of_same (by simp)

/-- A noisy DATA frame does nothing, and neither does a noisy NAK before the first DATA frame. -/
theorem noisyData_inert :
    Corrupted noisyData ∧ Inert afterFirstCommand (afterFirstCommand.handleASHFrame true noisyData) ∧
      Corrupted noisyNak ∧ Inert Controller.init (Controller.init.handleASHFrame true noisyNak) := by
  have hdata : ¬ HasType noisyData .nak ∧ ¬ HasType noisyData .rstack := by
    rw [hasType_iff, hasType_iff]
    decide
  have hnak : ¬ HasType noisyNak .rstack := by
    rw [hasType_iff]
    decide
  have hcorrupted : Corrupted noisyData := by decide +kernel
  have hiff := corrupted_inert_iff afterFirstCommand true noisyData noisyData (by decide) hcorrupted
  have hiff' := corrupted_inert_iff Controller.init true noisyNak noisyNak (by decide) (by decide)
  exact ⟨hcorrupted, hiff.mpr ⟨fun h => absurd h hdata.1, fun h => absurd h hdata.2⟩, by decide,
    hiff'.mpr ⟨fun _ => rfl, fun h => absurd h hnak⟩⟩

/-- Noise read as an RSTACK starts the numbers anew; read as a NAK, it sends a frame again. -/
theorem noise_acts :
    noisyRstack ∈ Parser.frames {} noisyRstack ∧ Corrupted noisyRstack ∧
    ¬ Inert afterFirstCommand (afterFirstCommand.handleASHFrame true noisyRstack) ∧
    noisyNak ∈ Parser.frames {} noisyNak ∧ Corrupted noisyNak ∧
    ¬ Inert afterFirstCommand (afterFirstCommand.handleASHFrame true noisyNak) := by
  refine ⟨by decide, by decide, fun h => ?_, by decide, by decide, fun h => ?_⟩
  · exact absurd h.txSeq (by decide)
  · exact h.written _ List.mem_cons_self (afterFirstCommand.retransmit_data rfl)

end IotController.Ember
