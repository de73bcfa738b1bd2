/-
  The acknowledgement of a reset (`controller.go`: `frameParser`,
  the RSTACK case of `handleASHFrame`).

  A radio processor that was reset sends Cancel bytes and an RSTACK, which has a closing
  flag but no opening one.  UG101 lets a Cancel byte discard what came since the previous
  flag.  `frameParser` does not know the Cancel byte: it takes it for a byte of the frame,
  so that the frame that is handed on begins with whatever came first since the previous
  flag.
-/
import IotController.Ember.Framing

namespace IotController.Ember

open Foundation

/-- The bytes between the flags of an RSTACK, in any stuffing that is read back. -/
structure RstackBody where
  bytes : List Byte
  data : List Byte
  flag_free : ashFlag ∉ bytes
  valid : unescapeASHFrame bytes = 0xC1 :: data ++ crcBytes (crcCCITT (0xC1 :: data))

def announcement (cancels : Nat) (body : RstackBody) : List Byte :=
  List.replicate cancels ashCancel ++ body.bytes

theorem flag_not_mem_announcement (cancels : Nat) (body : RstackBody) :
    ashFlag ∉ announcement cancels body := by
  rw [announcement, List.mem_append, List.mem_replicate]
  rintro (⟨-, h⟩ | h)
  · exact absurd h (by decide)
  · exact body.flag_free h

def Parser.holding (history l : List Byte) : List Byte :=
  if ashFlag ∈ history then sinceFlag history ++ l else kept (history ++ l)

/-- Read as a frame, the bytes have the control byte of an RSTACK. -/
def BeginsRstack (bytes : List Byte) : Prop :=
  3 ≤ (unescapeASHFrame bytes).length ∧ (unescapeASHFrame bytes).head? = some 0xC1

instance (bytes : List Byte) : Decidable (BeginsRstack bytes) :=
  inferInstanceAs (Decidable (_ ∧ _))

theorem frameType_rstack_iff (control : Byte) :
    frameType control = some .rstack ↔ control = 0xC1 := by
  have hbits : ∀ b : BitVec 8, frameType (UInt8.ofBitVec b) = some .rstack ↔ b = 0xC1#8 := by
    decide +kernel
  rw [← UInt8.toBitVec_inj]
  exact hbits control.toBitVec

theorem hasType_rstack_iff (bytes : List Byte) :
    HasType (delimited bytes) .rstack ↔ BeginsRstack bytes := by
  rw [hasType_iff, stripFlags_delimited, frameType_rstack_iff, BeginsRstack]
  refine and_congr_right fun hlong => ?_
  cases hbytes : unescapeASHFrame bytes with
  | nil =>
    rw [hbytes] at hlong
    exact absurd hlong (by decide)
  | cons => simp

theorem Parser.rstack_mem_frames_iff (history : List Byte) {l : List Byte} (hl : ashFlag ∉ l)
    (raw : List Byte) :
    raw ∈ (after {} history).frames (l ++ [ashFlag]) ∧ HasType raw .rstack ↔
      raw = delimited (holding history l) ∧ BeginsRstack (holding history l) := by
  have hne : ∀ {bytes : List Byte}, BeginsRstack bytes → bytes ≠ [] := by
    rintro _ h rfl
    exact absurd h (by decide)
  have hparses : ∀ {bytes : List Byte}, BeginsRstack bytes → parses (delimited bytes) = true := by
    intro bytes h
    obtain ⟨frame, hframe, -⟩ := (hasType_rstack_iff bytes).mpr h
    rw [parses, hframe]
  rw [after_eq, holding]
  split
  · obtain ⟨hframes, hafter⟩ := run_held (fun m _ => step_inside m) (sinceFlag history) hl
    rw [frames_append, hframes, hafter, frames_singleton, step_inside_flag, closed]
    constructor
    · rintro ⟨hmem, htype⟩
      split at hmem
      · cases hmem
      · obtain rfl := List.mem_singleton.mp hmem
        exact ⟨rfl, (hasType_rstack_iff _).mp htype⟩
    · rintro ⟨rfl, h⟩
      exact ⟨by simp [hne h], (hasType_rstack_iff _).mpr h⟩
  · obtain ⟨hframes, hafter⟩ := run_held (fun m _ => step_before m) history hl
    rw [frames_append, hframes, hafter, frames_singleton, step_before_flag, rebuilt]
    constructor
    · rintro ⟨hmem, htype⟩
      split at hmem
      · obtain rfl := List.mem_singleton.mp hmem
        exact ⟨rfl, (hasType_rstack_iff _).mp htype⟩
      · cases hmem
    · rintro ⟨rfl, h⟩
      exact ⟨by simp [hne h, hparses h], (hasType_rstack_iff _).mpr h⟩

variable (c : Controller) (ready : Bool)

/-- The RSTACK is taken: a frame that is handed on is read as one, and both numbers are
zero behind it. -/
def RstackTaken (raws : List (List Byte)) : Prop :=
  ∃ raw ∈ raws, HasType raw .rstack ∧
    (c.handleASHFrame ready raw).controller.txSeq = 0 ∧
    (c.handleASHFrame ready raw).controller.rxSeq = 0

theorem Controller.handle_rstack {raw : List Byte} (h : HasType raw .rstack) :
    c.handleASHFrame ready raw = { controller := c.reset } := by
  obtain ⟨frame, hparse, htype⟩ := h
  rw [Controller.handleASHFrame, hparse]
  simp only [htype]

theorem rstackTaken_frames_iff (history : List Byte) {l : List Byte} (hl : ashFlag ∉ l) :
    RstackTaken c ready ((Parser.after {} history).frames (l ++ [ashFlag])) ↔
      BeginsRstack (Parser.holding history l) := by
  constructor
  · rintro ⟨raw, hmem, htype, -, -⟩
    exact ((Parser.rstack_mem_frames_iff history hl raw).mp ⟨hmem, htype⟩).2
  · intro h
    obtain ⟨hmem, htype⟩ := (Parser.rstack_mem_frames_iff history hl _).mpr ⟨rfl, h⟩
    refine ⟨_, hmem, htype, ?_, ?_⟩
    · rw [c.handle_rstack ready htype]
      rfl
    · rw [c.handle_rstack ready htype]
      rfl

/-- **When an RSTACK is recognised.**  After any bytes, Cancel bytes and an RSTACK reset the
numbers exactly if what the parser holds begins as an RSTACK does: the bytes before the Cancel
bytes, or what is left of the start-up buffer emptied in between. -/
theorem rstack_taken_iff (c : Controller) (ready : Bool) (history : List Byte) (cancels : Nat)
    (body : RstackBody) :
    RstackTaken c ready
        ((Parser.after {} history).frames (announcement (cancels + 1) body ++ [ashFlag])) ↔
      BeginsRstack (Parser.holding history (announcement (cancels + 1) body)) :=
  rstackTaken_frames_iff c ready history (flag_not_mem_announcement _ _)

theorem not_beginsRstack_cancel (rest : List Byte) : ¬ BeginsRstack (ashCancel :: rest) := by
  have hplain : unescapeASHFrame (ashCancel :: rest) = ashCancel :: unescapeASHFrame rest :=
    ashStuffing.unstuff_plain (by decide) rest
  rintro ⟨-, hhead⟩
  rw [hplain] at hhead
  exact absurd (Option.some.inj hhead) (by decide)

theorem cancel_hides_rstack {history : List Byte} (cancels : Nat)
    (body : RstackBody)
    (h : history.getLast? = some ashFlag ∨
      history = [] ∧ (announcement (cancels + 1) body).length < 257) :
    ¬ RstackTaken c ready
      ((Parser.after {} history).frames (announcement (cancels + 1) body ++ [ashFlag])) := by
  have hfirst : announcement (cancels + 1) body = ashCancel :: announcement cancels body := rfl
  rw [rstackTaken_frames_iff c ready history (flag_not_mem_announcement _ _), Parser.holding]
  rcases h with hlast | ⟨rfl, hshort⟩
  · obtain ⟨earlier, rfl⟩ := List.getLast?_eq_some_iff.mp hlast
    have hnone : Parser.sinceFlag (earlier ++ [ashFlag]) = [] :=
      List.rtakeWhile_concat_neg _ _ _ (by decide)
    rw [if_pos (by simp), hnone, List.nil_append, hfirst]
    exact not_beginsRstack_cancel _
  · rw [if_neg List.not_mem_nil, List.nil_append, Parser.kept, Nat.div_eq_of_lt hshort,
      Nat.mul_zero, List.drop_zero, hfirst]
    exact not_beginsRstack_cancel _

def softwareReset : RstackBody where
  bytes := [0xC1, 0x02, 0x0B, 0x0A, 0x52]
  data := [0x02, 0x0B]
  flag_free := by decide
  valid := by decide +kernel

/-- One Cancel byte and an RSTACK, at the start and behind a flag: taken for a damaged DATA
frame and answered with a NAK. -/
theorem rstack_missed :
    ¬ RstackTaken afterFirstCommand true
      ((Parser.after {} []).frames (announcement 1 softwareReset ++ [ashFlag])) ∧
    ¬ RstackTaken afterFirstCommand true
      ((Parser.after {} [ashFlag]).frames (announcement 1 softwareReset ++ [ashFlag])) ∧
    (Parser.after {} [ashFlag]).frames (announcement 1 softwareReset ++ [ashFlag]) =
      [delimited (announcement 1 softwareReset)] ∧
    (afterFirstCommand.handleASHFrame true
      (delimited (announcement 1 softwareReset))).controller.txSeq = 1 ∧
    (afterFirstCommand.handleASHFrame true
      (delimited (announcement 1 softwareReset))).written = [buildASHNAKFrame 0] :=
  ⟨cancel_hides_rstack _ _ 0 _ (Or.inr ⟨rfl, by decide⟩),
    cancel_hides_rstack _ _ 0 _ (Or.inl rfl), by decide +kernel, by decide +kernel,
    by decide +kernel⟩

end IotController.Ember
