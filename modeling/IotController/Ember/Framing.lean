/-
  Frames on a noisy line (`frame.go`: the build functions;
  `controller.go`: `frameParser`).

  `frameParser` has two kinds of state.  Before the first flag it collects bytes and forgets
  them when there are more than 256; behind a flag it collects the bytes of a frame.  Which
  of the two it is in, and what it holds, is a function of the bytes received so far
  (`after_eq`).

  Frames are sent one behind the other, either with one flag between them or with two and
  noise between those.
-/
import Mathlib.Data.List.DropRight
import IotController.Ember.Controller

namespace IotController.Ember

open Foundation

/-! ## What is built -/

/-- The frames that are built. -/
inductive Outgoing where
  | data (control : Byte) (payload : List Byte)
  | ack (ackNum : Byte)
  | nak (ackNum : Byte)
  | rst
  | rstack
  deriving DecidableEq, Repr

/-- The frame that is built.  An RST has Cancel bytes before its opening flag. -/
def Outgoing.frame : Outgoing → List Byte
  | .data control payload => buildASHDataFrame control payload
  | .ack ackNum => buildASHACKFrame ackNum
  | .nak ackNum => buildASHNAKFrame ackNum
  | .rst => buildRSTFrame.drop 32
  | .rstack => buildRSTACKFrame

def Outgoing.content : Outgoing → List Byte
  | .data control payload => control :: randomizeData payload
  | .ack ackNum => [0x80 ||| (ackNum &&& 0x07)]
  | .nak ackNum => [0xA0 ||| (ackNum &&& 0x07)]
  | .rst => [0xC0]
  | .rstack => [0xC1]

def Outgoing.unescaped (o : Outgoing) : List Byte := o.content ++ crcBytes (crcCCITT o.content)

def Outgoing.body (o : Outgoing) : List Byte := escapeASHFrame o.unescaped

section

variable (noise : List Byte) (o : Outgoing) (p : Parser)

theorem Outgoing.frame_eq : o.frame = delimited o.body := by
  cases o with
  | rst =>
    rw [Outgoing.frame, buildRSTFrame, List.drop_left' List.length_replicate]
    rfl
  | _ => rfl

theorem Outgoing.flag_not_mem_body : ashFlag ∉ o.body :=
  ashFlag_not_mem_escape _

theorem Outgoing.body_ne_nil : o.body ≠ [] :=
  ashStuffing.stuff_ne_nil (by simp [Outgoing.unescaped, crcBytes])

/-! ## The state of the parser -/

namespace Parser

def after (stream : List Byte) : Parser :=
  stream.foldl (fun p b => (p.step b).1) p

@[simp] theorem after_nil : p.after [] = p := rfl

theorem after_append (first second : List Byte) :
    p.after (first ++ second) = (p.after first).after second :=
  List.foldl_append

theorem frames_append (first second : List Byte) :
    p.frames (first ++ second) = p.frames first ++ (p.after first).frames second := by
  induction first generalizing p with
  | nil => rfl
  | cons _ _ ih =>
    rw [List.cons_append, frames, ih, frames, List.append_assoc]
    rfl

theorem frames_singleton (b : Byte) : p.frames [b] = (p.step b).2 :=
  List.append_nil _

def inside (body : List Byte) : Parser := ⟨ashFlag :: body, []⟩

/-- What is left of the bytes before the first flag, thrown away whenever there are 257. -/
def kept : List Byte := noise.drop (257 * (noise.length / 257))

def before : Parser := ⟨[], kept noise⟩

theorem kept_suffix : kept noise <:+ noise := List.drop_suffix _ _

theorem kept_append (b : Byte) :
    kept (noise ++ [b]) = if 256 < (kept noise ++ [b]).length then [] else kept noise ++ [b] := by
  have hlength : (kept noise).length = noise.length % 257 := by
    have := Nat.div_add_mod noise.length 257
    rw [kept, List.length_drop]
    omega
  rw [List.length_append, hlength, kept, List.length_append, List.length_singleton]
  split
  · rw [List.drop_eq_nil_iff, List.length_append, List.length_singleton]
    omega
  · have hsame : (noise.length + 1) / 257 = noise.length / 257 := by omega
    have hle : 257 * (noise.length / 257) ≤ noise.length := Nat.mul_div_le _ _
    rw [hsame, List.drop_append_of_le_length hle]
    rfl

theorem step_inside (body : List Byte) {b : Byte} (hb : b ≠ ashFlag) :
    (inside body).step b = (inside (body ++ [b]), []) := by
  have hcurrent : (inside body).currentFrame ≠ [] := List.cons_ne_nil _ _
  rw [step, if_neg hb, if_pos hcurrent]
  rfl

theorem step_before {b : Byte} (hb : b ≠ ashFlag) :
    (before noise).step b = (before (noise ++ [b]), []) := by
  have hcurrent : ¬ (before noise).currentFrame ≠ [] := not_not.mpr rfl
  rw [step, if_neg hb, if_neg hcurrent, before, before, kept_append]

def closed (body : List Byte) : List (List Byte) := if body = [] then [] else [delimited body]

def rebuilt : List (List Byte) :=
  if kept noise ≠ [] ∧ parses (delimited (kept noise)) = true then [delimited (kept noise)] else []

theorem step_inside_flag (body : List Byte) :
    (inside body).step ashFlag = (inside [], closed body) := by
  have hcurrent : (inside body).currentFrame ≠ [] := List.cons_ne_nil _ _
  rw [step, if_pos rfl, if_pos hcurrent]
  cases body with
  | nil => rfl
  | cons b rest =>
    have hlong : 2 < (ashFlag :: b :: rest ++ [ashFlag]).length := by simp
    exact congrArg (Prod.mk _) (if_pos hlong)

theorem step_before_flag :
    (before noise).step ashFlag = (inside [], rebuilt noise) := rfl

theorem run_held {held : List Byte → Parser}
    (hstep : ∀ l b, b ≠ ashFlag → (held l).step b = (held (l ++ [b]), []))
    (start : List Byte) {l : List Byte} (hl : ashFlag ∉ l) :
    (held start).frames l = [] ∧ (held start).after l = held (start ++ l) := by
  induction l generalizing start with
  | nil => exact ⟨rfl, by rw [List.append_nil, after_nil]⟩
  | cons b _ ih =>
    obtain ⟨hb, hrest⟩ := List.ne_and_not_mem_of_not_mem_cons hl
    obtain ⟨hframes, hafter⟩ := ih (start ++ [b]) hrest
    refine ⟨?_, ?_⟩
    · rw [frames, hstep start b hb.symm, hframes]
      rfl
    · rw [List.append_cons, ← hafter, after, List.foldl_cons, hstep start b hb.symm]
      rfl

theorem inside_stretch {body : List Byte} (hbody : ashFlag ∉ body) :
    (inside []).frames (body ++ [ashFlag]) = closed body ∧
      (inside []).after (body ++ [ashFlag]) = inside [] := by
  obtain ⟨hframes, hafter⟩ := run_held (fun l _ => step_inside l) [] hbody
  rw [List.nil_append] at hafter
  rw [frames_append, after_append, hframes, hafter, frames_singleton, step_inside_flag]
  refine ⟨rfl, ?_⟩
  rw [after, List.foldl_cons, step_inside_flag]
  rfl

theorem before_stretch {noise : List Byte} (hnoise : ashFlag ∉ noise) :
    frames {} (noise ++ [ashFlag]) = rebuilt noise ∧ after {} (noise ++ [ashFlag]) = inside [] := by
  obtain ⟨hframes, hafter⟩ := run_held (fun l _ => step_before l) [] hnoise
  have hstart : before [] = {} := rfl
  rw [hstart] at hframes hafter
  rw [List.nil_append] at hafter
  rw [frames_append, after_append, hframes, hafter, frames_singleton, step_before_flag]
  refine ⟨rfl, ?_⟩
  rw [after, List.foldl_cons, step_before_flag]
  rfl

def sinceFlag (history : List Byte) : List Byte :=
  history.rtakeWhile fun b => decide (b ≠ ashFlag)

/-- **The state of the parser**: what is left of the bytes before the first flag, then those
since the last. -/
theorem after_eq (history : List Byte) :
    after {} history =
      if ashFlag ∈ history then inside (sinceFlag history) else before history := by
  induction history using List.reverseRecOn with
  | nil => rfl
  | append_singleton earlier b ih =>
    have hlast : ∀ p : Parser, p.after [b] = (p.step b).1 := fun _ => rfl
    rw [after_append, hlast, ih]
    by_cases hb : b = ashFlag
    · subst hb
      have hnone : sinceFlag (earlier ++ [ashFlag]) = [] :=
        List.rtakeWhile_concat_neg _ _ _ (by decide)
      rw [if_pos (List.mem_append_right _ List.mem_cons_self), hnone]
      split
      · rw [step_inside_flag]
      · rw [step_before_flag]
    · have hone : sinceFlag (earlier ++ [b]) = sinceFlag earlier ++ [b] :=
        List.rtakeWhile_concat_pos _ _ _ (by simpa using hb)
      have hmem : ashFlag ∈ earlier ++ [b] ↔ ashFlag ∈ earlier := by simp [Ne.symm hb]
      rw [if_congr hmem rfl rfl, hone]
      split
      · rw [step_inside _ hb]
      · rw [step_before _ hb]

end Parser

end

/-! ## Transmissions -/

/-- What lies between two frames. -/
inductive Gap where
  /-- the flag that closes the one opens the other -/
  | shared
  /-- both have their own flag, and there is noise between the two -/
  | apart (noise : List Byte) (free : ashFlag ∉ noise)

def Gap.noise : Gap → List Byte
  | .shared => []
  | .apart noise _ => noise

theorem Gap.flag_not_mem_noise (gap : Gap) : ashFlag ∉ gap.noise := by
  cases gap with
  | shared => exact List.not_mem_nil
  | apart _ free => exact free

/-- The bytes that a frame adds to those of the frame before it. -/
def Gap.wire : Gap → Outgoing → List Byte
  | .shared, o => o.frame.tail
  | .apart noise _, o => noise ++ o.frame

/-- Frames one behind the other.  The first one has its opening flag in any case. -/
def transmission : List (Gap × Outgoing) → List Byte
  | [] => []
  | (gap, o) :: rest => gap.noise ++ o.frame ++ rest.flatMap fun x => x.1.wire x.2

/-- What comes between two flags. -/
inductive Emission where
  | frame (o : Outgoing)
  | noise (bytes : List Byte)

def Emission.raw : Emission → List Byte
  | .frame o => o.frame
  | .noise bytes => delimited bytes

def Emission.frame? : Emission → Option Outgoing
  | .frame o => some o
  | .noise _ => none

/-- The emissions are the frames that were sent, in order, and stretches of the noise
between them. -/
structure Emitted (sent : List (Gap × Outgoing)) (out : List Emission) : Prop where
  frames : out.filterMap Emission.frame? = sent.map Prod.snd
  noise : ∀ bytes, Emission.noise bytes ∈ out → bytes ≠ [] ∧ ∃ x ∈ sent, bytes <:+: x.1.noise

theorem Emitted.nil : Emitted [] [] := ⟨rfl, by simp⟩

theorem Emitted.cons {sent : List (Gap × Outgoing)} {out : List Emission} (h : Emitted sent out)
    (gap : Gap) (o : Outgoing) {lead : List Emission}
    (hlead : ∀ x ∈ lead, ∃ bytes, x = .noise bytes ∧ bytes ≠ [] ∧ bytes <:+: gap.noise) :
    Emitted ((gap, o) :: sent) (lead ++ .frame o :: out) := by
  have hnone : lead.filterMap Emission.frame? = [] := by
    rw [List.filterMap_eq_nil_iff]
    intro x hx
    obtain ⟨bytes, rfl, -, -⟩ := hlead x hx
    rfl
  refine ⟨?_, ?_⟩
  · rw [List.filterMap_append, hnone, List.nil_append, List.filterMap_cons, h.frames]
    rfl
  · intro bytes hbytes
    rcases List.mem_append.mp hbytes with hmem | hmem
    · obtain ⟨bytes', heq, hne, hinfix⟩ := hlead _ hmem
      cases heq
      exact ⟨hne, (gap, o), List.mem_cons_self, hinfix⟩
    · rcases List.mem_cons.mp hmem with heq | hmem
      · cases heq
      · obtain ⟨hne, x, hx, hinfix⟩ := h.noise bytes hmem
        exact ⟨hne, x, List.mem_cons_of_mem _ hx, hinfix⟩

/-- What a stretch of noise between two flags is handed on as. -/
def strayed (noise : List Byte) : List Emission := if noise = [] then [] else [.noise noise]

theorem closed_eq_strayed (noise : List Byte) :
    Parser.closed noise = (strayed noise).map Emission.raw := by
  unfold Parser.closed strayed
  split <;> rfl

theorem closed_body (o : Outgoing) : Parser.closed o.body = [o.frame] := by
  rw [Parser.closed, if_neg o.body_ne_nil, o.frame_eq]

theorem mem_strayed {noise : List Byte} {x : Emission} (hx : x ∈ strayed noise) :
    x = .noise noise ∧ noise ≠ [] := by
  unfold strayed at hx
  split at hx
  · cases hx
  · rename_i hne
    exact ⟨List.mem_singleton.mp hx, hne⟩

theorem Gap.wire_shared (o : Outgoing) : Gap.shared.wire o = o.body ++ [ashFlag] := by
  rw [Gap.wire, o.frame_eq]
  rfl

theorem Gap.wire_apart (noise : List Byte) (free : ashFlag ∉ noise) (o : Outgoing) :
    (Gap.apart noise free).wire o = (noise ++ [ashFlag]) ++ (o.body ++ [ashFlag]) := by
  simp [Gap.wire, o.frame_eq, delimited]

theorem Parser.inside_wire (gap : Gap) (o : Outgoing) :
    (inside []).frames (gap.wire o) =
        (strayed gap.noise ++ [Emission.frame o]).map Emission.raw ∧
      (inside []).after (gap.wire o) = inside [] := by
  obtain ⟨hbody, hopen⟩ := inside_stretch o.flag_not_mem_body
  rw [closed_body] at hbody
  cases gap with
  | shared =>
    rw [Gap.wire_shared]
    exact ⟨hbody, hopen⟩
  | apart _ free =>
    obtain ⟨hnoise, hafter⟩ := inside_stretch free
    rw [Gap.wire_apart]
    refine ⟨?_, ?_⟩
    · rw [frames_append, hnoise, hafter, hbody, closed_eq_strayed, List.map_append]
      rfl
    · rw [after_append, hafter, hopen]

theorem Parser.inside_transmission (sent : List (Gap × Outgoing)) :
    ∃ out, (inside []).frames (sent.flatMap fun x => x.1.wire x.2) = out.map Emission.raw ∧
      Emitted sent out := by
  induction sent with
  | nil => exact ⟨[], rfl, Emitted.nil⟩
  | cons x _ ih =>
    obtain ⟨gap, o⟩ := x
    obtain ⟨out, hframes, hout⟩ := ih
    obtain ⟨hfirst, hafter⟩ := inside_wire gap o
    refine ⟨strayed gap.noise ++ .frame o :: out, ?_, hout.cons gap o ?_⟩
    · rw [List.flatMap_cons, frames_append, hfirst, hafter, hframes, ← List.map_append,
        List.append_assoc]
      rfl
    · intro x hx
      obtain ⟨rfl, hne⟩ := mem_strayed hx
      exact ⟨_, rfl, hne, List.infix_rfl⟩

theorem Parser.rebuilt_eq (noise : List Byte) :
    ∃ lead : List Emission, rebuilt noise = lead.map Emission.raw ∧
      ∀ x ∈ lead, ∃ bytes, x = .noise bytes ∧ bytes ≠ [] ∧ bytes <:+: noise := by
  unfold rebuilt
  split
  · rename_i h
    refine ⟨[.noise (kept noise)], rfl, ?_⟩
    intro x hx
    exact ⟨_, List.mem_singleton.mp hx, h.1, (kept_suffix noise).isInfix⟩
  · exact ⟨[], rfl, by simp⟩

/-- **Framing.**  Frames sent one behind the other, with flags and noise between them, are all
handed on, unchanged and in order; what else is handed on is noise between two flags. -/
theorem frames_transmitted (sent : List (Gap × Outgoing)) :
    ∃ out, Parser.frames {} (transmission sent) = out.map Emission.raw ∧ Emitted sent out := by
  cases sent with
  | nil => exact ⟨[], rfl, Emitted.nil⟩
  | cons x rest =>
    obtain ⟨gap, o⟩ := x
    have hsplit : transmission ((gap, o) :: rest) = (gap.noise ++ [ashFlag]) ++
        ((o.body ++ [ashFlag]) ++ rest.flatMap fun x => x.1.wire x.2) := by
      simp [transmission, o.frame_eq, delimited]
    obtain ⟨hnoise, hfirst⟩ := Parser.before_stretch gap.flag_not_mem_noise
    obtain ⟨hbody, hopen⟩ := Parser.inside_stretch o.flag_not_mem_body
    obtain ⟨lead, hlead, hstray⟩ := Parser.rebuilt_eq gap.noise
    obtain ⟨out, hrest, hout⟩ := Parser.inside_transmission rest
    refine ⟨lead ++ .frame o :: out, ?_, hout.cons gap o hstray⟩
    rw [hsplit, Parser.frames_append, hnoise, hfirst, Parser.frames_append, hbody, hopen, hrest,
      hlead, closed_body, List.map_append]
    rfl

/-! ## Reserved bytes -/

def reservedByUG101 (b : Byte) : Bool :=
  reservedByte b || b == 0x18 || b == ashCancel

/-- As UG101 demands: no reserved byte but the escape byte, and none behind that. -/
structure WellStuffed (bytes : List Byte) : Prop where
  plain : ∀ b ∈ bytes, reservedByUG101 b = true → b = ashEsc
  escaped : ∀ first rest, bytes = first ++ ashEsc :: rest →
    ∃ b more, rest = b :: more ∧ reservedByUG101 b = false

/-- The Substitute byte and the Cancel byte, which `escapeASHFrame` leaves as they are. -/
def Overlooked (b : Byte) : Prop := b = 0x18 ∨ b = ashCancel

instance (b : Byte) : Decidable (Overlooked b) := inferInstanceAs (Decidable (_ ∨ _))

/-- No Substitute or Cancel byte needs an escape.  The checksum `0x541A` of a NAK for 0 modulo 8
does. -/
def Outgoing.Spared : Outgoing → Prop
  | .data control payload =>
    ¬ Overlooked control ∧
    (∀ x ∈ payload.zip (generatePseudoRandomSequence payload.length),
      x.1 ≠ 0x18 ^^^ x.2 ∧ x.1 ≠ ashCancel ^^^ x.2) ∧
    ∀ b ∈ crcBytes (crcCCITT (control :: randomizeData payload)), ¬ Overlooked b
  | .nak ackNum => ackNum &&& 0x07 ≠ 0
  | .ack _ | .rst | .rstack => True

theorem wellStuffed_escape_iff (data : List Byte) :
    WellStuffed (escapeASHFrame data) ↔ ∀ b ∈ data, ¬ Overlooked b := by
  have hmem : ∀ b, Overlooked b → (b ∈ escapeASHFrame data ↔ b ∈ data) := by
    have hmask : ∀ b, Overlooked b → ∀ a, reservedByte a = true → a ^^^ ashEscXor ≠ b := by
      intro b hb a ha heq
      have hback : a = b ^^^ ashEscXor := by
        rw [← heq, UInt8.xor_assoc, UInt8.xor_self, UInt8.xor_zero]
      rw [hback] at ha
      rcases hb with rfl | rfl <;> exact absurd ha (by decide)
    intro b hb
    have hplain : reservedByte b = false := by rcases hb with rfl | rfl <;> rfl
    exact ashStuffing.mem_stuff_iff hplain (hmask b hb)
  constructor
  · intro h b hb hover
    have hreserved : reservedByUG101 b = true := by rcases hover with rfl | rfl <;> rfl
    have hesc := h.plain b ((hmem b hover).mpr hb) hreserved
    rw [hesc] at hover
    exact absurd hover (by decide)
  · intro h
    refine ⟨?_, ?_⟩
    · intro b hb hreserved
      have hcases : reservedByte b = true ∨ Overlooked b := by
        simpa [reservedByUG101, Overlooked, or_assoc] using hreserved
      rcases hcases with hcode | hover
      · exact ashStuffing.eq_esc_of_mem_stuff hb hcode
      · exact absurd hover (h b ((hmem b hover).mp hb))
    · intro first rest heq
      obtain ⟨a, more, ha, rfl⟩ := ashStuffing.masked_of_esc heq
      have hcases : a = ashFlag ∨ a = ashEsc ∨ a = 0x11 ∨ a = 0x13 := by
        simpa [ashStuffing, reservedByte, or_assoc] using ha
      refine ⟨_, more, rfl, ?_⟩
      rcases hcases with rfl | rfl | rfl | rfl <;> rfl

theorem xor_eq_iff (a k b : Byte) : a ^^^ k = b ↔ a = b ^^^ k := by
  constructor
  · rintro rfl
    rw [UInt8.xor_assoc, UInt8.xor_self, UInt8.xor_zero]
  · rintro rfl
    rw [UInt8.xor_assoc, UInt8.xor_self, UInt8.xor_zero]

theorem randomized_not_overlooked_iff (payload : List Byte) :
    (∀ b ∈ randomizeData payload, ¬ Overlooked b) ↔
      ∀ x ∈ payload.zip (generatePseudoRandomSequence payload.length),
        x.1 ≠ 0x18 ^^^ x.2 ∧ x.1 ≠ ashCancel ^^^ x.2 := by
  rw [randomizeData, ← List.map_uncurry_zip_eq_zipWith, List.forall_mem_map]
  refine forall₂_congr fun x _ => ?_
  rw [Function.uncurry, Overlooked, not_or, xor_eq_iff, xor_eq_iff]

theorem and_seven_and_seven (n : Byte) : (n &&& 0x07) &&& 0x07 = n &&& 0x07 := by
  rw [UInt8.and_assoc, UInt8.and_self]

theorem all_not_overlooked_iff (bytes : List Byte) :
    (bytes.all fun b => !decide (Overlooked b)) = true ↔ ∀ b ∈ bytes, ¬ Overlooked b := by
  simp only [List.all_eq_true, Bool.not_eq_true', decide_eq_false_iff_not]

/-- **Stuffing.**  A built frame is stuffed as UG101 demands exactly if it has no Substitute or
Cancel byte to stuff. -/
theorem build_wellStuffed_iff (o : Outgoing) :
    WellStuffed o.frame.tail.dropLast ↔ o.Spared := by
  have hbody : o.frame.tail.dropLast = escapeASHFrame o.unescaped := by
    rw [o.frame_eq]
    simp [delimited, Outgoing.body]
  rw [hbody, wellStuffed_escape_iff]
  cases o with
  | data =>
    rw [Outgoing.unescaped, Outgoing.content, Outgoing.Spared, ← randomized_not_overlooked_iff]
    simp only [List.forall_mem_append, List.forall_mem_cons, and_assoc]
  | ack ackNum =>
    have hbits : ∀ n : Fin 8,
        ((Outgoing.ack (UInt8.ofNat n)).unescaped.all fun b => !decide (Overlooked b)) = true := by
      decide +kernel
    have h := (all_not_overlooked_iff _).mp
      (hbits ⟨(ackNum &&& 0x07).toNat, UInt8.lt_iff_toNat_lt.mp (and_seven_lt ackNum)⟩)
    rw [UInt8.ofNat_toNat] at h
    rw [Outgoing.unescaped, Outgoing.content, and_seven_and_seven] at h
    exact iff_of_true h trivial
  | nak ackNum =>
    have hbits : ∀ n : Fin 8,
        ((Outgoing.nak (UInt8.ofNat n)).unescaped.all fun b => !decide (Overlooked b)) = true ↔
          UInt8.ofNat n ≠ 0 := by
      decide +kernel
    have h := hbits ⟨(ackNum &&& 0x07).toNat, UInt8.lt_iff_toNat_lt.mp (and_seven_lt ackNum)⟩
    rw [all_not_overlooked_iff, UInt8.ofNat_toNat] at h
    rw [Outgoing.unescaped, Outgoing.content, and_seven_and_seven] at h
    exact h
  | rst | rstack => exact iff_of_true ((all_not_overlooked_iff _).mp (by decide +kernel)) trivial

/-- A NAK for frame 0 has a Cancel byte between its flags, a DATA frame 1 sent again a
Substitute. -/
theorem nak_zero_cancelled :
    buildASHNAKFrame 0 = [0x7E, 0xA0, 0x54, 0x1A, 0x7E] ∧
    ¬ WellStuffed (Outgoing.nak 0).frame.tail.dropLast ∧
    buildASHDataFrame (dataControl 1 0 ||| 0x08) [] = [0x7E, 0x18, 0x72, 0xC9, 0x7E] ∧
    ¬ WellStuffed (Outgoing.data (dataControl 1 0 ||| 0x08) []).frame.tail.dropLast := by
  refine ⟨by decide, fun h => ?_, by decide, fun h => ?_⟩
  · exact absurd (h.plain 0x1A (by decide) rfl) (by decide)
  · exact absurd (h.plain 0x18 (by decide) rfl) (by decide)

end IotController.Ember
