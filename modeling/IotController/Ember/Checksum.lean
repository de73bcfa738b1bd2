/-
  What the checksum of a DATA frame notices (`frame.go`:
  `crcCCITT`; `controller.go`: the check in `handleASHFrame`).

  `crcCCITT` is a shift register of 16 bits with the pattern `0x1021`, fed with the bits of
  each byte, the highest one first.  An error goes unnoticed exactly if its own residue
  vanishes (`crcCCITT_corrupted_iff`), whatever the frame.

  That the residue of a burst does not vanish holds, in the order of the register, for every
  register of its width; in the order of the line it is a property of this pattern.
-/
import IotController.Foundation.Crc
import IotController.Ember.Controller

namespace IotController.Ember

open Foundation

/-! ## The register -/

def ashRegister : Register 16 := ⟨0x1021#16, by decide⟩

variable (order : BitOrder) (n : Nat) (c : UInt16) (b : Byte) (rest : List Byte)

theorem crcShift_toBitVec :
    (crcShift c).toBitVec = ashRegister.shift c.toBitVec := by
  have hmask : (c &&& 0x8000).toBitVec =
      if c.toBitVec.msb then BitVec.twoPow 16 15 else 0#16 := by
    have htop : UInt16.toBitVec 0x8000 = BitVec.twoPow 16 15 := by decide
    rw [UInt16.toBitVec_and, htop, BitVec.and_twoPow, BitVec.msb_eq_getLsbD_last]
  cases hmsb : c.toBitVec.msb with
  | true =>
    rw [hmsb, if_pos rfl] at hmask
    have hset : c &&& 0x8000 ≠ 0 := by
      intro h
      rw [h] at hmask
      exact absurd hmask (by decide)
    rw [crcShift, if_pos hset, Register.shift, if_pos hmsb]
    rfl
  | false =>
    rw [hmsb, if_neg Bool.false_ne_true] at hmask
    have hclear : c &&& 0x8000 = 0 := UInt16.toBitVec_inj.mp hmask
    rw [crcShift, if_neg (not_not.mpr hclear), Register.shift, if_neg (by simp [hmsb])]
    rfl

theorem iterate_crcShift_toBitVec :
    (crcShift^[n] c).toBitVec = ashRegister.shift^[n] c.toBitVec :=
  Function.Semiconj.iterate_right crcShift_toBitVec n c

theorem iterate_crcShift_xor (a b : UInt16) :
    crcShift^[n] (a ^^^ b) = crcShift^[n] a ^^^ crcShift^[n] b := by
  apply UInt16.toBitVec_inj.mp
  rw [UInt16.toBitVec_xor, iterate_crcShift_toBitVec, iterate_crcShift_toBitVec,
    iterate_crcShift_toBitVec, UInt16.toBitVec_xor, ashRegister.iterate_shift_xor]

theorem iterate_crcShift_eq_zero_iff : crcShift^[n] c = 0 ↔ c = 0 := by
  rw [← UInt16.toBitVec_inj, ← UInt16.toBitVec_inj, iterate_crcShift_toBitVec]
  exact ashRegister.iterate_shift_eq_zero_iff n _

theorem xor_eq_zero_iff (a b : UInt16) : a ^^^ b = 0 ↔ a = b := by
  rw [← UInt16.toBitVec_inj, ← UInt16.toBitVec_inj, UInt16.toBitVec_xor]
  exact BitVec.xor_eq_zero_iff

theorem crcByte_xor (c d : UInt16) (a b : Byte) :
    crcByte (c ^^^ d) (a ^^^ b) = crcByte c a ^^^ crcByte d b := by
  have hbytes : (a ^^^ b).toUInt16 <<< 8 = (a.toUInt16 <<< 8) ^^^ (b.toUInt16 <<< 8) := by
    apply UInt16.toBitVec_inj.mp
    simp [BitVec.shiftLeft_xor_distrib]
  rw [crcByte, crcByte, crcByte, ← iterate_crcShift_xor, hbytes]
  congr 1
  apply UInt16.toBitVec_inj.mp
  simp only [UInt16.toBitVec_xor]
  ac_rfl

/-! ## Residues -/

def residue (error : List Byte) : UInt16 := error.foldl crcByte 0

variable {error : List Byte}

theorem crcCCITT_xor {data : List Byte} (hlength : data.length = error.length) :
    crcCCITT (List.zipWith (· ^^^ ·) data error) = crcCCITT data ^^^ residue error := by
  have h := foldl_xor crcByte_xor hlength 0xFFFF 0
  rw [UInt16.xor_zero] at h
  exact h

theorem crcByte_crcByte (hi lo : Byte) :
    crcByte (crcByte c hi) lo = crcShift^[16] (c ^^^ word hi lo) := by
  have hlow : ∀ b : BitVec 8, crcShift^[8] (UInt8.ofBitVec b).toUInt16 =
      (UInt8.ofBitVec b).toUInt16 <<< 8 := by decide +kernel
  have hword : word hi lo = (hi.toUInt16 <<< 8) ^^^ lo.toUInt16 := by
    apply UInt16.toBitVec_inj.mp
    ext i hi'
    simp only [word, UInt16.toBitVec_or, UInt16.toBitVec_xor, UInt16.toBitVec_shiftLeft,
      UInt8.toBitVec_toUInt16, BitVec.getElem_or, BitVec.getElem_xor]
    by_cases hbyte : i < 8
    · simp [hbyte]
    · simp [hbyte, BitVec.getLsbD_of_ge lo.toBitVec i (by omega)]
  calc crcByte (crcByte c hi) lo
      = crcShift^[8] (crcShift^[8] (c ^^^ (hi.toUInt16 <<< 8)) ^^^ crcShift^[8] lo.toUInt16) := by
        rw [hlow lo.toBitVec]
        rfl
    _ = crcShift^[16] (c ^^^ word hi lo) := by
        rw [← iterate_crcShift_xor, ← Function.iterate_add_apply, hword, UInt16.xor_assoc]

theorem residue_append_two (error : List Byte) (hi lo : Byte) :
    residue (error ++ [hi, lo]) = crcShift^[16] (residue error ^^^ word hi lo) := by
  rw [residue, List.foldl_append]
  exact crcByte_crcByte _ hi lo

theorem word_low (hi lo : Byte) : (word hi lo).toUInt8 = lo := by
  apply UInt8.toBitVec_inj.mp
  ext i h
  simp [word]

theorem word_high (hi lo : Byte) : (word hi lo >>> 8).toUInt8 = hi := by
  apply UInt8.toBitVec_inj.mp
  ext i h
  have hin : 8 + i < 16 := by omega
  simp [word, hin, BitVec.getLsbD_eq_getElem h]

theorem word_xor (hi lo hi' lo' : Byte) :
    word (hi ^^^ hi') (lo ^^^ lo') = word hi lo ^^^ word hi' lo' := by
  apply UInt16.toBitVec_inj.mp
  ext i h
  simp only [word, UInt16.toBitVec_or, UInt16.toBitVec_xor, UInt16.toBitVec_shiftLeft,
    UInt8.toBitVec_toUInt16, UInt8.toBitVec_xor, BitVec.getElem_or, BitVec.getElem_xor]
  by_cases hbyte : i < 8
  · simp [hbyte]
  · simp [hbyte, BitVec.getLsbD_of_ge lo.toBitVec i (by omega),
      BitVec.getLsbD_of_ge lo'.toBitVec i (by omega)]

theorem covered_append_two (body : List Byte) (hi lo : Byte) :
    covered (body ++ [hi, lo]) = body := by
  simp [covered]

theorem trailingCRC_append_two (body : List Byte) (hi lo : Byte) :
    trailingCRC (body ++ [hi, lo]) = word hi lo := by
  simp [trailingCRC, bigEndianUint16]

/-- **When an error goes unnoticed.**  The checksum is right exactly if the error's residue is
zero. -/
theorem crcCCITT_corrupted_iff (content : List Byte)
    (hlength : error.length = (content ++ crcBytes (crcCCITT content)).length) :
    crcCCITT (covered (List.zipWith (· ^^^ ·) (content ++ crcBytes (crcCCITT content)) error)) =
        trailingCRC (List.zipWith (· ^^^ ·) (content ++ crcBytes (crcCCITT content)) error) ↔
      residue error = 0 := by
  -- the error in the covered bytes and in the checksum
  obtain ⟨first, hi, lo, rfl, hfirst⟩ :
      ∃ first hi lo, error = first ++ [hi, lo] ∧ content.length = first.length := by
    have htwo : (error.drop content.length).length = 2 := by
      rw [List.length_drop, hlength, List.length_append, crcBytes_length]
      omega
    obtain ⟨hi, lo, hlast⟩ := List.length_eq_two.mp htwo
    refine ⟨error.take content.length, hi, lo, ?_, ?_⟩
    · rw [← hlast, List.take_append_drop]
    · rw [List.length_take, hlength, List.length_append]
      omega
  have hsplit : List.zipWith (· ^^^ ·) (content ++ crcBytes (crcCCITT content))
      (first ++ [hi, lo]) = List.zipWith (· ^^^ ·) content first ++
        [(crcCCITT content >>> 8).toUInt8 ^^^ hi, (crcCCITT content &&& 0xFF).toUInt8 ^^^ lo] := by
    rw [List.zipWith_append hfirst]
    rfl
  have hread : word (crcCCITT content >>> 8).toUInt8 (crcCCITT content &&& 0xFF).toUInt8 =
      crcCCITT content := bigEndianUint16_crcBytes (crcCCITT content)
  rw [hsplit, covered_append_two, trailingCRC_append_two, word_xor, hread, crcCCITT_xor hfirst,
    residue_append_two, iterate_crcShift_eq_zero_iff, xor_eq_zero_iff]
  exact UInt16.xor_right_inj _

/-! ## Bits of a frame -/

/-- The order in which a byte is shifted in. -/
inductive BitOrder where
  | msbFirst
  | lsbFirst

def BitOrder.place : BitOrder → Nat → Nat
  | .msbFirst, i => 7 - i
  | .lsbFirst, i => i

def byteBits (b : Byte) : List Bool :=
  (List.range 8).map fun i => b.toBitVec.getLsbD (order.place i)

def bitsOf (bytes : List Byte) : List Bool := bytes.flatMap (byteBits order)

@[simp] theorem byteBits_length : (byteBits order b).length = 8 := by
  simp [byteBits]

theorem byteBits_getElem? {i : Nat} (hi : i < 8) :
    (byteBits order b)[i]? = some (b.toBitVec.getLsbD (order.place i)) := by
  rw [byteBits, List.getElem?_map, List.getElem?_range hi]
  rfl

theorem bitsOf_append (first second : List Byte) :
    bitsOf order (first ++ second) = bitsOf order first ++ bitsOf order second :=
  List.flatMap_append

theorem bitsOf_cons :
    bitsOf order (b :: rest) = byteBits order b ++ bitsOf order rest := rfl

theorem eq_zero_of_byteBits {o : BitOrder} {b : Byte} (h : true ∉ byteBits o b) :
    b = 0 := by
  apply UInt8.toBitVec_inj.mp
  apply BitVec.eq_of_getLsbD_eq
  intro i hi
  have hplace : ∃ j, j < 8 ∧ o.place j = i := by
    cases o with
    | msbFirst => exact ⟨7 - i, by omega, by rw [BitOrder.place]; omega⟩
    | lsbFirst => exact ⟨i, hi, rfl⟩
  obtain ⟨j, hj, rfl⟩ := hplace
  have hbit := byteBits_getElem? o b hj
  cases hset : b.toBitVec.getLsbD (o.place j) with
  | true =>
    rw [hset] at hbit
    exact absurd (List.mem_of_getElem? hbit) h
  | false => simp

theorem mem_bitsOf (h : ∃ b ∈ error, b ≠ 0) : true ∈ bitsOf order error := by
  obtain ⟨b, hb, hne⟩ := h
  by_contra hnot
  refine hne (eq_zero_of_byteBits (o := order) fun hmem => hnot ?_)
  exact List.mem_flatMap.mpr ⟨b, hb, hmem⟩

/-! ## Bursts -/

theorem residue_toBitVec (error : List Byte) :
    (residue error).toBitVec = ashRegister.feedAll 0#16 (bitsOf .msbFirst error) := by
  have hpack : ∀ b : BitVec 8,
      Register.pack (byteBits .msbFirst (UInt8.ofBitVec b)) = b.setWidth 16 <<< 8 := by
    decide +kernel
  have hbyte : ∀ (c : UInt16) (b : Byte), (crcByte c b).toBitVec =
      ashRegister.feedAll c.toBitVec (byteBits .msbFirst b) := by
    intro c b
    rw [ashRegister.feedAll_eq (by simp), byteBits_length, hpack b.toBitVec, crcByte,
      iterate_crcShift_toBitVec, UInt16.toBitVec_xor]
    rfl
  have hall : ∀ c : UInt16, (error.foldl crcByte c).toBitVec =
      ashRegister.feedAll c.toBitVec (bitsOf .msbFirst error) := by
    induction error with
    | nil => exact fun c => rfl
    | cons _ _ ih =>
      intro c
      rw [List.foldl_cons, ih, hbyte, bitsOf_cons, ashRegister.feedAll_append]
  exact hall 0

theorem residue_cons_zero : residue (0 :: rest) = residue rest := by
  have hzero : crcByte 0 0 = 0 := by decide
  rw [residue, List.foldl_cons, hzero]
  rfl

theorem residue_append_zeros (error : List Byte) {zeros : List Byte} (hzeros : ∀ b ∈ zeros, b = 0) :
    residue (error ++ zeros) = 0 ↔ residue error = 0 := by
  rw [residue, List.foldl_append]
  show zeros.foldl crcByte (residue error) = 0 ↔ residue error = 0
  generalize residue error = c
  induction zeros generalizing c with
  | nil => rfl
  | cons b _ ih =>
    obtain rfl := hzeros b List.mem_cons_self
    have hshift : crcByte c 0 = crcShift^[8] c := by
      rw [crcByte]
      exact congrArg _ (UInt16.xor_zero)
    rw [List.foldl_cons, ih (fun b hb => hzeros b (List.mem_cons_of_mem _ hb)), hshift,
      iterate_crcShift_eq_zero_iff]

theorem residue_three {k : Nat} (hk : k < 8) {x y z : Byte}
    (hx : x.toBitVec <<< (8 - k) = 0#8) (hz : z.toBitVec >>> k = 0#8)
    (h : residue [x, y, z] = 0) : x = 0 ∧ y = 0 ∧ z = 0 := by
  have hcheck : ∀ k : Fin 8, ∀ b : BitVec 8, b <<< (8 - k.val) = 0#8 →
      (crcByte 0 (UInt8.ofBitVec b)).toUInt8.toBitVec >>> k.val = 0#8 → b = 0#8 := by
    decide +kernel
  have hword : crcByte 0 x = word y z := by
    have hpair := residue_append_two [x] y z
    rw [List.singleton_append, h] at hpair
    exact (xor_eq_zero_iff _ _).mp ((iterate_crcShift_eq_zero_iff _ _).mp hpair.symm)
  have hzero : x = 0 := by
    apply UInt8.toBitVec_inj.mp
    apply hcheck ⟨k, hk⟩ x.toBitVec hx
    show (crcByte 0 x).toUInt8.toBitVec >>> k = 0#8
    rw [hword, word_low, hz]
  subst hzero
  have hparts : word y z = 0 := by
    rw [← hword]
    decide
  refine ⟨rfl, ?_, ?_⟩
  · rw [← word_high y z, hparts]
    decide
  · rw [← word_low y z, hparts]
    decide

theorem bitsOf_append_zeros {order : BitOrder} {i : Nat}
    (hset : (bitsOf order (error ++ [0, 0]))[i]? = some true) :
    (bitsOf order error)[i]? = some true := by
  have hzeros : true ∉ bitsOf order [0, 0] := by cases order <;> decide
  rw [bitsOf_append] at hset
  rcases Nat.lt_or_ge i (bitsOf order error).length with hlt | hge
  · rwa [List.getElem?_append_left hlt] at hset
  · rw [List.getElem?_append_right hge] at hset
    exact absurd (List.mem_of_getElem? hset) hzeros

theorem zeros_of_bitsOf {o : BitOrder} (h : true ∉ bitsOf o error) :
    ∀ b ∈ error, b = 0 := fun b hb =>
  eq_zero_of_byteBits fun hmem => h (List.mem_flatMap.mpr ⟨b, hb, hmem⟩)

theorem exists_two_bytes : ∃ y z zeros, rest ++ [0, 0] = y :: z :: zeros := by
  match rest with
  | [] => exact ⟨0, 0, [], rfl⟩
  | [y] => exact ⟨y, 0, [0], rfl⟩
  | y :: z :: more => exact ⟨y, z, more ++ [0, 0], rfl⟩

theorem line_window {x y z : Byte} {zeros : List Byte} {start : Nat} (hstart : start < 8)
    (hburst : ∀ i, (bitsOf .lsbFirst (x :: y :: z :: zeros))[i]? = some true →
      start ≤ i ∧ i < start + 16) :
    x.toBitVec <<< (8 - start) = 0#8 ∧ z.toBitVec >>> start = 0#8 ∧ ∀ b ∈ zeros, b = 0 := by
  rw [bitsOf_cons, bitsOf_cons, bitsOf_cons] at hburst
  refine ⟨?_, ?_, ?_⟩
  · apply BitVec.eq_of_getLsbD_eq
    intro i hi
    rw [BitVec.getLsbD_shiftLeft, BitVec.getLsbD_zero]
    by_contra hset
    simp only [Bool.not_eq_false, Bool.and_eq_true, Bool.not_eq_true', decide_eq_true_eq,
      decide_eq_false_iff_not] at hset
    have hbit := hburst (i - (8 - start)) (by
      rw [List.getElem?_append_left (by rw [byteBits_length]; omega),
        byteBits_getElem? _ _ (by omega)]
      exact congrArg some hset.2)
    omega
  · apply BitVec.eq_of_getLsbD_eq
    intro i hi
    rw [BitVec.getLsbD_ushiftRight, BitVec.getLsbD_zero]
    by_contra hset
    rw [Bool.not_eq_false] at hset
    have hin : start + i < 8 := by
      by_contra hout
      rw [BitVec.getLsbD_of_ge _ _ (Nat.not_lt.mp hout)] at hset
      cases hset
    have hbit := hburst (8 + (8 + (start + i))) (by
      rw [List.getElem?_append_right (by simp), List.getElem?_append_right (by simp),
        List.getElem?_append_left (by simpa using hin), byteBits_length, byteBits_length,
        Nat.add_sub_cancel_left, Nat.add_sub_cancel_left, byteBits_getElem? _ _ hin]
      exact congrArg some hset)
    omega
  · apply zeros_of_bitsOf (o := .lsbFirst)
    intro hmem
    obtain ⟨i, hi⟩ := List.mem_iff_getElem?.mp hmem
    have hbit := hburst (8 + (8 + (8 + i))) (by
      rw [List.getElem?_append_right (by simp), List.getElem?_append_right (by simp),
        List.getElem?_append_right (by simp), byteBits_length, byteBits_length, byteBits_length,
        Nat.add_sub_cancel_left, Nat.add_sub_cancel_left, Nat.add_sub_cancel_left]
      exact hi)
    omega

theorem residue_first {x : Byte} {rest : List Byte} {start : Nat} (hstart : start < 8)
    (hburst : ∀ i, (bitsOf .lsbFirst (x :: rest))[i]? = some true → start ≤ i ∧ i < start + 16)
    (h : residue (x :: rest) = 0) : ∀ b ∈ x :: rest, b = 0 := by
  -- two bytes of zeros more, so that there are three bytes in any case
  obtain ⟨y, z, zeros, hrest⟩ := exists_two_bytes rest
  have hsame : (x :: rest) ++ [0, 0] = [x, y, z] ++ zeros := congrArg (List.cons x) hrest
  have hpadded : ∀ i, (bitsOf .lsbFirst (x :: y :: z :: zeros))[i]? = some true →
      start ≤ i ∧ i < start + 16 := by
    intro i hset
    have hset' : (bitsOf .lsbFirst ((x :: rest) ++ [0, 0]))[i]? = some true := by
      rw [hsame]
      exact hset
    exact hburst i (bitsOf_append_zeros hset')
  obtain ⟨hx, hz, hzeros⟩ := line_window hstart hpadded
  have hthree : residue [x, y, z] = 0 := by
    rw [← residue_append_zeros [x, y, z] hzeros, ← hsame, residue_append_zeros _ (by simp)]
    exact h
  obtain ⟨rfl, rfl, rfl⟩ := residue_three hstart hx hz hthree
  intro b hb
  have hmem : b ∈ [0, 0, 0] ++ zeros := by
    rw [← hsame]
    exact List.mem_append_left _ hb
  rcases List.mem_append.mp hmem with hmem | hmem
  · simpa using hmem
  · exact hzeros b hmem

theorem residue_line {start : Nat}
    (hburst : ∀ i, (bitsOf .lsbFirst error)[i]? = some true → start ≤ i ∧ i < start + 16)
    (h : residue error = 0) : ∀ b ∈ error, b = 0 := by
  induction error generalizing start with
  | nil => simp
  | cons x rest ih =>
    rcases Nat.lt_or_ge start 8 with hstart | hstart
    · exact residue_first hstart hburst h
    have hx : x = 0 := by
      apply eq_zero_of_byteBits (o := .lsbFirst)
      intro hmem
      obtain ⟨i, hi⟩ := List.mem_iff_getElem?.mp hmem
      have hlt : i < 8 := by simpa using (List.getElem?_eq_some_iff.mp hi).1
      have hbit := hburst i (by
        rw [bitsOf_cons, List.getElem?_append_left (by simpa using hlt)]
        exact hi)
      omega
    subst hx
    rw [residue_cons_zero] at h
    have hlater : ∀ i, (bitsOf .lsbFirst rest)[i]? = some true →
        start - 8 ≤ i ∧ i < start - 8 + 16 := by
      intro i hi
      have hbit := hburst (8 + i) (by
        rw [bitsOf_cons, List.getElem?_append_right (by simp), byteBits_length,
          Nat.add_sub_cancel_left]
        exact hi)
      omega
    intro b hb
    rcases List.mem_cons.mp hb with rfl | hb
    · rfl
    · exact ih hlater h b hb

theorem residue_burst {order : BitOrder} (hburst : Burst 16 (bitsOf order error))
    (hnonzero : ∃ b ∈ error, b ≠ 0) : residue error ≠ 0 := by
  intro h
  cases order with
  | msbFirst =>
    apply ashRegister.feedAll_burst hburst (mem_bitsOf _ hnonzero)
    rw [← residue_toBitVec, h]
    rfl
  | lsbFirst =>
    obtain ⟨start, hset⟩ := hburst
    obtain ⟨b, hb, hne⟩ := hnonzero
    exact hne (residue_line hset h b hb)

/-- **Bursts are noticed.**  A DATA frame with up to 16 consecutive bits changed that is still
read as one has a wrong checksum and is answered with a NAK only. -/
theorem burst_refused (c : Controller) (ready : Bool) (control : Byte)
    (data : List Byte) (order : BitOrder) (error : List Byte)
    (hlength : error.length = data.length + 3) (hnonzero : ∃ b ∈ error, b ≠ 0)
    (hburst : Burst 16 (bitsOf order error)) (raw : List Byte) (hraw : Delivered raw)
    (hbytes : unescapeASHFrame (stripFlags raw) = List.zipWith (· ^^^ ·)
      (control :: data ++ crcBytes (crcCCITT (control :: data))) error)
    (htop : (unescapeASHFrame (stripFlags raw)).headD 0 &&& 0x80 = 0) :
    crcCCITT (covered (unescapeASHFrame (stripFlags raw))) ≠
        trailingCRC (unescapeASHFrame (stripFlags raw)) ∧
      c.handleASHFrame ready raw =
        { controller := c, written := [buildASHNAKFrame c.rxSeq], passed := [] } := by
  have hlength' :
      error.length = (control :: data ++ crcBytes (crcCCITT (control :: data))).length := by
    simp [hlength]
  have hcorrupted : Corrupted raw := by
    rw [Corrupted, hbytes]
    exact fun h => residue_burst hburst hnonzero ((crcCCITT_corrupted_iff _ hlength').mp h)
  have hdata : HasType raw .data := by
    rw [hasType_iff]
    refine ⟨?_, if_pos htop⟩
    rw [hbytes, List.length_zipWith, ← hlength', hlength]
    omega
  refine ⟨hcorrupted, ?_⟩
  obtain ⟨frame, hparse, htype⟩ := hdata
  have hmismatch := crcMismatch_of_corrupted hraw hcorrupted ⟨frame, hparse, htype⟩
  rw [Controller.handleASHFrame, hparse]
  simp only [htype, hmismatch, if_true]

/-- The two bits are next to each other, so the frame is refused. -/
theorem noisyData_refused :
    Delivered noisyData ∧
      afterFirstCommand.handleASHFrame true noisyData =
        { controller := afterFirstCommand, written := [buildASHNAKFrame 0], passed := [] } := by
  have hdelivered : Delivered noisyData :=
    ⟨[0x25, 0xC2, 0x21, 0x28, 0x46, 0x5E, 0x30], by decide, by decide, rfl⟩
  have hburst : Burst 16 (bitsOf .msbFirst [0x00, 0x00, 0x01, 0x80, 0x00, 0x00, 0x00]) := by
    refine ⟨23, fun i hi => ?_⟩
    have hlt : i < 56 := (List.getElem?_eq_some_iff.mp hi).1
    interval_cases i <;> revert hi <;> decide
  exact ⟨hdelivered, (burst_refused afterFirstCommand true 0x25 [0xC2, 0x20, 0xA8, 0x46] .msbFirst
    [0x00, 0x00, 0x01, 0x80, 0x00, 0x00, 0x00] rfl ⟨0x01, by decide, by decide⟩ hburst _ hdelivered
    (by decide +kernel) (by decide)).2⟩

end IotController.Ember
