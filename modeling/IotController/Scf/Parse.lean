/-
  `ParseValue` in `pkg/zigbee-dongle/scf/scf.go`.

  A slice is a count byte and the elements.  Before the elements are read the count is
  compared with the bytes that are left, but the width of an element stands on the wrong
  side: `2*len(data) < length` instead of `len(data) < 2*length`.
-/
import IotController.Scf.Format

namespace IotController.Scf

open Foundation

/-! ## Reading -/

def leUint (n : Nat) (b : List Byte) : Checked (BitVec (8 * n)) := do
  let _ ← index b ((n : Int) - 1)
  pure (getLE (8 * n) (b.take n))

def parseElement (elem : Kind) (data : List Byte) (i : Nat) : Checked elem.Integer :=
  if elem = .int8 then do
    let b ← index data i
    pure (getLE (8 * elem.size) [b])
  else do
    let b ← sliceFrom data (elem.size * i : Nat)
    leUint elem.size b

/-- The elements of a slice; those of a `[]uint8` are copied. -/
def parseElements (elem : Kind) (data : List Byte) (length : Nat) : Checked (List elem.Integer) :=
  if elem = .uint8 then
    pure ((List.range length).map fun i => getLE (8 * elem.size) [data.getD i 0])
  else (List.range length).mapM (parseElement elem data)

def setSlice (field : Field) (elem : Kind) (definedElem : Bool) : Checked Unit :=
  if field.exported = false then .error unexported
  else if elem ≠ .uint8 ∧ definedElem = true then .error otherType
  else pure ()

def setInteger (field : Field) : Checked Unit :=
  if field.exported = false then .error unexported else pure ()

/-- One field, and the bytes behind it. -/
def parseField (name : String) (field : Field) :
    (fieldType : FieldType) → List Byte → Checked (Option (fieldType.Value × List Byte))
  | .slice _ elem definedElem, data =>
    if data.length = 0 then pure none
    else do
      let count ← index data 0
      let length := count.toNat
      let data ← sliceFrom data 1
      if elem ∉ validKinds then .error (notImplemented "deserialization" name field)
      else if elem.size * data.length < length then pure none
      else do
        let values ← parseElements elem data length
        let data ← sliceFrom data (elem.size * length : Nat)
        setSlice field elem definedElem
        pure (some (some values, data))
  | .plain kind, data =>
    if data.length < kind.size then pure none
    else if kind ∉ validKinds then .error (notImplemented "deserialization" name field)
    else do
      let read ← leUint kind.size data
      let carrier : BitVec 64 := read.setWidth 64
      let data ← sliceFrom data kind.size
      setInteger field
      pure (some (carrier.setWidth (8 * kind.size), data))

/-- `ParseValue`, field by field. -/
def parseValue (name : String) :
    (fields : List Field) → List Byte → Checked (Option (Record fields × List Byte))
  | [], data => pure (some ((), data))
  | field :: fields, data => do
      match ← parseField name field field.type data with
      | none => pure none
      | some (value, data) =>
        match ← parseValue name fields data with
        | none => pure none
        | some (values, data) => pure (some ((value, values), data))

/-- How many bytes a field demands; unknown as long as its count byte is not there. -/
def FieldType.demand : FieldType → List Byte → Option Nat
  | .plain kind, _ => some kind.size
  | .slice _ _ _, [] => none
  | .slice _ elem _, count :: _ => some (1 + elem.size * count.toNat)

def demanded : List Field → List Byte → Option Nat
  | [], _ => some 0
  | field :: fields, data => do
      let first ← field.type.demand data
      let rest ← demanded fields (data.drop first)
      pure (first + rest)

/-- The data holds every byte demanded. -/
def Holds (fields : List Field) (data : List Byte) : Prop :=
  ∃ n ∈ demanded fields data, n ≤ data.length

/-- It returns, and succeeds exactly when the data holds what is demanded. -/
def Total (name : String) (fields : List Field) (data : List Byte) : Prop :=
  (∀ n ∈ demanded fields data, n ≤ data.length →
    ∃ record, parseValue name fields data = .ok (some (record, data.drop n))) ∧
  (¬ Holds fields data → parseValue name fields data = .ok none)

/-- The comparison before the bytes are read refuses them. -/
def FieldType.Refused : FieldType → List Byte → Prop
  | .plain kind, data => data.length < kind.size
  | .slice _ _ _, [] => True
  | .slice _ elem _, count :: rest => elem.size * rest.length < count.toNat

/-- `reflect` can set the field. -/
def FieldType.Settable (exported : Bool) : FieldType → Prop
  | .plain _ => exported = true
  | .slice _ elem definedElem => exported = true ∧ (elem = .uint8 ∨ definedElem = false)

instance (exported : Bool) (fieldType : FieldType) : Decidable (fieldType.Settable exported) :=
  match fieldType with
  | .plain _ => inferInstanceAs (Decidable (exported = true))
  | .slice _ elem definedElem =>
    inferInstanceAs (Decidable (exported = true ∧ (elem = .uint8 ∨ definedElem = false)))

/-- Until a field is refused, the bytes that a field demands are there and it can be set. -/
def Safe : List Field → List Byte → Prop
  | [], _ => True
  | field :: fields, data =>
    field.type.Refused data ∨
      ∃ n ∈ field.type.demand data, n ≤ data.length ∧ field.type.Settable field.exported ∧
        Safe fields (data.drop n)

/-! ## Elements -/

theorem leUint_ok {n : Nat} (hn : 0 < n) {b : List Byte} (h : n ≤ b.length) :
    leUint n b = .ok (getLE (8 * n) (b.take n)) := by
  have hlast : ((n : Int) - 1) < b.length := by omega
  rw [leUint, index_ok (by omega) hlast 0]
  rfl

def elementAt (elem : Kind) (data : List Byte) (i : Nat) : elem.Integer :=
  getLE (8 * elem.size) ((data.drop (elem.size * i)).take elem.size)

variable {elem : Kind} {data : List Byte}

theorem elementAt_byte (hsize : elem.size = 1) {i : Nat} (h : i < data.length) :
    getLE (8 * elem.size) [data.getD i 0] = elementAt elem data i := by
  have hbyte : (data.drop (elem.size * i)).take elem.size = [data.getD i 0] := by
    rw [hsize, Nat.one_mul, drop_eq_getD_cons h 0]
    rfl
  rw [elementAt, hbyte]

theorem parseElement_ok (hvalid : elem ∈ validKinds) {i : Nat}
    (h : elem.size * (i + 1) ≤ data.length) :
    parseElement elem data i = .ok (elementAt elem data i) := by
  rw [Nat.mul_succ] at h
  have hpos := size_pos hvalid
  unfold parseElement
  split_ifs with hint8
  · have hsize : elem.size = 1 := by rw [hint8, Kind.size]
    rw [hsize, Nat.one_mul] at h
    rw [index_ok (Int.natCast_nonneg i) (Int.ofNat_lt.mpr h) 0, ok_bind, Int.toNat_natCast,
      elementAt_byte hsize h]
    rfl
  · have hle : elem.size * i ≤ data.length := by omega
    rw [sliceFrom_ok (Int.natCast_nonneg _) (Int.ofNat_le.mpr hle), ok_bind, Int.toNat_natCast,
      leUint_ok hpos (by rw [List.length_drop]; omega)]
    rfl

theorem parseElements_ok (hvalid : elem ∈ validKinds) {length : Nat}
    (h : elem.size * length ≤ data.length) :
    parseElements elem data length = .ok ((List.range length).map (elementAt elem data)) := by
  unfold parseElements
  split_ifs with huint8
  · have hsize : elem.size = 1 := by rw [huint8, Kind.size]
    rw [hsize, Nat.one_mul] at h
    have hbytes : ∀ i ∈ List.range length,
        getLE (8 * elem.size) [data.getD i 0] = elementAt elem data i :=
      fun i hi => elementAt_byte hsize ((List.mem_range.mp hi).trans_le h)
    rw [List.map_congr_left hbytes]
    rfl
  · apply mapM_ok
    intro i hi
    exact parseElement_ok hvalid (le_trans (Nat.mul_le_mul_left _ (List.mem_range.mp hi)) h)

theorem parseElement_panics {i : Nat} (h : data.length < elem.size * (i + 1)) :
    ∃ panic, parseElement elem data i = .error panic := by
  rw [Nat.mul_succ] at h
  unfold parseElement
  split_ifs with hint8
  · have hsize : elem.size = 1 := by rw [hint8, Kind.size]
    rw [hsize, Nat.one_mul] at h
    have hend : (data.length : Int) ≤ i := by omega
    exact bind_panics (index_panics hend) _
  · by_cases hle : elem.size * i ≤ data.length
    · have hlast : ((data.drop (elem.size * i)).length : Int) ≤ (elem.size : Int) - 1 := by
        rw [List.length_drop]
        omega
      rw [sliceFrom_ok (Int.natCast_nonneg _) (Int.ofNat_le.mpr hle), ok_bind, Int.toNat_natCast,
        leUint]
      exact bind_panics (index_panics hlast) _
    · exact bind_panics (sliceFrom_panics (Int.ofNat_lt.mpr (Nat.lt_of_not_le hle))) _

theorem parseElements_panics (huint8 : elem ≠ .uint8) {length : Nat}
    (h : data.length < elem.size * length) :
    ∃ panic, parseElements elem data length = .error panic := by
  rw [parseElements, if_neg huint8]
  cases length with
  | zero => simp at h
  | succ last =>
    exact mapM_panics (List.mem_range.mpr (Nat.lt_succ_self last)) (parseElement_panics h)

/-! ## Fields -/

section

variable {field : Field} {named definedElem : Bool} {elem : Kind}

theorem setSlice_ok (h : (FieldType.slice named elem definedElem).Settable field.exported) :
    setSlice field elem definedElem = .ok () := by
  obtain ⟨hexported, htype⟩ := h
  have hassigned : ¬ (elem ≠ .uint8 ∧ definedElem = true) := by
    rintro ⟨huint8, hdefined⟩
    rcases htype with h | h
    · exact huint8 h
    · rw [hdefined] at h
      cases h
  rw [setSlice, if_neg (by simp [hexported]), if_neg hassigned]
  rfl

theorem setSlice_panics
    (h : ¬ (FieldType.slice named elem definedElem).Settable field.exported) :
    ∃ panic, setSlice field elem definedElem = .error panic := by
  unfold setSlice
  split_ifs with hunexported hother
  · exact ⟨_, rfl⟩
  · exact ⟨_, rfl⟩
  · refine absurd ⟨by simpa using hunexported, ?_⟩ h
    by_cases huint8 : elem = .uint8
    · exact Or.inl huint8
    · exact Or.inr (by simpa [huint8] using hother)

end

def FieldType.read : (fieldType : FieldType) → List Byte → fieldType.Value
  | .plain kind, data => getLE (8 * kind.size) (data.take kind.size)
  | .slice _ elem _, data =>
    some ((List.range (data.headD 0).toNat).map (elementAt elem (data.drop 1)))

theorem parseField_plain (name : String) (field : Field) {kind : Kind} (hvalid : kind ∈ validKinds)
    (h : kind.size ≤ data.length) :
    parseField name field (.plain kind) data = (setInteger field).map fun _ =>
      some (FieldType.read (.plain kind) data, data.drop kind.size) := by
  have hcarrier : 8 * kind.size ≤ 64 := by
    have := size_le_eight hvalid
    omega
  rw [parseField, if_neg (Nat.not_lt.mpr h), if_neg (not_not.mpr hvalid),
    leUint_ok (size_pos hvalid) h, ok_bind,
    sliceFrom_ok (Int.natCast_nonneg _) (Int.ofNat_le.mpr h), ok_bind, Int.toNat_natCast,
    BitVec.setWidth_setWidth_of_le _ hcarrier, BitVec.setWidth_eq]
  cases setInteger field <;> rfl

theorem parseField_slice (name : String) (field : Field) (named definedElem : Bool)
    (hvalid : elem ∈ validKinds) (count : Byte) (rest : List Byte) :
    parseField name field (.slice named elem definedElem) (count :: rest) =
      if elem.size * rest.length < count.toNat then .ok none
      else (do
        let values ← parseElements elem rest count.toNat
        let data ← sliceFrom rest (elem.size * count.toNat : Nat)
        setSlice field elem definedElem
        pure (some (some values, data))) := by
  have hrest : sliceFrom (count :: rest) 1 = .ok rest := sliceFrom_ok (by decide) (by simp)
  have hcount : index (count :: rest) 0 = .ok count := rfl
  rw [parseField, if_neg (by simp), hcount, ok_bind, hrest, ok_bind, if_neg (not_not.mpr hvalid)]
  rfl

theorem not_refused_of_present {fieldType : FieldType} (hvalid : fieldType.checkedKind ∈ validKinds)
    {n : Nat} (hdemand : n ∈ fieldType.demand data) (hn : n ≤ data.length) :
    ¬ fieldType.Refused data := by
  cases fieldType with
  | plain kind =>
    obtain rfl : kind.size = n := Option.some.inj hdemand
    exact Nat.not_lt.mpr hn
  | slice _ elem =>
    cases data with
    | nil => cases hdemand
    | cons count rest =>
      obtain rfl : 1 + elem.size * count.toNat = n := Option.some.inj hdemand
      have hpos : 0 < elem.size := size_pos hvalid
      rw [List.length_cons] at hn
      have hcount : count.toNat ≤ elem.size * count.toNat := Nat.le_mul_of_pos_left _ hpos
      have hrest : rest.length ≤ elem.size * rest.length := Nat.le_mul_of_pos_left _ hpos
      have hle : count.toNat ≤ elem.size * rest.length := by omega
      exact Nat.not_lt.mpr hle

theorem parseField_slice_present (name : String) (field : Field) (named definedElem : Bool)
    (hvalid : elem ∈ validKinds) {count : Byte} {rest : List Byte}
    (h : elem.size * count.toNat ≤ rest.length) :
    parseField name field (.slice named elem definedElem) (count :: rest) =
      (setSlice field elem definedElem).map fun _ =>
        some (FieldType.read (.slice named elem definedElem) (count :: rest),
          (count :: rest).drop (1 + elem.size * count.toNat)) := by
  have hchecked : (FieldType.slice named elem definedElem).checkedKind ∈ validKinds := hvalid
  have hadmitted : ¬ FieldType.Refused (.slice named elem definedElem) (count :: rest) :=
    not_refused_of_present hchecked rfl (by rw [List.length_cons]; omega)
  have hcompare : ¬ elem.size * rest.length < count.toNat := hadmitted
  rw [parseField_slice name field named definedElem hvalid, if_neg hcompare,
    parseElements_ok hvalid h, ok_bind,
    sliceFrom_ok (Int.natCast_nonneg _) (Int.ofNat_le.mpr h), ok_bind, Int.toNat_natCast,
    Nat.add_comm, List.drop_succ_cons]
  cases setSlice field elem definedElem <;> rfl

theorem parseField_refused (name : String) (field : Field) {fieldType : FieldType}
    (hvalid : fieldType.checkedKind ∈ validKinds) (h : fieldType.Refused data) :
    parseField name field fieldType data = .ok none := by
  cases fieldType with
  | plain kind =>
    have hshort : data.length < kind.size := h
    rw [parseField, if_pos hshort]
    rfl
  | slice named elem definedElem =>
    cases data with
    | nil => rfl
    | cons count rest =>
      have hshort : elem.size * rest.length < count.toNat := h
      have helem : elem ∈ validKinds := hvalid
      rw [parseField_slice name field named definedElem helem, if_pos hshort]

theorem parseField_ok (name : String) {field : Field} {fieldType : FieldType}
    (hvalid : fieldType.checkedKind ∈ validKinds) (hset : fieldType.Settable field.exported)
    {n : Nat} (hdemand : n ∈ fieldType.demand data) (hn : n ≤ data.length) :
    parseField name field fieldType data = .ok (some (fieldType.read data, data.drop n)) := by
  cases fieldType with
  | plain kind =>
    obtain rfl : kind.size = n := Option.some.inj hdemand
    have hkind : kind ∈ validKinds := hvalid
    have hexported : field.exported = true := hset
    rw [parseField_plain name field hkind hn, setInteger, if_neg (by simp [hexported])]
    rfl
  | slice named elem definedElem =>
    cases data with
    | nil => cases hdemand
    | cons count rest =>
      obtain rfl : 1 + elem.size * count.toNat = n := Option.some.inj hdemand
      have helem : elem ∈ validKinds := hvalid
      have hrest : elem.size * count.toNat ≤ rest.length := by
        rw [List.length_cons] at hn
        omega
      rw [parseField_slice_present name field named definedElem helem hrest, setSlice_ok hset]
      rfl

theorem parseField_panics (name : String) {field : Field} {fieldType : FieldType}
    (hvalid : fieldType.checkedKind ∈ validKinds) (hadmitted : ¬ fieldType.Refused data)
    (h : ∀ n ∈ fieldType.demand data, n ≤ data.length → ¬ fieldType.Settable field.exported) :
    ∃ panic, parseField name field fieldType data = .error panic := by
  cases fieldType with
  | plain kind =>
    have hkind : kind ∈ validKinds := hvalid
    have hpresent : kind.size ≤ data.length := Nat.not_lt.mp hadmitted
    have hexported : ¬ field.exported = true := h kind.size rfl hpresent
    refine ⟨unexported, ?_⟩
    rw [parseField_plain name field hkind hpresent, setInteger,
      if_pos (Bool.not_eq_true _ ▸ hexported)]
    rfl
  | slice named elem definedElem =>
    cases data with
    | nil => exact absurd trivial hadmitted
    | cons count rest =>
      have helem : elem ∈ validKinds := hvalid
      have hcompare : ¬ elem.size * rest.length < count.toNat := hadmitted
      by_cases hpresent : elem.size * count.toNat ≤ rest.length
      · have hset := h (1 + elem.size * count.toNat) rfl (by rw [List.length_cons]; omega)
        rw [parseField_slice_present name field named definedElem helem hpresent]
        exact map_panics (setSlice_panics hset) _
      · -- the comparison is the right one for bytes
        have huint8 : elem ≠ .uint8 := by
          rintro rfl
          simp only [Kind.size, Nat.one_mul] at hcompare hpresent
          omega
        rw [parseField_slice name field named definedElem helem, if_neg hcompare]
        exact bind_panics (parseElements_panics huint8 (Nat.lt_of_not_le hpresent)) _

theorem parseField_eq_some {name : String} {field : Field} {fieldType : FieldType}
    (hvalid : fieldType.checkedKind ∈ validKinds) {rest : List Byte} {value : fieldType.Value}
    (h : parseField name field fieldType data = .ok (some (value, rest))) :
    ∃ n ∈ fieldType.demand data, n ≤ data.length ∧ value = fieldType.read data ∧
      rest = data.drop n := by
  by_cases hrefused : fieldType.Refused data
  · rw [parseField_refused name field hvalid hrefused] at h
    cases h
  by_cases hready : ∃ n ∈ fieldType.demand data, n ≤ data.length ∧ fieldType.Settable field.exported
  · obtain ⟨n, hn, hle, hset⟩ := hready
    rw [parseField_ok name hvalid hset hn hle] at h
    cases h
    exact ⟨n, hn, hle, rfl, rfl⟩
  · obtain ⟨panic, hpanic⟩ := parseField_panics name hvalid hrefused
      fun n hn hle hset => hready ⟨n, hn, hle, hset⟩
    rw [hpanic] at h
    cases h

theorem length_bytes_read {fieldType : FieldType} {n : Nat} (hdemand : n ∈ fieldType.demand data) :
    (fieldType.bytes (fieldType.read data)).length = n := by
  cases fieldType with
  | plain kind =>
    obtain rfl : kind.size = n := Option.some.inj hdemand
    exact length_bytes_plain _
  | slice _ elem =>
    cases data with
    | nil => cases hdemand
    | cons count =>
      obtain rfl : 1 + elem.size * count.toNat = n := Option.some.inj hdemand
      have hcount : min 255 count.toNat = count.toNat :=
        Nat.min_eq_right (Nat.le_of_lt_succ count.toNat_lt)
      simp only [length_bytes_slice, FieldType.read, List.headD_cons, Option.getD_some,
        List.length_map, List.length_range, hcount]

/-! ## Structs -/

section

variable {name : String} {field : Field} {fields : List Field} {data : List Byte}

theorem mem_demanded_cons {n : Nat} :
    n ∈ demanded (field :: fields) data ↔
      ∃ first ∈ field.type.demand data, ∃ rest ∈ demanded fields (data.drop first),
        first + rest = n := by
  simp [demanded, Option.bind_eq_some_iff]

theorem parseValue_cons_none (h : parseField name field field.type data = .ok none) :
    parseValue name (field :: fields) data = .ok none := by
  rw [parseValue, h]
  rfl

theorem parseValue_cons_some {value : field.type.Value} {rest : List Byte}
    (h : parseField name field field.type data = .ok (some (value, rest))) :
    parseValue name (field :: fields) data = (parseValue name fields rest).map fun parsed =>
      parsed.map fun r => ((value, r.1), r.2) := by
  rw [parseValue, h, ok_bind]
  dsimp only
  cases parseValue name fields rest with
  | error => rfl
  | ok parsed => cases parsed <;> rfl

theorem parseValue_cons_panics (h : ∃ panic, parseField name field field.type data = .error panic) :
    ∃ panic, parseValue name (field :: fields) data = .error panic := by
  rw [parseValue]
  exact bind_panics h _

theorem parseValue_cons_eq_some {record : Record (field :: fields)} {rest : List Byte}
    (h : parseValue name (field :: fields) data = .ok (some (record, rest))) :
    ∃ left, parseField name field field.type data = .ok (some (record.1, left)) ∧
      parseValue name fields left = .ok (some (record.2, rest)) := by
  rw [parseValue] at h
  cases hparsed : parseField name field field.type data with
  | error => simp [hparsed, bind, Except.bind] at h
  | ok first =>
    rw [hparsed, ok_bind] at h
    rcases first with _ | ⟨value, left⟩
    · cases h
    dsimp only at h
    cases hvalues : parseValue name fields left with
    | error => simp [hvalues, bind, Except.bind] at h
    | ok parsed =>
      rw [hvalues, ok_bind] at h
      rcases parsed with _ | ⟨values, after⟩
      · cases h
      · cases h
        exact ⟨left, rfl, hvalues⟩

section

variable (hvalid : ∀ field ∈ fields, field.type.checkedKind ∈ validKinds)
include hvalid

theorem parseValue_length
    {record : Record fields} {rest : List Byte}
    (h : parseValue name fields data = .ok (some (record, rest))) :
    (Record.bytes fields record).length + rest.length = data.length := by
  induction fields generalizing data with
  | nil =>
    cases h
    exact Nat.zero_add _
  | cons _ fields ih =>
    obtain ⟨value, values⟩ := record
    obtain ⟨left, hvalue, hvalues⟩ := parseValue_cons_eq_some h
    rw [List.forall_mem_cons] at hvalid
    obtain ⟨n, hn, hle, rfl, rfl⟩ := parseField_eq_some hvalid.1 hvalue
    have hlength : (Record.bytes fields values).length + rest.length = (data.drop n).length :=
      ih hvalid.2 hvalues
    rw [List.length_drop] at hlength
    rw [Record.bytes, List.length_append, length_bytes_read hn]
    omega

theorem total_of_safe
    (h : Safe fields data) : Total name fields data := by
  induction fields generalizing data with
  | nil =>
    refine ⟨?_, fun hnot => absurd ⟨0, rfl, Nat.zero_le _⟩ hnot⟩
    rintro n ⟨⟩ -
    exact ⟨(), rfl⟩
  | cons field fields ih =>
    have hfield := hvalid field List.mem_cons_self
    have hfields := fun f hf => hvalid f (List.mem_cons_of_mem _ hf)
    rcases h with hrefused | ⟨first, hfirst, hle, hset, hsafe⟩
    · refine ⟨?_, fun _ => parseValue_cons_none (parseField_refused name field hfield hrefused)⟩
      rintro n hn hlength
      obtain ⟨first, hfirst, rest, -, rfl⟩ := mem_demanded_cons.mp hn
      exact absurd hrefused (not_refused_of_present hfield hfirst (by omega))
    · have hparsed : parseValue name (field :: fields) data = _ :=
        parseValue_cons_some (parseField_ok name hfield hset hfirst hle)
      obtain ⟨hpresent, habsent⟩ := ih hfields hsafe
      constructor
      · rintro n hn hlength
        obtain ⟨first', hfirst', rest, hrest, rfl⟩ := mem_demanded_cons.mp hn
        obtain rfl : first = first' := Option.some.inj (hfirst.symm.trans hfirst')
        obtain ⟨record, hrecord⟩ := hpresent rest hrest (by rw [List.length_drop]; omega)
        refine ⟨(field.type.read data, record), ?_⟩
        rw [hparsed, hrecord, List.drop_drop]
        rfl
      · intro hnot
        have hrest : ¬ Holds fields (data.drop first) := by
          rintro ⟨rest, hrest, hlength⟩
          rw [List.length_drop] at hlength
          exact hnot ⟨first + rest, mem_demanded_cons.mpr ⟨first, hfirst, rest, hrest, rfl⟩,
            by omega⟩
        rw [hparsed, habsent hrest]
        rfl

theorem parseValue_panics
    (h : ¬ Safe fields data) : ∃ panic, parseValue name fields data = .error panic := by
  induction fields generalizing data with
  | nil => exact absurd trivial h
  | cons field fields ih =>
    have hfield := hvalid field List.mem_cons_self
    have hfields := fun f hf => hvalid f (List.mem_cons_of_mem _ hf)
    obtain ⟨hadmitted, hrest⟩ := not_or.mp h
    by_cases hready : ∃ n ∈ field.type.demand data, n ≤ data.length ∧
        field.type.Settable field.exported
    · obtain ⟨first, hfirst, hle, hset⟩ := hready
      have hfails : ¬ Safe fields (data.drop first) :=
        fun hsafe => hrest ⟨first, hfirst, hle, hset, hsafe⟩
      rw [parseValue_cons_some (parseField_ok name hfield hset hfirst hle)]
      exact map_panics (ih hfields hfails) _
    · exact parseValue_cons_panics (parseField_panics name hfield hadmitted
        fun n hn hle hset => hready ⟨n, hn, hle, hset⟩)

end

end

/-- A scalar, or a slice of bytes: the comparison before the bytes are read is the right
one. -/
def FieldType.Narrow : FieldType → Prop
  | .plain _ => True
  | .slice _ elem _ => elem = .uint8

instance (fieldType : FieldType) : Decidable fieldType.Narrow :=
  match fieldType with
  | .plain _ => inferInstanceAs (Decidable True)
  | .slice _ elem _ => inferInstanceAs (Decidable (elem = .uint8))

theorem FieldType.Narrow.refused_or_present {fieldType : FieldType} (h : fieldType.Narrow)
    (data : List Byte) :
    fieldType.Refused data ∨ ∃ n ∈ fieldType.demand data, n ≤ data.length := by
  cases fieldType with
  | plain kind =>
    rcases Nat.lt_or_ge data.length kind.size with hshort | hlong
    · exact Or.inl hshort
    · exact Or.inr ⟨kind.size, rfl, hlong⟩
  | slice _ elem =>
    obtain rfl : elem = .uint8 := h
    cases data with
    | nil => exact Or.inl trivial
    | cons count rest =>
      have hsize : Kind.uint8.size = 1 := rfl
      rcases Nat.lt_or_ge (Kind.uint8.size * rest.length) count.toNat with hshort | hlong
      · exact Or.inl hshort
      · refine Or.inr ⟨1 + Kind.uint8.size * count.toNat, rfl, ?_⟩
        rw [hsize, Nat.one_mul] at hlong
        rw [List.length_cons, hsize]
        omega

theorem safe_of_narrow {fields : List Field} (hnarrow : ∀ field ∈ fields, field.type.Narrow)
    (hset : ∀ field ∈ fields, field.type.Settable field.exported) (data : List Byte) :
    Safe fields data := by
  induction fields generalizing data with
  | nil => trivial
  | cons _ _ ih =>
    rw [List.forall_mem_cons] at hnarrow hset
    rcases hnarrow.1.refused_or_present data with hrefused | ⟨n, hn, hle⟩
    · exact Or.inl hrefused
    · exact Or.inr ⟨n, hn, hle, hset.1, ih hnarrow.2 hset.2 (data.drop n)⟩

/-- **When parsing is total.**  For every struct type that `ValidateType` accepts, `ParseValue`
returns, and succeeds exactly when the data holds every byte that the layout and its counts
demand, exactly if each field up to the first that is refused has its bytes and can be set. -/
theorem parseValue_total_iff (name : String) (fields : List Field)
    (hvalid : validateType (.struct name fields) = none) (data : List Byte) :
    Total name fields data ↔ Safe fields data := by
  have hkinds := (validateType_struct_iff name fields).mp hvalid
  constructor
  · intro htotal
    by_contra hfails
    obtain ⟨panic, hpanic⟩ : ∃ panic, parseValue name fields data = .error panic :=
      parseValue_panics hkinds hfails
    by_cases hholds : Holds fields data
    · obtain ⟨n, hn, hle⟩ := hholds
      obtain ⟨record, hrecord⟩ := htotal.1 n hn hle
      rw [hpanic] at hrecord
      cases hrecord
    · have hnone := htotal.2 hholds
      rw [hpanic] at hnone
      cases hnone
  · exact total_of_safe hkinds

def zdoSrcRtgInd : List Field :=
  [⟨"DstAddr", true, .plain .uint16, "uint16"⟩,
    ⟨"RelayList", true, .slice false .uint16 false, "[]uint16"⟩]

/-- A source route with one relay. -/
theorem oneRelay_total :
    validateType (.struct "ZdoSrcRtgInd" zdoSrcRtgInd) = none ∧
      Total "ZdoSrcRtgInd" zdoSrcRtgInd [0x34, 0x12, 0x01, 0x78, 0x56] := by
  have hvalid : validateType (.struct "ZdoSrcRtgInd" zdoSrcRtgInd) = none := by decide
  refine ⟨hvalid, (parseValue_total_iff "ZdoSrcRtgInd" zdoSrcRtgInd hvalid _).mpr ?_⟩
  exact Or.inr ⟨2, rfl, by decide, rfl, Or.inr ⟨3, rfl, by decide, ⟨rfl, Or.inr rfl⟩, trivial⟩⟩

/-- Two relays are announced and one byte follows: the read behind the end ends the program. -/
theorem cutRelays_panic :
    validateType (.struct "ZdoSrcRtgInd" zdoSrcRtgInd) = none ∧
      ¬ Holds zdoSrcRtgInd [0x34, 0x12, 0x02, 0x78] ∧
      parseValue "ZdoSrcRtgInd" zdoSrcRtgInd [0x34, 0x12, 0x02, 0x78] = .error (.index 1 1) := by
  refine ⟨by decide, ?_, rfl⟩
  rintro ⟨n, hn, hle⟩
  obtain rfl : 7 = n := Option.some.inj hn
  exact absurd hle (by decide)

end IotController.Scf
