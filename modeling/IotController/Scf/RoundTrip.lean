/-
  What `SerializeValue` writes, `ParseValue` reads back.

  One lemma for a field, with arbitrary bytes behind it, composes along the fields of a
  struct.  A nil slice is read back as an empty one (`Record.emptied`).
-/
import IotController.Scf.Parse

namespace IotController.Scf

open Foundation

/-! ## Types and values -/

/-- Neither it nor its elements are a defined type. -/
def FieldType.Predeclared : FieldType → Prop
  | .plain kind => kind ∈ validKinds
  | .slice named elem definedElem => elem ∈ validKinds ∧ named = false ∧ definedElem = false

instance : (fieldType : FieldType) → Decidable fieldType.Predeclared
  | .plain kind => inferInstanceAs (Decidable (kind ∈ validKinds))
  | .slice _ _ _ => inferInstanceAs (Decidable (_ ∧ _ ∧ _))

def FieldType.Short : (fieldType : FieldType) → fieldType.Value → Prop
  | .plain _, _ => True
  | .slice _ _ _, value => (value.getD []).length ≤ 255

def FieldType.emptied : (fieldType : FieldType) → fieldType.Value → fieldType.Value
  | .plain _, value => value
  | .slice _ _ _, value => some (value.getD [])

def Record.Short : (fields : List Field) → Record fields → Prop
  | [], _ => True
  | field :: fields, (value, values) => field.type.Short value ∧ Record.Short fields values

def Record.emptied : (fields : List Field) → Record fields → Record fields
  | [], record => record
  | field :: fields, (value, values) => (field.type.emptied value, Record.emptied fields values)

/-! ## Fields -/

section

variable {fieldType : FieldType} {value : fieldType.Value}

theorem FieldType.Predeclared.valid (h : fieldType.Predeclared) :
    fieldType.checkedKind ∈ validKinds := by
  cases fieldType with
  | plain => exact h
  | slice => exact h.1

theorem FieldType.Predeclared.readable (h : fieldType.Predeclared) :
    fieldType.Readable true := by
  cases fieldType with
  | plain => trivial
  | slice => exact Or.inr ⟨rfl, h.2⟩

theorem FieldType.Predeclared.settable_iff (h : fieldType.Predeclared) (exported : Bool) :
    fieldType.Settable exported ↔ exported = true := by
  cases fieldType with
  | plain => exact Iff.rfl
  | slice => exact ⟨And.left, fun hexported => ⟨hexported, Or.inr h.2.2⟩⟩

theorem bytes_slice {named definedElem : Bool} {elem : Kind} {value : Option (List elem.Integer)}
    (h : (value.getD []).length ≤ 255) :
    FieldType.bytes (.slice named elem definedElem) value =
      UInt8.ofNat (value.getD []).length :: (value.getD []).flatMap (putLE elem.size) := by
  dsimp only [FieldType.bytes]
  rw [List.take_of_length_le h]

theorem count_toNat {n : Nat} (h : n ≤ 255) : (UInt8.ofNat n).toNat = n := by
  rw [UInt8.toNat_ofNat']
  omega

theorem demand_bytes (h : fieldType.Short value) (rest : List Byte) :
    (fieldType.bytes value).length ∈ fieldType.demand (fieldType.bytes value ++ rest) := by
  cases fieldType with
  | plain => simp [FieldType.bytes, FieldType.demand]
  | slice =>
    have hshort : (value.getD []).length ≤ 255 := h
    rw [bytes_slice hshort, List.cons_append, FieldType.demand, count_toNat hshort,
      List.length_cons, length_flatMap_putLE, Nat.add_comm]
    rfl

theorem read_bytes (h : fieldType.Short value) (rest : List Byte) :
    fieldType.read (fieldType.bytes value ++ rest) = fieldType.emptied value := by
  cases fieldType with
  | plain kind =>
    dsimp only [FieldType.read, FieldType.bytes, FieldType.emptied]
    rw [List.take_left' (length_putLE kind.size value), getLE_putLE_self]
  | slice =>
    have hshort : (value.getD []).length ≤ 255 := h
    rw [bytes_slice hshort, List.cons_append]
    dsimp only [FieldType.read, FieldType.emptied, List.headD_cons, List.drop_succ_cons,
      List.drop_zero]
    rw [count_toNat hshort]
    exact congrArg some (map_getLE_flatMap_putLE (value.getD []) rest)

theorem parseField_bytes (name : String) {field : Field} (hpredeclared : fieldType.Predeclared)
    (hexported : field.exported = true) (h : fieldType.Short value) (rest : List Byte) :
    parseField name field fieldType (fieldType.bytes value ++ rest) =
      .ok (some (fieldType.emptied value, rest)) := by
  have hset := (hpredeclared.settable_iff field.exported).mpr hexported
  rw [parseField_ok name hpredeclared.valid hset (demand_bytes h rest) (by simp), read_bytes h,
    List.drop_left]

theorem parseField_unexported (name : String) {field : Field}
    (hpredeclared : fieldType.Predeclared) (hexported : ¬ field.exported = true)
    (h : fieldType.Short value) (rest : List Byte) :
    ∃ panic, parseField name field fieldType (fieldType.bytes value ++ rest) = .error panic := by
  have hpresent : (fieldType.bytes value).length ≤ (fieldType.bytes value ++ rest).length := by
    simp
  refine parseField_panics name hpredeclared.valid
    (not_refused_of_present hpredeclared.valid (demand_bytes h rest) hpresent) ?_
  rintro n - - hset
  exact hexported ((hpredeclared.settable_iff field.exported).mp hset)

end

/-! ## Structs -/

/-- What is written is read back, and what follows it is left. -/
def RoundTrips (name : String) (fields : List Field) (record : Record fields)
    (rest : List Byte) : Prop :=
  ∃ data, serializeValue name fields record = .ok data ∧
    parseValue name fields (data ++ rest) = .ok (some (Record.emptied fields record, rest))

section

variable {name : String} {fields : List Field} {record : Record fields}

theorem parseValue_bytes (hpredeclared : ∀ field ∈ fields, field.type.Predeclared)
    (hexported : ∀ field ∈ fields, field.exported = true) (hshort : Record.Short fields record)
    (rest : List Byte) :
    parseValue name fields (Record.bytes fields record ++ rest) =
      .ok (some (Record.emptied fields record, rest)) := by
  induction fields with
  | nil => rfl
  | cons _ fields ih =>
    obtain ⟨value, values⟩ := record
    rw [List.forall_mem_cons] at hpredeclared hexported
    have hfirst := parseField_bytes name hpredeclared.1 hexported.1 hshort.1
      (Record.bytes fields values ++ rest)
    rw [Record.bytes, List.append_assoc, parseValue_cons_some hfirst,
      ih hpredeclared.2 hexported.2 hshort.2]
    rfl

theorem parseValue_unexported (hpredeclared : ∀ field ∈ fields, field.type.Predeclared)
    (hunexported : ∃ field ∈ fields, ¬ field.exported = true) (hshort : Record.Short fields record)
    (rest : List Byte) :
    ∃ panic, parseValue name fields (Record.bytes fields record ++ rest) = .error panic := by
  induction fields with
  | nil =>
    obtain ⟨field, hfield, -⟩ := hunexported
    cases hfield
  | cons field fields ih =>
    obtain ⟨value, values⟩ := record
    rw [List.forall_mem_cons] at hpredeclared
    rw [Record.bytes, List.append_assoc]
    by_cases hexported : field.exported = true
    · have hothers : ∃ other ∈ fields, ¬ other.exported = true := by
        obtain ⟨other, hother, hnot⟩ := hunexported
        refine ⟨other, (List.mem_cons.mp hother).resolve_left ?_, hnot⟩
        rintro rfl
        exact hnot hexported
      have hfirst := parseField_bytes name hpredeclared.1 hexported hshort.1
        (Record.bytes fields values ++ rest)
      rw [parseValue_cons_some hfirst]
      exact map_panics (ih hpredeclared.2 hothers hshort.2) _
    · exact parseValue_cons_panics (parseField_unexported name hpredeclared.1 hexported hshort.1
        (Record.bytes fields values ++ rest))

end

/-- **When a struct is read back.**  A struct of predeclared integers and slices of at most 255
is read back as it was written, nil slices as empty ones, with the bytes behind it left over,
exactly if all its fields are exported. -/
theorem roundTrips_iff (name : String) (fields : List Field)
    (hpredeclared : ∀ field ∈ fields, field.type.Predeclared) (record : Record fields)
    (hshort : Record.Short fields record) (rest : List Byte) :
    RoundTrips name fields record rest ↔ ∀ field ∈ fields, field.exported = true := by
  have hvalid : ∀ field ∈ fields, field.type.checkedKind ∈ validKinds :=
    fun field hfield => (hpredeclared field hfield).valid
  constructor
  · rintro ⟨data, hwritten, hread⟩
    by_contra hnot
    push Not at hnot
    obtain ⟨panic, hpanic⟩ : ∃ panic, parseValue name fields (Record.bytes fields record ++ rest) =
        .error panic := parseValue_unexported hpredeclared hnot hshort rest
    rw [serializeValue_eq hvalid hwritten, hpanic] at hread
    cases hread
  · intro hexported
    have hreadable : ∀ field ∈ fields, field.type.Readable field.exported :=
      fun field hfield => hexported field hfield ▸ (hpredeclared field hfield).readable
    exact ⟨Record.bytes fields record, serializeValue_ok name hvalid hreadable record,
      parseValue_bytes hpredeclared hexported hshort rest⟩

def thermostat : List Field :=
  [⟨"Setpoint", true, .plain .int16, "int16"⟩,
    ⟨"Offsets", true, .slice false .int8 false, "[]int8"⟩]

/-- A negative integer and a nil slice are read back. -/
theorem thermostat_roundTrips :
    (∀ field ∈ thermostat, field.type.Predeclared) ∧
      Record.Short thermostat (BitVec.ofInt 16 (-250), none, ()) ∧
      RoundTrips "Thermostat" thermostat (BitVec.ofInt 16 (-250), none, ()) [0x7F] := by
  have hpredeclared : ∀ field ∈ thermostat, field.type.Predeclared := by decide
  have hshort : Record.Short thermostat (BitVec.ofInt 16 (-250), none, ()) :=
    ⟨trivial, Nat.zero_le 255, trivial⟩
  have hexported : ∀ field ∈ thermostat, field.exported = true := by decide
  exact ⟨hpredeclared, hshort,
    (roundTrips_iff "Thermostat" thermostat hpredeclared _ hshort [0x7F]).mpr hexported⟩

def counter : List Field := [⟨"count", false, .plain .uint8, "uint8"⟩]

/-- It is written, and reading it back ends the program. -/
theorem counter_not_roundTrips :
    validateType (.struct "counter" counter) = none ∧
      (∀ field ∈ counter, field.type.Predeclared) ∧
      parseValue "counter" counter [0x05] = .error unexported ∧
      ¬ RoundTrips "counter" counter (0x05#8, ()) [] := by
  refine ⟨by decide, by decide, rfl, ?_⟩
  rintro ⟨data, hwritten, hread⟩
  obtain rfl : [0x05] = data := Except.ok.inj hwritten
  cases hread

end IotController.Scf
