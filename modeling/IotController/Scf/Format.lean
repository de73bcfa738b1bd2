/-
  `pkg/zigbee-dongle/scf/scf.go`: which structs the format admits,
  and how they are written.

  The package works on `reflect` values.  Of a struct type it sees, for each field, the
  kind, for slices the kind of the elements, whether the types are defined ones, and
  whether the field is exported; `reflect` refuses to set or to hand out a field that is
  not.  A refusal is a panic.
-/
import IotController.Foundation.LittleEndian
import IotController.Foundation.Slice

namespace IotController.Scf

open Foundation

/-! ## Types -/

/-- A `reflect.Kind`; of those that the format does not support, the name and the size. -/
inductive Kind where
  | int8
  | int16
  | int32
  | int64
  | uint8
  | uint16
  | uint32
  | uint64
  | other (text : String) (size : Nat)
  deriving DecidableEq

def Kind.text : Kind → String
  | .int8 => "int8"
  | .int16 => "int16"
  | .int32 => "int32"
  | .int64 => "int64"
  | .uint8 => "uint8"
  | .uint16 => "uint16"
  | .uint32 => "uint32"
  | .uint64 => "uint64"
  | .other text _ => text

def Kind.size : Kind → Nat
  | .int8 | .uint8 => 1
  | .int16 | .uint16 => 2
  | .int32 | .uint32 => 4
  | .int64 | .uint64 => 8
  | .other _ size => size

def Kind.signed : Kind → Bool
  | .int8 | .int16 | .int32 | .int64 => true
  | _ => false

/-- The types that are encoded. -/
inductive FieldType where
  | plain (kind : Kind)
  /-- a slice; `named` says whether the slice type is a defined one, `definedElem` whether
  the type of its elements is -/
  | slice (named : Bool) (elem : Kind) (definedElem : Bool)
  deriving DecidableEq

/-- A field, as `reflect` shows it. -/
structure Field where
  name : String
  exported : Bool
  type : FieldType
  typeText : String
  deriving DecidableEq

/-- The type of a command. -/
inductive CommandType where
  | struct (name : String) (fields : List Field)
  | other

/-! ## Validation -/

def validKinds : List Kind :=
  [.int8, .int16, .int32, .int64, .uint8, .uint16, .uint32, .uint64]

def FieldType.checkedKind : FieldType → Kind
  | .plain kind => kind
  | .slice _ elem _ => elem

def isFieldTypeValid (fieldType : FieldType) : Bool := decide (fieldType.checkedKind ∈ validKinds)

def validateType : CommandType → Option String
  | .other => some "command must be a struct"
  | .struct name fields =>
    match fields.find? fun field => !isFieldTypeValid field.type with
    | some field => some ("command field " ++ name ++ "." ++ field.name ++ " has invalid type")
    | none => none

theorem validateType_struct_iff (name : String) (fields : List Field) :
    validateType (.struct name fields) = none ↔
      ∀ field ∈ fields, field.type.checkedKind ∈ validKinds := by
  have hfind : fields.find? (fun field => !isFieldTypeValid field.type) = none ↔
      ∀ field ∈ fields, field.type.checkedKind ∈ validKinds := by
    simp [isFieldTypeValid]
  rw [← hfind, validateType]
  cases fields.find? fun field => !isFieldTypeValid field.type with
  | none | some => simp

theorem size_pos {kind : Kind} (h : kind ∈ validKinds) : 0 < kind.size := by
  have hall : ∀ k ∈ validKinds, 0 < k.size := by decide
  exact hall kind h

theorem size_le_eight {kind : Kind} (h : kind ∈ validKinds) : kind.size ≤ 8 := by
  have hall : ∀ k ∈ validKinds, k.size ≤ 8 := by decide
  exact hall kind h

abbrev Kind.Integer (kind : Kind) : Type := BitVec (8 * kind.size)

/-- The values of a field; a slice that is `none` is nil. -/
@[reducible] def FieldType.Value : FieldType → Type
  | .plain kind => kind.Integer
  | .slice _ elem _ => Option (List elem.Integer)

@[reducible] def Record : List Field → Type
  | [] => Unit
  | field :: fields => field.type.Value × Record fields

def unexported : Panic := .raised "reflect: value obtained using unexported field"

def otherType : Panic := .raised "reflect: value has another type"

def notImplemented (what name : String) (field : Field) : Panic :=
  let fieldKind := match field.type with
    | .plain kind => kind.text
    | .slice _ _ _ => "slice"
  .raised (what ++ " for command field not implemented: field=" ++ name ++ "." ++ field.name ++
    " type=" ++ field.typeText ++ " kind=" ++ fieldKind)

/-- A slice's elements: `field.Bytes()`, or `field.Interface().([]T)` for the kind's `T`. -/
def elements {α : Type} (field : Field) (named : Bool) (elem : Kind) (definedElem : Bool)
    (values : List α) : Checked (List α) :=
  if elem = .uint8 then pure values
  else if field.exported = false then .error unexported
  else if named = true ∨ definedElem = true then .error otherType
  else pure values

def serializeField (name : String) (field : Field) :
    (fieldType : FieldType) → fieldType.Value → Checked (List Byte)
  | .slice named elem definedElem, value =>
    -- a nil slice has no elements
    let values := value.getD []
    let length := if 255 < values.length then 255 else values.length
    if elem ∉ validKinds then .error (notImplemented "serialization" name field)
    else do
      let all ← elements field named elem definedElem values
      let written ← sliceTo all length
      pure (UInt8.ofNat length :: written.flatMap (putLE elem.size))
  | .plain kind, value =>
    if kind ∉ validKinds then .error (notImplemented "serialization" name field)
    else
      let carrier : BitVec 64 := if kind.signed then value.signExtend 64 else value.setWidth 64
      pure (putLE kind.size (carrier.setWidth (8 * kind.size)))

def serializeValue (name : String) : (fields : List Field) → Record fields → Checked (List Byte)
  | [], _ => pure []
  | field :: fields, (value, values) => do
      let data ← serializeField name field field.type value
      let rest ← serializeValue name fields values
      pure (data ++ rest)

/-! ## What is written -/

def FieldType.bytes : (fieldType : FieldType) → fieldType.Value → List Byte
  | .slice _ elem _, value =>
    let values := (value.getD []).take 255
    UInt8.ofNat values.length :: values.flatMap (putLE elem.size)
  | .plain kind, value => putLE kind.size value

@[simp] theorem length_bytes_plain {kind : Kind} (value : kind.Integer) :
    (FieldType.bytes (.plain kind) value).length = kind.size :=
  length_putLE kind.size value

@[simp] theorem length_bytes_slice {named definedElem : Bool} {elem : Kind}
    (value : Option (List elem.Integer)) :
    (FieldType.bytes (.slice named elem definedElem) value).length =
      1 + elem.size * min 255 (value.getD []).length := by
  rw [FieldType.bytes, List.length_cons, length_flatMap_putLE, List.length_take, Nat.add_comm]

theorem setWidth_carrier {w : Nat} (hw : w ≤ 64) (signed : Bool) (v : BitVec w) :
    (if signed then v.signExtend 64 else v.setWidth 64).setWidth w = v := by
  apply BitVec.eq_of_getLsbD_eq
  intro i hi
  have hcarrier : i < 64 := hi.trans_le hw
  cases signed with
  | false => simp [hi, hcarrier]
  | true => simp [BitVec.getElem_signExtend, hi, hcarrier]

theorem sliceTo_truncated {α : Type} (values : List α) :
    sliceTo values (if 255 < values.length then 255 else values.length : Nat) =
      .ok (values.take 255) := by
  have hle : (if 255 < values.length then 255 else values.length) ≤ values.length := by
    split_ifs <;> omega
  rw [sliceTo_ok (Int.natCast_nonneg _) (Int.ofNat_le.mpr hle), Int.toNat_natCast]
  split_ifs with hlong
  · rfl
  · rw [List.take_length, List.take_of_length_le (Nat.not_lt.mp hlong)]

theorem length_truncated {α : Type} (values : List α) :
    (if 255 < values.length then 255 else values.length) = (values.take 255).length := by
  rw [List.length_take]
  split_ifs <;> omega

/-- `reflect` hands out the value of a field of this type. -/
def FieldType.Readable (exported : Bool) : FieldType → Prop
  | .plain _ => True
  | .slice named elem definedElem =>
    elem = .uint8 ∨ exported = true ∧ named = false ∧ definedElem = false

theorem elements_eq {α : Type} {field : Field} {named : Bool} {elem : Kind} {definedElem : Bool}
    {values all : List α} (h : elements field named elem definedElem values = .ok all) :
    all = values := by
  unfold elements at h
  split_ifs at h <;> cases h <;> rfl

theorem serializeField_plain (name : String) (field : Field) {kind : Kind}
    (hvalid : kind ∈ validKinds) (value : kind.Integer) :
    serializeField name field (.plain kind) value = .ok (putLE kind.size value) := by
  have hsize : 8 * kind.size ≤ 64 := by
    have := size_le_eight hvalid
    omega
  dsimp only [serializeField]
  rw [if_neg (not_not.mpr hvalid), setWidth_carrier hsize]
  rfl

theorem serializeField_slice (name : String) (field : Field) (named definedElem : Bool)
    {elem : Kind} (hvalid : elem ∈ validKinds) (value : Option (List elem.Integer)) :
    serializeField name field (.slice named elem definedElem) value =
      (elements field named elem definedElem (value.getD [])).map
        fun _ => FieldType.bytes (.slice named elem definedElem) value := by
  dsimp only [serializeField]
  rw [if_neg (not_not.mpr hvalid)]
  cases helements : elements field named elem definedElem (value.getD []) with
  | error => rfl
  | ok =>
    rw [elements_eq helements, ok_bind, sliceTo_truncated, length_truncated]
    rfl

theorem serializeField_ok (name : String) {field : Field} {fieldType : FieldType}
    (hvalid : fieldType.checkedKind ∈ validKinds) (hreadable : fieldType.Readable field.exported)
    (value : fieldType.Value) :
    serializeField name field fieldType value = .ok (fieldType.bytes value) := by
  cases fieldType with
  | plain => exact serializeField_plain name field hvalid value
  | slice named elem definedElem =>
    have helem : elem ∈ validKinds := hvalid
    have hall : elements field named elem definedElem (value.getD []) = .ok (value.getD []) := by
      unfold elements
      rcases hreadable with huint8 | ⟨hexported, hnamed, hdefined⟩
      · rw [if_pos huint8]
        rfl
      · simp only [hexported, hnamed, hdefined, Bool.true_eq_false, Bool.false_eq_true,
          or_self, if_false, ite_self]
        rfl
    rw [serializeField_slice name field named definedElem helem, hall]
    rfl

theorem serializeField_eq {name : String} {field : Field} {fieldType : FieldType}
    (hvalid : fieldType.checkedKind ∈ validKinds) {value : fieldType.Value} {data : List Byte}
    (h : serializeField name field fieldType value = .ok data) :
    data = fieldType.bytes value := by
  cases fieldType with
  | plain kind =>
    have hkind : kind ∈ validKinds := hvalid
    rw [serializeField_plain name field hkind] at h
    exact (Except.ok.inj h).symm
  | slice named elem definedElem =>
    have helem : elem ∈ validKinds := hvalid
    rw [serializeField_slice name field named definedElem helem] at h
    cases helements : elements field named elem definedElem (value.getD []) with
    | error =>
      rw [helements] at h
      cases h
    | ok =>
      rw [helements] at h
      exact (Except.ok.inj h).symm

def Record.bytes : (fields : List Field) → Record fields → List Byte
  | [], _ => []
  | field :: fields, (value, values) => field.type.bytes value ++ Record.bytes fields values

theorem serializeValue_ok (name : String) {fields : List Field}
    (hvalid : ∀ field ∈ fields, field.type.checkedKind ∈ validKinds)
    (hreadable : ∀ field ∈ fields, field.type.Readable field.exported) (record : Record fields) :
    serializeValue name fields record = .ok (Record.bytes fields record) := by
  induction fields with
  | nil => rfl
  | cons _ _ ih =>
    obtain ⟨value, values⟩ := record
    rw [List.forall_mem_cons] at hvalid hreadable
    rw [serializeValue, serializeField_ok name hvalid.1 hreadable.1, ok_bind,
      ih hvalid.2 hreadable.2, ok_bind]
    rfl

theorem serializeValue_eq {name : String} {fields : List Field}
    (hvalid : ∀ field ∈ fields, field.type.checkedKind ∈ validKinds) {record : Record fields}
    {data : List Byte} (h : serializeValue name fields record = .ok data) :
    data = Record.bytes fields record := by
  induction fields generalizing data with
  | nil => exact (Except.ok.inj h).symm
  | cons field fields ih =>
    obtain ⟨value, values⟩ := record
    rw [List.forall_mem_cons] at hvalid
    rw [serializeValue] at h
    cases hfirst : serializeField name field field.type value with
    | error =>
      rw [hfirst] at h
      cases h
    | ok first =>
      rw [hfirst, ok_bind] at h
      cases hothers : serializeValue name fields values with
      | error =>
        rw [hothers] at h
        cases h
      | ok others =>
        rw [hothers, ok_bind] at h
        obtain rfl : first ++ others = data := Except.ok.inj h
        rw [serializeField_eq hvalid.1 hfirst, ih hvalid.2 hothers, Record.bytes]

end IotController.Scf
