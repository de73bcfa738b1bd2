/-
  The simple descriptor on the two stacks
  (`zdoSimpleDescriptor` in `pkg/zigbee-dongle/ember/interview.go`, the struct
  `ZdoSimpleDescriptor` of `znp/commands.go` and how `znp/interview.go` uses it).

  Ember's decoder follows the layout that both packages document: the two counts are each
  followed by their clusters.  The struct has a field for a reserved byte, and a field for
  each count besides the count byte that `scf` puts before a slice: three bytes more than
  the payload has.
-/
import IotController.Ember.Interview
import IotController.Znp.Commands
import IotController.Znp.Interview

namespace IotController.Dongle

open Foundation Scf Znp
open Ember (leUint16)
open Ember.Interview (readSimpleDescriptor readClusters)

/-! ## Descriptors -/

/-- What an endpoint says about itself: a version of four bits, and lists of clusters that
fit a frame. -/
structure SimpleDescriptor where
  endpoint : Byte
  profile : UInt16
  device : UInt16
  version : Byte
  inClusters : List UInt16
  outClusters : List UInt16
  version_lt : version < 16
  fits : 14 + 2 * (inClusters.length + outClusters.length) ≤ frameMaxDataLength

def wordBytes (w : UInt16) : List Byte := [w.toUInt8, (w >>> 8).toUInt8]

namespace SimpleDescriptor

variable (d : SimpleDescriptor)

def info : EndpointInfo where
  id := d.endpoint.toUInt32
  profileID := d.profile.toUInt32
  deviceID := d.device.toUInt32
  deviceVersion := d.version.toUInt32
  inputClusters := d.inClusters
  outputClusters := d.outClusters

def ids : List Byte :=
  d.endpoint :: wordBytes d.profile ++ wordBytes d.device ++ [d.version]

def inCount : Byte := UInt8.ofNat d.inClusters.length
def outCount : Byte := UInt8.ofNat d.outClusters.length

def body : List Byte :=
  d.ids ++ d.inCount :: d.inClusters.flatMap wordBytes ++
    d.outCount :: d.outClusters.flatMap wordBytes

def structBody (reserved : Byte) : List Byte :=
  d.ids ++ reserved :: d.inCount :: d.inCount :: d.inClusters.flatMap wordBytes ++
    d.outCount :: d.outCount :: d.outClusters.flatMap wordBytes

end SimpleDescriptor

/-- The body as documented, or as the struct has it. -/
inductive Layout where
  | documented
  | asStruct (reserved : Byte)
  deriving DecidableEq, Repr

def Layout.body (d : SimpleDescriptor) : Layout → List Byte
  | documented => d.body
  | asStruct reserved => d.structBody reserved

def emberPayload (sequence : Byte) (nwkAddr : UInt16) (d : SimpleDescriptor) : List Byte :=
  sequence :: 0x00 :: wordBytes nwkAddr ++ UInt8.ofNat d.body.length :: d.body

def znpPayload (layout : Layout) (srcAddr nwkAddr : UInt16) (d : SimpleDescriptor) : List Byte :=
  wordBytes srcAddr ++ 0x00 :: wordBytes nwkAddr ++
    UInt8.ofNat (layout.body d).length :: layout.body d

/-! ## The struct -/

def ofRecord : Scf.Record zdoSimpleDescriptor → ZdoSimpleDescriptor
  | (_, status, nwkAddr, _, endpoint, profile, device, version, _, _, inClusters, _,
      outClusters, _) =>
      { status := uint8Of status
        nwkAddr := uint16Of nwkAddr
        endpoint := uint8Of endpoint
        appProfileID := uint16Of profile
        appDeviceID := uint16Of device
        appDeviceVer := uint8Of version
        inClusters := (inClusters.getD []).map uint16Of
        outClusters := (outClusters.getD []).map uint16Of }

def znpSimpleDescriptor (data : List Byte) : Checked (Option EndpointInfo) :=
  (parseValue "ZdoSimpleDescriptor" zdoSimpleDescriptor data).map fun parsed =>
    parsed.map fun r => (ofRecord r.1).endpointInfo

section

variable {d : SimpleDescriptor}

theorem length_flatMap_wordBytes (clusters : List UInt16) :
    (clusters.flatMap wordBytes).length = 2 * clusters.length := by
  induction clusters with
  | nil => rfl
  | cons w rest ih =>
    rw [List.flatMap_cons, List.length_append, ih, List.length_cons, wordBytes, List.length_cons,
      List.length_cons, List.length_nil]
    omega

theorem SimpleDescriptor.length_le (d : SimpleDescriptor) :
    d.inClusters.length ≤ 255 ∧ d.outClusters.length ≤ 255 := by
  have hfits := d.fits
  simp only [frameMaxDataLength] at hfits
  omega

theorem SimpleDescriptor.length_body (d : SimpleDescriptor) :
    d.body.length = 8 + 2 * (d.inClusters.length + d.outClusters.length) := by
  simp only [SimpleDescriptor.body, SimpleDescriptor.ids, wordBytes, List.length_append,
    List.length_cons, List.length_nil, length_flatMap_wordBytes]
  omega

theorem length_bytes_scalar (name : String) (kind : Kind) (v : (scalar name kind).type.Value) :
    ((scalar name kind).type.bytes v).length = kind.size :=
  length_bytes_plain v

theorem length_bytes_wordSlice (name : String) (v : (wordSlice name).type.Value) :
    ((wordSlice name).type.bytes v).length = 1 + 2 * min 255 (Option.getD v []).length :=
  length_bytes_slice v

theorem length_bytes_zdoSimpleDescriptor (record : Scf.Record zdoSimpleDescriptor) :
    (Record.bytes zdoSimpleDescriptor record).length =
      17 + 2 * (min 255 (ofRecord record).inClusters.length +
        min 255 (ofRecord record).outClusters.length) := by
  obtain ⟨srcAddr, status, nwkAddr, length, endpoint, profile, device, version, reserved, numIn,
    inClusters, numOut, outClusters, _⟩ := record
  simp only [zdoSimpleDescriptor, Record.bytes, List.length_append, length_bytes_scalar,
    length_bytes_wordSlice, Kind.size, List.length_nil, ofRecord, List.length_map]
  omega

theorem znpSimpleDescriptor_documented (srcAddr nwkAddr : UInt16) {info : EndpointInfo}
    (h : znpSimpleDescriptor (znpPayload .documented srcAddr nwkAddr d) = .ok (some info)) :
    info.inputClusters ≠ d.inClusters ∨ info.outputClusters ≠ d.outClusters := by
  by_contra hsame
  push Not at hsame
  unfold znpSimpleDescriptor at h
  cases hparsed : parseValue "ZdoSimpleDescriptor" zdoSimpleDescriptor
      (znpPayload .documented srcAddr nwkAddr d) with
  | error panic => simp [hparsed, Except.map] at h
  | ok parsed =>
    rcases parsed with _ | ⟨record, rest⟩
    · simp [hparsed, Except.map] at h
    simp only [hparsed, Except.map, Option.map_some, Except.ok.injEq, Option.some.injEq] at h
    subst h
    -- three bytes are missing
    have hlength := parseValue_length (by decide) hparsed
    have hin : (ofRecord record).inClusters = d.inClusters := hsame.1
    have hout : (ofRecord record).outClusters = d.outClusters := hsame.2
    have hlengths := d.length_le
    simp only [length_bytes_zdoSimpleDescriptor, hin, hout, znpPayload, Layout.body, wordBytes,
      List.length_append, List.length_cons, List.length_nil, d.length_body] at hlength
    omega

/-! ## The payload that the struct is for -/

def SimpleDescriptor.record (d : SimpleDescriptor) (srcAddr nwkAddr : UInt16) (reserved : Byte) :
    Scf.Record zdoSimpleDescriptor :=
  (uint16Value srcAddr, uint8Value 0x00, uint16Value nwkAddr,
    uint8Value (UInt8.ofNat (d.structBody reserved).length), uint8Value d.endpoint,
    uint16Value d.profile, uint16Value d.device, uint8Value d.version, uint8Value reserved,
    uint8Value d.inCount, some (d.inClusters.map uint16Value), uint8Value d.outCount,
    some (d.outClusters.map uint16Value), ())

theorem bytes_scalar_uint8 (name : String) (b : Byte) :
    (scalar name .uint8).type.bytes (uint8Value b) = [b] := by
  show [UInt8.ofBitVec (b.toBitVec.setWidth 8)] = [b]
  rw [BitVec.setWidth_eq]

theorem bytes_scalar_uint16 (name : String) (w : UInt16) :
    (scalar name .uint16).type.bytes (uint16Value w) = wordBytes w := rfl

theorem bytes_wordSlice (name : String) {clusters : List UInt16} (h : clusters.length ≤ 255) :
    (wordSlice name).type.bytes (some (clusters.map uint16Value)) =
      UInt8.ofNat clusters.length :: clusters.flatMap wordBytes := by
  have htake : (clusters.map uint16Value).take 255 = clusters.map uint16Value :=
    List.take_of_length_le (by rwa [List.length_map])
  have hwords : (clusters.map uint16Value).flatMap (putLE 2) = clusters.flatMap wordBytes :=
    List.flatMap_map uint16Value (putLE 2) clusters
  show UInt8.ofNat ((clusters.map uint16Value).take 255).length ::
    ((clusters.map uint16Value).take 255).flatMap (putLE 2) = _
  rw [htake, List.length_map, hwords]

theorem bytes_record (srcAddr nwkAddr : UInt16) (reserved : Byte) :
    Record.bytes zdoSimpleDescriptor (d.record srcAddr nwkAddr reserved) =
      znpPayload (.asStruct reserved) srcAddr nwkAddr d := by
  simp only [SimpleDescriptor.record, zdoSimpleDescriptor, Record.bytes, bytes_scalar_uint8,
    bytes_scalar_uint16, bytes_wordSlice _ d.length_le.1, bytes_wordSlice _ d.length_le.2]
  simp only [znpPayload, Layout.body, SimpleDescriptor.structBody, SimpleDescriptor.ids,
    SimpleDescriptor.inCount, SimpleDescriptor.outCount, List.append_assoc, List.cons_append,
    List.nil_append, List.append_nil]

theorem map_uint16Of_uint16Value (clusters : List UInt16) :
    (clusters.map uint16Value).map uint16Of = clusters := by
  have hid : uint16Of ∘ uint16Value = id := rfl
  rw [List.map_map, hid, List.map_id]

theorem znpSimpleDescriptor_asStruct (srcAddr nwkAddr : UInt16) (reserved : Byte) :
    znpSimpleDescriptor (znpPayload (.asStruct reserved) srcAddr nwkAddr d) =
      .ok (some d.info) := by
  have hlengths := d.length_le
  have hshort : Record.Short zdoSimpleDescriptor (d.record srcAddr nwkAddr reserved) := by
    refine ⟨trivial, trivial, trivial, trivial, trivial, trivial, trivial, trivial, trivial,
      trivial, ?_, trivial, ?_, trivial⟩
    · exact (List.length_map _).trans_le hlengths.1
    · exact (List.length_map _).trans_le hlengths.2
  have hparsed : parseValue "ZdoSimpleDescriptor" zdoSimpleDescriptor
      (Record.bytes zdoSimpleDescriptor (d.record srcAddr nwkAddr reserved) ++ []) = _ :=
    parseValue_bytes (by decide) (by decide) hshort []
  rw [List.append_nil, bytes_record] at hparsed
  have hin := map_uint16Of_uint16Value d.inClusters
  have hout := map_uint16Of_uint16Value d.outClusters
  rw [znpSimpleDescriptor, hparsed, SimpleDescriptor.info]
  simp only [Except.map, Option.map_some, Except.ok.injEq, Option.some.injEq]
  exact congrArg₂ (EndpointInfo.mk _ _ _ _) hin hout

/-! ## Ember -/

theorem leUint16_at (before rest : List Byte) (w : UInt16) :
    leUint16 (before ++ (wordBytes w ++ rest)) before.length = w := by
  rw [leUint16, List.getD_append_right _ _ _ _ (Nat.le_add_right _ 1), Nat.add_sub_cancel_left,
    List.getD_append_right _ _ _ _ le_rfl, Nat.sub_self]
  exact word_bytes w

theorem readClusters_succ (sd : List Byte) (off count : Nat) :
    readClusters sd off (count + 1) = leUint16 sd off :: readClusters sd (off + 2) count := by
  rw [readClusters, List.range_succ_eq_map, List.map_cons, List.map_map, Nat.zero_mul, Nat.add_zero]
  refine congrArg _ (List.map_congr_left fun i _ => congrArg (leUint16 sd) ?_)
  show off + (i + 1) * 2 = off + 2 + i * 2
  omega

theorem readClusters_at (before rest : List Byte) (clusters : List UInt16) :
    readClusters (before ++ (clusters.flatMap wordBytes ++ rest)) before.length clusters.length =
      clusters := by
  induction clusters generalizing before with
  | nil => rfl
  | cons w clusters ih =>
    have hnext := ih (before ++ wordBytes w)
    rw [List.append_assoc, List.length_append] at hnext
    rw [List.length_cons, readClusters_succ, List.flatMap_cons, List.append_assoc, leUint16_at]
    exact congrArg _ hnext

theorem and_fifteen {b : Byte} (h : b < 16) : b &&& 0x0F = b := by
  apply UInt8.toNat_inj.mp
  rw [UInt8.toNat_and]
  exact Nat.and_two_pow_sub_one_of_lt_two_pow (n := 4) h

theorem readSimpleDescriptor_emberPayload (sequence : Byte) (nwkAddr : UInt16) :
    readSimpleDescriptor (emberPayload sequence nwkAddr d) = .ok d.info := by
  have hlengths := d.length_le
  have hbody := d.length_body
  have hlength : (emberPayload sequence nwkAddr d).length = 5 + d.body.length := by
    simp only [emberPayload, wordBytes, List.length_append, List.length_cons, List.length_nil]
    omega
  have hin : (d.body.getD 6 0).toNat = d.inClusters.length := count_toNat hlengths.1
  have hsplit : d.body = (d.ids ++ d.inCount :: d.inClusters.flatMap wordBytes) ++
      d.outCount :: d.outClusters.flatMap wordBytes := rfl
  have hfirst : (d.ids ++ d.inCount :: d.inClusters.flatMap wordBytes).length =
      7 + d.inClusters.length * 2 := by
    simp only [SimpleDescriptor.ids, wordBytes, List.length_append, List.length_cons,
      List.length_nil, length_flatMap_wordBytes]
    omega
  have hout : (d.body.getD (7 + d.inClusters.length * 2) 0).toNat = d.outClusters.length := by
    rw [hsplit, ← hfirst, List.getD_append_right _ _ _ _ le_rfl, Nat.sub_self]
    exact count_toNat hlengths.2
  have hins : readClusters d.body 7 d.inClusters.length = d.inClusters := by
    have hat := readClusters_at (d.ids ++ [d.inCount])
      (d.outCount :: d.outClusters.flatMap wordBytes) d.inClusters
    rwa [List.append_assoc, List.singleton_append, ← List.cons_append, ← List.append_assoc] at hat
  have houts : readClusters d.body (7 + d.inClusters.length * 2 + 1) d.outClusters.length =
      d.outClusters := by
    have hat := readClusters_at
      ((d.ids ++ d.inCount :: d.inClusters.flatMap wordBytes) ++ [d.outCount]) [] d.outClusters
    rwa [List.append_nil, List.length_append, hfirst, List.append_assoc,
      List.singleton_append] at hat
  have hdrop : (emberPayload sequence nwkAddr d).drop 5 = d.body := rfl
  have hstatus : (emberPayload sequence nwkAddr d).getD 1 0 = 0x00 := rfl
  have hprofile : leUint16 d.body 1 = d.profile := word_bytes d.profile
  have hdevice : leUint16 d.body 3 = d.device := word_bytes d.device
  have hversion : d.body.getD 5 0 &&& 0x0F = d.version := and_fifteen d.version_lt
  rw [readSimpleDescriptor, if_neg (by omega), if_neg (not_not.mpr hstatus), if_neg (by omega),
    hdrop]
  dsimp only
  rw [if_neg (by omega), hin, if_neg (by omega), hout, if_neg (by omega), hins, houts, hprofile,
    hdevice, hversion]
  rfl

end

/-- **Simple descriptors on the two stacks.**  Ember decodes every descriptor from the
documented body.  The ZNP struct decodes it exactly if the body has a reserved byte behind the
version and each count twice, as the documented one has not. -/
theorem simpleDescriptor_decoded_iff (d : SimpleDescriptor) (sequence : Byte)
    (srcAddr nwkAddr : UInt16) (layout : Layout) :
    readSimpleDescriptor (emberPayload sequence nwkAddr d) = .ok d.info ∧
      (znpSimpleDescriptor (znpPayload layout srcAddr nwkAddr d) = .ok (some d.info) ↔
        layout ≠ .documented) := by
  refine ⟨readSimpleDescriptor_emberPayload sequence nwkAddr, ?_⟩
  cases layout with
  | documented =>
    refine iff_of_false (fun h => ?_) (not_not.mpr rfl)
    rcases znpSimpleDescriptor_documented srcAddr nwkAddr h with hin | hout
    · exact hin rfl
    · exact hout rfl
  | asStruct reserved =>
    exact iff_of_true (znpSimpleDescriptor_asStruct srcAddr nwkAddr reserved) nofun

/-- A lamp with Basic, Identify and On/Off, a plug with On/Off and a thermostat with Fan
Control. -/
def threeInputs : SimpleDescriptor where
  endpoint := 1
  profile := 0x0104
  device := 0x0100
  version := 1
  inClusters := [0x0000, 0x0003, 0x0006]
  outClusters := []
  version_lt := by decide
  fits := by decide

def oneInput (cluster : UInt16) : SimpleDescriptor :=
  { threeInputs with
    inClusters := [cluster]
    fits := (by decide : 14 + 2 * (1 + 0) ≤ 250) }

/-- The first loses its clusters, the second is no command, the third ends the program. -/
theorem threeInputs_lost :
    znpSimpleDescriptor (znpPayload .documented 0x1234 0x1234 threeInputs) =
        .ok (some { threeInputs.info with inputClusters := [], outputClusters := [] }) ∧
      znpSimpleDescriptor (znpPayload .documented 0x1234 0x1234 (oneInput 0x0006)) = .ok none ∧
      znpSimpleDescriptor (znpPayload .documented 0x1234 0x1234 (oneInput 0x0202)) =
        .error (.index 1 1) := by
  refine ⟨rfl, rfl, rfl⟩

end IotController.Dongle
