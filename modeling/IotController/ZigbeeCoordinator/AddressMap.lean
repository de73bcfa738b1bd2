/-
  Where a command is sent
  (`handleDeviceJoin` and `starting` in
  `modules/zigbeecoordinator/zigbeecoordinator.go`, `SendCommand` in
  `modules/zigbeecoordinator/commands.go`, the map file of
  `pkg/zigbee-dongle/state.go`).

  A device has a long address of its own and a short one that it is given each time it
  joins.  Commands name the long address and are sent to the short one.  The coordinator
  keeps a map in each direction.  A join adds to both and takes nothing out, is passed over
  while the short address is being interviewed, and is saved on its own thread; a restart
  reads back what was saved last.
-/
import IotController.Compute.Fade
import IotController.Foundation.Numerals
import IotController.Foundation.Run

namespace IotController.ZigbeeCoordinator

open Foundation

/-! ## Addresses -/

abbrev NWK : Type := UInt16

abbrev IEEE : Type := UInt64

def hex16 (ieee : IEEE) : String := String.ofList (hexDigits 16 ieee.toNat)

def trim0x (s : String) : String :=
  match s.toList with
  | '0' :: 'x' :: rest => String.ofList rest
  | _ => s

def normalize (ieee : String) : String := String.ofList ((trim0x ieee).toList.map Compute.toLower)

theorem hex16_injective : Function.Injective hex16 := by
  intro a b h
  have hlist : hexDigits 16 a.toNat = hexDigits 16 b.toNat := by
    simpa [hex16] using congrArg String.toList h
  have hbound : ∀ u : IEEE, u.toNat < 16 ^ 16 := fun u => by
    have hlt := u.toNat_lt
    norm_num at hlt ⊢
    exact hlt
  exact UInt64.toNat.inj (hexDigits_injective (hbound a) (hbound b) hlist)

theorem normalize_hex16 (ieee : IEEE) : normalize (hex16 ieee) = hex16 ieee := by
  have hdigit : ∀ d : Fin 16, Nat.digitChar d ≠ 'x' ∧
      Compute.toLower (Nat.digitChar d) = Nat.digitChar d := by decide
  have hchars : ∀ c ∈ hexDigits 16 ieee.toNat, c ≠ 'x' ∧ Compute.toLower c = c :=
    fun c hc => @forall_mem_hexDigits (fun c => c ≠ 'x' ∧ Compute.toLower c = c) hdigit _ _ c hc
  have hlist : (hex16 ieee).toList = hexDigits 16 ieee.toNat := by simp [hex16]
  have htrim : trim0x (hex16 ieee) = hex16 ieee := by
    unfold trim0x
    split
    · rename_i rest heq
      have hx : 'x' ∈ hexDigits 16 ieee.toNat := by
        rw [← hlist, heq]
        simp
      exact absurd rfl (hchars 'x' hx).1
    · rfl
  have hlower : (hexDigits 16 ieee.toNat).map Compute.toLower = hexDigits 16 ieee.toNat := by
    conv_rhs => rw [← List.map_id (hexDigits 16 ieee.toNat)]
    exact List.map_congr_left fun c hc => (hchars c hc).2
  rw [normalize, htrim, hlist, hlower]
  rfl

variable (range : MapOrder)

def saveNWKMap (m : GoMap NWK IEEE) : List (NWK × IEEE) :=
  (range.order 0 m.entries).map fun e => (e.1, e.2)

/-- A file that is not there counts as an empty one. -/
def loadNWKMap (file : Option (List (NWK × IEEE))) : GoMap NWK IEEE :=
  GoMap.ofList (file.getD [])

def reverseMap (m : GoMap NWK IEEE) : GoMap String NWK :=
  GoMap.ofList ((range.order 0 m.entries).map fun e => (hex16 e.2, e.1))

theorem lookup_reverseMap {m : GoMap NWK IEEE}
    (hinj : ∀ n n' ieee, m.lookup n = some ieee → m.lookup n' = some ieee → n = n') (key : String)
    (nwk : NWK) :
    (reverseMap range m).lookup key = some nwk ↔
      ∃ ieee, hex16 ieee = key ∧ m.lookup nwk = some ieee := by
  have hkeys : (((range.order 0 m.entries).map fun e => (hex16 e.2, e.1)).map Prod.fst).Nodup := by
    rw [List.map_map]
    refine List.Nodup.map_on ?_ ?_
    · rintro ⟨n, u⟩ he ⟨n', u'⟩ he' heq
      obtain rfl : u = u' := hex16_injective heq
      have hn := (GoMap.lookup_eq_some_iff_mem m n u).mpr ((range.mem_order_iff 0).mp he)
      have hn' := (GoMap.lookup_eq_some_iff_mem m n' u).mpr ((range.mem_order_iff 0).mp he')
      rw [hinj n n' u hn hn']
    · exact (range.perm 0 m.entries).nodup_iff.mpr (List.NodupKeys.nodup m.nodupKeys)
  unfold reverseMap
  rw [GoMap.lookup_ofList hkeys]
  simp only [List.mem_map, range.mem_order_iff, Prod.mk.injEq, GoMap.lookup_eq_some_iff_mem]
  constructor
  · rintro ⟨⟨n, u⟩, he, rfl, rfl⟩
    exact ⟨u, rfl, he⟩
  · rintro ⟨u, rfl, he⟩
    exact ⟨⟨nwk, u⟩, he, rfl, rfl⟩

/-! ## The coordinator -/

/-- A join being handled: the address to interview, and the copy of the map yet to be saved. -/
structure JoinJob where
  nwk : NWK
  snapshot : Option (GoMap NWK IEEE)

/-- The part of `ZigbeeCoordinator` that belongs to addresses, with the map file. -/
structure Coordinator where
  stateFile : Bool
  nwkToIEEE : GoMap NWK IEEE := ∅
  ieeeToNWK : GoMap String NWK := ∅
  interviewing : GoMap NWK Bool := ∅
  jobs : GoMap Nat JoinJob := ∅
  nextJob : Nat := 0
  cmdSequence : UInt32 := 0
  file : Option (List (NWK × IEEE)) := none
  joins : List (NWK × IEEE) := []

namespace Coordinator

def isInterviewing (s : Coordinator) (nwk : NWK) : Bool := (s.interviewing.lookup nwk).getD false

/-- `handleDeviceJoin`, up to where its maps are stored. -/
def handleDeviceJoin (nwk : NWK) (ieee : IEEE) (s : Coordinator) : Coordinator :=
  let s := { s with joins := (nwk, ieee) :: s.joins }
  if s.isInterviewing nwk then s
  else
    let nwkToIEEE := s.nwkToIEEE.insert nwk ieee
    { s with
      interviewing := s.interviewing.insert nwk true
      nwkToIEEE := nwkToIEEE
      ieeeToNWK := s.ieeeToNWK.insert (hex16 ieee) nwk
      jobs := s.jobs.insert s.nextJob ⟨nwk, if s.stateFile then some nwkToIEEE else none⟩
      nextJob := s.nextJob + 1 }

/-- A join saves its copy of the map; a failure is logged. -/
def saveSnapshot (succeeds : Bool) (id : Nat) (s : Coordinator) : Coordinator :=
  match s.jobs.lookup id with
  | none => s
  | some job =>
    match job.snapshot with
    | none => s
    | some snapshot =>
      { s with
        file := if succeeds then some (saveNWKMap range snapshot) else s.file
        jobs := s.jobs.insert id { job with snapshot := none } }

def finishInterview (id : Nat) (s : Coordinator) : Coordinator :=
  match s.jobs.lookup id with
  | none => s
  | some job =>
    match job.snapshot with
    | some _ => s
    | none => { s with jobs := s.jobs.erase id, interviewing := s.interviewing.erase job.nwk }

def loaded (s : Coordinator) (readable : Bool) : GoMap NWK IEEE :=
  if s.stateFile && readable then loadNWKMap s.file else ∅

def restart (readable : Bool) (s : Coordinator) : Coordinator :=
  { stateFile := s.stateFile
    nwkToIEEE := s.loaded readable
    ieeeToNWK := reverseMap range (s.loaded readable)
    file := s.file
    joins := s.joins }

def lookupNWK (s : Coordinator) (ieee : String) : Option NWK := s.ieeeToNWK.lookup (normalize ieee)

end Coordinator

/-! ## SendCommand -/

/-- The commands of the RPC. -/
inductive ZigbeeCommand where
  | on
  | off
  | toggle
  | setBrightness (level transitionTime : UInt32)
  | setColorTemp (colorTemperatureMired transitionTime : UInt32)
  deriving DecidableEq

/-- The message of the RPC. -/
structure SendCommandRequest where
  ieeeAddress : String
  endpoint : UInt32 := 0
  command : Option ZigbeeCommand

/-- Its answer. -/
structure SendCommandResponse where
  success : Bool := false
  error : String := ""
  deriving DecidableEq

/-- `OutgoingMessage`, to a short address. -/
structure OutgoingMessage where
  short : NWK
  sourceEndpoint : UInt8
  destinationEndpoint : UInt8
  clusterID : UInt16
  radius : UInt8
  data : List UInt8
  deriving DecidableEq

def littleEndian (v : UInt16) : List UInt8 := [v.toUInt8, (v >>> 8).toUInt8]

/-- The transition time on the wire, 0.8 s when there is none. -/
def transition (t : UInt32) : UInt16 := if t.toUInt16 = 0 then 8 else t.toUInt16

def zclFrame (seq : UInt8) : ZigbeeCommand → UInt16 × List UInt8
  | .on => (0x0006, [0x01, seq, 0x01])
  | .off => (0x0006, [0x01, seq, 0x00])
  | .toggle => (0x0006, [0x01, seq, 0x02])
  | .setBrightness level t =>
    (0x0008, [0x01, seq, 0x04, level.toUInt8] ++ littleEndian (transition t))
  | .setColorTemp mired t =>
    (0x0300, [0x01, seq, 0x0A] ++ littleEndian mired.toUInt16 ++ littleEndian (transition t))

/-- The response and the message given to the dongle, whose error is `answer`. -/
def sendCommand (answer : Option String) (req : SendCommandRequest) (s : Coordinator) :
    Coordinator × SendCommandResponse × Option OutgoingMessage :=
  if req.ieeeAddress = "" then (s, { error := "ieee_address required" }, none)
  else
    match s.lookupNWK req.ieeeAddress with
    | none =>
      (s, { error := "device " ++ req.ieeeAddress.quote ++
        " not found in NWK map (not yet joined or interviewed)" }, none)
    | some nwk =>
      let s := { s with cmdSequence := s.cmdSequence + 1 }
      match req.command with
      | none => (s, { error := "no command specified" }, none)
      | some command =>
        let frame := zclFrame s.cmdSequence.toUInt8 command
        let message : OutgoingMessage :=
          { short := nwk
            sourceEndpoint := 1
            destinationEndpoint := if req.endpoint.toUInt8 = 0 then 1 else req.endpoint.toUInt8
            clusterID := frame.1
            radius := 30
            data := frame.2 }
        match answer with
        | some err => (s, { error := err }, some message)
        | none => (s, { success := true }, some message)

theorem short_sendCommand (answer : Option String) {req : SendCommandRequest} (s : Coordinator)
    (haddress : req.ieeeAddress ≠ "") (hcommand : req.command ≠ none) :
    (sendCommand answer req s).2.2.map OutgoingMessage.short = s.lookupNWK req.ieeeAddress := by
  obtain ⟨command, hcommand⟩ := Option.ne_none_iff_exists'.mp hcommand
  unfold sendCommand
  rw [if_neg haddress]
  cases s.lookupNWK req.ieeeAddress with
  | none => rfl
  | some =>
    rw [hcommand]
    cases answer with
    | none | some => rfl

/-! ## Where the devices are -/

def lastJoin (joins : List (NWK × IEEE)) (ieee : IEEE) : Option NWK :=
  (joins.find? fun j => j.2 = ieee).map Prod.fst

def holder (joins : List (NWK × IEEE)) (nwk : NWK) : Option IEEE :=
  (joins.find? fun j => j.1 = nwk).map Prod.snd

/-- A device's short address: of its last join, unless another has since joined under it. -/
def whereabouts (joins : List (NWK × IEEE)) (ieee : IEEE) : Option NWK :=
  (lastJoin joins ieee).filter fun nwk => holder joins nwk = some ieee

theorem whereabouts_eq_some_iff (joins : List (NWK × IEEE)) (ieee : IEEE) (nwk : NWK) :
    whereabouts joins ieee = some nwk ↔
      lastJoin joins ieee = some nwk ∧ holder joins nwk = some ieee := by
  simp [whereabouts, Option.filter_eq_some_iff]

theorem whereabouts_cons_self (joins : List (NWK × IEEE)) (nwk : NWK) (ieee : IEEE) :
    whereabouts ((nwk, ieee) :: joins) ieee = some nwk := by
  rw [whereabouts_eq_some_iff]
  simp [lastJoin, holder]

theorem whereabouts_cons_of_ne (joins : List (NWK × IEEE)) (nwk : NWK) {ieee other : IEEE}
    (h : other ≠ ieee) (n : NWK) :
    whereabouts ((nwk, ieee) :: joins) other = some n ↔
      whereabouts joins other = some n ∧ n ≠ nwk := by
  have hlast : lastJoin ((nwk, ieee) :: joins) other = lastJoin joins other := by
    simp [lastJoin, h.symm]
  rw [whereabouts_eq_some_iff, whereabouts_eq_some_iff, hlast]
  by_cases hn : n = nwk
  · have hholder : holder ((nwk, ieee) :: joins) n = some ieee := by simp [holder, hn]
    rw [hholder]
    exact iff_of_false (fun hboth => h (Option.some.inj hboth.2).symm) fun hboth => hboth.2 hn
  · have hholder : holder ((nwk, ieee) :: joins) n = holder joins n := by
      simp [holder, Ne.symm hn]
    rw [hholder]
    exact ⟨fun hboth => ⟨hboth, hn⟩, fun hboth => hboth.1⟩

/-! ## Steps -/

/-- A step of the coordinator. -/
inductive AddressAction where
  | join (nwk : NWK) (ieee : IEEE)
  | save (range : MapOrder) (succeeds : Bool) (id : Nat)
  | finish (id : Nat)
  | send (answer : Option String) (req : SendCommandRequest)
  | restart (range : MapOrder) (readable : Bool)

def addressStep (s : Coordinator) : AddressAction → Coordinator
  | .join nwk ieee => s.handleDeviceJoin nwk ieee
  | .save range succeeds id => s.saveSnapshot range succeeds id
  | .finish id => s.finishInterview id
  | .send answer req => (sendCommand answer req s).1
  | .restart range readable => s.restart range readable

/-- The two maps are inverse to each other. -/
def MutuallyInverse (s : Coordinator) : Prop :=
  ∀ key nwk, s.ieeeToNWK.lookup key = some nwk ↔
    ∃ ieee, hex16 ieee = key ∧ s.nwkToIEEE.lookup nwk = some ieee

/-- A command goes to where its device is, however the address is written, and nowhere if it is
nowhere. -/
def ReachesDevices (s : Coordinator) : Prop :=
  ∀ (answer : Option String) (req : SendCommandRequest) (ieee : IEEE),
    req.ieeeAddress ≠ "" → normalize req.ieeeAddress = hex16 ieee → req.command ≠ none →
      (sendCommand answer req s).2.2.map OutgoingMessage.short = whereabouts s.joins ieee

/-- Commands arrive, and the maps are inverse. -/
structure AddressesRight (s : Coordinator) : Prop where
  reaches : ReachesDevices s
  inverse : MutuallyInverse s

/-- A join pairs no device and no short address a second time, and is passed over only if
stored; a restart reads the map there was. -/
def Unambiguous (s : Coordinator) : AddressAction → Prop
  | .join nwk ieee =>
    (∀ n, s.ieeeToNWK.lookup (hex16 ieee) = some n → n = nwk) ∧
      (∀ other, s.nwkToIEEE.lookup nwk = some other → other = ieee) ∧
      (s.isInterviewing nwk = true → s.nwkToIEEE.lookup nwk = some ieee)
  | .restart _ readable => ∀ nwk, (s.loaded readable).lookup nwk = s.nwkToIEEE.lookup nwk
  | _ => True

/-! ## One step -/

section Steps

variable {s : Coordinator}

theorem hex16_ne_empty (ieee : IEEE) : hex16 ieee ≠ "" := by
  intro h
  have hlength := congrArg (fun t => t.toList.length) h
  simp [hex16, hexDigits] at hlength

theorem reachesDevices_iff :
    ReachesDevices s ↔ ∀ ieee, s.ieeeToNWK.lookup (hex16 ieee) = whereabouts s.joins ieee := by
  constructor
  · intro h ieee
    have hsent := h none ⟨hex16 ieee, 0, some .on⟩ ieee (hex16_ne_empty ieee)
      (normalize_hex16 ieee) (by simp)
    rw [short_sendCommand none s (hex16_ne_empty ieee) (by simp)] at hsent
    rw [← hsent, Coordinator.lookupNWK, normalize_hex16]
  · intro h answer req ieee haddress hdenotes hcommand
    rw [short_sendCommand answer s haddress hcommand, Coordinator.lookupNWK, hdenotes, h]

theorem addressesRight_congr {s' : Coordinator} (hnwk : s'.nwkToIEEE = s.nwkToIEEE)
    (hieee : s'.ieeeToNWK = s.ieeeToNWK) (hjoins : s'.joins = s.joins) (h : AddressesRight s) :
    AddressesRight s' := by
  refine ⟨reachesDevices_iff.mpr fun ieee => ?_, fun key nwk => ?_⟩
  · rw [hieee, hjoins]
    exact reachesDevices_iff.mp h.reaches ieee
  · rw [hieee, hnwk]
    exact h.inverse key nwk

variable (h : AddressesRight s)
include h

theorem AddressesRight.lookup_iff (nwk : NWK) (ieee : IEEE) :
    s.ieeeToNWK.lookup (hex16 ieee) = some nwk ↔ s.nwkToIEEE.lookup nwk = some ieee := by
  rw [h.inverse]
  constructor
  · rintro ⟨other, hother, hlookup⟩
    rwa [hex16_injective hother] at hlookup
  · exact fun hlookup => ⟨ieee, rfl, hlookup⟩

theorem AddressesRight.lookup_of_join {nwk : NWK} {ieee other : IEEE}
    (hne : other ≠ ieee) (hfree : s.nwkToIEEE.lookup nwk ≠ some other) :
    s.ieeeToNWK.lookup (hex16 other) = whereabouts ((nwk, ieee) :: s.joins) other := by
  refine Option.ext fun n => ?_
  rw [whereabouts_cons_of_ne _ _ hne, ← reachesDevices_iff.mp h.reaches other]
  refine ⟨fun hn => ⟨hn, fun hsame => hfree ?_⟩, And.left⟩
  rwa [hsame, h.lookup_iff] at hn

theorem addressesRight_skipped_iff (nwk : NWK) (ieee : IEEE) :
    AddressesRight { s with joins := (nwk, ieee) :: s.joins } ↔
      s.nwkToIEEE.lookup nwk = some ieee := by
  constructor
  · intro hafter
    have hself : s.ieeeToNWK.lookup (hex16 ieee) = some nwk :=
      (reachesDevices_iff.mp hafter.reaches ieee).trans (whereabouts_cons_self s.joins nwk ieee)
    exact (h.lookup_iff nwk ieee).mp hself
  · intro hstored
    refine ⟨reachesDevices_iff.mpr fun other => ?_, h.inverse⟩
    show s.ieeeToNWK.lookup (hex16 other) = whereabouts ((nwk, ieee) :: s.joins) other
    by_cases hother : other = ieee
    · rw [hother, whereabouts_cons_self]
      exact (h.lookup_iff nwk ieee).mpr hstored
    · refine h.lookup_of_join hother fun hheld => hother ?_
      exact Option.some.inj (hheld.symm.trans hstored)

/-! ### A join that is stored -/

section Stored

variable {s' : Coordinator} {nwk : NWK} {ieee : IEEE}
  (hnwk : ∀ n, s'.nwkToIEEE.lookup n = if n = nwk then some ieee else s.nwkToIEEE.lookup n)
  (hieee : ∀ key, s'.ieeeToNWK.lookup key =
    if key = hex16 ieee then some nwk else s.ieeeToNWK.lookup key)

include hnwk hieee

theorem AddressesRight.device_fresh (hafter : AddressesRight s') (n : NWK)
    (hn : s.ieeeToNWK.lookup (hex16 ieee) = some n) : n = nwk := by
  by_contra hne
  have hold : s'.nwkToIEEE.lookup n = some ieee := by
    rw [hnwk, if_neg hne]
    exact (h.lookup_iff n ieee).mp hn
  have hnew := (hafter.lookup_iff n ieee).mpr hold
  rw [hieee, if_pos rfl] at hnew
  exact hne (Option.some.inj hnew).symm

theorem AddressesRight.address_fresh (hafter : AddressesRight s')
    (other : IEEE) (hother : s.nwkToIEEE.lookup nwk = some other) : other = ieee := by
  by_contra hne
  have hold : s'.ieeeToNWK.lookup (hex16 other) = some nwk := by
    rw [hieee, if_neg fun heq => hne (hex16_injective heq)]
    exact (h.lookup_iff nwk other).mpr hother
  have hnew := (hafter.lookup_iff nwk other).mp hold
  rw [hnwk, if_pos rfl] at hnew
  exact hne (Option.some.inj hnew).symm

theorem AddressesRight.inverse_stored
    (hdevice : ∀ n, s.ieeeToNWK.lookup (hex16 ieee) = some n → n = nwk)
    (haddress : ∀ other, s.nwkToIEEE.lookup nwk = some other → other = ieee) :
    MutuallyInverse s' := by
  intro key n
  rw [hieee]
  by_cases hkey : key = hex16 ieee
  · rw [if_pos hkey]
    constructor
    · intro hn
      obtain rfl := Option.some.inj hn
      exact ⟨ieee, hkey.symm, by rw [hnwk, if_pos rfl]⟩
    · rintro ⟨other, hother, hn⟩
      obtain rfl : other = ieee := hex16_injective (hother.trans hkey)
      rw [hnwk] at hn
      split_ifs at hn with hsame
      · rw [hsame]
      · rw [hdevice n ((h.lookup_iff n other).mpr hn)]
  · rw [if_neg hkey, h.inverse]
    refine exists_congr fun other => and_congr_right fun hother => ?_
    have hne : other ≠ ieee := fun heq => hkey (heq ▸ hother.symm)
    rw [hnwk]
    split_ifs with hsame
    · rw [hsame]
      exact iff_of_false (fun hn => hne (haddress other hn)) fun hn => hne (Option.some.inj hn).symm
    · exact Iff.rfl

theorem addressesRight_stored_iff (hjoins : s'.joins = (nwk, ieee) :: s.joins) :
    AddressesRight s' ↔
      (∀ n, s.ieeeToNWK.lookup (hex16 ieee) = some n → n = nwk) ∧
        ∀ other, s.nwkToIEEE.lookup nwk = some other → other = ieee := by
  constructor
  · exact fun hafter => ⟨h.device_fresh hnwk hieee hafter, h.address_fresh hnwk hieee hafter⟩
  · rintro ⟨hdevice, haddress⟩
    refine ⟨reachesDevices_iff.mpr fun other => ?_, h.inverse_stored hnwk hieee hdevice haddress⟩
    rw [hjoins, hieee]
    by_cases hother : other = ieee
    · rw [hother, if_pos rfl, whereabouts_cons_self]
    · rw [if_neg fun heq => hother (hex16_injective heq)]
      exact h.lookup_of_join hother fun hheld => hother (haddress other hheld)

end Stored

theorem addressesRight_join_iff (nwk : NWK) (ieee : IEEE) :
    AddressesRight (s.handleDeviceJoin nwk ieee) ↔ Unambiguous s (.join nwk ieee) := by
  show _ ↔ (∀ n, s.ieeeToNWK.lookup (hex16 ieee) = some n → n = nwk) ∧
    (∀ other, s.nwkToIEEE.lookup nwk = some other → other = ieee) ∧
    (s.isInterviewing nwk = true → s.nwkToIEEE.lookup nwk = some ieee)
  by_cases hbusy : s.isInterviewing nwk = true
  · have hskip : s.handleDeviceJoin nwk ieee = { s with joins := (nwk, ieee) :: s.joins } :=
      if_pos hbusy
    rw [hskip, addressesRight_skipped_iff h]
    constructor
    · intro hstored
      refine ⟨fun n hn => ?_, fun other hother => ?_, fun _ => hstored⟩
      · rw [(h.lookup_iff nwk ieee).mpr hstored] at hn
        exact (Option.some.inj hn).symm
      · rw [hstored] at hother
        exact (Option.some.inj hother).symm
    · exact fun hclear => hclear.2.2 hbusy
  · have hnwk : (s.handleDeviceJoin nwk ieee).nwkToIEEE = s.nwkToIEEE.insert nwk ieee :=
      congrArg Coordinator.nwkToIEEE (if_neg hbusy)
    have hieee : (s.handleDeviceJoin nwk ieee).ieeeToNWK =
        s.ieeeToNWK.insert (hex16 ieee) nwk := congrArg Coordinator.ieeeToNWK (if_neg hbusy)
    have hjoins : (s.handleDeviceJoin nwk ieee).joins = (nwk, ieee) :: s.joins :=
      congrArg Coordinator.joins (if_neg hbusy)
    rw [addressesRight_stored_iff h (fun n => by rw [hnwk, GoMap.lookup_insert_eq])
      (fun key => by rw [hieee, GoMap.lookup_insert_eq]) hjoins]
    exact ⟨fun hclear => ⟨hclear.1, hclear.2, fun hyes => absurd hyes hbusy⟩,
      fun hclear => ⟨hclear.1, hclear.2.1⟩⟩

theorem addressesRight_restart_iff (range : MapOrder) (readable : Bool) :
    AddressesRight (s.restart range readable) ↔
      ∀ nwk, (s.loaded readable).lookup nwk = s.nwkToIEEE.lookup nwk := by
  constructor
  · intro hafter nwk
    refine Option.ext fun ieee => ?_
    show (s.restart range readable).nwkToIEEE.lookup nwk = some ieee ↔ _
    rw [← hafter.lookup_iff, ← h.lookup_iff, reachesDevices_iff.mp hafter.reaches,
      reachesDevices_iff.mp h.reaches]
    rfl
  · intro hsame
    have hinj : ∀ n n' ieee, (s.loaded readable).lookup n = some ieee →
        (s.loaded readable).lookup n' = some ieee → n = n' := by
      intro n n' ieee hn hn'
      rw [hsame, ← h.lookup_iff] at hn hn'
      exact Option.some.inj (hn.symm.trans hn')
    have hreverse := lookup_reverseMap range hinj
    have hkeys : ∀ key nwk, (s.restart range readable).ieeeToNWK.lookup key = some nwk ↔
        s.ieeeToNWK.lookup key = some nwk := by
      intro key nwk
      rw [h.inverse, ← hsame]
      exact hreverse key nwk
    refine ⟨reachesDevices_iff.mpr fun ieee => ?_, hreverse⟩
    show _ = whereabouts s.joins ieee
    rw [← reachesDevices_iff.mp h.reaches ieee]
    exact Option.ext fun nwk => hkeys (hex16 ieee) nwk

theorem AddressesRight.saveSnapshot (range : MapOrder) (succeeds : Bool)
    (id : Nat) : AddressesRight (s.saveSnapshot range succeeds id) := by
  unfold Coordinator.saveSnapshot
  cases s.jobs.lookup id with
  | none => exact h
  | some job =>
    dsimp only
    cases job.snapshot with
    | none => exact h
    | some => exact addressesRight_congr (s := s) rfl rfl rfl h

theorem AddressesRight.finishInterview (id : Nat) :
    AddressesRight (s.finishInterview id) := by
  unfold Coordinator.finishInterview
  cases s.jobs.lookup id with
  | none => exact h
  | some job =>
    dsimp only
    cases job.snapshot with
    | none => exact addressesRight_congr (s := s) rfl rfl rfl h
    | some => exact h

theorem AddressesRight.sendCommand (answer : Option String)
    (req : SendCommandRequest) : AddressesRight (sendCommand answer req s).1 := by
  have hcounted : AddressesRight { s with cmdSequence := s.cmdSequence + 1 } :=
    addressesRight_congr (s := s) rfl rfl rfl h
  unfold ZigbeeCoordinator.sendCommand
  by_cases haddress : req.ieeeAddress = ""
  · rw [if_pos haddress]
    exact h
  · rw [if_neg haddress]
    cases s.lookupNWK req.ieeeAddress with
    | none => exact h
    | some =>
      dsimp only
      cases req.command with
      | none => exact hcounted
      | some =>
        cases answer with
        | none | some => exact hcounted

/-- **One step.**  A step keeps the addresses right exactly when it is
unambiguous. -/
theorem addressesRight_step_iff (a : AddressAction) :
    AddressesRight (addressStep s a) ↔ Unambiguous s a := by
  cases a with
  | join nwk ieee => exact addressesRight_join_iff h nwk ieee
  | save range succeeds id => exact iff_of_true (h.saveSnapshot range succeeds id) trivial
  | finish id => exact iff_of_true (h.finishInterview id) trivial
  | send answer req => exact iff_of_true (h.sendCommand answer req) trivial
  | restart range readable => exact addressesRight_restart_iff h range readable

end Steps

/-- **Do commands reach the right device?**  Every command goes to where its device is and the
maps are inverse, exactly when every step is unambiguous. -/
theorem commands_reach_devices_iff (stateFile : Bool) (actions : List AddressAction) :
    (∀ n, AddressesRight (run addressStep { stateFile := stateFile } (actions.take n))) ↔
      Along addressStep Unambiguous { stateFile := stateFile } actions := by
  have hstep : ∀ s, ∀ a ∈ actions, AddressesRight s →
      (AddressesRight (addressStep s a) ↔ Unambiguous s a) :=
    fun s a _ h => addressesRight_step_iff h a
  refine invariant_iff_along hstep ⟨reachesDevices_iff.mpr fun ieee => rfl, fun key nwk => ?_⟩
  exact iff_of_false (by simp) (by simp)

/-- A device joins under another's short address: commands for the first go to the second. -/
theorem reused_address_misdirected :
    let s := run addressStep { stateFile := false }
      [.join 0x1000 0xa1, .finish 0, .join 0x1000 0xb2, .finish 1]
    holder s.joins 0x1000 = some 0xb2 ∧
      (sendCommand none ⟨"0x00000000000000a1", 1, some .off⟩ s).2 =
        ({ success := true }, some ⟨0x1000, 1, 1, 0x0006, 30, [0x01, 1, 0x00]⟩) ∧
      ¬ AddressesRight s := by
  have hlast : (run addressStep { stateFile := false }
      [.join 0x1000 0xa1, .finish 0, .join 0x1000 0xb2, .finish 1]).ieeeToNWK.lookup
        (hex16 0xa1) = some 0x1000 := by decide +kernel
  refine ⟨by decide +kernel, by decide +kernel, fun h => ?_⟩
  have hright := reachesDevices_iff.mp h.reaches 0xa1
  rw [hlast] at hright
  exact absurd hright (by decide +kernel)

/-! ## The map file

A save writes a temporary file and renames it.  All saves use one temporary name, so that one
can empty the file that another is about to rename, and write into it behind the rename. -/

namespace MapFile

/-- The name that an open file has now. -/
inductive Place where
  | tmp
  | map
  | gone

/-- Where a save stands. -/
inductive Phase where
  | opened (file : Place)
  | written

/-- The two files, and the saves under way. -/
structure State where
  tmp : Option (List UInt8) := none
  map : Option (List UInt8) := none
  saves : Nat → Option (List UInt8 × Phase) := fun _ => none
  /-- the text of the last save that returned no error -/
  last : Option (List UInt8) := none

/-- A step of a save. -/
inductive Action where
  | create (t : Nat) (data : List UInt8)
  /-- `n` bytes of the data get into the file; fewer than all are an error -/
  | write (t n : Nat)
  | rename (t : Nat) (succeeds : Bool)

def Phase.follow (moved : Place → Place) : Phase → Phase
  | opened file => opened (moved file)
  | written => written

/-- Thread `t` goes on, and the files that the others have open get other names. -/
def State.become (s : State) (t : Nat) (save : Option (List UInt8 × Phase))
    (moved : Place → Place) : State :=
  { s with
    saves := fun u => if u = t then save else (s.saves u).map (Prod.map id (Phase.follow moved)) }

def overwrite (data : List UInt8) (n : Nat) (text : List UInt8) : List UInt8 :=
  data.take n ++ text.drop (data.take n).length

/-- One step of a save. -/
def step (s : State) : Action → State
  | .create t data =>
    match s.saves t with
    | some _ => s
    | none => { s with tmp := some [] }.become t (some (data, .opened .tmp)) id
  | .write t n =>
    match s.saves t with
    | some (data, .opened file) =>
      let s :=
        match file with
        | .tmp => { s with tmp := s.tmp.map (overwrite data n) }
        | .map => { s with map := s.map.map (overwrite data n) }
        | .gone => s
      s.become t (if data.length ≤ n then some (data, .written) else none) id
    | _ => s
  | .rename t succeeds =>
    match s.saves t, s.tmp, succeeds with
    | some (data, .written), some text, true =>
      { s with tmp := none, map := some text, last := some data }.become t none fun
        | .tmp => .map
        | _ => .gone
    -- the temporary file is removed when it cannot be renamed
    | some (_, .written), _, _ =>
      { s with tmp := none }.become t none fun
        | .tmp => .gone
        | file => file
    | _, _, _ => s

/-- No other save is under way. -/
def Alone (s : State) : Action → Prop
  | .create _ _ => ∀ t, s.saves t = none
  | _ => True

def Written (s : State) (data : List UInt8) : Phase → Prop
  | .opened file => file = .tmp ∧ s.tmp = some []
  | .written => s.tmp = some data

/-- At most one save is under way, alone with its file; the map has the last one's text. -/
structure Whole (start : Option (List UInt8)) (s : State) : Prop where
  single : ∀ {t x}, s.saves t = some x → ∀ u, u ≠ t → s.saves u = none
  written : ∀ {t data phase}, s.saves t = some (data, phase) → Written s data phase
  map : s.map = s.last.or start

variable {start : Option (List UInt8)} {s : State} {t : Nat}

theorem whole_become {save : Option (List UInt8 × Phase)} (moved : Place → Place)
    (hothers : ∀ u, u ≠ t → s.saves u = none) (hmap : s.map = s.last.or start)
    (hwritten : ∀ data phase, save = some (data, phase) → Written s data phase) :
    Whole start (s.become t save moved) := by
  have hothers' : ∀ u, u ≠ t → (s.become t save moved).saves u = none := fun u hu => by
    simp only [State.become, if_neg hu, hothers u hu, Option.map_none]
  have hself : ∀ {u x}, (s.become t save moved).saves u = some x → u = t := fun {u x} hu => by
    by_contra hne
    cases (hothers' u hne).symm.trans hu
  refine ⟨fun hu => hself hu ▸ hothers', fun hu => ?_, hmap⟩
  obtain rfl := hself hu
  exact hwritten _ _ ((if_pos rfl).symm.trans hu)

theorem whole_step (h : Whole start s) (a : Action) (halone : Alone s a) :
    Whole start (step s a) := by
  cases a with
  | create t data =>
    have hidle : ∀ u, s.saves u = none := halone
    simp only [step, hidle]
    refine whole_become id (fun u _ => hidle u) h.map ?_
    rintro _ _ ⟨⟩
    exact ⟨rfl, rfl⟩
  | write t n =>
    unfold step
    dsimp only
    split
    · rename_i data file hsave
      obtain ⟨rfl, hempty⟩ := h.written hsave
      refine whole_become id (h.single hsave) h.map fun d phase heq => ?_
      split_ifs at heq with hall
      cases heq
      simp [Written, hempty, overwrite, List.take_of_length_le hall]
    · exact h
  | rename t succeeds =>
    unfold step
    dsimp only
    split
    · rename_i hsave htmp
      exact whole_become _ (h.single hsave) (htmp.symm.trans (h.written hsave)) nofun
    · rename_i hsave _
      exact whole_become _ (h.single hsave) h.map nofun
    · exact h

/-- **Saves on their own.**  As long as saves do not overlap, the map has at every moment, so
also when the process is killed, the whole text of the last save without an error.  A temporary
file may be left from before. -/
theorem map_of_alone (hidle : ∀ t, s.saves t = none) (hlast : s.last = none)
    {actions : List Action} (halone : Along step Alone s actions) :
    (run step s actions).map = (run step s actions).last.or s.map := by
  have hwhole : Whole s.map s := by
    refine ⟨fun _ u _ => hidle u, fun {t _ _} ht => ?_, by rw [hlast, Option.none_or]⟩
    cases (hidle t).symm.trans ht
  have hkept := @invariant_of_along _ _ step Alone (Whole s.map)
    (fun _ a h ha => whole_step h a ha) s actions hwhole halone
  exact hkept.map

/-- The disk of a coordinator between its saves: the map file has the text of `file`. -/
structure OnDisk (marshal : List (NWK × IEEE) → List UInt8) (c : Coordinator) (s : State) :
    Prop where
  idle : ∀ t, s.saves t = none
  map : s.map = c.file.map marshal

/-- Alone a save is one step; it fails when not all bytes are written or the rename does. -/
theorem OnDisk.saveSnapshot {marshal : List (NWK × IEEE) → List UInt8} {c : Coordinator}
    (h : OnDisk marshal c s) {id : Nat} {nwk : NWK} {snapshot : GoMap NWK IEEE}
    (hjob : c.jobs.lookup id = some ⟨nwk, some snapshot⟩) (range : MapOrder) (n : Nat)
    (renamed : Bool) :
    let data := marshal (saveNWKMap range snapshot)
    OnDisk marshal (c.saveSnapshot range (decide (data.length ≤ n) && renamed) id)
      (run step s [.create id data, .write id n, .rename id renamed]) := by
  intro data
  have hfree : s.saves id = none := h.idle id
  by_cases hall : data.length ≤ n
  · have htext : overwrite data n [] = data := by
      simp [overwrite, List.take_of_length_le hall]
    cases renamed with
    | true | false =>
      constructor
      · intro t
        by_cases ht : t = id <;> simp [step, State.become, hfree, hall, ht, h.idle]
      · simp [step, State.become, hfree, hall, htext, Coordinator.saveSnapshot, hjob, h.map, data]
  · constructor
    · intro t
      by_cases ht : t = id <;> simp [step, State.become, hfree, hall, ht, h.idle]
    · simp [step, State.become, hfree, hall, Coordinator.saveSnapshot, hjob, h.map]

/-- The second save has emptied the temporary file. -/
theorem unfinished_save_leaves_map :
    (run step {} [.create 0 [1], .write 0 1, .rename 0 true, .create 1 [2]]).map = some [1] :=
  map_of_alone (fun _ => rfl) rfl ⟨fun _ => rfl, trivial, trivial, fun t => by
    by_cases ht : t = 0 <;> simp [step, State.become, ht], trivial⟩

/-- The second save begins before the first renames: no error, and an empty map. -/
theorem overlapping_saves_empty_map :
    let s := run step {} [.create 0 [1], .write 0 1, .create 1 [2], .rename 0 true]
    s.last = some [1] ∧ s.map = some [] := by
  decide

end MapFile

end IotController.ZigbeeCoordinator
