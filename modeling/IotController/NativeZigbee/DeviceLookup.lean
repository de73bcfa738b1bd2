/-
  Which Device resource a message is from
  (`DeviceRoute`, `InterviewRoute`, `getDeviceByIEEE` and `getDeviceByNWK` in
  `pkg/iot/routers/nativezigbee/nativezigbee.go`, `GetOrCreateAPIDevice` in
  `pkg/iot/util/util.go`).

  The router remembers under which name it found an address, and does not look at the
  address again when it uses the name.  An interview invalidates the entry of its own
  address; an edit of the resources by somebody else invalidates nothing.
-/
import IotController.ZigbeeCoordinator.InterviewResult

namespace IotController.NativeZigbee

open Foundation ZigbeeCoordinator ZigbeeCoordinator.InterviewResult

/-- The errors of the API server. -/
structure KubeFaults where
  list : Option String := none
  /-- other than that there is no such resource -/
  get : Option String := none
  create : Option String := none

/-- The Device resources, and the cache from addresses to their names. -/
structure State where
  devices : Devices := ∅
  ieeeCache : GoMap String String := ∅

/-- The address in the resource of a name, which is empty when there is no resource. -/
def State.address (s : State) (name : String) : String := (s.devices.device name).spec.ieeeAddress

/-- `GetOrCreateAPIDevice` while nobody else creates the resource; names are in lower case. -/
def State.getOrCreate (s : State) (faults : KubeFaults) (name : String) :
    State × Except String (String × Device) :=
  match faults.get, s.devices.lookup name, faults.create with
  | some err, _, _ => (s, .error err)
  | none, some device, _ => (s, .ok (name, device))
  | none, none, some err => (s, .error err)
  | none, none, none =>
    ({ s with devices := getOrCreateAPIDevice s.devices name }, .ok (name, {}))

def State.find? (s : State) (order : MapOrder) (p : DeviceSpec → Bool) :
    Option (Σ _ : String, Device) :=
  (order.order 0 s.devices.entries).find? fun e => p e.2.spec

variable (order : MapOrder) (faults : KubeFaults)

def getDeviceByIEEE (ieeeAddr : String) (s : State) :
    State × Except String (String × Device) :=
  if ieeeAddr = "" then (s, .error "empty IEEE address")
  else match s.ieeeCache.lookup ieeeAddr with
    | some name => s.getOrCreate faults name
    | none =>
      match faults.list with
      | some err => (s, .error ("listing devices: " ++ err))
      | none =>
        match s.find? order fun spec => spec.ieeeAddress = ieeeAddr with
        | some ⟨name, device⟩ =>
          ({ s with ieeeCache := s.ieeeCache.insert ieeeAddr name }, .ok (name, device))
        | none =>
          match s.getOrCreate faults (normalize ieeeAddr) with
          | (s, .ok found) => (s, .ok found)
          | (s, .error err) => (s, .error
              s!"device {ieeeAddr.quote} not found and could not be created: {err}")

/-- `none` when no resource has the short address. -/
def getDeviceByNWK (nwkHex : String) (s : State) :
    State × Except String (Option (String × Device)) :=
  match faults.list with
  | some err => (s, .error ("listing devices: " ++ err))
  | none =>
    match s.find? order fun spec => Compute.equalFold spec.networkAddress nwkHex with
    | none => (s, .ok none)
    | some ⟨name, device⟩ =>
      (if device.spec.ieeeAddress ≠ "" then
        { s with ieeeCache := s.ieeeCache.insert device.spec.ieeeAddress name }
      else s, .ok (some (name, device)))

def trimNwk (deviceID : String) : Option String :=
  match deviceID.toList with
  | 'n' :: 'w' :: 'k' :: '_' :: rest => some (String.ofList rest)
  | _ => none

def deviceRoute (deviceID sourceIeee : String) (s : State) : State :=
  match trimNwk deviceID with
  | none => (getDeviceByIEEE order faults ("0x" ++ deviceID) s).1
  | some nwk =>
    if sourceIeee ≠ "" then (getDeviceByIEEE order faults sourceIeee s).1
    else (getDeviceByNWK order faults ("0x" ++ nwk) s).1

def State.interviewRoute (faults : Faults) (result : DeviceInterviewResult) (s : State) : State :=
  let updated := InterviewResult.interviewRoute faults result s.devices
  { devices := updated.1
    ieeeCache :=
      if result.interviewState = .successful ∧ updated.2 = none then
        s.ieeeCache.erase result.ieeeAddress
      else s.ieeeCache }

/-- What changes the resources or the cache. -/
inductive Action where
  | deviceRoute (order : MapOrder) (faults : KubeFaults) (deviceID sourceIeee : String)
  | interviewRoute (faults : Faults) (result : DeviceInterviewResult)
  /-- somebody creates, changes or deletes a resource; to rename one is to delete it and to
  create another -/
  | edit (name : String) (device : Option Device)

def step (s : State) : Action → State
  | .deviceRoute order faults deviceID sourceIeee =>
    NativeZigbee.deviceRoute order faults deviceID sourceIeee s
  | .interviewRoute faults result => s.interviewRoute faults result
  | .edit name (some device) => { s with devices := s.devices.insert name device }
  | .edit name none => { s with devices := s.devices.erase name }

/-! ## What a look-up should do -/

/-- A look-up of an address that a resource has gives such a resource or an error, and creates
none. -/
def LooksUpRight (s : State) : Prop :=
  ∀ order faults ieeeAddr,
    (∃ name device, s.devices.lookup name = some device ∧ device.spec.ieeeAddress = ieeeAddr) →
    (getDeviceByIEEE order faults ieeeAddr s).1.devices = s.devices ∧
    ∀ name device, (getDeviceByIEEE order faults ieeeAddr s).2 = .ok (name, device) →
      s.devices.lookup name = some device ∧ device.spec.ieeeAddress = ieeeAddr

/-- An address's entry stays right when the address in the resource `edited` becomes `address`. -/
def StaysRight (s : State) (edited address ieeeAddr name : String) : Prop :=
  if name = edited then
    address = ieeeAddr ∨ ∀ other, other ≠ edited → s.address other ≠ ieeeAddr
  else address = ieeeAddr → s.address name = ieeeAddr

/-- The entries of the cache stay right, that apart which an interview invalidates. -/
def Harmless (s : State) : Action → Prop
  | .deviceRoute _ _ _ _ => True
  | .edit edited device =>
    ∀ ieeeAddr name, ieeeAddr ≠ "" → s.ieeeCache.lookup ieeeAddr = some name →
      StaysRight s edited (device.getD {}).spec.ieeeAddress ieeeAddr name
  | .interviewRoute faults result =>
    result.interviewState = .successful → faults.spec = none →
    ∀ ieeeAddr name, ieeeAddr ≠ "" → s.ieeeCache.lookup ieeeAddr = some name →
      (ieeeAddr = result.ieeeAddress → faults.status ≠ none) →
      StaysRight s (normalize result.ieeeAddress) result.ieeeAddress ieeeAddr name

/-- The cached name of an address that some resource has is the name of such a resource. -/
def Transparent (s : State) : Prop :=
  ∀ ieeeAddr name, ieeeAddr ≠ "" → s.ieeeCache.lookup ieeeAddr = some name →
    (∃ other, s.address other = ieeeAddr) → s.address name = ieeeAddr

variable {s s' : State}

theorem address_of_lookup {name : String} {device : Device}
    (h : s.devices.lookup name = some device) : s.address name = device.spec.ieeeAddress := by
  rw [State.address, Devices.device, h, Option.getD_some]

theorem lookup_of_address {name ieeeAddr : String} (hne : ieeeAddr ≠ "")
    (h : s.address name = ieeeAddr) :
    ∃ device, s.devices.lookup name = some device ∧ device.spec.ieeeAddress = ieeeAddr := by
  cases hname : s.devices.lookup name with
  | some device => exact ⟨device, rfl, (address_of_lookup hname).symm.trans h⟩
  | none =>
    rw [State.address, Devices.device, hname] at h
    exact absurd h.symm hne

theorem find?_eq_some {order : MapOrder} {p : DeviceSpec → Bool} {name : String}
    {device : Device} (h : s.find? order p = some ⟨name, device⟩) :
    s.devices.lookup name = some device ∧ p device.spec :=
  ⟨(GoMap.lookup_eq_some_iff_mem _ _ _).mpr
    ((order.mem_order_iff _).mp (List.mem_of_find?_eq_some h)),
    @List.find?_some _ (fun e : Σ _ : String, Device => p e.2.spec) _ _ h⟩

theorem looksUpRight_iff : LooksUpRight s ↔ Transparent s := by
  constructor
  · rintro h ieeeAddr name hne hcache ⟨other, hother⟩
    obtain ⟨hdevices, hfound⟩ := h .stored {} ieeeAddr ⟨other, lookup_of_address hne hother⟩
    rw [getDeviceByIEEE, if_neg hne, hcache] at hdevices hfound
    cases hname : s.devices.lookup name with
    | some device =>
      simp only [State.getOrCreate, hname] at hfound
      rw [address_of_lookup hname]
      exact (hfound name device rfl).2
    | none =>
      have hcreated : (getOrCreateAPIDevice s.devices name).lookup name = none := by
        simp only [State.getOrCreate, hname] at hdevices
        rw [hdevices, hname]
      simp [getOrCreateAPIDevice, hname] at hcreated
  · rintro h order faults ieeeAddr ⟨other, device, hother, hdevice⟩
    fun_cases getDeviceByIEEE order faults ieeeAddr s with
    | case1 | case3 => exact ⟨rfl, nofun⟩
    | case2 hne name hname =>
      obtain ⟨device, hlookup, haddress⟩ := lookup_of_address hne
        (h ieeeAddr name hne hname ⟨other, (address_of_lookup hother).trans hdevice⟩)
      grind [State.getOrCreate]
    | case4 _ _ _ name device hfind =>
      have hfound := find?_eq_some hfind
      grind
    | case5 _ _ _ hfind | case6 _ _ _ hfind =>
      have hmem := (GoMap.lookup_eq_some_iff_mem _ _ _).mp hother
      have hnot := List.find?_eq_none.mp hfind _ ((order.mem_order_iff 0).mpr hmem)
      simp [hdevice] at hnot

/-! ## What a step does to the cache -/

theorem Transparent.congr (h : Transparent s) (haddress : ∀ name, s'.address name = s.address name)
    (hcache : s'.ieeeCache = s.ieeeCache) : Transparent s' := by
  unfold Transparent
  simp only [haddress, hcache]
  exact h

theorem Transparent.getOrCreate (h : Transparent s) (faults : KubeFaults) (name : String) :
    Transparent (s.getOrCreate faults name).1 := by
  unfold State.getOrCreate
  split
  · exact h
  · exact h
  · exact h
  · refine h.congr (fun other => ?_) rfl
    rw [State.address, device_getOrCreateAPIDevice, State.address]

theorem Transparent.insert (h : Transparent s) {ieeeAddr name : String}
    (haddress : s.address name = ieeeAddr) :
    Transparent { s with ieeeCache := s.ieeeCache.insert ieeeAddr name } := by
  unfold Transparent at h ⊢
  simp only [State.address, GoMap.lookup_insert_eq] at h haddress ⊢
  grind

theorem Transparent.getDeviceByIEEE (h : Transparent s) (order : MapOrder) (faults : KubeFaults)
    (ieeeAddr : String) : Transparent (getDeviceByIEEE order faults ieeeAddr s).1 := by
  unfold NativeZigbee.getDeviceByIEEE
  split
  · exact h
  · split
    · exact h.getOrCreate _ _
    · split
      · exact h
      · split
        · rename_i hfind
          obtain ⟨hlookup, haddress⟩ := find?_eq_some hfind
          exact h.insert ((address_of_lookup hlookup).trans (of_decide_eq_true haddress))
        · have hcreate := h.getOrCreate faults (normalize ieeeAddr)
          split <;> simpa [*] using hcreate

theorem Transparent.deviceRoute (h : Transparent s) (order : MapOrder) (faults : KubeFaults)
    (deviceID sourceIeee : String) :
    Transparent (deviceRoute order faults deviceID sourceIeee s) := by
  unfold NativeZigbee.deviceRoute
  split
  · exact h.getDeviceByIEEE _ _ _
  · split
    · exact h.getDeviceByIEEE _ _ _
    · unfold getDeviceByNWK
      split
      · exact h
      · split
        · exact h
        · rename_i hfind
          dsimp only
          split
          · exact h.insert (address_of_lookup (find?_eq_some hfind).1)
          · exact h

theorem transparent_iff {edited address : String} {kept : String → Prop} (h : Transparent s)
    (haddress : ∀ name, s'.address name = if name = edited then address else s.address name)
    (hcache : ∀ ieeeAddr name, s'.ieeeCache.lookup ieeeAddr = some name ↔
      s.ieeeCache.lookup ieeeAddr = some name ∧ kept ieeeAddr) :
    Transparent s' ↔ ∀ ieeeAddr name, ieeeAddr ≠ "" → s.ieeeCache.lookup ieeeAddr = some name →
      kept ieeeAddr → StaysRight s edited address ieeeAddr name := by
  unfold Transparent StaysRight at *
  simp only [haddress, hcache]
  constructor
  · intro h' ieeeAddr name hne hname hkept
    have hright := h' ieeeAddr name hne ⟨hname, hkept⟩
    have hedited : address = ieeeAddr →
        ∃ other, (if other = edited then address else s.address other) = ieeeAddr :=
      fun heq => ⟨edited, (if_pos rfl).trans heq⟩
    grind
  · grind

theorem interviewRoute_error {faults : Faults} {result : DeviceInterviewResult}
    (hstate : result.interviewState = .successful) (devices : Devices) :
    (interviewRoute faults result devices).2 = none ↔ faults.spec = none ∧ faults.status = none := by
  rw [interviewRoute, if_neg (not_not.mpr hstate)]
  unfold updateSpec updateStatus
  grind

theorem transparent_interviewRoute (faults : Faults) (result : DeviceInterviewResult)
    (h : Transparent s) :
    Transparent (s.interviewRoute faults result) ↔ Harmless s (.interviewRoute faults result) := by
  by_cases hstate : result.interviewState = .successful
  · have haddress : ∀ name, (s.interviewRoute faults result).address name =
        if name = normalize result.ieeeAddress then
          ((s.devices.device name).told faults result).spec.ieeeAddress
        else s.address name := by
      intro name
      simp only [State.interviewRoute, State.address, device_interviewRoute _ hstate]
      split <;> rfl
    by_cases hspec : faults.spec = none
    · rw [Harmless, @transparent_iff s _ (normalize result.ieeeAddress) result.ieeeAddress
        (fun a => a = result.ieeeAddress → faults.status ≠ none) h ?_ ?_]
      · simp only [hstate, hspec, forall_const]
      · intro name
        rw [haddress, Device.told, if_pos hspec]
        rfl
      · intro ieeeAddr name
        simp only [State.interviewRoute, interviewRoute_error hstate, hstate, hspec, true_and]
        split
        · rw [GoMap.lookup_erase_eq]
          split <;> simp [*]
        · simp [*]
    · refine iff_of_true (h.congr (fun name => ?_) ?_) fun _ hspec' => absurd hspec' hspec
      · rw [haddress, Device.told, if_neg hspec]
        split <;> rfl
      · simp [State.interviewRoute, interviewRoute_error hstate, hspec]
  · refine iff_of_true (h.congr (fun name => ?_) ?_) fun hstate' => absurd hstate' hstate
    · simp [State.interviewRoute, InterviewResult.interviewRoute, hstate, State.address]
    · simp [State.interviewRoute, hstate]

theorem transparent_step (a : Action) (h : Transparent s) :
    Transparent (step s a) ↔ Harmless s a := by
  cases a with
  | deviceRoute order faults deviceID sourceIeee =>
    exact iff_of_true (h.deviceRoute order faults deviceID sourceIeee) trivial
  | interviewRoute faults result => exact transparent_interviewRoute faults result h
  | edit edited device =>
    rw [Harmless, @transparent_iff s _ edited (device.getD {}).spec.ieeeAddress (fun _ => True)
      h ?_ ?_]
    · simp only [forall_const]
    · intro name
      cases device with
      | some device =>
        simp only [step, State.address, device_insert]
        split <;> rfl
      | none =>
        simp only [step, State.address, Devices.device, GoMap.lookup_erase_eq]
        split <;> rfl
    · intro ieeeAddr name
      cases device <;> simp [step]

/-- Every look-up during a run is right exactly if every action leaves the cache's entries
right. -/
theorem lookups_right_iff (actions : List Action) :
    (∀ n, LooksUpRight (run step {} (actions.take n))) ↔ Along step Harmless {} actions := by
  simp only [looksUpRight_iff]
  exact invariant_iff_along (fun s a _ h => transparent_step a h) nofun

def pantryLamp : Device := { spec := { ieeeAddress := "0x00158d0001a2b3c4" } }

/-- A resource is found, and then renamed. -/
def pantryRenamed : List Action :=
  [.edit "pantry" (some pantryLamp), .deviceRoute .stored {} "00158d0001a2b3c4" "",
    .edit "pantry" none, .edit "larder" (some pantryLamp)]

/-- The next message of the device creates a resource of the old name. -/
theorem pantry_created_again :
    let s := run step {} pantryRenamed
    s.devices.lookup "larder" = some pantryLamp ∧
      (getDeviceByIEEE .stored {} "0x00158d0001a2b3c4" s).2 = .ok ("pantry", {}) ∧
      (getDeviceByIEEE .stored {} "0x00158d0001a2b3c4" s).1.devices.lookup "pantry" = some {} := by
  decide +kernel

end IotController.NativeZigbee
