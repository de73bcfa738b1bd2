/-
  From the answers of a device to its Device
  resource (`readBasicClusterAttributes` in `modules/zigbeecoordinator/basic_cluster.go`,
  `interviewAndDispatch` and `sendInterviewResult` in `zigbeecoordinator.go`,
  `enrichFromBasicCluster` in `reinterview.go`, `InterviewRoute` in
  `pkg/iot/routers/nativezigbee/nativezigbee.go`).

  An interview asks a device for its descriptors and for three attributes of the Basic
  cluster; a re-interview asks for the attributes alone.  What was answered becomes a
  `DeviceInterviewResult`, and the router writes it into the resource.  A value that was not
  reported is the zero of its type, and each station has its own idea of which zero counts.
-/
import IotController.Dongle.Interview
import IotController.ZigbeeCoordinator.AddressMap

namespace IotController.ZigbeeCoordinator.InterviewResult

open Foundation Dongle

/-! ## The Basic cluster -/

/-- A value of the Basic cluster. -/
inductive AttributeValue where
  | stringValue (s : String)
  | uint8Value (n : UInt32)
  | other
  deriving DecidableEq

def AttributeValue.getStringValue : AttributeValue → String
  | .stringValue s => s
  | _ => ""

def AttributeValue.getUint8Value : AttributeValue → UInt32
  | .uint8Value n => n
  | _ => 0

/-- The status of an attribute. -/
inductive ZclStatus where
  | success
  | refused (code : Nat)
  deriving DecidableEq

/-- One attribute of a response. -/
structure AttributeResponseRecord where
  attributeID : UInt32
  status : ZclStatus
  value : AttributeValue
  deriving DecidableEq

def basicAttrManufacturerName : UInt32 := 0x0004
def basicAttrModelIdentifier : UInt32 := 0x0005
def basicAttrPowerSource : UInt32 := 0x0007

/-- What is read of the Basic cluster. -/
structure BasicClusterAttributes where
  manufacturer : String := ""
  model : String := ""
  powerSource : Byte := 0
  deriving DecidableEq

/-- The answer of the Basic cluster. -/
inductive BasicReply where
  /-- `sendZclAndAwait` fails: not sent, no answer in time, cancelled -/
  | failed (err : String)
  | noPayload
  | records (rs : List AttributeResponseRecord)
  deriving DecidableEq

def BasicClusterAttributes.take (out : BasicClusterAttributes) (r : AttributeResponseRecord) :
    BasicClusterAttributes :=
  if r.status ≠ .success then out
  else if r.attributeID = basicAttrManufacturerName then
    { out with manufacturer := r.value.getStringValue }
  else if r.attributeID = basicAttrModelIdentifier then
    { out with model := r.value.getStringValue }
  else if r.attributeID = basicAttrPowerSource then
    { out with powerSource := r.value.getUint8Value.toUInt8 }
  else out

def readBasicClusterAttributes (txnSeq : Byte) : BasicReply → Except String BasicClusterAttributes
  | .failed err => .error ("Basic cluster read failed: " ++ err)
  | .noPayload => .error ("Basic cluster response had no ReadAttributesResponse payload " ++
      s!"(cluster=0x0000, txnSeq={txnSeq})")
  | .records rs => .ok (rs.foldl BasicClusterAttributes.take {})

/-! ## The result -/

/-- The power sources of the message. -/
inductive PowerSource where
  | unspecified
  | unknown
  | mains
  | battery
  | dc
  | emergency
  | emergencyDC
  deriving DecidableEq, Repr

def PowerSource.name : PowerSource → String
  | unspecified => "POWER_SOURCE_UNSPECIFIED"
  | unknown => "POWER_SOURCE_UNKNOWN"
  | mains => "POWER_SOURCE_MAINS"
  | battery => "POWER_SOURCE_BATTERY"
  | dc => "POWER_SOURCE_DC"
  | emergency => "POWER_SOURCE_EMERGENCY"
  | emergencyDC => "POWER_SOURCE_EMERGENCY_DC"

def mapZclPowerSourceToProto (zclByte : Byte) : PowerSource :=
  if zclByte = 0x01 ∨ zclByte = 0x02 then .mains
  else if zclByte = 0x03 then .battery
  else if zclByte = 0x04 then .dc
  else if zclByte = 0x00 then .unknown
  else .unspecified

/-- How far an interview got. -/
inductive InterviewState where
  | unspecified
  | pending
  | inProgress
  | successful
  | failed
  deriving DecidableEq, Repr

/-- The roles of a node. -/
inductive DeviceType where
  | unspecified
  | coordinator
  | router
  | endDevice
  deriving DecidableEq, Repr

/-- An endpoint, as the message has it. -/
structure EndpointDescriptor where
  id : UInt32
  profileID : UInt32
  deviceID : UInt32
  deviceVersion : UInt32
  inputClusters : List UInt32
  outputClusters : List UInt32
  deriving DecidableEq

/-- What the coordinator tells the router. -/
structure DeviceInterviewResult where
  ieeeAddress : String
  networkAddress : UInt32
  interviewState : InterviewState := .unspecified
  deviceType : DeviceType := .unspecified
  manufacturerID : UInt32 := 0
  manufacturerName : String := ""
  modelID : String := ""
  powerSource : PowerSource := .unspecified
  dateCode : String := ""
  softwareBuildID : String := ""
  endpoints : List EndpointDescriptor := []
  capabilities : Option DeviceCapabilities := none
  deriving DecidableEq

def ieeeText (ieee : IEEE) : String := "0x" ++ hex16 ieee

def deviceTypeOf (deviceType : String) : DeviceType :=
  if deviceType = "Coordinator" then .coordinator
  else if deviceType = "Router" then .router
  else if deviceType = "EndDevice" then .endDevice
  else .unspecified

def endpointDescriptor (ep : EndpointInfo) : EndpointDescriptor where
  id := ep.id
  profileID := ep.profileID
  deviceID := ep.deviceID
  deviceVersion := ep.deviceVersion
  inputClusters := ep.inputClusters.map UInt16.toUInt32
  outputClusters := ep.outputClusters.map UInt16.toUInt32

def sendInterviewResult (ieee : IEEE) (nwk : NWK) (info : Option DeviceInterviewInfo)
    (interviewErr : Option String) : DeviceInterviewResult :=
  let result : DeviceInterviewResult :=
    { ieeeAddress := ieeeText ieee, networkAddress := nwk.toUInt32 }
  match interviewErr, info with
  | some _, _ => { result with interviewState := .failed }
  | none, some info =>
    { result with
      interviewState := .successful
      manufacturerID := info.manufacturerID
      manufacturerName := info.manufacturer
      modelID := info.model
      powerSource := mapZclPowerSourceToProto info.powerSource
      deviceType := deviceTypeOf info.deviceType
      capabilities := info.capabilities
      endpoints := info.endpoints.map endpointDescriptor }
  | none, none => { result with interviewState := .pending }

/-- How the dongle's interview ends. -/
inductive ZdoOutcome where
  | failed (err : String)
  | nothing
  /-- the node descriptor, unless it was refused or missing, and the endpoints that were
  described -/
  | answered (descriptor : Option NodeDescriptor) (endpoints : List EndpointInfo)
  deriving DecidableEq

def ZdoOutcome.info (nwk : NWK) : ZdoOutcome → Except String DeviceInterviewInfo
  | .failed err => .error err
  | .nothing => .ok { networkAddress := nwk }
  | .answered descriptor endpoints => .ok (interviewInfo nwk descriptor endpoints)

def basicEndpoint (endpoints : List EndpointInfo) : Byte :=
  match endpoints with
  | ep :: _ => if ep.id ≠ 0 then ep.id.toUInt8 else 1
  | [] => 1

def addBasic (info : DeviceInterviewInfo) : Except String BasicClusterAttributes →
    DeviceInterviewInfo
  | .error _ => info
  | .ok read =>
    { info with
      manufacturer := read.manufacturer
      model := read.model
      powerSource := read.powerSource }

/-- `basic` is what the device has to say at each endpoint. -/
def interviewAndDispatch (ieee : IEEE) (nwk : NWK) (txnSeq : Byte) (zdo : ZdoOutcome)
    (basic : Byte → BasicReply) : DeviceInterviewResult :=
  match zdo.info nwk with
  | .error err => sendInterviewResult ieee nwk none (some err)
  | .ok info =>
    let info := addBasic info
      (readBasicClusterAttributes txnSeq (basic (basicEndpoint info.endpoints)))
    if info.manufacturerID ≠ 0 ∨ info.endpoints ≠ [] ∨ info.manufacturer ≠ "" ∨
        info.model ≠ "" then
      sendInterviewResult ieee nwk (some info) none
    else
      sendInterviewResult ieee nwk none (some "interview produced no useful information")

/-- The re-interview: `none` when nothing is sent. -/
def enrichFromBasicCluster (ieee : IEEE) (nwk : NWK) (txnSeq : Byte)
    (basic : Byte → BasicReply) : Option DeviceInterviewResult :=
  match readBasicClusterAttributes txnSeq (basic 1) with
  | .error _ => none
  | .ok read => some (sendInterviewResult ieee nwk
      (some
        { networkAddress := nwk
          manufacturer := read.manufacturer
          model := read.model
          powerSource := read.powerSource })
      none)

/-! ## The Device resource -/

/-- The `Spec` of a Device resource. -/
structure DeviceSpec where
  description : String := ""
  type : String := ""
  dateCode : String := ""
  model : String := ""
  vendor : String := ""
  manufactureName : String := ""
  powerSource : String := ""
  modelID : String := ""
  note : String := ""
  ieeeAddress : String := ""
  networkAddress : String := ""
  deriving DecidableEq

/-- The `Status` of a Device resource. -/
structure DeviceStatus where
  lastSeen : UInt64 := 0
  softwareBuildID : String := ""
  deriving DecidableEq

/-- A Device resource. -/
structure Device where
  spec : DeviceSpec := {}
  status : DeviceStatus := {}
  deriving DecidableEq

abbrev Devices : Type := GoMap String Device

variable (devices : Devices) (d : Device)

def Devices.device (name : String) : Device := (devices.lookup name).getD {}

def getOrCreateAPIDevice (name : String) : Devices :=
  match devices.lookup name with
  | some _ => devices
  | none => devices.insert name {}

/-- An error of the API server. -/
inductive Fault where
  | get (err : String)
  | update (err : String)
  deriving DecidableEq

/-- The errors that the two updates meet. -/
structure Faults where
  spec : Option Fault := none
  status : Option Fault := none
  deriving DecidableEq

def nwkText (nwk : UInt32) : String := "0x" ++ String.ofList (hexDigits 4 nwk.toNat)

def DeviceSpec.populate (spec : DeviceSpec) (result : DeviceInterviewResult) : DeviceSpec :=
  { spec with
    ieeeAddress := result.ieeeAddress
    networkAddress := nwkText result.networkAddress
    type :=
      if spec.type = "" then
        match result.deviceType with
        | .coordinator => "DEVICE_TYPE_COORDINATOR"
        | .router => "DEVICE_TYPE_ROUTER"
        | _ => spec.type
      else spec.type
    vendor := if result.manufacturerName ≠ "" then result.manufacturerName else spec.vendor
    manufactureName :=
      if result.manufacturerName ≠ "" then result.manufacturerName else spec.manufactureName
    model := if result.modelID ≠ "" then result.modelID else spec.model
    modelID := if result.modelID ≠ "" then result.modelID else spec.modelID
    dateCode := if result.dateCode ≠ "" then result.dateCode else spec.dateCode
    powerSource :=
      if result.powerSource ≠ .unspecified then result.powerSource.name else spec.powerSource }

def updateSpec (fault : Option Fault) (result : DeviceInterviewResult) (name : String)
    (devices : Devices) : Devices × Option String :=
  match fault with
  | some (.get err) =>
    (devices, some s!"updating device spec: getting/creating device {name}: {err}")
  | some (.update err) =>
    (getOrCreateAPIDevice devices name, some ("updating device spec: " ++ err))
  | none =>
    let device := devices.device name
    ((getOrCreateAPIDevice devices name).insert name
      { device with spec := device.spec.populate result }, none)

def updateStatus (fault : Option Fault) (result : DeviceInterviewResult) (name : String)
    (devices : Devices) : Devices × Option String :=
  match fault with
  | some (.get err) => (devices, some ("updating device status: refreshing device: " ++ err))
  | some (.update err) =>
    (getOrCreateAPIDevice devices name, some ("updating device status: " ++ err))
  | none =>
    let device := devices.device name
    ((getOrCreateAPIDevice devices name).insert name
      { device with status :=
        { device.status with softwareBuildID := result.softwareBuildID } }, none)

def interviewRoute (faults : Faults) (result : DeviceInterviewResult) (devices : Devices) :
    Devices × Option String :=
  if result.interviewState ≠ .successful then (devices, none)
  else
    let name := normalize result.ieeeAddress
    match updateSpec faults.spec result name devices with
    | (devices, some err) => (devices, some err)
    | (devices, none) => updateStatus faults.status result name devices

/-- What an interview or a re-interview met. -/
inductive Outcome where
  | interview (zdo : ZdoOutcome) (basic : Byte → BasicReply)
  | reinterview (basic : Byte → BasicReply)

def Outcome.sent (ieee : IEEE) (nwk : NWK) (txnSeq : Byte) :
    Outcome → Option DeviceInterviewResult
  | .interview zdo basic => some (interviewAndDispatch ieee nwk txnSeq zdo basic)
  | .reinterview basic => enrichFromBasicCluster ieee nwk txnSeq basic

def Outcome.deliver (outcome : Outcome) (ieee : IEEE) (nwk : NWK) (txnSeq : Byte)
    (faults : Faults) (devices : Devices) : Devices :=
  match outcome.sent ieee nwk txnSeq with
  | none => devices
  | some result => (interviewRoute faults result devices).1

/-! ## What was reported -/

def ZdoOutcome.descriptor : ZdoOutcome → Option NodeDescriptor
  | .answered descriptor _ => descriptor
  | _ => none

def ZdoOutcome.endpoints : ZdoOutcome → List EndpointInfo
  | .answered _ endpoints => endpoints
  | _ => []

def BasicReply.answers : BasicReply → List AttributeResponseRecord
  | .records rs => rs
  | _ => []

def Outcome.records : Outcome → List AttributeResponseRecord
  | .interview (.failed _) _ => []
  | .interview zdo basic => (basic (basicEndpoint zdo.endpoints)).answers
  | .reinterview basic => (basic 1).answers

/-- Where knowledge comes from. -/
inductive Source where
  | announcement
  | nodeDescriptor
  | basic (attributeID : UInt32)
  | elsewhere
  deriving DecidableEq

/-- The source has said something. -/
def Outcome.Reported (outcome : Outcome) : Source → Prop
  | .announcement => ∃ zdo basic, outcome = .interview zdo basic
  | .nodeDescriptor => ∃ zdo basic, outcome = .interview zdo basic ∧ zdo.descriptor ≠ none
  | .basic id => ∃ r ∈ outcome.records, r.status = .success ∧ r.attributeID = id
  | .elsewhere => False

/-- The fields of a Device resource. -/
inductive Field where
  | description
  | type
  | dateCode
  | model
  | vendor
  | manufactureName
  | powerSource
  | modelID
  | note
  | ieeeAddress
  | networkAddress
  | lastSeen
  | softwareBuildID
  deriving DecidableEq, Repr

/-- Where a field comes from; the date code and the build are attributes of the Basic cluster. -/
def Field.source : Field → Source
  | type => .nodeDescriptor
  | vendor | manufactureName => .basic basicAttrManufacturerName
  | model | modelID => .basic basicAttrModelIdentifier
  | powerSource => .basic basicAttrPowerSource
  | dateCode => .basic 0x0006
  | softwareBuildID => .basic 0x4000
  | ieeeAddress | networkAddress => .announcement
  | description | note | lastSeen => .elsewhere

/-- The value of a field: a text, or a number for `LastSeen`. -/
def Device.field (d : Device) : Field → String ⊕ UInt64
  | .description => .inl d.spec.description
  | .type => .inl d.spec.type
  | .dateCode => .inl d.spec.dateCode
  | .model => .inl d.spec.model
  | .vendor => .inl d.spec.vendor
  | .manufactureName => .inl d.spec.manufactureName
  | .powerSource => .inl d.spec.powerSource
  | .modelID => .inl d.spec.modelID
  | .note => .inl d.spec.note
  | .ieeeAddress => .inl d.spec.ieeeAddress
  | .networkAddress => .inl d.spec.networkAddress
  | .lastSeen => .inr d.status.lastSeen
  | .softwareBuildID => .inl d.status.softwareBuildID

def deviceName (ieee : IEEE) : String := normalize (ieeeText ieee)

/-- Nothing is lost: a field that the device did not report is as before, and so is every
other device. -/
structure OnlyAdds (ieee : IEEE) (outcome : Outcome) (before after : Devices) : Prop where
  own : ∀ f : Field, ¬ outcome.Reported f.source →
    (after.device (deviceName ieee)).field f = (before.device (deviceName ieee)).field f
  others : ∀ name, name ≠ deviceName ieee → after.device name = before.device name

/-! ## When it holds -/

def valueOf (records : List AttributeResponseRecord) (id : UInt32) : Option AttributeValue :=
  (records.reverse.find? fun r => r.status = .success ∧ r.attributeID = id).map (·.value)

def textOf (records : List AttributeResponseRecord) (id : UInt32) : String :=
  ((valueOf records id).map AttributeValue.getStringValue).getD ""

def byteOf (records : List AttributeResponseRecord) (id : UInt32) : Byte :=
  ((valueOf records id).map fun v => v.getUint8Value.toUInt8).getD 0

/-- An interview found a manufacturer, an endpoint or a model; a re-interview needs any answer. -/
def Outcome.Learned (outcome : Outcome) : Prop :=
  match outcome with
  | .interview (.failed _) _ => False
  | .interview zdo _ =>
    (∃ d, zdo.descriptor = some d ∧ d.manufacturerCode ≠ 0) ∨ zdo.endpoints ≠ [] ∨
      textOf outcome.records basicAttrManufacturerName ≠ "" ∨
        textOf outcome.records basicAttrModelIdentifier ≠ ""
  | .reinterview basic => ∃ rs, basic 1 = .records rs

/-- The result reaches the resource. -/
def Outcome.Written (outcome : Outcome) (faults : Faults) : Prop :=
  outcome.Learned ∧ faults.spec = none

/-- What the router writes for a field that was not reported, the resource has already. -/
structure NothingToLose (ieee : IEEE) (nwk : NWK) (outcome : Outcome) (faults : Faults)
    (prior : Device) : Prop where
  powerSource : outcome.Written faults →
    outcome.Reported (.basic basicAttrPowerSource) ∨ prior.spec.powerSource = "POWER_SOURCE_UNKNOWN"
  addresses : outcome.Written faults → ¬ outcome.Reported .announcement →
    prior.spec.ieeeAddress = ieeeText ieee ∧ prior.spec.networkAddress = nwkText nwk.toUInt32
  softwareBuildID : outcome.Written faults → faults.status = none →
    outcome.Reported (.basic 0x4000) ∨ prior.status.softwareBuildID = ""

theorem valueOf_eq_none_iff (records : List AttributeResponseRecord) (id : UInt32) :
    valueOf records id = none ↔ ¬ ∃ r ∈ records, r.status = .success ∧ r.attributeID = id := by
  simp [valueOf]

theorem valueOf_concat (records : List AttributeResponseRecord) (r : AttributeResponseRecord)
    (id : UInt32) : valueOf (records ++ [r]) id =
      if r.status = .success ∧ r.attributeID = id then some r.value else valueOf records id := by
  unfold valueOf
  rw [List.reverse_append, List.reverse_singleton, List.singleton_append, List.find?_cons]
  by_cases h : r.status = .success ∧ r.attributeID = id
  · simp [h]
  · simp [h]

theorem foldl_take (records : List AttributeResponseRecord) :
    records.foldl BasicClusterAttributes.take {} =
      { manufacturer := textOf records basicAttrManufacturerName
        model := textOf records basicAttrModelIdentifier
        powerSource := byteOf records basicAttrPowerSource } := by
  induction records using List.reverseRecOn with
  | nil => rfl
  | append_singleton _ r ih =>
    rw [List.foldl_append, List.foldl_cons, List.foldl_nil, ih]
    simp only [textOf, byteOf, valueOf_concat, BasicClusterAttributes.take]
    by_cases hstatus : r.status = .success
    · by_cases h4 : r.attributeID = basicAttrManufacturerName
      · simp [hstatus, h4, basicAttrManufacturerName, basicAttrModelIdentifier,
          basicAttrPowerSource]
      · by_cases h5 : r.attributeID = basicAttrModelIdentifier
        · simp [hstatus, h5, basicAttrManufacturerName, basicAttrModelIdentifier,
            basicAttrPowerSource]
        · by_cases h7 : r.attributeID = basicAttrPowerSource
          · simp [hstatus, h7, basicAttrManufacturerName, basicAttrModelIdentifier,
              basicAttrPowerSource]
          · simp [hstatus, h4, h5, h7]
    · simp [hstatus]

theorem addBasic_read {info : DeviceInterviewInfo} (hname : info.manufacturer = "")
    (hmodel : info.model = "") (hpower : info.powerSource = 0) (txnSeq : Byte)
    (reply : BasicReply) :
    addBasic info (readBasicClusterAttributes txnSeq reply) =
      { info with
        manufacturer := textOf reply.answers basicAttrManufacturerName
        model := textOf reply.answers basicAttrModelIdentifier
        powerSource := byteOf reply.answers basicAttrPowerSource } := by
  have hnone : info = { info with manufacturer := "", model := "", powerSource := 0 } := by
    cases info
    simp only at hname hmodel hpower
    rw [hname, hmodel, hpower]
  cases reply with
  | failed | noPayload => exact hnone
  | records =>
    simp only [readBasicClusterAttributes, addBasic, foldl_take, BasicReply.answers]

/-! ## The result of an outcome -/

/-- What a successful result says. -/
structure Says (ieee : IEEE) (nwk : NWK) (outcome : Outcome) (result : DeviceInterviewResult) :
    Prop where
  interviewState : result.interviewState = .successful
  ieeeAddress : result.ieeeAddress = ieeeText ieee
  networkAddress : result.networkAddress = nwk.toUInt32
  manufacturerName : result.manufacturerName = textOf outcome.records basicAttrManufacturerName
  modelID : result.modelID = textOf outcome.records basicAttrModelIdentifier
  powerSource : result.powerSource =
    mapZclPowerSourceToProto (byteOf outcome.records basicAttrPowerSource)
  deviceType : ¬ outcome.Reported .nodeDescriptor → result.deviceType = .unspecified
  dateCode : result.dateCode = ""
  softwareBuildID : result.softwareBuildID = ""

variable {zdo : ZdoOutcome}

theorem ZdoOutcome.info_eq_ok (nwk : NWK) (h : ∀ err, zdo ≠ .failed err) :
    zdo.info nwk = .ok (interviewInfo nwk zdo.descriptor zdo.endpoints) := by
  cases zdo with
  | failed err => exact absurd rfl (h err)
  | nothing | answered => rfl

theorem interviewInfo_basic (nwk : NWK) (descriptor : Option NodeDescriptor)
    (endpoints : List EndpointInfo) :
    (interviewInfo nwk descriptor endpoints).manufacturer = "" ∧
      (interviewInfo nwk descriptor endpoints).model = "" ∧
      (interviewInfo nwk descriptor endpoints).powerSource = 0 ∧
      (interviewInfo nwk descriptor endpoints).endpoints = endpoints := by
  cases descriptor <;> exact ⟨rfl, rfl, rfl, rfl⟩

theorem manufacturerID_ne_zero_iff (nwk : NWK) (descriptor : Option NodeDescriptor)
    (endpoints : List EndpointInfo) :
    (interviewInfo nwk descriptor endpoints).manufacturerID ≠ 0 ↔
      ∃ d, descriptor = some d ∧ d.manufacturerCode ≠ 0 := by
  have hzero : ∀ code : UInt16, code.toUInt32 = 0 ↔ code = 0 := by
    intro code
    rw [← UInt32.toNat_inj, ← UInt16.toNat_inj]
    simp
  cases descriptor with
  | none => simp [interviewInfo]
  | some => simp [interviewInfo, hzero]

theorem deviceType_of_no_descriptor (nwk : NWK) (endpoints : List EndpointInfo) :
    deviceTypeOf (interviewInfo nwk none endpoints).deviceType = .unspecified := by
  show deviceTypeOf "" = .unspecified
  decide

theorem interviewAndDispatch_eq (ieee : IEEE) (nwk : NWK) (txnSeq : Byte)
    (basic : Byte → BasicReply) (h : ∀ err, zdo ≠ .failed err) :
    interviewAndDispatch ieee nwk txnSeq zdo basic =
      let records := (basic (basicEndpoint zdo.endpoints)).answers
      let info := interviewInfo nwk zdo.descriptor zdo.endpoints
      if info.manufacturerID ≠ 0 ∨ zdo.endpoints ≠ [] ∨
          textOf records basicAttrManufacturerName ≠ "" ∨
          textOf records basicAttrModelIdentifier ≠ "" then
        sendInterviewResult ieee nwk
          (some
            { info with
              manufacturer := textOf records basicAttrManufacturerName
              model := textOf records basicAttrModelIdentifier
              powerSource := byteOf records basicAttrPowerSource })
          none
      else
        sendInterviewResult ieee nwk none (some "interview produced no useful information") := by
  obtain ⟨hname, hmodel, hpower, hendpoints⟩ := interviewInfo_basic nwk zdo.descriptor zdo.endpoints
  simp only [interviewAndDispatch, ZdoOutcome.info_eq_ok nwk h, hendpoints,
    addBasic_read hname hmodel hpower]

theorem Outcome.records_interview (basic : Byte → BasicReply) (h : ∀ err, zdo ≠ .failed err) :
    (Outcome.interview zdo basic).records = (basic (basicEndpoint zdo.endpoints)).answers := by
  cases zdo with
  | failed err => exact absurd rfl (h err)
  | nothing | answered => rfl

theorem Outcome.learned_interview (basic : Byte → BasicReply) (h : ∀ err, zdo ≠ .failed err) :
    (Outcome.interview zdo basic).Learned ↔
      (∃ d, zdo.descriptor = some d ∧ d.manufacturerCode ≠ 0) ∨ zdo.endpoints ≠ [] ∨
        textOf (Outcome.interview zdo basic).records basicAttrManufacturerName ≠ "" ∨
        textOf (Outcome.interview zdo basic).records basicAttrModelIdentifier ≠ "" := by
  cases zdo with
  | failed err => exact absurd rfl (h err)
  | nothing | answered => rfl

theorem says_interview (ieee : IEEE) (nwk : NWK) (txnSeq : Byte) {basic : Byte → BasicReply}
    (hlearned : (Outcome.interview zdo basic).Learned) :
    Says ieee nwk (.interview zdo basic) (interviewAndDispatch ieee nwk txnSeq zdo basic) := by
  have hzdo : ∀ err, zdo ≠ .failed err := by
    rintro err rfl
    exact hlearned
  rw [Outcome.learned_interview basic hzdo, Outcome.records_interview basic hzdo,
    ← manufacturerID_ne_zero_iff nwk zdo.descriptor zdo.endpoints] at hlearned
  rw [interviewAndDispatch_eq ieee nwk txnSeq basic hzdo]
  simp only [if_pos hlearned]
  have hrecords := Outcome.records_interview basic hzdo
  refine ⟨rfl, rfl, rfl, ?_, ?_, ?_, ?_, rfl, rfl⟩
  · rw [hrecords]
    rfl
  · rw [hrecords]
    rfl
  · rw [hrecords]
    rfl
  · intro hreported
    have hnone : zdo.descriptor = none := by
      by_contra hsome
      exact hreported ⟨zdo, basic, rfl, hsome⟩
    simp only [hnone, sendInterviewResult]
    exact deviceType_of_no_descriptor nwk zdo.endpoints

theorem not_successful_interview (ieee : IEEE) (nwk : NWK) (txnSeq : Byte)
    {basic : Byte → BasicReply} (hlearned : ¬ (Outcome.interview zdo basic).Learned) :
    (interviewAndDispatch ieee nwk txnSeq zdo basic).interviewState ≠ .successful := by
  by_cases hzdo : ∃ err, zdo = .failed err
  · obtain ⟨err, rfl⟩ := hzdo
    simp [interviewAndDispatch, ZdoOutcome.info, sendInterviewResult]
  · have hzdo : ∀ err, zdo ≠ .failed err := fun err h => hzdo ⟨err, h⟩
    rw [Outcome.learned_interview basic hzdo, Outcome.records_interview basic hzdo,
      ← manufacturerID_ne_zero_iff nwk zdo.descriptor zdo.endpoints] at hlearned
    rw [interviewAndDispatch_eq ieee nwk txnSeq basic hzdo]
    simp only [if_neg hlearned, sendInterviewResult]
    decide

/-- **What is sent about an outcome.**  Either it says what was reported, or the router
passes over it. -/
theorem sent_spec (ieee : IEEE) (nwk : NWK) (txnSeq : Byte) (outcome : Outcome) :
    (outcome.Learned → ∃ result, outcome.sent ieee nwk txnSeq = some result ∧
      Says ieee nwk outcome result) ∧
    (¬ outcome.Learned → ∀ result, outcome.sent ieee nwk txnSeq = some result →
      result.interviewState ≠ .successful) := by
  cases outcome with
  | interview =>
    refine ⟨fun h => ⟨_, rfl, says_interview ieee nwk txnSeq h⟩, ?_⟩
    rintro h result ⟨⟩
    exact not_successful_interview ieee nwk txnSeq h
  | reinterview basic =>
    constructor
    · rintro ⟨rs, hbasic⟩
      have hrecords : (Outcome.reinterview basic).records = rs := by
        rw [Outcome.records, hbasic, BasicReply.answers]
      have hsent : (Outcome.reinterview basic).sent ieee nwk txnSeq =
          some (sendInterviewResult ieee nwk
            (some
              { networkAddress := nwk
                manufacturer := textOf rs basicAttrManufacturerName
                model := textOf rs basicAttrModelIdentifier
                powerSource := byteOf rs basicAttrPowerSource })
            none) := by
        rw [Outcome.sent, enrichFromBasicCluster, hbasic, readBasicClusterAttributes, foldl_take]
      refine ⟨_, hsent, ?_⟩
      constructor
      case manufacturerName => rw [hrecords]; rfl
      case modelID => rw [hrecords]; rfl
      case powerSource => rw [hrecords]; rfl
      case deviceType => exact fun _ => deviceType_of_no_descriptor nwk []
      all_goals rfl
    · intro h result hsent
      rw [Outcome.sent, enrichFromBasicCluster] at hsent
      cases hbasic : basic 1 with
      | failed | noPayload => simp [hbasic, readBasicClusterAttributes] at hsent
      | records rs => exact absurd ⟨rs, hbasic⟩ h

/-! ## The router -/

theorem device_insert (name name' : String) (d : Device) :
    Devices.device (devices.insert name d) name' =
      if name' = name then d else devices.device name' := by
  unfold Devices.device
  rw [GoMap.lookup_insert_eq]
  by_cases h : name' = name
  · simp [h]
  · simp [h]

theorem device_getOrCreateAPIDevice (name name' : String) :
    (getOrCreateAPIDevice devices name).device name' = devices.device name' := by
  unfold getOrCreateAPIDevice
  cases hlookup : devices.lookup name with
  | some => rfl
  | none =>
    simp only [device_insert]
    split
    · rename_i h
      rw [h, Devices.device, hlookup, Option.getD_none]
    · rfl

def Device.told (d : Device) (faults : Faults) (result : DeviceInterviewResult) : Device :=
  if faults.spec = none then
    { spec := d.spec.populate result
      status :=
        if faults.status = none then { d.status with softwareBuildID := result.softwareBuildID }
        else d.status }
  else d

theorem device_updateStatus (fault : Option Fault) (result : DeviceInterviewResult)
    (name name' : String) (devices : Devices) :
    (updateStatus fault result name devices).1.device name' =
      if name' = name ∧ fault = none then
        { devices.device name with status :=
          { (devices.device name).status with softwareBuildID := result.softwareBuildID } }
      else devices.device name' := by
  match fault with
  | some (.get err) => simp [updateStatus]
  | some (.update err) => simp [updateStatus, device_getOrCreateAPIDevice]
  | none => simp [updateStatus, device_insert, device_getOrCreateAPIDevice]

theorem device_interviewRoute (faults : Faults) {result : DeviceInterviewResult}
    (hstate : result.interviewState = .successful) (devices : Devices) (name : String) :
    (interviewRoute faults result devices).1.device name =
      if name = normalize result.ieeeAddress then (devices.device name).told faults result
      else devices.device name := by
  rw [interviewRoute, if_neg (not_not.mpr hstate)]
  match hspec : faults.spec with
  | some (.get err) => simp [updateSpec, Device.told, hspec]
  | some (.update err) => simp [updateSpec, device_getOrCreateAPIDevice, Device.told, hspec]
  | none =>
    simp only [updateSpec, device_updateStatus, device_insert, device_getOrCreateAPIDevice,
      Device.told, hspec]
    by_cases hname : name = normalize result.ieeeAddress
    · by_cases hstatus : faults.status = none <;> simp [hname, hstatus]
    · simp [hname]

theorem deliver_spec (outcome : Outcome) (ieee : IEEE) (nwk : NWK) (txnSeq : Byte)
    (faults : Faults) (devices : Devices) :
    (outcome.Written faults → ∃ result, Says ieee nwk outcome result ∧
      ∀ name, (outcome.deliver ieee nwk txnSeq faults devices).device name =
        if name = deviceName ieee then (devices.device name).told faults result
        else devices.device name) ∧
    (¬ outcome.Written faults → ∀ name,
      (outcome.deliver ieee nwk txnSeq faults devices).device name = devices.device name) := by
  obtain ⟨hspeaks, hpassed⟩ := sent_spec ieee nwk txnSeq outcome
  constructor
  · rintro ⟨hlearned, -⟩
    obtain ⟨result, hsent, hresult⟩ := hspeaks hlearned
    refine ⟨result, hresult, fun name => ?_⟩
    rw [Outcome.deliver, hsent, device_interviewRoute faults hresult.interviewState,
      hresult.ieeeAddress, deviceName]
  · intro hwritten name
    by_cases hlearned : outcome.Learned
    · -- the specification is not written, and the status then neither
      obtain ⟨result, hsent, hresult⟩ := hspeaks hlearned
      have hspec : faults.spec ≠ none := fun h => hwritten ⟨hlearned, h⟩
      rw [Outcome.deliver, hsent, device_interviewRoute faults hresult.interviewState,
        Device.told, if_neg hspec, ite_self]
    · cases hsent : outcome.sent ieee nwk txnSeq with
      | none => rw [Outcome.deliver, hsent]
      | some result =>
        simp only [Outcome.deliver, hsent, interviewRoute, if_pos (hpassed hlearned result hsent)]

/-! ## The resource of the device -/

theorem textOf_of_not_reported {outcome : Outcome} {id : UInt32}
    (h : ¬ outcome.Reported (.basic id)) : textOf outcome.records id = "" := by
  rw [textOf, (valueOf_eq_none_iff outcome.records id).mpr h, Option.map_none, Option.getD_none]

theorem byteOf_of_not_reported {outcome : Outcome} {id : UInt32}
    (h : ¬ outcome.Reported (.basic id)) : byteOf outcome.records id = 0 := by
  rw [byteOf, (valueOf_eq_none_iff outcome.records id).mpr h, Option.map_none, Option.getD_none]

section Written

variable {ieee : IEEE} {nwk : NWK} {outcome : Outcome} {faults : Faults}
  {result : DeviceInterviewResult}

theorem told_powerSource (hresult : Says ieee nwk outcome result) (hspec : faults.spec = none)
    (h : ¬ outcome.Reported (.basic basicAttrPowerSource)) :
    (d.told faults result).spec.powerSource = "POWER_SOURCE_UNKNOWN" := by
  have hpower : result.powerSource = .unknown := by
    rw [hresult.powerSource, byteOf_of_not_reported h]
    decide
  rw [Device.told, if_pos hspec]
  simp [DeviceSpec.populate, hpower, PowerSource.name]

theorem told_softwareBuildID (hresult : Says ieee nwk outcome result) (hspec : faults.spec = none) :
    (d.told faults result).status.softwareBuildID =
      if faults.status = none then "" else d.status.softwareBuildID := by
  rw [Device.told, if_pos hspec]
  by_cases hstatus : faults.status = none
  · simp [hstatus, hresult.softwareBuildID]
  · simp [hstatus]

theorem told_addresses (hresult : Says ieee nwk outcome result) (hspec : faults.spec = none) :
    (d.told faults result).spec.ieeeAddress = ieeeText ieee ∧
      (d.told faults result).spec.networkAddress = nwkText nwk.toUInt32 := by
  rw [Device.told, if_pos hspec]
  exact ⟨hresult.ieeeAddress, congrArg nwkText hresult.networkAddress⟩

theorem told_keeps_iff (hresult : Says ieee nwk outcome result) (hwritten : outcome.Written faults) :
    (∀ f : Field, ¬ outcome.Reported f.source → (d.told faults result).field f = d.field f) ↔
      NothingToLose ieee nwk outcome faults d := by
  have hspec := hwritten.2
  obtain ⟨hieee, hnwk⟩ := told_addresses d hresult hspec
  constructor
  · intro h
    refine ⟨fun _ => ?_, fun _ hannounced => ?_, fun _ hstatus => ?_⟩
    · refine or_iff_not_imp_left.mpr fun hreported => ?_
      have hkept := Sum.inl.inj (h .powerSource hreported)
      rw [← hkept]
      exact told_powerSource d hresult hspec hreported
    · have hkept := Sum.inl.inj (h .ieeeAddress hannounced)
      have hkept' := Sum.inl.inj (h .networkAddress hannounced)
      exact ⟨hkept.symm.trans hieee, hkept'.symm.trans hnwk⟩
    · refine or_iff_not_imp_left.mpr fun hreported => ?_
      have hkept := Sum.inl.inj (h .softwareBuildID hreported)
      rw [← hkept, told_softwareBuildID d hresult hspec, if_pos hstatus]
  · intro h f hreported
    cases f with
    | powerSource =>
      have hprior := (h.powerSource hwritten).resolve_left hreported
      exact congrArg Sum.inl ((told_powerSource d hresult hspec hreported).trans hprior.symm)
    | ieeeAddress => exact congrArg Sum.inl (hieee.trans (h.addresses hwritten hreported).1.symm)
    | networkAddress =>
      exact congrArg Sum.inl (hnwk.trans (h.addresses hwritten hreported).2.symm)
    | softwareBuildID =>
      refine congrArg Sum.inl ((told_softwareBuildID d hresult hspec).trans ?_)
      split
      · rename_i hstatus
        exact ((h.softwareBuildID hwritten hstatus).resolve_left hreported).symm
      · rfl
    -- the other fields are kept when they were not reported
    | description | note => simp [Device.told, hspec, Device.field, DeviceSpec.populate]
    | type =>
      simp [Device.told, hspec, Device.field, DeviceSpec.populate, hresult.deviceType hreported]
    | dateCode =>
      simp [Device.told, hspec, Device.field, DeviceSpec.populate, hresult.dateCode]
    | model | modelID =>
      simp [Device.told, hspec, Device.field, DeviceSpec.populate, hresult.modelID,
        textOf_of_not_reported hreported]
    | vendor | manufactureName =>
      simp [Device.told, hspec, Device.field, DeviceSpec.populate, hresult.manufacturerName,
        textOf_of_not_reported hreported]
    | lastSeen =>
      rw [Device.told, if_pos hspec]
      simp only [Device.field]
      split <;> rfl

end Written

/-- **Interviews only add knowledge**, exactly when there is nothing to lose: a result carries a
power source or the resource has none but the unknown one; a re-interview finds the addresses it
writes; and the resource has no build. -/
theorem interview_only_adds_iff (outcome : Outcome) (ieee : IEEE) (nwk : NWK) (txnSeq : Byte)
    (faults : Faults) (devices : Devices) :
    OnlyAdds ieee outcome devices (outcome.deliver ieee nwk txnSeq faults devices) ↔
      NothingToLose ieee nwk outcome faults (devices.device (deviceName ieee)) := by
  obtain ⟨htold, hkept⟩ := deliver_spec outcome ieee nwk txnSeq faults devices
  by_cases hwritten : outcome.Written faults
  · obtain ⟨result, hresult, hdevice⟩ := htold hwritten
    rw [← told_keeps_iff (devices.device (deviceName ieee)) hresult hwritten]
    have hown := hdevice (deviceName ieee)
    rw [if_pos rfl] at hown
    constructor
    · intro h f hreported
      rw [← hown]
      exact h.own f hreported
    · intro h
      refine ⟨fun f hreported => ?_, fun name hname => ?_⟩
      · rw [hown]
        exact h f hreported
      · rw [hdevice name, if_neg hname]
  · have hsame := hkept hwritten
    constructor
    · intro _
      exact ⟨fun h => absurd h hwritten, fun h => absurd h hwritten, fun h => absurd h hwritten⟩
    · intro _
      exact ⟨fun f _ => by rw [hsame], fun name _ => hsame name⟩

def closetSensor : Device where
  spec :=
    { vendor := "SONOFF", model := "SNZB-02", powerSource := "POWER_SOURCE_BATTERY"
      ieeeAddress := ieeeText 0x00124b0000000001, networkAddress := nwkText 0x1234 }
  status := { softwareBuildID := "1.0.3" }

def closetDevices : Devices := GoMap.ofList [(deviceName 0x00124b0000000001, closetSensor)]

def modelOnly : Outcome := .reinterview fun _ => .records
  [ ⟨basicAttrManufacturerName, .refused 0x86, .other⟩,
    ⟨basicAttrModelIdentifier, .success, .stringValue "SNZB-02"⟩,
    ⟨basicAttrPowerSource, .refused 0x86, .other⟩ ]

/-- A device that refuses the power source loses its battery, and its build, in a re-interview. -/
theorem reinterview_forgets :
    let after := modelOnly.deliver 0x00124b0000000001 0x1234 7 {} closetDevices
    closetDevices.device (deviceName 0x00124b0000000001) = closetSensor ∧
      (after.device (deviceName 0x00124b0000000001)).spec.powerSource = "POWER_SOURCE_UNKNOWN" ∧
      (after.device (deviceName 0x00124b0000000001)).status.softwareBuildID = "" ∧
      ¬ OnlyAdds 0x00124b0000000001 modelOnly closetDevices after := by
  have hbefore : closetDevices.device (deviceName 0x00124b0000000001) = closetSensor := by
    decide +kernel
  have hpower : ((modelOnly.deliver 0x00124b0000000001 0x1234 7 {} closetDevices).device
      (deviceName 0x00124b0000000001)).spec.powerSource = "POWER_SOURCE_UNKNOWN" := by
    decide +kernel
  have hbuild : ((modelOnly.deliver 0x00124b0000000001 0x1234 7 {} closetDevices).device
      (deviceName 0x00124b0000000001)).status.softwareBuildID = "" := by
    decide +kernel
  refine ⟨hbefore, hpower, hbuild, fun h => ?_⟩
  have hrefused : ¬ modelOnly.Reported (.basic basicAttrPowerSource) := by
    simp [modelOnly, Outcome.Reported, Outcome.records, BasicReply.answers,
      basicAttrModelIdentifier, basicAttrPowerSource]
  have hkept := Sum.inl.inj (h.own .powerSource hrefused)
  rw [hpower, hbefore] at hkept
  exact absurd hkept (by decide)

end IotController.ZigbeeCoordinator.InterviewResult
