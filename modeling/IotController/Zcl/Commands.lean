/-
  From the values of a zone to the frames for its native Zigbee lights
  (`pkg/iot/handlers/nativezigbee/nativezigbee.go`, `SendCommand` in
  `modules/zigbeecoordinator/commands.go`).

  The handler puts a call of a Flush into a request, and `SendCommand` writes a frame for
  it, which is read here as `ParseMessage` reads it.
-/
import IotController.Iot.Flush
import IotController.Zcl.Parser
import IotController.ZigbeeCoordinator.AddressMap

namespace IotController.Zcl

open Foundation ZigbeeCoordinator

/-! ## The round trip -/

/-- A message of the coordinator, as it is read. -/
def heard (lib : Library) (m : OutgoingMessage) : Except ParseError ZclCommand :=
  ZclMessage.command <$>
    parseMessage lib "" 0 m.sourceEndpoint m.destinationEndpoint m.clusterID 0 m.data

def received : ZigbeeCommand → ZclCommand
  | .on => .genOnoffOn
  | .off => .genOnoffOff
  | .toggle => .genOnoffToggle
  | .setBrightness level t => .genLevelcontrolMoveToLevel level.toUInt8.toNat (transition t).toNat
  | .setColorTemp mireds t =>
    .genColorcontrolMoveToColorTemp mireds.toUInt16.toNat (transition t).toNat

theorem readUint_one (b : Byte) (rest : List Byte) :
    readUint 1 (b :: rest) = .ok (b.toNat, rest) := by
  simp [readUint, getLE]

theorem readUint_two (v : UInt16) (rest : List Byte) :
    readUint 2 (littleEndian v ++ rest) = .ok (v.toNat, rest) := by
  have hlen : (littleEndian v).length = 2 := rfl
  have hvalue : getLE (8 * 2) (littleEndian v) = v.toBitVec := getLE_putLE_self 2 v.toBitVec
  have henough : ¬(littleEndian v ++ rest).length < 2 := by
    rw [List.length_append, hlen]
    omega
  rw [readUint, if_neg henough, List.take_left' hlen, List.drop_left' hlen, hvalue]
  rfl

/-- A frame for a cluster, without a manufacturer, is read as its command and fields. -/
theorem unmarshal_local (lib : Library) {clusterID : Nat} (seq id : Byte) {c : Local}
    {widths fields : List Nat} {payload : List Byte}
    (hc : getLocalCommand clusterID 0 0 id.toNat = some c) (hlayout : c.layout = .ok widths)
    (hfields : readFields widths payload = .ok fields) :
    unmarshal lib clusterID (0x01 :: seq :: id :: payload) =
      .ok ⟨0, seq.toNat, 0, .ofCluster c fields⟩ := by
  simp [unmarshal, readUint_one, bind, Except.bind, pure, Except.pure, hc, hlayout, hfields]

theorem heard_zclFrame (lib : Library) (seq : UInt8) (c : ZigbeeCommand) (m : OutgoingMessage)
    (hcluster : m.clusterID = (zclFrame seq c).1) (hdata : m.data = (zclFrame seq c).2) :
    heard lib m = .ok (received c) := by
  unfold heard parseMessage
  rw [hcluster, hdata]
  cases c with
  | on | off | toggle =>
    simp only [zclFrame]
    rw [unmarshal_local lib seq _ rfl rfl rfl]
    rfl
  | setBrightness level t =>
    have hfields : readFields [1, 2] (level.toUInt8 :: littleEndian (transition t)) =
        .ok [level.toUInt8.toNat, (transition t).toNat] := by
      have htime := readUint_two (transition t) []
      rw [List.append_nil] at htime
      simp [readFields, readUint_one, htime, bind, Except.bind, pure, Except.pure]
    simp only [zclFrame, List.cons_append, List.nil_append]
    rw [unmarshal_local lib seq _ rfl rfl hfields]
    rfl
  | setColorTemp mireds t =>
    have hfields : readFields [2, 2] (littleEndian mireds.toUInt16 ++ littleEndian (transition t)) =
        .ok [mireds.toUInt16.toNat, (transition t).toNat] := by
      have htime := readUint_two (transition t) []
      rw [List.append_nil] at htime
      simp [readFields, readUint_two, htime, bind, Except.bind, pure, Except.pure]
    simp only [zclFrame, List.cons_append, List.nil_append]
    rw [unmarshal_local lib seq _ rfl rfl hfields]
    rfl

/-- What `SendCommand` hands to the dongle is read as the request's command, in 8 or 16 bits. -/
theorem heard_of_sendCommand (lib : Library) (answer : Option String) {req : SendCommandRequest}
    {s : Coordinator} {m : OutgoingMessage} (h : (sendCommand answer req s).2.2 = some m) :
    ∃ c, req.command = some c ∧ s.lookupNWK req.ieeeAddress = some m.short ∧
      heard lib m = .ok (received c) := by
  unfold sendCommand at h
  split at h
  · cases h
  cases hnwk : s.lookupNWK req.ieeeAddress with
  | none =>
    rw [hnwk] at h
    cases h
  | some nwk =>
    rw [hnwk] at h
    cases hcommand : req.command with
    | none =>
      rw [hcommand] at h
      cases h
    | some c =>
      rw [hcommand] at h
      refine ⟨c, rfl, ?_⟩
      cases answer with
      | none =>
        cases h
        exact ⟨rfl, heard_zclFrame lib _ c _ rfl rfl⟩
      | some =>
        cases h
        exact ⟨rfl, heard_zclFrame lib _ c _ rfl rfl⟩

/-! ## The handler -/

def defaultTransitionTime : UInt32 := 8

/-- The command of each call; a colour that ZCL has no command for becomes `On`. -/
def handlerCommand : Iot.Command → ZigbeeCommand
  | .on | .randomColor _ | .setColor _ => .on
  | .off => .off
  | .setBrightness brightness => .setBrightness (.ofNat brightness) defaultTransitionTime
  | .setColorTemp mired => .setColorTemp ⟨.ofInt 32 mired⟩ defaultTransitionTime

def handlerRequest (ieee : String) (c : Iot.Command) : SendCommandRequest where
  ieeeAddress := ieee
  command := handlerCommand c

/-- A call of the handler for a device, with its error and what the dongle is given. -/
def handlerCall (answer : Option String) (name ieee : String) (c : Iot.Command) (s : Coordinator) :
    Coordinator × Option String × Option OutgoingMessage :=
  if ieee = "" then (s, some ("device " ++ name.quote ++ " has no ieee_address"), none)
  else
    let (s, resp, m) := sendCommand answer (handlerRequest ieee c) s
    (s, if resp.error ≠ "" then some ("zigbee command failed: " ++ resp.error) else none, m)

section

variable (lib : Library) (answer : Option String) (name : String) {ieee : String} {s : Coordinator}
  {nwk : NWK} (hieee : ieee ≠ "") (hnwk : s.lookupNWK ieee = some nwk)

include hieee hnwk

theorem handlerCall_heard (c : Iot.Command) :
    ∃ m, (handlerCall answer name ieee c s).2.2 = some m ∧ m.short = nwk ∧
      heard lib m = .ok (received (handlerCommand c)) := by
  have hsent := @short_sendCommand answer (handlerRequest ieee c) s hieee (Option.some_ne_none _)
  obtain ⟨m, hm, hshort⟩ := Option.map_eq_some_iff.mp (hsent.trans hnwk)
  obtain ⟨_, hcommand, -, hheard⟩ := heard_of_sendCommand lib answer hm
  cases hcommand
  refine ⟨m, ?_, hshort, hheard⟩
  rw [handlerCall, if_neg hieee]
  exact hm

end

/-! ## The values of a zone -/

theorem brightVal_lt (z : Iot.Zone) : z.brightVal < 256 := by
  unfold Iot.Zone.brightVal
  split
  · cases z.brightnessValue with
    | negInf => decide
    | posInf => decide
    | finite v =>
      have : Compute.mathRound (min v 1 * 254) ≤ 254 := by
        refine Compute.mathRound_le ?_
        have := min_le_right v 1
        push_cast
        linarith
      simp only [Iot.deviceLevel]
      omega
  · cases z.brightness <;> decide

theorem tempVal_bounds (z : Iot.Zone) :
    0 ≤ z.tempVal ∧ (z.tempVal < 65536 ↔ z.colorTempKelvin ≤ 0 ∨ 16 ≤ z.colorTempKelvin) := by
  unfold Iot.Zone.tempVal Iot.kelvinToMireds
  split
  · rename_i hk
    rw [if_neg (not_le.mpr hk)]
    have hpos : (0 : ℚ) < z.colorTempKelvin := by exact_mod_cast hk
    refine ⟨Compute.le_mathRound (by push_cast; positivity), fun hlt => ?_, fun hwarm => ?_⟩
    · -- at 15 K and below there are at least 66666 mireds
      refine Or.inr (not_lt.mp fun hcold => absurd hlt (not_lt.mpr ?_))
      refine Compute.le_mathRound ?_
      have : (z.colorTempKelvin : ℚ) ≤ 15 := by exact_mod_cast Int.lt_add_one_iff.mp hcold
      rw [le_div_iff₀ hpos]
      push_cast
      linarith
    · refine Int.lt_of_le_of_lt (Compute.mathRound_le ?_ (n := 62500)) (by norm_num)
      have : (16 : ℚ) ≤ z.colorTempKelvin := by exact_mod_cast hwarm.resolve_left (not_le.mpr hk)
      rw [div_le_iff₀ hpos]
      push_cast
      linarith
  · rename_i hk
    refine ⟨?_, fun _ => Or.inl (not_lt.mp hk), fun _ => ?_⟩ <;> cases z.colorTemp <;> decide

/-- **A zone's values at its native lights.**  The frame for the brightness is read as the
zone's brightness, that for the colour temperature as its mireds unless the zone asks for 1 K to
15 K, for which there is no number of 16 bits. -/
theorem zone_values_heard_iff (lib : Library) (answer : Option String) (name : String)
    {ieee : String} {s : Coordinator} {nwk : NWK} (hieee : ieee ≠ "")
    (hnwk : s.lookupNWK ieee = some nwk) (z : Iot.Zone) :
    ∃ bright temp,
      (handlerCall answer name ieee (.setBrightness z.brightVal) s).2.2 = some bright ∧
      bright.short = nwk ∧ heard lib bright = .ok (.genLevelcontrolMoveToLevel z.brightVal 8) ∧
      (handlerCall answer name ieee (.setColorTemp z.tempVal) s).2.2 = some temp ∧
      temp.short = nwk ∧
      (heard lib temp = .ok (.genColorcontrolMoveToColorTemp z.tempVal.toNat 8) ↔
        z.colorTempKelvin ≤ 0 ∨ 16 ≤ z.colorTempKelvin) := by
  obtain ⟨bright, hbright, hbrightTo, hbrightAs⟩ :=
    handlerCall_heard lib answer name hieee hnwk (.setBrightness z.brightVal)
  obtain ⟨temp, htemp, htempTo, htempAs⟩ :=
    handlerCall_heard lib answer name hieee hnwk (.setColorTemp z.tempVal)
  refine ⟨bright, temp, hbright, hbrightTo, ?_, htemp, htempTo, ?_⟩
  · have hlevel : (UInt32.ofNat z.brightVal).toUInt8.toNat = z.brightVal := by
      have := brightVal_lt z
      simp only [UInt32.toNat_toUInt8, UInt32.toNat_ofNat']
      omega
    rw [hbrightAs]
    simp only [handlerCommand, received, hlevel]
    rfl
  · obtain ⟨hnonneg, hfits⟩ := tempVal_bounds z
    have hmireds : (UInt32.ofBitVec (.ofInt 32 z.tempVal)).toUInt16.toNat =
        z.tempVal.toNat % 65536 := by
      rw [UInt32.toNat_toUInt16]
      show (BitVec.ofInt 32 z.tempVal).toNat % 65536 = _
      rw [BitVec.toNat_ofInt]
      omega
    have htime : (transition defaultTransitionTime).toNat = 8 := rfl
    rw [htempAs, ← hfits]
    simp only [handlerCommand, received, hmireds, htime, Except.ok.injEq,
      ZclCommand.genColorcontrolMoveToColorTemp.injEq, and_true]
    omega

def joinedLamp : Coordinator where
  stateFile := false
  ieeeToNWK := GoMap.ofList [("00158d0001a2b3c4", 0x1a2b)]

def dimWarm : Iot.Zone := { brightness := .dim, colorTempKelvin := 2700 }

theorem zone_values_heard_dim :
    joinedLamp.lookupNWK "0x00158d0001a2b3c4" = some 0x1a2b ∧ ∃ bright temp,
      (handlerCall none "lamp" "0x00158d0001a2b3c4" (.setBrightness dimWarm.brightVal)
        joinedLamp).2.2 = some bright ∧
      (handlerCall none "lamp" "0x00158d0001a2b3c4" (.setColorTemp dimWarm.tempVal)
        joinedLamp).2.2 = some temp ∧
      heard ⟨fun id _ => .error (.unknownGlobal id), fun _ => none⟩ bright =
        .ok (.genLevelcontrolMoveToLevel 110 8) ∧
      heard ⟨fun id _ => .error (.unknownGlobal id), fun _ => none⟩ temp =
        .ok (.genColorcontrolMoveToColorTemp 370 8) := by
  have hnwk : joinedLamp.lookupNWK "0x00158d0001a2b3c4" = some 0x1a2b := by decide
  obtain ⟨bright, temp, hbright, -, hdim, htemp, -, hwarm⟩ := zone_values_heard_iff
    ⟨fun id _ => .error (.unknownGlobal id), fun _ => none⟩ none "lamp" (by decide) hnwk dimWarm
  have hmireds : dimWarm.tempVal.toNat = 370 := by decide +kernel
  rw [hmireds] at hwarm
  exact ⟨hnwk, bright, temp, hbright, htemp, hdim, hwarm.mpr (Or.inr (by decide))⟩

end IotController.Zcl
