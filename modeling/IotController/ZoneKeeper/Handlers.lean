/-
  What the ZoneKeeper's calls do to a zone
  (`modules/zonekeeper/zonekeeper.go`).

  Each call that names a zone changes the zone's stored values and then flushes them to its
  devices.  The stored values change before the flush can fail, so a call whose outcome is
  `lost` has taken effect like one that succeeded.

  Devices, the flush itself and the Status resource have no counterpart here.
-/
import IotController.Conditioner.World
import IotController.Iot.Zone

namespace IotController.ZoneKeeper

open Api Proto Compute Iot
open Conditioner

/-- Zero fields are not applied, and an axis's continuous form goes before its enumeration. -/
def applyValues (v : ApplyValues) (z : Zone) : Zone :=
  let z := if v.state ≠ .unspecified then z.setState v.state else z
  let z :=
    if v.brightnessValue.pos then z.setBrightnessValue v.brightnessValue
    else if v.brightness ≠ .unspecified then z.setBrightness v.brightness
    else z
  let z :=
    if 0 < v.colorTemperatureKelvin then z.setColorTemperatureKelvin v.colorTemperatureKelvin
    else if v.colorTemperature ≠ .unspecified then z.setColorTemperature v.colorTemperature
    else z
  if v.color ≠ "" then z.setColor v.color else z

/-- A step of zero changes nothing, any other one also turns the zone on. -/
def adjustBrightness (delta : Int) (z : Zone) : Zone :=
  let on (z : Zone) : Zone := if z.state ≠ .on then z.setState .on else z
  if 0 < delta then on (Zone.incrementBrightness^[delta.toNat] z)
  else if delta < 0 then on (Zone.decrementBrightness^[(-delta).toNat] z)
  else z

/-- The fields of the Scene that name a value. -/
def setZoneScene (scene : Scene) (z : Zone) : Zone :=
  let brightness := (Brightness.value scene.brightness).getD .unspecified
  let colorTemp := (ColorTemperature.value scene.colorTemperature).getD .unspecified
  let z := if brightness ≠ .unspecified then z.setBrightness brightness else z
  let z := if colorTemp ≠ .unspecified then z.setColorTemperature colorTemp else z
  if scene.color ≠ "" then z.setColor scene.color else z

def effect (scenes : String → Option Scene) (z : Zone) : Call → Zone
  | .setState _ state => z.setState state
  | .setScene _ scene =>
    match scenes scene with
    | some scene => setZoneScene scene z
    | none => z
  | .adjustBrightness _ delta => adjustBrightness delta z
  | .applyValues _ values => applyValues values z

/-! ## A log of calls -/

def effective : Outcome → Bool
  | .ok => true
  | .failed _ => false
  | .lost _ => true

/-- A zone's values after a log of calls, newest first; `scenes n` are the Scenes after `n`
calls. -/
def stored (scenes : Nat → String → Option Scene) (initial : Zone) (zone : String) :
    List Sent → Zone
  | [] => initial
  | e :: older =>
    if e.call.zone = zone ∧ effective e.outcome = true then
      effect (scenes older.length) (stored scenes initial zone older) e.call
    else stored scenes initial zone older

section Stored

variable (scenes : Nat → String → Option Scene) (initial : Zone) {zone : String}

theorem stored_applied (zone : String) (v : ApplyValues) (log : List Sent) :
    stored scenes initial zone (⟨.applyValues zone v, .ok⟩ :: log) =
      applyValues v (stored scenes initial zone log) :=
  if_pos ⟨rfl, rfl⟩

theorem stored_cons_of_not {e : Sent} (h : ¬ (e.call.zone = zone ∧ effective e.outcome = true))
    (log : List Sent) :
    stored scenes initial zone (e :: log) = stored scenes initial zone log :=
  if_neg h

end Stored

/-- The zone has the target's value on every axis set, in the continuous form where there is
one. -/
structure Agrees (z : Zone) (target : ApplyValues) : Prop where
  state : target.state ≠ .unspecified → z.state = target.state
  brightnessValue : target.brightnessValue.pos = true → z.brightnessValue = target.brightnessValue
  brightness : target.brightnessValue.pos = false → target.brightness ≠ .unspecified →
    z.brightness = target.brightness
  colorTempKelvin : 0 < target.colorTemperatureKelvin →
    z.colorTempKelvin = target.colorTemperatureKelvin
  colorTemp : ¬ 0 < target.colorTemperatureKelvin → target.colorTemperature ≠ .unspecified →
    z.colorTemp = target.colorTemperature
  color : target.color ≠ "" → z.color = target.color

theorem applyValues_eq (v : ApplyValues) (z : Zone) :
    applyValues v z =
      { state := if v.state ≠ .unspecified then v.state else z.state
        brightness :=
          if v.brightnessValue.pos then brightnessNearestEnum v.brightnessValue
          else if v.brightness ≠ .unspecified then v.brightness else z.brightness
        brightnessValue :=
          if v.brightnessValue.pos then v.brightnessValue
          else if v.brightness ≠ .unspecified then brightnessCanonical v.brightness
          else z.brightnessValue
        colorTemp :=
          if 0 < v.colorTemperatureKelvin then colorTempNearestEnum v.colorTemperatureKelvin
          else if v.colorTemperature ≠ .unspecified then v.colorTemperature else z.colorTemp
        colorTempKelvin :=
          if 0 < v.colorTemperatureKelvin then v.colorTemperatureKelvin
          else if v.colorTemperature ≠ .unspecified then colorTempCanonical v.colorTemperature
          else z.colorTempKelvin
        color := if v.color ≠ "" then v.color else z.color } := by
  unfold applyValues Zone.setState Zone.setBrightnessValue Zone.setBrightness
    Zone.setColorTemperatureKelvin Zone.setColorTemperature Zone.setColor
  split_ifs <;> rfl

theorem applyValues_agrees (v : ApplyValues) (z : Zone) : Agrees (applyValues v z) v := by
  rw [applyValues_eq]
  exact
    { state := fun h => if_pos h
      brightnessValue := fun h => if_pos h
      brightness := fun h h' => by simp only [h, Bool.false_eq_true, if_false, if_pos h']
      colorTempKelvin := fun h => if_pos h
      colorTemp := fun h h' => by simp only [if_neg h, if_pos h']
      color := fun h => if_pos h }

end IotController.ZoneKeeper
