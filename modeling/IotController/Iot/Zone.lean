/-
  The values a Zone stores and their setters
  (`pkg/iot/zone.go`, `pkg/iot/canonical.go`).

  Brightness and colour temperature are stored twice, as an enumeration value
  for the operator and as a number for the devices.  A setter of one form
  derives the other through the canonical tables; the two brightness steps
  change the enumeration value alone, as the source does.

  The table entries and the distances between them are exact rationals, where
  the source divides and subtracts float64 values.
-/
import IotController.Compute.Values

namespace IotController.Iot

open Proto Compute

/-! ## Canonical values -/

def brightnessTable : List (Brightness × ℚ) :=
  [(.verylow, 70 / 254), (.low, 90 / 254), (.lowplus, 95 / 254), (.dim, 110 / 254),
    (.dimplus, 125 / 254), (.full, 1)]

def colorTempTable : List (ColorTemperature × Int) :=
  [(.firstlight, 10000), (.morning, 5000), (.day, 3333), (.lateafternoon, 2500), (.evening, 2000)]

section Tables

variable {E V : Type} [DecidableEq E] [AddCommGroup V] [LinearOrder V]

def canonical (table : List (E × V)) (e : E) : V :=
  ((table.find? fun p => p.1 = e).map Prod.snd).getD 0

def nearestStep (v : V) (best p : E × V) : E × V :=
  if |v - p.2| < |v - best.2| then p else best

def nearest (v : V) : List (E × V) → Option E
  | [] => none
  | best :: rest => some (rest.foldl (nearestStep v) best).1

end Tables

def brightnessCanonical (b : Brightness) : Double := .finite (canonical brightnessTable b)

/-- At infinity every distance is infinite, and none is smaller than that of the first entry. -/
def brightnessNearestEnum : Double → Brightness
  | .negInf => .unspecified
  | .posInf => .verylow
  | .finite v => if v ≤ 0 then .unspecified else (nearest v brightnessTable).getD .unspecified

def colorTempCanonical (c : ColorTemperature) : Int := canonical colorTempTable c

def colorTempNearestEnum (k : Int) : ColorTemperature :=
  if k ≤ 0 then .unspecified else (nearest k colorTempTable).getD .unspecified

/-! ## The zone -/

/-- The values of a zone. -/
structure Zone where
  brightness : Brightness := .unspecified
  brightnessValue : Double := 0
  color : String := ""
  colorTemp : ColorTemperature := .unspecified
  colorTempKelvin : Int := 0
  state : ZoneState := .unspecified
  deriving DecidableEq

namespace Zone

def setState (z : Zone) (state : ZoneState) : Zone := { z with state := state }

def setBrightness (z : Zone) (brightness : Brightness) : Zone :=
  { z with brightness := brightness, brightnessValue := brightnessCanonical brightness }

def setBrightnessValue (z : Zone) (value : Double) : Zone :=
  { z with brightnessValue := value, brightness := brightnessNearestEnum value }

def setColorTemperature (z : Zone) (colorTemp : ColorTemperature) : Zone :=
  { z with colorTemp := colorTemp, colorTempKelvin := colorTempCanonical colorTemp }

def setColorTemperatureKelvin (z : Zone) (kelvin : Int) : Zone :=
  { z with colorTempKelvin := kelvin, colorTemp := colorTempNearestEnum kelvin }

def setColor (z : Zone) (color : String) : Zone := { z with color := color }

def incrementBrightness (z : Zone) : Zone :=
  match z.brightness with
  | .unspecified => { z with brightness := .full }
  | .verylow => { z with brightness := .low }
  | .low => { z with brightness := .lowplus }
  | .lowplus => { z with brightness := .dim }
  | .dim => { z with brightness := .dimplus }
  | .dimplus => { z with brightness := .full }
  | .full => z

def decrementBrightness (z : Zone) : Zone :=
  match z.brightness with
  | .unspecified => { z with brightness := .full }
  | .full => { z with brightness := .dimplus }
  | .dimplus => { z with brightness := .dim }
  | .dim => { z with brightness := .lowplus }
  | .lowplus => { z with brightness := .low }
  | .low => { z with brightness := .verylow }
  | .verylow => z

end Zone

/-- The setters of a zone. -/
inductive Setter where
  | setState (state : ZoneState)
  | setBrightness (brightness : Brightness)
  | setBrightnessValue (value : Double)
  | incrementBrightness
  | decrementBrightness
  | setColorTemperature (colorTemp : ColorTemperature)
  | setColorTemperatureKelvin (kelvin : Int)
  | setColor (color : String)

def Setter.apply (z : Zone) : Setter → Zone
  | setState state => z.setState state
  | setBrightness brightness => z.setBrightness brightness
  | setBrightnessValue value => z.setBrightnessValue value
  | incrementBrightness => z.incrementBrightness
  | decrementBrightness => z.decrementBrightness
  | setColorTemperature colorTemp => z.setColorTemperature colorTemp
  | setColorTemperatureKelvin kelvin => z.setColorTemperatureKelvin kelvin
  | setColor color => z.setColor color

end IotController.Iot
