/-
  The ZoneKeeper's zones and two of its calls
  (`modules/zonekeeper/zonekeeper.go`).

  `GetZone` hands out the zone of a name, and makes it from the Zone resource the first
  time.  `AdjustBrightness` changes the stored values, flushes them and writes the Status;
  `SetScene` looks a Scene up, changes the stored values and writes the Status.  What a call
  sends to the devices is part of its answer.
-/
import IotController.Iot.Flush
import IotController.ZoneKeeper.Handlers

namespace IotController.ZoneKeeper

open Foundation Api Proto Compute
open Iot

/-- The `Status` of a Zone resource. -/
structure ZoneStatus where
  state : String := ""
  brightness : String := ""
  colorTemperature : String := ""
  color : String := ""
  deriving DecidableEq

def apiStatus (z : Zone) : ZoneStatus where
  state := z.state.name
  brightness := z.brightness.name
  colorTemperature := z.colorTemp.name
  color := z.color

/-! ## Zones -/

/-- The zones of the ZoneKeeper. -/
structure Keeper where
  zones : GoMap String LiveZone := ∅

/-- What a `Get` returns. -/
inductive Got (R : Type) where
  | found (resource : R)
  | notFound (text : String)
  | failed (text : String)

/-- What the API server answers about a Zone resource, to `Get` and to `Create`. -/
structure ZoneResource where
  get : Got ZoneStatus
  create : Option String := none

def getOrCreateAPIZone (api : ZoneResource) : Except String ZoneStatus :=
  match api.get with
  | .found status => .ok status
  | .notFound _ =>
    match api.create with
    | some err => .error err
    | none => .ok {}
  | .failed err => .error err

def initialValues (status : ZoneStatus) : Zone :=
  let state := (ZoneState.value status.state).getD .unspecified
  let brightness := (Brightness.value status.brightness).getD .unspecified
  let colorTemp := (ColorTemperature.value status.colorTemperature).getD .unspecified
  let state := if state = .unspecified then .on else state
  let brightness := if brightness = .unspecified then .full else brightness
  let colorTemp := if colorTemp = .unspecified then .firstlight else colorTemp
  ((({} : Zone).setState state).setBrightness brightness).setColorTemperature colorTemp

def getZone (api : ZoneResource) (name : String) (k : Keeper) : Except String (LiveZone × Keeper) :=
  match k.zones.lookup name with
  | some z => .ok (z, k)
  | none =>
    if h : name = "" then .error "failed to create new zone: zone name required"
    else
      match getOrCreateAPIZone api with
      | .error err => .error ("failed to get api zone: " ++ err)
      | .ok status =>
        let z : LiveZone :=
          { name := name, values := initialValues status, devices := [], named := h
            distinct := List.nodup_nil }
        .ok (z, { zones := k.zones.insert name z })

/-! ## Calls -/

/-- The errors of the RPCs. -/
inductive CallError where
  | message (text : String)
  /-- a gRPC error with the code NotFound -/
  | notFound (text : String)
  | flush (err : FlushError)
  deriving DecidableEq

/-- What a call leaves and returns. -/
structure Answer where
  keeper : Keeper
  sent : List (String × Command) := []
  status : Option ZoneStatus := none
  error : Option CallError := none

def adjustBrightnessCall (api : ZoneResource) (env : FlushEnv) (name : String) (delta : Int)
    (k : Keeper) : Answer :=
  match getZone api name k with
  | .error err => { keeper := k, error := some (.message err) }
  | .ok (z, k) =>
    if delta = 0 then { keeper := k }
    else
      let f := flush env unlimited { z with values := adjustBrightness delta z.values }
      { keeper := { zones := k.zones.insert name f.zone }
        sent := f.sent
        status := some (apiStatus f.zone.values)
        error := f.error.map .flush }

/-- The Scenes there are, and the error, if there is one, that keeps a `Get` from
finding out. -/
structure SceneResources where
  scenes : String → Option Scene
  fault : Option String := none

def SceneResources.get (api : SceneResources) (scene : String) : Got Scene :=
  match api.fault with
  | some err => .failed err
  | none =>
    match api.scenes scene with
    | some resource => .found resource
    | none => .notFound ("scenes.iot.iot \"" ++ scene ++ "\" not found")

/-- `SetScene`, the call.  A lookup error other than NotFound makes it an empty Scene. -/
def setSceneCall (api : ZoneResource) (scenes : SceneResources) (name scene : String) (k : Keeper) :
    Answer :=
  if scene = "" then
    { keeper := k, error := some (.message "unable to operate on empty scene name") }
  else
    match getZone api name k with
    | .error err => { keeper := k, error := some (.message err) }
    | .ok (z, k) =>
      let apply (resource : Scene) : Answer :=
        { keeper :=
            { zones := k.zones.insert name { z with values := setZoneScene resource z.values } }
          status := some (apiStatus (setZoneScene resource z.values)) }
      match scenes.get scene with
      | .notFound text => { keeper := k, error := some (.notFound text) }
      | .failed _ => apply {}
      | .found resource => apply resource

end IotController.ZoneKeeper
