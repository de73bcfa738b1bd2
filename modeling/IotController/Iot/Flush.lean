/-
  Pushing a zone out to its devices (`Flush` and the handlers
  it calls in `pkg/iot/zone.go`).

  A Flush is up to three loops over the devices of the zone.  Each loop has one command for
  the devices of some types; it skips a device whose cache entry of its kind is fresh and
  has the wanted value, and records what a device has accepted.

  A loop meets each device once, so the clock readings and the answers of a Flush are given
  by device and kind.

  `brightVal` is computed with exact rationals, where the source multiplies float64 values.
-/
import IotController.Compute.Fade
import IotController.Foundation.Numerals
import IotController.Foundation.Run

namespace IotController.Iot

open Foundation Api Proto Compute

/-! ## Devices and commands -/

/-- A device of a zone. -/
structure ZoneDevice where
  name : String
  type : DeviceType
  deriving DecidableEq

/-- A command to a device. -/
inductive Command where
  | on
  | off
  | setBrightness (level : Nat)
  | setColorTemp (mireds : Int)
  | setColor (hex : String)
  | randomColor (pool : List String)
  deriving DecidableEq

def switchable : DeviceType → Bool
  | .basicLight => true
  | .colorLight => true
  | .relay => true
  | _ => false

def dimmable : DeviceType → Bool
  | .basicLight => true
  | .colorLight => true
  | _ => false

def colorable : DeviceType → Bool
  | .colorLight => true
  | _ => false

/-! ## The cache -/

/-- What an entry of the cache is about. -/
inductive AppliedKind where
  | state
  | brightness
  | colorTemp
  | color
  deriving DecidableEq

/-- A key of the cache. -/
structure AppliedKey where
  device : String
  kind : AppliedKind
  deriving DecidableEq

/-- What was last sent, and when. -/
structure AppliedRecord where
  value : String
  ts : Time
  deriving DecidableEq

def defaultRefreshAge : Duration := 5 * minute

/-- `shouldSuppress`, for the entry there is, at the time it reads. -/
def shouldSuppress (entry : Option AppliedRecord) (refreshAge : Duration) (now : Time)
    (desired : String) : Bool :=
  match entry with
  | none => false
  | some record => if refreshAge ≤ now.sub record.ts then false else record.value = desired

/-! ## The zone with its devices -/

def defaultColorPool : List String := ["#006c7f", "#e32636", "#b0bf1a"]

/-- `Zone`: the values it stores, its devices and what they were last sent. -/
structure LiveZone where
  name : String
  values : Zone := {}
  colorPool : List String := defaultColorPool
  devices : List ZoneDevice := []
  applied : GoMap AppliedKey AppliedRecord := ∅
  refreshAge : Duration := defaultRefreshAge
  /-- `NewZone` takes no empty name -/
  named : name ≠ ""
  /-- `SetDevice` replaces the device of a name it finds -/
  distinct : (devices.map ZoneDevice.name).Nodup

abbrev FlushLimiter : Type := Option (String → Bool)

def admits (limiter : FlushLimiter) (device : String) : Bool := limiter.all fun f => f device

def unlimited : FlushLimiter := some fun _ => true

/-- What a Flush meets. -/
structure FlushEnv where
  range : MapOrder
  now : AppliedKind → String → Time
  sentAt : AppliedKind → String → Time
  reply : Command → String → Option String

/-! ## The loops -/

/-- What a Flush has done so far. -/
structure Progress where
  applied : GoMap AppliedKey AppliedRecord
  sent : List (String × Command) := []
  errs : List String := []

/-- One loop: its kind, the types it sends to, the command, and the command's text in the
cache. -/
structure Loop where
  kind : AppliedKind
  types : DeviceType → Bool
  desired : String
  command : Command

section Loops

variable (env : FlushEnv) (limiter : FlushLimiter) (z : LiveZone)

/-- One device in a loop. -/
def visit (l : Loop) (p : Progress) (d : ZoneDevice) : Progress :=
  if l.types d.type = false then p
  else if admits limiter d.name = false then p
  else if shouldSuppress (p.applied.lookup ⟨d.name, l.kind⟩) z.refreshAge (env.now l.kind d.name)
      l.desired then p
  else
    match env.reply l.command d.name with
    | some err => { p with errs := p.errs ++ [err] }
    | none =>
      { p with
        sent := p.sent ++ [(d.name, l.command)]
        applied := p.applied.insert ⟨d.name, l.kind⟩ ⟨l.desired, env.sentAt l.kind d.name⟩ }

/-- A loop over the zone's devices. -/
def handle (n : Nat) (l : Loop) (p : Progress) : Progress :=
  run (visit env limiter z l) p (env.range.order n z.devices)

def visitRandomColor (p : Progress) (d : ZoneDevice) : Progress :=
  if colorable d.type = false then p
  else if admits limiter d.name = false then p
  else
    match env.reply (.randomColor z.colorPool) d.name with
    | some err => { p with errs := p.errs ++ [err] }
    | none => { p with sent := p.sent ++ [(d.name, .randomColor z.colorPool)] }

def handleRandomColor (n : Nat) (p : Progress) : Progress :=
  run (visitRandomColor env limiter z) p (env.range.order n z.devices)

end Loops

/-! ## What the values mean to a device -/

def defaultBrightnessMap : Brightness → Nat
  | .full => 254
  | .dimplus => 125
  | .dim => 110
  | .lowplus => 95
  | .low => 90
  | .verylow => 70
  | .unspecified => 0

def defaultColorTemperatureMap : ColorTemperature → Int
  | .firstlight => 100
  | .morning => 200
  | .day => 300
  | .lateafternoon => 300
  | .evening => 500
  | .unspecified => 0

def kelvinToMireds (k : Int) : Int := if k ≤ 0 then 0 else mathRound (1000000 / k)

/-- A number in [0, 1] on the scale of the devices; a larger one counts as 1. -/
def deviceLevel : Double → Nat
  | .negInf => 0
  | .finite v => (mathRound (min v 1 * 254)).toNat
  | .posInf => 254

namespace Zone

def brightVal (z : Zone) : Nat :=
  if z.brightnessValue.pos then deviceLevel z.brightnessValue else defaultBrightnessMap z.brightness

def tempVal (z : Zone) : Int :=
  if 0 < z.colorTempKelvin then kelvinToMireds z.colorTempKelvin
  else defaultColorTemperatureMap z.colorTemp

/-- The loop of `handleOn`; `OFFTIMER` has the same text in the cache as `ON`. -/
def onLoop : Loop := ⟨.state, switchable, ZoneState.on.name, .on⟩

def offLoop : Loop := ⟨.state, switchable, ZoneState.off.name, .off⟩

def colorTemperatureLoop (z : Zone) : Loop :=
  ⟨.colorTemp, colorable, z.tempVal.repr, .setColorTemp z.tempVal⟩

def brightnessLoop (z : Zone) : Loop :=
  ⟨.brightness, dimmable, z.brightVal.repr, .setBrightness z.brightVal⟩

def colorLoop (z : Zone) : Loop := ⟨.color, colorable, z.color, .setColor z.color⟩

@[simp] theorem onLoop_kind : onLoop.kind = .state := rfl

@[simp] theorem offLoop_kind : offLoop.kind = .state := rfl

@[simp] theorem colorTemperatureLoop_kind (z : Zone) : z.colorTemperatureLoop.kind = .colorTemp :=
  rfl

@[simp] theorem brightnessLoop_kind (z : Zone) : z.brightnessLoop.kind = .brightness := rfl

@[simp] theorem colorLoop_kind (z : Zone) : z.colorLoop.kind = .color := rfl

end Zone

section Handlers

variable (env : FlushEnv) (limiter : FlushLimiter) (z : LiveZone) (n : Nat) (p : Progress)

def handleOn : Progress := handle env limiter z n Zone.onLoop p

def handleOff : Progress := handle env limiter z n Zone.offLoop p

def handleColorTemperature : Progress := handle env limiter z n z.values.colorTemperatureLoop p

def handleBrightness : Progress := handle env limiter z n z.values.brightnessLoop p

def handleColor : Progress := handle env limiter z n z.values.colorLoop p

end Handlers

/-! ## Flush -/

/-- The errors of `Flush`. -/
inductive FlushError where
  | unnamed
  | handlers (errs : List String)
  deriving DecidableEq

/-- What a Flush leaves. -/
structure Flushed where
  zone : LiveZone
  sent : List (String × Command) := []
  error : Option FlushError := none

def flushState (env : FlushEnv) (limiter : FlushLimiter) (z : LiveZone) (p : Progress) : Progress :=
  match z.values.state with
  | .unspecified => p
  | .on => handleOn env limiter z 0 p
  | .offtimer => handleOn env limiter z 0 p
  | .off => handleOff env limiter z 0 p
  | .color => handleColor env limiter z 0 p
  | .randomcolor => handleRandomColor env limiter z 0 p

def flushBrightness (env : FlushEnv) (limiter : FlushLimiter) (z : LiveZone) (p : Progress) :
    Progress :=
  match z.values.state with
  | .off => p
  | _ => handleBrightness env limiter z 1 p

def flushColorTemperature (env : FlushEnv) (limiter : FlushLimiter) (z : LiveZone) (p : Progress) :
    Progress :=
  match z.values.state with
  | .randomcolor => p
  | .color => p
  | .off => p
  | _ => handleColorTemperature env limiter z 2 p

/-- `Flush`: the state, the brightness and the colour temperature. -/
def flush (env : FlushEnv) (limiter : FlushLimiter) (z : LiveZone) : Flushed :=
  if z.name = "" then { zone := z, error := some .unnamed }
  else if z.values.state = .unspecified then
    -- the state is raised off the ground, and nothing is sent
    { zone := { z with values := z.values.setState .off } }
  else
    let p := flushColorTemperature env limiter z
      (flushBrightness env limiter z (flushState env limiter z { applied := z.applied }))
    { zone := { z with applied := p.applied }
      sent := p.sent
      error := if p.errs = [] then none else some (.handlers p.errs) }

/-! ## One device's share -/

def commandsTo (name : String) (sent : List (String × Command)) : List Command :=
  (sent.filter fun c => c.1 = name).map Prod.snd

theorem commandsTo_append (name : String) (first second : List (String × Command)) :
    commandsTo name (first ++ second) = commandsTo name first ++ commandsTo name second := by
  simp [commandsTo]

theorem commandsTo_self (name : String) (c : Command) : commandsTo name [(name, c)] = [c] := by
  simp [commandsTo]

theorem commandsTo_of_ne {name other : String} (h : name ≠ other) (c : Command) :
    commandsTo name [(other, c)] = [] := by
  simp [commandsTo, h.symm]

/-- One device's part of a Flush. -/
@[ext] structure DeviceView where
  applied : AppliedKind → Option AppliedRecord
  sent : List Command := []

def Progress.view (p : Progress) (name : String) : DeviceView where
  applied kind := p.applied.lookup ⟨name, kind⟩
  sent := commandsTo name p.sent

section Views

variable (env : FlushEnv) (limiter : FlushLimiter) (z : LiveZone)

def DeviceView.through (d : ZoneDevice) (l : Loop) (v : DeviceView) : DeviceView :=
  if l.types d.type = true ∧ admits limiter d.name = true ∧
      shouldSuppress (v.applied l.kind) z.refreshAge (env.now l.kind d.name) l.desired = false ∧
      env.reply l.command d.name = none then
    { applied := Function.update v.applied l.kind (some ⟨l.desired, env.sentAt l.kind d.name⟩)
      sent := v.sent ++ [l.command] }
  else v

/-- The loop of `handleRandomColor`, as one device sees it. -/
def DeviceView.throughRandomColor (d : ZoneDevice) (v : DeviceView) : DeviceView :=
  if colorable d.type = true ∧ admits limiter d.name = true ∧
      env.reply (.randomColor z.colorPool) d.name = none then
    { v with sent := v.sent ++ [.randomColor z.colorPool] }
  else v

variable {env limiter z}

theorem view_visit_self (l : Loop) (p : Progress) (d : ZoneDevice) :
    (visit env limiter z l p d).view d.name = (p.view d.name).through env limiter z d l := by
  have hentry : (p.view d.name).applied l.kind = p.applied.lookup ⟨d.name, l.kind⟩ := rfl
  unfold visit DeviceView.through
  rw [hentry]
  cases l.types d.type
  · simp
  cases admits limiter d.name
  · simp
  cases shouldSuppress (p.applied.lookup ⟨d.name, l.kind⟩) z.refreshAge (env.now l.kind d.name)
    l.desired
  swap
  · simp
  cases env.reply l.command d.name with
  | some => simp [Progress.view]
  | none =>
    simp only [Bool.true_eq_false, Bool.false_eq_true, if_false, and_self, if_true]
    refine DeviceView.ext (funext fun kind => ?_) ?_
    · show (p.applied.insert _ _).lookup _ =
        Function.update (p.view d.name).applied l.kind (some _) kind
      rw [GoMap.lookup_insert_eq, Function.update_apply]
      simp [Progress.view]
    · show commandsTo d.name (p.sent ++ _) = _
      rw [commandsTo_append, commandsTo_self]
      rfl

theorem view_visit_of_ne (l : Loop) (p : Progress) {d : ZoneDevice} {name : String}
    (h : name ≠ d.name) : (visit env limiter z l p d).view name = p.view name := by
  unfold visit
  split_ifs with htypes hadmits hfresh
  · rfl
  · rfl
  · rfl
  · cases env.reply l.command d.name with
    | some => rfl
    | none => simp [Progress.view, h, commandsTo_append, commandsTo_of_ne h]

theorem view_visitRandomColor_self (p : Progress) (d : ZoneDevice) :
    (visitRandomColor env limiter z p d).view d.name =
      (p.view d.name).throughRandomColor env limiter z d := by
  unfold visitRandomColor DeviceView.throughRandomColor
  cases colorable d.type
  · simp
  cases admits limiter d.name
  · simp
  cases env.reply (.randomColor z.colorPool) d.name with
  | some => simp [Progress.view]
  | none => simp [Progress.view, commandsTo_append, commandsTo_self]

theorem view_visitRandomColor_of_ne (p : Progress) {d : ZoneDevice} {name : String}
    (h : name ≠ d.name) : (visitRandomColor env limiter z p d).view name = p.view name := by
  unfold visitRandomColor
  split_ifs with htypes hadmits
  · rfl
  · rfl
  · cases env.reply (.randomColor z.colorPool) d.name with
    | some => rfl
    | none => simp [Progress.view, commandsTo_append, commandsTo_of_ne h]

theorem view_loop {turn : Progress → ZoneDevice → Progress} {through : DeviceView → DeviceView}
    {d : ZoneDevice} (hd : d ∈ z.devices)
    (hself : ∀ p, (turn p d).view d.name = through (p.view d.name))
    (hothers : ∀ p {e : ZoneDevice}, d.name ≠ e.name → (turn p e).view d.name = p.view d.name)
    (n : Nat) (p : Progress) :
    (run turn p (env.range.order n z.devices)).view d.name = through (p.view d.name) := by
  have hdistinct : (env.range.order n z.devices).Nodup :=
    (env.range.perm n z.devices).nodup_iff.mpr (List.Nodup.of_map _ z.distinct)
  have hrest : ∀ p, ∀ e ∈ env.range.order n z.devices, e ≠ d →
      (turn p e).view d.name = p.view d.name := by
    intro p e he hne
    refine hothers p fun hname => hne ?_
    exact List.inj_on_of_nodup_map z.distinct ((env.range.mem_order_iff n).mp he) hd hname.symm
  exact @run_view_of_own _ _ _ turn (fun p => p.view d.name) through d _ hself hrest hdistinct
    ((env.range.mem_order_iff n).mpr hd) p

theorem view_loop_of_other {turn : Progress → ZoneDevice → Progress} {name : String}
    (hname : name ∉ z.devices.map ZoneDevice.name)
    (hothers : ∀ p {e : ZoneDevice}, name ≠ e.name → (turn p e).view name = p.view name)
    (n : Nat) (p : Progress) :
    (run turn p (env.range.order n z.devices)).view name = p.view name := by
  have hrest : ∀ p, ∀ e ∈ env.range.order n z.devices, (turn p e).view name = p.view name := by
    intro p e he
    refine hothers p fun h => hname ?_
    exact h ▸ List.mem_map_of_mem ((env.range.mem_order_iff n).mp he)
  exact @run_view_of_others _ _ _ turn (fun p => p.view name) _ hrest p

end Views

section FlushView

variable (env : FlushEnv) (limiter : FlushLimiter) (z : LiveZone)

def DeviceView.flush (d : ZoneDevice) (v : DeviceView) : DeviceView :=
  let through := DeviceView.through env limiter z d
  match z.values.state with
  | .unspecified => v
  | .on =>
    through z.values.colorTemperatureLoop (through z.values.brightnessLoop (through Zone.onLoop v))
  | .offtimer =>
    through z.values.colorTemperatureLoop (through z.values.brightnessLoop (through Zone.onLoop v))
  | .off => through Zone.offLoop v
  | .color => through z.values.brightnessLoop (through z.values.colorLoop v)
  | .randomcolor =>
    through z.values.brightnessLoop (v.throughRandomColor env limiter z d)

def LiveZone.view (name : String) : DeviceView where
  applied kind := z.applied.lookup ⟨name, kind⟩

def Flushed.view (f : Flushed) (name : String) : DeviceView where
  applied kind := f.zone.applied.lookup ⟨name, kind⟩
  sent := commandsTo name f.sent

variable {env limiter z}

theorem view_flush {d : ZoneDevice} (hd : d ∈ z.devices) :
    (flush env limiter z).view d.name = (z.view d.name).flush env limiter z d := by
  have hloop : ∀ n l p, (handle env limiter z n l p).view d.name =
      (p.view d.name).through env limiter z d l := fun n l p =>
    view_loop hd (view_visit_self l · d) (fun p _ h => view_visit_of_ne l p h) n p
  have hrandom : ∀ n p, (handleRandomColor env limiter z n p).view d.name =
      (p.view d.name).throughRandomColor env limiter z d := fun n p =>
    view_loop hd (view_visitRandomColor_self · d) (fun p _ h => view_visitRandomColor_of_ne p h) n p
  unfold flush DeviceView.flush
  rw [if_neg z.named]
  split_ifs with hstate
  · rw [hstate]
    rfl
  · show (flushColorTemperature env limiter z (flushBrightness env limiter z
      (flushState env limiter z { applied := z.applied }))).view d.name = _
    unfold flushColorTemperature flushBrightness flushState
    cases hcase : z.values.state with
    | unspecified => exact absurd hcase hstate
    | on | offtimer =>
      simp only [handleColorTemperature, handleBrightness, handleOn, hloop]
      rfl
    | off =>
      simp only [handleOff, hloop]
      rfl
    | color =>
      simp only [handleBrightness, handleColor, hloop]
      rfl
    | randomcolor =>
      simp only [handleBrightness, hloop, hrandom]
      rfl

theorem view_flush_of_other {name : String} (hname : name ∉ z.devices.map ZoneDevice.name) :
    (flush env limiter z).view name = z.view name := by
  have hloop : ∀ n l p, (handle env limiter z n l p).view name = p.view name := fun n l p =>
    view_loop_of_other hname (fun p _ h => view_visit_of_ne l p h) n p
  have hrandom : ∀ n p, (handleRandomColor env limiter z n p).view name = p.view name :=
    fun n p => view_loop_of_other hname (fun p _ h => view_visitRandomColor_of_ne p h) n p
  unfold flush
  rw [if_neg z.named]
  split_ifs with hstate
  · rfl
  · show (flushColorTemperature env limiter z (flushBrightness env limiter z
      (flushState env limiter z { applied := z.applied }))).view name = _
    unfold flushColorTemperature flushBrightness flushState
    cases z.values.state <;>
      simp only [handleColorTemperature, handleBrightness, handleOn, handleOff, handleColor, hloop,
        hrandom] <;> rfl

theorem values_flush : (flush env limiter z).zone.values =
    if z.values.state = .unspecified then z.values.setState .off else z.values := by
  unfold flush
  rw [if_neg z.named]
  split_ifs <;> rfl

theorem devices_flush : (flush env limiter z).zone.devices = z.devices := by
  unfold flush
  split_ifs <;> rfl

end FlushView

end IotController.Iot
