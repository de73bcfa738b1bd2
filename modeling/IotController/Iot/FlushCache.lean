/-
  What the cache of a zone keeps from its lights
  (`Flush`, `shouldSuppress` and `markApplied` in `pkg/iot/zone.go`).

  The cache has one entry for each kind of command, and on a light the kinds overlap: a
  colour replaces the white, a white replaces the colour, and a colour also switches the
  light on.  An entry of the other kind outlives that, and a Flush that hits it sends
  nothing.

  `Room` is a zone with its lights.  `step` is the zone as it is, `stepUncached` empties the
  cache before each event, so that a Flush sends every command.  The brightness entries and
  the entries that say ON are always right (`Accurate`).
-/
import IotController.Iot.Flush

namespace IotController.Iot

open Foundation Api Proto Compute

/-! ## Lights -/

/-- White, or a colour. -/
inductive Mode where
  | white (mireds : Int)
  | color (hex : String)
  deriving DecidableEq

/-- The state of a light. -/
@[ext] structure Light where
  power : Bool
  level : Nat
  mode : Mode
  deriving DecidableEq

section Lights

variable (repaint : List String → Mode → Mode)

def Light.receive (l : Light) : Command → Light
  | .on => { l with power := true }
  | .off => { l with power := false }
  | .setBrightness level => { l with level := level }
  | .setColorTemp mireds => { l with mode := .white mireds }
  | .setColor hex => { l with power := true, mode := .color hex }
  | .randomColor pool => { l with power := true, mode := repaint pool l.mode }

def DeviceView.light (l : Light) (v : DeviceView) : Light := run (Light.receive repaint) l v.sent

def Loop.full (loop : Loop) (d : ZoneDevice) (l : Light) : Light :=
  if loop.types d.type = true then l.receive repaint loop.command else l

variable {repaint} in
theorem receive_off_iff (l : Light) : l.receive repaint .off = l ↔ l.power = false :=
  ⟨fun h => by rw [← h]; rfl, fun h => Light.ext h.symm rfl rfl⟩

variable {repaint} in
theorem receive_setColorTemp_iff (l : Light) (mireds : Int) :
    l.receive repaint (.setColorTemp mireds) = l ↔ l.mode = .white mireds :=
  ⟨fun h => by rw [← h]; rfl, fun h => Light.ext rfl rfl h.symm⟩

variable {repaint} in
theorem receive_setColor_iff (l : Light) (hex : String) :
    l.receive repaint (.setColor hex) = l ↔ l.power = true ∧ l.mode = .color hex :=
  ⟨fun h => by rw [← h]; exact ⟨rfl, rfl⟩, fun h => Light.ext h.1.symm rfl h.2.symm⟩

theorem mode_full_of_on (z : Zone) (d : ZoneDevice) (l : Light) :
    (z.brightnessLoop.full repaint d (Zone.onLoop.full repaint d l)).mode = l.mode := by
  unfold Loop.full
  split_ifs <;> rfl

theorem full_brightness_inj (z : Zone) (d : ZoneDevice) {l l' : Light} (hlevel : l.level = l'.level) :
    z.brightnessLoop.full repaint d l = z.brightnessLoop.full repaint d l' ↔ l = l' := by
  constructor
  · intro h
    unfold Loop.full at h
    split_ifs at h
    · have hpower := congrArg Light.power h
      have hmode := congrArg Light.mode h
      exact Light.ext hpower hlevel hmode
    · exact h
  · exact fun h => h ▸ rfl

/-! ## A loop and a light -/

def LiveZone.suppresses (z : LiveZone) (env : FlushEnv) (d : ZoneDevice) (loop : Loop) : Bool :=
  shouldSuppress (z.applied.lookup ⟨d.name, loop.kind⟩) z.refreshAge (env.now loop.kind d.name)
    loop.desired

variable {repaint} {env : FlushEnv} {limiter : FlushLimiter} {z : LiveZone} {d : ZoneDevice}
  {loop : Loop} {v : DeviceView} {l : Light}

theorem applied_through_of_ne {kind : AppliedKind} (h : kind ≠ loop.kind) :
    (v.through env limiter z d loop).applied kind = v.applied kind := by
  unfold DeviceView.through
  split
  · exact Function.update_of_ne h _ _
  · rfl

section Answered

variable (hreply : ∀ c name, env.reply c name = none) (hadmits : admits limiter d.name = true)

include hreply hadmits

theorem light_through_iff :
    (v.through env limiter z d loop).light repaint l = loop.full repaint d (v.light repaint l) ↔
      (loop.types d.type = true →
        shouldSuppress (v.applied loop.kind) z.refreshAge (env.now loop.kind d.name)
          loop.desired = true →
        (v.light repaint l).receive repaint loop.command = v.light repaint l) := by
  unfold DeviceView.through Loop.full
  by_cases htypes : loop.types d.type = true
  swap
  · simp [htypes]
  cases hfresh : shouldSuppress (v.applied loop.kind) z.refreshAge (env.now loop.kind d.name)
      loop.desired with
  | true =>
    rw [if_neg (by simp), if_pos htypes]
    exact ⟨fun h _ _ => h.symm, fun h => (h htypes rfl).symm⟩
  | false =>
    rw [if_pos ⟨htypes, hadmits, rfl, hreply _ _⟩, if_pos htypes]
    simp [DeviceView.light, run_append]

theorem light_through_of_none (h : v.applied loop.kind = none) :
    (v.through env limiter z d loop).light repaint l = loop.full repaint d (v.light repaint l) := by
  refine (light_through_iff hreply hadmits).mpr fun _ hfresh => ?_
  rw [h] at hfresh
  cases hfresh

theorem light_throughRandomColor :
    (v.throughRandomColor env limiter z d).light repaint l =
      if colorable d.type = true then (v.light repaint l).receive repaint (.randomColor z.colorPool)
      else v.light repaint l := by
  unfold DeviceView.throughRandomColor
  by_cases htypes : colorable d.type = true
  · rw [if_pos ⟨htypes, hadmits, hreply _ _⟩, if_pos htypes]
    simp [DeviceView.light, run_append]
  · rw [if_neg fun h => htypes h.1, if_neg htypes]

end Answered

end Lights

/-! ## What the cache gets right -/

/-- The entries of a device that hold whatever was sent in between. -/
structure Accurate (type : DeviceType) (applied : AppliedKind → Option AppliedRecord) (l : Light) :
    Prop where
  brightness : ∀ r, applied .brightness = some r → r.value = l.level.repr
  on : ∀ r, applied .state = some r → r.value = ZoneState.on.name → l.power = true
  /-- only a colour can switch a light on past an entry that says OFF -/
  off : colorable type = false → ∀ r, applied .state = some r → r.value = ZoneState.off.name →
    l.power = false

theorem Accurate.of_empty (type : DeviceType) {applied : AppliedKind → Option AppliedRecord}
    (h : ∀ kind, applied kind = none) (l : Light) : Accurate type applied l where
  brightness r hr := by simp [h] at hr
  on r hr := by simp [h] at hr
  off _ r hr := by simp [h] at hr

/-- The cache is right about the light that has been sent the commands of the view. -/
abbrev DeviceView.Right (v : DeviceView) (repaint : List String → Mode → Mode) (d : ZoneDevice)
    (l : Light) : Prop :=
  Accurate d.type v.applied (v.light repaint l)

section Keeping

variable {repaint : List String → Mode → Mode} {env : FlushEnv} {limiter : FlushLimiter}
  {z : LiveZone} {d : ZoneDevice} {v : DeviceView} {l : Light}

variable (h : v.Right repaint d l)
include h

theorem Accurate.through {loop : Loop}
    (hsent : loop.types d.type = true → Accurate d.type
      (Function.update v.applied loop.kind (some ⟨loop.desired, env.sentAt loop.kind d.name⟩))
      ((v.light repaint l).receive repaint loop.command)) :
    (v.through env limiter z d loop).Right repaint d l := by
  unfold DeviceView.through
  split
  · rename_i hgoes
    have hlight : DeviceView.light repaint l
        ⟨Function.update v.applied loop.kind (some ⟨loop.desired, env.sentAt loop.kind d.name⟩),
          v.sent ++ [loop.command]⟩ = (v.light repaint l).receive repaint loop.command := by
      simp [DeviceView.light, run_append]
    rw [DeviceView.Right, hlight]
    exact hsent hgoes.1
  · exact h

theorem Accurate.onLoop : (v.through env limiter z d Zone.onLoop).Right repaint d l := by
  refine h.through fun _ => ⟨?_, fun _ _ _ => rfl, ?_⟩
  · intro r hr
    exact h.brightness r (by simpa using hr)
  · rintro _ r hr hoff
    obtain rfl : _ = r := by simpa using hr
    exact absurd (show ZoneState.on.name = ZoneState.off.name from hoff) (by decide)

theorem Accurate.offLoop : (v.through env limiter z d Zone.offLoop).Right repaint d l := by
  refine h.through fun _ => ⟨?_, ?_, fun _ _ _ _ => rfl⟩
  · intro r hr
    exact h.brightness r (by simpa using hr)
  · rintro r hr hon
    obtain rfl : _ = r := by simpa using hr
    exact absurd (show ZoneState.off.name = ZoneState.on.name from hon) (by decide)

theorem Accurate.brightnessLoop :
    (v.through env limiter z d z.values.brightnessLoop).Right repaint d l := by
  refine h.through fun _ => ⟨?_, ?_, ?_⟩
  · intro r hr
    obtain rfl : _ = r := by simpa using hr
    rfl
  · intro r hr
    exact h.on r (by simpa using hr)
  · intro htype r hr
    exact h.off htype r (by simpa using hr)

theorem Accurate.colorTemperatureLoop :
    (v.through env limiter z d z.values.colorTemperatureLoop).Right repaint d l := by
  refine h.through fun _ => ⟨?_, ?_, ?_⟩
  · intro r hr
    exact h.brightness r (by simpa using hr)
  · intro r hr
    exact h.on r (by simpa using hr)
  · intro htype r hr
    exact h.off htype r (by simpa using hr)

theorem Accurate.colorLoop : (v.through env limiter z d z.values.colorLoop).Right repaint d l := by
  refine h.through fun htypes => ⟨?_, fun _ _ _ => rfl, ?_⟩
  · intro r hr
    exact h.brightness r (by simpa using hr)
  · intro htype
    exact absurd htypes (by simp [Zone.colorLoop, htype])

theorem Accurate.randomColor : (v.throughRandomColor env limiter z d).Right repaint d l := by
  unfold DeviceView.throughRandomColor
  split
  · rename_i hgoes
    have hlight : DeviceView.light repaint l
        { v with sent := v.sent ++ [.randomColor z.colorPool] } =
        (v.light repaint l).receive repaint (.randomColor z.colorPool) := by
      simp [DeviceView.light, run_append]
    rw [DeviceView.Right, hlight]
    refine ⟨h.brightness, fun _ _ _ => rfl, fun htype => ?_⟩
    exact absurd hgoes.1 (by simp [htype])
  · exact h

theorem Accurate.flush : (v.flush env limiter z d).Right repaint d l := by
  unfold DeviceView.flush
  cases z.values.state with
  | unspecified => exact h
  | on | offtimer => exact h.onLoop.brightnessLoop.colorTemperatureLoop
  | off => exact h.offLoop
  | color => exact h.colorLoop.brightnessLoop
  | randomcolor => exact h.randomColor.brightnessLoop

end Keeping

/-! ## Where the cache goes wrong -/

/-- The entries that a Flush hits say what the light shows. -/
def EntriesHold (z : LiveZone) (env : FlushEnv) (d : ZoneDevice) (l : Light) : Prop :=
  match z.values.state with
  | .unspecified => True
  | .on => z.suppresses env d z.values.colorTemperatureLoop = true → l.mode = .white z.values.tempVal
  | .offtimer =>
    z.suppresses env d z.values.colorTemperatureLoop = true → l.mode = .white z.values.tempVal
  | .off => z.suppresses env d Zone.offLoop = true → l.power = false
  | .color =>
    z.suppresses env d z.values.colorLoop = true → l.power = true ∧ l.mode = .color z.values.color
  | .randomcolor => True

theorem value_of_shouldSuppress {entry : Option AppliedRecord} {refreshAge : Duration} {now : Time}
    {desired : String} (h : shouldSuppress entry refreshAge now desired = true) :
    ∃ r, entry = some r ∧ r.value = desired := by
  unfold shouldSuppress at h
  split at h
  · cases h
  · rename_i r
    split_ifs at h
    exact ⟨r, rfl, of_decide_eq_true h⟩

section Comparing

variable {repaint : List String → Mode → Mode} {env : FlushEnv} {limiter : FlushLimiter}
  {z : LiveZone} {d : ZoneDevice} {v : DeviceView} {l : Light}

section Answered

variable (hreply : ∀ c name, env.reply c name = none) (hadmits : admits limiter d.name = true)

include hreply hadmits

theorem light_onLoop (h : v.Right repaint d l) :
    (v.through env limiter z d Zone.onLoop).light repaint l =
      Zone.onLoop.full repaint d (v.light repaint l) := by
  refine (light_through_iff hreply hadmits).mpr fun _ hfresh => ?_
  obtain ⟨r, hr, hvalue⟩ := value_of_shouldSuppress hfresh
  exact Light.ext (h.on r hr hvalue).symm rfl rfl

theorem light_brightnessLoop (h : v.Right repaint d l) :
    (v.through env limiter z d z.values.brightnessLoop).light repaint l =
      z.values.brightnessLoop.full repaint d (v.light repaint l) := by
  refine (light_through_iff hreply hadmits).mpr fun _ hfresh => ?_
  obtain ⟨r, hr, hvalue⟩ := value_of_shouldSuppress hfresh
  refine Light.ext rfl ?_ rfl
  exact natRepr_injective (hvalue.symm.trans (h.brightness r hr))

end Answered

def fullFlush (repaint : List String → Mode → Mode) (z : LiveZone) (d : ZoneDevice) (l : Light) :
    Light :=
  let full (loop : Loop) := loop.full repaint d
  match z.values.state with
  | .unspecified => l
  | .on => full z.values.colorTemperatureLoop (full z.values.brightnessLoop (full Zone.onLoop l))
  | .offtimer =>
    full z.values.colorTemperatureLoop (full z.values.brightnessLoop (full Zone.onLoop l))
  | .off => full Zone.offLoop l
  | .color => full z.values.brightnessLoop (full z.values.colorLoop l)
  | .randomcolor =>
    full z.values.brightnessLoop
      (if colorable d.type = true then l.receive repaint (.randomColor z.colorPool) else l)

def LiveZone.forget (z : LiveZone) : LiveZone := { z with applied := ∅ }

section Full

variable (hreply : ∀ c name, env.reply c name = none) (hadmits : admits limiter d.name = true)

include hreply hadmits

theorem light_flush_of_none (hnone : ∀ kind, v.applied kind = none) (hsent : v.sent = []) :
    (v.flush env limiter z d).light repaint l = fullFlush repaint z d l := by
  have hstart : v.light repaint l = l := by
    rw [DeviceView.light, hsent]
    rfl
  have hon : ((v.through env limiter z d Zone.onLoop).through env limiter z d
      z.values.brightnessLoop).light repaint l =
      z.values.brightnessLoop.full repaint d (Zone.onLoop.full repaint d l) := by
    rw [light_through_of_none hreply hadmits, light_through_of_none hreply hadmits (hnone _),
      hstart]
    exact (applied_through_of_ne (by simp)).trans (hnone _)
  have hwhite : (((v.through env limiter z d Zone.onLoop).through env limiter z d
      z.values.brightnessLoop).through env limiter z d z.values.colorTemperatureLoop).light
        repaint l =
      z.values.colorTemperatureLoop.full repaint d
        (z.values.brightnessLoop.full repaint d (Zone.onLoop.full repaint d l)) := by
    rw [light_through_of_none hreply hadmits, hon]
    rw [applied_through_of_ne (by simp), applied_through_of_ne (by simp)]
    exact hnone _
  unfold DeviceView.flush fullFlush
  cases z.values.state with
  | unspecified => exact hstart
  | on | offtimer => exact hwhite
  | off =>
    show (v.through env limiter z d Zone.offLoop).light repaint l = _
    rw [light_through_of_none hreply hadmits (hnone _), hstart]
  | color =>
    show ((v.through env limiter z d z.values.colorLoop).through env limiter z d
      z.values.brightnessLoop).light repaint l = _
    rw [light_through_of_none hreply hadmits, light_through_of_none hreply hadmits (hnone _),
      hstart]
    exact (applied_through_of_ne (by simp)).trans (hnone _)
  | randomcolor =>
    show ((v.throughRandomColor env limiter z d).through env limiter z d
      z.values.brightnessLoop).light repaint l = _
    rw [light_through_of_none hreply hadmits, light_throughRandomColor hreply hadmits, hstart]
    unfold DeviceView.throughRandomColor
    split
    · exact hnone _
    · exact hnone _

section

variable (h : Accurate d.type (z.view d.name).applied l)
include h

theorem light_white_iff :
    ((((z.view d.name).through env limiter z d Zone.onLoop).through env limiter z d
        z.values.brightnessLoop).through env limiter z d z.values.colorTemperatureLoop).light
          repaint l =
        z.values.colorTemperatureLoop.full repaint d
          (z.values.brightnessLoop.full repaint d (Zone.onLoop.full repaint d l)) ↔
      (colorable d.type = true → z.suppresses env d z.values.colorTemperatureLoop = true →
        l.mode = .white z.values.tempVal) := by
  set v := z.view d.name
  have hon : (v.through env limiter z d Zone.onLoop).light repaint l =
      Zone.onLoop.full repaint d l := light_onLoop hreply hadmits h
  have hdimmed : ((v.through env limiter z d Zone.onLoop).through env limiter z d
      z.values.brightnessLoop).light repaint l =
      z.values.brightnessLoop.full repaint d (Zone.onLoop.full repaint d l) :=
    (light_brightnessLoop hreply hadmits h.onLoop).trans (by rw [hon])
  rw [← hdimmed, light_through_iff hreply hadmits, applied_through_of_ne (by simp),
    applied_through_of_ne (by simp), hdimmed]
  show (colorable d.type = true → z.suppresses env d z.values.colorTemperatureLoop = true →
    Light.receive repaint _ (.setColorTemp z.values.tempVal) = _) ↔ _
  rw [receive_setColorTemp_iff, mode_full_of_on]

theorem light_off_iff :
    ((z.view d.name).through env limiter z d Zone.offLoop).light repaint l =
        Zone.offLoop.full repaint d l ↔
      (colorable d.type = true → z.suppresses env d Zone.offLoop = true → l.power = false) := by
  have hstart : (z.view d.name).light repaint l = l := rfl
  nth_rewrite 2 [← hstart]
  rw [light_through_iff hreply hadmits]
  show (switchable d.type = true → z.suppresses env d Zone.offLoop = true →
    l.receive repaint .off = l) ↔ _
  rw [receive_off_iff]
  refine ⟨fun hfull hcolor => hfull ?_, fun hfull htypes hfresh => ?_⟩
  · revert hcolor
    cases d.type <;> simp [colorable, switchable]
  · by_cases hcolor : colorable d.type = true
    · exact hfull hcolor hfresh
    · -- no colour was sent past the entry
      obtain ⟨r, hr, hvalue⟩ := value_of_shouldSuppress hfresh
      exact h.off (Bool.eq_false_of_not_eq_true hcolor) r hr hvalue

theorem light_color_iff :
    (((z.view d.name).through env limiter z d z.values.colorLoop).through env limiter z d
        z.values.brightnessLoop).light repaint l =
        z.values.brightnessLoop.full repaint d (z.values.colorLoop.full repaint d l) ↔
      (colorable d.type = true → z.suppresses env d z.values.colorLoop = true →
        l.power = true ∧ l.mode = .color z.values.color) := by
  set v := z.view d.name
  have hlevel : ((v.through env limiter z d z.values.colorLoop).light repaint l).level =
      (z.values.colorLoop.full repaint d l).level := by
    unfold DeviceView.through Loop.full
    split_ifs <;> rfl
  rw [light_brightnessLoop hreply hadmits h.colorLoop, full_brightness_inj _ _ _ hlevel]
  show _ = z.values.colorLoop.full repaint d (v.light repaint l) ↔ _
  rw [light_through_iff hreply hadmits]
  show (colorable d.type = true → z.suppresses env d z.values.colorLoop = true →
    l.receive repaint (.setColor z.values.color) = l) ↔ _
  rw [receive_setColor_iff]

/-- **Flush and its cache.**  A Flush does what it would do without the cache exactly when the
entries it hits hold, which only a colour light can fail. -/
theorem light_flush_iff :
    ((z.view d.name).flush env limiter z d).light repaint l = fullFlush repaint z d l ↔
      (colorable d.type = true → EntriesHold z env d l) := by
  have hstart : (z.view d.name).light repaint l = l := rfl
  unfold DeviceView.flush fullFlush EntriesHold
  cases z.values.state with
  | unspecified => simpa using hstart
  | on | offtimer => exact light_white_iff hreply hadmits h
  | off => exact light_off_iff hreply hadmits h
  | color => exact light_color_iff hreply hadmits h
  | randomcolor =>
    show (((z.view d.name).throughRandomColor env limiter z d).through env limiter z d
      z.values.brightnessLoop).light repaint l = _ ↔ _
    rw [light_brightnessLoop hreply hadmits h.randomColor,
      light_throughRandomColor hreply hadmits, hstart]
    simp

end

end Full

end Comparing

/-! ## A zone with its lights -/

/-- A zone and its lights. -/
structure Room where
  zone : LiveZone
  lights : String → Light

/-- A setter, or a Flush. -/
inductive RoomEvent where
  | set (c : Setter)
  | flush (limiter : FlushLimiter) (env : FlushEnv)

/-- No command of the flush fails. -/
def RoomEvent.Succeeds : RoomEvent → Prop
  | set _ => True
  | flush _ env => ∀ c name, env.reply c name = none

/-- The entries that this event hits in the cache hold. -/
def UpToDate (s : Room) : RoomEvent → Prop
  | .set _ => True
  | .flush limiter env =>
    ∀ d ∈ s.zone.devices, colorable d.type = true → admits limiter d.name = true →
      EntriesHold s.zone env d (s.lights d.name)

section Rooms

variable (repaint : List String → Mode → Mode)

def Room.step (s : Room) : RoomEvent → Room
  | .set c => { s with zone := { s.zone with values := c.apply s.zone.values } }
  | .flush limiter env =>
    { zone := (flush env limiter s.zone).zone
      lights := fun name =>
        ((flush env limiter s.zone).view name).light repaint (s.lights name) }

def Room.stepUncached (s : Room) (e : RoomEvent) : Room :=
  Room.step repaint { s with zone := s.zone.forget } e

def Room.Accurate (s : Room) : Prop :=
  ∀ d ∈ s.zone.devices, Iot.Accurate d.type (s.zone.view d.name).applied (s.lights d.name)

variable {repaint}

theorem flush_of_not_admits {env : FlushEnv} {limiter : FlushLimiter} {z : LiveZone}
    {d : ZoneDevice} {v : DeviceView} (h : ¬ admits limiter d.name = true) :
    v.flush env limiter z d = v := by
  have hthrough : ∀ v loop, DeviceView.through env limiter z d loop v = v := fun v loop =>
    if_neg fun hgoes => h hgoes.2.1
  have hrandom : ∀ v, DeviceView.throughRandomColor env limiter z d v = v := fun v =>
    if_neg fun hgoes => h hgoes.2.1
  unfold DeviceView.flush
  cases z.values.state <;> simp only [hthrough, hrandom]

theorem lights_step_iff {s : Room} {e : RoomEvent} (hsucceeds : e.Succeeds) (h : s.Accurate) :
    (s.step repaint e).lights = (s.stepUncached repaint e).lights ↔ UpToDate s e := by
  cases e with
  | set => exact iff_of_true rfl trivial
  | flush limiter env =>
    have hdevice : ∀ d ∈ s.zone.devices,
        ((s.step repaint (.flush limiter env)).lights d.name =
            (s.stepUncached repaint (.flush limiter env)).lights d.name ↔
          (colorable d.type = true → admits limiter d.name = true →
            EntriesHold s.zone env d (s.lights d.name))) := by
      intro d hd
      show ((flush env limiter s.zone).view d.name).light repaint (s.lights d.name) =
        ((flush env limiter s.zone.forget).view d.name).light repaint (s.lights d.name) ↔ _
      rw [view_flush hd, view_flush (z := s.zone.forget) hd]
      by_cases hadmits : admits limiter d.name = true
      · have hfull : ((s.zone.forget.view d.name).flush env limiter s.zone.forget d).light
            repaint (s.lights d.name) = fullFlush repaint s.zone d (s.lights d.name) :=
          light_flush_of_none hsucceeds hadmits (fun _ => rfl) rfl
        rw [hfull, light_flush_iff hsucceeds hadmits (h d hd)]
        exact ⟨fun h hcolor _ => h hcolor, fun h hcolor => h hcolor hadmits⟩
      · rw [flush_of_not_admits hadmits, flush_of_not_admits hadmits]
        exact iff_of_true rfl fun _ h => absurd h hadmits
    constructor
    · intro heq d hd
      exact (hdevice d hd).mp (congrFun heq d.name)
    · intro hup
      funext name
      by_cases hname : name ∈ s.zone.devices.map ZoneDevice.name
      · obtain ⟨d, hd, rfl⟩ := List.mem_map.mp hname
        exact (hdevice d hd).mpr (hup d hd)
      · show ((flush env limiter s.zone).view name).light repaint (s.lights name) =
          ((flush env limiter s.zone.forget).view name).light repaint (s.lights name)
        rw [view_flush_of_other hname, view_flush_of_other (z := s.zone.forget) hname]
        rfl

theorem Room.Accurate.step {s : Room} (h : s.Accurate) (e : RoomEvent) :
    (s.step repaint e).Accurate := by
  cases e with
  | set => exact h
  | flush limiter env =>
    intro d hd
    have hdevice : d ∈ s.zone.devices := by
      have hdevices : (flush env limiter s.zone).zone.devices = s.zone.devices := devices_flush
      exact hdevices ▸ hd
    have hflushed := @Iot.Accurate.flush repaint env limiter s.zone d (s.zone.view d.name)
      (s.lights d.name) (h d hdevice)
    rw [← view_flush hdevice] at hflushed
    exact hflushed

theorem forget_step (s : Room) (e : RoomEvent) :
    (s.step repaint e).zone.forget = (s.stepUncached repaint e).zone.forget := by
  cases e with
  | set => rfl
  | flush limiter env =>
    show (flush env limiter s.zone).zone.forget = (flush env limiter s.zone.forget).zone.forget
    unfold flush
    rw [if_neg s.zone.named, if_neg (show s.zone.forget.name ≠ "" from s.zone.named)]
    show LiveZone.forget (Flushed.zone (if s.zone.values.state = .unspecified then _ else _)) =
      LiveZone.forget (Flushed.zone (if s.zone.values.state = .unspecified then _ else _))
    split_ifs <;> rfl

/-- The rooms differ in the cache only, and the entries of the first are right. -/
structure Room.Twins (s t : Room) : Prop where
  lights : s.lights = t.lights
  zone : s.zone.forget = t.zone.forget
  accurate : s.Accurate

theorem Room.Twins.stepUncached_eq {s t : Room} (h : s.Twins t) (e : RoomEvent) :
    t.stepUncached repaint e = s.stepUncached repaint e := by
  unfold Room.stepUncached
  rw [h.lights, h.zone]

/-- **Is the cache noticed?**  From an empty cache, lights are treated all along as without one
exactly when every Flush hits only entries that hold. -/
theorem flush_transparent_iff (zone : LiveZone) (hnew : zone.applied = ∅)
    (lights : String → Light) (events : List RoomEvent) (hsucceed : ∀ e ∈ events, e.Succeeds) :
    (∀ n, (run (Room.step repaint) ⟨zone, lights⟩ (events.take n)).lights =
        (run (Room.stepUncached repaint) ⟨zone, lights⟩ (events.take n)).lights) ↔
      Along (Room.step repaint) UpToDate ⟨zone, lights⟩ events := by
  have hagree : ∀ s t : Room, s.Twins t → s.lights = t.lights := fun _ _ h => h.lights
  have hcompare : ∀ s t : Room, ∀ e ∈ events, s.Twins t →
      ((s.step repaint e).lights = (t.stepUncached repaint e).lights ↔ UpToDate s e) := by
    intro s t e he h
    rw [h.stepUncached_eq]
    exact lights_step_iff (hsucceed e he) h.accurate
  have hkeep : ∀ s t : Room, ∀ e ∈ events, s.Twins t → UpToDate s e →
      (s.step repaint e).Twins (t.stepUncached repaint e) := by
    intro s t e he h hguard
    rw [h.stepUncached_eq]
    exact
      { lights := (lights_step_iff (hsucceed e he) h.accurate).mpr hguard
        zone := forget_step s e
        accurate := h.accurate.step e }
  have hstart : Room.Twins ⟨zone, lights⟩ ⟨zone, lights⟩ := by
    refine ⟨rfl, rfl, fun d _ => Accurate.of_empty d.type (fun kind => ?_) _⟩
    show zone.applied.lookup _ = none
    rw [hnew]
    rfl
  exact agree_iff_along hagree hcompare hkeep hstart

end Rooms

/-! ### A colour between two OFFs -/

def denZone : LiveZone where
  name := "den"
  devices := [⟨"strip", .colorLight⟩]
  named := by decide
  distinct := by decide

def denRoom : Room := ⟨denZone, fun _ => ⟨true, 254, .white 300⟩⟩

def denEnv : FlushEnv where
  range := MapOrder.stored
  now _ _ := 0
  sentAt _ _ := 0
  reply _ _ := none

def denFlushed (state : ZoneState) : List RoomEvent :=
  [.set (.setState state), .flush unlimited denEnv]

/-- Switching the light on and off goes unnoticed by the cache. -/
theorem den_switching_transparent : denZone.applied = ∅ ∧
    ∀ n, (run (Room.step fun _ mode => mode) denRoom
        ((denFlushed .on ++ denFlushed .off).take n)).lights =
      (run (Room.stepUncached fun _ mode => mode) denRoom
        ((denFlushed .on ++ denFlushed .off).take n)).lights := by
  refine ⟨rfl, (flush_transparent_iff denZone rfl _ _ ?_).mpr ⟨trivial, ?_, trivial, ?_, trivial⟩⟩
  · intro e he
    simp only [denFlushed, List.cons_append, List.nil_append, List.mem_cons, List.not_mem_nil,
      or_false] at he
    rcases he with rfl | rfl | rfl | rfl
    · trivial
    · exact fun _ _ => rfl
    · trivial
    · exact fun _ _ => rfl
  · intro d hd _ _ hfresh
    obtain rfl := List.mem_singleton.mp hd
    cases hfresh
  · intro d hd _ _ hfresh
    obtain rfl := List.mem_singleton.mp hd
    exact absurd hfresh (by decide)

/-- After OFF, a colour and OFF the light is on: the second OFF is found in the cache. -/
theorem den_strip_stays_on :
    ((run (Room.step fun _ mode => mode) denRoom
        (denFlushed .off ++ denFlushed .color ++ denFlushed .off)).lights "strip").power = true ∧
      ((run (Room.stepUncached fun _ mode => mode) denRoom
        (denFlushed .off ++ denFlushed .color ++ denFlushed .off)).lights "strip").power = false :=
  ⟨rfl, rfl⟩

end IotController.Iot
