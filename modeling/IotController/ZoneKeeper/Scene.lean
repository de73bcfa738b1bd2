/-
  What a successful `SetScene` stands for
  (`SetScene` and `setZoneScene` in `modules/zonekeeper/zonekeeper.go`).

  A Scene is in force in a zone when the zone stores its fields and, in a zone that is lit,
  the lights were last sent them.  `SetScene` answers without an error also when the Scene
  could not be read, passes over a field whose text names no value, and does not flush.  So
  the lights show the Scene only if they did before.
-/
import IotController.ZoneKeeper.Keeper

namespace IotController.ZoneKeeper

open Foundation Api Proto Compute
open Iot

/-! ## A Scene in force -/

def commandKind : Command → Option AppliedKind
  | .on => some .state
  | .off => some .state
  | .setBrightness _ => some .brightness
  | .setColorTemp _ => some .colorTemp
  | .setColor _ => some .color
  | .randomColor _ => none

def lastSent (history : List (String × Command)) (device : String) (kind : AppliedKind) :
    Option Command :=
  ((commandsTo device history).filter fun c => commandKind c = some kind).getLast?

def isLit : ZoneState → Bool
  | .color => true
  | .on => true
  | .randomcolor => true
  | .offtimer => true
  | _ => false

def showsWhite : ZoneState → Bool
  | .on => true
  | .offtimer => true
  | _ => false

def Understood {E : Type} (value : String → Option E) (text : String) : Prop :=
  text ≠ "" → (value text).isSome = true

def SceneUnderstood (s : Scene) : Prop :=
  Understood Brightness.value s.brightness ∧ Understood ColorTemperature.value s.colorTemperature

/-- The zone has the values that the Scene names. -/
structure Stores (z : Zone) (s : Scene) : Prop where
  understood : SceneUnderstood s
  brightness : ∀ b, Brightness.value s.brightness = some b → b ≠ .unspecified →
    z.brightness = b ∧ z.brightnessValue = brightnessCanonical b
  colorTemp : ∀ c, ColorTemperature.value s.colorTemperature = some c → c ≠ .unspecified →
    z.colorTemp = c ∧ z.colorTempKelvin = colorTempCanonical c
  color : s.color ≠ "" → z.color = s.color

/-- A light of a zone in this state was last sent the fields that the Scene
specifies. -/
structure Shows (history : List (String × Command)) (d : ZoneDevice) (state : ZoneState)
    (s : Scene) : Prop where
  brightness : dimmable d.type = true →
    ∀ b, Brightness.value s.brightness = some b → b ≠ .unspecified →
      lastSent history d.name .brightness =
        some (.setBrightness (deviceLevel (brightnessCanonical b)))
  colorTemp : colorable d.type = true → showsWhite state = true →
    ∀ c, ColorTemperature.value s.colorTemperature = some c → c ≠ .unspecified →
      lastSent history d.name .colorTemp =
        some (.setColorTemp (kelvinToMireds (colorTempCanonical c)))
  color : colorable d.type = true → state = .color → s.color ≠ "" →
    lastSent history d.name .color = some (.setColor s.color)

/-- The lights of a lit zone were sent the Scene. -/
def LitShows (history : List (String × Command)) (z : LiveZone) (s : Scene) : Prop :=
  isLit z.values.state = true → ∀ d ∈ z.devices, Shows history d z.values.state s

/-- There is the Scene, and the zone stores and shows it. -/
def InForce (scenes : SceneResources) (scene : String) (history : List (String × Command))
    (z : LiveZone) : Prop :=
  ∃ s, scenes.scenes scene = some s ∧ Stores z.values s ∧ LitShows history z s

/-! ## What `setZoneScene` stores -/

theorem setZoneScene_eq (s : Scene) (z : Zone) :
    setZoneScene s z =
      let b := (Brightness.value s.brightness).getD .unspecified
      let c := (ColorTemperature.value s.colorTemperature).getD .unspecified
      { z with
        brightness := if b ≠ .unspecified then b else z.brightness
        brightnessValue := if b ≠ .unspecified then brightnessCanonical b else z.brightnessValue
        colorTemp := if c ≠ .unspecified then c else z.colorTemp
        colorTempKelvin := if c ≠ .unspecified then colorTempCanonical c else z.colorTempKelvin
        color := if s.color ≠ "" then s.color else z.color } := by
  unfold setZoneScene Zone.setBrightness Zone.setColorTemperature Zone.setColor
  dsimp only
  split_ifs <;> rfl

theorem stores_setZoneScene_iff (s : Scene) (z : Zone) :
    Stores (setZoneScene s z) s ↔ SceneUnderstood s := by
  refine ⟨Stores.understood, fun h => ?_⟩
  rw [setZoneScene_eq]
  refine ⟨h, ?_, ?_, ?_⟩
  · intro b hb hne
    simp [hb, hne]
  · intro c hc hne
    simp [hc, hne]
  · intro hcolor
    exact if_pos hcolor

theorem setZoneScene_empty (z : Zone) : setZoneScene {} z = z := rfl

theorem state_setZoneScene (s : Scene) (z : Zone) : (setZoneScene s z).state = z.state := by
  rw [setZoneScene_eq]

theorem setSceneCall_spec {api : ZoneResource} {scenes : SceneResources} {name scene : String}
    {k k' : Keeper} {z : LiveZone} (hget : getZone api name k = .ok (z, k'))
    (hok : (setSceneCall api scenes name scene k).error = none) :
    ∃ s, (scenes.fault = none ∧ scenes.scenes scene = some s ∨ scenes.fault ≠ none ∧ s = {}) ∧
      (setSceneCall api scenes name scene k).sent = [] ∧
      (setSceneCall api scenes name scene k).keeper.zones.lookup name =
        some { z with values := setZoneScene s z.values } := by
  unfold setSceneCall SceneResources.get at hok ⊢
  by_cases hname : scene = ""
  · simp [hname] at hok
  simp only [if_neg hname, hget] at hok ⊢
  cases hfault : scenes.fault with
  | some =>
    refine ⟨{}, Or.inr ⟨by simp, rfl⟩, rfl, ?_⟩
    simp only [GoMap.lookup_insert_eq, if_true]
  | none =>
    cases hscene : scenes.scenes scene with
    | none => simp [hfault, hscene] at hok
    | some s =>
      refine ⟨s, Or.inl ⟨rfl, rfl⟩, rfl, ?_⟩
      simp only [GoMap.lookup_insert_eq, if_true]

/-- **What success means.**  After a call without an error the Scene is in force exactly when
there is one of this name, it was read and its texts name values, or the zone stored it already,
and a lit zone's lights had been sent it before. -/
theorem set_scene_in_force_iff (api : ZoneResource) (scenes : SceneResources) (name scene : String)
    (k k' : Keeper) (z w : LiveZone) (history : List (String × Command))
    (hget : getZone api name k = .ok (z, k'))
    (hok : (setSceneCall api scenes name scene k).error = none)
    (hafter : (setSceneCall api scenes name scene k).keeper.zones.lookup name = some w) :
    InForce scenes scene (history ++ (setSceneCall api scenes name scene k).sent) w ↔
      ∃ s, scenes.scenes scene = some s ∧
        (scenes.fault = none ∧ SceneUnderstood s ∨ Stores z.values s) ∧ LitShows history z s := by
  obtain ⟨applied, hread, hsent, hzone⟩ := setSceneCall_spec hget hok
  obtain rfl : { z with values := setZoneScene applied z.values } = w :=
    Option.some.inj (hzone.symm.trans hafter)
  rw [hsent, List.append_nil]
  -- neither the devices nor the state change, so the lights are where they were
  have hshows : ∀ s, LitShows history { z with values := setZoneScene applied z.values } s ↔
      LitShows history z s := by
    intro s
    unfold LitShows
    rw [state_setZoneScene]
  unfold InForce
  refine exists_congr fun s => and_congr_right fun hs => and_congr ?_ (hshows s)
  rcases hread with ⟨hfault, happlied⟩ | ⟨hfault, rfl⟩
  · obtain rfl : applied = s := Option.some.inj (happlied.symm.trans hs)
    rw [stores_setZoneScene_iff]
    exact ⟨fun h => Or.inl ⟨hfault, h⟩, fun h => h.elim And.right Stores.understood⟩
  · rw [setZoneScene_empty]
    exact ⟨Or.inr, fun h => h.resolve_left fun h => hfault h.1⟩

/-! ### A Scene that is not seen -/

def galleryZone : LiveZone where
  name := "gallery"
  values := (({} : Zone).setState .on).setBrightness .full
  devices := [⟨"spot", .basicLight⟩]
  named := by decide
  distinct := by decide

def galleryKeeper : Keeper :=
  { zones := (∅ : GoMap String LiveZone).insert "gallery" galleryZone }

def galleryScenes (fault : Option String) : SceneResources where
  scenes name :=
    if name = "opening" then some { brightness := "BRIGHTNESS_FULL" }
    else if name = "closing" then some { brightness := "BRIGHTNESS_DIM" }
    else none
  fault := fault

def galleryHistory : List (String × Command) := [("spot", .on), ("spot", .setBrightness 254)]

def gallerySet (fault : Option String) (scene : String) : Answer :=
  setSceneCall { get := .found {} } (galleryScenes fault) "gallery" scene galleryKeeper

/-- The Scene that the light already shows is in force after the call. -/
theorem gallery_opening_in_force : (gallerySet none "opening").error = none ∧
    ∃ w, (gallerySet none "opening").keeper.zones.lookup "gallery" = some w ∧
      InForce (galleryScenes none) "opening"
        (galleryHistory ++ (gallerySet none "opening").sent) w := by
  refine ⟨rfl, _, rfl, ?_⟩
  refine (set_scene_in_force_iff { get := .found {} } (galleryScenes none) "gallery" "opening"
    galleryKeeper galleryKeeper galleryZone _ galleryHistory rfl rfl rfl).mpr ?_
  refine ⟨_, rfl, Or.inl ⟨rfl, fun _ => rfl, fun h => absurd rfl h⟩, fun _ d hd => ?_⟩
  obtain rfl := List.mem_singleton.mp hd
  refine ⟨fun _ b hb _ => ?_, fun h => ?_, fun h => ?_⟩
  · obtain rfl : Brightness.full = b := Option.some.inj hb
    decide +kernel
  · cases h
  · cases h

/-- Both calls return no error.  The first Scene is not sent; the second could not be read and
is not even stored. -/
theorem gallery_closing_not_seen :
    ((gallerySet none "closing").error = none ∧
      ∃ w, (gallerySet none "closing").keeper.zones.lookup "gallery" = some w ∧
        ¬ InForce (galleryScenes none) "closing"
          (galleryHistory ++ (gallerySet none "closing").sent) w) ∧
    ((gallerySet (some "etcdserver: request timed out") "closing").error = none ∧
      ∃ w, (gallerySet (some "etcdserver: request timed out") "closing").keeper.zones.lookup
          "gallery" = some w ∧
        ¬ Stores w.values { brightness := "BRIGHTNESS_DIM" }) := by
  refine ⟨⟨rfl, _, rfl, ?_⟩, rfl, _, rfl, ?_⟩
  · rintro ⟨s, hs, -, hshows⟩
    obtain rfl := Option.some.inj hs
    have hdim := (hshows rfl ⟨"spot", .basicLight⟩ (List.mem_singleton.mpr rfl)).brightness rfl
      .dim rfl (by decide)
    exact absurd hdim (by decide +kernel)
  · intro hstores
    exact absurd (hstores.brightness .dim rfl (by decide)).1 (by decide +kernel)

end IotController.ZoneKeeper
