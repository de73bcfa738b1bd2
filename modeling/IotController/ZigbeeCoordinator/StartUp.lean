/-
  Which network the coordinator starts with
  (`running` and `formNetworkAndSave` in
  `modules/zigbeecoordinator/zigbeecoordinator.go`, the state file of
  `pkg/zigbee-dongle/state.go`).

  At start-up the coordinator asks the dongle for its network and compares it with the state
  file.  A dongle without a network, one on another network, or a forced start leads to
  `FormNetwork`, with the parameters of the file or with random ones; what was formed is
  saved.  A dongle on a network that no file speaks of is adopted: its parameters are saved
  without a key.

  The file is read anew at each place, and every reading may fail.
-/
import IotController.Dongle.Network

namespace IotController.ZigbeeCoordinator.StartUp

open Foundation Dongle

/-- What is in the file. -/
inductive StateFile where
  | absent
  | garbled
  | holds (p : NetworkParameters)
  deriving DecidableEq

/-- What the start-up finds.  The two readings of the file in `running` may fail on their
own. -/
structure Env where
  stateFile : Bool
  forceForm : Bool
  /-- `GetNetworkInfo`, `none` for an error -/
  info : Option NetworkInfo
  file : StateFile
  /-- the readings that fail: the one that compares, the one before forming -/
  checkFault : Option String
  formFault : Option String
  /-- what the random source gives: PAN ID, extended PAN ID, key -/
  random : Except String (UInt16 × UInt64 × NetworkKey)
  /-- `FormNetwork`, `none` when it succeeds -/
  formNetwork : NetworkParameters → Option String

/-- `fault` is an error of the reading itself. -/
def loadNetworkState (file : StateFile) (fault : Option String) :
    Except String (Option NetworkParameters) :=
  match fault with
  | some err => .error ("reading network state file: " ++ err)
  | none =>
    match file with
    | .absent => .ok none
    | .garbled => .error "unmarshaling network state"
    | .holds p =>
      if p.channel < 11 ∨ 26 < p.channel then
        .error s!"invalid channel in state file: {p.channel} (must be 11-26)"
      else .ok (some p)

variable (env : Env) (file : StateFile) (p : NetworkParameters)

def Env.generateRandomNetworkParameters : Except String NetworkParameters :=
  match env.random with
  | .error err => .error err
  | .ok (panID, extendedPanID, networkKey) => .ok
      { panID := if panID = 0 then 0x0001 else panID
        extendedPanID := if extendedPanID = 0 then 0x0000000000000001 else extendedPanID
        channel := 11
        networkKey := networkKey }

/-! ## The decision -/

/-- What can harm a network. -/
inductive Event where
  | formNetwork (p : NetworkParameters) (succeeded : Bool)
  | saveNetworkState (p : NetworkParameters)
  deriving DecidableEq

/-- What start-up did, and its error. -/
structure Outcome where
  events : List Event := []
  err : Option String := none
  deriving DecidableEq

/-- An error of the save is only logged. -/
def Env.formNetworkAndSave : Outcome :=
  match env.formNetwork p with
  | some err =>
    ⟨[.formNetwork p false], some ("failed to form network: forming network: " ++ err)⟩
  | none =>
    ⟨.formNetwork p true :: if env.stateFile then [.saveNetworkState p] else [], none⟩

/-- The saved parameters to form the network with.  An error of the reading is only
logged. -/
def Env.savedParams : Option NetworkParameters :=
  if env.stateFile then
    match loadNetworkState env.file env.formFault with
    | .ok saved => saved
    | .error _ => none
  else none

/-- The part of `running` that forms a network. -/
def Env.form : Outcome :=
  match env.savedParams with
  | some saved =>
    if isZeroNetworkKey saved.networkKey then
      match env.generateRandomNetworkParameters with
      | .error err =>
        ⟨[], some ("state file has all-zero network key; failed to generate secure key: " ++ err)⟩
      | .ok generated =>
        env.formNetworkAndSave { saved with networkKey := generated.networkKey }
    else env.formNetworkAndSave saved
  | none =>
    match env.generateRandomNetworkParameters with
    | .error err => ⟨[], some ("failed to generate network parameters: " ++ err)⟩
    | .ok generated => env.formNetworkAndSave generated

def Env.needsNetwork (info : NetworkInfo) : Bool :=
  info.state = .notJoined || info.state = .down ||
    (info.panID = 0 && info.channel = 0 && info.extendedPanID = 0) || env.forceForm

def adopted (info : NetworkInfo) : NetworkParameters :=
  ⟨info.panID, info.extendedPanID, info.channel.toUInt8, zeroKey⟩

/-- `running`, up to the loop over messages. -/
def Env.running : Outcome :=
  match env.info with
  | none => {}
  | some info =>
    if env.needsNetwork info then env.form
    else if env.stateFile then
      match loadNetworkState env.file env.checkFault with
      | .ok (some saved) => if info.SameNetwork saved then {} else env.form
      | .ok none | .error _ => ⟨[.saveNetworkState (adopted info)], none⟩
    else {}

/-- The parameters of the file, except possibly a replaced key of all zeros. -/
def KeepsFile (file : StateFile) (p : NetworkParameters) : Prop :=
  ∃ saved, file = .holds saved ∧
    (p = saved ∨ saved.networkKey = zeroKey ∧ p = { saved with networkKey := p.networkKey })

/-- No network has a zero key, and an existing file is overwritten only with what was just
formed from it. -/
structure Survives (file : StateFile) (events : List Event) : Prop where
  key : ∀ p ok, .formNetwork p ok ∈ events → p.networkKey ≠ zeroKey
  saved : file ≠ .absent → ∀ before p after, events = before ++ .saveNetworkState p :: after →
    before.getLast? = some (.formNetwork p true) ∧ KeepsFile file p

/-- A network is needed, or the saved one is another. -/
def Env.Forms : Prop :=
  ∃ info, env.info = some info ∧
    (env.needsNetwork info = true ∨ env.stateFile = true ∧
      ∃ saved, loadNetworkState env.file env.checkFault = .ok (some saved) ∧
        ¬ info.SameNetwork saved)

/-- A random key is not all zeros, and an existing file can be read, or nothing else is formed
in its place. -/
structure Env.FormSound (env : Env) : Prop where
  key : ∀ generated, env.generateRandomNetworkParameters = .ok generated →
    generated.networkKey = zeroKey →
      ∃ saved, env.savedParams = some saved ∧ saved.networkKey ≠ zeroKey
  file : env.stateFile = true → env.file ≠ .absent → env.savedParams = none →
    ∀ generated, env.generateRandomNetworkParameters = .ok generated →
      env.formNetwork generated = none → KeepsFile env.file generated

/-- An existing file can be read when it is compared with the dongle's network, and forming does
no harm when it is reached. -/
structure Env.Sound (env : Env) : Prop where
  check : ∀ info, env.info = some info → env.needsNetwork info = false → env.stateFile = true →
    env.file ≠ .absent → ∃ saved, loadNetworkState env.file env.checkFault = .ok (some saved)
  form : env.Forms → env.FormSound

/-! ## The proof -/

theorem survives_nil : Survives file [] where
  key := by simp
  saved := by simp

theorem survives_save_iff :
    Survives file [.saveNetworkState p] ↔ file = .absent := by
  constructor
  · intro h
    by_contra hfile
    have hlast := (h.saved hfile [] p [] rfl).1
    cases hlast
  · rintro rfl
    exact ⟨by simp, fun h => absurd rfl h⟩

theorem survives_form_save_iff :
    Survives file [.formNetwork p true, .saveNetworkState p] ↔
      p.networkKey ≠ zeroKey ∧ (file ≠ .absent → KeepsFile file p) := by
  constructor
  · intro h
    exact ⟨h.key p true List.mem_cons_self,
      fun hfile => (h.saved hfile [.formNetwork p true] p [] rfl).2⟩
  · rintro ⟨hkey, hkeeps⟩
    refine ⟨?_, ?_⟩
    · intro q ok hmem
      simp only [List.mem_cons, Event.formNetwork.injEq, reduceCtorEq, List.not_mem_nil, or_false]
        at hmem
      rw [hmem.1]
      exact hkey
    · intro hfile before q after heq
      -- the save is the second event
      match before, heq with
      | [], heq => cases heq
      | [first], heq =>
        simp only [List.cons_append, List.nil_append, List.cons.injEq,
          Event.saveNetworkState.injEq] at heq
        obtain ⟨rfl, rfl, -⟩ := heq
        exact ⟨rfl, hkeeps hfile⟩
      | first :: second :: rest, heq =>
        have hlength := congrArg List.length heq
        simp at hlength

theorem survives_form_iff (ok : Bool) :
    Survives file [.formNetwork p ok] ↔ p.networkKey ≠ zeroKey := by
  constructor
  · exact fun h => h.key p ok List.mem_cons_self
  · intro hkey
    refine ⟨?_, ?_⟩
    · intro q ok' hmem
      simp only [List.mem_singleton, Event.formNetwork.injEq] at hmem
      rw [hmem.1]
      exact hkey
    · intro _ before q after heq
      have hmem : Event.saveNetworkState q ∈ [Event.formNetwork p ok] := by
        rw [heq]
        simp
      simp at hmem

theorem survives_formNetworkAndSave_iff :
    Survives env.file (env.formNetworkAndSave p).events ↔
      p.networkKey ≠ zeroKey ∧ (env.stateFile = true → env.file ≠ .absent →
        env.formNetwork p = none → KeepsFile env.file p) := by
  unfold Env.formNetworkAndSave
  cases hform : env.formNetwork p with
  | some => simp [survives_form_iff]
  | none =>
    cases hstate : env.stateFile with
    | true => simp [survives_form_save_iff]
    | false => simp [survives_form_iff]

theorem file_of_load {file : StateFile} {fault : Option String} {saved : NetworkParameters}
    (h : loadNetworkState file fault = .ok (some saved)) : file = .holds saved := by
  unfold loadNetworkState at h
  split at h
  · cases h
  · split at h
    · cases h
    · cases h
    · split at h
      · cases h
      · cases h
        rfl

theorem file_of_savedParams {env : Env} {saved : NetworkParameters}
    (h : env.savedParams = some saved) : env.file = .holds saved := by
  unfold Env.savedParams at h
  split at h
  · split at h
    · rename_i hload
      subst h
      exact file_of_load hload
    · cases h
  · cases h

theorem isZeroNetworkKey_eq_false {key : NetworkKey} (h : ¬ isZeroNetworkKey key = true) :
    key ≠ zeroKey := fun hkey => h ((isZeroNetworkKey_iff key).mpr hkey)

theorem formSound_of_saved {env : Env} {saved : NetworkParameters}
    (hsaved : env.savedParams = some saved) :
    env.FormSound ↔ (saved.networkKey = zeroKey →
      ∀ generated, env.generateRandomNetworkParameters = .ok generated →
        generated.networkKey ≠ zeroKey) := by
  constructor
  · intro h hzero generated hgenerated hkey
    obtain ⟨saved', hsaved', hnonzero⟩ := h.key generated hgenerated hkey
    rw [hsaved] at hsaved'
    cases hsaved'
    exact hnonzero hzero
  · intro h
    refine ⟨fun generated hgenerated hkey => ⟨saved, hsaved, fun hzero => ?_⟩, ?_⟩
    · exact h hzero generated hgenerated hkey
    · intro _ _ hnone
      rw [hsaved] at hnone
      cases hnone

theorem survives_form_part_iff :
    Survives env.file env.form.events ↔ env.FormSound := by
  unfold Env.form
  cases hsaved : env.savedParams with
  | some saved =>
    have hfile := file_of_savedParams hsaved
    rw [formSound_of_saved hsaved]
    dsimp only
    split
    · rename_i hzero
      have hkey := (isZeroNetworkKey_iff saved.networkKey).mp hzero
      cases hgenerated : env.generateRandomNetworkParameters with
      | error => exact iff_of_true (survives_nil _) (by simp)
      | ok generated =>
        have hkeeps : KeepsFile env.file { saved with networkKey := generated.networkKey } :=
          ⟨saved, hfile, Or.inr ⟨hkey, rfl⟩⟩
        rw [survives_formNetworkAndSave_iff]
        simp [hkey, hkeeps]
    · rename_i hnonzero
      have hkey := isZeroNetworkKey_eq_false hnonzero
      have hkeeps : KeepsFile env.file saved := ⟨saved, hfile, Or.inl rfl⟩
      rw [survives_formNetworkAndSave_iff]
      simp [hkey, hkeeps]
  | none =>
    cases hgenerated : env.generateRandomNetworkParameters with
    | error => exact iff_of_true (survives_nil _) ⟨by simp [hgenerated], by simp [hgenerated]⟩
    | ok generated =>
      rw [survives_formNetworkAndSave_iff]
      constructor
      · rintro ⟨hkey, hkeeps⟩
        refine ⟨?_, ?_⟩
        · rintro g hg hzero
          rw [hgenerated] at hg
          cases hg
          exact absurd hzero hkey
        · rintro hstate habsent - g hg hform
          rw [hgenerated] at hg
          cases hg
          exact hkeeps hstate habsent hform
      · intro h
        refine ⟨fun hzero => ?_, fun hstate habsent hform =>
          h.file hstate habsent hsaved generated hgenerated hform⟩
        obtain ⟨saved, hsome, -⟩ := h.key generated hgenerated hzero
        rw [hsaved] at hsome
        cases hsome

theorem sound_of_joined {env : Env} {info : NetworkInfo} (hinfo : env.info = some info)
    (hneeds : ¬ env.needsNetwork info = true) :
    env.Sound ↔ (env.stateFile = true →
      (env.file ≠ .absent → ∃ saved, loadNetworkState env.file env.checkFault = .ok (some saved)) ∧
      ∀ saved, loadNetworkState env.file env.checkFault = .ok (some saved) →
        ¬ info.SameNetwork saved → env.FormSound) := by
  constructor
  · intro h hstate
    exact ⟨h.check info hinfo (by simpa using hneeds) hstate,
      fun saved hload hother => h.form ⟨info, hinfo, Or.inr ⟨hstate, saved, hload, hother⟩⟩⟩
  · intro h
    refine ⟨fun _ _ _ hstate => (h hstate).1, ?_⟩
    rintro ⟨info', hinfo', hforms⟩
    rw [hinfo] at hinfo'
    cases hinfo'
    rcases hforms with hforms | ⟨hstate, saved, hload, hother⟩
    · exact absurd hforms hneeds
    · exact (h hstate).2 saved hload hother

theorem survives_adopt_iff {env : Env} {info : NetworkInfo} (hinfo : env.info = some info)
    (hneeds : ¬ env.needsNetwork info = true) (hstate : env.stateFile = true)
    (hload : ∀ saved, loadNetworkState env.file env.checkFault ≠ .ok (some saved)) :
    Survives env.file [.saveNetworkState (adopted info)] ↔ env.Sound := by
  rw [survives_save_iff, sound_of_joined hinfo hneeds]
  constructor
  · intro habsent _
    exact ⟨fun h => absurd habsent h, fun saved hsome => absurd hsome (hload saved)⟩
  · intro h
    by_contra hfile
    obtain ⟨saved, hsome⟩ := (h hstate).1 hfile
    exact hload saved hsome

/-- **The saved network survives.**  No network is formed with a zero key and an existing file
is overwritten only with what it said and was just formed, exactly when every reading of it
succeeds (or nothing is formed in its place) and the random key is not all zeros. -/
theorem network_survives_iff (env : Env) :
    Survives env.file env.running.events ↔ env.Sound := by
  unfold Env.running
  cases hinfo : env.info with
  | none =>
    refine iff_of_true (survives_nil _) ⟨by simp [hinfo], ?_⟩
    rintro ⟨info, hsome, -⟩
    rw [hinfo] at hsome
    cases hsome
  | some info =>
    dsimp only
    split
    · -- the dongle has no network, or a network is to be formed
      rename_i hneeds
      rw [survives_form_part_iff]
      have hforms : env.Forms := ⟨info, hinfo, Or.inl hneeds⟩
      refine ⟨fun h => ⟨?_, fun _ => h⟩, fun h => h.form hforms⟩
      intro info' hinfo' hneeds'
      rw [hinfo] at hinfo'
      cases hinfo'
      rw [hneeds] at hneeds'
      cases hneeds'
    · rename_i hneeds
      split
      · rename_i hstate
        split
        · -- the file is read
          rename_i saved hload
          rw [sound_of_joined hinfo hneeds]
          split
          · rename_i hsame
            refine iff_of_true (survives_nil _) fun _ => ⟨fun _ => ⟨saved, hload⟩, ?_⟩
            intro saved' hload' hother
            rw [hload] at hload'
            cases hload'
            exact absurd hsame hother
          · rename_i hother
            rw [survives_form_part_iff]
            exact ⟨fun h _ => ⟨fun _ => ⟨saved, hload⟩, fun _ _ _ => h⟩,
              fun h => (h hstate).2 saved hload hother⟩
        · rename_i hload
          exact survives_adopt_iff hinfo hneeds hstate (by simp [hload])
        · rename_i err hload
          exact survives_adopt_iff hinfo hneeds hstate (by simp [hload])
      · rename_i hstate
        rw [sound_of_joined hinfo hneeds]
        exact iff_of_true (survives_nil _) fun h => absurd h hstate

def joinedInfo : NetworkInfo := ⟨0x1A62, 0x00124B0001020304, 15, .up⟩

def homeStart : Env where
  stateFile := true
  forceForm := false
  info := some joinedInfo
  file := .holds ⟨0x1A62, 0x00124B0001020304, 15, Vector.replicate 16 7⟩
  checkFault := none
  formFault := none
  random := .ok (0xBEEF, 0xCAFE, Vector.replicate 16 9)
  formNetwork _ := none

/-- A file that cannot be read is overwritten: without a key on the dongle's network, with
another network when one is formed.  A zero key is used. -/
theorem unread_file_overwritten :
    ¬ Survives homeStart.file ({ homeStart with checkFault := some "i/o error" }).running.events ∧
    ¬ Survives homeStart.file
      ({ homeStart with forceForm := true, formFault := some "i/o error" }).running.events ∧
    ¬ Survives .absent
      ({ homeStart with
          file := .absent, forceForm := true, random := .ok (1, 1, zeroKey) }).running.events := by
  refine ⟨fun h => ?_, fun h => ?_, fun h => ?_⟩
  · have hlast := (h.saved (by decide) [] (adopted joinedInfo) [] (by decide)).1
    cases hlast
  · obtain ⟨-, saved, hfile, hsame⟩ := h.saved (by decide)
      [.formNetwork ⟨0xBEEF, 0xCAFE, 11, Vector.replicate 16 9⟩ true]
      ⟨0xBEEF, 0xCAFE, 11, Vector.replicate 16 9⟩ [] (by decide)
    cases hfile
    revert hsame
    decide
  · exact h.key ⟨1, 1, 11, zeroKey⟩ true (by decide) rfl

end IotController.ZigbeeCoordinator.StartUp
