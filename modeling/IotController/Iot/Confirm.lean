/-
  Commands over MQTT and the cache (`Handler.send` and `errHandler` in
  `pkg/iot/handlers/zigbee/zigbee.go`, under the loops of `pkg/iot/zone.go`).

  `send` publishes, waits three seconds for the token, does not look at how the wait ended,
  and returns the token's error, which is nil until the token completes.  To the loops of a
  Flush a publish that is still open is a command that the device has accepted.
-/
import IotController.Iot.FlushCache

namespace IotController.Iot

open Foundation Api Proto Compute

/-! ## The handler -/

/-- `mqtt.Token`, as it stands when the wait ends. -/
structure Token where
  complete : Bool
  err : Option String
  /-- `Error` is nil until the token completes -/
  open_nil : complete = false → err = none

def Token.waitTimeout (t : Token) : Bool := t.complete

/-- How publishing a command ends. -/
inductive Published where
  /-- `json.Marshal` fails -/
  | unencodable (err : String)
  | published (t : Token)

def Published.send : Published → Option String
  | unencodable err => some err
  | published t => t.err

/-- The token completed in time, without an error. -/
def Published.Confirmed : Published → Prop
  | unencodable _ => False
  | published t => t.waitTimeout = true ∧ t.err = none

/-- What a Flush over MQTT meets. -/
structure MqttEnv where
  range : MapOrder
  now : AppliedKind → String → Time
  sentAt : AppliedKind → String → Time
  publish : Command → String → Published

def MqttEnv.flushEnv (env : MqttEnv) : FlushEnv where
  range := env.range
  now := env.now
  sentAt := env.sentAt
  reply c name := (env.publish c name).send

/-! ## What a Flush records -/

def Zone.loop? (z : Zone) : AppliedKind → Option Loop
  | .state =>
    match z.state with
    | .on | .offtimer => some onLoop
    | .off => some offLoop
    | _ => none
  | .brightness =>
    match z.state with
    | .unspecified | .off => none
    | _ => some z.brightnessLoop
  | .colorTemp =>
    match z.state with
    | .on | .offtimer => some z.colorTemperatureLoop
    | _ => none
  | .color => if z.state = .color then some z.colorLoop else none

def LiveZone.calls (z : LiveZone) (limiter : FlushLimiter) (now : Time) (key : AppliedKey) :
    Option Loop :=
  match z.devices.find? fun d => d.name = key.device, z.values.loop? key.kind with
  | some d, some loop =>
    if loop.types d.type = true ∧ admits limiter d.name = true ∧
        shouldSuppress (z.applied.lookup key) z.refreshAge now loop.desired = false then
      some loop
    else none
  | _, _ => none

theorem kind_of_loop? {z : Zone} {kind : AppliedKind} {loop : Loop}
    (h : z.loop? kind = some loop) : loop.kind = kind := by
  unfold Zone.loop? at h
  split at h <;> split at h <;> cases h <;> rfl

section Flushes

variable {env : FlushEnv} {limiter : FlushLimiter} {z : LiveZone}

theorem applied_through (d : ZoneDevice) (loop : Loop) (v : DeviceView) (kind : AppliedKind) :
    (v.through env limiter z d loop).applied kind =
      if loop.kind = kind ∧ loop.types d.type = true ∧ admits limiter d.name = true ∧
          shouldSuppress (v.applied loop.kind) z.refreshAge (env.now loop.kind d.name)
            loop.desired = false ∧ env.reply loop.command d.name = none then
        some ⟨loop.desired, env.sentAt loop.kind d.name⟩
      else v.applied kind := by
  unfold DeviceView.through
  by_cases hkind : loop.kind = kind
  · subst hkind
    split_ifs <;> simp_all
  · rw [if_neg fun h : loop.kind = kind ∧ _ => hkind h.1]
    exact applied_through_of_ne (Ne.symm hkind)

theorem applied_flush_view (d : ZoneDevice) (v : DeviceView) (kind : AppliedKind) :
    (v.flush env limiter z d).applied kind =
      match z.values.loop? kind with
      | some loop => (v.through env limiter z d loop).applied kind
      | none => v.applied kind := by
  have hrandom : (v.throughRandomColor env limiter z d).applied = v.applied := by
    unfold DeviceView.throughRandomColor
    split <;> rfl
  unfold DeviceView.flush Zone.loop?
  cases z.values.state <;> cases kind <;> simp [applied_through, hrandom]

theorem applied_flush (key : AppliedKey) :
    (flush env limiter z).zone.applied.lookup key =
      match z.calls limiter (env.now key.kind key.device) key with
      | some loop =>
        if env.reply loop.command key.device = none then
          some ⟨loop.desired, env.sentAt key.kind key.device⟩
        else z.applied.lookup key
      | none => z.applied.lookup key := by
  obtain ⟨name, kind⟩ := key
  show ((flush env limiter z).view name).applied kind = _
  unfold LiveZone.calls
  cases hfind : z.devices.find? fun d => d.name = name with
  | none =>
    rw [view_flush_of_other]
    · rfl
    · intro hname
      obtain ⟨d, hd, hname⟩ := List.mem_map.mp hname
      simpa [hname] using List.find?_eq_none.mp hfind d hd
  | some d =>
    obtain rfl : d.name = name := by simpa using List.find?_some hfind
    rw [view_flush (List.mem_of_find?_eq_some hfind), applied_flush_view]
    cases hloop : z.values.loop? kind with
    | none => rfl
    | some loop =>
      have hkind := kind_of_loop? hloop
      subst hkind
      simp only [applied_through, true_and, LiveZone.view]
      split_ifs <;> simp_all

end Flushes

theorem shouldSuppress_mono {entry : Option AppliedRecord} {refreshAge : Duration}
    {now later : Time} {desired : String}
    (h : shouldSuppress entry refreshAge now desired = false) (hle : now ≤ later) :
    shouldSuppress entry refreshAge later desired = false := by
  unfold shouldSuppress at h ⊢
  split
  · rfl
  · rename_i record
    have hmono : now.sub record.ts ≤ later.sub record.ts :=
      max_le_max le_rfl (min_le_min le_rfl (sub_le_sub_right hle _))
    grind

/-! ## Runs -/

/-- A command, and how its publishing ended. -/
structure Attempt where
  loop : Loop
  outcome : Published
  now : Time

/-- A zone, with what was recorded and tried. -/
structure Ledger where
  zone : LiveZone
  recorded : AppliedKey → Option Attempt := fun _ => none
  last : AppliedKey → Option Attempt := fun _ => none

/-- What happens to a zone. -/
inductive MqttEvent where
  | set (c : Setter)
  | devices (devices : List ZoneDevice) (distinct : (devices.map ZoneDevice.name).Nodup)
  | flush (limiter : FlushLimiter) (env : MqttEnv)

def LiveZone.attempt (z : LiveZone) (limiter : FlushLimiter) (env : MqttEnv) (key : AppliedKey) :
    Option Attempt :=
  let now := env.now key.kind key.device
  (z.calls limiter now key).map fun loop => ⟨loop, env.publish loop.command key.device, now⟩

def Ledger.step (s : Ledger) : MqttEvent → Ledger
  | .set c => { s with zone := { s.zone with values := c.apply s.zone.values } }
  | .devices devices distinct => { s with zone := { s.zone with devices, distinct } }
  | .flush limiter env =>
    { zone := (Iot.flush env.flushEnv limiter s.zone).zone
      recorded := fun key =>
        match s.zone.attempt limiter env key with
        | some a => if a.outcome.send = none then some a else s.recorded key
        | none => s.recorded key
      last := fun key => (s.zone.attempt limiter env key).or (s.last key) }

/-- What is in the cache was confirmed, and a command that was not is still due. -/
structure Ledger.OnlyConfirmed (s : Ledger) : Prop where
  cached : ∀ key r, s.zone.applied.lookup key = some r →
    ∃ a, s.recorded key = some a ∧ a.loop.desired = r.value ∧ a.outcome.Confirmed
  due : ∀ key a, s.last key = some a → ¬ a.outcome.Confirmed → ∀ later, a.now ≤ later →
    shouldSuppress (s.zone.applied.lookup key) s.zone.refreshAge later a.loop.desired = false

/-- What a flush publishes is acknowledged in time. -/
def Answered (s : Ledger) : MqttEvent → Prop
  | .set _ => True
  | .devices _ _ => True
  | .flush limiter env => ∀ key a t, s.zone.attempt limiter env key = some a →
    a.outcome = .published t → t.waitTimeout = true

theorem refreshAge_flush {env : FlushEnv} {limiter : FlushLimiter} {z : LiveZone} :
    (flush env limiter z).zone.refreshAge = z.refreshAge := by
  unfold flush
  split_ifs <;> rfl

theorem applied_step (s : Ledger) (limiter : FlushLimiter) (env : MqttEnv) (key : AppliedKey) :
    (s.step (.flush limiter env)).zone.applied.lookup key =
      match s.zone.attempt limiter env key with
      | some a =>
        if a.outcome.send = none then some ⟨a.loop.desired, env.sentAt key.kind key.device⟩
        else s.zone.applied.lookup key
      | none => s.zone.applied.lookup key := by
  refine (@applied_flush env.flushEnv limiter s.zone key).trans ?_
  show (match s.zone.calls limiter (env.now key.kind key.device) key with
    | some loop => _
    | none => _) = _
  unfold LiveZone.attempt
  dsimp only
  cases s.zone.calls limiter (env.now key.kind key.device) key <;> rfl

theorem confirmed_of_answered {p : Published} (hsend : p.send = none)
    (hanswered : ∀ t, p = .published t → t.waitTimeout = true) : p.Confirmed := by
  cases p with
  | unencodable err => cases hsend
  | published t => exact ⟨hanswered t rfl, hsend⟩

theorem not_suppressed_of_attempt {z : LiveZone} {limiter : FlushLimiter} {env : MqttEnv}
    {key : AppliedKey} {a : Attempt} (h : z.attempt limiter env key = some a) :
    shouldSuppress (z.applied.lookup key) z.refreshAge a.now a.loop.desired = false := by
  obtain ⟨loop, hcalls, rfl⟩ := Option.map_eq_some_iff.mp h
  unfold LiveZone.calls at hcalls
  split at hcalls
  · split at hcalls
    · rename_i hgoes
      cases hcalls
      exact hgoes.2.2
    · cases hcalls
  · cases hcalls

theorem onlyConfirmed_step (s : Ledger) (e : MqttEvent) (h : s.OnlyConfirmed) :
    (s.step e).OnlyConfirmed ↔ Answered s e := by
  cases e with
  | set c => exact iff_of_true ⟨h.cached, h.due⟩ trivial
  | devices devices distinct => exact iff_of_true ⟨h.cached, h.due⟩ trivial
  | flush limiter env =>
    have hage : (s.step (.flush limiter env)).zone.refreshAge = s.zone.refreshAge :=
      refreshAge_flush
    constructor
    · intro h' key a t hattempt ht
      by_contra hopen
      have hsend : a.outcome.send = none := by
        rw [ht]
        exact t.open_nil (Bool.eq_false_of_not_eq_true hopen)
      have hrecord := applied_step s limiter env key
      have hsame : (s.step (.flush limiter env)).recorded key = some a := by
        simp [Ledger.step, hattempt, hsend]
      simp only [hattempt, if_pos hsend] at hrecord
      obtain ⟨a', ha', -, hconfirmed⟩ := h'.cached key _ hrecord
      cases hsame.symm.trans ha'
      rw [ht] at hconfirmed
      exact hopen hconfirmed.1
    · intro hanswered
      refine ⟨fun key r hr => ?_, fun key a ha hnot later hle => ?_⟩
      all_goals
        have hconfirmed := fun a hattempt hsend =>
          @confirmed_of_answered a.outcome hsend (hanswered key a · hattempt)
      · have hcached := h.cached key
        rw [applied_step] at hr
        simp only [Ledger.step]
        grind
      · have hdue := fun a (hattempt : s.zone.attempt limiter env key = some a)
          (hle : a.now ≤ later) => shouldSuppress_mono (not_suppressed_of_attempt hattempt) hle
        have hold := h.due key
        rw [applied_step, hage]
        simp only [Ledger.step] at ha
        grind

/-- All along a run, what is cached was confirmed and a command that was not is due again,
exactly if every token completes while it is waited for. -/
theorem cached_confirmed_iff (zone : LiveZone) (events : List MqttEvent) :
    (∀ n, (run Ledger.step { zone := zone.forget } (events.take n)).OnlyConfirmed) ↔
      Along Ledger.step Answered { zone := zone.forget } events :=
  invariant_iff_along (fun s e _ h => onlyConfirmed_step s e h) ⟨nofun, fun _ _ h => by cases h⟩

def nookZone : LiveZone where
  name := "nook"
  values := { state := .on }
  devices := [⟨"nook-lamp", .basicLight⟩]
  named := by decide
  distinct := by decide

def nookEnv : MqttEnv where
  range := .stored
  now _ _ := 0
  sentAt _ _ := 3 * second
  publish _ _ := .published ⟨false, none, fun _ => rfl⟩

/-- The command to switch on is in the cache, and the next Flush does not send it again. -/
theorem nook_not_sent_again :
    let s := run Ledger.step { zone := nookZone.forget } [.flush unlimited nookEnv]
    s.zone.applied.lookup ⟨"nook-lamp", .state⟩ = some ⟨"ZONE_STATE_ON", 3 * second⟩ ∧
      ¬ (nookEnv.publish .on "nook-lamp").Confirmed ∧
      (s.zone.calls unlimited (4 * second) ⟨"nook-lamp", .state⟩).isNone = true := by
  refine ⟨by decide +kernel, nofun, by decide +kernel⟩

end IotController.Iot
