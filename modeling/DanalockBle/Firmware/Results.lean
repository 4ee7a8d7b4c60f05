import DanalockBle.Firmware.Chain

/-!
# What the calls of a cycle bring

A step of the firmware update entity that ends a call: the probe or the lock read of the cycle that
runs. `probeEnd` and `readEnd` read the result off the step; `started_kinds` says that a step does
nothing, spawns a task, or ends one of the two calls, and `spawned_stops` what a spawned task has
done when it stops.
-/

namespace DanalockBle

open Coroutine Coroutine.Coro TimerChain DanalockFirmwareUpdateEntity

namespace FirmwareConfig

/-- The task whose probe ends in the step, and the result. -/
def probeEnd (c : FirmwareConfig) : FirmwareLabel → Option (TaskId × Except PyErr FirmwareVersion)
  | .resume t reply =>
    match c.tasks t with
    | some (_, .op .latestFirmware _) => (reply .latestFirmware).map (t, ·)
    | _ => none
  | _ => none

/-- The task whose lock read ends in the step, and the result. -/
def readEnd (c : FirmwareConfig) : FirmwareLabel → Option (TaskId × Except PyErr DeviceInformation)
  | .resume t reply =>
    match c.tasks t with
    | some (_, .op .deviceInformation _) => (reply .deviceInformation).map (t, ·)
    | _ => none
  | _ => none

section
variable {versionDot : VersionDot} {serial : Serial} {c : FirmwareConfig} {l : FirmwareLabel}
  {p : ChainPhase Nat TaskId} {t : TaskId} {req : FirmwareRequest} {k : Fw Unit}
  {e : FirmwareEntity}

theorem step_started
    (hs : Config.started (FirmwareRequest.prog versionDot serial) c l = some (t, req, k, e)) :
    Config.step (FirmwareRequest.prog versionDot serial) c l =
      c.put t req (firmwareMachine.advance t k e) := by
  simp only [Config.step, hs]

/-- A step that is not possible. -/
theorem step_idle (hs : Config.started (FirmwareRequest.prog versionDot serial) c l = none) :
    Config.step (FirmwareRequest.prog versionDot serial) c l = c := by
  unfold Config.step
  rw [hs]
  cases l with
  | env ev => exact nomatch ev
  | _ => rfl

/-- A step that ends a call is possible. -/
theorem ends_none (hs : Config.started (FirmwareRequest.prog versionDot serial) c l = none) :
    c.probeEnd l = none ∧ c.readEnd l = none := by
  cases l with
  | env ev => exact nomatch ev
  | spawn t req => exact ⟨rfl, rfl⟩
  | resume t reply =>
    simp only [Config.started] at hs
    simp only [probeEnd, readEnd]
    cases htask : c.tasks t with
    | none => exact ⟨rfl, rfl⟩
    | some task =>
      obtain ⟨req, k⟩ := task
      rw [htask] at hs
      cases k with
      | op o f =>
        cases o with
        | latestFirmware =>
          cases hr : reply .latestFirmware with
          | none => exact ⟨rfl, rfl⟩
          | some r => simp [hr, FirmwareEntity.wakeOp] at hs
        | deviceInformation =>
          cases hr : reply .deviceInformation with
          | none => exact ⟨rfl, rfl⟩
          | some r => simp [hr, FirmwareEntity.wakeOp] at hs
        | _ => exact ⟨rfl, rfl⟩
      | _ => exact ⟨rfl, rfl⟩

/-- What a step runs: a spawned task, or the task in the cycle when its call has ended. -/
inductive Kind (versionDot : VersionDot) (serial : Serial) (c : FirmwareConfig)
    (l : FirmwareLabel) (p : ChainPhase Nat TaskId) (t : TaskId) (req : FirmwareRequest) :
    Fw Unit → Prop
  | spawned (hl : l = .spawn t req) (ht : c.tasks t = none) :
    Kind versionDot serial c l p t req (req.prog versionDot serial)
  | probe (r : Except PyErr FirmwareVersion) (hend : c.probeEnd l = some (t, r))
    (hread : c.readEnd l = none) (hp : p = .running t)
    (ht : c.tasks t = some (req, probing versionDot serial req Fw.latestFirmware)) :
    Kind versionDot serial c l p t req (probing versionDot serial req (.ofResult r))
  | read (r : Except PyErr DeviceInformation) (hend : c.readEnd l = some (t, r))
    (hprobe : c.probeEnd l = none) (hp : p = .running t)
    (ht : c.tasks t = some (req, reading versionDot serial req Fw.deviceInformation)) :
    Kind versionDot serial c l p t req (reading versionDot serial req (.ofResult r))

theorem started_kinds (h : Follows versionDot serial c p)
    (hs : Config.started (FirmwareRequest.prog versionDot serial) c l = some (t, req, k, e)) :
    Kind versionDot serial c l p t req k ∧ e = c.state := by
  rcases Config.started_cases _ hs with
    ⟨rfl, ht, rfl, rfl⟩ | ⟨reply, o, f, r, rfl, htask, hr, hwake, rfl⟩
  · exact ⟨.spawned rfl ht, rfl⟩
  · have hp := h.running htask
    rcases h.waits t req _ htask with hk | hk
    · rw [hk] at htask
      rw [probing_wait] at hk
      cases hk
      cases hwake
      refine ⟨.probe r ?_ ?_ hp htask, rfl⟩
      · simp only [probeEnd, htask, probing_wait, hr, Option.map_some]
      · simp only [readEnd, htask, probing_wait]
    · rw [hk] at htask
      rw [reading_wait] at hk
      cases hk
      cases hwake
      refine ⟨.read r ?_ ?_ hp htask, rfl⟩
      · simp only [readEnd, htask, reading_wait, hr, Option.map_some]
      · simp only [probeEnd, htask, reading_wait]

end

end FirmwareConfig

/-- The state may have been written since, with the values of now. -/
def FirmwareEntity.WroteFrom (e e' : FirmwareEntity) : Prop :=
  e'.written = e.written ∨ e'.written = e'.values :: e.written

/-- A spawned task stops: it has started a cycle and sent its probe, or it has ended. The values
stay. -/
inductive Stops (versionDot : VersionDot) (serial : Serial) (req : FirmwareRequest)
    (e : FirmwareEntity) : Fw Unit × FirmwareEntity → Prop
  | start (e' : FirmwareEntity) (hidle : e.cycleInFlight = false)
    (hflag : e'.cycleInFlight = true) (hprobes : e'.probes = e.probes + 1)
    (hvalues : e'.values = e.values) (hwritten : e.WroteFrom e') :
    Stops versionDot serial req e (probing versionDot serial req Fw.latestFirmware, e')
  | rest (k : Fw Unit) (e' : FirmwareEntity) (hk : k.ended.isSome = true)
    (hflag : e'.cycleInFlight = e.cycleInFlight) (hprobes : e'.probes = e.probes)
    (hvalues : e'.values = e.values) (hwritten : e.WroteFrom e') :
    Stops versionDot serial req e (k, e')

@[simp] theorem FirmwareEntity.cancelKept_values (e : FirmwareEntity) :
    e.cancelKept.values = e.values := by
  unfold cancelKept; split <;> rfl

section
variable (versionDot : VersionDot) (serial : Serial) (t : TaskId) (e : FirmwareEntity)
  (req : FirmwareRequest)

/-- A request that calls a cycle. -/
theorem called_stops {e' : FirmwareEntity} (hflag : e'.cycleInFlight = e.cycleInFlight)
    (hprobes : e'.probes = e.probes) (hvalues : e'.values = e.values)
    (hwritten : e'.written = e.written) :
    Stops versionDot serial req e
      (firmwareMachine.advance t ((asyncCycle versionDot).bind (req.after serial)) e') := by
  rw [started_cycle]
  split
  · next hstart =>
    exact .start _ (hflag ▸ hstart.2) rfl (congrArg (· + 1) hprobes) hvalues (.inl hwritten)
  · exact .rest _ _ (FirmwareConfig.after_ended serial req _) hflag hprobes hvalues (.inl hwritten)

theorem spawned_stops (hreq : ∀ lastState, req ≠ .added lastState) :
    Stops versionDot serial req e
      (firmwareMachine.advance t (req.prog versionDot serial) e) := by
  cases req with
  | added lastState => exact absurd rfl (hreq lastState)
  | fire h =>
    rw [started_fire]
    split
    · exact called_stops versionDot serial t e (.fire h) rfl rfl rfl rfl
    · exact .rest _ _ rfl rfl rfl rfl (.inl rfl)
  | update =>
    rw [started_update]
    exact called_stops versionDot serial t e .update (by simp) (by simp) (by simp) (by simp)
  | write => exact .rest _ _ rfl rfl rfl rfl (.inr rfl)
  | remove =>
    rw [started_remove]
    exact .rest _ _ rfl (by simp) (by simp) (by simp) (.inl (by simp))
  | abort => exact .rest _ _ rfl rfl rfl rfl (.inl rfl)

end

namespace FirmwareConfig

/-- A probe leads to the lock when it brought a version that is not the installed one. -/
theorem probeEnded_contact (e : FirmwareEntity) (r : Except PyErr FirmwareVersion) :
    (e.probeEnded r).1 = .contact ↔ ∃ latest, r.toOption = some latest ∧
      versionsEqual e.values.installedVersion (some latest.version) = false := by
  cases r with
  | ok latest =>
    simp only [FirmwareEntity.probeEnded, Except.toOption, Option.some.injEq, exists_eq_left']
    cases versionsEqual e.values.installedVersion (some latest.version) with
    | true => exact ⟨by rintro ⟨⟩, by rintro ⟨⟩⟩
    | false => exact ⟨fun _ => rfl, fun _ => rfl⟩
  | error err =>
    refine ⟨fun hcontact => ?_, by rintro ⟨_, ⟨⟩, _⟩⟩
    simp only [FirmwareEntity.probeEnded] at hcontact
    split at hcontact
    · cases hcontact
    · split at hcontact <;> cases hcontact

theorem readEnded_contact (versionDot : VersionDot) (e : FirmwareEntity)
    (r : Except PyErr DeviceInformation) :
    (e.readEnded versionDot r).1 ≠ .contact := by
  cases r with
  | ok info => rintro ⟨⟩
  | error err =>
    simp only [FirmwareEntity.readEnded]
    split <;> rintro ⟨⟩

theorem run_snoc (versionDot : VersionDot) (serial : Serial) (lastState : Option FirmwareValues)
    (ls : List FirmwareLabel) (l : FirmwareLabel) : run versionDot serial lastState (ls ++ [l]) =
      Config.step (FirmwareRequest.prog versionDot serial) (run versionDot serial lastState ls) l :=
  Runs.exec_snoc

end FirmwareConfig

end DanalockBle
