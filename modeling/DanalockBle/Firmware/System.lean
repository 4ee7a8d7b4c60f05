import DanalockBle.Firmware.Entity
import DanalockBle.Lib.Scheduler

/-!
# The firmware update entity as tasks of the event loop

The entity with its timers, and what runs as its tasks: the add, the fired timers, forced checks,
the writes of Home Assistant itself (after an add or an update), the removal and the abort of an
add, on which Home Assistant clears `hass`. The entity suspends at the cloud probe and at the lock
read only, inside a cycle; `started_cycle`, `resumed_probe` and `resumed_read` say what a task does
from one suspension to the next.
-/

namespace DanalockBle

open Coroutine Coroutine.Coro TimerChain DanalockFirmwareUpdateEntity

structure FirmwareEntity where
  values : FirmwareValues := {}
  unsubCycle : Option Nat := none
  cycleInFlight : Bool := false
  hass : Bool := true
  /-- the timers armed by the entity, with their delays -/
  timers : Timers Nat := {}
  /-- the `/latest` requests sent -/
  probes : Nat := 0
  /-- the states written, the last one first -/
  written : List FirmwareValues := []

namespace FirmwareEntity

/-- The operations that do not suspend. -/
def runOp (e : FirmwareEntity) : (o : FirmwareOp) → Option (o.Res × FirmwareEntity)
  | .latestFirmware => none
  | .deviceInformation => none
  | .values => some (e.values, e)
  | .setValues v => some ((), { e with values := v })
  | .unsubCycle => some (e.unsubCycle, e)
  | .setUnsubCycle h => some ((), { e with unsubCycle := h })
  | .cancelTimer h => some ((), { e with timers := e.timers.cancel h })
  | .callLater delay => some (e.timers.armed, { e with timers := e.timers.arm delay })
  | .cycleInFlight => some (e.cycleInFlight, e)
  | .setCycleInFlight b => some ((), { e with cycleInFlight := b })
  | .hass => some (e.hass, e)
  | .writeState => some ((), { e with written := e.values :: e.written })
  | .takeTimer h => some ((e.timers.find h).isSome, { e with timers := e.timers.cancel h })
  | .clearHass => some ((), { e with hass := false })

/-- A task starts to wait: the probe is sent. -/
def parkOp (e : FirmwareEntity) : FirmwareOp → FirmwareEntity
  | .latestFirmware => { e with probes := e.probes + 1 }
  | _ => e

/-- The calls of the cloud and of the lock end in any way, at any time. -/
def wakeOp (e : FirmwareEntity) : (o : FirmwareOp) → o.Res → Option FirmwareEntity
  | .latestFirmware, _ => some e
  | .deviceInformation, _ => some e
  | _, _ => none

end FirmwareEntity

@[reducible] def firmwareMachine : Machine firmwareSig where
  State := FirmwareEntity
  Env := Empty
  run _ o e := e.runOp o
  park _ o e := e.parkOp o
  wake _ o r e := e.wakeOp o r
  env ev _ := nomatch ev

/-- What runs as a task of the entity. -/
inductive FirmwareRequest where
  | added (lastState : Option FirmwareValues)
  /-- a timer is due -/
  | fire (h : Nat)
  | update
  /-- Home Assistant writes the state -/
  | write
  | remove
  /-- Home Assistant aborts the add -/
  | abort
  deriving DecidableEq, Repr

section
variable (versionDot : VersionDot) (serial : Serial)

def FirmwareRequest.prog : FirmwareRequest → Fw Unit
  | added lastState => asyncAddedToHass versionDot lastState
  | fire h => do
    let due ← Fw.takeTimer h
    if due then do
      let _ ← asyncCycle versionDot
  | update => asyncUpdate versionDot serial
  | write => Fw.writeState
  | remove => asyncWillRemoveFromHass
  | abort => Fw.clearHass

abbrev FirmwareConfig := Config firmwareMachine PyErr Unit FirmwareRequest

abbrev FirmwareLabel := Label firmwareMachine FirmwareRequest

namespace FirmwareConfig

/-- A new entity, without tasks. -/
def empty : FirmwareConfig where
  state := {}
  tasks _ := none

/-- The entity that Home Assistant adds, in its first cycle. -/
def init (lastState : Option FirmwareValues) : FirmwareConfig :=
  Config.step (FirmwareRequest.prog versionDot serial) empty (.spawn 0 (.added lastState))

/-- The configuration after a run of a new entity. -/
def run (lastState : Option FirmwareValues) (ls : List FirmwareLabel) : FirmwareConfig :=
  Runs.exec (Config.step (FirmwareRequest.prog versionDot serial))
    (init versionDot serial lastState) ls

/-- All tasks have ended when the first `n` have and the run spawns no other. -/
theorem run_ended {lastState : Option FirmwareValues} {ls : List FirmwareLabel} (n : Nat)
    (hadd : (Label.spawn 0 (.added lastState) : FirmwareLabel).spawnsBelow n = true)
    (hls : ls.all (·.spawnsBelow n) = true)
    (hn : ∀ t < n, ((run versionDot serial lastState ls).tasks t).isNone = true) (t : TaskId) :
    (run versionDot serial lastState ls).tasks t = none :=
  Config.exec_ended _ (c := empty) (fun _ => rfl) n
    (List.all_cons.trans (Bool.and_eq_true_iff.mpr ⟨hadd, hls⟩)) hn t

end FirmwareConfig

/-! ## From one suspension to the next -/

/-- How a request goes on after its cycle. -/
def FirmwareRequest.after : FirmwareRequest → CycleOutcome → Fw Unit
  | update => report serial
  | _ => fun _ => .ret ()

/-- A cycle of the request whose probe is the call. -/
def probing (req : FirmwareRequest) (call : Fw FirmwareVersion) : Fw Unit :=
  (tryCycle ((probeLatest call).bind (latestProbed versionDot))).bind (req.after serial)

/-- A cycle of the request whose lock read is the call. -/
def reading (req : FirmwareRequest) (call : Fw DeviceInformation) : Fw Unit :=
  (tryCycle (((readInformation call).bind (informationRead versionDot)).bind fun readError =>
    .ret (readOutcome readError))).bind (req.after serial)

theorem probing_wait (req : FirmwareRequest) :
    probing versionDot serial req Fw.latestFirmware =
      .op .latestFirmware fun r => probing versionDot serial req (.ofResult r) := rfl

theorem reading_wait (req : FirmwareRequest) :
    reading versionDot serial req Fw.deviceInformation =
      .op .deviceInformation fun r => reading versionDot serial req (.ofResult r) := rfl

end

/-- The values after a successful probe. -/
def FirmwareValues.probed (v : FirmwareValues) (latest : FirmwareVersion) : FirmwareValues :=
  { v with
    latestVersion := some latest.version
    maturity := some latest.maturity
    firmwareIdentifier := some (v.firmwareIdentifier.getD latest.firmwareIdentifier) }

/-- The values after a successful lock read. -/
def FirmwareValues.read (v : FirmwareValues) (versionDot : VersionDot) (info : DeviceInformation) :
    FirmwareValues :=
  { v with
    installedVersion := some (versionDot info.firmwareVersion)
    firmwareIdentifier := some info.firmwareIdentifier
    hardwareVersion := some (versionDot info.hardwareVersion) }

/-- How a cycle goes on when a call has ended. -/
inductive CycleProgress where
  | finish (outcome : CycleOutcome)
  /-- the lock is contacted -/
  | contact
  /-- an exception that the cycle does not handle -/
  | fail (err : PyErr)

namespace FirmwareEntity

/-- The entity after a cycle that starts: its probe is sent. -/
def startCycle (e : FirmwareEntity) : FirmwareEntity :=
  { e with unsubCycle := none, cycleInFlight := true, probes := e.probes + 1 }

/-- The entity after a cycle that ends with its outcome. -/
def endCycle (e : FirmwareEntity) (delay : Nat) : FirmwareEntity :=
  if e.hass then
    { e with
      cycleInFlight := false, unsubCycle := some e.timers.armed, timers := e.timers.arm delay
      written := e.values :: e.written }
  else { e with cycleInFlight := false }

/-- The entity after its kept timer is cancelled. -/
def cancelKept (e : FirmwareEntity) : FirmwareEntity :=
  match e.unsubCycle with
  | some h => { e with timers := e.timers.cancel h, unsubCycle := none }
  | none => e

@[simp] theorem cancelKept_armed (e : FirmwareEntity) :
    e.cancelKept.timers.armed = e.timers.armed := by
  unfold cancelKept; split <;> rfl

@[simp] theorem cancelKept_probes (e : FirmwareEntity) : e.cancelKept.probes = e.probes := by
  unfold cancelKept; split <;> rfl

@[simp] theorem cancelKept_hass (e : FirmwareEntity) : e.cancelKept.hass = e.hass := by
  unfold cancelKept; split <;> rfl

@[simp] theorem cancelKept_cycleInFlight (e : FirmwareEntity) :
    e.cancelKept.cycleInFlight = e.cycleInFlight := by
  unfold cancelKept; split <;> rfl

@[simp] theorem cancelKept_written (e : FirmwareEntity) : e.cancelKept.written = e.written := by
  unfold cancelKept; split <;> rfl

/-- No timer of the chain is left. -/
theorem cancelKept_pending {e : FirmwareEntity} {inCycle : TaskId → Prop}
    {p : ChainPhase Nat TaskId} (h : InChain e.timers e.unsubCycle inCycle p) :
    e.cancelKept.timers.pending = [] := by
  unfold cancelKept
  cases hu : e.unsubCycle with
  | some i => exact h.cancelKept hu
  | none =>
    rw [hu] at h
    exact h.pending_of_none

/-- What the request gets of the outcome. -/
def reported (e : FirmwareEntity) (outcome : CycleOutcome) : CycleOutcome :=
  if e.hass then outcome else ⟨outcome.nextDelay, false, none⟩

/-- The end of the probe. -/
def probeEnded (e : FirmwareEntity) : Except PyErr FirmwareVersion → CycleProgress × FirmwareEntity
  | .ok latest =>
    (if versionsEqual e.values.installedVersion (some latest.version) then
        .finish ⟨firmwarePollInterval, false, none⟩
      else .contact,
      { e with values := e.values.probed latest })
  | .error err =>
    (if err.isCloud then .finish ⟨firmwareRetryInterval, true, some err⟩
      else if err.isRuntimeError then .finish ⟨firmwareRetryInterval, false, none⟩
      else .fail err,
      e)

/-- The end of the lock read. -/
def readEnded (e : FirmwareEntity) (versionDot : VersionDot) :
    Except PyErr DeviceInformation → CycleProgress × FirmwareEntity
  | .ok info => (.finish (readOutcome none), { e with values := e.values.read versionDot info })
  | .error err => (if err.isException then .finish (readOutcome (some err)) else .fail err, e)

end FirmwareEntity

section
variable (versionDot : VersionDot) (serial : Serial) (t : TaskId) (e : FirmwareEntity)
  (req : FirmwareRequest)

/-- Where the task of the request is after that. -/
def CycleProgress.task : CycleProgress × FirmwareEntity → Fw Unit × FirmwareEntity
  | (.finish outcome, e) =>
    (req.after serial (e.reported outcome), e.endCycle outcome.nextDelay)
  | (.contact, e) => (reading versionDot serial req Fw.deviceInformation, e)
  | (.fail err, e) => (.raise err, { e with cycleInFlight := false })

theorem advance_after (outcome : CycleOutcome) :
    firmwareMachine.advance t (req.after serial outcome) e = (req.after serial outcome, e) := by
  cases req with
  | update =>
    obtain ⟨delay, failed, error⟩ := outcome
    cases failed <;> rfl
  | _ => rfl

theorem started_update :
    firmwareMachine.advance t (FirmwareRequest.update.prog versionDot serial) e =
      firmwareMachine.advance t ((asyncCycle versionDot).bind (FirmwareRequest.update.after serial))
        e.cancelKept := by
  obtain ⟨v, u, inFlight, hass, T, n, W⟩ := e
  cases u <;> rfl

theorem started_remove :
    firmwareMachine.advance t (FirmwareRequest.remove.prog versionDot serial) e =
      (.ret (), e.cancelKept) := by
  obtain ⟨v, u, inFlight, hass, T, n, W⟩ := e
  cases u <;> rfl

theorem started_fire (h : Nat) :
    firmwareMachine.advance t ((FirmwareRequest.fire h).prog versionDot serial) e =
      if (e.timers.find h).isSome = true then
        firmwareMachine.advance t
          ((asyncCycle versionDot).bind ((FirmwareRequest.fire h).after serial))
          { e with timers := e.timers.cancel h }
      else (.ret (), { e with timers := e.timers.cancel h }) := by
  have hbranch : firmwareMachine.advance t ((FirmwareRequest.fire h).prog versionDot serial) e =
      firmwareMachine.advance t (if (e.timers.find h).isSome = true then
          (asyncCycle versionDot).bind fun _ => .ret () else .ret ())
        { e with timers := e.timers.cancel h } := rfl
  rw [hbranch]
  cases (e.timers.find h).isSome <;> rfl

/-- A request that calls a cycle starts one, or goes on at once. -/
theorem started_cycle :
    firmwareMachine.advance t ((asyncCycle versionDot).bind (req.after serial)) e =
      if e.hass = true ∧ e.cycleInFlight = false then
        (probing versionDot serial req Fw.latestFirmware, e.startCycle)
      else
        (req.after serial ⟨firmwarePollInterval, false, none⟩, { e with unsubCycle := none }) := by
  rw [← advance_after serial t { e with unsubCycle := none } req]
  obtain ⟨v, u, inFlight, hass, T, n, W⟩ := e
  cases hass <;> cases inFlight <;> rfl

theorem ended_cycle (outcome : CycleOutcome) :
    firmwareMachine.advance t ((tryCycle (.ret outcome)).bind (req.after serial)) e =
      CycleProgress.task versionDot serial req (.finish outcome, e) := by
  rw [CycleProgress.task, ← advance_after serial t]
  obtain ⟨v, u, inFlight, hass, T, n, W⟩ := e
  cases hass <;> rfl

/-- A probe that brought a version. -/
theorem probing_ok (latest : FirmwareVersion) :
    firmwareMachine.advance t (probing versionDot serial req (.ofResult (.ok latest))) e =
      CycleProgress.task versionDot serial req (e.probeEnded (.ok latest)) := by
  obtain ⟨⟨i, l, f, h, m⟩, u, inFlight, hass, T, n, W⟩ := e
  have hbranch : firmwareMachine.advance t (probing versionDot serial req (.ofResult (.ok latest)))
      ⟨⟨i, l, f, h, m⟩, u, inFlight, hass, T, n, W⟩ = firmwareMachine.advance t
        ((tryCycle (if (!versionsEqual i (some latest.version)) = true then
            (asyncReadLock versionDot).bind fun readError => .ret (readOutcome readError)
          else .ret ⟨firmwarePollInterval, false, none⟩)).bind (req.after serial))
        ⟨(FirmwareValues.mk i l f h m).probed latest, u, inFlight, hass, T, n, W⟩ := by
    cases f <;> rfl
  have hend : FirmwareEntity.probeEnded ⟨⟨i, l, f, h, m⟩, u, inFlight, hass, T, n, W⟩ (.ok latest) =
      (if versionsEqual i (some latest.version) = true then
          .finish ⟨firmwarePollInterval, false, none⟩
        else .contact,
        ⟨(FirmwareValues.mk i l f h m).probed latest, u, inFlight, hass, T, n, W⟩) := rfl
  rw [hbranch, hend]
  cases versionsEqual i (some latest.version) with
  | true => exact ended_cycle versionDot serial t _ req _
  | false => rfl

/-- The probe ends. -/
theorem resumed_probe (r : Except PyErr FirmwareVersion) :
    firmwareMachine.advance t (probing versionDot serial req (.ofResult r)) e =
      CycleProgress.task versionDot serial req (e.probeEnded r) := by
  cases r with
  | ok latest => exact probing_ok versionDot serial t e req latest
  | error err =>
    have hbranch : probing versionDot serial req (.ofResult (.error err)) =
        (tryCycle (Coro.bind (if err.isCloud = true then
            .ret (.error ⟨firmwareRetryInterval, true, some err⟩)
          else if err.isRuntimeError = true then
            .ret (.error ⟨firmwareRetryInterval, false, none⟩)
          else .raise err) (latestProbed versionDot))).bind (req.after serial) := rfl
    have hend : e.probeEnded (.error err) =
        (if err.isCloud = true then .finish ⟨firmwareRetryInterval, true, some err⟩
          else if err.isRuntimeError = true then .finish ⟨firmwareRetryInterval, false, none⟩
          else .fail err, e) := rfl
    rw [hbranch, hend]
    cases err.isCloud with
    | true => exact ended_cycle versionDot serial t e req _
    | false =>
      cases err.isRuntimeError with
      | true => exact ended_cycle versionDot serial t e req _
      | false => rfl

/-- The lock read ends. -/
theorem resumed_read (r : Except PyErr DeviceInformation) :
    firmwareMachine.advance t (reading versionDot serial req (.ofResult r)) e =
      CycleProgress.task versionDot serial req (e.readEnded versionDot r) := by
  cases r with
  | ok info => exact ended_cycle versionDot serial t _ req _
  | error err =>
    have hbranch : reading versionDot serial req (.ofResult (.error err)) =
        (tryCycle (Coro.bind (Coro.bind (if err.isException = true then .ret (.error err)
          else .raise err) (informationRead versionDot)) fun readError =>
            .ret (readOutcome readError))).bind (req.after serial) := rfl
    have hend : e.readEnded versionDot (.error err) =
        (if err.isException = true then .finish (readOutcome (some err)) else .fail err, e) := rfl
    rw [hbranch, hend]
    cases err.isException with
    | true => exact ended_cycle versionDot serial t e req _
    | false => rfl

end

end DanalockBle
