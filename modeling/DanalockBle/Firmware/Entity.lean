import DanalockBle.Control.Effects
import DanalockBle.Firmware.Version
import DanalockBle.Lib.TimerChain

/-!
# The firmware update entity

The coroutines of `update.py`, over the operations they perform: the cloud probe, the read of the
device information, the timers of the event loop, and the reads and writes of the entity's own
fields. `version_dot` of the BLE library is a parameter. Delays are in seconds; debug records are
left out.
-/

namespace DanalockBle

open Coroutine Coroutine.Coro

/-- What the entity reads of a `/latest` result. -/
structure FirmwareVersion where
  firmwareIdentifier : String
  maturity : String
  version : String
  deriving DecidableEq, Repr

/-- The values the entity shows; the state machine restores them. -/
structure FirmwareValues where
  installedVersion : Option String := none
  latestVersion : Option String := none
  firmwareIdentifier : Option String := none
  hardwareVersion : Option String := none
  maturity : Option String := none
  deriving DecidableEq, Repr

/-- The result of one firmware cycle. -/
structure CycleOutcome where
  nextDelay : Nat
  failed : Bool := false
  error : Option PyErr := none

def firmwarePollInterval : Nat := 24 * 60 * 60

def firmwareRetryInterval : Nat := 15 * 60

/-- `version_dot` of the BLE library. -/
abbrev VersionDot := Nat × Nat × Nat → String

inductive FirmwareOp where
  /-- `await self._client.latest_firmware(self._serial)` -/
  | latestFirmware
  /-- `await self._control.device_information()` -/
  | deviceInformation
  | values
  | setValues (v : FirmwareValues)
  | unsubCycle
  | setUnsubCycle (h : Option Nat)
  /-- the call of a kept handle -/
  | cancelTimer (h : Nat)
  | callLater (delay : Nat)
  | cycleInFlight
  | setCycleInFlight (b : Bool)
  /-- `self.hass is not None` -/
  | hass
  | writeState
  /-- the event loop takes a due timer out -/
  | takeTimer (h : Nat)
  /-- Home Assistant clears `hass` -/
  | clearHass

@[reducible] def FirmwareOp.Res : FirmwareOp → Type
  | latestFirmware => Except PyErr FirmwareVersion
  | deviceInformation => Except PyErr DeviceInformation
  | values => FirmwareValues
  | unsubCycle => Option Nat
  | callLater _ => Nat
  | cycleInFlight | hass | takeTimer _ => Bool
  | _ => Unit

abbrev firmwareSig : Sig := ⟨FirmwareOp, FirmwareOp.Res⟩

/-- A coroutine of the firmware update entity. -/
abbrev Fw (α : Type) := Coro firmwareSig PyErr α

namespace Fw

def latestFirmware : Fw FirmwareVersion := .op .latestFirmware .ofResult
def deviceInformation : Fw DeviceInformation := .op .deviceInformation .ofResult
def values : Fw FirmwareValues := .op .values .ret
def setValues (v : FirmwareValues) : Fw Unit := .op (.setValues v) .ret
def unsubCycle : Fw (Option Nat) := .op .unsubCycle .ret
def setUnsubCycle (h : Option Nat) : Fw Unit := .op (.setUnsubCycle h) .ret
def cancelTimer (h : Nat) : Fw Unit := .op (.cancelTimer h) .ret
def callLater (delay : Nat) : Fw Nat := .op (.callLater delay) .ret
def cycleInFlight : Fw Bool := .op .cycleInFlight .ret
def setCycleInFlight (b : Bool) : Fw Unit := .op (.setCycleInFlight b) .ret
def hass : Fw Bool := .op .hass .ret
def writeState : Fw Unit := .op .writeState .ret
def takeTimer (h : Nat) : Fw Bool := .op (.takeTimer h) .ret
def clearHass : Fw Unit := .op .clearHass .ret

end Fw

namespace DanalockFirmwareUpdateEntity

open Fw

section
variable (versionDot : VersionDot)

/-- The `try` of `_async_read_lock`: the information, or the exception it catches. -/
def readInformation (call : Fw DeviceInformation) : Fw (Except PyErr DeviceInformation) :=
  tryExcept (do let info ← call; return .ok info) fun err =>
    if err.isException then return .error err else raise err

/-- What `_async_read_lock` makes of it. -/
def informationRead : Except PyErr DeviceInformation → Fw (Option PyErr)
  | .error err => return some err
  | .ok info => do
    let v ← values
    setValues { v with
      installedVersion := some (versionDot info.firmwareVersion)
      firmwareIdentifier := some info.firmwareIdentifier
      hardwareVersion := some (versionDot info.hardwareVersion) }
    return none

/-- Read the installed version over BLE, keeping values on failure. -/
def asyncReadLock : Fw (Option PyErr) := do
  let read ← readInformation deviceInformation
  informationRead versionDot read

/-- The outcome of a cycle that contacted the lock. -/
def readOutcome : Option PyErr → CycleOutcome
  | some err => ⟨firmwarePollInterval, true, some err⟩
  | none => ⟨firmwarePollInterval, false, none⟩

/-- The `try` of `_async_refresh`: the latest version, or the outcome of a failed probe. -/
def probeLatest (call : Fw FirmwareVersion) : Fw (Except CycleOutcome FirmwareVersion) :=
  tryExcept (do let latest ← call; return .ok latest) fun err =>
    if err.isCloud then return .error ⟨firmwareRetryInterval, true, some err⟩
    else if err.isRuntimeError then return .error ⟨firmwareRetryInterval, false, none⟩
    else raise err

/-- What `_async_refresh` makes of it: the lock is contacted when the versions diverge. -/
def latestProbed : Except CycleOutcome FirmwareVersion → Fw CycleOutcome
  | .error outcome => return outcome
  | .ok latest => do
    let v ← values
    setValues { v with latestVersion := some latest.version, maturity := some latest.maturity }
    let v ← values
    if v.firmwareIdentifier.isNone then
      setValues { v with firmwareIdentifier := some latest.firmwareIdentifier }
    let v ← values
    if !versionsEqual v.installedVersion (some latest.version) then do
      let readError ← asyncReadLock versionDot
      return readOutcome readError
    else return ⟨firmwarePollInterval, false, none⟩

/-- Refresh latest and (when needed) installed; return the outcome. -/
def asyncRefresh : Fw CycleOutcome := do
  let answer ← probeLatest latestFirmware
  latestProbed versionDot answer

/-- What a cycle does with its outcome: write the state and arm the next cycle. -/
def reschedule (outcome : CycleOutcome) : Fw CycleOutcome := do
  let present ← hass
  if !present then return ⟨outcome.nextDelay, false, none⟩
  else do
    writeState
    let h ← callLater outcome.nextDelay
    setUnsubCycle (some h)
    return outcome

/-- The `try` of `_async_cycle`. -/
def tryCycle (refresh : Fw CycleOutcome) : Fw CycleOutcome :=
  tryFinally (do let outcome ← refresh; reschedule outcome) (setCycleInFlight false)

/-- One cycle: `/latest` probe, BLE read on divergence, reschedule. -/
def asyncCycle : Fw CycleOutcome := do
  setUnsubCycle none
  let present ← hass
  if !present then return ⟨firmwarePollInterval, false, none⟩
  else do
    let inFlight ← cycleInFlight
    if inFlight then return ⟨firmwarePollInterval, false, none⟩
    else do
      setCycleInFlight true
      tryCycle (asyncRefresh versionDot)

/-- Cancel the timer whose handle is kept. -/
def cancelCycle : Fw Unit := do
  let unsub ← unsubCycle
  match unsub with
  | some h => do cancelTimer h; setUnsubCycle none
  | none => return ()

def checkFailedError (serial : Serial) : PyErr :=
  .homeAssistantError s!"Firmware check failed for update.danalock_ble_{serial}_firmware"

/-- What a forced check makes of the outcome of its cycle. -/
def report (serial : Serial) (outcome : CycleOutcome) : Fw Unit :=
  if outcome.failed then raise (checkFailedError serial) else return ()

/-- Run one immediate cycle. -/
def asyncUpdate (serial : Serial) : Fw Unit := do
  cancelCycle
  let outcome ← asyncCycle versionDot
  report serial outcome

/-- Cancel the pending cycle. -/
def asyncWillRemoveFromHass : Fw Unit := cancelCycle

/-- An attribute of the restored state: the empty string counts as none. -/
def restored (a : Option String) : Option String := a.filter fun s => s != ""

/-- Restore the versions and attributes from the last state. -/
def asyncRestore (state : Option FirmwareValues) : Fw Unit :=
  match state with
  | none => return ()
  | some attributes => do
    setValues {
      installedVersion := restored attributes.installedVersion
      latestVersion := restored attributes.latestVersion
      firmwareIdentifier := restored attributes.firmwareIdentifier
      hardwareVersion := restored attributes.hardwareVersion
      maturity := restored attributes.maturity }

/-- Restore the previous versions, then run the first cycle. -/
def asyncAddedToHass (lastState : Option FirmwareValues) : Fw Unit := do
  asyncRestore lastState
  let _ ← asyncCycle versionDot

end

end DanalockFirmwareUpdateEntity

end DanalockBle
