import DanalockBle.Broadcast.DeviceState
import DanalockBle.Control.Effects

/-!
# The control, the key manager and the entities

The coroutines of `control.py`, `keymanager.py`, `lock.py`, `select.py` and `button.py`. Debug
and warning records are left out.
-/

namespace DanalockBle

open Coroutine Coroutine.Coro Py

namespace DanalockControl

variable (serial : Serial)

/-- Swap in a freshly fetched key. -/
def setKey (key : DeviceKey) : Py Unit := do
  let lock ← lockRef serial
  Py.disconnect lock
  buildFacade serial key.loginBlob

/-- Disconnect the facade session if one is open. -/
def disconnect : Py Unit := do
  let lock ← lockRef serial
  Py.disconnect lock

end DanalockControl

namespace DanalockKeyManager

/-- Refetch one key and propagate it; `serial` is normalized. -/
def refresh (serial : Serial) (force : Bool) : Py DeviceKey := do
  acquireRefresh serial
  tryFinally (do
    let key ← getKey serial force
    storeKey serial key
    let bound ← boundControl serial
    if bound then DanalockControl.setKey serial key
    notifyKey serial
    return key) (releaseRefresh serial)

/-- The loop of `refresh_all`. -/
def refreshEach : List Serial → Py Unit
  | [] => return ()
  | serial :: rest => do
    tryExcept (do let _ ← refresh serial true) fun
      | .authError _ => startReauth
      | err => if err.isCloud then return () else raise err
    refreshEach rest

/-- Force-refresh the keys of all configured devices. -/
def refreshAll : Py Unit := do
  let serials ← keySerials
  refreshEach serials

end DanalockKeyManager

namespace DanalockControl

section
variable (serial : Serial)

/-- Force-refetch an expired key before a command; a cloud failure does not block it. -/
def refreshIfExpired : Py Unit := do
  let key ← key serial
  let expired ← keyExpired key
  if expired then
    tryExcept (do let _ ← DanalockKeyManager.refresh serial true) fun err =>
      if err.isCloud then return () else raise err

def refreshFailedError (err : PyErr) : PyErr :=
  .lockControlError ("The lock rejected the login token; refreshing the key from the " ++
    s!"cloud failed: {err.text}. Check the cloud connection and " ++
    "the device enrollment.")

/-- One forced refetch after a token rejection. -/
def refreshAfterRejection : Py Unit :=
  tryExcept (do let _ ← DanalockKeyManager.refresh serial true) fun err =>
    if err.isCloud then raise (refreshFailedError err) else raise err

/-- `_attempt_call`: one connect/run/disconnect attempt on the current facade. -/
def attemptCall {α : Type} (call : Py α) : Py α :=
  tryFinally call (do
    let lock ← lockRef serial
    Py.disconnect lock)

/-- A call of the facade that `self._lock` is at that moment. -/
def callLock (m : Method) : Py m.Result := do
  let lock ← lockRef serial
  Py.call lock m

/-- `_attempt`. -/
def attempt (locked : Bool) : Py Unit :=
  tryFinally (if locked then callLock serial .lock else callLock serial .unlock) (do
    let lock ← lockRef serial
    Py.disconnect lock)

def malformedInformationError (text : String) : PyErr :=
  .lockControlError s!"The lock returned a malformed device information response: {text}"

/-- One device information read on the current facade. -/
def readInformation : Py DeviceInformation :=
  tryExcept (callLock serial .deviceInformation) fun
    | .valueError text => raise (malformedInformationError text)
    | err => raise err

/-- `"lock"` and `"unlock"`. -/
def commandName (locked : Bool) : String := if locked then "lock" else "unlock"

/-- The handler of the retry of `operate`. -/
def operateRetryFailed (locked : Bool) : PyErr → Py Unit
  | .commandError name status =>
    if name = nothingChangedStatus then return ()
    else raise (commandError name status s!"{commandName locked} command")
  | err => if err.isTransport then raise (transportError err) else raise err

/-- Run one lock/unlock command with lazy key refresh. -/
def operate (locked : Bool) : Py Unit := do
  refreshIfExpired serial
  tryExcept (attempt serial locked) fun
    | .commandError name status =>
      if name = nothingChangedStatus then return ()
      else if name ≠ tokenValidityStatus then
        raise (commandError name status s!"{commandName locked} command")
      else do
        refreshAfterRejection serial
        tryExcept (attempt serial locked) (operateRetryFailed locked)
    | err => if err.isTransport then raise (transportError err) else raise err

/-- The handler of the retry of `_run_command`. -/
def runCommandRetryFailed {α : Type} (action : String) : PyErr → Py α
  | .commandError name status => raise (commandError name status action)
  | err => if err.isTransport then raise (transportError err) else raise err

/-- Run one attempt with lazy key refresh. -/
def runCommand {α : Type} (action : String) (attempt : Py α) : Py α := do
  refreshIfExpired serial
  tryExcept attempt fun
    | .commandError name status =>
      if name ≠ tokenValidityStatus then raise (commandError name status action)
      else do
        refreshAfterRejection serial
        tryExcept attempt (runCommandRetryFailed action)
    | err => if err.isTransport then raise (transportError err) else raise err

def deviceInformation : Py DeviceInformation :=
  runCommand serial "device information request" (attemptCall serial (readInformation serial))

def settings : Py LockSettings :=
  runCommand serial "settings read" (attemptCall serial (callLock serial .settings))

def setAutoLock (seconds : Int) : Py LockSettings :=
  runCommand serial "auto lock setting change"
    (attemptCall serial (callLock serial (.setAutoLock seconds)))

def setBrakeAndGoBack (seconds : Int) : Py LockSettings :=
  runCommand serial "brake and go back setting change"
    (attemptCall serial (callLock serial (.setBrakeAndGoBack seconds)))

def setEndToEnd (mode : Int) : Py LockSettings :=
  runCommand serial "end-to-end mode change"
    (attemptCall serial (callLock serial (.setEndToEnd mode)))

def calibrate (point : Int) : Py Unit :=
  runCommand serial "calibration point change"
    (attemptCall serial (callLock serial (.setCalibrationPoint point)))

end

/-- What the transport factory connects to: `deviceFor` is `async_ble_device_from_address` for
an address, connectable or not. -/
def transportFactory {Device : Type} (address : Option Address)
    (deviceFor : Address → Bool → Option Device) : Except PyErr Device :=
  match address with
  | none => .error (.lockAddressUnknownError
      "The lock has not been seen advertising yet; its Bluetooth address is unknown.")
  | some address =>
    match (deviceFor address true).or (deviceFor address false) with
    | none => .error (.lockAddressUnknownError
        ("The lock is not visible to the Bluetooth integration; " ++
          "wait for an advertisement."))
    | some device => .ok device

end DanalockControl

namespace DanalockLockEntity

/-- `async_lock` and `async_unlock`. -/
def operate (serial : Serial) (targetLocked : Bool) : Py Unit := do
  let control ← boundControl serial
  if !control then
    raise (.homeAssistantError
      (s!"Cannot {DanalockControl.commandName targetLocked} lock.danalock_ble_{serial}_lock: " ++
        "no key is available for this device"))
  setInProgress serial targetLocked !targetLocked
  writeState serial
  tryExcept (DanalockControl.operate serial targetLocked) fun err =>
    if err.isException then do
      setInProgress serial false false
      writeState serial
      raise err
    else raise err
  setInProgress serial false false
  setPending serial targetLocked
  writeState serial

/-- `is_locked`. -/
def isLocked (state : DanalockDeviceState) : Option Bool :=
  match state.pendingLocked with
  | some pending => some pending
  | none =>
    match state.report with
    | none => none
    | some report => some report.locked

end DanalockLockEntity

/-- `DanalockLockStateBinarySensor.is_on`. -/
def DanalockLockStateBinarySensor.isOn (state : DanalockDeviceState) : Option Bool :=
  match state.report with
  | none => none
  | some report => some (!report.locked)

namespace DanalockSettingSelectEntity

def autoLockOptions : List (Int × String) :=
  [(0, "off"), (5, "5_s"), (10, "10_s"), (15, "15_s"), (30, "30_s"), (45, "45_s"), (60, "60_s"),
    (180, "180_s"), (300, "300_s"), (600, "600_s"), (900, "900_s")]

def brakeAndGoBackOptions : List (Int × String) :=
  [(0, "off"), (3, "3_s"), (5, "5_s"), (10, "10_s"), (15, "15_s"), (20, "20_s"), (25, "25_s"),
    (30, "30_s"), (45, "45_s"), (50, "50_s"), (60, "60_s")]

def blockedToBlockedOptions : List (Int × String) := [(0, "off"), (1, "one"), (2, "two")]

def settingOptions : SettingName → List (Int × String)
  | .autoLock => autoLockOptions
  | .brakeAndGoBack => brakeAndGoBackOptions
  | .blockedToBlocked => blockedToBlockedOptions

def settingName : SettingName → String
  | .autoLock => "auto_lock"
  | .brakeAndGoBack => "brake_and_go_back"
  | .blockedToBlocked => "blocked_to_blocked"

/-- `SETTING_WRITES`. -/
def settingWrite (serial : Serial) (name : SettingName) (value : Int) : Py LockSettings :=
  match name with
  | .autoLock => DanalockControl.setAutoLock serial value
  | .brakeAndGoBack => DanalockControl.setBrakeAndGoBack serial value
  | .blockedToBlocked => DanalockControl.setEndToEnd serial value

def entityId (serial : Serial) (name : SettingName) : String :=
  s!"select.danalock_ble_{serial}_{settingName name}"

/-- `_value_for`. -/
def valueFor (serial : Serial) (name : SettingName) (option : String) : Py Int :=
  match (settingOptions name).find? fun p => p.2 == option with
  | some (value, _) => return value
  | none => raise (.serviceValidationError
      s!"{option} is not a valid option for {entityId serial name}")

/-- Write the option and show the verified device value. -/
def selectOption (serial : Serial) (name : SettingName) (option : String) : Py Unit := do
  let control ← boundControl serial
  if !control then
    raise (.homeAssistantError
      (s!"Cannot select {option} for {entityId serial name}: " ++
        "no key is available for this device"))
  let value ← valueFor serial name option
  let settings ← settingWrite serial name value
  applySettings serial settings
  writeState serial

/-- `_async_read_settings`: failures leave the values unknown. -/
def readSettings (serial : Serial) : Py Unit := do
  let settings ← tryExcept (do let settings ← DanalockControl.settings serial; return some settings)
    fun err => if err.isException then return none else raise err
  match settings with
  | none => return ()
  | some settings => applySettings serial settings

end DanalockSettingSelectEntity

/-- `DanalockCalibrationButton.async_press`. -/
def DanalockCalibrationButton.press (serial : Serial) (suffix : String) (point : Int) :
    Py Unit := do
  let control ← boundControl serial
  if !control then
    raise (.homeAssistantError
      (s!"Cannot calibrate button.danalock_ble_{serial}_{suffix}: " ++
        "no key is available for this device"))
  DanalockControl.calibrate serial point

end DanalockBle
