import DanalockBle.Control.Errors
import DanalockBle.Lib.Coroutine

/-!
# What the coroutines do

The operations of the control, the key manager and the entities: the calls they await (the
facade's commands and `disconnect`, the cloud client's `get_key`, the refresh lock) and the
reads and writes of what they share.
-/

namespace DanalockBle

open Coroutine

/-- A facade object: the one its control built as the `gen`-th. -/
structure FacadeRef where
  serial : Serial
  gen : Nat
  deriving DecidableEq, Repr

/-- What the update entity reads of a device information result. -/
structure DeviceInformation where
  hardwareVersion : Nat × Nat × Nat
  firmwareVersion : Nat × Nat × Nat
  firmwareIdentifier : String
  deriving DecidableEq, Repr

/-- The commands of the facade. -/
inductive Method where
  | lock
  | unlock
  | deviceInformation
  | settings
  | setAutoLock (seconds : Int)
  | setBrakeAndGoBack (seconds : Int)
  | setEndToEnd (mode : Int)
  | setCalibrationPoint (point : Int)
  deriving DecidableEq, Repr

/-- What a command returns; the setters read the settings back. -/
@[reducible] def Method.Result : Method → Type
  | lock | unlock | setCalibrationPoint _ => Unit
  | deviceInformation => DeviceInformation
  | settings | setAutoLock _ | setBrakeAndGoBack _ | setEndToEnd _ => LockSettings

inductive Op where
  /-- the value of `self._lock` -/
  | lockRef (serial : Serial)
  | buildFacade (serial : Serial) (loginToken : Bytes)
  | call (f : FacadeRef) (m : Method)
  | disconnect (f : FacadeRef)
  | key (serial : Serial)
  | keyExpired (key : DeviceKey)
  | acquireRefresh (serial : Serial)
  | releaseRefresh (serial : Serial)
  | getKey (serial : Serial) (force : Bool)
  | storeKey (serial : Serial) (key : DeviceKey)
  /-- `controls.get(serial) is not None` -/
  | boundControl (serial : Serial)
  | notifyKey (serial : Serial)
  | startReauth
  | keySerials
  | setInProgress (serial : Serial) (locking unlocking : Bool)
  | writeState (serial : Serial)
  | setPending (serial : Serial) (locked : Bool)
  | applySettings (serial : Serial) (settings : LockSettings)

@[reducible] def Op.Res : Op → Type
  | lockRef _ => FacadeRef
  | call _ m => Except PyErr m.Result
  | disconnect _ | acquireRefresh _ => Except PyErr Unit
  | key _ => DeviceKey
  | keyExpired _ | boundControl _ => Bool
  | getKey _ _ => Except PyErr DeviceKey
  | keySerials => List Serial
  | _ => Unit

abbrev sig : Sig := ⟨Op, Op.Res⟩

/-- A Python coroutine of the integration. -/
abbrev Py (α : Type) := Coro sig PyErr α

namespace Py

def lockRef (serial : Serial) : Py FacadeRef := .op (.lockRef serial) .ret
def buildFacade (serial : Serial) (loginToken : Bytes) : Py Unit :=
  .op (.buildFacade serial loginToken) .ret
def call (f : FacadeRef) (m : Method) : Py m.Result := .op (.call f m) .ofResult
def disconnect (f : FacadeRef) : Py Unit := .op (.disconnect f) .ofResult
def key (serial : Serial) : Py DeviceKey := .op (.key serial) .ret
def keyExpired (key : DeviceKey) : Py Bool := .op (.keyExpired key) .ret
def acquireRefresh (serial : Serial) : Py Unit := .op (.acquireRefresh serial) .ofResult
def releaseRefresh (serial : Serial) : Py Unit := .op (.releaseRefresh serial) .ret
def getKey (serial : Serial) (force : Bool) : Py DeviceKey := .op (.getKey serial force) .ofResult
def storeKey (serial : Serial) (key : DeviceKey) : Py Unit := .op (.storeKey serial key) .ret
def boundControl (serial : Serial) : Py Bool := .op (.boundControl serial) .ret
def notifyKey (serial : Serial) : Py Unit := .op (.notifyKey serial) .ret
def startReauth : Py Unit := .op .startReauth .ret
def keySerials : Py (List Serial) := .op .keySerials .ret
def setInProgress (serial : Serial) (locking unlocking : Bool) : Py Unit :=
  .op (.setInProgress serial locking unlocking) .ret
def writeState (serial : Serial) : Py Unit := .op (.writeState serial) .ret
def setPending (serial : Serial) (locked : Bool) : Py Unit := .op (.setPending serial locked) .ret
def applySettings (serial : Serial) (settings : LockSettings) : Py Unit :=
  .op (.applySettings serial settings) .ret

end Py

end DanalockBle
