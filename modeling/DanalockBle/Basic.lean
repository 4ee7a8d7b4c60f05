import Mathlib.Logic.Function.Basic
import Mathlib.Tactic.Common

/-!
# Records and constants

The records of the BLE and cloud libraries and of Home Assistant's Bluetooth history, with the
fields the integration reads, and the constants of `const.py`. Readings of the monotonic clock
are natural numbers of nanoseconds.
-/

namespace DanalockBle

abbrev Serial := String

abbrev Address := String

abbrev Bytes := List UInt8

/-- A reading of `time.monotonic()`, in nanoseconds. -/
abbrev Instant := Nat

/-- The name of a device setting (`SETTING_FLAG_NAMES`). -/
inductive SettingName where
  | autoLock
  | brakeAndGoBack
  | blockedToBlocked
  deriving DecidableEq, Repr

def settingFlagNames : List SettingName := [.autoLock, .brakeAndGoBack, .blockedToBlocked]

/-- A member of a report's `lock_flags`. -/
inductive LockFlag where
  | setting (name : SettingName)
  | blocked
  | autoCalibrated
  | pointCalibrated
  | twistAssist
  | other (name : String)
  deriving DecidableEq, Repr

/-- A decoded state broadcast. -/
structure BroadcastReport where
  serial : Serial
  counter : Nat
  locked : Bool
  lockFlags : List LockFlag
  deriving DecidableEq, Repr

/-- A settings result read back from the lock. -/
structure LockSettings where
  speed : Int
  autoLockTime : Int
  brakeAndGoBackTime : Int
  endToEndMode : Int
  deriving DecidableEq, Repr

/-- The key of one device: the login token of the facade and the broadcast key. -/
structure DeviceKey where
  loginBlob : Bytes
  broadcastKey : Bytes
  deriving DecidableEq, Repr

/-- A received advertisement (`BluetoothServiceInfoBleak`); `stamp` is the identity of the
Python object, which `is` compares. -/
structure ServiceInfo where
  stamp : Nat
  address : Address
  rssi : Int
  manufacturerData : List (Nat × Bytes)
  deriving DecidableEq, Repr

/-! ## Constants -/

def manufacturerId : Nat := 456

def broadcastTimeoutSeconds : Nat := 300

def counterModulus : Nat := 1 <<< 16

/-- The availability timeout on the monotonic clock. -/
def broadcastTimeout : Nat := broadcastTimeoutSeconds * 1000000000

theorem broadcastTimeout_pos : 0 < broadcastTimeout := by decide

/-- `service_info.manufacturer_data.get(MANUFACTURER_ID)`. -/
def ServiceInfo.payload (info : ServiceInfo) : Option Bytes :=
  info.manufacturerData.lookup manufacturerId

/-- `parse_broadcast`: a report, or `BroadcastError` (`none`). -/
abbrev ParseBroadcast := Bytes → Bytes → Option BroadcastReport

end DanalockBle
