import DanalockBle.Basic
import DanalockBle.Lib.SerialNumber

/-!
# The state of one device

`DanalockDeviceState` and the code that changes it: the counter gate, the setting transitions
and the state parts of `_accept` and `_refresh_states` (`accepted`, `polled`). The serial of a
state is its key in the monitor's `states`.
-/

namespace DanalockBle

/-- Latest decoded state of one device. -/
structure DanalockDeviceState where
  report : Option BroadcastReport := none
  rssi : Option Int := none
  lastSeen : Option Instant := none
  address : Option Address := none
  lastInfo : Option ServiceInfo := none
  pendingLocked : Option Bool := none
  settingValues : SettingName → Option Int := fun _ => none

/-- Wrap-safe increase check. -/
def counterIncreased (old new : Nat) : Bool :=
  let delta := ((new : Int) - old) % counterModulus
  0 < delta && delta < counterModulus / 2

theorem counterIncreased_eq (old new : Nat) :
    counterIncreased old new = SerialNumber.advances (2 * 32768) old new := rfl

/-- The counter of a report is ahead of the stored one: the difference modulo 65536 is one of 1 to
32767. A first report is ahead. -/
def BroadcastReport.Ahead (report : BroadcastReport) : Option BroadcastReport → Prop
  | none => True
  | some stored =>
    0 < ((report.counter : Int) - stored.counter) % 65536 ∧
      ((report.counter : Int) - stored.counter) % 65536 < 32768

instance (report : BroadcastReport) (stored : Option BroadcastReport) :
    Decidable (report.Ahead stored) :=
  match stored with
  | none => instDecidableTrue
  | some _ => instDecidableAnd

namespace DanalockDeviceState

/-- Advertisements arrived within the timeout. -/
def isFresh (state : DanalockDeviceState) (now : Instant) : Bool :=
  match state.lastSeen with
  | none => false
  | some seen => now - seen < broadcastTimeout

/-- Freshness only ends with time. -/
theorem isFresh_mono {state : DanalockDeviceState} {now later : Instant} (h : now ≤ later)
    (hf : state.isFresh later = true) : state.isFresh now = true := by
  unfold isFresh at *
  split at hf
  · cases hf
  · simp only [decide_eq_true_eq] at *
    exact Nat.lt_of_le_of_lt (Nat.sub_le_sub_right h _) hf

theorem isFresh_of_seen {state : DanalockDeviceState} {now : Instant}
    (h : state.lastSeen = some now) : state.isFresh now = true := by
  simp [isFresh, h, broadcastTimeout_pos]

def settingsKnown (state : DanalockDeviceState) : Bool :=
  settingFlagNames.all fun name => (state.settingValues name).isSome

/-- The value of a settings result for one setting name. -/
def settingOf (settings : LockSettings) : SettingName → Int
  | .autoLock => settings.autoLockTime
  | .brakeAndGoBack => settings.brakeAndGoBackTime
  | .blockedToBlocked => settings.endToEndMode

/-- Store a verified settings result. -/
def applySettings (state : DanalockDeviceState) (settings : LockSettings) : DanalockDeviceState :=
  { state with settingValues := fun name => some (settingOf settings name) }

theorem settingsKnown_applySettings (state : DanalockDeviceState) (settings : LockSettings) :
    (state.applySettings settings).settingsKnown = true := by
  simp [settingsKnown, applySettings]

/-- `name in report.lock_flags`. -/
def flagOn (report : BroadcastReport) (name : SettingName) : Bool :=
  .setting name ∈ report.lockFlags

/-- The flag in the stored report; off when there is none. -/
def wasOn (previous : Option BroadcastReport) (name : SettingName) : Bool :=
  previous.any fun r => flagOn r name

/-- One pass of the loop of `_update_setting_values`. -/
def updateSettingValue (previous : Option BroadcastReport) (report : BroadcastReport)
    (values : SettingName → Option Int) (name : SettingName) : SettingName → Option Int :=
  if wasOn previous name && !flagOn report name then Function.update values name (some 0)
  else if flagOn report name && !wasOn previous name then Function.update values name none
  else values

/-- Apply the off/on transitions of the setting flags. -/
def updateSettingValues (state : DanalockDeviceState) (report : BroadcastReport) :
    DanalockDeviceState :=
  { state with
    settingValues :=
      settingFlagNames.foldl (updateSettingValue state.report report) state.settingValues }

/-- What a transition stores: `some 0` for off, `some none` for on, `none` where the value is
kept. -/
def transition (was is : Bool) : Option (Option Int) :=
  if was && !is then some (some 0) else if is && !was then some none else none

theorem updateSettingValue_apply (previous : Option BroadcastReport) (report : BroadcastReport)
    (values : SettingName → Option Int) (name k : SettingName) :
    updateSettingValue previous report values name k =
      if k = name then (transition (wasOn previous name) (flagOn report name)).getD (values k)
      else values k := by
  unfold updateSettingValue transition
  by_cases hk : k = name
  · subst hk
    split
    · simp
    · split <;> simp
  · rw [if_neg hk]
    split
    · exact Function.update_of_ne hk _ _
    · split
      · exact Function.update_of_ne hk _ _
      · rfl

/-- The loop visits each name once, so each value sees its own transition only. -/
theorem updateSettingValues_apply (state : DanalockDeviceState) (report : BroadcastReport)
    (name : SettingName) :
    (state.updateSettingValues report).settingValues name =
      (transition (wasOn state.report name) (flagOn report name)).getD
        (state.settingValues name) := by
  simp only [updateSettingValues, settingFlagNames, List.foldl_cons, List.foldl_nil,
    updateSettingValue_apply]
  cases name <;> simp

/-! ## Advertisements -/

/-- The counter gate of `_accept`: the report replaces the stored one. -/
def reportChanged (state : DanalockDeviceState) (report : BroadcastReport) : Bool :=
  match state.report with
  | none => true
  | some old => counterIncreased old.counter report.counter

/-- The counter gate lets the reports through that are ahead. -/
theorem reportChanged_eq (state : DanalockDeviceState) (report : BroadcastReport) :
    state.reportChanged report = decide (report.Ahead state.report) := by
  unfold reportChanged
  cases state.report with
  | none => rfl
  | some stored => exact (Bool.decide_and _ _).symm

/-- The part of `_accept` behind the gate. -/
def takeReport (state : DanalockDeviceState) (report : BroadcastReport) : DanalockDeviceState :=
  { state.updateSettingValues report with report := some report, pendingLocked := none }

/-- The state `_accept` leaves. -/
def accepted (state : DanalockDeviceState) (now : Instant) (report : BroadcastReport)
    (info : ServiceInfo) : DanalockDeviceState :=
  { (if state.reportChanged report then state.takeReport report else state) with
    rssi := some info.rssi
    lastSeen := some now
    address := some info.address
    lastInfo := some info }

/-- `info is state.last_info`. -/
def isLastInfo (state : DanalockDeviceState) (info : ServiceInfo) : Bool :=
  state.lastInfo.any fun last => last.stamp == info.stamp

/-- The entry of the history that `_refresh_states` takes up: the address is known, the history
has an entry for it, and the entry is a new one. -/
def newEntry (state : DanalockDeviceState) (history : Address → Option ServiceInfo) :
    Option ServiceInfo :=
  match state.address with
  | none => none
  | some address =>
    match history address with
    | none => none
    | some info => if state.isLastInfo info then none else some info

/-- The state `_refresh_states` leaves for a new history entry. -/
def polled (state : DanalockDeviceState) (now : Instant) (info : ServiceInfo) :
    DanalockDeviceState :=
  { state with lastInfo := some info, rssi := some info.rssi, lastSeen := some now }

section
variable (state : DanalockDeviceState) (now : Instant) (report : BroadcastReport)
  (info : ServiceInfo)

@[simp] theorem accepted_lastSeen : (state.accepted now report info).lastSeen = some now := rfl

theorem accepted_report : (state.accepted now report info).report =
    if state.reportChanged report then some report else state.report := by
  unfold accepted; split <;> rfl

theorem accepted_pendingLocked : (state.accepted now report info).pendingLocked =
    if state.reportChanged report then none else state.pendingLocked := by
  unfold accepted; split <;> rfl

/-- A value changes behind the gate only, and is judged against the stored report. -/
theorem accepted_settingValues (name : SettingName) :
    (state.accepted now report info).settingValues name =
      if state.reportChanged report then
        (transition (wasOn state.report name) (flagOn report name)).getD (state.settingValues name)
      else state.settingValues name := by
  unfold accepted
  split
  · exact updateSettingValues_apply state report name
  · rfl

end

end DanalockDeviceState

end DanalockBle
