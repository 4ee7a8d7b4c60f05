import DanalockBle.Broadcast.Availability
import DanalockBle.Control.Commands
import DanalockBle.Entities.Signal

/-!
# The entities of a device

What the entities of `sensor.py`, `binary_sensor.py`, `button.py` and `lock.py` show of the state
of their device, and when an event of the monitor changes it without a call of the listeners: never
(`agrees_step`). The battery level and the device flags, which the record of a report here does not
have, are left out.
-/

namespace DanalockBle

inductive EntityKind where
  | signalStrength
  | rssi
  | updateCounter
  | lockState
  /-- jammed, auto-calibrated, point-calibrated and twist assist -/
  | status (flag : LockFlag)
  | calibration (suffix : String)
  | lock
  deriving DecidableEq, Repr

structure DanalockEntity where
  serial : Serial
  kind : EntityKind
  /-- `self._control is not None` -/
  control : Bool := true
  isLocking : Bool := false
  isUnlocking : Bool := false
  deriving DecidableEq, Repr

inductive EntityValue where
  /-- the percentage, and the RSSI as an attribute -/
  | signal (value : Option (Option Int × Int))
  | number (value : Option Int)
  | isOn (value : Option Bool)
  | lock (isLocked : Option Bool) (isLocking isUnlocking : Bool)
  /-- a button shows no state of the device -/
  | button
  deriving DecidableEq, Repr

namespace DanalockEntity

variable (entity : DanalockEntity) (state : DanalockDeviceState)

/-- `available`: a calibration command needs a control and a known address, the other entities a
fresh advertisement. -/
def available (now : Instant) : Bool :=
  match entity.kind with
  | .calibration _ => entity.control && state.address.isSome
  | _ => state.isFresh now

/-- `native_value`, `is_on`, `is_locked` and the attributes. -/
def value : EntityValue :=
  match entity.kind with
  | .signalStrength => .signal (state.rssi.map fun rssi => (rssiToPercent rssi, rssi))
  | .rssi => .number state.rssi
  | .updateCounter => .number (state.report.map fun report => (report.counter : Int))
  | .lockState => .isOn (DanalockLockStateBinarySensor.isOn state)
  | .status flag => .isOn (state.report.map fun report => decide (flag ∈ report.lockFlags))
  | .calibration _ => .button
  | .lock => .lock (DanalockLockEntity.isLocked state) entity.isLocking entity.isUnlocking

/-- What `async_write_ha_state` writes; `none` is the state "unavailable". -/
def shows (now : Instant) : Option EntityValue :=
  if entity.available state now then some (entity.value state) else none

/-- A written state is true of the device: a value is the current one, and "unavailable" is still
so from the time on. -/
def Agrees (clock : Instant) : Option EntityValue → Prop
  | some v => v = entity.value state
  | none => ∀ now, clock ≤ now → entity.available state now = false

variable {entity state} {state' : DanalockDeviceState} {clock now : Instant}
  {written : Option EntityValue}

theorem available_calibration {suffix : String} (h : entity.kind = .calibration suffix) :
    entity.available state now = (entity.control && state.address.isSome) := by
  rw [available, h]

theorem available_of_kind (h : ∀ suffix, entity.kind ≠ .calibration suffix) :
    entity.available state now = state.isFresh now := by
  unfold available
  split
  · next suffix hk => exact absurd hk (h suffix)
  · rfl

/-- A device that is not fresh stays so while nothing is received. -/
theorem agrees_shows : entity.Agrees state now (entity.shows state now) := by
  unfold shows
  split
  · rfl
  · next h =>
    intro later hlater
    by_cases hk : ∃ suffix, entity.kind = .calibration suffix
    · obtain ⟨suffix, hk⟩ := hk
      rw [available_calibration hk] at h ⊢
      simpa using h
    · rw [available_of_kind (not_exists.mp hk)] at h ⊢
      rw [Bool.eq_false_iff]
      exact fun hf => h (DanalockDeviceState.isFresh_mono hlater hf)

theorem Agrees.later (h : entity.Agrees state clock written) (hc : clock ≤ now) :
    entity.Agrees state now written := by
  cases written with
  | some v => exact h
  | none => exact fun later hlater => h later (hc.trans hlater)

theorem value_congr (hreport : state'.report = state.report) (hrssi : state'.rssi = state.rssi)
    (hpending : state'.pendingLocked = state.pendingLocked) :
    entity.value state' = entity.value state := by
  simp only [value, DanalockLockStateBinarySensor.isOn, DanalockLockEntity.isLocked, hreport,
    hrssi, hpending]

/-- The parts of the state that no entity shows do not matter. -/
theorem Agrees.congr (h : entity.Agrees state now written)
    (hvalue : entity.value state' = entity.value state)
    (hseen : state'.lastSeen = state.lastSeen) (haddress : state'.address = state.address) :
    entity.Agrees state' now written := by
  cases written with
  | some v => exact h.trans hvalue.symm
  | none =>
    intro later hlater
    have hold := h later hlater
    simp only [available, DanalockDeviceState.isFresh, hseen, haddress] at hold ⊢
    exact hold

/-- A refresh of a fresh device with a known address, of which the entities show the same. -/
theorem Agrees.refreshed (h : entity.Agrees state now written)
    (hvalue : entity.value state' = entity.value state) (hfresh : state.isFresh now = true)
    (haddress : state.address.isSome = true) : entity.Agrees state' now written := by
  cases written with
  | some v => exact h.trans hvalue.symm
  | none =>
    -- only an entity without a control is unavailable while the device is fresh
    have hold := h now le_rfl
    by_cases hk : ∃ suffix, entity.kind = .calibration suffix
    · obtain ⟨suffix, hk⟩ := hk
      rw [available_calibration hk, haddress, Bool.and_true] at hold
      intro later hlater
      rw [available_calibration hk, hold]
      rfl
    · rw [available_of_kind (not_exists.mp hk), hfresh] at hold
      cases hold

end DanalockEntity

/-! ## What the monitor changes -/

namespace DanalockDeviceState

/-- The address is known from the first advertisement on. -/
def AddressKnown (state : DanalockDeviceState) : Prop :=
  state.rssi.isSome = true → state.address.isSome = true

theorem newEntry_address {state : DanalockDeviceState} {history : Address → Option ServiceInfo}
    {info : ServiceInfo} (h : state.newEntry history = some info) :
    state.address.isSome = true := by
  unfold newEntry at h
  split at h
  · cases h
  · next ha => rw [ha]; rfl

theorem AddressKnown.step {state : DanalockDeviceState} (h : state.AddressKnown) (now : Instant)
    (ev : DeviceEvent) : (state.step now ev).AddressKnown := by
  cases ev with
  | accept report info => exact fun _ => rfl
  | poll history =>
    simp only [DanalockDeviceState.step]
    split
    · exact h
    · next hi => exact fun _ => @newEntry_address state history _ hi
  | _ => exact h

end DanalockDeviceState

/-- The listeners are called. -/
def Device.notifies (d : Device) (now : Instant) : DeviceEvent → Bool
  | .accept report info => d.acceptNotifies now report info
  | .poll history => (d.state.newEntry history).any fun info => d.pollNotifies now info
  | .check => d.checkNotifies now
  | _ => false

namespace Device

variable {d : Device} {now : Instant}

/-- Who is called when an event is over. -/
theorem call_mem_step (hout : d.out = []) (ev : DeviceEvent) (l : Listener) :
    .call d.serial l ∈ (d.step now ev).out ↔ d.notifies now ev = true ∧ l ∈ d.listeners := by
  have hquiet : .call d.serial l ∈ d.out ↔ false = true ∧ l ∈ d.listeners := by
    rw [hout]
    simp
  cases ev with
  | start registered =>
    simp only [step]
    split <;> exact hquiet
  | accept report info =>
    rw [step, call_mem_accept, hout]
    simp [notifies]
  | poll history =>
    cases hi : d.state.newEntry history with
    | none =>
      rw [step, poll_of_none d now hi, notifies, hi]
      exact hquiet
    | some info =>
      rw [step, call_mem_poll d now hi, hout, notifies, hi]
      simp
  | check =>
    rw [step, call_mem_check, hout]
    simp [notifies]
  | _ => exact hquiet

/-- **An event that calls no listener leaves what is shown true**, the optimistic state of the
lock entity aside, which that entity stores itself. -/
theorem agrees_step {entity : DanalockEntity} {written : Option EntityValue} {ev : DeviceEvent}
    (h : entity.Agrees d.state now written) (hknown : d.state.AddressKnown)
    (hquiet : d.notifies now ev = false) (hev : ∀ locked, ev ≠ .setPending locked) :
    entity.Agrees (d.step now ev).state now written := by
  rw [Device.step_state]
  cases ev with
  | accept report info =>
    simp only [notifies, acceptNotifies, Bool.or_eq_false_iff, bne_eq_false_iff_eq,
      Bool.not_eq_false'] at hquiet
    obtain ⟨⟨hsame, hrssi⟩, hfresh⟩ := hquiet
    refine h.refreshed (DanalockEntity.value_congr ?_ hrssi.symm ?_) hfresh
      (hknown (by rw [hrssi]; rfl))
    · exact (DanalockDeviceState.accepted_report ..).trans (by rw [hsame]; rfl)
    · exact (DanalockDeviceState.accepted_pendingLocked ..).trans (by rw [hsame]; rfl)
  | poll history =>
    simp only [DanalockDeviceState.step]
    cases hi : d.state.newEntry history with
    | none => exact h
    | some info =>
      simp only [notifies, hi, Option.any_some, pollNotifies, Bool.or_eq_false_iff,
        bne_eq_false_iff_eq, Bool.not_eq_false'] at hquiet
      exact h.refreshed (DanalockEntity.value_congr rfl hquiet.1.symm rfl) hquiet.2
        (DanalockDeviceState.newEntry_address hi)
  | setPending locked => exact absurd rfl (hev locked)
  | applySettings settings =>
    exact h.congr (DanalockEntity.value_congr rfl rfl rfl) rfl rfl
  | _ => exact h

end Device

end DanalockBle
