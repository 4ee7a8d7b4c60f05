import DanalockBle.Broadcast.Monitor
import DanalockBle.Lib.Runs

/-!
# The monitor of one device

`Device` is the part of a monitor that concerns one device, with handlers of its own. Every
handler of the monitor acts on each device as the handler here and leaves the others alone
(`device_accept`, `device_refreshStates`, `device_checkStale`, `device_handleAdvertisement`), so
what holds of one device's runs holds of each device of a monitor.
-/

namespace DanalockBle

structure Device where
  serial : Serial
  state : DanalockDeviceState
  listeners : List Listener
  notified : Bool
  unavailable : Bool
  monitorStartedAt : Option Instant
  out : List Output

def Output.serial : Output → Serial
  | .call s _ => s
  | .unavailable s => s
  | .backOnline s => s

namespace Device

def notify (d : Device) : Device := { d with out := d.out ++ d.listeners.map (.call d.serial) }

def sync (d : Device) (now : Instant) : Device :=
  if d.state.isFresh now then
    if d.unavailable then { d with unavailable := false, out := d.out ++ [.backOnline d.serial] }
    else d
  else if d.unavailable then d
  else if d.state.lastSeen.isNone && Monitor.withinStart d.monitorStartedAt now then d
  else { d with unavailable := true, out := d.out ++ [.unavailable d.serial] }

def accept (d : Device) (now : Instant) (report : BroadcastReport) (info : ServiceInfo) : Device :=
  let d' := { d with state := d.state.accepted now report info }.sync now
  if d.state.reportChanged report || d.state.rssi != some info.rssi || !d.state.isFresh now then
    { d' with notified := true }.notify
  else d'

def poll (d : Device) (now : Instant) (history : Address → Option ServiceInfo) : Device :=
  match d.state.newEntry history with
  | none => d
  | some info =>
    let d' := { d with state := d.state.polled now info }.sync now
    if d.state.rssi != some info.rssi || !d.state.isFresh now then d'.notify else d'

def check (d : Device) (now : Instant) : Device :=
  let d' := d.sync now
  if d'.notified && !d'.state.isFresh now then { d' with notified := false }.notify else d'

end Device

namespace Monitor

/-- The part of the monitor that concerns one device. -/
def device (m : Monitor) (serial : Serial) : Device where
  serial := serial
  state := m.states serial
  listeners := m.listeners serial
  notified := m.notified serial
  unavailable := m.unavailable serial
  monitorStartedAt := m.monitorStartedAt
  out := m.out.filter fun o => o.serial == serial

section
variable (m : Monitor) (now : Instant) (serial : Serial)

@[simp] theorem device_state : (m.device serial).state = m.states serial := rfl

@[simp] theorem device_listeners : (m.device serial).listeners = m.listeners serial := rfl

@[simp] theorem device_notified : (m.device serial).notified = m.notified serial := rfl

@[simp] theorem device_unavailable : (m.device serial).unavailable = m.unavailable serial := rfl

@[simp] theorem device_monitorStartedAt :
    (m.device serial).monitorStartedAt = m.monitorStartedAt := rfl

/-! ## Updates of the device itself -/

theorem device_setState_self (state : DanalockDeviceState) :
    (m.setState serial state).device serial = { m.device serial with state := state } := by
  simp [device, setState]

theorem device_setNotified_self (b : Bool) :
    (m.setNotified serial b).device serial = { m.device serial with notified := b } := by
  simp [device, setNotified]

theorem device_setUnavailable_self (b : Bool) :
    (m.setUnavailable serial b).device serial = { m.device serial with unavailable := b } := by
  simp [device, setUnavailable]

theorem device_emit_self {os : List Output} (h : ∀ o ∈ os, o.serial = serial) :
    (m.emit os).device serial =
      { m.device serial with out := (m.device serial).out ++ os } := by
  have : os.filter (fun o => o.serial == serial) = os :=
    List.filter_eq_self.mpr fun o ho => by simp [h o ho]
  simp [device, emit, this]

theorem device_notify_self : (m.notify serial).device serial = (m.device serial).notify :=
  device_emit_self m serial (by simp [Output.serial])

theorem device_syncAvailability_self :
    (m.syncAvailability now serial).device serial = (m.device serial).sync now := by
  have he : ∀ b o, o.serial = serial → ((m.setUnavailable serial b).emit [o]).device serial =
      { m.device serial with unavailable := b, out := (m.device serial).out ++ [o] } :=
    fun b o ho => by
      rw [device_emit_self _ _ (by simpa using ho), device_setUnavailable_self]
  unfold syncAvailability Device.sync
  simp only [device_state, device_unavailable, device_monitorStartedAt]
  by_cases hf : (m.states serial).isFresh now
  · by_cases hu : m.unavailable serial
    · simp only [hf, hu, if_true]; exact he false _ rfl
    · simp only [hf, hu, if_true]; rfl
  · by_cases hu : m.unavailable serial
    · simp only [hf, hu, if_true]; rfl
    · by_cases hs : (m.states serial).lastSeen.isNone && withinStart m.monitorStartedAt now
      · simp only [hf, hu, hs, if_true]; rfl
      · simp only [hf, hu, hs]; exact he true _ rfl

end

/-! ## Updates of another device -/

section
variable (m : Monitor) (now : Instant) {serial other : Serial} (h : other ≠ serial)
include h

theorem device_setState_other (state : DanalockDeviceState) :
    (m.setState serial state).device other = m.device other := by
  simp [device, setState, h]

theorem device_setNotified_other (b : Bool) :
    (m.setNotified serial b).device other = m.device other := by
  simp [device, setNotified, h]

theorem device_setUnavailable_other (b : Bool) :
    (m.setUnavailable serial b).device other = m.device other := by
  simp [device, setUnavailable, h]

theorem device_emit_other {os : List Output} (hos : ∀ o ∈ os, o.serial = serial) :
    (m.emit os).device other = m.device other := by
  have : os.filter (fun o => o.serial == other) = [] :=
    List.filter_eq_nil_iff.mpr fun o ho => by simp [hos o ho, Ne.symm h]
  simp [device, emit, this]

theorem device_notify_other : (m.notify serial).device other = m.device other :=
  device_emit_other m h (by simp [Output.serial])

theorem device_syncAvailability_other :
    (m.syncAvailability now serial).device other = m.device other := by
  have he : ∀ b o, o.serial = serial →
      ((m.setUnavailable serial b).emit [o]).device other = m.device other := fun b o ho => by
    rw [device_emit_other _ h (by simpa using ho), device_setUnavailable_other m h]
  unfold syncAvailability
  simp only
  split
  · split
    · exact he _ _ rfl
    · rfl
  split
  · rfl
  split
  · rfl
  · exact he _ _ rfl

end

/-! ## The handlers -/

section
variable (m : Monitor) (now : Instant) (serial other : Serial)

theorem device_accept (report : BroadcastReport) (info : ServiceInfo) :
    (m.accept now serial report info).device other =
      if other = serial then (m.device other).accept now report info else m.device other := by
  unfold accept
  by_cases ho : other = serial
  · subst ho
    rw [if_pos rfl, apply_ite (device · other), device_notify_self, device_setNotified_self,
      device_syncAvailability_self, device_setState_self]
    rfl
  · rw [if_neg ho]
    simp only
    split
    · rw [device_notify_other _ ho, device_setNotified_other _ ho,
        device_syncAvailability_other _ now ho, device_setState_other _ ho]
    · rw [device_syncAvailability_other _ now ho, device_setState_other _ ho]

theorem device_refreshState_self (history : Address → Option ServiceInfo) :
    (refreshState history now m serial).device serial = (m.device serial).poll now history := by
  unfold refreshState Device.poll
  simp only [device_state]
  cases (m.states serial).newEntry history with
  | none => rfl
  | some info =>
    simp only
    rw [apply_ite (device · serial), device_notify_self, device_syncAvailability_self,
      device_setState_self]
    rfl

theorem device_refreshState_other (history : Address → Option ServiceInfo) (h : other ≠ serial) :
    (refreshState history now m serial).device other = m.device other := by
  unfold refreshState
  simp only
  split
  · rfl
  · split
    · rw [device_notify_other _ h, device_syncAvailability_other _ now h,
        device_setState_other _ h]
    · rw [device_syncAvailability_other _ now h, device_setState_other _ h]

theorem device_refreshStates (history : Address → Option ServiceInfo) :
    (m.refreshStates now history).device serial =
      if serial ∈ m.serials then (m.device serial).poll now history else m.device serial :=
  Runs.foldl_component (v := device) (g := (·.poll now history))
    (fun m s => device_refreshState_self m now s history)
    (fun m s s' h => device_refreshState_other m now s s' history h) m.nodup m serial

theorem device_checkState_self :
    (checkState now m serial).device serial = (m.device serial).check now := by
  unfold checkState Device.check
  rw [apply_ite (device · serial), device_notify_self, device_setNotified_self,
    ← device_syncAvailability_self]
  rfl

theorem device_checkState_other (h : other ≠ serial) :
    (checkState now m serial).device other = m.device other := by
  unfold checkState
  simp only
  split
  · rw [device_notify_other _ h, device_setNotified_other _ h,
      device_syncAvailability_other _ now h]
  · exact device_syncAvailability_other _ now h

theorem device_checkStale : (m.checkStale now).device serial =
    if serial ∈ m.serials then (m.device serial).check now else m.device serial :=
  Runs.foldl_component (v := device) (g := (·.check now))
    (fun m s => device_checkState_self m now s)
    (fun m s s' h => device_checkState_other m now s s' h) m.nodup m serial

/-- Dispatch is an acceptance by the matching device. -/
theorem device_handleAdvertisement (parse : ParseBroadcast) (info : ServiceInfo) :
    (m.handleAdvertisement parse now info).device serial =
      match info.payload.bind (m.matching parse) with
      | none => m.device serial
      | some (s, report) =>
        if serial = s then (m.device serial).accept now report info else m.device serial := by
  obtain ⟨b, hb⟩ := m.handleAdvertisement_eq parse now info
  rw [hb]
  cases info.payload.bind (m.matching parse) with
  | none => rfl
  | some p => exact device_accept { m with loggedDecodeFailure := b } now p.1 serial p.2 info

end

end Monitor

/-! ## What a device's handlers change -/

namespace Device

variable (d : Device) (now : Instant)

/-- An availability transition sets its flag and logs one record; it calls no listener. -/
theorem sync_eq : ∃ u os, d.sync now = { d with unavailable := u, out := d.out ++ os } ∧
    ∀ s l, .call s l ∉ os := by
  have hquiet : ∃ u os, d = { d with unavailable := u, out := d.out ++ os } ∧
      ∀ s l, Output.call s l ∉ os :=
    ⟨d.unavailable, [], by rw [List.append_nil], fun s l => List.not_mem_nil⟩
  unfold sync
  split
  · split
    · exact ⟨false, [.backOnline d.serial], rfl, by simp⟩
    · exact hquiet
  split
  · exact hquiet
  split
  · exact hquiet
  · exact ⟨true, [.unavailable d.serial], rfl, by simp⟩

@[simp] theorem sync_serial : (d.sync now).serial = d.serial := by
  obtain ⟨u, os, h, -⟩ := d.sync_eq now
  rw [h]

@[simp] theorem sync_state : (d.sync now).state = d.state := by
  obtain ⟨u, os, h, -⟩ := d.sync_eq now
  rw [h]

@[simp] theorem sync_notified : (d.sync now).notified = d.notified := by
  obtain ⟨u, os, h, -⟩ := d.sync_eq now
  rw [h]

@[simp] theorem sync_listeners : (d.sync now).listeners = d.listeners := by
  obtain ⟨u, os, h, -⟩ := d.sync_eq now
  rw [h]

/-- The records of an availability transition are no listener calls. -/
theorem call_mem_sync {s : Serial} {l : Listener} :
    .call s l ∈ (d.sync now).out ↔ .call s l ∈ d.out := by
  obtain ⟨u, os, h, hos⟩ := d.sync_eq now
  rw [h, List.mem_append]
  exact or_iff_left (hos s l)

@[simp] theorem accept_state (report : BroadcastReport) (info : ServiceInfo) :
    (d.accept now report info).state = d.state.accepted now report info := by
  unfold accept
  simp only
  split
  · exact sync_state _ now
  · exact sync_state _ now

theorem poll_state (history : Address → Option ServiceInfo) : (d.poll now history).state =
    match d.state.newEntry history with
    | none => d.state
    | some info => d.state.polled now info := by
  unfold poll
  cases d.state.newEntry history with
  | none => rfl
  | some info =>
    simp only
    split
    · exact sync_state _ now
    · exact sync_state _ now

@[simp] theorem check_state : (d.check now).state = d.state := by
  unfold check
  simp only
  split
  · exact sync_state _ now
  · exact sync_state _ now

end Device

end DanalockBle
