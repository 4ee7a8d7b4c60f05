import DanalockBle.Broadcast.Device

/-!
# Runs of the monitor

`Monitor.step` is one event of the event loop at one clock reading: a handler of the monitor, a
listener that comes or goes, or a write of another component to what the monitor shares (the key
dictionary, the state objects). `Monitor.deviceEvent` is what the event is to one device, and
`device_step` says that the device's part of the monitor makes exactly that step.
-/

namespace DanalockBle

inductive Event where
  | start (registered : Bool)
  | advertisement (info : ServiceInfo)
  | refreshStates (history : Address → Option ServiceInfo)
  | checkStale
  | addListener (serial : Serial) (l : Listener)
  | removeListener (serial : Serial) (l : Listener)
  | storeKey (serial : Serial) (key : DeviceKey)
  | setPending (serial : Serial) (locked : Bool)
  | applySettings (serial : Serial) (settings : LockSettings)

/-- An event and the clock reading its handler makes. -/
structure Timed where
  now : Instant
  event : Event

/-- An event as one device sees it. -/
inductive DeviceEvent where
  | start (registered : Bool)
  | accept (report : BroadcastReport) (info : ServiceInfo)
  | poll (history : Address → Option ServiceInfo)
  | check
  | addListener (l : Listener)
  | removeListener (l : Listener)
  | setPending (locked : Bool)
  | applySettings (settings : LockSettings)
  | idle

namespace Monitor

/-- The monitor as `async_setup_entry` builds it. -/
def init (serials : List Serial) (nodup : serials.Nodup) (keys : Serial → DeviceKey) : Monitor where
  serials := serials
  nodup := nodup
  keys := keys

def storeKey (m : Monitor) (serial : Serial) (key : DeviceKey) : Monitor :=
  { m with keys := Function.update m.keys serial key }

/-- `state.pending_locked = locked`, by the lock entity. -/
def setPending (m : Monitor) (serial : Serial) (locked : Bool) : Monitor :=
  m.setState serial { m.states serial with pendingLocked := some locked }

/-- `state.apply_settings(result)`, by the select entities. -/
def applySettings (m : Monitor) (serial : Serial) (settings : LockSettings) : Monitor :=
  m.setState serial ((m.states serial).applySettings settings)

def step (parse : ParseBroadcast) (m : Monitor) (e : Timed) : Monitor :=
  match e.event with
  | .start registered => m.start e.now registered
  | .advertisement info => m.handleAdvertisement parse e.now info
  | .refreshStates history => m.refreshStates e.now history
  | .checkStale => m.checkStale e.now
  | .addListener serial l => m.addListener serial l
  | .removeListener serial l => m.removeListener serial l
  | .storeKey serial key => m.storeKey serial key
  | .setPending serial locked => m.setPending serial locked
  | .applySettings serial settings => m.applySettings serial settings

/-- What the event is to one device. -/
def deviceEvent (m : Monitor) (parse : ParseBroadcast) (event : Event) (serial : Serial) :
    DeviceEvent :=
  match event with
  | .start registered => .start registered
  | .advertisement info =>
    match info.payload.bind (m.matching parse) with
    | none => .idle
    | some (s, report) => if serial = s then .accept report info else .idle
  | .refreshStates history => if serial ∈ m.serials then .poll history else .idle
  | .checkStale => if serial ∈ m.serials then .check else .idle
  | .addListener s l => if serial = s then .addListener l else .idle
  | .removeListener s l => if serial = s then .removeListener l else .idle
  | .storeKey _ _ => .idle
  | .setPending s locked => if serial = s then .setPending locked else .idle
  | .applySettings s settings => if serial = s then .applySettings settings else .idle

end Monitor

/-- What an event leaves of the device's state. -/
def DanalockDeviceState.step (state : DanalockDeviceState) (now : Instant) :
    DeviceEvent → DanalockDeviceState
  | .accept report info => state.accepted now report info
  | .poll history =>
    match state.newEntry history with
    | none => state
    | some info => state.polled now info
  | .setPending locked => { state with pendingLocked := some locked }
  | .applySettings settings => state.applySettings settings
  | _ => state

namespace Device

def step (d : Device) (now : Instant) : DeviceEvent → Device
  | .start registered => if registered then { d with monitorStartedAt := some now } else d
  | .accept report info => d.accept now report info
  | .poll history => d.poll now history
  | .check => d.check now
  | .addListener l => { d with listeners := d.listeners ++ [l] }
  | .removeListener l => { d with listeners := d.listeners.erase l }
  | .setPending locked => { d with state := { d.state with pendingLocked := some locked } }
  | .applySettings settings => { d with state := d.state.applySettings settings }
  | .idle => d

theorem step_state (d : Device) (now : Instant) (ev : DeviceEvent) :
    (d.step now ev).state = d.state.step now ev := by
  cases ev with
  | start registered => simp only [step]; split <;> rfl
  | accept report info => exact accept_state d now report info
  | poll history => exact poll_state d now history
  | check => exact check_state d now
  | _ => rfl

end Device

namespace Monitor

theorem device_listenersUpdate (m : Monitor) (serial other : Serial) (ls : List Listener) :
    ({ m with listeners := Function.update m.listeners serial ls } : Monitor).device other =
      if other = serial then { m.device other with listeners := ls } else m.device other := by
  by_cases h : other = serial
  · subst h
    simp [device]
  · simp [device, h]

theorem device_setState (m : Monitor) (serial other : Serial) (state : DanalockDeviceState) :
    (m.setState serial state).device other =
      if other = serial then { m.device other with state := state } else m.device other := by
  by_cases h : other = serial
  · subst h
    rw [if_pos rfl, device_setState_self]
  · rw [if_neg h, device_setState_other _ h]

/-- **A device makes the step its event stands for.** -/
theorem device_step (m : Monitor) (parse : ParseBroadcast) (e : Timed) (serial : Serial) :
    (m.step parse e).device serial =
      (m.device serial).step e.now (m.deviceEvent parse e.event serial) := by
  obtain ⟨now, event⟩ := e
  cases event with
  | start registered =>
    simp only [step, deviceEvent, start, Device.step]
    split <;> rfl
  | advertisement info =>
    simp only [step, deviceEvent, device_handleAdvertisement]
    cases info.payload.bind (m.matching parse) with
    | none => rfl
    | some p => simp only; split <;> rfl
  | refreshStates history =>
    simp only [step, deviceEvent, device_refreshStates]
    split <;> rfl
  | checkStale =>
    simp only [step, deviceEvent, device_checkStale]
    split <;> rfl
  | addListener s l =>
    simp only [step, deviceEvent, addListener, device_listenersUpdate]
    split
    · next h => subst h; rfl
    · rfl
  | removeListener s l =>
    simp only [step, deviceEvent, removeListener, device_listenersUpdate]
    split
    · next h => subst h; rfl
    · rfl
  | storeKey s key => rfl
  | setPending s locked =>
    simp only [step, deviceEvent, setPending, device_setState]
    split
    · next h => subst h; rfl
    · rfl
  | applySettings s settings =>
    simp only [step, deviceEvent, applySettings, device_setState]
    split
    · next h => subst h; rfl
    · rfl

theorem states_step (m : Monitor) (parse : ParseBroadcast) (e : Timed) (serial : Serial) :
    (m.step parse e).states serial =
      (m.states serial).step e.now (m.deviceEvent parse e.event serial) := by
  have h := congrArg Device.state (m.device_step parse e serial)
  rw [Device.step_state] at h
  exact h

/-- Where a device's event comes from. -/
theorem deviceEvent_source (m : Monitor) (parse : ParseBroadcast) (event : Event) (s : Serial) :
    match m.deviceEvent parse event s with
    | .start registered => event = .start registered
    | .accept report info => event = .advertisement info ∧ ∃ payload,
        info.payload = some payload ∧ parse payload (m.keys s).broadcastKey = some report ∧
          report.serial = s
    | .poll history => event = .refreshStates history ∧ s ∈ m.serials
    | .check => event = .checkStale ∧ s ∈ m.serials
    | .addListener l => event = .addListener s l
    | .removeListener l => event = .removeListener s l
    | .setPending locked => event = .setPending s locked
    | .applySettings settings => event = .applySettings s settings
    | .idle => True := by
  cases event with
  | start registered => rfl
  | advertisement info =>
    simp only [deviceEvent]
    cases hp : info.payload.bind (m.matching parse) with
    | none => trivial
    | some p =>
      obtain ⟨s', report⟩ := p
      by_cases hs : s = s'
      · subst hs
        obtain ⟨payload, hpayload, hmatch⟩ := Option.bind_eq_some_iff.mp hp
        obtain ⟨-, hd, hserial⟩ := matching_some hmatch
        simp only [if_true]
        exact ⟨trivial, payload, hpayload, hd, hserial⟩
      · simp only [if_neg hs]
  | storeKey s' key => trivial
  | refreshStates history => by_cases hs : s ∈ m.serials <;> simp [deviceEvent, hs]
  | checkStale => by_cases hs : s ∈ m.serials <;> simp [deviceEvent, hs]
  | addListener s' l => by_cases hs : s = s' <;> simp [deviceEvent, hs]
  | removeListener s' l => by_cases hs : s = s' <;> simp [deviceEvent, hs]
  | setPending s' locked => by_cases hs : s = s' <;> simp [deviceEvent, hs]
  | applySettings s' settings => by_cases hs : s = s' <;> simp [deviceEvent, hs]

/-- The keys change at a key write only. -/
theorem config_step (m : Monitor) (parse : ParseBroadcast) (e : Timed) :
    (m.step parse e).config =
      match e.event with
      | .storeKey serial key => (m.serials, Function.update m.keys serial key)
      | _ => m.config := by
  obtain ⟨now, event⟩ := e
  cases event with
  | start registered =>
    simp only [step, start]
    split <;> rfl
  | advertisement info => exact m.config_handleAdvertisement parse now info
  | refreshStates history => exact m.config_refreshStates now history
  | checkStale => exact m.config_checkStale now
  | _ => rfl

@[simp] theorem serials_step (m : Monitor) (parse : ParseBroadcast) (e : Timed) :
    (m.step parse e).serials = m.serials := by
  have h : (m.step parse e).config.1 = m.config.1 := by
    rw [config_step]
    split <;> rfl
  exact h

end Monitor

end DanalockBle
