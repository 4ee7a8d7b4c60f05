import DanalockBle.Broadcast.DeviceState

/-!
# The broadcast monitor

`DanalockBroadcastMonitor`: dispatch of advertisements (`handleAdvertisement`, `accept`), the
history poll (`refreshStates`) and the stale check (`checkStale`). The dictionaries `states`,
`_listeners`, `_notified` and `_unavailable` are built from the keys of `keys`, so they are
functions here and `serials` is their common key order. Every handler runs at one clock
reading. What a handler does to the outside (listener calls, info records) is appended to `out`.
-/

namespace DanalockBle

/-- An entity's listener; one entity registers one listener. -/
abbrev Listener := Nat

inductive Output where
  | call (serial : Serial) (listener : Listener)
  | unavailable (serial : Serial)
  | backOnline (serial : Serial)
  deriving DecidableEq, Repr

structure Monitor where
  serials : List Serial
  nodup : serials.Nodup
  keys : Serial → DeviceKey
  states : Serial → DanalockDeviceState := fun _ => {}
  listeners : Serial → List Listener := fun _ => []
  notified : Serial → Bool := fun _ => false
  unavailable : Serial → Bool := fun _ => false
  monitorStartedAt : Option Instant := none
  loggedDecodeFailure : Bool := false
  out : List Output := []

namespace Monitor

def setState (m : Monitor) (serial : Serial) (state : DanalockDeviceState) : Monitor :=
  { m with states := Function.update m.states serial state }

def setNotified (m : Monitor) (serial : Serial) (b : Bool) : Monitor :=
  { m with notified := Function.update m.notified serial b }

def setUnavailable (m : Monitor) (serial : Serial) (b : Bool) : Monitor :=
  { m with unavailable := Function.update m.unavailable serial b }

def emit (m : Monitor) (os : List Output) : Monitor := { m with out := m.out ++ os }

/-- `start`: `registered` tells whether the Bluetooth callback could be registered. -/
def start (m : Monitor) (now : Instant) (registered : Bool) : Monitor :=
  if registered then { m with monitorStartedAt := some now } else m

def addListener (m : Monitor) (serial : Serial) (l : Listener) : Monitor :=
  { m with listeners := Function.update m.listeners serial (m.listeners serial ++ [l]) }

def removeListener (m : Monitor) (serial : Serial) (l : Listener) : Monitor :=
  { m with listeners := Function.update m.listeners serial ((m.listeners serial).erase l) }

def notify (m : Monitor) (serial : Serial) : Monitor :=
  m.emit ((m.listeners serial).map (.call serial))

/-- No start time, or the timeout since the start has not passed. -/
def withinStart (startedAt : Option Instant) (now : Instant) : Bool :=
  match startedAt with
  | none => true
  | some started => now - started < broadcastTimeout

/-- Log one info record per availability transition. -/
def syncAvailability (m : Monitor) (now : Instant) (serial : Serial) : Monitor :=
  let state := m.states serial
  if state.isFresh now then
    if m.unavailable serial then
      (m.setUnavailable serial false).emit [.backOnline serial]
    else m
  else if m.unavailable serial then m
  else if state.lastSeen.isNone && withinStart m.monitorStartedAt now then m
  else (m.setUnavailable serial true).emit [.unavailable serial]

/-- Refresh the device state from one decoded advertisement. -/
def accept (m : Monitor) (now : Instant) (serial : Serial) (report : BroadcastReport)
    (info : ServiceInfo) : Monitor :=
  let state := m.states serial
  let reportChanged := state.reportChanged report
  let rssiChanged := state.rssi != some info.rssi
  let wasStale := !state.isFresh now
  let m := (m.setState serial (state.accepted now report info)).syncAvailability now serial
  if reportChanged || rssiChanged || wasStale then (m.setNotified serial true).notify serial
  else m

/-- The key loop of `_handle_advertisement`, over the keys not tried yet. -/
def tryKeys (parse : ParseBroadcast) (now : Instant) (payload : Bytes) (info : ServiceInfo)
    (m : Monitor) : List Serial → Monitor
  | [] => m
  | serial :: rest =>
    match parse payload (m.keys serial).broadcastKey with
    | none => tryKeys parse now payload info { m with loggedDecodeFailure := true } rest
    | some report =>
      if report.serial ≠ serial then tryKeys parse now payload info m rest
      else m.accept now serial report info

def handleAdvertisement (m : Monitor) (parse : ParseBroadcast) (now : Instant)
    (info : ServiceInfo) : Monitor :=
  match info.payload with
  | none => m
  | some payload => tryKeys parse now payload info m m.serials

/-- One pass of the loop of `_refresh_states`. -/
def refreshState (history : Address → Option ServiceInfo) (now : Instant) (m : Monitor)
    (serial : Serial) : Monitor :=
  let state := m.states serial
  match state.newEntry history with
  | none => m
  | some info =>
    let rssiChanged := state.rssi != some info.rssi
    let wasStale := !state.isFresh now
    let m := (m.setState serial (state.polled now info)).syncAvailability now serial
    if rssiChanged || wasStale then m.notify serial else m

/-- Refresh RSSI and freshness from the manager history. -/
def refreshStates (m : Monitor) (now : Instant) (history : Address → Option ServiceInfo) :
    Monitor :=
  m.serials.foldl (refreshState history now) m

/-- One pass of the loop of `_check_stale`. -/
def checkState (now : Instant) (m : Monitor) (serial : Serial) : Monitor :=
  let m := m.syncAvailability now serial
  if m.notified serial && !(m.states serial).isFresh now then
    (m.setNotified serial false).notify serial
  else m

/-- Write entities that just went stale. -/
def checkStale (m : Monitor) (now : Instant) : Monitor :=
  m.serials.foldl (checkState now) m

/-! ## The configured keys -/

/-- The keys and their order, which the handlers only read. -/
def config (m : Monitor) : List Serial × (Serial → DeviceKey) := (m.serials, m.keys)

section
variable (m : Monitor) (now : Instant) (serial : Serial)

@[simp] theorem config_syncAvailability : (m.syncAvailability now serial).config = m.config := by
  unfold syncAvailability
  simp only
  split
  · split <;> rfl
  · split
    · rfl
    · split <;> rfl

@[simp] theorem config_accept (report : BroadcastReport) (info : ServiceInfo) :
    (m.accept now serial report info).config = m.config := by
  unfold accept
  simp only
  split
  · exact config_syncAvailability _ now serial
  · exact config_syncAvailability _ now serial

@[simp] theorem config_refreshState (history : Address → Option ServiceInfo) :
    (refreshState history now m serial).config = m.config := by
  unfold refreshState
  simp only
  split
  · rfl
  · split
    · exact config_syncAvailability _ now serial
    · exact config_syncAvailability _ now serial

@[simp] theorem config_checkState : (checkState now m serial).config = m.config := by
  unfold checkState
  simp only
  split
  · exact config_syncAvailability _ now serial
  · exact config_syncAvailability _ now serial

end

theorem config_foldl {body : Monitor → Serial → Monitor}
    (h : ∀ m s, (body m s).config = m.config) (l : List Serial) (m : Monitor) :
    (l.foldl body m).config = m.config := by
  induction l generalizing m with
  | nil => rfl
  | cons s l ih => rw [List.foldl_cons, ih, h]

@[simp] theorem config_refreshStates (m : Monitor) (now : Instant)
    (history : Address → Option ServiceInfo) : (m.refreshStates now history).config = m.config :=
  config_foldl (fun m s => config_refreshState m now s history) _ m

@[simp] theorem config_checkStale (m : Monitor) (now : Instant) :
    (m.checkStale now).config = m.config :=
  config_foldl (fun m s => config_checkState m now s) _ m

/-! ## Dispatch -/

/-- The device whose key decodes the payload to its own serial, and the report. -/
def matching (m : Monitor) (parse : ParseBroadcast) (payload : Bytes) :
    Option (Serial × BroadcastReport) :=
  m.serials.findSome? fun serial =>
    match parse payload (m.keys serial).broadcastKey with
    | none => none
    | some report => if report.serial ≠ serial then none else some (serial, report)

/-- Dispatch hands the advertisement to the first matching device, or to none; the debug log's
flag aside, nothing else happens. -/
theorem handleAdvertisement_eq (m : Monitor) (parse : ParseBroadcast) (now : Instant)
    (info : ServiceInfo) :
    ∃ b, m.handleAdvertisement parse now info =
      match info.payload.bind (m.matching parse) with
      | none => { m with loggedDecodeFailure := b }
      | some (serial, report) =>
        { m with loggedDecodeFailure := b }.accept now serial report info := by
  unfold handleAdvertisement
  cases hp : info.payload with
  | none => exact ⟨_, rfl⟩
  | some payload =>
    simp only [Option.bind_some, matching]
    -- the loop over the keys not tried yet; only the flag differs from `m`
    suffices h : ∀ (l : List Serial) (b : Bool), ∃ b',
        tryKeys parse now payload info { m with loggedDecodeFailure := b } l =
          match l.findSome? fun serial =>
            match parse payload (m.keys serial).broadcastKey with
            | none => none
            | some report => if report.serial ≠ serial then none else some (serial, report) with
          | none => { m with loggedDecodeFailure := b' }
          | some (serial, report) =>
            { m with loggedDecodeFailure := b' }.accept now serial report info from
      h m.serials m.loggedDecodeFailure
    intro l
    induction l with
    | nil => intro b; exact ⟨b, rfl⟩
    | cons serial l ih =>
      intro b
      unfold tryKeys
      cases hd : parse payload (m.keys serial).broadcastKey with
      | none =>
        obtain ⟨b', h⟩ := ih true
        refine ⟨b', ?_⟩
        simp only [List.findSome?_cons, hd]
        exact h
      | some report =>
        by_cases hs : report.serial = serial
        · refine ⟨b, ?_⟩
          simp [hd, hs]
        · obtain ⟨b', h⟩ := ih b
          refine ⟨b', ?_⟩
          simp only [List.findSome?_cons, hd, ne_eq, hs, not_false_eq_true, if_true]
          exact h

theorem matching_some {m : Monitor} {parse : ParseBroadcast} {payload : Bytes} {serial : Serial}
    {report : BroadcastReport} (h : m.matching parse payload = some (serial, report)) :
    serial ∈ m.serials ∧ parse payload (m.keys serial).broadcastKey = some report ∧
      report.serial = serial := by
  obtain ⟨s, hs, hf⟩ := List.exists_of_findSome?_eq_some h
  split at hf
  · cases hf
  · next r hr =>
    split at hf
    · cases hf
    · next hne =>
      cases hf
      exact ⟨hs, hr, by simpa using hne⟩

theorem config_handleAdvertisement (m : Monitor) (parse : ParseBroadcast) (now : Instant)
    (info : ServiceInfo) : (m.handleAdvertisement parse now info).config = m.config := by
  obtain ⟨b, h⟩ := m.handleAdvertisement_eq parse now info
  rw [h]
  split
  · rfl
  · exact config_accept _ now _ _ info

end Monitor

end DanalockBle
