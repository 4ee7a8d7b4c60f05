import DanalockBle.Broadcast.CounterGate

/-!
# Who grants freshness

A `Watch` is a monitor with a clock that remembers, for each device, the payload of the last
advertisement accepted for it. An advertisement is `genuine` for a device if its payload decodes
under the device's current key to its serial, or is that payload. `_handle_advertisement` takes
up genuine advertisements only; `_refresh_states` takes up whatever the history holds for the
remembered address, so freshness is as genuine as the history (`GenuineHistory`).
-/

namespace DanalockBle

structure Watch where
  clock : Instant
  monitor : Monitor
  payload : Serial → Option Bytes

namespace Watch

def init (serials : List Serial) (nodup : serials.Nodup) (keys : Serial → DeviceKey) : Watch where
  clock := 0
  monitor := .init serials nodup keys
  payload _ := none

def step (parse : ParseBroadcast) (w : Watch) (e : Timed) : Watch where
  clock := e.now
  monitor := w.monitor.step parse e
  payload serial :=
    match w.monitor.deviceEvent parse e.event serial with
    | .accept _ info => info.payload
    | _ => w.payload serial

/-- The payload decodes under the device's current key to the device's serial. -/
def decodes (parse : ParseBroadcast) (w : Watch) (serial : Serial) (payload : Bytes) : Bool :=
  (parse payload (w.monitor.keys serial).broadcastKey).any fun report => report.serial == serial

/-- A valid advertisement of the device, or a repetition of the last accepted one. -/
def genuine (parse : ParseBroadcast) (w : Watch) (serial : Serial) (info : ServiceInfo) : Bool :=
  info.payload.any fun payload =>
    decodes parse w serial payload || w.payload serial == some payload

/-- Every new entry that a history poll takes up is genuine for its device. -/
def genuineHistory (parse : ParseBroadcast) (w : Watch) (e : Timed) : Bool :=
  match e.event with
  | .refreshStates history => w.monitor.serials.all fun serial =>
    ((w.monitor.states serial).newEntry history).all (genuine parse w serial)
  | _ => true

def Forward (w : Watch) (e : Timed) : Prop := w.clock ≤ e.now

instance (w : Watch) (e : Timed) : Decidable (w.Forward e) := Nat.decLe _ _

/-- A step whose clock reading is not in the past and whose history is genuine. -/
def GenuineHistory (parse : ParseBroadcast) (w : Watch) (e : Timed) : Prop :=
  w.Forward e ∧ genuineHistory parse w e = true

instance (parse : ParseBroadcast) (w : Watch) (e : Timed) :
    Decidable (GenuineHistory parse w e) := instDecidableAnd

/-- No advertisement the event brings, dispatched or in the history, is genuine for the device. -/
def Silent (parse : ParseBroadcast) (serial : Serial) (w : Watch) (e : Timed) : Prop :=
  match e.event with
  | .advertisement info => genuine parse w serial info = false
  | .refreshStates history =>
    ∀ address info, history address = some info → genuine parse w serial info = false
  | _ => True

end Watch

/-! ## The advertisement behind a change -/

namespace DanalockDeviceState

/-- The advertisement the event makes the device take up. -/
def taken (state : DanalockDeviceState) : DeviceEvent → Option ServiceInfo
  | .accept _ info => some info
  | .poll history => state.newEntry history
  | _ => none

theorem step_lastSeen (state : DanalockDeviceState) (now : Instant) (ev : DeviceEvent) :
    (state.step now ev).lastSeen =
      match state.taken ev with
      | none => state.lastSeen
      | some _ => some now := by
  cases ev with
  | poll history => simp only [step, taken]; cases state.newEntry history <;> rfl
  | _ => rfl

theorem step_lastInfo {state : DanalockDeviceState} {now : Instant} {ev : DeviceEvent}
    {info : ServiceInfo} (h : state.taken ev = some info) :
    (state.step now ev).lastInfo = some info := by
  cases ev with
  | accept report info' => cases h; rfl
  | poll history =>
    simp only [taken] at h
    simp only [step, h]
    rfl
  | _ => cases h

theorem newEntry_some {state : DanalockDeviceState} {history : Address → Option ServiceInfo}
    {info : ServiceInfo} (h : state.newEntry history = some info) :
    ∃ address, state.address = some address ∧ history address = some info := by
  unfold newEntry at h
  split at h
  · cases h
  · next address ha =>
    split at h
    · cases h
    · next info' hi =>
      split at h
      · cases h
      · cases h; exact ⟨address, ha, hi⟩

end DanalockDeviceState

namespace Monitor

theorem deviceEvent_accept {m : Monitor} {parse : ParseBroadcast} {event : Event} {s : Serial}
    {report : BroadcastReport} {info : ServiceInfo}
    (h : m.deviceEvent parse event s = .accept report info) :
    event = .advertisement info ∧ ∃ payload, info.payload = some payload ∧
      parse payload (m.keys s).broadcastKey = some report ∧ report.serial = s := by
  have hsource := m.deviceEvent_source parse event s
  rw [h] at hsource
  exact hsource

end Monitor

namespace Watch

variable {parse : ParseBroadcast}

/-- The advertisement a step of the monitor makes a device take up. -/
def taken (parse : ParseBroadcast) (w : Watch) (e : Timed) (s : Serial) : Option ServiceInfo :=
  (w.monitor.states s).taken (w.monitor.deviceEvent parse e.event s)

theorem lastSeen_step (parse : ParseBroadcast) (w : Watch) (e : Timed) (s : Serial) :
    ((w.step parse e).monitor.states s).lastSeen =
      match taken parse w e s with
      | none => (w.monitor.states s).lastSeen
      | some _ => some e.now := by
  have h := Monitor.states_step w.monitor parse e s
  rw [show (w.step parse e).monitor = w.monitor.step parse e from rfl, h]
  exact DanalockDeviceState.step_lastSeen _ _ _

/-- Dispatch takes up genuine advertisements, and the poll does if its history is genuine. -/
theorem taken_genuine {w : Watch} {e : Timed} {s : Serial} {info : ServiceInfo}
    (hg : genuineHistory parse w e = true) (h : taken parse w e s = some info) :
    genuine parse w s info = true := by
  unfold taken at h
  cases hev : w.monitor.deviceEvent parse e.event s with
  | accept report info' =>
    rw [hev] at h
    cases h
    obtain ⟨-, payload, hp, hd, hserial⟩ := Monitor.deviceEvent_accept hev
    simp [genuine, decodes, hp, hd, hserial]
  | poll history =>
    rw [hev] at h
    obtain ⟨hevent, hmem⟩ := Monitor.deviceEvent_poll hev
    have hall := hg
    simp only [genuineHistory, hevent, List.all_eq_true] at hall
    have hs := hall s hmem
    simp only [DanalockDeviceState.taken] at h
    rw [h] at hs
    exact hs
  | _ => rw [hev] at h; cases h

/-- What a silent event brings is not taken up. -/
theorem taken_silent {w : Watch} {e : Timed} {s : Serial}
    (hg : genuineHistory parse w e = true) (h : Silent parse s w e) : taken parse w e s = none := by
  cases ht : taken parse w e s with
  | none => rfl
  | some info =>
    have hgen := taken_genuine hg ht
    unfold taken at ht
    cases hev : w.monitor.deviceEvent parse e.event s with
    | accept report info' =>
      obtain ⟨hevent, -⟩ := Monitor.deviceEvent_accept hev
      rw [hev] at ht
      cases ht
      rw [Silent, hevent] at h
      rw [h] at hgen
      cases hgen
    | poll history =>
      obtain ⟨hevent, -⟩ := Monitor.deviceEvent_poll hev
      rw [hev] at ht
      obtain ⟨address, -, hi⟩ := DanalockDeviceState.newEntry_some ht
      rw [Silent, hevent] at h
      rw [h address info hi] at hgen
      cases hgen
    | _ => rw [hev] at ht; cases ht

/-! ## Runs -/

/-- No device was seen after the clock. -/
def SeenBefore (w : Watch) : Prop :=
  ∀ s seen, (w.monitor.states s).lastSeen = some seen → seen ≤ w.clock

theorem SeenBefore.step {w : Watch} {e : Timed} (h : w.SeenBefore) (hf : w.Forward e) :
    (w.step parse e).SeenBefore := by
  intro s seen hs
  rw [lastSeen_step] at hs
  cases ht : taken parse w e s with
  | none =>
    rw [ht] at hs
    exact Nat.le_trans (h s seen hs) hf
  | some info =>
    rw [ht] at hs
    cases hs
    exact Nat.le_refl _

/-- In a run that brings nothing genuine for a device, the device is not seen. -/
theorem lastSeen_silent {w : Watch} {es : List Timed} {s : Serial}
    (hg : Runs.Steps (step parse) (GenuineHistory parse) w es)
    (hs : Runs.Steps (step parse) (Silent parse s) w es) :
    ((Runs.exec (step parse) w es).monitor.states s).lastSeen =
      (w.monitor.states s).lastSeen := by
  induction es generalizing w with
  | nil => rfl
  | cons e es ih =>
    obtain ⟨⟨-, hg1⟩, hg2⟩ := hg
    obtain ⟨hs1, hs2⟩ := hs
    rw [Runs.exec_cons, ih hg2 hs2, lastSeen_step, taken_silent hg1 hs1]

section
variable (serials : List Serial) (nodup : serials.Nodup) (keys : Serial → DeviceKey)

/-- The watch after a run of a new monitor. -/
def run (parse : ParseBroadcast) (es : List Timed) : Watch :=
  Runs.exec (step parse) (init serials nodup keys) es

theorem seenBefore_run {es : List Timed}
    (h : Runs.Steps (step parse) (GenuineHistory parse) (init serials nodup keys) es) :
    (run serials nodup keys parse es).SeenBefore := by
  refine h.inv (I := SeenBefore) (fun w e hw he => hw.step he.1) ?_
  intro s seen hs
  cases hs

end

/-- A payload that does not decode, from the address the lock was heard at. -/
def foreignInfo : ServiceInfo := ⟨1, "AA:BB", -60, [(manufacturerId, [2])]⟩

def strictParse : ParseBroadcast := fun payload _ =>
  if payload = [1] then some exampleReport else none

/-- Heard through the history, whose entry decodes. -/
def heardAgain : Timed := atSecond 100 (.refreshStates fun _ => some (exampleInfo 1))

/-- Nothing genuine any more. -/
def onlyForeign : List Timed :=
  [atSecond 200 (.advertisement foreignInfo), atSecond 300 (.refreshStates fun _ => none),
    atSecond 390 .checkStale]

end Watch

end DanalockBle
