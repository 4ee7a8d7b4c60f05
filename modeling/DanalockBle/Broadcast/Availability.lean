import DanalockBle.Broadcast.Run

/-!
# The availability the entities show

A `Hub` is a monitor with a clock that remembers, for each registered listener, the `is_fresh` it
saw when it was last called or registered: what its entity shows. `_check_stale` announces a
silent device only if `_notified` is set, so the flag has to be set whenever some listener shows
the device as available (`InSync`). `_accept` sets it on every recovery; `_refresh_states`
does not (`silentRecovery`).
-/

namespace DanalockBle

/-! ## Listener calls -/

namespace Device

variable (d : Device) (now : Instant)

theorem call_mem_notify {s : Serial} {l : Listener} (hs : d.serial = s) :
    .call s l ∈ d.notify.out ↔ .call s l ∈ d.out ∨ l ∈ d.listeners := by
  simp [notify, hs]

/-- `_accept` tells the listeners. -/
def acceptNotifies (report : BroadcastReport) (info : ServiceInfo) : Bool :=
  d.state.reportChanged report || d.state.rssi != some info.rssi || !d.state.isFresh now

/-- `_refresh_states` tells the listeners about a new history entry. -/
def pollNotifies (info : ServiceInfo) : Bool :=
  d.state.rssi != some info.rssi || !d.state.isFresh now

theorem accept_notified (report : BroadcastReport) (info : ServiceInfo) :
    (d.accept now report info).notified = (d.acceptNotifies now report info || d.notified) := by
  unfold accept acceptNotifies
  simp only
  split
  · next h => rw [h]; rfl
  · next h => rw [sync_notified, Bool.eq_false_iff.mpr h]; rfl

@[simp] theorem accept_listeners (report : BroadcastReport) (info : ServiceInfo) :
    (d.accept now report info).listeners = d.listeners := by
  unfold accept
  simp only
  split
  · exact sync_listeners _ now
  · exact sync_listeners _ now

theorem call_mem_accept (report : BroadcastReport) (info : ServiceInfo) (l : Listener) :
    .call d.serial l ∈ (d.accept now report info).out ↔
      .call d.serial l ∈ d.out ∨ (d.acceptNotifies now report info = true ∧ l ∈ d.listeners) := by
  unfold accept acceptNotifies
  simp only
  split
  · next h =>
    rw [call_mem_notify (s := d.serial), sync_listeners, call_mem_sync, h]
    · simp
    · exact sync_serial _ now
  · next h => rw [call_mem_sync, Bool.eq_false_iff.mpr h]; simp

theorem poll_notified (history : Address → Option ServiceInfo) :
    (d.poll now history).notified = d.notified := by
  unfold poll
  cases d.state.newEntry history with
  | none => rfl
  | some info =>
    simp only
    split
    · exact sync_notified _ now
    · exact sync_notified _ now

theorem poll_listeners (history : Address → Option ServiceInfo) :
    (d.poll now history).listeners = d.listeners := by
  unfold poll
  cases d.state.newEntry history with
  | none => rfl
  | some info =>
    simp only
    split
    · exact sync_listeners _ now
    · exact sync_listeners _ now

theorem poll_of_none {history : Address → Option ServiceInfo}
    (h : d.state.newEntry history = none) : d.poll now history = d := by
  unfold poll; rw [h]

theorem call_mem_poll {history : Address → Option ServiceInfo} {info : ServiceInfo}
    (hi : d.state.newEntry history = some info) (l : Listener) :
    .call d.serial l ∈ (d.poll now history).out ↔
      .call d.serial l ∈ d.out ∨ (d.pollNotifies now info = true ∧ l ∈ d.listeners) := by
  unfold poll pollNotifies
  rw [hi]
  simp only
  split
  · next h =>
    rw [call_mem_notify (s := d.serial), sync_listeners, call_mem_sync, h]
    · simp
    · exact sync_serial _ now
  · next h => rw [call_mem_sync, Bool.eq_false_iff.mpr h]; simp

/-- `_check_stale` finds a silent device that is not announced yet. -/
def checkNotifies : Bool := d.notified && !d.state.isFresh now

theorem check_notified : (d.check now).notified = (d.notified && !d.checkNotifies now) := by
  unfold check checkNotifies
  simp only [sync_notified, sync_state]
  split
  · next h => rw [h]; simp [notify]
  · next h => rw [sync_notified, Bool.eq_false_iff.mpr h]; simp

@[simp] theorem check_listeners : (d.check now).listeners = d.listeners := by
  unfold check
  simp only
  split
  · exact sync_listeners _ now
  · exact sync_listeners _ now

theorem call_mem_check (l : Listener) : .call d.serial l ∈ (d.check now).out ↔
    .call d.serial l ∈ d.out ∨ (d.checkNotifies now = true ∧ l ∈ d.listeners) := by
  unfold check checkNotifies
  simp only [sync_notified, sync_state]
  split
  · next h =>
    rw [call_mem_notify (s := d.serial), sync_listeners, call_mem_sync, h]
    · simp
    · exact sync_serial _ now
  · next h => rw [call_mem_sync, Bool.eq_false_iff.mpr h]; simp

end Device

/-! ## What the listeners saw -/

/-- The event registers the listener, whose entity then reads the state. -/
def DeviceEvent.registers : DeviceEvent → Listener → Bool
  | .addListener l', l => l' == l
  | _, _ => false

def Event.registers : Event → Serial → Listener → Bool
  | .addListener s l', serial, l => s == serial && l' == l
  | _, _, _ => false

structure Hub where
  clock : Instant
  monitor : Monitor
  shown : Serial → Listener → Bool

namespace Hub

def init (serials : List Serial) (nodup : serials.Nodup) (keys : Serial → DeviceKey) : Hub where
  clock := 0
  monitor := .init serials nodup keys
  shown _ _ := false

def step (parse : ParseBroadcast) (h : Hub) (e : Timed) : Hub :=
  let m := { h.monitor with out := [] }.step parse e
  { clock := e.now
    monitor := m
    shown := fun s l =>
      if .call s l ∈ m.out ∨ e.event.registers s l then (m.states s).isFresh e.now
      else h.shown s l }

/-- The clock does not run backwards. -/
def Forward (h : Hub) (e : Timed) : Prop := h.clock ≤ e.now

instance (h : Hub) (e : Timed) : Decidable (h.Forward e) := Nat.decLe _ _

end Hub

/-- A history poll takes up a new entry of a device that is not fresh and whose `_notified` flag
is clear. -/
def Monitor.silentRecovery (m : Monitor) (e : Timed) : Bool :=
  match e.event with
  | .refreshStates history => m.serials.any fun s =>
    ((m.states s).newEntry history).isSome && !(m.states s).isFresh e.now && !m.notified s
  | _ => false

/-- A step whose clock reading is not in the past and that is no silent recovery. -/
def Hub.Announced (h : Hub) (e : Timed) : Prop :=
  h.Forward e ∧ h.monitor.silentRecovery e = false

instance (h : Hub) (e : Timed) : Decidable (h.Announced e) := instDecidableAnd

/-! ## The invariant -/

/-- While a device is fresh its flag is set and its listeners show it available; a listener that
shows it available is announced the next silence. -/
structure InSync (d : Device) (clock : Instant) (shown : Listener → Bool) : Prop where
  fresh : d.state.isFresh clock = true → d.notified = true ∧ ∀ l ∈ d.listeners, shown l = true
  flagged : ∀ l ∈ d.listeners, shown l = true → d.notified = true

/-- What the listeners of a device saw after a step that led to `d`. -/
def saw (s : Serial) (d : Device) (now : Instant) (ev : DeviceEvent) (shown : Listener → Bool)
    (l : Listener) : Bool :=
  if .call s l ∈ d.out ∨ ev.registers l then d.state.isFresh now else shown l

section
variable {s : Serial} {d d' : Device} {clock now : Instant} {shown : Listener → Bool}
  {ev : DeviceEvent}

theorem saw_called {l : Listener} (h : .call s l ∈ d.out) :
    saw s d now ev shown l = d.state.isFresh now := if_pos (.inl h)

theorem InSync.later (h : InSync d clock shown) (hc : clock ≤ now) : InSync d now shown :=
  ⟨fun hf => h.fresh (DanalockDeviceState.isFresh_mono hc hf), h.flagged⟩

/-- A step that leaves the device fresh: its listeners are called or it was fresh before, and the
flag is set. -/
theorem InSync.of_fresh {called : Bool} (h : InSync d now shown)
    (hl : d'.listeners = d.listeners) (hf : d'.state.isFresh now = true)
    (hcalled : called = true ∨ d.state.isFresh now = true) (hn : d'.notified = true)
    (hcall : ∀ l, .call s l ∈ d'.out ↔ called = true ∧ l ∈ d.listeners) :
    InSync d' now (saw s d' now ev shown) := by
  refine ⟨fun _ => ⟨hn, fun l hm => ?_⟩, fun _ _ _ => hn⟩
  rw [hl] at hm
  rcases hcalled with hc | hfresh
  · rw [saw_called ((hcall l).mpr ⟨hc, hm⟩), hf]
  · unfold saw
    split
    · exact hf
    · exact (h.fresh hfresh).2 l hm

theorem InSync.accept (h : InSync d now shown) (hout : d.out = []) (report : BroadcastReport)
    (info : ServiceInfo) :
    InSync (d.accept now report info) now
      (saw d.serial (d.accept now report info) now ev shown) := by
  have hfresh : (d.accept now report info).state.isFresh now = true := by
    rw [Device.accept_state]
    exact DanalockDeviceState.isFresh_of_seen (DanalockDeviceState.accepted_lastSeen ..)
  have hcalled : d.acceptNotifies now report info = true ∨ d.state.isFresh now = true := by
    unfold Device.acceptNotifies
    cases d.state.isFresh now <;> simp
  have hn : (d.accept now report info).notified = true := by
    rw [Device.accept_notified]
    rcases hcalled with hc | hf
    · rw [hc, Bool.true_or]
    · rw [(h.fresh hf).1, Bool.or_true]
  refine h.of_fresh (Device.accept_listeners d now report info) hfresh hcalled hn fun l => ?_
  rw [Device.call_mem_accept, hout]
  simp

/-- The poll keeps the flag, so it must be set if the poll makes the device fresh. -/
theorem InSync.poll (h : InSync d now shown) (hout : d.out = [])
    {history : Address → Option ServiceInfo}
    (hs : (d.state.newEntry history).isSome = true → d.state.isFresh now = false →
      d.notified = true) :
    InSync (d.poll now history) now
      (saw d.serial (d.poll now history) now (.poll history) shown) := by
  cases hi : d.state.newEntry history with
  | none =>
    have hsaw : saw d.serial d now (.poll history) shown = shown := by
      funext l
      simp [saw, hout, DeviceEvent.registers]
    rw [Device.poll_of_none d now hi, hsaw]
    exact h
  | some info =>
    have hfresh : (d.poll now history).state.isFresh now = true := by
      rw [Device.poll_state, hi]
      exact DanalockDeviceState.isFresh_of_seen rfl
    have hcalled : d.pollNotifies now info = true ∨ d.state.isFresh now = true := by
      unfold Device.pollNotifies
      cases d.state.isFresh now <;> simp
    have hn : (d.poll now history).notified = true := by
      rw [Device.poll_notified]
      cases hf : d.state.isFresh now with
      | true => exact (h.fresh hf).1
      | false => exact hs (by rw [hi]; rfl) hf
    refine h.of_fresh (Device.poll_listeners d now history) hfresh hcalled hn fun l => ?_
    rw [Device.call_mem_poll d now hi, hout]
    simp

/-- After a stale check what the listeners show is what is. -/
theorem saw_check (h : InSync d now shown) (hout : d.out = []) {l : Listener}
    (hl : l ∈ d.listeners) :
    saw d.serial (d.check now) now .check shown l = d.state.isFresh now := by
  have hcall := Device.call_mem_check d now l
  rw [hout] at hcall
  unfold saw
  rw [Device.check_state]
  split
  · rfl
  · next hno =>
    have hquiet : d.checkNotifies now = false := by
      by_contra hc
      exact hno (.inl (hcall.mpr (.inr ⟨by simpa using hc, hl⟩)))
    cases hf : d.state.isFresh now with
    | true => exact (h.fresh hf).2 l hl
    | false =>
      -- an unannounced silence: the flag is clear, so no listener shows the device available
      have hclear : d.notified = false := by simpa [Device.checkNotifies, hf] using hquiet
      by_contra hs
      have hset := h.flagged l hl (by simpa using hs)
      rw [hclear] at hset
      cases hset

theorem InSync.check (h : InSync d now shown) (hout : d.out = []) :
    InSync (d.check now) now (saw d.serial (d.check now) now .check shown) := by
  refine ⟨fun hf => ⟨?_, fun l hl => ?_⟩, fun l hl hs => ?_⟩
  · rw [Device.check_state] at hf
    rw [Device.check_notified, Device.checkNotifies, hf, (h.fresh hf).1]
    rfl
  · rw [Device.check_listeners] at hl
    rw [Device.check_state] at hf
    rw [saw_check h hout hl, hf]
  · rw [Device.check_listeners] at hl
    rw [saw_check h hout hl] at hs
    rw [Device.check_notified, Device.checkNotifies, hs, (h.fresh hs).1]
    rfl

theorem InSync.addListener (h : InSync d now shown) (hout : d.out = []) (l : Listener) :
    InSync { d with listeners := d.listeners ++ [l] } now
      (saw d.serial { d with listeners := d.listeners ++ [l] } now (.addListener l) shown) := by
  have hsaw : ∀ l', l' ≠ l →
      saw d.serial { d with listeners := d.listeners ++ [l] } now (.addListener l) shown l' =
        shown l' := fun l' hne => by
    simp [saw, hout, DeviceEvent.registers, Ne.symm hne]
  have hself : saw d.serial { d with listeners := d.listeners ++ [l] } now (.addListener l) shown l
      = d.state.isFresh now := by
    simp [saw, DeviceEvent.registers]
  refine ⟨fun hf => ⟨(h.fresh hf).1, fun l' hl' => ?_⟩, fun l' hl' hs => ?_⟩
  · by_cases he : l' = l
    · rw [he, hself]; exact hf
    · rw [hsaw l' he]
      exact (h.fresh hf).2 l' (by simpa [he] using hl')
  · by_cases he : l' = l
    · rw [he, hself] at hs
      exact (h.fresh hs).1
    · rw [hsaw l' he] at hs
      exact h.flagged l' (by simpa [he] using hl') hs

/-- A step that calls no listener and changes neither freshness nor the flag. -/
theorem InSync.quiet (h : InSync d now shown) (hout : d'.out = [])
    (hl : ∀ l ∈ d'.listeners, l ∈ d.listeners) (hf : d'.state.lastSeen = d.state.lastSeen)
    (hn : d'.notified = d.notified) (hev : ∀ l, ev.registers l = false) :
    InSync d' now (saw s d' now ev shown) := by
  have hsaw : saw s d' now ev shown = shown := by
    funext l
    simp [saw, hout, hev]
  have hfresh : d'.state.isFresh now = d.state.isFresh now := by
    unfold DanalockDeviceState.isFresh
    rw [hf]
  rw [hsaw]
  refine ⟨fun hfr => ⟨?_, fun l hm => ?_⟩, fun l hm hs => ?_⟩
  · rw [hn]; exact (h.fresh (hfresh ▸ hfr)).1
  · exact (h.fresh (hfresh ▸ hfr)).2 l (hl l hm)
  · rw [hn]; exact h.flagged l (hl l hm) hs

/-- Every event of a device preserves the invariant, but for the silent recovery. -/
theorem InSync.step (h : InSync d now shown) (hout : d.out = []) (ev : DeviceEvent)
    (hs : ∀ history, ev = .poll history → (d.state.newEntry history).isSome = true →
      d.state.isFresh now = false → d.notified = true) :
    InSync (d.step now ev) now (saw d.serial (d.step now ev) now ev shown) := by
  cases ev with
  | start registered =>
    simp only [Device.step]
    split
    · exact h.quiet hout (fun _ hl => hl) rfl rfl fun _ => rfl
    · exact h.quiet hout (fun _ hl => hl) rfl rfl fun _ => rfl
  | accept report info => exact h.accept hout report info
  | poll history => exact h.poll hout (hs history rfl)
  | check => exact h.check hout
  | addListener l => exact h.addListener hout l
  | removeListener l =>
    exact h.quiet hout (fun _ hl => List.mem_of_mem_erase hl) rfl rfl fun _ => rfl
  | setPending locked => exact h.quiet hout (fun _ hl => hl) rfl rfl fun _ => rfl
  | applySettings settings => exact h.quiet hout (fun _ hl => hl) rfl rfl fun _ => rfl
  | idle => exact h.quiet hout (fun _ hl => hl) rfl rfl fun _ => rfl

end

/-! ## Runs of the hub -/

theorem Monitor.call_mem_device (m : Monitor) (s : Serial) (l : Listener) :
    .call s l ∈ (m.device s).out ↔ .call s l ∈ m.out := by
  simp [device, Output.serial]

theorem Monitor.registers_deviceEvent (m : Monitor) (parse : ParseBroadcast) (event : Event)
    (s : Serial) (l : Listener) :
    (m.deviceEvent parse event s).registers l = event.registers s l := by
  cases event with
  | advertisement info =>
    simp only [deviceEvent]
    cases info.payload.bind (m.matching parse) with
    | none => rfl
    | some p => simp only; split <;> rfl
  | refreshStates history => simp only [deviceEvent]; split <;> rfl
  | checkStale => simp only [deviceEvent]; split <;> rfl
  | addListener s' l' =>
    simp only [deviceEvent, Event.registers]
    split
    · next h => simp [h, DeviceEvent.registers]
    · next h => simp [DeviceEvent.registers, Ne.symm h]
  | removeListener s' l' => simp only [deviceEvent]; split <;> rfl
  | setPending s' locked => simp only [deviceEvent]; split <;> rfl
  | applySettings s' settings => simp only [deviceEvent]; split <;> rfl
  | _ => rfl

theorem Monitor.deviceEvent_poll {m : Monitor} {parse : ParseBroadcast} {event : Event}
    {s : Serial} {history : Address → Option ServiceInfo}
    (h : m.deviceEvent parse event s = .poll history) :
    event = .refreshStates history ∧ s ∈ m.serials := by
  have hsource := m.deviceEvent_source parse event s
  rw [h] at hsource
  exact hsource

namespace Hub

variable (parse : ParseBroadcast)

theorem device_step (h : Hub) (e : Timed) (s : Serial) :
    (h.step parse e).monitor.device s =
      { h.monitor.device s with out := [] }.step e.now (h.monitor.deviceEvent parse e.event s) :=
  Monitor.device_step { h.monitor with out := [] } parse e s

theorem shown_step (h : Hub) (e : Timed) (s : Serial) :
    (h.step parse e).shown s =
      saw s ((h.step parse e).monitor.device s) e.now (h.monitor.deviceEvent parse e.event s)
        (h.shown s) := by
  funext l
  simp only [saw, Monitor.call_mem_device, Monitor.registers_deviceEvent]
  rfl

theorem inSync_step {h : Hub} {e : Timed} (ha : h.Announced e)
    (hi : ∀ s, InSync (h.monitor.device s) h.clock (h.shown s)) (s : Serial) :
    InSync ((h.step parse e).monitor.device s) (h.step parse e).clock
      ((h.step parse e).shown s) := by
  obtain ⟨hc, hsilent⟩ := ha
  have hs := (hi s).later hc
  have hd : InSync { h.monitor.device s with out := [] } e.now (h.shown s) :=
    ⟨hs.fresh, hs.flagged⟩
  rw [shown_step, device_step]
  refine hd.step rfl _ fun history hev hnew hf => ?_
  obtain ⟨hev, hmem⟩ := Monitor.deviceEvent_poll hev
  have hno := hsilent
  simp only [Monitor.silentRecovery, hev, List.any_eq_false, Bool.and_eq_true,
    Bool.not_eq_true', not_and] at hno
  simpa using hno s hmem ⟨hnew, hf⟩

variable (serials : List Serial) (nodup : serials.Nodup) (keys : Serial → DeviceKey)

theorem inSync_init (s : Serial) :
    InSync ((init serials nodup keys).monitor.device s) (init serials nodup keys).clock
      ((init serials nodup keys).shown s) := by
  refine ⟨fun hf => ?_, fun l hl => ?_⟩
  · cases hf
  · cases hl

/-- The hub after a run of a new monitor. -/
def run (es : List Timed) : Hub := Runs.exec (step parse) (init serials nodup keys) es

theorem serials_run (es : List Timed) :
    (run parse serials nodup keys es).monitor.serials = serials := by
  induction es using List.reverseRecOn with
  | nil => rfl
  | append_singleton es e ih =>
    rw [run, Runs.exec_snoc]
    exact (Monitor.serials_step _ parse e).trans ih

/-- **After every stale check of a run without silent recoveries, each listener shows its
device's availability.** -/
theorem shown_after_checkStale (es : List Timed) (t : Instant)
    (h : Runs.Steps (step parse) Announced (init serials nodup keys) (es ++ [⟨t, .checkStale⟩]))
    (s : Serial) (hs : s ∈ serials) (l : Listener)
    (hl : l ∈ (run parse serials nodup keys (es ++ [⟨t, .checkStale⟩])).monitor.listeners s) :
    (run parse serials nodup keys (es ++ [⟨t, .checkStale⟩])).shown s l =
      ((run parse serials nodup keys (es ++ [⟨t, .checkStale⟩])).monitor.states s).isFresh t := by
  obtain ⟨hes, hlast, -⟩ := h.append
  have hsync := hes.inv (I := fun h => ∀ s, InSync (h.monitor.device s) h.clock (h.shown s))
    (fun _ _ hi ha => inSync_step parse ha hi) (inSync_init serials nodup keys) s
  have hmem : s ∈ (run parse serials nodup keys es).monitor.serials := by
    rw [serials_run]; exact hs
  have hev :
      (run parse serials nodup keys es).monitor.deviceEvent parse .checkStale s = .check := by
    simp only [Monitor.deviceEvent, hmem, if_true]
  have hdev := device_step parse (run parse serials nodup keys es) ⟨t, .checkStale⟩ s
  have hshown := shown_step parse (run parse serials nodup keys es) ⟨t, .checkStale⟩ s
  rw [hev] at hdev hshown
  rw [run, Runs.exec_snoc] at hl ⊢
  rw [run] at hdev hshown
  have hlisten := congrArg Device.listeners hdev
  have hstate := congrArg Device.state hdev
  simp only [Device.step, Device.check_listeners, Device.check_state, Monitor.device_listeners,
    Monitor.device_state] at hlisten hstate
  rw [hshown, hdev, hstate]
  refine saw_check (d := { (run parse serials nodup keys es).monitor.device s with out := [] })
    ⟨(hsync.later hlast.1).fresh, (hsync.later hlast.1).flagged⟩ rfl ?_
  rw [hlisten] at hl
  exact hl

end Hub

/-! ## A silent recovery -/

section

/-- An event at a time in seconds. -/
def atSecond (s : Nat) (event : Event) : Timed := ⟨s * 1000000000, event⟩

def exampleReport : BroadcastReport := ⟨"L1", 1, true, []⟩

def exampleInfo (stamp : Nat) : ServiceInfo := ⟨stamp, "AA:BB", -60, [(manufacturerId, [1])]⟩

def exampleParse : ParseBroadcast := fun _ _ => some exampleReport

def exampleKeys : Serial → DeviceKey := fun _ => ⟨[], []⟩

/-- Registered, heard, silent. -/
def silentOnce : List Timed :=
  [atSecond 0 (.addListener "L1" 7), atSecond 1 (.advertisement (exampleInfo 0))]

/-- Silent until announced, then heard through the history only, then silent again. -/
def silentTwice : List Timed :=
  silentOnce ++ [atSecond 400 .checkStale,
    atSecond 410 (.refreshStates fun _ => some (exampleInfo 1)), atSecond 800 .checkStale]

/-- Heard through the history only, while fresh and then before the silence is announced. -/
def polled : List Timed :=
  silentOnce ++ [atSecond 100 (.refreshStates fun _ => some (exampleInfo 1)),
    atSecond 410 (.refreshStates fun _ => some (exampleInfo 2))]

/-- The last poll counts at the check after it, and the silence since then at the next one. -/
theorem shown_after_polled :
    (Hub.run exampleParse ["L1"] (by decide) exampleKeys
      (polled ++ [⟨500000000000, .checkStale⟩])).shown "L1" 7 = true ∧
    (Hub.run exampleParse ["L1"] (by decide) exampleKeys
      (polled ++ [atSecond 500 .checkStale] ++ [⟨800000000000, .checkStale⟩])).shown "L1" 7 =
        false :=
  ⟨(Hub.shown_after_checkStale exampleParse ["L1"] (by decide) exampleKeys polled
      500000000000 (by decide) "L1" (by decide) 7 (by decide)).trans (by decide),
    (Hub.shown_after_checkStale exampleParse ["L1"] (by decide) exampleKeys
      (polled ++ [atSecond 500 .checkStale]) 800000000000 (by decide) "L1" (by decide) 7
      (by decide)).trans (by decide)⟩

/-- After the second silence the listener still shows the device as available. -/
theorem shown_after_silentTwice :
    Runs.Steps (Hub.step exampleParse) Hub.Forward
      (Hub.init ["L1"] (by decide) exampleKeys) silentTwice ∧
    (let h := Hub.run exampleParse ["L1"] (by decide) exampleKeys silentTwice
     7 ∈ h.monitor.listeners "L1" ∧ h.shown "L1" 7 = true ∧
      (h.monitor.states "L1").isFresh h.clock = false) := by
  decide

end

end DanalockBle
