import DanalockBle.Broadcast.Freshness

/-!
# The setting cache

The cached value of a setting is a fold over the run: an event assigns it a value
(`settingEvent`) or leaves it alone. Whether a flag turned off or on is judged against the stored
report, which is the last report whose counter was ahead of the one before, so other advertisements,
polls and stale checks can be inserted anywhere.
-/

namespace DanalockBle

namespace DanalockDeviceState

/-- The report the event puts in place of the stored one. -/
def reportEvent (state : DanalockDeviceState) : DeviceEvent → Option BroadcastReport
  | .accept report _ => if report.Ahead state.report then some report else none
  | _ => none

/-- What the event makes of the setting: a settings result its value, a flag that turned off 0,
a flag that turned on unknown. -/
def settingEvent (state : DanalockDeviceState) (name : SettingName) :
    DeviceEvent → Option (Option Int)
  | .applySettings settings => some (some (settingOf settings name))
  | .accept report _ =>
    if report.Ahead state.report then
      match state.report.any (flagOn · name), flagOn report name with
      | true, false => some (some 0)
      | false, true => some none
      | _, _ => none
    else none
  | _ => none

theorem transition_eq (was is : Bool) : transition was is =
    match was, is with
    | true, false => some (some 0)
    | false, true => some none
    | _, _ => none := by
  cases was <;> cases is <;> rfl

theorem step_report (state : DanalockDeviceState) (now : Instant) (ev : DeviceEvent) :
    (state.step now ev).report = (state.reportEvent ev).or state.report := by
  cases ev with
  | accept report info =>
    rw [show state.step now (.accept report info) = state.accepted now report info from rfl,
      accepted_report]
    by_cases hch : report.Ahead state.report
    · simp only [reportChanged_eq, reportEvent, hch, decide_true, if_true, Option.some_or]
    · simp only [reportChanged_eq, reportEvent, hch, decide_false, Bool.false_eq_true, if_false,
        Option.none_or]
  | poll history =>
    simp only [step]
    cases state.newEntry history <;> rfl
  | _ => rfl

theorem step_settingValues (state : DanalockDeviceState) (now : Instant) (ev : DeviceEvent)
    (name : SettingName) :
    (state.step now ev).settingValues name =
      (state.settingEvent name ev).getD (state.settingValues name) := by
  cases ev with
  | accept report info =>
    rw [show state.step now (.accept report info) = state.accepted now report info from rfl,
      accepted_settingValues]
    by_cases hch : report.Ahead state.report
    · simp only [reportChanged_eq, settingEvent, hch, decide_true, if_true, transition_eq]
      rfl
    · simp only [reportChanged_eq, settingEvent, hch, decide_false, Bool.false_eq_true, if_false,
        Option.getD_none]
  | poll history =>
    simp only [step]
    cases state.newEntry history <;> rfl
  | _ => rfl

/-- The part of the state the cache depends on. -/
def cacheView (state : DanalockDeviceState) :
    Option BroadcastReport × (SettingName → Option Int) :=
  (state.report, state.settingValues)

/-- The cache and the stored report are computed from themselves. -/
theorem step_cacheView {state state' : DanalockDeviceState}
    (h : state.cacheView = state'.cacheView) (now : Instant) (ev : DeviceEvent) :
    (state.step now ev).cacheView = (state'.step now ev).cacheView := by
  obtain ⟨hr, hv⟩ := Prod.mk.inj h
  have hevent : state.reportEvent ev = state'.reportEvent ev := by
    cases ev with
    | accept report info => simp only [reportEvent, hr]
    | _ => rfl
  have hsetting : ∀ name, state.settingEvent name ev = state'.settingEvent name ev := by
    intro name
    cases ev with
    | accept report info => simp only [settingEvent, hr]
    | _ => rfl
  refine Prod.ext ?_ (funext fun name => ?_)
  · show (state.step now ev).report = (state'.step now ev).report
    rw [step_report, step_report, hevent, hr]
  · show (state.step now ev).settingValues name = (state'.step now ev).settingValues name
    rw [step_settingValues, step_settingValues, hsetting, hv]

/-- An event that replaces no report and sets no value leaves the view alone. -/
theorem step_cacheView_self {state : DanalockDeviceState} {now : Instant} {ev : DeviceEvent}
    (hr : state.reportEvent ev = none) (hs : ∀ name, state.settingEvent name ev = none) :
    (state.step now ev).cacheView = state.cacheView := by
  refine Prod.ext ?_ (funext fun name => ?_)
  · show (state.step now ev).report = state.report
    rw [step_report, hr, Option.none_or]
  · show (state.step now ev).settingValues name = state.settingValues name
    rw [step_settingValues, hs, Option.getD_none]

end DanalockDeviceState

namespace Monitor

variable {parse : ParseBroadcast}

/-- What an event is to a device depends on the configured keys only. -/
theorem deviceEvent_congr {m m' : Monitor} (h : m.config = m'.config) (event : Event)
    (s : Serial) : m.deviceEvent parse event s = m'.deviceEvent parse event s := by
  obtain ⟨hserials, hkeys⟩ := Prod.mk.inj h
  have hmatching : m.matching parse = m'.matching parse := by
    funext payload
    unfold matching
    rw [hserials, hkeys]
  cases event with
  | advertisement info => simp only [deviceEvent, hmatching]
  | refreshStates history => simp only [deviceEvent, hserials]
  | checkStale => simp only [deviceEvent, hserials]
  | _ => rfl

/-- The keys and the device's report and cache. -/
def cacheView (s : Serial) (m : Monitor) :
    (List Serial × (Serial → DeviceKey)) × (Option BroadcastReport × (SettingName → Option Int)) :=
  (m.config, (m.states s).cacheView)

theorem cacheView_step {s : Serial} {m m' : Monitor} {e : Timed}
    (h : cacheView s m = cacheView s m') :
    cacheView s (m.step parse e) = cacheView s (m'.step parse e) := by
  obtain ⟨hc, hv⟩ := Prod.mk.inj h
  obtain ⟨hserials, hkeys⟩ := Prod.mk.inj hc
  refine Prod.ext ?_ ?_
  · show (m.step parse e).config = (m'.step parse e).config
    rw [config_step, config_step, hc, hserials, hkeys]
  · show ((m.step parse e).states s).cacheView = ((m'.step parse e).states s).cacheView
    rw [states_step, states_step, deviceEvent_congr hc]
    exact DanalockDeviceState.step_cacheView hv e.now _

/-- A history poll, a stale check, or an advertisement whose counter is not ahead of the device's
stored one (among them those of other devices). -/
def neutral (parse : ParseBroadcast) (s : Serial) (m : Monitor) (e : Timed) : Bool :=
  match e.event with
  | .refreshStates _ => true
  | .checkStale => true
  | .advertisement _ =>
    match m.deviceEvent parse e.event s with
    | .accept report _ => decide ¬ report.Ahead (m.states s).report
    | _ => true
  | _ => false

theorem cacheView_neutral {s : Serial} {m : Monitor} {e : Timed}
    (h : m.neutral parse s e = true) : cacheView s (m.step parse e) = cacheView s m := by
  obtain ⟨now, event⟩ := e
  refine Prod.ext ?_ ?_
  · show (m.step parse ⟨now, event⟩).config = m.config
    rw [config_step]
    cases event with
    | storeKey serial key => cases h
    | _ => rfl
  · show ((m.step parse ⟨now, event⟩).states s).cacheView = (m.states s).cacheView
    rw [states_step]
    simp only [neutral] at h
    cases event with
    | refreshStates history =>
      simp only [deviceEvent]
      split
      · exact DanalockDeviceState.step_cacheView_self rfl fun _ => rfl
      · rfl
    | checkStale =>
      simp only [deviceEvent]
      split <;> rfl
    | advertisement info =>
      simp only at h
      cases hev : m.deviceEvent parse (.advertisement info) s with
      | accept report info' =>
        have hno : ¬ report.Ahead (m.states s).report := by simpa [hev] using h
        exact DanalockDeviceState.step_cacheView_self (if_neg hno) fun name => if_neg hno
      | _ =>
        simp only [deviceEvent] at hev
        split at hev
        · cases hev <;> rfl
        · split at hev <;> cases hev <;> rfl
    | _ => cases h

/-! ## Runs -/

variable (serials : List Serial) (nodup : serials.Nodup) (keys : Serial → DeviceKey)

/-- The monitor after a run. -/
def run (parse : ParseBroadcast) (es : List Timed) : Monitor :=
  Runs.exec (step parse) (init serials nodup keys) es

/-- What the event makes of a device's setting. -/
def settingEvent (parse : ParseBroadcast) (s : Serial) (name : SettingName) (m : Monitor)
    (e : Timed) : Option (Option Int) :=
  (m.states s).settingEvent name (m.deviceEvent parse e.event s)

/-- The report the event puts in place of the device's stored one. -/
def reportEvent (parse : ParseBroadcast) (s : Serial) (m : Monitor) (e : Timed) :
    Option (Option BroadcastReport) :=
  ((m.states s).reportEvent (m.deviceEvent parse e.event s)).map some

/-- **The setting cache is a fold over the run.** A cached value is the one given by the last
event that gives one, and unknown before; the report that transitions are judged against is the
last one whose counter was ahead of the one before it; neutral events change the cache at no later
point. -/
theorem settingValues_run (parse : ParseBroadcast) (s : Serial) (name : SettingName)
    (es : List Timed) :
    ((run serials nodup keys parse es).states s).settingValues name =
        (Runs.last (step parse) (settingEvent parse s name)
          (init serials nodup keys) es).getD none ∧
      ((run serials nodup keys parse es).states s).report =
        (Runs.last (step parse) (reportEvent parse s) (init serials nodup keys) es).getD none ∧
      ∀ ins es', Runs.Steps (step parse) (fun m e => m.neutral parse s e = true)
          (run serials nodup keys parse es) ins →
        ((run serials nodup keys parse (es ++ ins ++ es')).states s).settingValues name =
          ((run serials nodup keys parse (es ++ es')).states s).settingValues name := by
  refine ⟨?_, ?_, ?_⟩
  · refine Runs.exec_view (v := fun m : Monitor => (m.states s).settingValues name) ?_ es _
    intro m e
    rw [states_step]
    exact DanalockDeviceState.step_settingValues _ _ _ name
  · refine Runs.exec_view (v := fun m : Monitor => (m.states s).report) ?_ es _
    intro m e
    rw [states_step, DanalockDeviceState.step_report]
    unfold reportEvent
    cases (m.states s).reportEvent (m.deviceEvent parse e.event s) <;> rfl
  · intro ins es' hins
    have hquiet : Runs.Steps (step parse)
        (fun m e => cacheView s (m.step parse e) = cacheView s m)
        (Runs.exec (step parse) (init serials nodup keys) es) ins :=
      hins.mono fun m e => cacheView_neutral
    have hview : cacheView s (run serials nodup keys parse (es ++ ins ++ es')) =
        cacheView s (run serials nodup keys parse (es ++ es')) :=
      Runs.exec_insert (fun _ _ _ => cacheView_step) hquiet
    exact congrFun (congrArg (fun v => v.2.2) hview) name

/-- The first byte of the payload is the counter, the second says whether auto-lock is on. -/
def flaggedParse : ParseBroadcast
  | [counter, flag], _ =>
    some ⟨"L1", counter.toNat, true, if flag = 1 then [.setting .autoLock] else []⟩
  | _, _ => none

def flaggedInfo (stamp : Nat) (payload : Bytes) : ServiceInfo :=
  ⟨stamp, "AA:BB", -60, [(manufacturerId, payload)]⟩

/-- Auto-lock is on, its value is read, and it is turned off. -/
def turnedOff : List Timed × List Timed :=
  ([atSecond 1 (.advertisement (flaggedInfo 0 [7, 1])),
      atSecond 2 (.applySettings "L1" ⟨0, 30, 0, 0⟩)],
    [atSecond 9 (.advertisement (flaggedInfo 3 [8, 0]))])

/-- An advertisement behind the stored one with the flag off, and a poll that brings another. -/
def outdated : List Timed :=
  [atSecond 3 (.advertisement (flaggedInfo 1 [6, 0])),
    atSecond 4 (.refreshStates fun _ => some (flaggedInfo 2 [8, 0])), atSecond 5 .checkStale]

/-- The outdated advertisements leave the value that was read; the one that is ahead makes it 0. -/
theorem settingValues_turnedOff :
    (((run ["L1"] (by decide) exampleKeys flaggedParse (turnedOff.1 ++ outdated)).states
        "L1").settingValues .autoLock = some 30) ∧
      ((run ["L1"] (by decide) exampleKeys flaggedParse
        (turnedOff.1 ++ outdated ++ turnedOff.2)).states "L1").settingValues .autoLock = some 0 :=
  ⟨(settingValues_run ["L1"] (by decide) exampleKeys flaggedParse "L1" .autoLock
      (turnedOff.1 ++ outdated)).1.trans (by decide),
    ((settingValues_run ["L1"] (by decide) exampleKeys flaggedParse "L1" .autoLock
      turnedOff.1).2.2 outdated turnedOff.2 (by decide)).trans (by decide)⟩

end Monitor

end DanalockBle
