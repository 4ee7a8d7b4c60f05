import DanalockBle.Broadcast.SettingCache

/-!
# The availability records

The info records that `_sync_availability` logs, over runs of one monitor: a stale check that finds
a device silent, and a sighting after that. `logs` says which record an event makes a device log;
the flag `_unavailable` is what both sides of the alternation read.
-/

namespace DanalockBle

/-- An availability record. -/
def Output.isRecord : Output → Bool
  | .call _ _ => false
  | _ => true

namespace Device

variable (d : Device) (now : Instant)

/-- The device's records so far. -/
def records : List Output := d.out.filter Output.isRecord

/-- The record of an availability transition. -/
def syncLogs : Option Output :=
  if d.state.isFresh now then if d.unavailable then some (.backOnline d.serial) else none
  else if d.unavailable then none
  else if d.state.lastSeen.isNone && Monitor.withinStart d.monitorStartedAt now then none
  else some (.unavailable d.serial)

/-- The record that the event makes the device log: a sighting one of a device that is logged as
unavailable, a check one of a transition. -/
def logs : DeviceEvent → Option Output
  | .check => d.syncLogs now
  | ev =>
    if (d.state.taken ev).isSome && d.unavailable then some (.backOnline d.serial) else none

/-- The flag after a record. -/
def flagAfter (d : Device) : Option Output → Bool
  | some (.unavailable _) => true
  | some (.backOnline _) => false
  | _ => d.unavailable

@[simp] theorem records_notify : d.notify.records = d.records := by
  have hnone : (d.listeners.map (Output.call d.serial)).filter Output.isRecord = [] :=
    List.filter_eq_nil_iff.mpr (by simp [Output.isRecord])
  rw [records, notify, List.filter_append, hnone, List.append_nil]
  rfl

@[simp] theorem unavailable_notify : d.notify.unavailable = d.unavailable := rfl

/-- An availability transition logs its record and sets the flag to it. -/
theorem sync_logs :
    (d.sync now).records = d.records ++ (d.syncLogs now).toList ∧
      (d.sync now).unavailable = d.flagAfter (d.syncLogs now) := by
  have hone : ∀ u o, o.isRecord = true →
      ({ d with unavailable := u, out := d.out ++ [o] } : Device).records = d.records ++ [o] := by
    intro u o ho
    simp [records, ho]
  have hquiet : d.records = d.records ++ [] := (List.append_nil _).symm
  unfold sync syncLogs
  split
  · split
    · exact ⟨hone false _ rfl, rfl⟩
    · exact ⟨hquiet, rfl⟩
  · split
    · exact ⟨hquiet, rfl⟩
    · split
      · exact ⟨hquiet, rfl⟩
      · exact ⟨hone true _ rfl, rfl⟩

/-- A device that has just been seen logs that it is back, if it was logged as unavailable. -/
theorem syncLogs_seen (state : DanalockDeviceState) (h : state.lastSeen = some now) :
    ({ d with state := state } : Device).syncLogs now =
      if d.unavailable then some (.backOnline d.serial) else none := by
  unfold syncLogs
  simp only [DanalockDeviceState.isFresh_of_seen h, if_true]

/-- A notification after a transition logs nothing more. -/
theorem notify_logs {d d' : Device} {o : Option Output}
    (h : d'.records = d.records ++ o.toList ∧ d'.unavailable = d.flagAfter o) (b : Bool) :
    ({ d' with notified := b } : Device).notify.records = d.records ++ o.toList ∧
      ({ d' with notified := b } : Device).notify.unavailable = d.flagAfter o := by
  rw [records_notify, unavailable_notify]
  exact h

/-- **What an event logs.** -/
theorem step_logs (ev : DeviceEvent) :
    (d.step now ev).records = d.records ++ (d.logs now ev).toList ∧
      (d.step now ev).unavailable = d.flagAfter (d.logs now ev) := by
  have hquiet : d.records = d.records ++ [] ∧ d.unavailable = d.unavailable :=
    ⟨(List.append_nil _).symm, rfl⟩
  cases ev with
  | accept report info =>
    have hsync := sync_logs { d with state := d.state.accepted now report info } now
    rw [syncLogs_seen d now _ rfl] at hsync
    simp only [step, accept]
    split
    · exact notify_logs (d := d) hsync true
    · exact hsync
  | poll history =>
    cases hentry : d.state.newEntry history with
    | none =>
      simp only [step, poll, logs, DanalockDeviceState.taken, hentry]
      exact hquiet
    | some info =>
      have hsync := sync_logs { d with state := d.state.polled now info } now
      rw [syncLogs_seen d now _ rfl] at hsync
      simp only [step, poll, logs, DanalockDeviceState.taken, hentry]
      split
      · exact notify_logs (d := d) hsync _
      · exact hsync
  | check =>
    have hsync := sync_logs d now
    simp only [step, check]
    split
    · exact notify_logs hsync false
    · exact hsync
  | start registered =>
    simp only [step]
    split
    · exact hquiet
    · exact hquiet
  | _ => exact hquiet

/-- A record is the other one than the flag. -/
theorem logs_cases {ev : DeviceEvent} {o : Output} (h : d.logs now ev = some o) :
    o = .unavailable d.serial ∧ d.unavailable = false ∧ ev = .check ∧
        d.state.isFresh now = false ∨
      o = .backOnline d.serial ∧ d.unavailable = true ∧
        (d.state.isFresh now = true ∧ ev = .check ∨ (d.state.taken ev).isSome = true) := by
  by_cases hcheck : ev = .check
  · subst hcheck
    simp only [logs, syncLogs] at h
    split at h
    · next hfresh =>
      split at h
      · next hflag => exact .inr ⟨(Option.some.inj h).symm, hflag, .inl ⟨hfresh, rfl⟩⟩
      · cases h
    · next hstale =>
      split at h
      · cases h
      · next hflag =>
        split at h
        · cases h
        · exact .inl ⟨(Option.some.inj h).symm, by simpa using hflag, rfl, by simpa using hstale⟩
  · have hlogs : d.logs now ev =
        if (d.state.taken ev).isSome && d.unavailable then some (.backOnline d.serial)
        else none := by
      cases ev with
      | check => exact absurd rfl hcheck
      | _ => rfl
    rw [hlogs] at h
    split at h
    · next hboth =>
      obtain ⟨htaken, hflag⟩ := Bool.and_eq_true_iff.mp hboth
      exact .inr ⟨(Option.some.inj h).symm, hflag, .inr htaken⟩
    · cases h

/-- A sighting of a device that is logged as unavailable logs that it is back. -/
theorem logs_sighting {ev : DeviceEvent} (h : (d.state.taken ev).isSome = true) :
    d.logs now ev = if d.unavailable then some (.backOnline d.serial) else none := by
  cases ev with
  | check => cases h
  | _ => simp [logs, h]

@[simp] theorem sync_monitorStartedAt : (d.sync now).monitorStartedAt = d.monitorStartedAt := by
  obtain ⟨u, os, h, -⟩ := d.sync_eq now
  rw [h]

/-- Only a successful start sets the start time. -/
theorem step_monitorStartedAt {ev : DeviceEvent} (h : ev ≠ .start true) :
    (d.step now ev).monitorStartedAt = d.monitorStartedAt := by
  cases ev with
  | start registered =>
    cases registered with
    | true => exact absurd rfl h
    | false => rfl
  | accept report info =>
    simp only [step, accept]
    split
    · exact sync_monitorStartedAt _ now
    · exact sync_monitorStartedAt _ now
  | poll history =>
    simp only [step, poll]
    cases d.state.newEntry history with
    | none => rfl
    | some info =>
      simp only
      split
      · exact sync_monitorStartedAt _ now
      · exact sync_monitorStartedAt _ now
  | check =>
    simp only [step, check]
    split
    · exact sync_monitorStartedAt _ now
    · exact sync_monitorStartedAt _ now
  | _ => rfl

end Device

namespace Monitor

/-- The availability records of one device. -/
def records (m : Monitor) (s : Serial) : List Output :=
  m.out.filter fun o => o.isRecord && o.serial == s

section
variable (m : Monitor) (parse : ParseBroadcast) (e : Timed) (s : Serial)

/-- The record of the device that a step logs. -/
def logged : Option Output := ((m.step parse e).records s)[(m.records s).length]?

/-- A stale check finds the device not fresh: it was last seen at least the timeout ago, or it was
never seen and the monitor was started at least the timeout ago. -/
def findsSilent : Bool :=
  match e.event with
  | .checkStale =>
    s ∈ m.serials && match (m.states s).lastSeen with
      | some seen => broadcastTimeout ≤ e.now - seen
      | none => m.monitorStartedAt.any fun started => broadcastTimeout ≤ e.now - started
  | _ => false

/-- The device takes up an advertisement, or an entry of the history. -/
def sighting : Bool := ((m.states s).taken (m.deviceEvent parse e.event s)).isSome

theorem records_device : m.records s = (m.device s).records := (List.filter_filter ..).symm

theorem logged_device :
    m.logged parse e s = (m.device s).logs e.now (m.deviceEvent parse e.event s) := by
  rw [logged, records_device, records_device, device_step, ((m.device s).step_logs e.now _).1,
    List.getElem?_append_right le_rfl, Nat.sub_self]
  cases (m.device s).logs e.now (m.deviceEvent parse e.event s) <;> rfl

/-- A step logs at most one record of the device. -/
theorem records_step :
    (m.step parse e).records s = m.records s ++ (m.logged parse e s).toList := by
  rw [logged_device, records_device, records_device, device_step]
  exact ((m.device s).step_logs e.now _).1

theorem unavailable_step :
    (m.step parse e).unavailable s = (m.device s).flagAfter (m.logged parse e s) := by
  have hflag := ((m.device s).step_logs e.now (m.deviceEvent parse e.event s)).2
  rw [← device_step, ← logged_device] at hflag
  exact hflag

theorem deviceEvent_check :
    m.deviceEvent parse e.event s = .check ↔ e.event = .checkStale ∧ s ∈ m.serials := by
  constructor
  · intro h
    have hsource := m.deviceEvent_source parse e.event s
    rw [h] at hsource
    exact hsource
  · rintro ⟨hevent, hmem⟩
    rw [hevent]
    exact if_pos hmem

/-- What the check finds, in the terms of the code. -/
theorem findsSilent_iff : m.findsSilent e s = true ↔
    m.deviceEvent parse e.event s = .check ∧ (m.states s).isFresh e.now = false ∧
      ((m.states s).lastSeen.isNone && withinStart m.monitorStartedAt e.now) = false := by
  rw [deviceEvent_check]
  unfold findsSilent
  cases e.event with
  | checkStale =>
    cases hseen : (m.states s).lastSeen with
    | some seen => simp [DanalockDeviceState.isFresh, hseen]
    | none =>
      cases hstart : m.monitorStartedAt with
      | none => simp [DanalockDeviceState.isFresh, hseen, withinStart]
      | some started => simp [DanalockDeviceState.isFresh, hseen, withinStart]
  | _ => simp

/-- The device is logged as unavailable by a check that finds it silent, unless it already is. -/
theorem logged_unavailable_iff : m.logged parse e s = some (.unavailable s) ↔
    m.findsSilent e s = true ∧ m.unavailable s = false := by
  rw [findsSilent_iff m parse, logged_device]
  constructor
  · intro h
    rcases Device.logs_cases _ _ h with ⟨-, hflag, hcheck, hstale⟩ | ⟨ho, -⟩
    · refine ⟨⟨hcheck, hstale, ?_⟩, hflag⟩
      rw [hcheck] at h
      simp only [Device.logs, Device.syncLogs] at h
      rw [if_neg (by simpa using hstale), if_neg (by simpa using hflag)] at h
      split at h
      · cases h
      · next hseen => simpa using hseen
    · cases ho
  · rintro ⟨⟨hcheck, hstale, hseen⟩, hflag⟩
    rw [hcheck]
    simp only [Device.logs, Device.syncLogs, device_state, device_unavailable,
      device_monitorStartedAt, hstale, hflag, hseen, Bool.false_eq_true, if_false]
    rfl

/-- A sighting logs that the device is back exactly if it is logged as unavailable. -/
theorem logged_sighting (h : m.sighting parse e s = true) : m.logged parse e s =
    if m.unavailable s then some (.backOnline s) else none := by
  rw [logged_device]
  exact Device.logs_sighting _ _ h

theorem logged_cases {o : Output} (h : m.logged parse e s = some o) :
    o = .unavailable s ∧ m.unavailable s = false ∨ o = .backOnline s ∧ m.unavailable s = true := by
  rw [logged_device] at h
  exact (Device.logs_cases _ _ h).imp (fun h => ⟨h.1, h.2.1⟩) fun h => ⟨h.1, h.2.1⟩

/-- A device that is silent while it is logged as unavailable is logged as back by a sighting
only. -/
theorem logged_backOnline_iff
    (hsilent : m.unavailable s = true → (m.states s).isFresh e.now = false) :
    m.logged parse e s = some (.backOnline s) ↔
      m.sighting parse e s = true ∧ m.unavailable s = true := by
  constructor
  · intro h
    rw [logged_device] at h
    rcases Device.logs_cases _ _ h with ⟨ho, -⟩ | ⟨-, hflag, ⟨hfresh, -⟩ | htaken⟩
    · cases ho
    · rw [device_state, hsilent hflag] at hfresh
      cases hfresh
    · exact ⟨htaken, hflag⟩
  · rintro ⟨hsighting, hflag⟩
    rw [logged_sighting m parse e s hsighting, if_pos hflag]

/-- A device that is not logged as anything new stays unavailable only while nothing is seen of
it. -/
theorem lastSeen_kept (h : m.logged parse e s = none) (hflag : m.unavailable s = true) :
    ((m.step parse e).states s).lastSeen = (m.states s).lastSeen := by
  rw [states_step, DanalockDeviceState.step_lastSeen]
  cases htaken : (m.states s).taken (m.deviceEvent parse e.event s) with
  | none => rfl
  | some info =>
    have hsighting : m.sighting parse e s = true := by
      unfold sighting
      rw [htaken]
      rfl
    rw [logged_sighting m parse e s hsighting, hflag] at h
    cases h

end

/-! ## Runs -/

/-- The i-th record of a device. -/
def nthRecord (s : Serial) (i : Nat) : Output :=
  if i % 2 = 0 then .unavailable s else .backOnline s

/-- The records alternate, and the flag is their parity. -/
structure Alternating (s : Serial) (m : Monitor) : Prop where
  flag : m.unavailable s = decide ((m.records s).length % 2 = 1)
  records : ∀ i o, (m.records s)[i]? = some o → o = nthRecord s i

section
variable {m : Monitor} {parse : ParseBroadcast} {e : Timed} {s : Serial}

theorem Alternating.step (h : Alternating s m) : Alternating s (m.step parse e) := by
  obtain ⟨hflag, hrecords⟩ := h
  have hstep := m.records_step parse e s
  have hstepFlag := m.unavailable_step parse e s
  cases hlogged : m.logged parse e s with
  | none =>
    rw [hlogged, Option.toList_none, List.append_nil] at hstep
    rw [hlogged] at hstepFlag
    exact ⟨by rw [hstepFlag, hstep]; exact hflag, by rw [hstep]; exact hrecords⟩
  | some o =>
    rw [hlogged, Option.toList_some] at hstep
    rw [hlogged] at hstepFlag
    have hlast : o = nthRecord s (m.records s).length ∧
        (m.device s).flagAfter (some o) = decide (((m.records s).length + 1) % 2 = 1) := by
      unfold nthRecord
      rcases logged_cases m parse e s hlogged with ⟨rfl, hdown⟩ | ⟨rfl, hup⟩
      · rw [hdown] at hflag
        have hparity := of_decide_eq_false hflag.symm
        exact ⟨by rw [if_pos (by omega)], (decide_eq_true (by omega)).symm⟩
      · rw [hup] at hflag
        have hparity := of_decide_eq_true hflag.symm
        exact ⟨by rw [if_neg (by omega)], (decide_eq_false (by omega)).symm⟩
    refine ⟨?_, fun i o' ho' => ?_⟩
    · rw [hstepFlag, hlast.2, hstep, List.length_append, List.length_singleton]
    · rw [hstep] at ho'
      rcases Nat.lt_or_ge i (m.records s).length with hlt | hge
      · rw [List.getElem?_append_left hlt] at ho'
        exact hrecords i o' ho'
      · rw [List.getElem?_append_right hge] at ho'
        have hi : i - (m.records s).length = 0 := by
          have := (List.getElem?_eq_some_iff.mp ho').1
          simp only [List.length_singleton] at this
          omega
        rw [hi] at ho'
        cases ho'
        rw [hlast.1, show i = (m.records s).length by omega]

/-- A device that is logged as unavailable is silent at a time `t`, and stays so while the clock has
not passed `t`. -/
theorem silent_step {t : Instant} (hlater : e.now ≤ t)
    (h : m.unavailable s = true → (m.states s).isFresh t = false)
    (hflag : (m.step parse e).unavailable s = true) :
    ((m.step parse e).states s).isFresh t = false := by
  have hkept : ∀ state : DanalockDeviceState, state.lastSeen = (m.states s).lastSeen →
      state.isFresh t = (m.states s).isFresh t := by
    intro state hseen
    unfold DanalockDeviceState.isFresh
    rw [hseen]
  rw [unavailable_step] at hflag
  cases hlogged : m.logged parse e s with
  | none =>
    rw [hlogged] at hflag
    rw [hkept _ (m.lastSeen_kept parse e s hlogged hflag)]
    exact h hflag
  | some o =>
    rw [hlogged] at hflag
    rcases logged_cases m parse e s hlogged with ⟨rfl, -⟩ | ⟨rfl, -⟩
    · obtain ⟨hfinds, -⟩ := (m.logged_unavailable_iff parse e s).mp hlogged
      obtain ⟨hcheck, hstale, -⟩ := (m.findsSilent_iff parse e s).mp hfinds
      have hstate : (m.step parse e).states s = m.states s := by
        rw [states_step, hcheck]
        rfl
      rw [hstate]
      by_contra hfresh
      rw [DanalockDeviceState.isFresh_mono hlater (by simpa using hfresh)] at hstale
      cases hstale
    · cases hflag

end

/-! ## Runs -/

/-- Whether a check since the last return, or since the start, found the device silent: what the
event changes about it. -/
def foundSilent (parse : ParseBroadcast) (s : Serial) (m : Monitor) (e : Timed) : Option Bool :=
  if m.logged parse e s = some (.backOnline s) then some false
  else if m.findsSilent e s then some true else none

/-- Whether nothing was seen of the device since it was logged as unavailable. -/
def wentDown (parse : ParseBroadcast) (s : Serial) (m : Monitor) (e : Timed) : Option Bool :=
  if m.logged parse e s = some (.unavailable s) then some true
  else if m.sighting parse e s then some false else none

section
variable (parse : ParseBroadcast) (serials : List Serial) (nodup : serials.Nodup)
  (keys : Serial → DeviceKey) (s : Serial)

theorem alternating_run (es : List Timed) :
    Alternating s (run serials nodup keys parse es) :=
  (Runs.Steps.of_forall (P := fun _ _ => True) (fun _ _ => trivial) es _).inv
    (fun _ _ h _ => h.step) ⟨rfl, by rintro i o ⟨⟩⟩

theorem silent_run (es : List Timed) {t : Instant} (ht : ∀ a ∈ es, a.now ≤ t)
    (hflag : (run serials nodup keys parse es).unavailable s = true) :
    ((run serials nodup keys parse es).states s).isFresh t = false := by
  induction es using List.reverseRecOn with
  | nil => cases hflag
  | append_singleton es e ih =>
    rw [run, Runs.exec_snoc] at hflag ⊢
    exact silent_step (ht e (by simp)) (ih fun a ha => ht a (List.mem_append_left _ ha)) hflag

/-- The flag says whether a check has found the device silent since it was last back. -/
theorem flag_foundSilent (es : List Timed) :
    (run serials nodup keys parse es).unavailable s =
      (Runs.last (step parse) (foundSilent parse s) (init serials nodup keys) es).getD false := by
  refine Runs.exec_view (v := fun m : Monitor => m.unavailable s) (fun m e => ?_) es _
  simp only [unavailable_step, foundSilent]
  cases hlogged : m.logged parse e s with
  | none =>
    have hno : m.findsSilent e s = true → m.unavailable s = true := by
      intro hfinds
      by_contra hflag
      rw [(m.logged_unavailable_iff parse e s).mpr ⟨hfinds, by simpa using hflag⟩] at hlogged
      cases hlogged
    cases hfinds : m.findsSilent e s with
    | true => exact hno hfinds
    | false => rfl
  | some o =>
    rcases logged_cases m parse e s hlogged with ⟨rfl, -⟩ | ⟨rfl, -⟩
    · rw [((m.logged_unavailable_iff parse e s).mp hlogged).1]
      rfl
    · simp only [if_true]
      rfl

/-- Along a clock that does not go back, the flag says whether nothing was seen of the device since
it was logged as unavailable. -/
theorem flag_wentDown {es : List Timed} (hclock : es.Pairwise fun a b => a.now ≤ b.now) :
    (run serials nodup keys parse es).unavailable s =
      (Runs.last (step parse) (wentDown parse s) (init serials nodup keys) es).getD false := by
  induction es using List.reverseRecOn with
  | nil => rfl
  | append_singleton es e ih =>
    obtain ⟨hbefore, -, hlast⟩ := List.pairwise_append.mp hclock
    have hsilent := silent_run parse serials nodup keys s es fun a ha => hlast a ha e (by simp)
    have hearlier := ih hbefore
    rw [Runs.last_snoc]
    unfold run at hsilent hearlier ⊢
    rw [Runs.exec_snoc]
    generalize Runs.exec (step parse) (init serials nodup keys) es = m at hsilent hearlier ⊢
    rw [unavailable_step, wentDown]
    cases hlogged : m.logged parse e s with
    | none =>
      cases hsighting : m.sighting parse e s with
      | true =>
        rw [logged_sighting m parse e s hsighting] at hlogged
        have hflag : m.unavailable s = false := by
          by_contra hdown
          rw [if_pos (by simpa using hdown)] at hlogged
          cases hlogged
        exact hflag
      | false => exact hearlier
    | some o =>
      rcases logged_cases m parse e s hlogged with ⟨rfl, -⟩ | ⟨rfl, -⟩
      · rw [if_pos rfl]
        rfl
      · rw [((m.logged_backOnline_iff parse e s hsilent).mp hlogged).1]
        rfl

end

/-- Nothing was heard of the device, and the monitor was not started with Bluetooth: the device has
no address, no sighting and no record. -/
structure Unheard (s : Serial) (m : Monitor) : Prop where
  startedAt : m.monitorStartedAt = none
  address : (m.states s).address = none
  lastSeen : (m.states s).lastSeen = none
  flag : m.unavailable s = false
  records : m.records s = []

theorem Unheard.step {m : Monitor} {parse : ParseBroadcast} {e : Timed} {s : Serial}
    (h : Unheard s m) (hstart : e.event ≠ .start true)
    (hquiet : ∀ info, e.event ≠ .advertisement info) : Unheard s (m.step parse e) := by
  have hevent : m.deviceEvent parse e.event s ≠ .start true := by
    intro hev
    have hsource := m.deviceEvent_source parse e.event s
    rw [hev] at hsource
    exact hstart hsource
  have hnew : ∀ history, (m.states s).newEntry history = none := by
    intro history
    simp [DanalockDeviceState.newEntry, h.address]
  have htaken : (m.states s).taken (m.deviceEvent parse e.event s) = none := by
    cases hev : m.deviceEvent parse e.event s with
    | accept report info => exact absurd (deviceEvent_accept hev).1 (hquiet info)
    | poll history => exact hnew history
    | _ => rfl
  have haddress : ((m.states s).step e.now (m.deviceEvent parse e.event s)).address = none := by
    cases hev : m.deviceEvent parse e.event s with
    | accept report info => exact absurd (deviceEvent_accept hev).1 (hquiet info)
    | poll history =>
      simp only [DanalockDeviceState.step, hnew]
      exact h.address
    | _ => exact h.address
  have hlogged : m.logged parse e s = none := by
    cases hlogged : m.logged parse e s with
    | none => rfl
    | some o =>
      rw [logged_device] at hlogged
      rcases Device.logs_cases _ _ hlogged with ⟨rfl, -, hcheck, hstale⟩ | ⟨-, hflag, -⟩
      · rw [← logged_device] at hlogged
        have hfinds := ((m.logged_unavailable_iff parse e s).mp hlogged).1
        rw [findsSilent_iff m parse] at hfinds
        simp [h.startedAt, h.lastSeen, withinStart] at hfinds
      · rw [device_unavailable, h.flag] at hflag
        cases hflag
  refine ⟨?_, ?_, ?_, ?_, ?_⟩
  · have hdevice := congrArg Device.monitorStartedAt (m.device_step parse e s)
    rw [Device.step_monitorStartedAt _ _ hevent] at hdevice
    exact hdevice.trans h.startedAt
  · rw [states_step]
    exact haddress
  · rw [states_step, DanalockDeviceState.step_lastSeen, htaken]
    exact h.lastSeen
  · rw [unavailable_step, hlogged]
    exact h.flag
  · rw [records_step, hlogged, h.records]
    rfl

theorem unheard_run (parse : ParseBroadcast) (serials : List Serial) (nodup : serials.Nodup)
    (keys : Serial → DeviceKey) (s : Serial) {es : List Timed} (hes : ∀ e ∈ es,
      e.event ≠ .start true ∧ ∀ info, e.event ≠ .advertisement info) :
    Unheard s (run serials nodup keys parse es) := by
  induction es using List.reverseRecOn with
  | nil => exact ⟨rfl, rfl, rfl, rfl, rfl⟩
  | append_singleton es e ih =>
    rw [run, Runs.exec_snoc]
    obtain ⟨hstart, hquiet⟩ := hes e (by simp)
    exact (ih fun a ha => hes a (List.mem_append_left _ ha)).step hstart hquiet

/-- **The availability records of a device**, in a run whose clock does not go back. They alternate
and begin with "unavailable". A step logs "unavailable" exactly if it is a stale check that finds
the device silent, and none has since the device was last logged as back; it logs "back online"
exactly if it is a sighting, and there was none since the device was logged as unavailable. A
monitor that was not started with Bluetooth and received no advertisement logs nothing. -/
theorem availability_log (parse : ParseBroadcast) (serials : List Serial) (nodup : serials.Nodup)
    (keys : Serial → DeviceKey) (s : Serial) (es : List Timed)
    (hclock : es.Pairwise fun a b => a.now ≤ b.now) :
    let m := run serials nodup keys parse es
    (∀ i o, (m.records s)[i]? = some o →
      o = if i % 2 = 0 then .unavailable s else .backOnline s) ∧
    (∀ e : Timed, (∀ a ∈ es, a.now ≤ e.now) →
      (m.step parse e).records s = m.records s ++ (m.logged parse e s).toList ∧
      (m.logged parse e s = some (.unavailable s) ↔ m.findsSilent e s = true ∧
        Runs.last (step parse) (foundSilent parse s) (init serials nodup keys) es ≠ some true) ∧
      (m.logged parse e s = some (.backOnline s) ↔ m.sighting parse e s = true ∧
        Runs.last (step parse) (wentDown parse s) (init serials nodup keys) es = some true)) ∧
    ((∀ e ∈ es, e.event ≠ .start true ∧ ∀ info, e.event ≠ .advertisement info) →
      m.records s = []) := by
  have hflag : ∀ o : Option Bool, o.getD false = true ↔ o = some true := by
    intro o
    cases o <;> simp
  refine ⟨(alternating_run parse serials nodup keys s es).records, fun e he => ⟨?_, ?_, ?_⟩,
    fun hes => (unheard_run parse serials nodup keys s hes).records⟩
  · exact records_step _ parse e s
  · rw [logged_unavailable_iff, ← Bool.not_eq_true, flag_foundSilent, hflag]
  · rw [logged_backOnline_iff _ parse e s (silent_run parse serials nodup keys s es he),
      flag_wentDown parse serials nodup keys s hclock, hflag]

/-- Started, heard, silent. -/
def outage : List Timed :=
  [atSecond 0 (.start true), atSecond 1 (.advertisement (exampleInfo 0)), atSecond 400 .checkStale]

theorem availability_log_outage :
    let m := run ["L1"] (by decide) exampleKeys exampleParse outage
    m.logged exampleParse (atSecond 410 (.advertisement (exampleInfo 1))) "L1" =
        some (.backOnline "L1") ↔
      m.sighting exampleParse (atSecond 410 (.advertisement (exampleInfo 1))) "L1" = true ∧
        Runs.last (step exampleParse) (wentDown exampleParse "L1")
          (init ["L1"] (by decide) exampleKeys) outage = some true :=
  ((availability_log exampleParse ["L1"] (by decide) exampleKeys "L1" outage (by decide)).2.1
    (atSecond 410 (.advertisement (exampleInfo 1))) (by decide)).2.2

end Monitor

end DanalockBle
