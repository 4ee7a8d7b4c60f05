import DanalockBle.Broadcast.Run

/-!
# Dispatch of advertisements

Which device an advertisement reaches. The serial of a report is cleartext: under any key that
decodes a payload it is the same (`ClearSerial`), so at most one device decodes a payload to its own
serial, and the order in which the keys are tried does not matter.
-/

namespace DanalockBle

/-- The serial of a report depends on the payload alone. -/
def ParseBroadcast.ClearSerial (parse : ParseBroadcast) : Prop :=
  ∃ serialOf : Bytes → Serial, ∀ payload key report,
    parse payload key = some report → report.serial = serialOf payload

namespace Monitor

variable (m : Monitor) (parse : ParseBroadcast)

/-- The device's own current key decodes the advertisement to a report of the device. -/
def Decodes (info : ServiceInfo) (serial : Serial) (report : BroadcastReport) : Prop :=
  serial ∈ m.serials ∧ ∃ payload, info.payload = some payload ∧
    parse payload (m.keys serial).broadcastKey = some report ∧ report.serial = serial

/-- The key dictionary in another order. -/
def reorder (order : List Serial) (h : order.Perm m.serials) : Monitor :=
  { m with serials := order, nodup := h.nodup_iff.mpr m.nodup }

section
variable {m parse} {info : ServiceInfo} {serial : Serial} {report : BroadcastReport}

theorem decodes_of_matching (h : info.payload.bind (m.matching parse) = some (serial, report)) :
    m.Decodes parse info serial report := by
  obtain ⟨payload, hpayload, hmatch⟩ := Option.bind_eq_some_iff.mp h
  obtain ⟨hmem, hparse, hserial⟩ := matching_some hmatch
  exact ⟨hmem, payload, hpayload, hparse, hserial⟩

/-- No two devices decode an advertisement. -/
theorem Decodes.unique (hparse : parse.ClearSerial) (h : m.Decodes parse info serial report)
    {serial' : Serial} {report' : BroadcastReport}
    (h' : m.Decodes parse info serial' report') : serial' = serial ∧ report' = report := by
  obtain ⟨serialOf, hclear⟩ := hparse
  obtain ⟨-, payload, hpayload, hdecode, hown⟩ := h
  obtain ⟨-, payload', hpayload', hdecode', hown'⟩ := h'
  obtain rfl : payload = payload' := Option.some.inj (hpayload.symm.trans hpayload')
  have hsame : serial' = serial := by
    rw [← hown', ← hown, hclear _ _ _ hdecode', hclear _ _ _ hdecode]
  subst hsame
  exact ⟨rfl, Option.some.inj (hdecode'.symm.trans hdecode)⟩

/-- The dispatch finds the device that decodes the advertisement. -/
theorem matching_eq_some_iff (hparse : parse.ClearSerial) :
    info.payload.bind (m.matching parse) = some (serial, report) ↔
      m.Decodes parse info serial report := by
  refine ⟨decodes_of_matching, fun h => ?_⟩
  cases hmatch : info.payload.bind (m.matching parse) with
  | some p =>
    obtain ⟨rfl, rfl⟩ := h.unique hparse (decodes_of_matching hmatch)
    rfl
  | none =>
    obtain ⟨hmem, payload, hpayload, hdecode, hown⟩ := h
    rw [hpayload, Option.bind_some, matching, List.findSome?_eq_none_iff] at hmatch
    have hnone := hmatch serial hmem
    simp [hdecode, hown] at hnone

theorem matching_eq_none_iff (hparse : parse.ClearSerial) :
    info.payload.bind (m.matching parse) = none ↔
      ∀ serial report, ¬ m.Decodes parse info serial report := by
  constructor
  · intro hnone serial report h
    rw [(matching_eq_some_iff hparse).mpr h] at hnone
    cases hnone
  · intro h
    cases hmatch : info.payload.bind (m.matching parse) with
    | none => rfl
    | some p => exact absurd (decodes_of_matching hmatch) (h p.1 p.2)

/-- The order of the keys does not matter to who decodes an advertisement, so neither does it to
who is found. -/
theorem matching_perm (hparse : parse.ClearSerial) (info : ServiceInfo) {m' : Monitor}
    (hserials : m'.serials.Perm m.serials) (hkeys : m'.keys = m.keys) :
    info.payload.bind (m'.matching parse) = info.payload.bind (m.matching parse) := by
  have hdecodes : ∀ serial report,
      m'.Decodes parse info serial report ↔ m.Decodes parse info serial report := by
    intro serial report
    unfold Decodes
    rw [hserials.mem_iff, hkeys]
  cases hmatch : info.payload.bind (m.matching parse) with
  | none =>
    have hnone := (matching_eq_none_iff hparse).mp hmatch
    exact (matching_eq_none_iff hparse).mpr fun serial report hd =>
      hnone serial report ((hdecodes serial report).mp hd)
  | some p =>
    exact (matching_eq_some_iff hparse).mpr
      ((hdecodes p.1 p.2).mpr (decodes_of_matching hmatch))

end

/-! ## One acceptance -/

end Monitor

/-- The acceptance tells the listeners: the counter is ahead, the signal has changed, or the device
was not fresh. -/
def Device.Announces (d : Device) (now : Instant) (report : BroadcastReport) (info : ServiceInfo) :
    Prop :=
  report.Ahead d.state.report ∨ d.state.rssi ≠ some info.rssi ∨ d.state.isFresh now = false

instance (d : Device) (now : Instant) (report : BroadcastReport) (info : ServiceInfo) :
    Decidable (d.Announces now report info) := instDecidableOr

/-- What a device takes up of an advertisement: its signal and the time always, its report if the
counter is ahead. -/
structure Accepted (now : Instant) (report : BroadcastReport) (info : ServiceInfo)
    (d d' : Device) : Prop where
  lastSeen : d'.state.lastSeen = some now
  rssi : d'.state.rssi = some info.rssi
  address : d'.state.address = some info.address
  lastInfo : d'.state.lastInfo = some info
  stored : d'.state.report =
    if report.Ahead d.state.report then some report else d.state.report
  pendingLocked : d'.state.pendingLocked =
    if report.Ahead d.state.report then none else d.state.pendingLocked
  settingValues : ∀ name, d'.state.settingValues name =
    if report.Ahead d.state.report then
      (DanalockDeviceState.transition (DanalockDeviceState.wasOn d.state.report name)
        (DanalockDeviceState.flagOn report name)).getD (d.state.settingValues name)
    else d.state.settingValues name
  listeners : d'.listeners = d.listeners
  available : d'.unavailable = false
  notified : d'.notified = (decide (d.Announces now report info) || d.notified)
  /-- the device comes back online, then the listeners are told -/
  out : d'.out = d.out ++ (if d.unavailable then [.backOnline d.serial] else []) ++
    if d.Announces now report info then d.listeners.map (.call d.serial) else []

namespace Device

theorem accept_announces (d : Device) (now : Instant) (report : BroadcastReport)
    (info : ServiceInfo) :
    (d.state.reportChanged report || d.state.rssi != some info.rssi || !d.state.isFresh now) =
      decide (d.Announces now report info) := by
  rw [DanalockDeviceState.reportChanged_eq, Bool.eq_iff_iff, decide_eq_true_eq]
  simp only [Bool.or_eq_true, decide_eq_true_eq, bne_iff_ne, Bool.not_eq_true', or_assoc]
  exact Iff.rfl

theorem sync_of_fresh (d : Device) (now : Instant) (h : d.state.isFresh now = true) :
    d.sync now = { d with
      unavailable := false
      out := d.out ++ if d.unavailable then [.backOnline d.serial] else [] } := by
  unfold sync
  rw [if_pos h]
  cases hun : d.unavailable with
  | true => rfl
  | false =>
    rw [if_neg Bool.false_ne_true, if_neg Bool.false_ne_true, List.append_nil, ← hun]

theorem accept_accepted (d : Device) (now : Instant) (report : BroadcastReport)
    (info : ServiceInfo) : Accepted now report info d (d.accept now report info) := by
  have hstate := d.accept_state now report info
  have hgate := d.state.reportChanged_eq report
  have haccept : d.accept now report info = { d with
      state := d.state.accepted now report info
      unavailable := false
      notified := decide (d.Announces now report info) || d.notified
      out := d.out ++ (if d.unavailable then [.backOnline d.serial] else []) ++
        if d.Announces now report info then d.listeners.map (.call d.serial) else [] } := by
    unfold accept
    rw [accept_announces, sync_of_fresh _ _ (DanalockDeviceState.isFresh_of_seen rfl)]
    by_cases h : d.Announces now report info
    · simp only [h, decide_true, if_true, Bool.true_or]
      rfl
    · simp only [h, decide_false, Bool.false_eq_true, if_false, Bool.false_or, List.append_nil]
  constructor
  · rw [hstate]
    rfl
  · rw [hstate]
    rfl
  · rw [hstate]
    rfl
  · rw [hstate]
    rfl
  · rw [hstate, DanalockDeviceState.accepted_report, hgate]
    simp only [decide_eq_true_eq]
  · rw [hstate, DanalockDeviceState.accepted_pendingLocked, hgate]
    simp only [decide_eq_true_eq]
  · intro name
    rw [hstate, DanalockDeviceState.accepted_settingValues, hgate]
    simp only [decide_eq_true_eq]
  all_goals rw [haccept]

end Device

namespace Monitor

/-! ## One advertisement -/

variable (m : Monitor) (parse : ParseBroadcast)

/-- The monitor with another key order and another debug log flag. -/
def reconfigured (serials : List Serial) (nodup : serials.Nodup) (logged : Bool) : Monitor :=
  { m with serials := serials, nodup := nodup, loggedDecodeFailure := logged }

section
variable (serials : List Serial) (nodup : serials.Nodup) (logged : Bool) (now : Instant)
  (serial : Serial)

theorem reconfigured_of_serials (h : m.serials = serials) :
    m.reconfigured serials nodup logged = { m with loggedDecodeFailure := logged } := by
  subst h
  rfl

theorem syncAvailability_reconfigured :
    (m.reconfigured serials nodup logged).syncAvailability now serial =
      (m.syncAvailability now serial).reconfigured serials nodup logged := by
  have hstates : (m.reconfigured serials nodup logged).states = m.states := rfl
  have hflags : (m.reconfigured serials nodup logged).unavailable = m.unavailable := rfl
  have hstart : (m.reconfigured serials nodup logged).monitorStartedAt = m.monitorStartedAt := rfl
  unfold syncAvailability
  simp only [hstates, hflags, hstart]
  split_ifs <;> rfl

/-- The acceptance of a report reads neither. -/
theorem accept_reconfigured (report : BroadcastReport) (info : ServiceInfo) :
    (m.reconfigured serials nodup logged).accept now serial report info =
      (m.accept now serial report info).reconfigured serials nodup logged := by
  have hsync := syncAvailability_reconfigured
    (m.setState serial ((m.states serial).accepted now report info)) serials nodup logged now serial
  have hstates : (m.reconfigured serials nodup logged).states = m.states := rfl
  have hset : ∀ state, (m.reconfigured serials nodup logged).setState serial state =
      (m.setState serial state).reconfigured serials nodup logged := fun _ => rfl
  unfold accept
  simp only [hstates, hset, hsync]
  split_ifs <;> rfl

end

section
variable {m parse} {now : Instant} {info : ServiceInfo} {serial : Serial}
  {report : BroadcastReport}

/-- The monitor after the acceptance by the device that is found. -/
def dispatched (m : Monitor) (parse : ParseBroadcast) (now : Instant) (info : ServiceInfo) :
    Monitor :=
  match info.payload.bind (m.matching parse) with
  | none => m
  | some (serial, report) => m.accept now serial report info

/-- **The dispatch in any order of the keys**: what it leaves is what the acceptance by the device
that is found leaves, the order and the debug log flag aside. -/
theorem handleAdvertisement_reorder (hparse : parse.ClearSerial) (m : Monitor) (now : Instant)
    (info : ServiceInfo) {order : List Serial} (h : order.Perm m.serials) :
    ∃ logged, (m.reorder order h).handleAdvertisement parse now info =
      (m.dispatched parse now info).reconfigured order (h.nodup_iff.mpr m.nodup) logged := by
  obtain ⟨logged, heq⟩ := (m.reorder order h).handleAdvertisement_eq parse now info
  have hmatch : info.payload.bind ((m.reorder order h).matching parse) =
      info.payload.bind (m.matching parse) := matching_perm hparse info h rfl
  refine ⟨logged, heq.trans ?_⟩
  unfold dispatched
  rw [hmatch]
  cases info.payload.bind (m.matching parse) with
  | none => rfl
  | some p => exact m.accept_reconfigured order _ logged now p.1 p.2 info

theorem handleAdvertisement_dispatched (hparse : parse.ClearSerial) (m : Monitor) (now : Instant)
    (info : ServiceInfo) :
    ∃ logged, m.handleAdvertisement parse now info =
      (m.dispatched parse now info).reconfigured m.serials m.nodup logged :=
  handleAdvertisement_reorder hparse m now info (.refl m.serials)

theorem dispatched_of_decodes (hparse : parse.ClearSerial)
    (h : m.Decodes parse info serial report) :
    m.dispatched parse now info = m.accept now serial report info := by
  unfold dispatched
  rw [(matching_eq_some_iff hparse).mpr h]

theorem dispatched_of_none (hparse : parse.ClearSerial)
    (h : ∀ serial report, ¬ m.Decodes parse info serial report) :
    m.dispatched parse now info = m := by
  unfold dispatched
  rw [(matching_eq_none_iff hparse).mpr h]

end

/-! ## Runs -/

/-- Two monitors with the same keys, in any order, and the same devices. -/
structure SameDevices (m m' : Monitor) : Prop where
  serials : m'.serials.Perm m.serials
  keys : m'.keys = m.keys
  device : ∀ s, m'.device s = m.device s

namespace SameDevices

variable {parse : ParseBroadcast} {m m' : Monitor}

theorem deviceEvent (hparse : parse.ClearSerial) (h : SameDevices m m') (event : Event)
    (s : Serial) : m'.deviceEvent parse event s = m.deviceEvent parse event s := by
  cases event with
  | advertisement info =>
    simp only [Monitor.deviceEvent, matching_perm hparse info h.serials h.keys]
  | refreshStates history => simp only [Monitor.deviceEvent, h.serials.mem_iff]
  | checkStale => simp only [Monitor.deviceEvent, h.serials.mem_iff]
  | _ => rfl

theorem step (hparse : parse.ClearSerial) (h : SameDevices m m') (e : Timed) :
    SameDevices (m.step parse e) (m'.step parse e) where
  serials := by
    rw [serials_step, serials_step]
    exact h.serials
  keys := by
    have hconfig := congrArg Prod.snd (m.config_step parse e)
    have hconfig' := congrArg Prod.snd (m'.config_step parse e)
    refine hconfig'.trans (Eq.trans ?_ hconfig.symm)
    have hkeys := h.keys
    cases e.event with
    | storeKey serial key => exact congrArg (Function.update · serial key) hkeys
    | _ => exact hkeys
  device s := by
    rw [device_step, device_step, h.device, h.deviceEvent hparse]

/-- They stay so along any run. -/
theorem exec (hparse : parse.ClearSerial) (h : SameDevices m m') (es : List Timed) :
    SameDevices (Runs.exec (Monitor.step parse) m es) (Runs.exec (Monitor.step parse) m' es) := by
  induction es generalizing m m' with
  | nil => exact h
  | cons e es ih => exact ih (h.step hparse e)

end SameDevices

end Monitor

open Monitor in
/-- **Dispatch of an advertisement**, for a parser whose reports carry a cleartext serial. A state
changes only if its device's own key decodes the advertisement to its serial. Such a device takes
up the report once and no other device is touched; without one nothing happens. In another order
of the keys the same happens, and every run leaves every device the same. The debug log flag is
left out. -/
theorem dispatch_correct {parse : ParseBroadcast} (hparse : parse.ClearSerial) (m : Monitor)
    (now : Instant) (info : ServiceInfo) :
    let m' := m.handleAdvertisement parse now info
    (∀ s, m'.states s ≠ m.states s → ∃ report, m.Decodes parse info s report) ∧
    (∀ s report, m.Decodes parse info s report →
      (∃ logged, m' = { m.accept now s report info with loggedDecodeFailure := logged }) ∧
        Accepted now report info (m.device s) (m'.device s) ∧
        ∀ other, other ≠ s → m'.device other = m.device other) ∧
    ((∀ s report, ¬ m.Decodes parse info s report) →
      ∃ logged, m' = { m with loggedDecodeFailure := logged }) ∧
    ∀ (order : List Serial) (h : order.Perm m.serials),
      (let m'' := (m.reorder order h).handleAdvertisement parse now info
       m''.states = m'.states ∧ m''.notified = m'.notified ∧ m''.unavailable = m'.unavailable ∧
         m''.listeners = m'.listeners ∧ m''.out = m'.out) ∧
      ∀ es s, (Runs.exec (Monitor.step parse) (m.reorder order h) es).device s =
        (Runs.exec (Monitor.step parse) m es).device s := by
  obtain ⟨logged, heq⟩ := handleAdvertisement_dispatched hparse m now info
  have hdevice : ∀ s, (m.handleAdvertisement parse now info).device s =
      (m.dispatched parse now info).device s := fun s => by rw [heq]; rfl
  have hother : ∀ s report, m.Decodes parse info s report → ∀ other, other ≠ s →
      (m.handleAdvertisement parse now info).device other = m.device other := by
    intro s report hd other hne
    rw [hdevice, dispatched_of_decodes hparse hd, device_accept, if_neg hne]
  have hnone : (∀ s report, ¬ m.Decodes parse info s report) →
      m.handleAdvertisement parse now info = { m with loggedDecodeFailure := logged } := by
    intro hno
    rw [heq, dispatched_of_none hparse hno]
    rfl
  refine ⟨fun s hchanged => ?_, fun s report hd => ⟨⟨logged, ?_⟩, ?_, hother s report hd⟩,
    fun hno => ⟨logged, hnone hno⟩, fun order h => ⟨?_, fun es s => ?_⟩⟩
  · by_contra hno
    by_cases hsome : ∃ other report, m.Decodes parse info other report
    · obtain ⟨other, report, hd⟩ := hsome
      have hne : s ≠ other := by
        rintro rfl
        exact hno ⟨report, hd⟩
      exact hchanged (congrArg Device.state (hother other report hd s hne))
    · push Not at hsome
      rw [hnone hsome] at hchanged
      exact hchanged rfl
  · rw [heq, dispatched_of_decodes hparse hd]
    exact reconfigured_of_serials _ _ _ _ (Prod.mk.inj (config_accept m now s report info)).1
  · rw [hdevice, dispatched_of_decodes hparse hd, device_accept, if_pos rfl]
    exact (m.device s).accept_accepted now report info
  · obtain ⟨logged', heq'⟩ := handleAdvertisement_reorder hparse m now info h
    simp only [heq, heq']
    exact ⟨rfl, rfl, rfl, rfl, rfl⟩
  · have hsame : SameDevices m (m.reorder order h) := ⟨h, rfl, fun _ => rfl⟩
    exact (hsame.exec hparse es).device s

/-- A payload is the byte of a serial and what the right key has to equal. -/
def sealedParse : ParseBroadcast
  | id :: secret, key =>
    if key = secret then some ⟨if id = 1 then "L1" else "L2", 5, true, []⟩ else none
  | [], _ => none

theorem sealedParse_clearSerial : sealedParse.ClearSerial := by
  refine ⟨fun payload => if payload.head? = some 1 then "L1" else "L2",
    fun payload key report h => ?_⟩
  cases payload with
  | nil => cases h
  | cons id secret =>
    simp only [sealedParse] at h
    split at h
    · cases h
      simp
    · cases h

/-- Two locks under one broadcast key. -/
def equalKeys : Monitor :=
  .init ["L2", "L1"] (by decide) fun _ => ⟨[], [7]⟩

/-- An advertisement of the first lock. -/
def sealedInfo : ServiceInfo := ⟨0, "AA:BB", -60, [(manufacturerId, [1, 7])]⟩

theorem dispatch_correct_equalKeys :
    (∃ logged, equalKeys.handleAdvertisement sealedParse 9 sealedInfo =
      { equalKeys.accept 9 "L1" ⟨"L1", 5, true, []⟩ sealedInfo with
        loggedDecodeFailure := logged }) ∧
    Accepted 9 ⟨"L1", 5, true, []⟩ sealedInfo (equalKeys.device "L1")
      ((equalKeys.handleAdvertisement sealedParse 9 sealedInfo).device "L1") ∧
    ∀ other, other ≠ "L1" →
      (equalKeys.handleAdvertisement sealedParse 9 sealedInfo).device other =
        equalKeys.device other :=
  (dispatch_correct sealedParse_clearSerial equalKeys 9 sealedInfo).2.1 "L1" ⟨"L1", 5, true, []⟩
    ⟨by decide, [1, 7], by decide, by decide, by decide⟩

end DanalockBle
