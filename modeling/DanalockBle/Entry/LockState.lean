import DanalockBle.Broadcast.SettingCache
import DanalockBle.Entry.Requests

/-!
# What the lock entity reports

The optimistic state of a device is written at two kinds of steps: the end of a lock or unlock
call in success, and an advertisement that advances the counter (`lockEvent`). A task writes it
in its last steps only, after which it does not suspend again and does not fail (`settling`), so
whatever happens in the middle of a call, the entity shows the last of these events.
-/

namespace DanalockBle

open Coroutine Coroutine.Coro

/-- The target that the operation makes the device's optimistic state. -/
def Op.target (serial : Serial) : Op → Option Bool
  | setPending s locked => if s = serial then some locked else none
  | _ => none

def Op.isWriteState : Op → Bool
  | writeState _ => true
  | _ => false

/-- A task that has set the optimistic state, which the ghost records, writes the entity and
ends. -/
@[reducible] def settling (serial : Serial) : Protocol sig where
  Ghost := Option Bool
  may g o := g.isSome = true → o.isWriteState = true
  after g o _ := some ((o.target serial).or g)

/-- A request has set the optimistic state when it is a successful lock or unlock call. -/
abbrev settled (serial : Serial) (req : Request) (r : Except PyErr Unit) (g : Option Bool) : Prop :=
  ∀ b, g = some b ↔ req = .lock serial b ∧ r = .ok ()

section
variable {serial : Serial} {α : Type}

/-- The coroutine does not touch the device's optimistic state. -/
abbrev SetsNothing (serial : Serial) (c : Py α) : Prop :=
  Only (fun o : Op => o.target serial = none) c

theorem Op.target_spares {o : Op} (h : o.isEntity = false) : o.target serial = none := by
  cases o with
  | setPending s locked => cases h
  | _ => rfl

theorem SetsNothing.meets {c : Py α} (h : SetsNothing serial c) :
    Meets (settling serial) none c fun _ g => g = none :=
  Only.meets (P := settling serial) (J := (· = none))
    (fun g o hg _ hs => by rw [hg] at hs; cases hs)
    (fun g o r g' hg ho hr => by
      simp only [ho, hg, Option.or_none, Option.some.injEq] at hr
      exact hr.symm) h rfl

/-- A request that is no lock call of the device sets nothing. -/
theorem prog_setsNothing {req : Request} (hreq : ∀ b, req ≠ .lock serial b) :
    SetsNothing serial req.prog := by
  refine prog_spares (fun _ => Op.target_spares) fun o ho => ?_
  cases o with
  | setPending s locked =>
    cases req with
    | lock s' locked' =>
      obtain rfl : s = s' := by simpa [Request.performs] using ho
      exact if_neg fun hs => hreq locked' (by rw [hs])
    | _ => cases ho
  | _ => rfl

/-- A lock or unlock call sets the optimistic state when it succeeds, and in no other case. -/
theorem lock_settled (locked : Bool) :
    Meets (settling serial) none (DanalockLockEntity.operate serial locked) fun r g =>
      ∀ b, g = some b ↔ locked = b ∧ r = .ok () := by
  refine ⟨nofun, fun bound g hb => ?_⟩
  obtain rfl : g = none := (Option.some.inj hb).symm
  cases bound with
  | false => exact fun b => ⟨nofun, fun h => nomatch h.2⟩
  | true =>
    refine ⟨nofun, fun _ g h1 => ?_⟩
    obtain rfl : g = none := (Option.some.inj h1).symm
    refine ⟨nofun, fun _ g h2 => ?_⟩
    obtain rfl : g = none := (Option.some.inj h2).symm
    have hop : SetsNothing serial (DanalockControl.operate serial locked) :=
      Only.mono (fun _ => Op.target_spares) (operate_sparesEntities serial locked)
    show Meets (settling serial) none
      (Coro.bind (Coro.tryExcept (DanalockControl.operate serial locked) _) _) _
    refine Meets.bind (Meets.tryExcept (hop.meets.mono fun r g hg => ?_))
    subst hg
    cases r with
    | ok u =>
      refine ⟨nofun, fun _ g h1 => ?_⟩
      cases h1
      refine ⟨nofun, fun _ g h2 => ?_⟩
      have hg : g = some locked := by simpa [Op.target] using h2.symm
      subst hg
      refine ⟨fun _ => rfl, fun _ g h3 b => ?_⟩
      cases h3
      simp [Op.target]
    | error err =>
      simp only
      split
      · refine ⟨nofun, fun _ g h1 => ?_⟩
        obtain rfl : g = none := (Option.some.inj h1).symm
        refine ⟨nofun, fun _ g h2 => ?_⟩
        obtain rfl : g = none := (Option.some.inj h2).symm
        exact fun b => ⟨nofun, fun h => nomatch h.2⟩
      · exact fun b => ⟨nofun, fun h => nomatch h.2⟩

theorem prog_settled (req : Request) :
    Meets (settling serial) none req.prog (settled serial req) := by
  by_cases hreq : ∃ b, req = .lock serial b
  · obtain ⟨locked, rfl⟩ := hreq
    exact (lock_settled locked).mono fun r g h b => by simpa using h b
  · have hno : ∀ b, req ≠ .lock serial b := fun b hb => hreq ⟨b, hb⟩
    exact (prog_setsNothing hno).meets.mono fun r g hg b =>
      ⟨fun hb => (by rw [hg] at hb; cases hb), fun hb => absurd hb.1 (hno b)⟩

end

/-! ## One step -/

/-- A waiting task has not set the optimistic state and does not wait to. -/
def Unsettled (serial : Serial) (Γ : View (settling serial)) : Prop :=
  ∀ t g o, Γ t = some (g, some o) → g = none ∧ o.target serial = none

section
variable {parse : ParseBroadcast} {serial : Serial} {Γ : View (settling serial)}

theorem Unsettled.update (h : Unsettled serial Γ) {t : TaskId}
    {p : Option (Option Bool × Option Op)}
    (hp : ∀ g o, p = some (g, some o) → g = none ∧ o.target serial = none) :
    Unsettled serial (Function.update Γ t p) :=
  (Function.forall_update_iff Γ fun _ p => ∀ g o, p = some (g, some o) →
    g = none ∧ o.target serial = none).mpr ⟨hp, fun t' _ => h t'⟩

/-- A task does not suspend at its writes. -/
theorem runOp_none (serial : Serial) {e : Entry} {t : TaskId} {o : Op} (h : e.runOp t o = none) :
    o.target serial = none ∧ o.isWriteState = false := by
  cases o with
  | setPending s locked => cases h
  | writeState s => cases h
  | _ => exact ⟨rfl, rfl⟩

theorem settled_keeps (parse : ParseBroadcast) (serial : Serial) :
    Keeps Request.prog (.any (entryMachine parse) Request) (settling serial) (fun _ => none)
      (settled serial) (fun _ Γ => Unsettled serial Γ) where
  meets req _ := prog_settled req
  spawn _ Γ t req hI _ _ := hI.update fun g o hp => by cases hp
  run s Γ t g o r s' hI hΓ _ _ _ _ := ⟨_, rfl, hI.update fun g o hp => by cases hp⟩
  park s Γ t g o hI hΓ hmay hr := by
    obtain ⟨htarget, hwrite⟩ := runOp_none serial hr
    refine hI.update fun g' o' hp => ?_
    cases hp
    refine ⟨?_, htarget⟩
    cases g with
    | none => rfl
    | some b =>
      rw [hmay rfl] at hwrite
      cases hwrite
  wake s Γ t g o r s' hI hΓ _ _ _ := ⟨_, rfl, hI.update fun g o hp => by cases hp⟩
  finish s Γ t req r g hI _ _ := hI.update fun g o hp => by cases hp
  env s Γ ev s' hI _ := hI

/-- The report that the step puts in place of the stored one. -/
def reportEvent (serial : Serial) (c : EntryConfig parse) (l : EntryLabel parse) :
    Option (Option BroadcastReport) :=
  match l with
  | .env (.monitor ev) => Monitor.reportEvent parse serial c.state.monitor ev
  | _ => none

/-- What the step makes of the device's optimistic state: a lock or unlock call that succeeds
sets it to its target, a report whose counter is ahead clears it. -/
def lockEvent (serial : Serial) (c : EntryConfig parse) (l : EntryLabel parse) :
    Option (Option Bool) :=
  match Config.outcome Request.prog c l with
  | some (.lock s locked, .ok _) => if s = serial then some (some locked) else none
  | _ => (reportEvent serial c l).map fun _ => none

/-- A task puts no report in place. -/
theorem reportEvent_task {c : EntryConfig parse} {l : EntryLabel parse} (hl : ∀ ev, l ≠ .env ev) :
    reportEvent serial c l = none := by
  cases l with
  | env ev => exact absurd rfl (hl ev)
  | _ => rfl

theorem step_pendingLocked {state : DanalockDeviceState} (now : Instant) {ev : DeviceEvent}
    (hev : ev.isOwn = true) : (state.step now ev).pendingLocked =
      ((state.reportEvent ev).map fun _ => none).getD state.pendingLocked := by
  cases ev with
  | accept report info =>
    rw [show state.step now (.accept report info) = state.accepted now report info from rfl,
      DanalockDeviceState.accepted_pendingLocked]
    by_cases hch : report.Ahead state.report
    · simp only [DanalockDeviceState.reportChanged_eq, DanalockDeviceState.reportEvent, hch,
        decide_true, if_true, Option.map_some, Option.getD_some]
    · simp only [DanalockDeviceState.reportChanged_eq, DanalockDeviceState.reportEvent, hch,
        decide_false, Bool.false_eq_true, if_false, Option.map_none, Option.getD_none]
  | poll history =>
    simp only [DanalockDeviceState.step]
    cases state.newEntry history <;> rfl
  | setPending locked => cases hev
  | applySettings settings => cases hev
  | _ => rfl

/-- What the environment makes of a device, and the report it puts in place. -/
theorem env_states (c : EntryConfig parse) (ev : EnvEvent) (serial : Serial) :
    ∃ now dev, DeviceEvent.isOwn dev = true ∧
      (Config.step Request.prog c (.env ev)).state.monitor.states serial =
        (c.state.monitor.states serial).step now dev ∧
      reportEvent serial c (.env ev) =
        ((c.state.monitor.states serial).reportEvent dev).map some := by
  rw [Config.step_env]
  have hquiet : ∀ e' : Entry, e'.monitor = c.state.monitor → reportEvent serial c (.env ev) = none →
      ∃ now dev, DeviceEvent.isOwn dev = true ∧
        e'.monitor.states serial = (c.state.monitor.states serial).step now dev ∧
        reportEvent serial c (.env ev) =
          ((c.state.monitor.states serial).reportEvent dev).map some := by
    intro e' hm hr
    exact ⟨0, .idle, rfl, by rw [hm]; rfl, hr⟩
  cases ev with
  | monitor tev =>
    by_cases hown : tev.event.isOwn = true
    · refine ⟨tev.now, _, c.state.monitor.deviceEvent_isOwn parse hown serial, ?_, rfl⟩
      simp only [Entry.envStep, hown, if_true, Option.getD_some]
      exact c.state.monitor.states_step parse tev serial
    · refine hquiet _ (by simp only [Entry.envStep, hown]; rfl) ?_
      obtain ⟨now, event⟩ := tev
      simp only [reportEvent, Monitor.reportEvent]
      cases event with
      | storeKey s key => rfl
      | setPending s locked => simp only [Monitor.deviceEvent]; split <;> rfl
      | applySettings s settings => simp only [Monitor.deviceEvent]; split <;> rfl
      | _ => exact absurd rfl hown
  | connect f deviceFor =>
    refine hquiet _ ?_ rfl
    simp only [Entry.envStep]
    split <;> rfl
  | drop f => exact hquiet _ rfl rfl
  | expire x => exact hquiet _ rfl rfl

/-- The stored report changes at accepted advertisements only. -/
theorem report_step (serial : Serial) (c : EntryConfig parse) (l : EntryLabel parse) :
    ((Config.step Request.prog c l).state.monitor.states serial).report =
      (reportEvent serial c l).getD (c.state.monitor.states serial).report := by
  by_cases hl : ∃ ev, l = .env ev
  · obtain ⟨ev, rfl⟩ := hl
    obtain ⟨now, dev, -, hstate, hreport⟩ := env_states c ev serial
    rw [hstate, hreport, DanalockDeviceState.step_report]
    cases (c.state.monitor.states serial).reportEvent dev <;> rfl
  · have hl' : ∀ ev, l ≠ .env ev := fun ev h => hl ⟨ev, h⟩
    rw [reportEvent_task hl', Entry.step_states (v := DanalockDeviceState.report) (fun _ _ => rfl)
      (fun _ _ => rfl) serial hl']
    rfl

theorem runOp_pendingLocked {e e' : Entry} {t : TaskId} {o : Op} {r : o.Res}
    (h : e.runOp t o = some (r, e')) : (e'.monitor.states serial).pendingLocked =
      (o.target serial).or (e.monitor.states serial).pendingLocked := by
  rw [Entry.runOp_states serial 0 h]
  cases o with
  | setPending s locked =>
    simp only [Op.deviceEvent, Op.target]
    by_cases hs : serial = s
    · subst hs
      simp [DanalockDeviceState.step]
    · simp [hs, Ne.symm hs, DanalockDeviceState.step]
  | applySettings s settings =>
    simp only [Op.deviceEvent]
    split <;> rfl
  | _ => rfl

/-- A request that ends sets the optimistic state as its ghost says. -/
theorem lockEvent_settled {c : EntryConfig parse} {l : EntryLabel parse} {req : Request}
    {r : Except PyErr Unit} (ho : Config.outcome Request.prog c l = some (req, r))
    {g : Option Bool} (hg : settled serial req r g) : lockEvent serial c l = g.map some := by
  have hreport : reportEvent serial c l = none :=
    reportEvent_task (Config.outcome_env Request.prog ho)
  cases g with
  | some b =>
    obtain ⟨rfl, rfl⟩ := (hg b).mp rfl
    simp only [lockEvent, ho, if_true, Option.map_some]
  | none =>
    have hno : ∀ b, ¬ (req = .lock serial b ∧ r = .ok ()) := fun b h => nomatch (hg b).mpr h
    simp only [lockEvent, ho, hreport, Option.map_none]
    split
    · next s locked u heq =>
      cases heq
      exact if_neg fun hs => hno locked ⟨by rw [hs], rfl⟩
    · rfl

/-- The optimistic state of a device where a task stops. -/
theorem pendingLocked_task {c : EntryConfig parse} {l : EntryLabel parse} (hI : Unsettled serial Γ)
    (hT : Tracks (settling serial) (settled serial) c Γ) {t : TaskId} {req : Request} {k : Py Unit}
    {e : Entry} (hs : Config.started Request.prog c l = some (t, req, k, e)) :
    ((Config.step Request.prog c l).state.monitor.states serial).pendingLocked =
      (lockEvent serial c l).getD (c.state.monitor.states serial).pendingLocked := by
  obtain ⟨g, -, hk, hperm, hg⟩ :=
    (settled_keeps parse serial).started hI hT (Config.allowed_any _ c l) hs
  have hnone : g = none := by
    rcases hg with rfl | ⟨g₀, o, r, hΓ, hafter⟩
    · rfl
    · obtain ⟨rfl, htarget⟩ := hI t g₀ o hΓ
      simpa [htarget] using hafter.symm
  subst hnone
  have hstart : (e.monitor.states serial).pendingLocked =
      (c.state.monitor.states serial).pendingLocked :=
    Config.started_view (v := fun e : Entry => (e.monitor.states serial).pendingLocked) Request.prog
      (fun t o r e e' hw => by simp only [Entry.wakeOp_monitor hw]) hs
  -- from here on the state is the one of the start unless the ghost says otherwise
  have hstops := advance_stops (M := entryMachine parse)
    (J := fun (e : Entry) (g : Option Bool) => (e.monitor.states serial).pendingLocked =
      g.or (c.state.monitor.states serial).pendingLocked)
    (fun e g o r e' hJ _ hr _ => ⟨_, rfl, by
      rw [runOp_pendingLocked hr, hJ, Option.or_assoc]⟩) (by rw [hstart]; rfl) hk hperm
  have hout : Config.outcome Request.prog c l =
      ((entryMachine parse).advance t k e).1.ended.map (req, ·) := by
    simp only [Config.outcome, hs]
  unfold Config.step
  simp only [hs, Config.put]
  generalize (entryMachine parse).advance t k e = stop at hstops hout ⊢
  cases hstops with
  | @waits g e' o f hJ hmeets hrun =>
    have hg : g = none := by
      cases g with
      | none => rfl
      | some b =>
        have hwrite := (runOp_none serial hrun).2
        rw [hmeets.1 rfl] at hwrite
        cases hwrite
    have hevent : lockEvent serial c l = none := by
      have hreport : reportEvent serial c l = none :=
        reportEvent_task (Config.started_env Request.prog hs)
      simp only [lockEvent, hout, Coro.ended, hreport, Option.map_none]
    subst hg
    simp only [Entry.parkOp_monitor, hevent]
    exact hJ
  | @ended g e' k' r hended hJ hg =>
    rw [hended] at hout
    rw [hJ, lockEvent_settled hout hg]
    cases g <;> rfl

/-- One step of the event loop writes the optimistic state as its event says. -/
theorem pendingLocked_step {c : EntryConfig parse} {l : EntryLabel parse} (hI : Unsettled serial Γ)
    (hT : Tracks (settling serial) (settled serial) c Γ) :
    ((Config.step Request.prog c l).state.monitor.states serial).pendingLocked =
      (lockEvent serial c l).getD (c.state.monitor.states serial).pendingLocked := by
  cases hs : Config.started Request.prog c l with
  | some p => exact pendingLocked_task hI hT hs
  | none =>
    have hout : Config.outcome Request.prog c l = none := by simp only [Config.outcome, hs]
    cases l with
    | env ev =>
      obtain ⟨now, dev, hown, hstate, hreport⟩ := env_states c ev serial
      rw [hstate, step_pendingLocked now hown]
      simp only [lockEvent, hout, hreport, Option.map_map]
      rfl
    | _ =>
      simp only [Config.step, hs, lockEvent, hout]
      rfl

/-- A task changes the optimistic state at the successful end of a lock call only. -/
theorem pendingLocked_of_not_lock {c : EntryConfig parse} {l : EntryLabel parse}
    (hI : Unsettled serial Γ) (hT : Tracks (settling serial) (settled serial) c Γ)
    (hl : ∀ ev, l ≠ .env ev)
    (ho : ∀ locked, Config.outcome Request.prog c l ≠ some (.lock serial locked, .ok ())) :
    ((Config.step Request.prog c l).state.monitor.states serial).pendingLocked =
      (c.state.monitor.states serial).pendingLocked := by
  have hreport : reportEvent serial c l = none := reportEvent_task hl
  have hevent : lockEvent serial c l = none := by
    simp only [lockEvent, hreport, Option.map_none]
    split
    · next s locked u heq => exact if_neg fun hs => ho locked (by rw [heq, hs])
    · rfl
  rw [pendingLocked_step hI hT, hevent]
  rfl

end

/-! ## Runs -/

section
variable (parse : ParseBroadcast) (serials : List Serial) (nodup : serials.Nodup)
  (keys : Serial → DeviceKey) (serial : Serial)

theorem run_unsettled (ls : List (EntryLabel parse)) :
    ∃ Γ, Unsettled serial Γ ∧ Tracks (settling serial) (settled serial)
      (EntryConfig.run parse serials nodup keys ls) Γ :=
  (settled_keeps parse serial).run_inv ⟨fun _ => none, nofun, Tracks.of_none fun _ => rfl⟩
    (Runs.Steps.of_forall (fun c l => Config.allowed_any _ c l) ls _)

theorem isLocked_eq (state : DanalockDeviceState) : DanalockLockEntity.isLocked state =
    state.pendingLocked.or (state.report.map (·.locked)) := by
  unfold DanalockLockEntity.isLocked
  cases state.pendingLocked with
  | some b => rfl
  | none => cases state.report <;> rfl

/-- A neutral broadcast replaces no report. -/
theorem reportEvent_neutral {m : Monitor} {ev : Timed} (h : m.neutral parse serial ev = true) :
    Monitor.reportEvent parse serial m ev = none := by
  obtain ⟨now, event⟩ := ev
  simp only [Monitor.reportEvent, Option.map_eq_none_iff]
  simp only [Monitor.neutral] at h
  cases event with
  | refreshStates history =>
    simp only [Monitor.deviceEvent]
    split <;> rfl
  | checkStale =>
    simp only [Monitor.deviceEvent]
    split <;> rfl
  | advertisement info =>
    simp only at h ⊢
    cases hev : m.deviceEvent parse (.advertisement info) serial with
    | accept report info' =>
      rw [hev] at h
      have hno : ¬ report.Ahead (m.states serial).report := by simpa using h
      exact if_neg hno
    | _ => rfl
  | _ => cases h

theorem pendingLocked_run (ls : List (EntryLabel parse)) :
    ((EntryConfig.run parse serials nodup keys ls).state.monitor.states serial).pendingLocked =
      (Runs.last (Config.step Request.prog) (lockEvent serial)
        (EntryConfig.init parse serials nodup keys) ls).getD none :=
  Runs.exec_view_inv
    (v := fun c : EntryConfig parse => (c.state.monitor.states serial).pendingLocked)
    (I := fun c => ∃ Γ, Unsettled serial Γ ∧ Tracks (settling serial) (settled serial) c Γ)
    (fun c l hc => (settled_keeps parse serial).step (Config.allowed_any _ c l) hc)
    (fun _ _ ⟨_, hI, hT⟩ => pendingLocked_step hI hT) ls
    ⟨fun _ => none, nofun, Tracks.of_none fun _ => rfl⟩

theorem report_run (ls : List (EntryLabel parse)) :
    ((EntryConfig.run parse serials nodup keys ls).state.monitor.states serial).report =
      (Runs.last (Config.step Request.prog) (reportEvent serial)
        (EntryConfig.init parse serials nodup keys) ls).getD none :=
  Runs.exec_view (v := fun c : EntryConfig parse => (c.state.monitor.states serial).report)
    (fun c l => report_step serial c l) ls _

/-- A neutral broadcast does not change what the entity shows. -/
theorem isLocked_neutral {c : EntryConfig parse} {Γ : View (settling serial)}
    (hI : Unsettled serial Γ) (hT : Tracks (settling serial) (settled serial) c Γ) {ev : Timed}
    (hev : c.state.monitor.neutral parse serial ev = true) :
    DanalockLockEntity.isLocked
        ((Config.step Request.prog c (.env (.monitor ev))).state.monitor.states serial) =
      DanalockLockEntity.isLocked (c.state.monitor.states serial) := by
  have hnone : reportEvent serial c (.env (.monitor ev)) = none :=
    reportEvent_neutral parse serial hev
  have hevent : lockEvent serial c (.env (.monitor ev)) = none := by
    show Option.map _ (reportEvent serial c (.env (.monitor ev))) = none
    rw [hnone]
    rfl
  rw [isLocked_eq, isLocked_eq, pendingLocked_step hI hT, report_step, hnone, hevent]
  rfl

/-- **What the lock entity reports.** After every run the entity shows the target of the last
lock or unlock call that succeeded if no report with its counter ahead has come since, and the
locked flag of the stored report otherwise; the stored report is the last whose counter was ahead
of the one before it, and the binary sensor shows its flag, never the optimistic state. The steps of
a task change nothing of this, except for the successful end of a lock call; neutral broadcasts
change nothing the entity shows. -/
theorem isLocked_run (ls : List (EntryLabel parse)) :
    let c := EntryConfig.run parse serials nodup keys ls
    let state := c.state.monitor.states serial
    DanalockLockEntity.isLocked state =
        ((Runs.last (Config.step Request.prog) (lockEvent serial)
          (EntryConfig.init parse serials nodup keys) ls).getD none).or
          (state.report.map (·.locked)) ∧
      state.report = (Runs.last (Config.step Request.prog) (reportEvent serial)
        (EntryConfig.init parse serials nodup keys) ls).getD none ∧
      DanalockLockStateBinarySensor.isOn state = state.report.map (!·.locked) ∧
      (∀ l, (∀ ev, l ≠ .env ev) →
        (∀ locked, Config.outcome Request.prog c l ≠ some (.lock serial locked, .ok ())) →
        ((Config.step Request.prog c l).state.monitor.states serial).pendingLocked =
            state.pendingLocked ∧
          ((Config.step Request.prog c l).state.monitor.states serial).report = state.report) ∧
      ∀ ev, c.state.monitor.neutral parse serial ev = true →
        DanalockLockEntity.isLocked
            ((Config.step Request.prog c (.env (.monitor ev))).state.monitor.states serial) =
          DanalockLockEntity.isLocked state := by
  intro c state
  obtain ⟨Γ, hI, hT⟩ := run_unsettled parse serials nodup keys serial ls
  refine ⟨?_, report_run parse serials nodup keys serial ls, ?_, fun l hl ho => ⟨?_, ?_⟩,
    fun ev hev => isLocked_neutral parse serial hI hT hev⟩
  · rw [isLocked_eq, pendingLocked_run parse serials nodup keys serial ls]
  · unfold DanalockLockStateBinarySensor.isOn
    cases state.report <;> rfl
  · exact pendingLocked_of_not_lock hI hT hl ho
  · exact Entry.step_states (v := DanalockDeviceState.report) (fun _ _ => rfl) (fun _ _ => rfl)
      serial hl

end

/-- A locked device is heard, then unlocked. -/
def unlocked : List (EntryLabel exampleParse) :=
  [.env (.monitor (atSecond 1 (.advertisement (exampleInfo 0)))), .spawn 0 (.lock "L1" false),
    .env (.connect ⟨"L1", 0⟩ fun _ _ => some ()), .resume 0 done, .resume 0 done]

theorem isLocked_unlocked :
    DanalockLockEntity.isLocked ((EntryConfig.run exampleParse ["L1"] (by decide) exampleKeys
      unlocked).state.monitor.states "L1") = some false :=
  (isLocked_run exampleParse ["L1"] (by decide) exampleKeys "L1" unlocked).1.trans (by decide)

end DanalockBle
