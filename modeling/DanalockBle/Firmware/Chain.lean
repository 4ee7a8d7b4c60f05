import DanalockBle.Firmware.System

/-!
# The firmware schedule

A run of the firmware update entity follows the phases of a timer chain (`follows_step`): the
timer of the next cycle is armed, one cycle runs, or the chain has ended. So cycles and timers are
never stacked (`oneChain_run`). The chain ends when the entity is removed, and also when a call of a
cycle ends in an exception that the cycle does not handle, for then nothing arms the next timer
(`schedule_alive`). A cycle in flight at the removal still sees `hass` and arms a timer when it
finishes (`removed_quiet`).
-/

namespace DanalockBle

open Coroutine Coroutine.Coro TimerChain DanalockFirmwareUpdateEntity

/-- The coroutine waits for the cloud or for the lock. -/
def Awaits : Fw Unit → Prop
  | .op .latestFirmware _ => True
  | .op .deviceInformation _ => True
  | _ => False

/-- The call ended in a value, or in an exception that the cycle handles. -/
def handledEnd : (o : FirmwareOp) → o.Res → Bool
  | .latestFirmware, .error err => err.isCloud || err.isRuntimeError
  | .deviceInformation, .error err => err.isException
  | _, _ => true

/-- The call is the last one of its cycle, which then has an outcome. -/
def finishesCycle (e : FirmwareEntity) : (o : FirmwareOp) → o.Res → Bool
  | .latestFirmware, .ok latest => versionsEqual e.values.installedVersion (some latest.version)
  | .latestFirmware, .error err => err.isCloud || err.isRuntimeError
  | .deviceInformation, .ok _ => true
  | .deviceInformation, .error err => err.isException
  | _, _ => false

namespace FirmwareConfig

/-- The task is between the start and the end of a cycle. -/
def InCycle (c : FirmwareConfig) (t : TaskId) : Prop :=
  match c.tasks t with
  | some (_, k) => Awaits k
  | none => False

theorem inCycle_put (c : FirmwareConfig) (t : TaskId) (req : FirmwareRequest)
    (p : Fw Unit × FirmwareEntity) (t' : TaskId) :
    InCycle (c.put t req p) t' ↔ if t' = t then Awaits p.1 else InCycle c t' := by
  by_cases ht : t' = t
  · subst ht
    rw [if_pos rfl, InCycle, Config.put_self]
    obtain ⟨k, e⟩ := p
    cases k <;> exact Iff.rfl
  · rw [if_neg ht, InCycle, InCycle, Config.put_other c ht]

theorem not_inCycle {c : FirmwareConfig} {t : TaskId} (ht : c.tasks t = none) : ¬ InCycle c t := by
  rw [InCycle, ht]
  exact id

/-- A task that has ended is in no cycle. -/
theorem not_awaits {k : Fw Unit} (hk : k.ended.isSome = true) : ¬ Awaits k := by
  cases k with
  | op o f => cases hk
  | _ => exact id

theorem after_ended (serial : Serial) (req : FirmwareRequest) (outcome : CycleOutcome) :
    (req.after serial outcome).ended.isSome = true := by
  cases req with
  | update =>
    obtain ⟨delay, failed, error⟩ := outcome
    cases failed <;> rfl
  | _ => rfl

variable (versionDot : VersionDot) (serial : Serial)

/-- The chain of the entity is in the phase, and its tasks wait inside cycles. -/
structure Follows (c : FirmwareConfig) (p : ChainPhase Nat TaskId) : Prop where
  phase : InChain c.state.timers c.state.unsubCycle c.InCycle p
  flag : c.state.cycleInFlight = p.isRunning
  waits : ∀ t req k, c.tasks t = some (req, k) →
    k = probing versionDot serial req Fw.latestFirmware ∨
      k = reading versionDot serial req Fw.deviceInformation

namespace Follows

variable {versionDot serial} {c : FirmwareConfig} {p q : ChainPhase Nat TaskId} {t : TaskId}
  {req : FirmwareRequest} {k : Fw Unit} {e : FirmwareEntity}

/-- A task waits in a cycle. -/
theorem inCycle (h : Follows versionDot serial c p) (ht : c.tasks t = some (req, k)) :
    c.InCycle t := by
  rw [InCycle, ht]
  rcases h.waits t req k ht with rfl | rfl <;> trivial

/-- The task that waits is the one in the cycle. -/
theorem running (h : Follows versionDot serial c p) (ht : c.tasks t = some (req, k)) :
    p = .running t := by
  have hin := h.inCycle ht
  have hphase := h.phase
  cases p with
  | armed i x => exact absurd hin (hphase.2.2 t)
  | running k => rw [(hphase.2 t).mp hin]
  | ended => exact absurd hin (hphase.2 t)

/-- A task stops inside a cycle, or has ended. -/
theorem put (h : Follows versionDot serial c p)
    (hk : k = probing versionDot serial req Fw.latestFirmware ∨
      k = reading versionDot serial req Fw.deviceInformation ∨ k.ended.isSome = true)
    (hphase : InChain e.timers e.unsubCycle (fun t' => if t' = t then Awaits k else c.InCycle t') q)
    (hflag : e.cycleInFlight = q.isRunning) :
    Follows versionDot serial (c.put t req (k, e)) q where
  phase := hphase.congr fun t' => inCycle_put c t req (k, e) t'
  flag := hflag
  waits t' req' k' ht' := by
    by_cases ht : t' = t
    · subst ht
      rw [Config.put_self] at ht'
      rcases hk with rfl | rfl | hk
      · cases ht'
        exact .inl rfl
      · cases ht'
        exact .inr rfl
      · cases k with
        | op o f => cases hk
        | _ => cases ht'
    · rw [Config.put_other c ht] at ht'
      exact h.waits t' req' k' ht'

/-- A task ends that was in no cycle. -/
theorem rest (h : Follows versionDot serial c p) (ht : ¬ c.InCycle t)
    (hk : k.ended.isSome = true) (hphase : InChain e.timers e.unsubCycle c.InCycle q)
    (hflag : e.cycleInFlight = q.isRunning) : Follows versionDot serial (c.put t req (k, e)) q := by
  refine h.put (.inr (.inr hk)) (hphase.congr fun t' => ?_) hflag
  by_cases hne : t' = t
  · subst hne
    rw [if_pos rfl]
    exact iff_of_false (not_awaits hk) ht
  · rw [if_neg hne]

/-- A task starts a cycle. -/
theorem start (h : Follows versionDot serial c p) (hidle : ∀ t', ¬ c.InCycle t')
    (hpending : e.timers.pending = []) :
    Follows versionDot serial
      (c.put t req (probing versionDot serial req Fw.latestFirmware, e.startCycle))
      (.running t) := by
  refine h.put (.inl rfl) ⟨hpending, fun t' => ?_⟩ rfl
  show (if t' = t then _ else _) ↔ _
  by_cases hne : t' = t
  · rw [if_pos hne]
    exact iff_of_true trivial hne
  · rw [if_neg hne]
    exact iff_of_false (hidle t') hne

/-- The task in the cycle goes on to the lock. -/
theorem contact (h : Follows versionDot serial c (.running t)) (htimers : e.timers = c.state.timers)
    (hflag : e.cycleInFlight = true) :
    Follows versionDot serial
      (c.put t req (reading versionDot serial req Fw.deviceInformation, e)) (.running t) := by
  refine h.put (.inr (.inl rfl)) ⟨htimers ▸ h.phase.1, fun t' => ?_⟩ hflag
  show (if t' = t then _ else _) ↔ _
  by_cases hne : t' = t
  · rw [if_pos hne]
    exact iff_of_true trivial hne
  · rw [if_neg hne]
    exact h.phase.2 t'

/-- The task in the cycle ends. -/
theorem finish (h : Follows versionDot serial c (.running t)) (hk : k.ended.isSome = true)
    (hphase : InChain e.timers e.unsubCycle (fun _ => False) q)
    (hflag : e.cycleInFlight = q.isRunning) : Follows versionDot serial (c.put t req (k, e)) q := by
  refine h.put (.inr (.inr hk)) (hphase.congr fun t' => ?_) hflag
  by_cases hne : t' = t
  · rw [if_pos hne]
    exact iff_of_false (not_awaits hk) id
  · rw [if_neg hne]
    exact iff_of_false (fun hin => hne ((h.phase.2 t').mp hin)) id

end Follows

/-! ## One step -/

/-- **What a step does to the chain**, and what each move comes from. -/
structure Moves (c : FirmwareConfig) (l : FirmwareLabel) (p : ChainPhase Nat TaskId) (m : Move)
    (q : ChainPhase Nat TaskId) (c' : FirmwareConfig) : Prop where
  step : p.Step m q
  follows : Follows versionDot serial c' q
  probes : c'.state.probes = c.state.probes + if m = .start then 1 else 0
  armed : c'.state.timers.armed = c.state.timers.armed + if m = .rearm then 1 else 0
  hass : (∀ t, l ≠ .spawn t .abort) → c'.state.hass = c.state.hass
  start : m = .start → (∃ i x, p = .armed i x) ∨ ∃ t, l = .spawn t .update
  rearm : m = .rearm → ∃ o r, c.Ends l o r ∧ finishesCycle c.state o r = true
  lose : m = .lose → c.state.hass = false ∨ ∃ o r, c.Ends l o r ∧ handledEnd o r = false
  cancel : m = .cancel → c.state.hass = false ∨ ∃ t, l = .spawn t .remove

section
variable {versionDot serial} {c : FirmwareConfig} {l : FirmwareLabel} {p q : ChainPhase Nat TaskId}
  {t : TaskId} {req : FirmwareRequest} {e : FirmwareEntity}

/-- A step that changes neither the timers nor the cycle. -/
theorem Moves.stay {c' : FirmwareConfig} (h : Follows versionDot serial c' p)
    (hprobes : c'.state.probes = c.state.probes)
    (harmed : c'.state.timers.armed = c.state.timers.armed)
    (hhass : (∀ t, l ≠ .spawn t .abort) → c'.state.hass = c.state.hass) :
    Moves versionDot serial c l p .stay p c' where
  step := .stay p
  follows := h
  probes := hprobes
  armed := harmed
  hass := hhass
  start := nofun
  rearm := nofun
  lose := nofun
  cancel := nofun

/-- The kept timer is cancelled. -/
theorem Moves.cancelled {c' : FirmwareConfig} (h : Follows versionDot serial c p)
    (hrunning : p.isRunning = false) (hended : Follows versionDot serial c' .ended)
    (hprobes : c'.state.probes = c.state.probes)
    (harmed : c'.state.timers.armed = c.state.timers.armed) (hhass : c'.state.hass = c.state.hass)
    (hcancel : c.state.hass = false ∨ ∃ t, l = .spawn t .remove) :
    ∃ m q, Moves versionDot serial c l p m q c' := by
  cases p with
  | armed i x =>
    exact ⟨.cancel, .ended, .cancel i x, hended, hprobes, harmed, fun _ => hhass, nofun, nofun,
      nofun, fun _ => hcancel⟩
  | running k => cases hrunning
  | ended => exact ⟨.stay, .ended, .stay hended hprobes harmed fun _ => hhass⟩

/-- A cycle that starts. -/
theorem Moves.started {c' : FirmwareConfig} (h : Follows versionDot serial c p)
    (hrunning : p.isRunning = false) (hfollows : Follows versionDot serial c' (.running t))
    (hprobes : c'.state.probes = c.state.probes + 1)
    (harmed : c'.state.timers.armed = c.state.timers.armed) (hhass : c'.state.hass = c.state.hass)
    (hstart : (∃ i x, p = .armed i x) ∨ ∃ t, l = .spawn t .update) :
    Moves versionDot serial c l p .start (.running t) c' := by
  refine ⟨?_, hfollows, hprobes, harmed, fun _ => hhass, fun _ => hstart, nofun, nofun, nofun⟩
  cases p with
  | armed i x => exact .run i x t
  | running k => cases hrunning
  | ended => exact .revive t

/-- The cycle ends without a next one. -/
theorem Moves.lost {c' : FirmwareConfig} (hended : Follows versionDot serial c' .ended)
    (hprobes : c'.state.probes = c.state.probes)
    (harmed : c'.state.timers.armed = c.state.timers.armed) (hhass : c'.state.hass = c.state.hass)
    (hlose : c.state.hass = false ∨ ∃ o r, c.Ends l o r ∧ handledEnd o r = false) :
    Moves versionDot serial c l (.running t) .lose .ended c' where
  step := .lose t
  follows := hended
  probes := hprobes
  armed := harmed
  hass := fun _ => hhass
  start := nofun
  rearm := nofun
  lose := fun _ => hlose
  cancel := nofun

/-- A request calls a cycle while no timer is armed. -/
theorem Moves.called (h : Follows versionDot serial c p) (ht : c.tasks t = none)
    (hpending : e.timers.pending = []) (harmed : e.timers.armed = c.state.timers.armed)
    (hprobes : e.probes = c.state.probes) (hhass : e.hass = c.state.hass)
    (hflag : e.cycleInFlight = c.state.cycleInFlight)
    (hstart : (∃ i x, p = .armed i x) ∨ ∃ t, l = .spawn t .update) :
    ∃ m q, Moves versionDot serial c l p m q
      (c.put t req
        (firmwareMachine.advance t ((asyncCycle versionDot).bind (req.after serial)) e)) := by
  have hfree := not_inCycle ht
  have hended := after_ended serial req ⟨firmwarePollInterval, false, none⟩
  have hflag' : e.cycleInFlight = p.isRunning := hflag.trans h.flag
  rw [started_cycle]
  cases hrunning : p.isRunning with
  | true =>
    -- the cycle in flight re-arms the timer itself
    rw [if_neg fun hc => by rw [hflag', hrunning] at hc; cases hc.2]
    refine ⟨.stay, p, .stay (h.rest hfree hended ?_ hflag') hprobes harmed fun _ => hhass⟩
    cases p with
    | running k => exact ⟨hpending, h.phase.2⟩
    | _ => cases hrunning
  | false =>
    have hidle := h.phase.no_cycle hrunning
    cases hpresent : c.state.hass with
    | true =>
      rw [if_pos ⟨hhass.trans hpresent, hflag'.trans hrunning⟩]
      exact ⟨.start, .running t, .started h hrunning (h.start hidle hpending)
        (congrArg (· + 1) hprobes) harmed hhass hstart⟩
    | false =>
      rw [if_neg fun hc => by rw [hhass, hpresent] at hc; cases hc.1]
      exact Moves.cancelled h hrunning
        (h.rest hfree hended ⟨hpending, hidle⟩ (hflag'.trans hrunning)) hprobes harmed
        hhass (.inl hpresent)

/-- The call of a cycle ends. -/
theorem Moves.resumed (h : Follows versionDot serial c (.running t))
    {p : CycleProgress × FirmwareEntity} (htimers : p.2.timers = c.state.timers)
    (hhass : p.2.hass = c.state.hass) (hprobes : p.2.probes = c.state.probes)
    (hflag : p.2.cycleInFlight = c.state.cycleInFlight)
    {o : FirmwareOp} {r : o.Res} (hends : c.Ends l o r)
    (hfinish : ∀ outcome, p.1 = .finish outcome → finishesCycle c.state o r = true)
    (hfail : ∀ err, p.1 = .fail err → handledEnd o r = false) :
    ∃ m q, Moves versionDot serial c l (.running t) m q
      (c.put t req (CycleProgress.task versionDot serial req p)) := by
  obtain ⟨progress, e⟩ := p
  simp only at htimers hhass hprobes hflag hfinish hfail
  have hpending : e.timers.pending = [] := htimers ▸ h.phase.1
  have hlost : InChain e.timers e.unsubCycle (fun _ : TaskId => False) .ended :=
    ⟨hpending, fun _ => id⟩
  cases progress with
  | contact =>
    exact ⟨.stay, .running t, .stay (h.contact htimers (hflag.trans h.flag)) hprobes
      (congrArg Timers.armed htimers) fun _ => hhass⟩
  | fail err =>
    exact ⟨.lose, .ended, .lost (h.finish rfl hlost rfl) hprobes (congrArg Timers.armed htimers)
      hhass (.inr ⟨o, r, hends, hfail err rfl⟩)⟩
  | finish outcome =>
    have hended := after_ended serial req (e.reported outcome)
    rw [CycleProgress.task, FirmwareEntity.endCycle]
    cases hpresent : e.hass with
    | true =>
      refine ⟨.rearm, .armed e.timers.armed outcome.nextDelay, .rearm t _ _,
        h.finish hended ⟨?_, rfl, fun _ => id⟩ rfl, hprobes, ?_, fun _ => hpresent.symm.trans hhass,
        by rintro ⟨⟩, fun _ => ⟨o, r, hends, hfinish outcome rfl⟩, by rintro ⟨⟩, by rintro ⟨⟩⟩
      · exact e.timers.arm_of_nil hpending _
      · show e.timers.armed + 1 = c.state.timers.armed + 1
        rw [htimers]
    | false =>
      exact ⟨.lose, .ended, .lost (h.finish hended hlost rfl) hprobes
        (congrArg Timers.armed htimers) (hpresent.symm.trans hhass) (.inl (hhass ▸ hpresent))⟩

/-- A request that is spawned. -/
theorem Moves.spawned (h : Follows versionDot serial c p) (ht : c.tasks t = none)
    (hreq : ∀ lastState, req ≠ .added lastState) :
    ∃ m q, Moves versionDot serial c (.spawn t req) p m q
      (c.put t req (firmwareMachine.advance t (req.prog versionDot serial) c.state)) := by
  have hfree := not_inCycle ht
  cases req with
  | added lastState => exact absurd rfl (hreq lastState)
  | fire i =>
    rw [started_fire]
    cases hf : c.state.timers.find i with
    | none =>
      rw [Timers.cancel_of_find_none _ hf]
      exact ⟨.stay, p, .stay (h.rest hfree rfl h.phase h.flag) rfl rfl fun _ => rfl⟩
    | some x =>
      obtain ⟨hp, hpending⟩ := h.phase.fires hf
      exact Moves.called h ht hpending rfl rfl rfl rfl (.inl ⟨i, x, hp⟩)
  | update =>
    rw [started_update]
    exact Moves.called h ht (FirmwareEntity.cancelKept_pending h.phase) (by simp) (by simp)
      (by simp) (by simp) (.inr ⟨t, rfl⟩)
  | remove =>
    rw [started_remove]
    have hpending := FirmwareEntity.cancelKept_pending h.phase
    have hflag : c.state.cancelKept.cycleInFlight = p.isRunning := by simp [h.flag]
    cases hrunning : p.isRunning with
    | true =>
      refine ⟨.stay, p, .stay (h.rest hfree rfl ?_ hflag) (by simp [Config.put])
        (by simp [Config.put]) fun _ => by simp [Config.put]⟩
      cases p with
      | running k => exact ⟨hpending, h.phase.2⟩
      | _ => cases hrunning
    | false =>
      exact Moves.cancelled h hrunning
        (h.rest hfree rfl ⟨hpending, h.phase.no_cycle hrunning⟩ (hflag.trans hrunning))
        (by simp [Config.put]) (by simp [Config.put]) (by simp [Config.put]) (.inr ⟨t, rfl⟩)
  | write => exact ⟨.stay, p, .stay (h.rest hfree rfl h.phase h.flag) rfl rfl fun _ => rfl⟩
  | abort =>
    exact ⟨.stay, p, .stay (h.rest hfree rfl h.phase h.flag) rfl rfl fun hl => absurd rfl (hl t)⟩

/-- A call of the cycle ends. -/
theorem Moves.woken (h : Follows versionDot serial c p) {o : FirmwareOp} {f : o.Res → Fw Unit}
    {r : o.Res} (ht : c.tasks t = some (req, .op o f)) (hends : c.Ends l o r) :
    ∃ m q, Moves versionDot serial c l p m q
      (c.put t req (firmwareMachine.advance t (f r) c.state)) := by
  obtain rfl := h.running ht
  rcases h.waits t req _ ht with hk | hk
  · rw [probing_wait] at hk
    cases hk
    rw [resumed_probe]
    cases r with
    | ok latest =>
      refine Moves.resumed h rfl rfl rfl rfl hends (fun outcome ho => ?_) fun err he => ?_
      · simp only [FirmwareEntity.probeEnded] at ho
        split at ho
        · next hv => exact hv
        · cases ho
      · simp only [FirmwareEntity.probeEnded] at he
        split at he <;> cases he
    | error err =>
      refine Moves.resumed h rfl rfl rfl rfl hends (fun outcome ho => ?_) fun err he => ?_
      · simp only [FirmwareEntity.probeEnded] at ho
        simp only [finishesCycle]
        split at ho
        · next hc => simp [hc]
        · split at ho
          · next hr => simp [hr]
          · cases ho
      · simp only [FirmwareEntity.probeEnded] at he
        simp only [handledEnd]
        split at he
        · cases he
        · next hc =>
          split at he
          · cases he
          · next hr => simp [hc, hr]
  · rw [reading_wait] at hk
    cases hk
    rw [resumed_read]
    cases r with
    | ok info =>
      refine Moves.resumed h rfl rfl rfl rfl hends (fun outcome ho => rfl) fun err he => ?_
      cases he
    | error err =>
      refine Moves.resumed h rfl rfl rfl rfl hends (fun outcome ho => ?_) fun err he => ?_
      · simp only [FirmwareEntity.readEnded] at ho
        split at ho
        · next hx => exact hx
        · cases ho
      · simp only [FirmwareEntity.readEnded] at he
        simp only [handledEnd]
        split at he
        · cases he
        · next hx => simpa using hx

/-- **One step of the entity is a move of its chain.** -/
theorem follows_step (h : Follows versionDot serial c p)
    (hl : ∀ t lastState, l ≠ .spawn t (.added lastState)) :
    ∃ m q, Moves versionDot serial c l p m q
      (Config.step (FirmwareRequest.prog versionDot serial) c l) := by
  unfold Config.step
  cases hs : Config.started (FirmwareRequest.prog versionDot serial) c l with
  | none =>
    cases l with
    | env ev => exact nomatch ev
    | _ => exact ⟨.stay, p, .stay h rfl rfl fun _ => rfl⟩
  | some start =>
    obtain ⟨t, req, k, e⟩ := start
    rcases Config.started_cases _ hs with
      ⟨rfl, ht, rfl, rfl⟩ | ⟨reply, o, f, r, rfl, htask, hr, hwake, rfl⟩
    · exact Moves.spawned h ht fun lastState hreq => hl t lastState (by rw [hreq])
    · have hstate : e = c.state := by
        cases o with
        | latestFirmware => cases hwake; rfl
        | deviceInformation => cases hwake; rfl
        | _ => cases hwake
      subst hstate
      exact Moves.woken h htask ⟨t, reply, req, f, rfl, htask, hr⟩

end

/-! ## Runs -/

end FirmwareConfig

/-- A timer fires, a forced check starts, or a call ends. -/
def FirmwareLabel.isCheck : FirmwareLabel → Bool
  | .spawn _ (.fire _) | .spawn _ .update | .resume _ _ => true
  | _ => false

/-- Home Assistant adds the entity. -/
def FirmwareLabel.isAdd : FirmwareLabel → Bool
  | .spawn _ (.added _) => true
  | _ => false

namespace FirmwareConfig

variable {versionDot serial}

theorem ne_add {l : FirmwareLabel} (hl : l.isAdd = false) (t : TaskId)
    (lastState : Option FirmwareValues) : l ≠ .spawn t (.added lastState) := by
  rintro rfl
  cases hl

variable (versionDot serial) in
/-- The first cycle runs when the entity is added. -/
theorem follows_init (lastState : Option FirmwareValues) :
    Follows versionDot serial (init versionDot serial lastState) (.running 0) := by
  have hempty : Follows versionDot serial empty .ended :=
    ⟨⟨rfl, fun _ => id⟩, rfl, nofun⟩
  cases lastState with
  | none => exact hempty.start (e := {}) (fun _ => id) rfl
  | some attributes =>
    exact hempty.start (e := { values := {
      installedVersion := restored attributes.installedVersion
      latestVersion := restored attributes.latestVersion
      firmwareIdentifier := restored attributes.firmwareIdentifier
      hardwareVersion := restored attributes.hardwareVersion
      maturity := restored attributes.maturity } }) (fun _ => id) rfl

/-- Every run follows a phase. -/
theorem follows_exec {c : FirmwareConfig} {p : ChainPhase Nat TaskId}
    (h : Follows versionDot serial c p) {ls : List FirmwareLabel}
    (hls : ls.all (!·.isAdd) = true) :
    ∃ q, Follows versionDot serial
      (Runs.exec (Config.step (FirmwareRequest.prog versionDot serial)) c ls) q := by
  induction ls generalizing c p with
  | nil => exact ⟨p, h⟩
  | cons l ls ih =>
    rw [List.all_cons, Bool.and_eq_true, Bool.not_eq_true'] at hls
    obtain ⟨m, q, hm⟩ := follows_step h (ne_add hls.1)
    exact ih hm.follows hls.2

/-- After the removal hook no timer is armed. -/
theorem follows_remove {c : FirmwareConfig} {p : ChainPhase Nat TaskId} {t : TaskId}
    (h : Follows versionDot serial c p) (ht : c.tasks t = none) :
    ∃ q, Follows versionDot serial
      (Config.step (FirmwareRequest.prog versionDot serial) c (.spawn t .remove)) q ∧
        ∀ i x, q ≠ .armed i x := by
  obtain ⟨m, q, hm⟩ := follows_step h (ne_add (l := .spawn t .remove) rfl)
  refine ⟨q, hm.follows, fun i x hq => ?_⟩
  have hstarted : Config.started (FirmwareRequest.prog versionDot serial) c (.spawn t .remove) =
      some (t, .remove, FirmwareRequest.remove.prog versionDot serial, c.state) := by
    simp only [Config.started, ht, Option.isNone_none, if_true]
  have hstate : (Config.step (FirmwareRequest.prog versionDot serial) c (.spawn t .remove)).state =
      c.state.cancelKept := by
    simp only [Config.step, hstarted, started_remove, Config.put]
  have hphase := hm.follows.phase
  rw [hq, hstate] at hphase
  cases (FirmwareEntity.cancelKept_pending h.phase).symm.trans hphase.1

end FirmwareConfig

section
variable (versionDot : VersionDot) (serial : Serial) (lastState : Option FirmwareValues)

/-- **One chain, never stacked.** After any run of an added entity at most one task is inside a
cycle, at most one timer of the entity is armed, none while a cycle runs, and `_unsub_cycle` is the
handle of the armed one. -/
theorem oneChain_run (ls : List FirmwareLabel) (hls : ls.all (!·.isAdd) = true) :
    let c := FirmwareConfig.run versionDot serial lastState ls
    (∀ t t', c.InCycle t → c.InCycle t' → t = t') ∧ c.state.timers.pending.length ≤ 1 ∧
      (∀ t, c.InCycle t → c.state.timers.pending = []) ∧
      ∀ h delay, (h, delay) ∈ c.state.timers.pending → c.state.unsubCycle = some h := by
  obtain ⟨p, hp⟩ := FirmwareConfig.follows_exec
    (FirmwareConfig.follows_init versionDot serial lastState) hls
  refine ⟨fun t t' ht ht' => hp.phase.one_cycle ht ht', hp.phase.one_timer,
    fun t ht => hp.phase.no_timer ht, fun h delay hmem => hp.phase.kept hmem⟩

end

def exampleDot : VersionDot := fun v => s!"{v.1}.{v.2.1}.{v.2.2}"

/-- The cloud answers, or the call raises. -/
def cloud (r : Except PyErr FirmwareVersion) : (o : FirmwareOp) → Option o.Res
  | .latestFirmware => some r
  | _ => none

/-- The lock answers, or the call raises. -/
def lockReads (r : Except PyErr DeviceInformation) : (o : FirmwareOp) → Option o.Res
  | .deviceInformation => some r
  | _ => none

def exampleLatest : FirmwareVersion := ⟨"D1", "production", "1.2.3"⟩

def exampleInformation : DeviceInformation := ⟨(4, 1, 7), (1, 2, 3), "D1"⟩

/-- Two forced checks overlap, after the first cycle was answered. -/
def forcedTwice : List FirmwareLabel :=
  [.resume 0 (cloud (.error (.cloudError "no route"))), .spawn 1 .update, .spawn 2 .update,
    .resume 1 (cloud (.ok exampleLatest)), .resume 1 (lockReads (.ok exampleInformation))]

theorem oneChain_forcedTwice :
    (FirmwareConfig.run exampleDot "L1" none forcedTwice).state.timers.pending.length ≤ 1 :=
  (oneChain_run exampleDot "L1" none forcedTwice (by decide)).2.1

/-! ## Alive -/

/-- No call of a cycle ends in an exception that the cycle does not handle, and the entity is not
removed. -/
def scheduleGuard : Guard firmwareMachine FirmwareRequest where
  spawn
    | .fire _ | .update | .write => true
    | _ => false
  op _ o r _ := handledEnd o r

section
variable (versionDot : VersionDot) (serial : Serial) (lastState : Option FirmwareValues)

/-- **The schedule is not lost** in a run in which every call of a cycle ends in a value or in an
exception that the cycle handles: while no cycle runs, a timer is armed. -/
theorem schedule_alive (ls : List FirmwareLabel)
    (hls : Runs.Steps (Config.step (FirmwareRequest.prog versionDot serial))
      (fun c l => Config.allowed (FirmwareRequest.prog versionDot serial) scheduleGuard c l = true)
      (FirmwareConfig.init versionDot serial lastState) ls)
    (hidle : ∀ t, ¬ (FirmwareConfig.run versionDot serial lastState ls).InCycle t) :
    (FirmwareConfig.run versionDot serial lastState ls).state.timers.pending ≠ [] := by
  have hinv := hls.inv (I := fun c => c.state.hass = true ∧
    ∃ p, FirmwareConfig.Follows versionDot serial c p ∧ p ≠ .ended) (fun c l hc hG => ?_)
    ⟨by cases lastState <;> rfl, _, FirmwareConfig.follows_init versionDot serial lastState, nofun⟩
  · obtain ⟨-, p, hp, halive⟩ := hinv
    rcases hp.phase.alive halive with ⟨t, ht⟩ | hpending
    · exact absurd ht (hidle t)
    · exact hpending
  · obtain ⟨hhass, p, hp, halive⟩ := hc
    have hspawn : ∀ t req, l = .spawn t req → scheduleGuard.spawn req = true := by
      rintro t req rfl
      exact Config.allowed_spawn _ hG
    obtain ⟨m, q, hm⟩ := FirmwareConfig.follows_step hp fun t state hl => by
      cases hspawn t _ hl
    have hpresent := (hm.hass fun t hl => by cases hspawn t _ hl).trans hhass
    refine ⟨hpresent, q, hm.follows, hm.step.goesOn halive (fun hlose => ?_) fun hcancel => ?_⟩
    · rcases hm.lose hlose with hgone | ⟨o, r, hends, hraised⟩
      · rw [hhass] at hgone
        cases hgone
      · obtain ⟨t, hop⟩ := Config.allowed_ends _ hG hends
        rw [show scheduleGuard.op t o r c.state = handledEnd o r from rfl, hraised] at hop
        cases hop
    · rcases hm.cancel hcancel with hgone | ⟨t, hl⟩
      · rw [hhass] at hgone
        cases hgone
      · cases hspawn t _ hl

end

theorem schedule_alive_forcedTwice :
    (FirmwareConfig.run exampleDot "L1" none forcedTwice).state.timers.pending ≠ [] :=
  schedule_alive exampleDot "L1" none forcedTwice (by decide)
    fun t => FirmwareConfig.not_inCycle
      (FirmwareConfig.run_ended exampleDot "L1" 3 (by decide) (by decide) (by decide) t)

/-- The first cycle's probe raises an exception of another class. -/
def malformedAnswer : List FirmwareLabel :=
  [.resume 0 (cloud (.error (.other "KeyError" "version")))]

/-- Nothing arms the timer of the next cycle. -/
theorem schedule_lost_malformedAnswer :
    ¬ ∀ ls : List FirmwareLabel,
      ls.all (·.isCheck) = true →
      (∀ t, ¬ (FirmwareConfig.run exampleDot "L1" none ls).InCycle t) →
      (FirmwareConfig.run exampleDot "L1" none ls).state.timers.pending ≠ [] := by
  intro h
  exact h malformedAnswer (by decide)
    (fun t => FirmwareConfig.not_inCycle
      (FirmwareConfig.run_ended exampleDot "L1" 1 (by decide) (by decide) (by decide) t))
    (by decide)

/-! ## After the removal -/

/-- A cycle in flight does not get its outcome. -/
def removedGuard : Guard firmwareMachine FirmwareRequest where
  spawn
    | .added _ => false
    | _ => true
  op _ o r e := !finishesCycle e o r

/-- A forced check finds a cycle in flight. -/
def joinsCycle (c : FirmwareConfig) : FirmwareLabel → Bool
  | .spawn _ .update => c.state.cycleInFlight
  | _ => true

section
variable (versionDot : VersionDot) (serial : Serial) (lastState : Option FirmwareValues)

/-- **The removal ends the chain** when no cycle in flight gets its outcome after it and no forced
check starts a cycle: no timer is armed and no probe is sent. -/
theorem removed_quiet (ls : List FirmwareLabel) (t : TaskId) (ls' : List FirmwareLabel)
    (hls : ls.all (!·.isAdd) = true)
    (ht : (FirmwareConfig.run versionDot serial lastState ls).tasks t = none)
    (hls' : Runs.Steps (Config.step (FirmwareRequest.prog versionDot serial))
      (fun c l => Config.allowed (FirmwareRequest.prog versionDot serial) removedGuard c l = true ∧
        joinsCycle c l = true)
      (FirmwareConfig.run versionDot serial lastState (ls ++ [.spawn t .remove])) ls') :
    let removed := FirmwareConfig.run versionDot serial lastState (ls ++ [.spawn t .remove])
    let c := FirmwareConfig.run versionDot serial lastState (ls ++ [.spawn t .remove] ++ ls')
    c.state.timers.pending = [] ∧ c.state.timers.armed = removed.state.timers.armed ∧
      c.state.probes = removed.state.probes := by
  intro removed c
  have hc : c = Runs.exec (Config.step (FirmwareRequest.prog versionDot serial)) removed ls' :=
    Runs.exec_append
  obtain ⟨p, hp⟩ := FirmwareConfig.follows_exec
    (FirmwareConfig.follows_init versionDot serial lastState) hls
  have hremoved : ∃ q, FirmwareConfig.Follows versionDot serial removed q ∧
      ∀ i x, q ≠ .armed i x := by
    have hsnoc : removed = Config.step (FirmwareRequest.prog versionDot serial)
        (FirmwareConfig.run versionDot serial lastState ls) (.spawn t .remove) := Runs.exec_snoc
    rw [hsnoc]
    exact FirmwareConfig.follows_remove hp ht
  have hinv := hls'.inv (I := fun c => c.state.timers.armed = removed.state.timers.armed ∧
    c.state.probes = removed.state.probes ∧
    ∃ q, FirmwareConfig.Follows versionDot serial c q ∧ ∀ i x, q ≠ .armed i x)
    (fun c l hc hG => ?_) ⟨rfl, rfl, hremoved⟩
  · rw [← hc] at hinv
    obtain ⟨harmed, hprobes, q, hq, hidle⟩ := hinv
    exact ⟨hq.phase.pending_nil hidle, harmed, hprobes⟩
  · obtain ⟨harmed, hprobes, q, hq, hidle⟩ := hc
    obtain ⟨hG, hjoins⟩ := hG
    have hadd : ∀ t state, l ≠ .spawn t (.added state) := by
      rintro t state rfl
      cases Config.allowed_spawn _ hG
    obtain ⟨m, q', hm⟩ := FirmwareConfig.follows_step hq hadd
    have hrearm : m ≠ .rearm := by
      intro hrearm
      obtain ⟨o, r, hends, hfinish⟩ := hm.rearm hrearm
      obtain ⟨t, hop⟩ := Config.allowed_ends _ hG hends
      rw [show removedGuard.op t o r c.state = !finishesCycle c.state o r from rfl, hfinish] at hop
      cases hop
    have hstart : m ≠ .start := by
      rintro rfl
      rcases hm.start rfl with ⟨i, x, hq'⟩ | ⟨t, rfl⟩
      · exact hidle i x hq'
      · have hflag := hq.flag
        rw [show c.state.cycleInFlight = true from hjoins] at hflag
        have hstep := hm.step
        cases hstep <;> cases hflag
    refine ⟨?_, ?_, q', hm.follows, hm.step.idle hidle hrearm⟩
    · rw [hm.armed, if_neg hrearm, Nat.add_zero, harmed]
    · rw [hm.probes, if_neg hstart, Nat.add_zero, hprobes]

end

/-- A cycle in flight at the removal, cancelled while it waits for the cloud. -/
theorem removed_quiet_cancelled :
    let removed := FirmwareConfig.run exampleDot "L1" none ([] ++ [.spawn 1 .remove])
    let c := FirmwareConfig.run exampleDot "L1" none
      ([] ++ [.spawn 1 .remove] ++ [.resume 0 (cloud (.error .cancelledError))])
    c.state.timers.pending = [] ∧ c.state.timers.armed = removed.state.timers.armed ∧
      c.state.probes = removed.state.probes :=
  removed_quiet exampleDot "L1" none [] 1 [.resume 0 (cloud (.error .cancelledError))] (by decide)
    (by decide) (by decide)

/-- A cycle in flight at the removal arms a timer when the closed cloud client has answered it. -/
theorem removed_rearms_closedClient :
    ¬ ∀ (ls : List FirmwareLabel) (t : TaskId) (ls' : List FirmwareLabel),
      ls.all (·.isCheck) = true → ls'.all (·.isCheck) = true →
      (FirmwareConfig.run exampleDot "L1" none ls).tasks t = none →
      let removed := FirmwareConfig.run exampleDot "L1" none (ls ++ [.spawn t .remove])
      let c := FirmwareConfig.run exampleDot "L1" none (ls ++ [.spawn t .remove] ++ ls')
      c.state.timers.pending = [] ∧ c.state.timers.armed = removed.state.timers.armed ∧
        c.state.probes = removed.state.probes := by
  intro h
  have hquiet := h [] 1 [.resume 0 (cloud (.error (.runtimeError "client is closed")))]
    (by decide) (by decide) rfl
  exact absurd hquiet.1 (by decide)

end DanalockBle
