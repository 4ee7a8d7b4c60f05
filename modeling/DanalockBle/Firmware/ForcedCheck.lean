import DanalockBle.Firmware.Results
import Mathlib.Data.List.Induction

/-!
# What a forced check reports

The cycles of an entity are numbered by the probes they send. `verdict` says how a cycle of the run
ended, and `servedBy` which cycle serves a forced check: the one it runs, or the one in flight that
it joins. A check that joins a cycle returns before that cycle has ended (`falseSuccess_joined`); a
check that runs its own reports what the cycle came to (`forcedCheck_reports`).
-/

namespace DanalockBle

open Coroutine Coroutine.Coro TimerChain DanalockFirmwareUpdateEntity

namespace FirmwareConfig

/-- The cycle ends in the step: whether its probe succeeded and, when the versions diverged, its
lock read too. -/
def cycleEnd (c : FirmwareConfig) (l : FirmwareLabel) : Option Bool :=
  match probeEnd c l, readEnd c l with
  | some (_, .ok latest), _ =>
    if versionsEqual c.state.values.installedVersion (some latest.version) then some true else none
  | some (_, .error _), _ => some false
  | none, some (_, .ok _) => some true
  | none, some (_, .error _) => some false
  | none, none => none

/-- How the cycle with the number ends in the step. -/
def endsCycle (n : Nat) (c : FirmwareConfig) (l : FirmwareLabel) : Option Bool :=
  if c.state.probes = n then cycleEnd c l else none

/-- The number of the cycle that serves a forced check that starts now. -/
def serving (c : FirmwareConfig) : Nat :=
  if c.state.cycleInFlight then c.state.probes else c.state.probes + 1

/-- The cycle that serves the forced check that the task starts in the step. -/
def startsCheck (t : TaskId) (c : FirmwareConfig) : FirmwareLabel → Option Nat
  | .spawn t' .update => if t' = t ∧ (c.tasks t).isNone = true then some (serving c) else none
  | _ => none

section
variable (versionDot : VersionDot) (serial : Serial) (lastState : Option FirmwareValues)

/-- How the cycle with the number ended in the run. -/
def verdict (ls : List FirmwareLabel) (n : Nat) : Option Bool :=
  Runs.last (Config.step (FirmwareRequest.prog versionDot serial)) (endsCycle n)
    (init versionDot serial lastState) ls

/-- The cycle that serves the last forced check of the task. -/
def servedBy (ls : List FirmwareLabel) (t : TaskId) : Option Nat :=
  Runs.last (Config.step (FirmwareRequest.prog versionDot serial)) (startsCheck t)
    (init versionDot serial lastState) ls

/-- The forced check that ends in the step, and how. -/
def checkEnd (c : FirmwareConfig) (l : FirmwareLabel) : Option (TaskId × Except PyErr Unit) :=
  match Config.started (FirmwareRequest.prog versionDot serial) c l with
  | some (t, .update, k, e) => (firmwareMachine.advance t k e).1.ended.map (t, ·)
  | _ => none

/-- Every forced check of the run that returns was served by a cycle that succeeded, and every one
that was served by a cycle that failed raises. -/
def Truthful (ls : List FirmwareLabel) : Prop :=
  ∀ pre l post, ls = pre ++ l :: post → ∀ t r,
    checkEnd versionDot serial (run versionDot serial lastState pre) l = some (t, r) →
    ∃ n, servedBy versionDot serial lastState (pre ++ [l]) t = some n ∧
      (r = .ok () → verdict versionDot serial lastState ls n = some true) ∧
      (verdict versionDot serial lastState ls n = some false →
        ∃ text, r = .error (.homeAssistantError text))

end

/-- The task is a forced check. -/
def isForced (c : FirmwareConfig) (t : TaskId) : Bool :=
  match c.tasks t with
  | some (.update, _) => true
  | _ => false

/-- A forced check starts while no cycle is in flight, and its calls end in a value or in an
exception of a class that the cycle makes an outcome of. The entity is not removed. -/
def runsOwnCycle (c : FirmwareConfig) (l : FirmwareLabel) : Bool :=
  (match l with
    | .spawn _ .update => !c.state.cycleInFlight
    | .spawn _ (.fire _) => true
    | .spawn _ _ => false
    | _ => true) &&
  (match probeEnd c l with
    | some (t, .error err) => !isForced c t || err.isCloud
    | _ => true) &&
  match readEnd c l with
  | some (t, .error err) => !isForced c t || err.isException
  | _ => true

/-! ## One step -/

section
variable {versionDot : VersionDot} {serial : Serial} {lastState : Option FirmwareValues}
  {c : FirmwareConfig} {l : FirmwareLabel} {p : ChainPhase Nat TaskId} {t : TaskId}
  {req : FirmwareRequest} {served : TaskId → Option Nat} {ended : Nat → Option Bool}

/-- While no cycle is in flight no task waits. -/
theorem Follows.no_task (h : Follows versionDot serial c p) (hidle : c.state.cycleInFlight = false)
    (t : TaskId) : c.tasks t = none := by
  cases ht : c.tasks t with
  | none => rfl
  | some task =>
    obtain ⟨req, k⟩ := task
    have hflag := h.flag
    rw [h.running ht, hidle] at hflag
    cases hflag

/-- While a task waits no other one does. -/
theorem Follows.only_task (h : Follows versionDot serial c (.running t)) {t' : TaskId}
    (hne : t' ≠ t) : c.tasks t' = none := by
  cases ht : c.tasks t' with
  | none => rfl
  | some task =>
    obtain ⟨req, k⟩ := task
    cases h.running ht
    exact absurd rfl hne

theorem startsCheck_busy (ht : c.tasks t ≠ none) : startsCheck t c l = none := by
  cases l with
  | spawn t' req =>
    cases req with
    | update =>
      rw [startsCheck, if_neg]
      rintro ⟨-, hfree⟩
      exact ht (Option.isNone_iff_eq_none.mp hfree)
    | _ => rfl
  | _ => rfl

theorem Follows.cycleEnd_idle (h : Follows versionDot serial c p)
    (hidle : c.state.cycleInFlight = false) : cycleEnd c l = none := by
  cases l with
  | resume t reply => simp only [cycleEnd, probeEnd, readEnd, h.no_task hidle t]
  | _ => rfl

theorem endsCycle_none {n : Nat} (h : cycleEnd c l = none) : endsCycle n c l = none := by
  rw [endsCycle, h, ite_self]

theorem endsCycle_some {n : Nat} {b : Bool} (h : endsCycle n c l = some b) :
    n = c.state.probes := by
  unfold endsCycle at h
  split at h
  · next hn => exact hn.symm
  · cases h

variable (versionDot serial req) in
/-- The task of a call that has ended waits for the lock, or it has ended with its cycle. -/
theorem task_stops (q : CycleProgress × FirmwareEntity) :
    (CycleProgress.task versionDot serial req q).2.probes = q.2.probes ∧
      ((q.1 = .contact ∧ CycleProgress.task versionDot serial req q =
          (reading versionDot serial req Fw.deviceInformation, q.2)) ∨
        (CycleProgress.task versionDot serial req q).1.ended.isSome = true ∧
          (CycleProgress.task versionDot serial req q).2.cycleInFlight = false) := by
  obtain ⟨progress, e⟩ := q
  cases progress with
  | contact => exact ⟨rfl, .inl ⟨rfl, rfl⟩⟩
  | fail err => exact ⟨rfl, .inr ⟨rfl, rfl⟩⟩
  | finish outcome =>
    have hended := after_ended serial req (e.reported outcome)
    simp only [CycleProgress.task, FirmwareEntity.endCycle]
    split
    · exact ⟨rfl, .inr ⟨hended, rfl⟩⟩
    · exact ⟨rfl, .inr ⟨hended, rfl⟩⟩

variable (versionDot serial) in
/-- What is known of the cycles that served the checks, and of how the cycles ended: the cycle that
serves a waiting check is the one in flight, and a cycle that has ended is not. -/
structure Tracked (c : FirmwareConfig) (served : TaskId → Option Nat)
    (ended : Nat → Option Bool) : Prop where
  follows : ∃ p, Follows versionDot serial c p
  present : c.state.hass = true
  served : ∀ t k, c.tasks t = some (.update, k) → served t = some c.state.probes
  ended : ∀ n b, ended n = some b →
    n ≤ c.state.probes ∧ (n = c.state.probes → c.state.cycleInFlight = false)

namespace Tracked

/-- The parts of a spawned task. -/
theorem spawned (h : Tracked versionDot serial c served ended) (ht : c.tasks t = none)
    {stop : Fw Unit × FirmwareEntity} (hstop : Stops versionDot serial req c.state stop) :
    (∀ t' k, (c.put t req stop).tasks t' = some (.update, k) →
        (startsCheck t' c (.spawn t req)).or (served t') = some stop.2.probes) ∧
      ∀ n b, ended n = some b →
        n ≤ stop.2.probes ∧ (n = stop.2.probes → stop.2.cycleInFlight = false) := by
  obtain ⟨p, hp⟩ := h.follows
  cases hstop with
  | start e' hidle hflag hprobes hvalues =>
    refine ⟨fun t' k hk => ?_, fun n b hn => ?_⟩
    · by_cases hne : t' = t
      · subst hne
        rw [Config.put_self, probing_wait] at hk
        cases hk
        rw [startsCheck, if_pos ⟨rfl, by rw [ht]; rfl⟩, serving, hidle]
        simp [hprobes]
      · rw [Config.put_other c hne, hp.no_task hidle] at hk
        cases hk
    · have hle := (h.ended n b hn).1
      show n ≤ e'.probes ∧ (n = e'.probes → _)
      rw [hprobes]
      exact ⟨by omega, fun heq => by omega⟩
  | rest k e' hk hflag hprobes hvalues =>
    refine ⟨fun t' k' hk' => ?_, fun n b hn => ?_⟩
    · by_cases hne : t' = t
      · subst hne
        rw [Config.put_ended hk] at hk'
        cases hk'
      · rw [Config.put_other c hne] at hk'
        rw [startsCheck_busy (by rw [hk']; simp), Option.none_or, hprobes]
        exact h.served t' k' hk'
    · rw [hprobes, hflag]
      exact h.ended n b hn

/-- The parts of a task whose call has ended. -/
theorem called (h : Tracked versionDot serial c served ended)
    (hp : Follows versionDot serial c (.running t)) {k : Fw Unit} (ht : c.tasks t = some (req, k))
    {q : CycleProgress × FirmwareEntity} (hprobes : q.2.probes = c.state.probes)
    (hflag : q.2.cycleInFlight = c.state.cycleInFlight)
    (hcontact : q.1 = .contact → cycleEnd c l = none) :
    (∀ t' k', (c.put t req (CycleProgress.task versionDot serial req q)).tasks t' =
        some (.update, k') → (startsCheck t' c l).or (served t') =
          some (CycleProgress.task versionDot serial req q).2.probes) ∧
      ∀ n b, (endsCycle n c l).or (ended n) = some b →
        n ≤ (CycleProgress.task versionDot serial req q).2.probes ∧
          (n = (CycleProgress.task versionDot serial req q).2.probes →
            (CycleProgress.task versionDot serial req q).2.cycleInFlight = false) := by
  obtain ⟨hsame, hstops⟩ := task_stops versionDot serial req q
  rw [hsame, hprobes]
  refine ⟨fun t' k' hk' => ?_, fun n b hn => ?_⟩
  · by_cases hne : t' = t
    · subst hne
      rcases hstops with ⟨-, htask⟩ | ⟨hk, -⟩
      · rw [htask, Config.put_self, reading_wait] at hk'
        cases hk'
        rw [startsCheck_busy (by rw [ht]; simp), Option.none_or]
        exact h.served t' k ht
      · rw [Config.put_ended hk] at hk'
        cases hk'
    · rw [Config.put_other c hne, hp.only_task hne] at hk'
      cases hk'
  · rcases hstops with ⟨hq, htask⟩ | ⟨-, hover⟩
    · rw [endsCycle_none (hcontact hq), Option.none_or] at hn
      rw [htask, hflag]
      exact h.ended n b hn
    · refine ⟨?_, fun _ => hover⟩
      cases hend : endsCycle n c l with
      | none =>
        rw [hend, Option.none_or] at hn
        exact (h.ended n b hn).1
      | some b' => exact Nat.le_of_eq (endsCycle_some hend)

/-- A request that the condition lets the step spawn. -/
theorem spawn_allowed (hl : runsOwnCycle c (.spawn t req) = true) :
    (∀ lastState, req ≠ .added lastState) ∧ req ≠ .abort := by
  cases req with
  | fire i => exact ⟨by rintro _ ⟨⟩, by rintro ⟨⟩⟩
  | update => exact ⟨by rintro _ ⟨⟩, by rintro ⟨⟩⟩
  | _ => cases hl

theorem step (h : Tracked versionDot serial c served ended) (hl : runsOwnCycle c l = true) :
    Tracked versionDot serial (Config.step (FirmwareRequest.prog versionDot serial) c l)
      (fun t => (startsCheck t c l).or (served t)) fun n => (endsCycle n c l).or (ended n) := by
  obtain ⟨p, hp⟩ := h.follows
  have hadd : ∀ t state, l ≠ .spawn t (.added state) := by
    rintro t state rfl
    exact (spawn_allowed hl).1 state rfl
  have habort : ∀ t, l ≠ .spawn t .abort := by
    rintro t rfl
    exact (spawn_allowed hl).2 rfl
  obtain ⟨m, q, hm⟩ := follows_step hp hadd
  suffices hparts : _ ∧ _ from
    ⟨⟨q, hm.follows⟩, (hm.hass habort).trans h.present, hparts.1, hparts.2⟩
  cases hs : Config.started (FirmwareRequest.prog versionDot serial) c l with
  | none =>
    obtain ⟨hprobe, hread⟩ := ends_none hs
    have hend : cycleEnd c l = none := by rw [cycleEnd, hprobe, hread]
    rw [step_idle hs]
    refine ⟨fun t k ht => ?_, fun n b hn => ?_⟩
    · rw [startsCheck_busy (by rw [ht]; simp), Option.none_or]
      exact h.served t k ht
    · rw [endsCycle_none hend, Option.none_or] at hn
      exact h.ended n b hn
  | some start =>
    obtain ⟨t, req, k, e⟩ := start
    rw [step_started hs]
    obtain ⟨hkind, rfl⟩ := started_kinds hp hs
    cases hkind with
    | spawned hl' ht =>
      subst hl'
      have hparts := h.spawned ht
        (spawned_stops versionDot serial t c.state req (spawn_allowed hl).1)
      refine ⟨hparts.1, fun n b hn => ?_⟩
      rw [endsCycle_none rfl, Option.none_or] at hn
      exact hparts.2 n b hn
    | probe r hend hread hphase ht =>
      subst hphase
      rw [resumed_probe]
      refine h.called hp ht (by cases r <;> rfl) (by cases r <;> rfl) fun hcontact => ?_
      obtain ⟨latest, hr, hdiverge⟩ := (probeEnded_contact c.state r).mp hcontact
      cases r with
      | error err => cases hr
      | ok v =>
        cases hr
        simp [cycleEnd, hend, hdiverge]
    | read r hend hprobe hphase ht =>
      subst hphase
      rw [resumed_read]
      refine h.called hp ht (by cases r <;> rfl) (by cases r <;> rfl) fun hcontact => ?_
      exact absurd hcontact (readEnded_contact versionDot c.state r)

end Tracked

/-- What a forced check has come to when a call of its cycle has ended. -/
theorem task_reports {q : CycleProgress × FirmwareEntity} (hpresent : q.2.hass = true) :
    (CycleProgress.task versionDot serial .update q).1.ended = match q.1 with
      | .finish outcome =>
        some (if outcome.failed then .error (checkFailedError serial) else .ok ())
      | .contact => none
      | .fail err => some (.error err) := by
  obtain ⟨progress, e⟩ := q
  cases progress with
  | finish outcome =>
    obtain ⟨delay, failed, error⟩ := outcome
    simp only [CycleProgress.task, FirmwareEntity.reported, show e.hass = true from hpresent,
      if_true]
    cases failed <;> rfl
  | _ => rfl

/-- The failure of the probe of a forced check. -/
theorem probe_handled (hl : runsOwnCycle c l = true) {err : PyErr} {k : Fw Unit}
    (hprobe : probeEnd c l = some (t, .error err)) (ht : c.tasks t = some (.update, k)) :
    err.isCloud = true := by
  have hforced : isForced c t = true := by rw [isForced, ht]
  simp only [runsOwnCycle, hprobe, hforced, Bool.and_eq_true] at hl
  simpa using hl.1.2

/-- The failure of the lock read of a forced check. -/
theorem read_handled (hl : runsOwnCycle c l = true) {err : PyErr} {k : Fw Unit}
    (hread : readEnd c l = some (t, .error err)) (ht : c.tasks t = some (.update, k)) :
    err.isException = true := by
  have hforced : isForced c t = true := by rw [isForced, ht]
  simp only [runsOwnCycle, hread, hforced, Bool.and_eq_true] at hl
  simpa using hl.2

/-- A forced check that ends has run its own cycle, which ends in the step, and reports it. -/
theorem checkEnd_reports (h : Tracked versionDot serial c served ended)
    (hl : runsOwnCycle c l = true) {r : Except PyErr Unit}
    (hend : checkEnd versionDot serial c l = some (t, r)) :
    (∃ k, c.tasks t = some (.update, k)) ∧
      ((cycleEnd c l = some true ∧ r = .ok ()) ∨
        (cycleEnd c l = some false ∧ r = .error (checkFailedError serial))) := by
  obtain ⟨p, hp⟩ := h.follows
  unfold checkEnd at hend
  split at hend
  · next t' k e hs =>
    obtain ⟨r', hended, hr'⟩ := Option.map_eq_some_iff.mp hend
    cases hr'
    obtain ⟨hkind, rfl⟩ := started_kinds hp hs
    cases hkind with
    | spawned hl' ht =>
      -- no cycle is in flight, so the check runs one and does not end here
      subst hl'
      have hidle : c.state.cycleInFlight = false := by
        simpa [runsOwnCycle, probeEnd, readEnd] using hl
      rw [started_update, started_cycle, if_pos (by simp [h.present, hidle])] at hended
      cases hended
    | probe r hprobe hread hphase ht =>
      have hpresent : (c.state.probeEnded r).2.hass = true := by
        cases r <;> exact h.present
      rw [resumed_probe, task_reports hpresent] at hended
      refine ⟨⟨_, ht⟩, ?_⟩
      cases r with
      | ok latest =>
        simp only [FirmwareEntity.probeEnded] at hended
        cases hv : versionsEqual c.state.values.installedVersion (some latest.version) with
        | true =>
          rw [hv] at hended
          cases hended
          exact .inl ⟨by simp [cycleEnd, hprobe, hv], rfl⟩
        | false =>
          rw [hv] at hended
          cases hended
      | error err =>
        simp only [FirmwareEntity.probeEnded, probe_handled hl hprobe ht, if_true] at hended
        cases hended
        exact .inr ⟨by simp [cycleEnd, hprobe], rfl⟩
    | read r hread hprobe hphase ht =>
      have hpresent : (c.state.readEnded versionDot r).2.hass = true := by
        cases r <;> exact h.present
      rw [resumed_read, task_reports hpresent] at hended
      refine ⟨⟨_, ht⟩, ?_⟩
      cases r with
      | ok info =>
        cases hended
        exact .inl ⟨by simp [cycleEnd, hprobe, hread], rfl⟩
      | error err =>
        simp only [FirmwareEntity.readEnded, read_handled hl hread ht, if_true] at hended
        cases hended
        exact .inr ⟨by simp [cycleEnd, hprobe, hread], rfl⟩
  · cases hend

end

/-! ## Runs -/

section
variable (versionDot : VersionDot) (serial : Serial) (lastState : Option FirmwareValues)

theorem servedBy_snoc (ls : List FirmwareLabel) (l : FirmwareLabel) (t : TaskId) :
    servedBy versionDot serial lastState (ls ++ [l]) t =
      (startsCheck t (run versionDot serial lastState ls) l).or
        (servedBy versionDot serial lastState ls t) :=
  Runs.last_snoc ..

theorem verdict_snoc (ls : List FirmwareLabel) (l : FirmwareLabel) (n : Nat) :
    verdict versionDot serial lastState (ls ++ [l]) n =
      (endsCycle n (run versionDot serial lastState ls) l).or
        (verdict versionDot serial lastState ls n) :=
  Runs.last_snoc ..

/-- The first cycle is no forced check. -/
theorem tracked_init : Tracked versionDot serial (init versionDot serial lastState)
    (fun _ => none) fun _ => none where
  follows := ⟨_, follows_init versionDot serial lastState⟩
  present := by cases lastState <;> rfl
  served t k ht := by
    by_cases hne : t = 0
    · subst hne
      cases lastState <;> cases ht
    · have hnone : (init versionDot serial lastState).tasks t = none := by
        cases lastState <;> exact Function.update_of_ne hne ..
      rw [hnone] at ht
      cases ht
  ended n b hn := by cases hn

theorem tracked_run (ls : List FirmwareLabel)
    (hls : Runs.Steps (Config.step (FirmwareRequest.prog versionDot serial))
      (fun c l => runsOwnCycle c l = true) (init versionDot serial lastState) ls) :
    Tracked versionDot serial (run versionDot serial lastState ls)
      (servedBy versionDot serial lastState ls) (verdict versionDot serial lastState ls) := by
  induction ls using List.reverseRecOn with
  | nil => exact tracked_init versionDot serial lastState
  | append_singleton ls l ih =>
    obtain ⟨hls, hl⟩ := hls.append
    rw [run_snoc, funext (servedBy_snoc versionDot serial lastState ls l),
      funext (verdict_snoc versionDot serial lastState ls l)]
    exact (ih hls).step hl.1

/-- A verdict stays. -/
theorem verdict_append (ls ls' : List FirmwareLabel) {n : Nat} {b : Bool}
    (hls : Runs.Steps (Config.step (FirmwareRequest.prog versionDot serial))
      (fun c l => runsOwnCycle c l = true) (init versionDot serial lastState) (ls ++ ls'))
    (hn : verdict versionDot serial lastState ls n = some b) :
    verdict versionDot serial lastState (ls ++ ls') n = some b := by
  induction ls' using List.reverseRecOn with
  | nil => rwa [List.append_nil]
  | append_singleton ls' l ih =>
    rw [← List.append_assoc] at hls ⊢
    have hn := ih hls.append.1
    have h := tracked_run versionDot serial lastState (ls ++ ls') hls.append.1
    obtain ⟨p, hp⟩ := h.follows
    have hother : endsCycle n (run versionDot serial lastState (ls ++ ls')) l = none := by
      unfold endsCycle
      split
      · next heq => exact hp.cycleEnd_idle ((h.ended n b hn).2 heq.symm)
      · rfl
    rw [verdict_snoc, hother, Option.none_or, hn]

/-- **A forced check that runs its own cycle reports what the cycle came to.** -/
theorem forcedCheck_reports (ls : List FirmwareLabel)
    (hls : Runs.Steps (Config.step (FirmwareRequest.prog versionDot serial))
      (fun c l => runsOwnCycle c l = true) (init versionDot serial lastState) ls) :
    Truthful versionDot serial lastState ls := by
  rintro pre l post rfl t r hend
  have hsplit : pre ++ l :: post = pre ++ [l] ++ post := by simp
  obtain ⟨hpre, hl⟩ := hls.append
  have h := tracked_run versionDot serial lastState pre hpre
  obtain ⟨⟨k, ht⟩, hreport⟩ := checkEnd_reports h hl.1 hend
  have hserved : servedBy versionDot serial lastState (pre ++ [l]) t =
      some (run versionDot serial lastState pre).state.probes := by
    rw [servedBy_snoc, startsCheck_busy (by rw [ht]; simp), Option.none_or]
    exact h.served t k ht
  have hverdict : ∀ b, cycleEnd (run versionDot serial lastState pre) l = some b →
      verdict versionDot serial lastState (pre ++ l :: post)
        (run versionDot serial lastState pre).state.probes = some b := by
    intro b hb
    rw [hsplit] at hls ⊢
    refine verdict_append versionDot serial lastState _ _ hls ?_
    rw [verdict_snoc, endsCycle, if_pos rfl, hb, Option.some_or]
  refine ⟨_, hserved, ?_⟩
  rcases hreport with ⟨hcycle, rfl⟩ | ⟨hcycle, rfl⟩
  · refine ⟨fun _ => hverdict true hcycle, fun hfalse => ?_⟩
    rw [hverdict true hcycle] at hfalse
    cases hfalse
  · exact ⟨by rintro ⟨⟩, fun _ => ⟨_, rfl⟩⟩

end

/-- A forced check after the first cycle, and another one after it. -/
def forcedApart : List FirmwareLabel :=
  [.resume 0 (cloud (.ok exampleLatest)), .resume 0 (lockReads (.ok exampleInformation)),
    .spawn 1 .update, .resume 1 (cloud (.ok exampleLatest)), .spawn 2 .update,
    .resume 2 (cloud (.error (.cloudError "no route")))]

theorem forcedCheck_reports_apart : Truthful exampleDot "L1" none forcedApart :=
  forcedCheck_reports exampleDot "L1" none forcedApart (by decide)

/-- The cloud client is open: no probe ends in the error of a closed one. -/
def clientOpen (c : FirmwareConfig) (l : FirmwareLabel) : Bool :=
  match probeEnd c l with
  | some (_, .error err) => !err.isRuntimeError
  | _ => true

/-- A forced check joins the first cycle, whose probe then fails. -/
def forcedJoined : List FirmwareLabel :=
  [.spawn 1 .update, .resume 0 (cloud (.error (.cloudError "no route")))]

/-- The check has returned, and the cycle that served it failed. -/
theorem falseSuccess_joined :
    ¬ ∀ ls : List FirmwareLabel, ls.all (·.isCheck) = true →
      Runs.Steps (Config.step (FirmwareRequest.prog exampleDot "L1"))
        (fun c l => clientOpen c l = true) (init exampleDot "L1" none) ls →
      Truthful exampleDot "L1" none ls := by
  intro h
  obtain ⟨n, hserved, hok, -⟩ := h forcedJoined (by decide) (by decide) [] (.spawn 1 .update)
    [.resume 0 (cloud (.error (.cloudError "no route")))] rfl 1 (.ok ()) rfl
  have hn : servedBy exampleDot "L1" none ([] ++ [.spawn 1 .update]) 1 = some 1 := by decide
  cases hserved.symm.trans hn
  exact absurd (hok rfl) (by decide)

end FirmwareConfig

end DanalockBle
