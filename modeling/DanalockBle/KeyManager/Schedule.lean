import DanalockBle.KeyManager.Background
import Mathlib.Data.List.Chain

/-!
# The key refresh schedule

A run of a started key manager follows the phases of a timer chain (`follows_step`): the timer of
the next cycle is armed, one cycle runs, or the chain has ended. With a positive period it does not
end before a stop, however the cycles end, and nothing revives it afterwards; a cycle schedules the
next one from the point in time it was fired for (`background_schedule`). The delay is one of the
wall clock, so the points are nearer or farther apart when the UTC offset changes in between
(`scheduled_summerTime`).
-/

namespace DanalockBle

open Coroutine Coroutine.Coro TimerChain DanalockKeyManager

/-- The coroutine waits for the refresh of a cycle. -/
def Refreshes : Bg Unit → Prop
  | .op .refreshAll _ => True
  | _ => False

/-- A scheduled point in time and the next one: as instants they differ by the delay, less the
change of the UTC offset from the one local time to the other. -/
def Spaced (zone : TimeZone) (period jitter : Timedelta) (point next : Int) : Prop :=
  ∃ delay, period ≤ delay ∧ delay ≤ period + max jitter 0 ∧
    next - point =
      delay - (zone.utcoffset (zone.asLocal point + delay) - zone.utcoffset (zone.asLocal point))

namespace Background

/-! ## Between two suspensions -/

section
variable (zone : TimeZone) (rng : Rng) (b : Background)

/-- The delay that the next draw gives. -/
def delay : Timedelta :=
  b.period + Timedelta.ofSeconds Python.binary64
    (if 0 < b.jitter then rng b.draws 0 b.jitter.totalSeconds else 0)

/-- The manager after the next cycle is scheduled. -/
def scheduled (base : Datetime) : Background :=
  { b with
    draws := if 0 < b.jitter then b.draws + 1 else b.draws
    cancelTimer := some b.timers.armed
    timers := b.timers.arm (zone.asUtc (base + b.delay rng))
    points := b.points ++ [zone.asUtc (base + b.delay rng)] }

/-- The manager after the `finally` of a cycle. -/
def rearmed (now : Datetime) : Background :=
  if 0 < b.period && !b.stopped then b.scheduled zone rng now else b

/-- The manager after a stop. -/
def halted : Background :=
  match b.cancelTimer with
  | some h => { b with stopped := true, timers := b.timers.cancel h, cancelTimer := none }
  | none => { b with stopped := true }

@[simp] theorem halted_stopped : b.halted.stopped = true := by
  unfold halted; split <;> rfl

@[simp] theorem halted_cycles : b.halted.cycles = b.cycles := by
  unfold halted; split <;> rfl

@[simp] theorem halted_armed : b.halted.timers.armed = b.timers.armed := by
  unfold halted; split <;> rfl

@[simp] theorem halted_points : b.halted.points = b.points := by
  unfold halted; split <;> rfl

@[simp] theorem halted_period : b.halted.period = b.period := by
  unfold halted; split <;> rfl

@[simp] theorem halted_jitter : b.halted.jitter = b.jitter := by
  unfold halted; split <;> rfl

/-- No timer of the chain is left. -/
theorem halted_pending {b : Background} {inCycle : TaskId → Prop} {p : ChainPhase Int TaskId}
    (h : InChain b.timers b.cancelTimer inCycle p) : b.halted.timers.pending = [] := by
  unfold halted
  cases hc : b.cancelTimer with
  | some i => exact h.cancelKept hc
  | none =>
    rw [hc] at h
    exact h.pending_of_none

/-- A draw in range keeps the delay in its bounds. -/
theorem delay_bounds (hrng : rng.InRange) :
    b.period ≤ b.delay rng ∧ b.delay rng ≤ b.period + max b.jitter 0 := by
  unfold delay
  by_cases hj : 0 < b.jitter
  · have hlo : (0 : ℚ) ≤ b.jitter.totalSeconds := by
      unfold Timedelta.totalSeconds
      positivity
    obtain ⟨h0, h1⟩ := hrng b.draws 0 _ hlo
    have hnonneg := Timedelta.ofSeconds_nonneg (F := Python.binary64) h0
    have hle := Timedelta.ofSeconds_le (fun _ => Python.round_intCast) h0 h1
    rw [if_pos hj, max_eq_left hj.le]
    constructor <;> linarith
  · rw [if_neg hj, Timedelta.ofSeconds_zero]
    have := le_max_right b.jitter 0
    constructor <;> linarith

/-- A draw in range spaces the next point. -/
theorem spaced_delay (hrng : rng.InRange) (point : Int) :
    Spaced zone b.period b.jitter point (zone.asUtc (zone.asLocal point + b.delay rng)) :=
  ⟨b.delay rng, (b.delay_bounds rng hrng).1, (b.delay_bounds rng hrng).2, zone.asUtc_add _ _⟩

variable (t : TaskId)

theorem advance_scheduleNext (base : Option Datetime) (f : Unit → Bg Unit) :
    (backgroundMachine zone rng).advance t ((scheduleNext base).bind f) b =
      (backgroundMachine zone rng).advance t (f ())
        (b.scheduled zone rng (base.getD (zone.asLocal b.clock))) := by
  have hbranch : (backgroundMachine zone rng).advance t ((scheduleNext base).bind f) b =
      (backgroundMachine zone rng).advance t ((Coro.bind
        (if 0 < b.jitter then Bg.rng 0 b.jitter.totalSeconds else pure 0) _).bind f) b := rfl
  unfold scheduled delay
  rw [hbranch]
  by_cases hj : 0 < b.jitter
  · rw [if_pos hj, if_pos hj, if_pos hj]
    cases base <;> rfl
  · rw [if_neg hj, if_neg hj, if_neg hj]
    cases base <;> rfl

/-- How a cycle ends whose refresh has ended. -/
theorem advance_tryRefresh (now : Datetime) (r : Except PyErr Unit) :
    ∃ k : Bg Unit, k.ended.isSome = true ∧
      (backgroundMachine zone rng).advance t (tryRefresh now (.ofResult r)) b =
        (k, b.rearmed zone rng now) := by
  have hfinally : ∀ k : Bg Unit, k.ended.isSome = true →
      (backgroundMachine zone rng).advance t ((rearm now).bind fun _ => k) b =
        (k, b.rearmed zone rng now) := by
    intro k hk
    have hbranch : (backgroundMachine zone rng).advance t ((rearm now).bind fun _ => k) b =
        (backgroundMachine zone rng).advance t ((if 0 < b.period && !b.stopped then
          scheduleNext (some now) else .ret ()).bind fun _ => k) b := rfl
    have hstop : ∀ b', (backgroundMachine zone rng).advance t k b' = (k, b') := by
      intro b'
      cases k with
      | op o f => cases hk
      | _ => rfl
    unfold rearmed
    rw [hbranch]
    split
    · rw [advance_scheduleNext, hstop]
      rfl
    · exact hstop b
  cases r with
  | ok v => exact ⟨.ret (), rfl, hfinally (.ret ()) rfl⟩
  | error err =>
    have hcaught : tryRefresh now (.ofResult (.error err)) =
        tryFinally (if err.isException then .ret () else .raise err) (rearm now) := rfl
    rw [hcaught]
    split
    · exact ⟨.ret (), rfl, hfinally (.ret ()) rfl⟩
    · exact ⟨.raise err, rfl, hfinally (.raise err) rfl⟩

theorem advance_stop :
    (backgroundMachine zone rng).advance t stop b = (.ret (), b.halted) := by
  obtain ⟨options, period, jitter, clock, draws, stopped, cancelTimer, T, points, cycles⟩ := b
  cases cancelTimer <;> rfl

theorem advance_runFired (h : Nat) :
    (backgroundMachine zone rng).advance t ((BackgroundRequest.fire h).prog) b =
      (backgroundMachine zone rng).advance t (match (b.timers.find h).map zone.asLocal with
        | some point => runCycle point
        | none => .ret ()) { b with timers := b.timers.cancel h } := rfl

/-- A fired timer starts a cycle. -/
theorem advance_fire {h : Nat} {point : Int} (hf : b.timers.find h = some point) :
    (backgroundMachine zone rng).advance t ((BackgroundRequest.fire h).prog) b =
      (tryRefresh (zone.asLocal point) Bg.refreshAll,
        { b with timers := b.timers.cancel h, cancelTimer := none, cycles := b.cycles + 1 }) := by
  rw [advance_runFired, hf]
  rfl

theorem advance_fire_none {h : Nat} (hf : b.timers.find h = none) :
    (backgroundMachine zone rng).advance t ((BackgroundRequest.fire h).prog) b =
      (.ret (), { b with timers := b.timers.cancel h }) := by
  rw [advance_runFired, hf]
  rfl

theorem advance_start :
    (backgroundMachine zone rng).advance t start b =
      (.ret (), if refreshPeriod b.options ≤ 0 then
          { b with period := refreshPeriod b.options, jitter := refreshJitter b.options }
        else Background.scheduled zone rng
          { b with period := refreshPeriod b.options, jitter := refreshJitter b.options }
          (zone.asLocal b.clock)) := by
  have hbranch : (backgroundMachine zone rng).advance t start b =
      (backgroundMachine zone rng).advance t (if refreshPeriod b.options ≤ 0 then .ret ()
        else scheduleNext none)
          { b with period := refreshPeriod b.options, jitter := refreshJitter b.options } := rfl
  rw [hbranch]
  split
  · rfl
  · rw [← bind_ret (scheduleNext none), advance_scheduleNext]
    rfl

end

end Background

/-! ## One step -/

namespace BackgroundConfig

variable {zone : TimeZone} {rng : Rng} {options : Options}

/-- The task is between the start and the end of a cycle. -/
def InCycle (c : BackgroundConfig zone rng) (t : TaskId) : Prop :=
  match c.tasks t with
  | some (_, k) => Refreshes k
  | none => False

variable (options) in
/-- The chain of the manager is in the phase; the last of the points, which keep their distance,
is the one of the armed timer or of the cycle that runs. -/
structure Follows (c : BackgroundConfig zone rng) (p : ChainPhase Int TaskId) : Prop where
  phase : InChain c.state.timers c.state.cancelTimer c.InCycle p
  waits : ∀ t req k, c.tasks t = some (req, k) → ∃ point,
    k = tryRefresh (zone.asLocal point) Bg.refreshAll ∧ c.state.points.getLast? = some point
  next : ∀ h x, p = .armed h x → c.state.points.getLast? = some x
  spaced : c.state.points.IsChain (Spaced zone (refreshPeriod options) (refreshJitter options))
  period : c.state.period = refreshPeriod options
  jitter : c.state.jitter = refreshJitter options

variable (options) in
/-- **What a step does to the chain**, and what each move comes from. -/
structure Moves (c : BackgroundConfig zone rng) (l : BackgroundLabel zone rng)
    (p : ChainPhase Int TaskId) (m : Move) (q : ChainPhase Int TaskId)
    (c' : BackgroundConfig zone rng) : Prop where
  step : p.Step m q
  follows : Follows options c' q
  cycles : c'.state.cycles = c.state.cycles + if m = .start then 1 else 0
  armed : c'.state.timers.armed = c.state.timers.armed + if m = .rearm then 1 else 0
  stopped : c.state.stopped = true → c'.state.stopped = true
  started : (∀ t, l ≠ .spawn t .stop) → c'.state.stopped = c.state.stopped
  start : m = .start → ∃ h x, p = .armed h x
  rearm : m = .rearm → 0 < refreshPeriod options ∧ c.state.stopped = false
  lose : m = .lose → ¬ 0 < refreshPeriod options ∨ c.state.stopped = true
  cancel : m = .cancel → ∃ t, l = .spawn t .stop

section
variable {c : BackgroundConfig zone rng} {l : BackgroundLabel zone rng}
  {p q : ChainPhase Int TaskId} {t : TaskId} {req : BackgroundRequest} {k : Bg Unit}
  {b : Background}

theorem inCycle_put (t' : TaskId) :
    InCycle (c.put t req (k, b)) t' ↔ if t' = t then Refreshes k else c.InCycle t' := by
  by_cases ht : t' = t
  · subst ht
    rw [if_pos rfl, InCycle, Config.put_self]
    cases k <;> exact Iff.rfl
  · rw [if_neg ht, InCycle, InCycle, Config.put_other c ht]

theorem not_inCycle (ht : c.tasks t = none) : ¬ c.InCycle t := by
  rw [InCycle, ht]
  exact id

theorem not_refreshes (hk : k.ended.isSome = true) : ¬ Refreshes k := by
  cases k with
  | op o f => cases hk
  | _ => exact id

theorem Follows.inCycle (h : Follows options c p) (ht : c.tasks t = some (req, k)) :
    c.InCycle t := by
  obtain ⟨now, rfl, -⟩ := h.waits t req k ht
  rw [InCycle, ht]
  trivial

/-- A task ends. -/
theorem Follows.ends (h : Follows options c p) (hk : k.ended.isSome = true)
    (hphase : InChain b.timers b.cancelTimer (fun t' => if t' = t then False else c.InCycle t') q)
    (hwaits : (∀ t', t' ≠ t → ¬ c.InCycle t') ∨ b.points = c.state.points)
    (hnext : ∀ i x, q = .armed i x → b.points.getLast? = some x)
    (hspaced : b.points.IsChain (Spaced zone (refreshPeriod options) (refreshJitter options)))
    (hperiod : b.period = c.state.period) (hjitter : b.jitter = c.state.jitter) :
    Follows options (c.put t req (k, b)) q where
  phase := hphase.congr fun t' => by
    rw [inCycle_put]
    by_cases ht : t' = t
    · rw [if_pos ht, if_pos ht]
      exact iff_of_false (not_refreshes hk) id
    · rw [if_neg ht, if_neg ht]
  waits t' req' k' ht' := by
    by_cases ht : t' = t
    · subst ht
      rw [Config.put_self] at ht'
      cases k with
      | op o f => cases hk
      | _ => cases ht'
    · rw [Config.put_other c ht] at ht'
      rcases hwaits with hnone | hpoints
      · exact absurd (h.inCycle ht') (hnone t' ht)
      · obtain ⟨now, hk', hlast⟩ := h.waits t' req' k' ht'
        exact ⟨now, hk', (congrArg List.getLast? hpoints).trans hlast⟩
  next := hnext
  spaced := hspaced
  period := hperiod.trans h.period
  jitter := hjitter.trans h.jitter

/-- A task ends that was in no cycle. -/
theorem Follows.rest (h : Follows options c p) (ht : ¬ c.InCycle t) (hk : k.ended.isSome = true)
    (hphase : InChain b.timers b.cancelTimer c.InCycle q)
    (hnext : ∀ i x, q = .armed i x → p = .armed i x) (hpoints : b.points = c.state.points)
    (hperiod : b.period = c.state.period) (hjitter : b.jitter = c.state.jitter) :
    Follows options (c.put t req (k, b)) q := by
  refine h.ends hk (hphase.congr fun t' => ?_) (.inr hpoints)
    (fun i x hq => hpoints ▸ h.next i x (hnext i x hq)) (hpoints ▸ h.spaced) hperiod hjitter
  by_cases hne : t' = t
  · subst hne
    rw [if_pos rfl]
    exact iff_of_false id ht
  · rw [if_neg hne]

/-- A step that changes neither the timers nor the cycle. -/
theorem Moves.stay {c' : BackgroundConfig zone rng} (h : Follows options c' p)
    (hcycles : c'.state.cycles = c.state.cycles)
    (harmed : c'.state.timers.armed = c.state.timers.armed)
    (hstopped : c.state.stopped = true → c'.state.stopped = true)
    (hstarted : (∀ t, l ≠ .spawn t .stop) → c'.state.stopped = c.state.stopped) :
    Moves options c l p .stay p c' where
  step := .stay p
  follows := h
  cycles := hcycles
  armed := harmed
  stopped := hstopped
  started := hstarted
  start := nofun
  rearm := nofun
  lose := nofun
  cancel := nofun

/-- A timer fires: a cycle starts if it is armed. -/
theorem Moves.fired (h : Follows options c p) (ht : c.tasks t = none) (i : Nat) :
    ∃ m q, Moves options c (.spawn t (.fire i)) p m q
      (c.put t (.fire i)
        ((backgroundMachine zone rng).advance t (BackgroundRequest.fire i).prog c.state)) := by
  cases hf : c.state.timers.find i with
  | none =>
    rw [Background.advance_fire_none _ _ _ _ hf, Timers.cancel_of_find_none _ hf]
    exact ⟨.stay, p, .stay (h.rest (not_inCycle ht) rfl h.phase (fun _ _ => id) rfl rfl rfl) rfl rfl
      id fun _ => rfl⟩
  | some point =>
    rw [Background.advance_fire _ _ _ _ hf]
    obtain ⟨rfl, hpending⟩ := h.phase.fires hf
    refine ⟨.start, .running t, .run i point t, ⟨⟨hpending, fun t' => ?_⟩, fun t' req' k' ht' => ?_,
      nofun, h.spaced, h.period, h.jitter⟩, rfl, rfl, id, fun _ => rfl, fun _ => ⟨i, point, rfl⟩,
      nofun, nofun, nofun⟩
    · rw [inCycle_put]
      by_cases hne : t' = t
      · rw [if_pos hne]
        exact iff_of_true trivial hne
      · rw [if_neg hne]
        exact iff_of_false (h.phase.2.2 t') hne
    · by_cases hne : t' = t
      · subst hne
        rw [Config.put_self] at ht'
        cases ht'
        exact ⟨point, rfl, h.next i point rfl⟩
      · rw [Config.put_other c hne] at ht'
        exact absurd (h.inCycle ht') (h.phase.2.2 t')

/-- The manager is stopped. -/
theorem Moves.halted (h : Follows options c p) (ht : c.tasks t = none) :
    ∃ m q, Moves options c (.spawn t .stop) p m q
      (c.put t .stop
        ((backgroundMachine zone rng).advance t BackgroundRequest.stop.prog c.state)) := by
  rw [show BackgroundRequest.stop.prog = stop from rfl, Background.advance_stop]
  have hpending := Background.halted_pending h.phase
  have hstate : ∀ k : Bg Unit, (c.put t .stop (k, c.state.halted)).state = c.state.halted :=
    fun _ => rfl
  cases p with
  | armed i x =>
    refine ⟨.cancel, .ended, .cancel i x, h.rest (not_inCycle ht) rfl ⟨hpending, h.phase.2.2⟩ nofun
      (by simp) (by simp) (by simp), ?_, ?_, ?_, fun hl => absurd rfl (hl t), nofun, nofun, nofun,
      fun _ => ⟨t, rfl⟩⟩
    all_goals simp [hstate]
  | running k₀ =>
    refine ⟨.stay, .running k₀, .stay (h.rest (not_inCycle ht) rfl ⟨hpending, h.phase.2⟩ nofun
      (by simp) (by simp) (by simp)) ?_ ?_ ?_ fun hl => absurd rfl (hl t)⟩
    all_goals simp [hstate]
  | ended =>
    refine ⟨.stay, .ended, .stay (h.rest (not_inCycle ht) rfl ⟨hpending, h.phase.2⟩ nofun
      (by simp) (by simp) (by simp)) ?_ ?_ ?_ fun hl => absurd rfl (hl t)⟩
    all_goals simp [hstate]

/-- The refresh of a cycle ends, in a result or an exception. -/
theorem Moves.woken (hrng : rng.InRange) (h : Follows options c p) {point : Int}
    (ht : c.tasks t = some (req, tryRefresh (zone.asLocal point) Bg.refreshAll))
    (hlast : c.state.points.getLast? = some point) (r : Except PyErr Unit) :
    ∃ m q, Moves options c l p m q
      (c.put t req ((backgroundMachine zone rng).advance t
        (tryRefresh (zone.asLocal point) (.ofResult r)) c.state)) := by
  have hp : p = .running t := by
    have hin := h.inCycle ht
    have hphase := h.phase
    cases p with
    | armed i x => exact absurd hin (hphase.2.2 t)
    | running k => rw [(hphase.2 t).mp hin]
    | ended => exact absurd hin (hphase.2 t)
  subst hp
  have hidle : ∀ t', ¬ (if t' = t then False else c.InCycle t') := by
    intro t'
    by_cases hne : t' = t
    · rw [if_pos hne]
      exact id
    · rw [if_neg hne]
      exact fun hin => hne ((h.phase.2 t').mp hin)
  obtain ⟨k, hk, hadv⟩ := Background.advance_tryRefresh zone rng c.state t (zone.asLocal point) r
  rw [hadv, Background.rearmed]
  by_cases hnext : (0 < c.state.period && !c.state.stopped) = true
  · rw [if_pos hnext]
    rw [Bool.and_eq_true, decide_eq_true_eq, Bool.not_eq_true'] at hnext
    refine ⟨.rearm, .armed c.state.timers.armed _, .rearm t _ _,
      h.ends hk ⟨c.state.timers.arm_of_nil h.phase.1 _, rfl, hidle⟩
        (.inl fun t' hne hin => hne ((h.phase.2 t').mp hin)) ?_ ?_ rfl rfl,
      rfl, rfl, id, fun _ => rfl, nofun, fun _ => ⟨h.period ▸ hnext.1, hnext.2⟩, nofun, nofun⟩
    · intro i x hx
      cases hx
      exact List.getLast?_concat
    · refine h.spaced.append (.singleton _) fun x hx y hy => ?_
      obtain rfl : point = x := Option.some.inj (hlast.symm.trans hx)
      obtain rfl : zone.asUtc (zone.asLocal point + c.state.delay rng) = y :=
        Option.some.inj hy
      rw [← h.period, ← h.jitter]
      exact Background.spaced_delay zone rng c.state hrng point
  · rw [if_neg hnext]
    refine ⟨.lose, .ended, .lose t, h.ends hk ⟨h.phase.1, hidle⟩ (.inr rfl) nofun h.spaced rfl rfl,
      rfl, rfl, id, fun _ => rfl, nofun, nofun, fun _ => ?_, nofun⟩
    by_cases hperiod : 0 < refreshPeriod options
    · refine .inr ?_
      rw [← h.period] at hperiod
      simpa [hperiod] using hnext
    · exact .inl hperiod

/-- **One step of a started manager is a move of its chain.** -/
theorem follows_step (hrng : rng.InRange) (h : Follows options c p)
    (hl : ∀ t, l ≠ .spawn t .start) :
    ∃ m q, Moves options c l p m q (Config.step BackgroundRequest.prog c l) := by
  unfold Config.step
  cases hs : Config.started BackgroundRequest.prog c l with
  | none =>
    cases l with
    | env now =>
      exact ⟨.stay, p, .stay ⟨h.phase, h.waits, h.next, h.spaced, h.period, h.jitter⟩ rfl rfl id
        fun _ => rfl⟩
    | _ => exact ⟨.stay, p, .stay h rfl rfl id fun _ => rfl⟩
  | some start =>
    obtain ⟨t, req, k, b⟩ := start
    rcases Config.started_cases _ hs with
      ⟨rfl, ht, rfl, rfl⟩ | ⟨reply, o, f, r, rfl, htask, hr, hwake, rfl⟩
    · cases req with
      | start => exact absurd rfl (hl t)
      | fire i => exact Moves.fired h ht i
      | stop => exact Moves.halted h ht
    · obtain ⟨now, hk, hlast⟩ := h.waits t req _ htask
      cases hk
      cases hwake
      exact Moves.woken hrng h htask hlast r

end

end BackgroundConfig

/-! ## Runs -/

namespace BackgroundLabel

variable {zone : TimeZone} {rng : Rng}

/-- The setup starts the manager. -/
def isStart : BackgroundLabel zone rng → Bool
  | .spawn _ .start => true
  | _ => false

/-- The manager is stopped. -/
def isStop : BackgroundLabel zone rng → Bool
  | .spawn _ .stop => true
  | _ => false

theorem ne_start {l : BackgroundLabel zone rng} (hl : l.isStart = false) (t : TaskId) :
    l ≠ .spawn t .start := by
  rintro rfl
  cases hl

theorem ne_stop {l : BackgroundLabel zone rng} (hl : l.isStop = false) (t : TaskId) :
    l ≠ .spawn t .stop := by
  rintro rfl
  cases hl

end BackgroundLabel

namespace BackgroundConfig

variable {zone : TimeZone} {rng : Rng} {options : Options}

variable (zone rng options) in
/-- The setup arms the first timer, unless the period is 0. -/
theorem follows_init (clock : Int) :
    ∃ p, Follows options (init zone rng options clock) p ∧
      (0 < refreshPeriod options →
        p ≠ .ended ∧ (init zone rng options clock).state.stopped = false) ∧
      (¬ 0 < refreshPeriod options →
        p = .ended ∧ (init zone rng options clock).state.timers.armed = 0) := by
  have hinit : init zone rng options clock = (empty zone rng options clock).put 0 .start
      ((backgroundMachine zone rng).advance 0 start (empty zone rng options clock).state) := rfl
  rw [hinit, Background.advance_start]
  generalize hb : (empty zone rng options clock).state = b
  have hoptions : b.options = options := hb ▸ rfl
  have hnil : b.timers.pending = [] ∧ b.timers.armed = 0 ∧ b.points = [] ∧ b.stopped = false :=
    hb ▸ ⟨rfl, rfl, rfl, rfl⟩
  have htasks : ∀ (b' : Background) (t : TaskId),
      ((empty zone rng options clock).put 0 .start (.ret (), b')).tasks t = none := by
    intro b' t
    by_cases ht : t = 0
    · subst ht
      exact Config.put_self ..
    · exact Config.put_other _ ht _ _
  have hwaits : ∀ (b' : Background) (t : TaskId) (req : BackgroundRequest) (k : Bg Unit),
      ((empty zone rng options clock).put 0 .start (.ret (), b')).tasks t = some (req, k) →
        ∃ point, k = tryRefresh (zone.asLocal point) Bg.refreshAll ∧
          b'.points.getLast? = some point := by
    intro b' t req k ht
    rw [htasks] at ht
    cases ht
  rw [hoptions]
  by_cases hperiod : refreshPeriod options ≤ 0
  · rw [if_pos hperiod]
    refine ⟨.ended, ⟨⟨hnil.1, fun t => not_inCycle (htasks _ t)⟩, hwaits _, nofun, ?_, rfl, rfl⟩,
      fun h => absurd hperiod (not_le.mpr h), fun _ => ⟨rfl, hnil.2.1⟩⟩
    exact hnil.2.2.1 ▸ .nil
  · rw [if_neg hperiod]
    refine ⟨.armed b.timers.armed _, ⟨⟨b.timers.arm_of_nil hnil.1 _, rfl,
      fun t => not_inCycle (htasks _ t)⟩, hwaits _, ?_, ?_, rfl, rfl⟩,
      fun _ => ⟨nofun, hnil.2.2.2⟩, fun h => absurd (not_le.mp hperiod) h⟩
    · intro i x hx
      cases hx
      exact List.getLast?_concat
    · simp only [Config.put, Background.scheduled, hnil.2.2.1, List.nil_append]
      exact .singleton _

/-- Every run of a started manager follows a phase. -/
theorem follows_exec (hrng : rng.InRange) {c : BackgroundConfig zone rng}
    {p : ChainPhase Int TaskId} (h : Follows options c p) {ls : List (BackgroundLabel zone rng)}
    (hls : ls.all (!·.isStart) = true) :
    ∃ q, Follows options (Runs.exec (Config.step BackgroundRequest.prog) c ls) q := by
  induction ls generalizing c p with
  | nil => exact ⟨p, h⟩
  | cons l ls ih =>
    rw [List.all_cons, Bool.and_eq_true, Bool.not_eq_true'] at hls
    obtain ⟨m, q, hm⟩ := follows_step hrng h (BackgroundLabel.ne_start hls.1)
    exact ih hm.follows hls.2

/-- A stop leaves no timer. -/
theorem follows_stop (hrng : rng.InRange) {c : BackgroundConfig zone rng}
    {p : ChainPhase Int TaskId} {t : TaskId} (h : Follows options c p)
    (ht : c.tasks t = none) :
    let c' := Config.step BackgroundRequest.prog c (.spawn t .stop)
    ∃ q, Follows options c' q ∧ (∀ i x, q ≠ .armed i x) ∧ c'.state.stopped = true := by
  have hstate : (Config.step BackgroundRequest.prog c (.spawn t .stop)).state = c.state.halted := by
    simp only [Config.step, Config.started, ht, Option.isNone_none, if_true]
    exact congrArg Prod.snd (Background.advance_stop zone rng c.state t)
  obtain ⟨m, q, hm⟩ := follows_step hrng h (l := .spawn t .stop) (by rintro _ ⟨⟩)
  refine ⟨q, hm.follows, fun i x hq => ?_, hstate ▸ c.state.halted_stopped⟩
  have hphase := hm.follows.phase
  rw [hq, hstate] at hphase
  cases (Background.halted_pending h.phase).symm.trans hphase.1

/-- Without a stop the chain of a positive period does not end. -/
theorem alive_exec (hrng : rng.InRange) (hperiod : 0 < refreshPeriod options)
    {c : BackgroundConfig zone rng} {p : ChainPhase Int TaskId} (h : Follows options c p)
    (hp : p ≠ .ended) (hstopped : c.state.stopped = false) {ls : List (BackgroundLabel zone rng)}
    (hls : ls.all (fun l => !l.isStart && !l.isStop) = true) :
    ∃ q, Follows options (Runs.exec (Config.step BackgroundRequest.prog) c ls) q ∧ q ≠ .ended := by
  induction ls generalizing c p with
  | nil => exact ⟨p, h, hp⟩
  | cons l ls ih =>
    simp only [List.all_cons, Bool.and_eq_true, Bool.not_eq_true'] at hls
    obtain ⟨⟨hstart, hstop⟩, hls⟩ := hls
    have hstop := BackgroundLabel.ne_stop hstop
    obtain ⟨m, q, hm⟩ := follows_step hrng h (BackgroundLabel.ne_start hstart)
    refine ih hm.follows (hm.step.goesOn hp (fun hlose => ?_) fun hcancel => ?_)
      ((hm.started hstop).trans hstopped) (by simpa using hls)
    · rcases hm.lose hlose with hzero | hstopped'
      · exact hzero hperiod
      · rw [hstopped] at hstopped'
        cases hstopped'
    · obtain ⟨t, hl⟩ := hm.cancel hcancel
      exact hstop t hl

/-- A chain that nothing can start or arm again stays as it is. -/
theorem quiet_exec (hrng : rng.InRange) {c : BackgroundConfig zone rng} {p : ChainPhase Int TaskId}
    (h : Follows options c p) (hp : ∀ i x, p ≠ .armed i x)
    (hquiet : ¬ 0 < refreshPeriod options ∨ c.state.stopped = true)
    {ls : List (BackgroundLabel zone rng)} (hls : ls.all (!·.isStart) = true) :
    let c' := Runs.exec (Config.step BackgroundRequest.prog) c ls
    c'.state.timers.pending = [] ∧ c'.state.timers.armed = c.state.timers.armed ∧
      c'.state.cycles = c.state.cycles := by
  induction ls generalizing c p with
  | nil => exact ⟨h.phase.pending_nil hp, rfl, rfl⟩
  | cons l ls ih =>
    rw [List.all_cons, Bool.and_eq_true, Bool.not_eq_true'] at hls
    obtain ⟨m, q, hm⟩ := follows_step hrng h (BackgroundLabel.ne_start hls.1)
    have hrearm : m ≠ .rearm := by
      intro hrearm
      obtain ⟨hperiod, hstopped⟩ := hm.rearm hrearm
      rcases hquiet with hzero | hstopped'
      · exact hzero hperiod
      · rw [hstopped] at hstopped'
        cases hstopped'
    have hstart : m ≠ .start := by
      intro hstart
      obtain ⟨i, x, hx⟩ := hm.start hstart
      exact hp i x hx
    obtain ⟨hpending, harmed, hcycles⟩ := ih hm.follows (hm.step.idle hp hrearm)
      (hquiet.imp_right hm.stopped) hls.2
    refine ⟨hpending, harmed.trans ?_, hcycles.trans ?_⟩
    · rw [hm.armed, if_neg hrearm, Nat.add_zero]
    · rw [hm.cycles, if_neg hstart, Nat.add_zero]

end BackgroundConfig

section
variable (zone : TimeZone) (rng : Rng) (options : Options) (clock : Int)

end

/-- Draws that alternate between the bounds. -/
def alternatingRng : Rng := fun n lo hi => if n % 2 = 0 then hi else lo

theorem alternatingRng_inRange : alternatingRng.InRange := by
  intro n lo hi h
  unfold alternatingRng
  split
  · exact ⟨h, le_rfl⟩
  · exact ⟨le_rfl, h⟩

/-- The refresh of a cycle ends. -/
def refreshEnds (r : Except PyErr Unit) : (o : BackgroundOp) → Option o.Res
  | .refreshAll => some r
  | _ => none

/-- Summer time starts 20 hours after the epoch. -/
def exampleZone : TimeZone :=
  .switch (Timedelta.hours 20) (Timedelta.hours 1) (Timedelta.hours 2)

/-- A cycle fails, a second one is cancelled and a third one is under way. -/
def threeCycles : List (BackgroundLabel exampleZone alternatingRng) :=
  [.spawn 0 (.fire 0), .resume 0 (refreshEnds (.error (.other "KeyError" "L1"))),
    .spawn 1 (.fire 1), .resume 1 (refreshEnds (.error .cancelledError)), .spawn 2 (.fire 2)]

/-- A period of 12 hours without jitter. -/
def twelveHours : Options := fun key =>
  if key = confRefreshPeriodHours then some 12
  else if key = confRefreshJitterHours then some 0
  else none

end DanalockBle
