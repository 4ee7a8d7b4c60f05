import DanalockBle.Lib.Datetime
import DanalockBle.Lib.Scheduler
import DanalockBle.Lib.TimerChain
import DanalockBle.Setup.PyFloat

/-!
# The background key refresh

The scheduler of `keymanager.py` and the options it reads (`const.py`), as tasks of the event loop.
`dt_util.now()` is a local time of the default time zone, which is a parameter; an instant is a
number of microseconds. `refresh_all` is one awaited call that ends in any way at any time; warning
records are left out. The event loop passes a fired timer's own instant to its callback, as a local
time.
-/

namespace DanalockBle

open Coroutine Coroutine.Coro TimerChain

/-! ## Options -/

abbrev Options := String → Option Int

def confRefreshPeriodHours : String := "refresh_period_hours"
def confRefreshJitterHours : String := "refresh_jitter_hours"
def defaultRefreshPeriodHours : Int := 12
def defaultRefreshJitterHours : Int := 6
def legacyRefreshPeriodMin : String := "refresh_period_minutes"
def legacyRefreshJitterMin : String := "refresh_jitter_minutes"

/-- One refresh setting in integer hours; a legacy minute value is converted by floor division. -/
def optionRefreshHours (options : Options) (hoursKey : String) (defaultHours : Int)
    (legacyMinutesKey : String) : Int :=
  match options hoursKey with
  | some hours => hours
  | none =>
    match options legacyMinutesKey with
    | some minutes => minutes / 60
    | none => defaultHours

def refreshPeriod (options : Options) : Timedelta :=
  Timedelta.hours (optionRefreshHours options confRefreshPeriodHours defaultRefreshPeriodHours
    legacyRefreshPeriodMin)

def refreshJitter (options : Options) : Timedelta :=
  Timedelta.hours (optionRefreshHours options confRefreshJitterHours defaultRefreshJitterHours
    legacyRefreshJitterMin)

/-! ## The scheduler -/

inductive BackgroundOp where
  /-- `await self.refresh_all()` -/
  | refreshAll
  | options
  | setPeriod (period : Timedelta)
  | setJitter (jitter : Timedelta)
  | period
  | jitter
  /-- `self._rng(lo, hi)` -/
  | rng (lo hi : ℚ)
  /-- `dt_util.now()` -/
  | now
  | stopped
  | setStopped
  | cancelTimer
  | setCancelTimer (h : Option Nat)
  /-- the call of a kept handle -/
  | callCancel (h : Nat)
  /-- `async_track_point_in_time(self._hass, self._run_cycle, point)` -/
  | trackPointInTime (point : Datetime)
  /-- the event loop takes a due timer out -/
  | takeTimer (h : Nat)

@[reducible] def BackgroundOp.Res : BackgroundOp → Type
  | refreshAll => Except PyErr Unit
  | options => Options
  | period | jitter => Timedelta
  | rng _ _ => ℚ
  | now => Datetime
  | stopped => Bool
  | cancelTimer => Option Nat
  | trackPointInTime _ => Nat
  | takeTimer _ => Option Datetime
  | _ => Unit

abbrev backgroundSig : Sig := ⟨BackgroundOp, BackgroundOp.Res⟩

/-- A coroutine of the key manager's scheduler. -/
abbrev Bg (α : Type) := Coro backgroundSig PyErr α

namespace Bg

def refreshAll : Bg Unit := .op .refreshAll .ofResult
def options : Bg Options := .op .options .ret
def setPeriod (period : Timedelta) : Bg Unit := .op (.setPeriod period) .ret
def setJitter (jitter : Timedelta) : Bg Unit := .op (.setJitter jitter) .ret
def period : Bg Timedelta := .op .period .ret
def jitter : Bg Timedelta := .op .jitter .ret
def rng (lo hi : ℚ) : Bg ℚ := .op (.rng lo hi) .ret
def now : Bg Datetime := .op .now .ret
def stopped : Bg Bool := .op .stopped .ret
def setStopped : Bg Unit := .op .setStopped .ret
def cancelTimer : Bg (Option Nat) := .op .cancelTimer .ret
def setCancelTimer (h : Option Nat) : Bg Unit := .op (.setCancelTimer h) .ret
def callCancel (h : Nat) : Bg Unit := .op (.callCancel h) .ret
def trackPointInTime (point : Datetime) : Bg Nat := .op (.trackPointInTime point) .ret
def takeTimer (h : Nat) : Bg (Option Datetime) := .op (.takeTimer h) .ret

end Bg

namespace DanalockKeyManager

open Bg

/-- Schedule one cycle after the period plus a fresh jitter draw. -/
def scheduleNext (base : Option Datetime) : Bg Unit := do
  let jitter ← Bg.jitter
  let jitterSeconds ← (if 0 < jitter then rng 0 jitter.totalSeconds else pure 0)
  let period ← Bg.period
  let delay := period + Timedelta.ofSeconds Python.binary64 jitterSeconds
  let start ← (match base with
    | some base => pure base
    | none => now)
  let h ← trackPointInTime (start + delay)
  setCancelTimer (some h)

/-- Arm the background cycle from the entry options. -/
def start : Bg Unit := do
  let options ← options
  setPeriod (refreshPeriod options)
  setJitter (refreshJitter options)
  let period ← Bg.period
  if period ≤ 0 then return ()
  else scheduleNext none

/-- Cancel the pending background refresh. -/
def stop : Bg Unit := do
  setStopped
  let cancel ← cancelTimer
  match cancel with
  | some h => do callCancel h; setCancelTimer none
  | none => return ()

/-- The `finally` of `_run_cycle`. -/
def rearm (now : Datetime) : Bg Unit := do
  let period ← Bg.period
  let stopped ← stopped
  if 0 < period && !stopped then scheduleNext (some now) else return ()

/-- The `try` statement of `_run_cycle` around the refresh. -/
def tryRefresh (now : Datetime) (refresh : Bg Unit) : Bg Unit :=
  tryFinally (tryExcept refresh fun err => if err.isException then return () else raise err)
    (rearm now)

/-- One background cycle; the next one draws a fresh jitter. -/
def runCycle (now : Datetime) : Bg Unit := do
  setCancelTimer none
  tryRefresh now Bg.refreshAll

end DanalockKeyManager

/-! ## The event loop -/

structure Background where
  options : Options
  period : Timedelta := 0
  jitter : Timedelta := 0
  /-- the current instant -/
  clock : Int
  /-- the jitter draws so far -/
  draws : Nat := 0
  stopped : Bool := false
  cancelTimer : Option Nat := none
  /-- the armed timers, with their instants -/
  timers : Timers Int := {}
  /-- every instant that was scheduled -/
  points : List Int := []
  /-- the cycles that began -/
  cycles : Nat := 0

/-- The random numbers: the result of the n-th draw in a range. -/
abbrev Rng := Nat → ℚ → ℚ → ℚ

/-- Every draw is in its range. -/
def Rng.InRange (rng : Rng) : Prop := ∀ n lo hi, lo ≤ hi → lo ≤ rng n lo hi ∧ rng n lo hi ≤ hi

namespace Background

/-- The operations that do not suspend. -/
def runOp (zone : TimeZone) (rng : Rng) (b : Background) :
    (o : BackgroundOp) → Option (o.Res × Background)
  | .refreshAll => none
  | .options => some (b.options, b)
  | .setPeriod period => some ((), { b with period := period })
  | .setJitter jitter => some ((), { b with jitter := jitter })
  | .period => some (b.period, b)
  | .jitter => some (b.jitter, b)
  | .rng lo hi => some (rng b.draws lo hi, { b with draws := b.draws + 1 })
  | .now => some (zone.asLocal b.clock, b)
  | .stopped => some (b.stopped, b)
  | .setStopped => some ((), { b with stopped := true })
  | .cancelTimer => some (b.cancelTimer, b)
  | .setCancelTimer h => some ((), { b with cancelTimer := h })
  | .callCancel h => some ((), { b with timers := b.timers.cancel h })
  | .trackPointInTime point =>
    some (b.timers.armed, { b with
      timers := b.timers.arm (zone.asUtc point), points := b.points ++ [zone.asUtc point] })
  | .takeTimer h =>
    some ((b.timers.find h).map zone.asLocal, { b with timers := b.timers.cancel h })

/-- A task starts to wait: a cycle has begun. -/
def parkOp (b : Background) : BackgroundOp → Background
  | .refreshAll => { b with cycles := b.cycles + 1 }
  | _ => b

/-- The refresh ends in any way, at any time. -/
def wakeOp (b : Background) : (o : BackgroundOp) → o.Res → Option Background
  | .refreshAll, _ => some b
  | _, _ => none

end Background

@[reducible] def backgroundMachine (zone : TimeZone) (rng : Rng) : Machine backgroundSig where
  State := Background
  Env := Int
  run _ o b := b.runOp zone rng o
  park _ o b := b.parkOp o
  wake _ o r b := b.wakeOp o r
  env now b := some { b with clock := now }

/-- What runs as a task of the scheduler. -/
inductive BackgroundRequest where
  | start
  /-- a timer is due -/
  | fire (h : Nat)
  | stop
  deriving DecidableEq, Repr

def BackgroundRequest.prog : BackgroundRequest → Bg Unit
  | start => DanalockKeyManager.start
  | fire h => do
    let point ← Bg.takeTimer h
    match point with
    | some point => DanalockKeyManager.runCycle point
    | none => return ()
  | stop => DanalockKeyManager.stop

abbrev BackgroundConfig (zone : TimeZone) (rng : Rng) :=
  Config (backgroundMachine zone rng) PyErr Unit BackgroundRequest

abbrev BackgroundLabel (zone : TimeZone) (rng : Rng) :=
  Label (backgroundMachine zone rng) BackgroundRequest

namespace BackgroundConfig

variable (zone : TimeZone) (rng : Rng) (options : Options) (clock : Int)

/-- A new key manager, without tasks. -/
def empty : BackgroundConfig zone rng where
  state := { options := options, clock := clock }
  tasks _ := none

/-- The key manager that the setup has started. -/
def init : BackgroundConfig zone rng :=
  Config.step BackgroundRequest.prog (empty zone rng options clock) (.spawn 0 .start)

/-- The configuration after a run of a started key manager. -/
def run (ls : List (BackgroundLabel zone rng)) : BackgroundConfig zone rng :=
  Runs.exec (Config.step BackgroundRequest.prog) (init zone rng options clock) ls

end BackgroundConfig

end DanalockBle
