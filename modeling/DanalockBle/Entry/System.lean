import DanalockBle.Broadcast.Run
import DanalockBle.Control.Attempt
import DanalockBle.Lib.Scheduler

/-!
# The config entry as one event loop

The state that the coroutines of a config entry share, and the machine that runs them: the
monitor with the key dictionary, and for each device its control and its refresh lock. What is
assumed of the facade: a command and `disconnect` run under the facade's own lock, first come
first served; a command opens a session through the control's transport factory and gets a reply
of the lock (a value or a `CommandError`) only over a session; `disconnect` closes it. A task
that is cancelled gives up its place in the queue.
-/

namespace DanalockBle

open Coroutine

/-- A facade object; `queue` holds the tasks that wait for its lock, with whether they wait to run
a command. The head has the lock. -/
structure Facade where
  loginToken : Bytes
  session : Bool := false
  queue : List (TaskId × Bool) := []

/-- The control of one device with every facade it built; the last one is `self._lock`. The head
of `refreshQueue` holds the device's refresh lock. -/
structure Control where
  gen : Nat
  facades : Nat → Facade
  refreshQueue : List TaskId := []
  isLocking : Bool := false
  isUnlocking : Bool := false

structure Entry where
  monitor : Monitor
  controls : Serial → Control
  /-- the answers of `key_expired` at this time -/
  expired : DeviceKey → Bool

namespace Entry

def setControl (e : Entry) (serial : Serial) (c : Control) : Entry :=
  { e with controls := Function.update e.controls serial c }

def setFacade (e : Entry) (f : FacadeRef) (facade : Facade) : Entry :=
  let c := e.controls f.serial
  e.setControl f.serial { c with facades := Function.update c.facades f.gen facade }

def facade (e : Entry) (f : FacadeRef) : Facade := (e.controls f.serial).facades f.gen

/-- `self._lock` of the device's control. -/
def current (e : Entry) (serial : Serial) : FacadeRef := ⟨serial, (e.controls serial).gen⟩

def setQueue (e : Entry) (f : FacadeRef) (queue : List (TaskId × Bool)) : Entry :=
  e.setFacade f { e.facade f with queue := queue }

def setSession (e : Entry) (f : FacadeRef) (session : Bool) : Entry :=
  e.setFacade f { e.facade f with session := session }

/-- The task gives up its place in the facade's queue. -/
def leave (e : Entry) (f : FacadeRef) (t : TaskId) : Entry :=
  e.setQueue f ((e.facade f).queue.filter (·.1 != t))

def setRefreshQueue (e : Entry) (serial : Serial) (queue : List TaskId) : Entry :=
  e.setControl serial { e.controls serial with refreshQueue := queue }

def refreshQueue (e : Entry) (serial : Serial) : List TaskId := (e.controls serial).refreshQueue

/-- `self._lock = DanalockLock(…)`. -/
def buildFacade (e : Entry) (serial : Serial) (loginToken : Bytes) : Entry :=
  let c := e.controls serial
  e.setControl serial { c with
    gen := c.gen + 1
    facades := Function.update c.facades (c.gen + 1) { loginToken := loginToken } }

/-- The entry as `async_setup_entry` builds it: a control for each key. -/
def init (serials : List Serial) (nodup : serials.Nodup) (keys : Serial → DeviceKey) : Entry where
  monitor := .init serials nodup keys
  controls serial := { gen := 0, facades := fun _ => { loginToken := (keys serial).loginBlob } }
  expired _ := false

end Entry

/-- A rejection is a reply of the lock. -/
def PyErr.isReply : PyErr → Bool
  | commandError _ _ => true
  | _ => false

/-- The call got a reply of the lock. -/
def replied {α : Type} : Except PyErr α → Bool
  | .ok _ => true
  | .error err => err.isReply

/-- What happens outside the tasks. -/
inductive EnvEvent where
  /-- a handler of the monitor runs, or a listener comes or goes -/
  | monitor (e : Timed)
  /-- the command at the head of the queue opens the facade's session -/
  | connect (f : FacadeRef) (deviceFor : Address → Bool → Option Unit)
  /-- the session ends on its own -/
  | drop (f : FacadeRef)
  /-- time passes for the keys -/
  | expire (expired : DeviceKey → Bool)

/-- The events of the monitor's own; the others are writes by tasks. -/
def Event.isOwn : Event → Bool
  | .storeKey _ _ | .setPending _ _ | .applySettings _ _ => false
  | _ => true

namespace Entry

/-- The operations that do not suspend. -/
def runOp (t : TaskId) (e : Entry) : (o : Op) → Option (o.Res × Entry)
  | .lockRef serial => some (e.current serial, e)
  | .buildFacade serial loginToken => some ((), e.buildFacade serial loginToken)
  | .call _ _ => none
  | .disconnect _ => none
  | .key serial => some (e.monitor.keys serial, e)
  | .keyExpired key => some (e.expired key, e)
  | .acquireRefresh serial =>
    if e.refreshQueue serial = [] then some (.ok (), e.setRefreshQueue serial [t]) else none
  | .releaseRefresh serial => some ((), e.setRefreshQueue serial ((e.refreshQueue serial).erase t))
  | .getKey _ _ => none
  | .storeKey serial key => some ((), { e with monitor := e.monitor.storeKey serial key })
  | .boundControl serial => some (decide (serial ∈ e.monitor.serials), e)
  | .notifyKey _ => some ((), e)
  | .startReauth => some ((), e)
  | .keySerials => some (e.monitor.serials, e)
  | .setInProgress serial locking unlocking =>
    some ((), e.setControl serial
      { e.controls serial with isLocking := locking, isUnlocking := unlocking })
  | .writeState _ => some ((), e)
  | .setPending serial locked => some ((), { e with monitor := e.monitor.setPending serial locked })
  | .applySettings serial settings =>
    some ((), { e with monitor := e.monitor.applySettings serial settings })

/-- A task starts to wait. -/
def parkOp (t : TaskId) (e : Entry) : Op → Entry
  | .call f _ => e.setQueue f ((e.facade f).queue ++ [(t, true)])
  | .disconnect f => e.setQueue f ((e.facade f).queue ++ [(t, false)])
  | .acquireRefresh serial => e.setRefreshQueue serial (e.refreshQueue serial ++ [t])
  | _ => e

/-- The end of a facade command: a reply needs the session, every end but a cancellation the
lock. -/
def endCall {α : Type} (t : TaskId) (e : Entry) (f : FacadeRef) (r : Except PyErr α) :
    Option Entry :=
  match r with
  | .error .cancelledError => some (e.leave f t)
  | r =>
    if (e.facade f).queue.head? = some (t, true) ∧ (replied r = true → (e.facade f).session = true)
    then some (e.leave f t) else none

/-- The end of a facade disconnect. -/
def endDisconnect (t : TaskId) (e : Entry) (f : FacadeRef) (r : Except PyErr Unit) :
    Option Entry :=
  match r with
  | .error .cancelledError => some (e.leave f t)
  | .error err =>
    if (e.facade f).queue.head? = some (t, false) ∧
        (err.isReply = true → (e.facade f).session = true)
    then some (e.leave f t) else none
  | .ok _ =>
    if (e.facade f).queue.head? = some (t, false) then some ((e.setSession f false).leave f t)
    else none

/-- A wait ends. -/
def wakeOp (t : TaskId) (e : Entry) : (o : Op) → o.Res → Option Entry
  | .call f _, r => e.endCall t f r
  | .disconnect f, r => e.endDisconnect t f r
  | .acquireRefresh serial, .ok _ =>
    if (e.refreshQueue serial).head? = some t then some e else none
  | .acquireRefresh serial, .error .cancelledError =>
    some (e.setRefreshQueue serial ((e.refreshQueue serial).erase t))
  | .acquireRefresh _, .error _ => none
  | .getKey _ _, _ => some e
  | _, _ => none

def envStep (parse : ParseBroadcast) (e : Entry) : EnvEvent → Option Entry
  | .monitor ev =>
    if ev.event.isOwn then some { e with monitor := e.monitor.step parse ev } else none
  | .connect f deviceFor =>
    if ((e.facade f).queue.head?.any (·.2)) = true ∧
        (DanalockControl.transportFactory (e.monitor.states f.serial).address deviceFor).isOk = true
    then some (e.setSession f true) else none
  | .drop f => some (e.setSession f false)
  | .expire expired => some { e with expired := expired }

end Entry

/-- The event loop of a config entry. -/
@[reducible] def entryMachine (parse : ParseBroadcast) : Machine sig where
  State := Entry
  Env := EnvEvent
  run t o e := e.runOp t o
  park t o e := e.parkOp t o
  wake t o r e := e.wakeOp t o r
  env ev e := e.envStep parse ev

/-- What runs as a task: the commands of the controls, the actions of the entities, the entry's
unload, the key refreshes. -/
inductive Request where
  | command (serial : Serial) (m : Method)
  | lock (serial : Serial) (targetLocked : Bool)
  | press (serial : Serial) (suffix : String) (point : Int)
  | selectOption (serial : Serial) (name : SettingName) (option : String)
  | readSettings (serial : Serial)
  | disconnect (serial : Serial)
  | setKey (serial : Serial) (key : DeviceKey)
  | refresh (serial : Serial) (force : Bool)
  | refreshAll
  deriving DecidableEq, Repr

def Request.prog : Request → Py Unit
  | command serial m => do let _ ← DanalockControl.run serial m
  | lock serial targetLocked => DanalockLockEntity.operate serial targetLocked
  | press serial suffix point => DanalockCalibrationButton.press serial suffix point
  | selectOption serial name option =>
    DanalockSettingSelectEntity.selectOption serial name option
  | readSettings serial => DanalockSettingSelectEntity.readSettings serial
  | disconnect serial => DanalockControl.disconnect serial
  | setKey serial key => DanalockControl.setKey serial key
  | refresh serial force => do let _ ← DanalockKeyManager.refresh serial force
  | refreshAll => DanalockKeyManager.refreshAll

/-- A configuration of an entry, and the steps of its event loop. -/
abbrev EntryConfig (parse : ParseBroadcast) := Config (entryMachine parse) PyErr Unit Request

abbrev EntryLabel (parse : ParseBroadcast) := Label (entryMachine parse) Request

namespace EntryConfig

variable (parse : ParseBroadcast) (serials : List Serial) (nodup : serials.Nodup)
  (keys : Serial → DeviceKey)

def init : EntryConfig parse where
  state := .init serials nodup keys
  tasks _ := none

/-- The configuration after a run of a new entry. -/
def run (ls : List (EntryLabel parse)) : EntryConfig parse :=
  Runs.exec (Config.step Request.prog) (init parse serials nodup keys) ls

/-- All tasks have ended when the first `n` have and the run spawns no other. -/
theorem run_ended {ls : List (EntryLabel parse)} (n : Nat)
    (hls : ls.all (·.spawnsBelow n) = true)
    (hn : ∀ t < n, ((run parse serials nodup keys ls).tasks t).isNone = true) (t : TaskId) :
    (run parse serials nodup keys ls).tasks t = none :=
  Config.exec_ended Request.prog (fun _ => rfl) n hls hn t

end EntryConfig

/-- The replies of a lock that does all it is told: commands without a result and disconnects
succeed. -/
def done : (o : Op) → Option o.Res
  | .call _ .lock => some (.ok ())
  | .call _ .unlock => some (.ok ())
  | .call _ (.setCalibrationPoint _) => some (.ok ())
  | .disconnect _ => some (.ok ())
  | _ => none

/-- A lock that answers every settings command with these settings, and does all else. -/
def settingsReply (settings : LockSettings) : (o : Op) → Option o.Res
  | .call _ .settings => some (.ok settings)
  | .call _ (.setAutoLock _) => some (.ok settings)
  | o => done o

end DanalockBle
