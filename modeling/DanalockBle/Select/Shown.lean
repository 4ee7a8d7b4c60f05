import DanalockBle.Broadcast.Availability
import DanalockBle.Select.SharedRead
import Mathlib.Data.List.Nodup

/-!
# What the selects of a device show

The three setting selects of one device, with the option that each last wrote to Home Assistant. A
notification of the monitor reaches every select. A settings result changes three cached values at
once, and only the select that asked for it writes its state: the others go on showing their old
options (`shown_staleSibling`), unless the result leaves these alone (`selects_show`). Each step is
what happens between two suspensions.
-/

namespace DanalockBle

open Coroutine Coroutine.Coro DanalockDeviceState

/-- `_option_for`. -/
def DanalockSettingSelectEntity.optionFor (name : SettingName) (value : Int) : Option String :=
  ((settingOptions name).find? fun p => p.1 == value).map (·.2)

/-- `current_option` of the select of a device in the state. -/
def DanalockDeviceState.currentOption (state : DanalockDeviceState) (name : SettingName) :
    Option String :=
  (state.settingValues name).bind (DanalockSettingSelectEntity.optionFor name)

/-- Where the add of a select is. -/
inductive SelectPhase where
  | absent
  /-- `async_added_to_hass` awaits the settings read -/
  | awaiting (read : Nat)
  | added
  deriving DecidableEq, Repr

structure SelectBoard where
  device : Device
  /-- what each select registers with the monitor -/
  listener : SettingName → Listener
  phase : SettingName → SelectPhase := fun _ => .absent
  /-- the option that each select last wrote -/
  shown : SettingName → Option (Option String) := fun _ => none
  /-- the settings reads of the device, each with its end -/
  reads : List (Option ReadEnd) := []
  /-- `_PENDING_READS` for the serial of the device -/
  pendingRead : Option Nat := none
  /-- the selects whose write has not ended -/
  writing : List SettingName := []

inductive BoardEvent where
  | added (name : SettingName) (control : Bool)
  /-- `control.settings()` of the read ends -/
  | readEnds (read : Nat) (r : Except PyErr LockSettings)
  /-- the done callback of the read runs -/
  | cleanUp (read : Nat)
  /-- the `await` of an added select ends with its read -/
  | resumes (name : SettingName)
  /-- the `await` of an added select is cancelled -/
  | cancelled (name : SettingName)
  /-- a write of the select starts -/
  | selects (name : SettingName)
  /-- the write ends, in the verified settings or an exception -/
  | writeEnds (name : SettingName) (r : Except PyErr LockSettings)
  | advertisement (now : Instant) (report : BroadcastReport) (info : ServiceInfo)
  | refreshStates (now : Instant) (history : Address → Option ServiceInfo)
  | checkStale (now : Instant)

namespace SelectBoard

variable (b : SelectBoard)

/-- `async_write_ha_state` of the select. -/
def writeState (name : SettingName) : SelectBoard :=
  { b with shown := Function.update b.shown name (some (b.device.state.currentOption name)) }

def setPhase (name : SettingName) (phase : SelectPhase) : SelectBoard :=
  { b with phase := Function.update b.phase name phase }

def applySettings (settings : LockSettings) : SelectBoard :=
  { b with device := { b.device with state := b.device.state.applySettings settings } }

/-- A handler of the monitor has run: the listeners it called write their states. -/
def heard (d : Device) : SelectBoard :=
  { b with
    device := d
    shown := fun name =>
      if .call b.device.serial (b.listener name) ∈ d.out then some (d.state.currentOption name)
      else b.shown name }

/-- The `await` of `_async_ensure_settings_read`. -/
def awaitRead (name : SettingName) : SelectBoard :=
  match b.pendingRead with
  | some read => b.setPhase name (.awaiting read)
  | none =>
    { b with reads := b.reads ++ [none], pendingRead := some b.reads.length }.setPhase name
      (.awaiting b.reads.length)

/-- `async_added_to_hass` up to its `await`. Home Assistant writes the state of a select whose add
has no read to wait for. -/
def asyncAddedToHass (name : SettingName) (control : Bool) : SelectBoard :=
  let listening : SelectBoard := { b with
    device := { b.device with listeners := b.device.listeners ++ [b.listener name] } }
  if !control || b.device.state.settingsKnown then (listening.setPhase name .added).writeState name
  else listening.awaitRead name

/-- `_async_read_settings` after its `await` (`readSettings_eq`). -/
def endRead (i : Nat) (r : Except PyErr LockSettings) : SelectBoard :=
  match b.reads[i]? with
  | some none =>
    let ended : SelectBoard := { b with reads := b.reads.set i (some (ReadEnd.of r)) }
    match r with
    | .ok settings => ended.applySettings settings
    | .error _ => ended
  | _ => b

/-- `async_added_to_hass` after its `await`; a cancelled read is raised. -/
def resume (name : SettingName) : SelectBoard :=
  match b.phase name with
  | .awaiting i =>
    match (b.reads[i]?).join with
    | none => b
    | some .raised => b.setPhase name .absent
    | some _ => (b.setPhase name .added).writeState name
  | _ => b

/-- `async_select_option` after the `await` of its write. -/
def endWrite (name : SettingName) (r : Except PyErr LockSettings) : SelectBoard :=
  if name ∈ b.writing then
    let ended : SelectBoard := { b with writing := b.writing.erase name }
    match r with
    | .ok settings => (ended.applySettings settings).writeState name
    | .error _ => ended
  else b

def step : BoardEvent → SelectBoard
  | .added name control =>
    if b.phase name = .absent then b.asyncAddedToHass name control else b
  | .readEnds i r => b.endRead i r
  | .cleanUp i =>
    if b.pendingRead = some i ∧ ((b.reads[i]?).join).isSome = true then
      { b with pendingRead := none }
    else b
  | .resumes name => b.resume name
  | .cancelled name =>
    match b.phase name with
    | .awaiting _ => b.setPhase name .absent
    | _ => b
  | .selects name => { b with writing := name :: b.writing }
  | .writeEnds name r => b.endWrite name r
  | .advertisement now report info => b.heard ({ b.device with out := [] }.accept now report info)
  | .refreshStates now history => b.heard ({ b.device with out := [] }.poll now history)
  | .checkStale now => b.heard ({ b.device with out := [] }.check now)

/-- No operation of a select is in progress. -/
def quiet : Bool :=
  b.writing.isEmpty && b.reads.all Option.isSome &&
    settingFlagNames.all fun name => match b.phase name with
      | .awaiting _ => false
      | _ => true

/-- The result leaves the options of the added selects alone, but for those of `but`. -/
def keepsOptions (but : List SettingName) (settings : LockSettings) : Bool :=
  settingFlagNames.all fun name => but.contains name || b.phase name != .added ||
    (b.device.state.applySettings settings).currentOption name == b.device.state.currentOption name

/-- A settings result changes the option of no added select but the one that asked for it. -/
def keepsOthers : BoardEvent → Bool
  | .readEnds i (.ok settings) => b.reads[i]? != some none || b.keepsOptions [] settings
  | .writeEnds name (.ok settings) => !b.writing.contains name || b.keepsOptions [name] settings
  | _ => true

/-- The board of a device whose selects are not added yet. -/
def init (d : Device) (listener : SettingName → Listener) : SelectBoard where
  device := d
  listener := listener

/-- The board after a run. -/
def run (d : Device) (listener : SettingName → Listener) (es : List BoardEvent) : SelectBoard :=
  Runs.exec step (init d listener) es

/-! ## The invariant -/

/-- Every added select shows the cache, and every select that is or is being added listens. -/
structure Coherent (b : SelectBoard) : Prop where
  shown : ∀ name, b.phase name = .added →
    b.shown name = some (b.device.state.currentOption name)
  listening : ∀ name, b.phase name ≠ .absent → b.listener name ∈ b.device.listeners

section
variable {b}

theorem keepsOptions_spec {but : List SettingName} {settings : LockSettings}
    (h : b.keepsOptions but settings = true) {name : SettingName} (hbut : name ∉ but)
    (hadded : b.phase name = .added) :
    (b.device.state.applySettings settings).currentOption name =
      b.device.state.currentOption name := by
  have hname := List.all_eq_true.mp h name (by cases name <;> decide)
  simpa [hbut, hadded] using hname

namespace Coherent

/-- A select that writes its state shows the cache. -/
theorem writeState {name : SettingName}
    (hshown : ∀ name', name' ≠ name → b.phase name' = .added →
      b.shown name' = some (b.device.state.currentOption name'))
    (hlistening : ∀ name', b.phase name' ≠ .absent → b.listener name' ∈ b.device.listeners) :
    Coherent (b.writeState name) where
  shown name' hadded := by
    by_cases hne : name' = name
    · subst hne
      exact Function.update_self ..
    · exact (Function.update_of_ne hne ..).trans (hshown name' hne hadded)
  listening := hlistening

/-- A handler of the monitor tells every listener, or it changes no cached value. -/
theorem heard (h : Coherent b) {d : Device} (hlisteners : d.listeners = b.device.listeners)
    (hcalled : (∀ l ∈ b.device.listeners, .call b.device.serial l ∈ d.out) ∨
      d.state.settingValues = b.device.state.settingValues) : Coherent (b.heard d) where
  shown name hadded := by
    simp only [SelectBoard.heard]
    split
    · rfl
    · next hno =>
      rcases hcalled with hcalled | hvalues
      · have hlistens := h.listening name (by rw [show b.phase name = .added from hadded]; decide)
        exact absurd (hcalled _ hlistens) hno
      · rw [h.shown name hadded, currentOption, currentOption, hvalues]
  listening name hphase := by
    show b.listener name ∈ d.listeners
    rw [hlisteners]
    exact h.listening name hphase

/-- The phase of a select that is not added changes nothing that is shown. -/
theorem setPhase (h : Coherent b) {name : SettingName} {phase : SelectPhase}
    (hphase : phase ≠ .added)
    (hlistens : phase ≠ .absent → b.listener name ∈ b.device.listeners) :
    Coherent (b.setPhase name phase) where
  shown name' hadded := by
    by_cases hne : name' = name
    · subst hne
      exact absurd ((Function.update_self ..).symm.trans hadded) hphase
    · exact h.shown name' ((Function.update_of_ne hne ..).symm.trans hadded)
  listening name' hnot := by
    by_cases hne : name' = name
    · subst hne
      refine hlistens fun heq => hnot ?_
      rw [← heq]
      exact Function.update_self ..
    · exact h.listening name' fun heq => hnot ((Function.update_of_ne hne ..).trans heq)

/-- A select that is added writes its state. -/
theorem finishAdd (h : Coherent b) {name : SettingName}
    (hlistens : b.listener name ∈ b.device.listeners) :
    Coherent ((b.setPhase name .added).writeState name) := by
  refine writeState (fun name' hne hadded => ?_) fun name' hnot => ?_
  · exact h.shown name' ((Function.update_of_ne hne ..).symm.trans hadded)
  · by_cases hne : name' = name
    · subst hne
      exact hlistens
    · exact h.listening name' fun heq => hnot ((Function.update_of_ne hne ..).trans heq)

theorem listen (h : Coherent b) (l : Listener) : Coherent { b with
    device := { b.device with listeners := b.device.listeners ++ [l] } } where
  shown := h.shown
  listening name hnot := List.mem_append_left _ (h.listening name hnot)

/-- The reads and the writes in flight are shown nowhere. -/
theorem frame (h : Coherent b) (reads : List (Option ReadEnd)) (pendingRead : Option Nat)
    (writing : List SettingName) : Coherent { b with
      reads := reads, pendingRead := pendingRead, writing := writing } :=
  ⟨h.shown, h.listening⟩

theorem asyncAddedToHass (h : Coherent b) (name : SettingName) (control : Bool) :
    Coherent (b.asyncAddedToHass name control) := by
  have hlistening := h.listen (b.listener name)
  have hlistens : b.listener name ∈ b.device.listeners ++ [b.listener name] := by simp
  unfold SelectBoard.asyncAddedToHass
  simp only
  split
  · exact hlistening.finishAdd hlistens
  · unfold SelectBoard.awaitRead
    split
    · exact hlistening.setPhase (by rintro ⟨⟩) fun _ => hlistens
    · exact (hlistening.frame _ _ _).setPhase (by rintro ⟨⟩) fun _ => hlistens

theorem endRead (h : Coherent b) (i : Nat) (r : Except PyErr LockSettings)
    (hkeeps : b.keepsOthers (.readEnds i r) = true) : Coherent (b.endRead i r) := by
  unfold SelectBoard.endRead
  split
  · next hread =>
    cases r with
    | error err => exact h.frame _ _ _
    | ok settings =>
      have hoptions : b.keepsOptions [] settings = true := by
        simpa [keepsOthers, hread] using hkeeps
      refine ⟨fun name hadded => ?_, h.listening⟩
      exact (h.shown name hadded).trans
        (congrArg some (keepsOptions_spec hoptions (by simp) hadded).symm)
  · exact h

theorem endWrite (h : Coherent b) (name : SettingName) (r : Except PyErr LockSettings)
    (hkeeps : b.keepsOthers (.writeEnds name r) = true) : Coherent (b.endWrite name r) := by
  unfold SelectBoard.endWrite
  split
  · next hwriting =>
    cases r with
    | error err => exact h.frame _ _ _
    | ok settings =>
      have hoptions : b.keepsOptions [name] settings = true := by
        simpa [keepsOthers, hwriting] using hkeeps
      refine writeState (fun name' hne hadded => ?_) h.listening
      exact (h.shown name' hadded).trans
        (congrArg some (keepsOptions_spec hoptions (by simpa using hne) hadded).symm)
  · exact h

theorem resume (h : Coherent b) (name : SettingName) : Coherent (b.resume name) := by
  unfold SelectBoard.resume
  split
  · next i hphase =>
    have hlistens := h.listening name (by rw [hphase]; rintro ⟨⟩)
    split
    · exact h
    · exact h.setPhase (by rintro ⟨⟩) fun hno => absurd rfl hno
    · exact h.finishAdd hlistens
  · exact h

/-- A report that the counter gate lets through is announced to every listener. -/
theorem advertisement (h : Coherent b) (now : Instant) (report : BroadcastReport)
    (info : ServiceInfo) :
    Coherent (b.heard ({ b.device with out := [] }.accept now report info)) := by
  refine h.heard (Device.accept_listeners ..) ?_
  cases hchanged : b.device.state.reportChanged report with
  | true =>
    refine .inl fun l hl => ?_
    refine (Device.call_mem_accept { b.device with out := [] } now report info l).mpr
      (.inr ⟨?_, hl⟩)
    simp [Device.acceptNotifies, hchanged]
  | false =>
    refine .inr (funext fun name => ?_)
    rw [Device.accept_state, accepted_settingValues]
    simp [hchanged]

theorem refreshStates (h : Coherent b) (now : Instant) (history : Address → Option ServiceInfo) :
    Coherent (b.heard ({ b.device with out := [] }.poll now history)) := by
  refine h.heard (Device.poll_listeners ..) (.inr ?_)
  rw [Device.poll_state]
  split <;> rfl

theorem checkStale (h : Coherent b) (now : Instant) :
    Coherent (b.heard ({ b.device with out := [] }.check now)) := by
  refine h.heard (Device.check_listeners ..) (.inr ?_)
  rw [Device.check_state]

/-- **One step.** -/
theorem step (h : Coherent b) {e : BoardEvent} (hkeeps : b.keepsOthers e = true) :
    Coherent (b.step e) := by
  cases e with
  | added name control =>
    simp only [SelectBoard.step]
    split
    · exact h.asyncAddedToHass name control
    · exact h
  | readEnds i r => exact h.endRead i r hkeeps
  | cleanUp i =>
    simp only [SelectBoard.step]
    split
    · exact h.frame _ _ _
    · exact h
  | resumes name => exact h.resume name
  | cancelled name =>
    simp only [SelectBoard.step]
    split
    · exact h.setPhase (by rintro ⟨⟩) fun hno => absurd rfl hno
    · exact h
  | selects name => exact h.frame _ _ _
  | writeEnds name r => exact h.endWrite name r hkeeps
  | advertisement now report info => exact h.advertisement now report info
  | refreshStates now history => exact h.refreshStates now history
  | checkStale now => exact h.checkStale now

end Coherent

end

def exampleDevice : Device :=
  (Monitor.init ["L1"] (List.nodup_singleton "L1") exampleKeys).device "L1"

def exampleListener : SettingName → Listener
  | .autoLock => 0
  | .brakeAndGoBack => 1
  | .blockedToBlocked => 2

/-- Two selects are added and share a read. -/
def addedTogether : List BoardEvent :=
  [.added .autoLock true, .added .brakeAndGoBack true, .readEnds 0 (.ok ⟨5, 0, 3, 0⟩), .cleanUp 0,
    .resumes .autoLock, .resumes .brakeAndGoBack]

/-- Then a write of one select reads back another value of the other one's setting. -/
def staleSibling : List BoardEvent :=
  addedTogether ++ [.selects .autoLock, .writeEnds .autoLock (.ok ⟨5, 5, 10, 0⟩)]

end SelectBoard

end DanalockBle
