import DanalockBle.Entry.Requests

/-!
# The answers to settings reads and writes

An observer records with which settings the lock answers, and whether the disconnect that follows
the call has ended. A task that has an answer disconnects what `self._lock` is then, and writes the
cache once the disconnect has ended; nothing else writes the cache.
-/

namespace DanalockBle

open Coroutine Coroutine.Coro DanalockDeviceState

/-- The settings a command read back. -/
def Method.readBack : (m : Method) → Except PyErr m.Result → Option LockSettings
  | settings, r => r.toOption
  | setAutoLock _, r => r.toOption
  | setBrakeAndGoBack _, r => r.toOption
  | setEndToEnd _, r => r.toOption
  | _, _ => none

/-- The command reads the settings back. -/
def Method.readsBack : Method → Bool
  | settings | setAutoLock _ | setBrakeAndGoBack _ | setEndToEnd _ => true
  | _ => false

@[simp] theorem Method.readBack_error (m : Method) (err : PyErr) :
    m.readBack (.error err) = none := by
  cases m <;> rfl

theorem Method.readBack_none {m : Method} (h : m.readsBack = false)
    (r : Except PyErr m.Result) : m.readBack r = none := by
  cases m <;> first | rfl | cases h

/-- The settings with which the lock of the device answers a command to `s`. -/
def Method.answer (serial s : Serial) (m : Method) (r : Except PyErr m.Result) :
    Option LockSettings :=
  if s = serial then m.readBack r else none

@[simp] theorem Method.answer_error (serial s : Serial) (m : Method) (err : PyErr) :
    m.answer serial s (.error err) = none := by
  unfold answer
  split
  · exact m.readBack_error err
  · rfl

theorem Method.answer_none {serial s : Serial} {m : Method} (h : m.readsBack = false)
    (r : Except PyErr m.Result) : m.answer serial s r = none := by
  unfold answer
  split
  · exact m.readBack_none h r
  · rfl

def Op.answer (serial : Serial) : (o : Op) → o.Res → Option LockSettings
  | .call f m, r => m.answer serial f.serial r
  | _, _ => none

/-- An answer of the lock to a settings read or write; it is pending until the disconnect that
follows its call has ended. -/
structure Answer where
  task : TaskId
  settings : LockSettings
  pending : Bool

/-- The task's attempt has ended. -/
def Answer.close (t : TaskId) (x : Answer) : Answer :=
  if x.task = t then { x with pending := false } else x

/-- The answer is not that of the task's attempt. -/
def Answer.survives (t : TaskId) (x : Answer) : Bool := !(x.task == t && x.pending)

/-- The answers of the lock, newest first. An attempt whose disconnect fails has failed. -/
def Answer.see (serial : Serial) (t : TaskId) : (o : Op) → o.Res → Entry → List Answer →
    List Answer
  | .call f m, r, _, a =>
    match m.answer serial f.serial r with
    | some settings => ⟨t, settings, true⟩ :: a
    | none => a
  | .disconnect _, .ok _, _, a => a.map (close t)
  | .disconnect _, .error _, _, a => a.filter (survives t)
  | _, _, _, a => a

/-- The settings of the newest answer, and what was known before it. -/
def Answer.shown (start : SettingName → Option Int) : List Answer → SettingName → Option Int
  | [], name => start name
  | x :: _, name => some (settingOf x.settings name)

/-- The event advances the counter of the device. -/
def EnvEvent.advances (parse : ParseBroadcast) (serial : Serial) (e : Entry) : EnvEvent → Bool
  | .monitor ev =>
    match e.monitor.deviceEvent parse ev.event serial with
    | .accept report _ => decide (report.Ahead (e.monitor.states serial).report)
    | _ => false
  | _ => false

/-- The event loop of a config entry in which no broadcast advances the counter of the device. -/
@[reducible] def quietMachine (parse : ParseBroadcast) (serial : Serial) : Machine sig :=
  { entryMachine parse with
    env := fun ev e => if ev.advances parse serial e then none else e.envStep parse ev }

/-- With the answers of the lock of one device. -/
@[reducible] def answerMachine (parse : ParseBroadcast) (serial : Serial) : Machine sig :=
  (quietMachine parse serial).observed (Answer.see serial)

/-- Settings are read and written by the select entities. -/
def Request.isOperation : Request → Bool
  | command _ m => !m.readsBack
  | _ => true

/-- Every operation with an answer that it has not shown waits for the disconnect of the current
facade. -/
def Entry.queuedAnswers (serial : Serial) (e : Entry) (answers : List Answer) : Bool :=
  answers.all fun x => !x.pending || decide ((x.task, false) ∈ (e.facade (e.current serial)).queue)

/-- Any end of any operation. -/
def operationGuard (parse : ParseBroadcast) (serial : Serial) :
    Guard (answerMachine parse serial) Request where
  spawn := Request.isOperation
  op _ _ _ _ := true

/-- The lock answers a settings read or write only when the earlier answers have been shown or
wait in the current facade's queue. -/
def orderGuard (parse : ParseBroadcast) (serial : Serial) :
    Guard (answerMachine parse serial) Request where
  spawn := Request.isOperation
  op _ o r s := (o.answer serial r).isNone || s.1.queuedAnswers serial s.2

/-! ## What a task does -/

/-- Where a task is in a settings read or write of the device: it has the answer, its cleanup has
read `self._lock`, its attempt has ended. -/
inductive Stage where
  | free
  | answered (settings : LockSettings)
  | closing (settings : LockSettings) (f : FacadeRef)
  | applying (settings : LockSettings)

/-- The settings the task has not shown yet. -/
def Stage.owed : Stage → Option LockSettings
  | free => none
  | answered settings | closing settings _ | applying settings => some settings

/-- The stage after a call. -/
def Stage.got : Option LockSettings → Stage
  | none => free
  | some settings => answered settings

/-- The stage after an attempt. -/
def Stage.due : Option LockSettings → Stage
  | none => free
  | some settings => applying settings

/-- An answer is followed by the disconnect of what `self._lock` is then, and by the write of the
cache; nothing else writes the cache. -/
@[reducible] def answering (serial : Serial) : Protocol sig where
  Ghost := Stage
  may
    | .free, .applySettings s _ => s ≠ serial
    | .free, _ => True
    | .answered _, .lockRef s => s = serial
    | .closing _ f, .disconnect f' => f' = f
    | .applying settings, .applySettings s settings' => s = serial ∧ settings' = settings
    | _, _ => False
  after
    | .free, .lockRef s, f => if f.serial = s then some .free else none
    | .free, .call f m, r => some (.got (m.answer serial f.serial r))
    | .answered settings, .lockRef _, f => some (.closing settings f)
    | .closing settings _, .disconnect _, .ok _ => some (.applying settings)
    | .closing _ _, .disconnect _, .error _ => some .free
    | .applying _, .applySettings _ _, _ => some .free
    | g, _, _ => some g

/-- The task owes nothing to the cache, before and after. -/
abbrev Clear {α : Type} (serial : Serial) (c : Py α) : Prop := Restores (answering serial) .free c

section
variable {serial : Serial} {α : Type}

theorem Clear.op {o : Op} {k : o.Res → Py α} (hmay : (answering serial).may .free o)
    (hafter : ∀ r, (answering serial).after .free o r = some .free)
    (hk : ∀ r, Clear serial (k r)) : Clear serial (.op o k : Py α) :=
  Restores.op hmay (fun r g hg => by rw [hafter] at hg; exact (Option.some.inj hg).symm) hk

/-- Reading `self._lock`. -/
theorem Clear.lockRef {s : Serial} {k : FacadeRef → Py α} (hk : ∀ f, Clear serial (k f)) :
    Clear serial (.op (.lockRef s) k : Py α) := by
  refine Restores.op trivial (fun f g hg => ?_) hk
  simp only at hg
  split at hg
  · exact (Option.some.inj hg).symm
  · cases hg

theorem disconnect_clear (s : Serial) : Clear serial (DanalockControl.disconnect s) :=
  Clear.lockRef fun _ => Clear.op trivial (fun _ => rfl)
    Restores.ofResult

theorem refresh_clear (s : Serial) (force : Bool) :
    Clear serial (DanalockKeyManager.refresh s force) := by
  have hX := Restores.compositional (ε := PyErr) (answering serial) .free
  have hset : ∀ key, Clear serial (DanalockControl.setKey s key) :=
    setKey_of_parts s hX (disconnect_clear s) fun _ =>
      Clear.op trivial (fun _ => rfl) Restores.ret
  refine refresh_of_parts s hX ?_ (fun _ => ?_) (fun _ => ?_) ?_ hset ?_ ?_ force
  · exact Clear.op trivial (fun _ => rfl) Restores.ofResult
  · exact Clear.op trivial (fun _ => rfl) Restores.ofResult
  · exact Clear.op trivial (fun _ => rfl) Restores.ret
  · exact Clear.op trivial (fun _ => rfl) Restores.ret
  · exact Clear.op trivial (fun _ => rfl) Restores.ret
  · exact Clear.op trivial (fun _ => rfl) Restores.ret

/-- After its call a task has what the lock answered. -/
theorem callLock_answering (s : Serial) (m : Method) :
    Meets (answering serial) .free (DanalockControl.callLock s m) fun r g =>
      g = .got (m.answer serial s r) := by
  refine ⟨trivial, fun f g hg => ?_⟩
  simp only at hg
  split at hg
  · next hf =>
    obtain rfl := Option.some.inj hg
    refine ⟨trivial, fun r g hg => ?_⟩
    obtain rfl := Option.some.inj hg
    rw [hf]
    cases r <;> rfl
  · cases hg

theorem got_error (s : Serial) (m : Method) (err : PyErr) :
    Stage.free = .got (m.answer serial s (.error err)) :=
  (congrArg Stage.got (Method.answer_error ..)).symm

theorem due_error (s : Serial) (m : Method) (err : PyErr) :
    Stage.free = .due (m.answer serial s (.error err)) :=
  (congrArg Stage.due (Method.answer_error ..)).symm

theorem body_answering (s : Serial) (m : Method) :
    Meets (answering serial) .free (DanalockControl.body s m) fun r g =>
      g = .got (m.answer serial s r) := by
  cases m with
  | deviceInformation =>
    refine Meets.tryExcept ((callLock_answering s _).mono fun r g hg => ?_)
    cases r with
    | ok v => exact hg
    | error e =>
      rw [Method.answer_error] at hg
      subst hg
      cases e <;> exact got_error s .deviceInformation _
  | _ => exact callLock_answering s _

/-- An attempt that the lock has answered ends in the settings, or in a failed disconnect. -/
theorem attemptCall_answering (s : Serial) (m : Method) :
    Meets (answering serial) .free (DanalockControl.attemptCall s (DanalockControl.body s m))
      fun r g => g = .due (m.answer serial s r) := by
  refine Meets.tryFinally ((body_answering s m).mono fun r g hg => ?_)
  subst hg
  cases ha : m.answer serial s r with
  | none =>
    refine (disconnect_clear s).mono fun r' g hg => ?_
    subst hg
    cases r' with
    | ok u => rfl
    | error e => exact due_error s m e
  | some settings =>
    have hs : s = serial := by
      unfold Method.answer at ha
      split at ha
      · assumption
      · cases ha
    refine ⟨hs, fun f g hg => ?_⟩
    obtain rfl := Option.some.inj hg
    refine ⟨rfl, fun r' g hg => ?_⟩
    cases r' with
    | ok u =>
      obtain rfl := Option.some.inj hg
      rfl
    | error e =>
      obtain rfl := Option.some.inj hg
      exact due_error s m e

/-- A failed attempt that is not repeated. -/
theorem settle_answering (s : Serial) (m : Method) (err : PyErr) :
    Meets (answering serial) .free
      (ofResult (DanalockControl.settle (DanalockControl.rejected m) err) : Py m.Result)
      fun r g => g = .due (m.answer serial s r) := by
  cases hb : m.readsBack with
  | false =>
    have hnone : ∀ r, Stage.due (m.answer serial s r) = .free := fun r =>
      congrArg Stage.due (Method.answer_none hb r)
    cases DanalockControl.settle (DanalockControl.rejected m) err with
    | ok v => exact (hnone _).symm
    | error e => exact (hnone _).symm
  | true =>
    have herr : ∃ e, DanalockControl.settle (DanalockControl.rejected m) err = .error e := by
      cases m <;> first | (cases hb; done) | (cases err <;> exact ⟨_, rfl⟩)
    obtain ⟨e, he⟩ := herr
    rw [he]
    exact due_error s m e

/-- A command ends in the settings the lock answered, if any. -/
theorem run_answering (s : Serial) (m : Method) :
    Meets (answering serial) .free (DanalockControl.run s m) fun r g =>
      g = .due (m.answer serial s r) := by
  have hX := Restores.compositional (ε := PyErr) (answering serial) .free
  have hcheck : Clear serial (DanalockControl.refreshIfExpired s) :=
    refreshIfExpired_of_parts s hX refresh_clear
      (Clear.op trivial (fun _ => rfl) Restores.ret) fun _ =>
        Clear.op trivial (fun _ => rfl) Restores.ret
  have hrejected : Clear serial (DanalockControl.refreshAfterRejection s) :=
    refreshAfterRejection_of_parts s hX refresh_clear
  rw [DanalockControl.run_eq]
  refine Meets.bind (hcheck.mono fun r g hg => ?_)
  subst hg
  cases r with
  | error e => exact due_error s m e
  | ok u =>
    refine Meets.tryExcept ((attemptCall_answering s m).mono fun r g hg => ?_)
    cases r with
    | ok v => exact hg
    | error err =>
      rw [Method.answer_error] at hg
      subst hg
      simp only
      split
      · refine Meets.bind (hrejected.mono fun r g hg => ?_)
        subst hg
        cases r with
        | error e => exact due_error s m e
        | ok u =>
          refine Meets.tryExcept ((attemptCall_answering s m).mono fun r g hg => ?_)
          cases r with
          | ok v => exact hg
          | error e =>
            rw [Method.answer_error] at hg
            subst hg
            exact settle_answering s m e
      · exact settle_answering s m err

/-- A command that reads no settings back. -/
theorem run_clear (s : Serial) {m : Method} (hm : m.readsBack = false) :
    Clear serial (DanalockControl.run s m) := by
  refine (run_answering s m).mono fun r g hg => ?_
  rw [Method.answer_none hm] at hg
  exact hg

/-- The settings a command returned are written to the cache. -/
theorem apply_clear (s : Serial) (settings : LockSettings) {k : Unit → Py α}
    (hk : Clear serial (k ())) :
    Meets (answering serial) (.due (if s = serial then some settings else none))
      (.op (.applySettings s settings) k : Py α) fun _ g => g = .free := by
  by_cases hs : s = serial
  · rw [if_pos hs]
    refine ⟨⟨hs, rfl⟩, fun _ g hg => ?_⟩
    obtain rfl := Option.some.inj hg
    exact hk
  · rw [if_neg hs]
    refine ⟨hs, fun _ g hg => ?_⟩
    obtain rfl := Option.some.inj hg
    exact hk

theorem settingWrite_answering (s : Serial) (name : SettingName) (value : Int) :
    Meets (answering serial) .free (DanalockSettingSelectEntity.settingWrite s name value)
      fun r g => g = .due (if s = serial then r.toOption else none) := by
  cases name with
  | autoLock => exact run_answering s (.setAutoLock value)
  | brakeAndGoBack => exact run_answering s (.setBrakeAndGoBack value)
  | blockedToBlocked => exact run_answering s (.setEndToEnd value)

theorem readSettings_clear (s : Serial) :
    Clear serial (DanalockSettingSelectEntity.readSettings s) := by
  rw [readSettings_eq]
  refine Meets.andThen ((run_answering s .settings).mono fun r g hg => ?_)
  subst hg
  cases r with
  | ok settings => exact apply_clear s settings (Restores.ret ())
  | error err =>
    rw [Method.answer_error]
    simp only
    split <;> rfl

theorem selectOption_clear (s : Serial) (name : SettingName) (option : String) :
    Clear serial (DanalockSettingSelectEntity.selectOption s name option) := by
  refine selectOption_of_write s (Restores.compositional (answering serial) .free)
    (Clear.op trivial (fun _ => rfl) Restores.ret) name (fun value => ?_)
    option
  refine Meets.bind ((settingWrite_answering s name value).mono fun r g hg => ?_)
  subst hg
  cases r with
  | ok settings =>
    exact apply_clear s settings
      (Clear.op trivial (fun _ => rfl) Restores.ret)
  | error err =>
    show Stage.due (if s = serial then none else none) = .free
    rw [ite_self]
    rfl

/-- **Every operation shows what the lock answered it, unless it fails.** -/
theorem prog_clear {req : Request} (h : req.isOperation = true) : Clear serial req.prog := by
  have hX := Restores.compositional (ε := PyErr) (answering serial) .free
  cases req with
  | command s m =>
    have hm : m.readsBack = false := by simpa [Request.isOperation] using h
    exact (run_clear s hm).bind fun _ => Restores.ret ()
  | lock s locked =>
    have hoperate : Clear serial (DanalockControl.operate s locked) := by
      cases locked with
      | true => exact run_clear s (m := .lock) rfl
      | false => exact run_clear s (m := .unlock) rfl
    exact lock_of_parts s hX (Clear.op trivial (fun _ => rfl) Restores.ret) locked hoperate
      (fun _ _ => Clear.op trivial (fun _ => rfl) Restores.ret)
      (Clear.op trivial (fun _ => rfl) Restores.ret) (Clear.op trivial (fun _ => rfl) Restores.ret)
  | press s suffix point =>
    exact press_of_parts s hX (Clear.op trivial (fun _ => rfl) Restores.ret) suffix point
      (run_clear s (m := .setCalibrationPoint point) rfl)
  | selectOption s name option => exact selectOption_clear s name option
  | readSettings s => exact readSettings_clear s
  | disconnect s => exact disconnect_clear s
  | setKey s key =>
    exact setKey_of_parts s hX (disconnect_clear s)
      (fun _ => Clear.op trivial (fun _ => rfl) Restores.ret) key
  | refresh s force => exact (refresh_clear s force).bind fun _ => Restores.ret ()
  | refreshAll =>
    exact Clear.op trivial (fun _ => rfl) fun serials =>
      refreshEach_of_parts hX refresh_clear (Clear.op trivial (fun _ => rfl) Restores.ret) serials

end

end DanalockBle
