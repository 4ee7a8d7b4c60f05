import DanalockBle.Entry.LockState
import Mathlib.Data.List.Induction

/-!
# The flags of a lock call

`is_locking` and `is_unlocking` are set before `control.operate` is awaited and cleared by what
follows it (`DanalockLockEntity.finish`): after a return and after an `Exception`. The cancellation
of the task is no `Exception`, so the flags stay (`lockCall_cancelled`). While the call runs,
nothing else writes the flags, and the optimistic state is what the broadcasts make it.
-/

namespace DanalockBle

open Coroutine Coroutine.Coro Py

namespace DanalockLockEntity

/-- What `_operate` does once `control.operate` has ended. -/
def finish (serial : Serial) (targetLocked : Bool) : Except PyErr Unit → Py Unit
  | .ok _ => do
    setInProgress serial false false
    setPending serial targetLocked
    writeState serial
  | .error err =>
    if err.isException then do
      setInProgress serial false false
      writeState serial
      raise err
    else raise err

def unboundError (serial : Serial) (targetLocked : Bool) : PyErr :=
  .homeAssistantError
    (s!"Cannot {DanalockControl.commandName targetLocked} lock.danalock_ble_{serial}_lock: " ++
      "no key is available for this device")

/-- A lock call sets the flags, awaits `control.operate`, and finishes. -/
theorem operate_finish (serial : Serial) (targetLocked : Bool) :
    DanalockLockEntity.operate serial targetLocked =
      (boundControl serial).bind fun control =>
        if control = true then
          (setInProgress serial targetLocked !targetLocked).bind fun _ =>
            (writeState serial).bind fun _ =>
              (DanalockControl.operate serial targetLocked).andThen (finish serial targetLocked)
        else raise (unboundError serial targetLocked) := by
  unfold DanalockLockEntity.operate
  simp only [bind_eq]
  refine congrArg (Coro.bind (boundControl serial)) (funext fun control => ?_)
  cases control with
  | false => rfl
  | true =>
    simp only [Bool.not_true, Bool.false_eq_true, if_false, if_true, bind_tryExcept]
    refine congrArg (Coro.bind _) (funext fun _ => congrArg (Coro.bind _) (funext fun _ => ?_))
    refine congrArg (andThen _) (funext fun r => ?_)
    cases r with
    | ok u => rfl
    | error err =>
      simp only [finish]
      split <;> rfl

end DanalockLockEntity

/-- The flags that the operation gives the lock entity. -/
def Op.progress (serial : Serial) : Op → Option (Bool × Bool)
  | setInProgress s locking unlocking => if s = serial then some (locking, unlocking) else none
  | _ => none

/-- The coroutine does not touch the flags of the device's lock entity. -/
abbrev KeepsProgress {α : Type} (serial : Serial) (c : Py α) : Prop :=
  Only (fun o : Op => o.progress serial = none) c

namespace Entry

/-- `is_locking` and `is_unlocking` of the device's lock entity. -/
def inProgress (e : Entry) (serial : Serial) : Bool × Bool :=
  ((e.controls serial).isLocking, (e.controls serial).isUnlocking)

variable {e e' : Entry} {t : TaskId} {o : Op} {serial : Serial}

theorem inProgress_setControl (e : Entry) (s : Serial) (c : Control) :
    (e.setControl s c).inProgress serial =
      if serial = s then (c.isLocking, c.isUnlocking) else e.inProgress serial := by
  unfold inProgress
  rw [controls_setControl]
  split <;> rfl

theorem inProgress_setFacade (e : Entry) (f : FacadeRef) (x : Facade) :
    (e.setFacade f x).inProgress serial = e.inProgress serial := by
  unfold setFacade
  rw [inProgress_setControl]
  split
  · next h => rw [h]; rfl
  · rfl

theorem inProgress_setRefreshQueue (e : Entry) (s : Serial) (q : List TaskId) :
    (e.setRefreshQueue s q).inProgress serial = e.inProgress serial := by
  unfold setRefreshQueue
  rw [inProgress_setControl]
  split
  · next h => rw [h]; rfl
  · rfl

theorem runOp_inProgress {r : o.Res} : e.runOp t o = some (r, e') →
    e'.inProgress serial = (o.progress serial).getD (e.inProgress serial) := by
  intro h
  cases o with
  | acquireRefresh s =>
    simp only [runOp] at h
    split at h
    · cases h; exact inProgress_setRefreshQueue e s _
    · cases h
  | releaseRefresh s => cases h; exact inProgress_setRefreshQueue e s _
  | buildFacade s token =>
    cases h
    unfold buildFacade
    simp only
    rw [inProgress_setControl]
    split
    · next hs => rw [hs]; rfl
    · rfl
  | setInProgress s locking unlocking =>
    cases h
    rw [inProgress_setControl]
    by_cases hs : serial = s
    · subst hs; simp [Op.progress]
    · simp [Op.progress, hs, Ne.symm hs]
  | _ => cases h <;> rfl

theorem parkOp_inProgress (e : Entry) (t : TaskId) (o : Op) :
    (e.parkOp t o).inProgress serial = e.inProgress serial := by
  cases o with
  | call f m => exact inProgress_setFacade e f _
  | disconnect f => exact inProgress_setFacade e f _
  | acquireRefresh s => exact inProgress_setRefreshQueue e s _
  | _ => rfl

theorem wakeOp_inProgress {r : o.Res} (h : e.wakeOp t o r = some e') :
    e'.inProgress serial = e.inProgress serial := by
  rcases wakeOp_cases h with ⟨f, rfl | rfl⟩ | rfl | ⟨s, rfl⟩
  · exact inProgress_setFacade ..
  · exact (inProgress_setFacade ..).trans (inProgress_setFacade ..)
  · rfl
  · exact inProgress_setRefreshQueue ..

theorem envStep_inProgress {parse : ParseBroadcast} {ev : EnvEvent}
    (h : e.envStep parse ev = some e') : e'.inProgress serial = e.inProgress serial := by
  rcases envStep_cases h with ⟨ev, -, rfl⟩ | ⟨f, t, -, -, rfl⟩ | ⟨f, rfl⟩ | ⟨x, rfl⟩
  · rfl
  · exact inProgress_setFacade ..
  · exact inProgress_setFacade ..
  · rfl

end Entry

/-! ## What the requests leave alone -/

section
variable {serial : Serial}

theorem Op.progress_spares {o : Op} (h : o.isEntity = false) : o.progress serial = none := by
  cases o with
  | setInProgress s locking unlocking => cases h
  | _ => rfl

theorem operate_keepsProgress (serial s : Serial) (locked : Bool) :
    KeepsProgress serial (DanalockControl.operate s locked) :=
  Only.mono (fun _ => Op.progress_spares) (operate_sparesEntities s locked)

/-- A request that is no lock call of the device does not touch the flags. -/
theorem prog_keepsProgress (serial : Serial) (req : Request) (hreq : ∀ b, req ≠ .lock serial b) :
    KeepsProgress serial req.prog := by
  refine prog_spares (fun _ => Op.progress_spares) fun o ho => ?_
  cases o with
  | setInProgress s locking unlocking =>
    cases req with
    | lock s' locked =>
      obtain rfl : s = s' := by simpa [Request.performs] using ho
      exact if_neg fun hs => hreq locked (by rw [hs])
    | _ => cases ho
  | _ => rfl

end

/-! ## Between the start and the end of a call -/

open DanalockLockEntity

/-- The call returned, or raised an `Exception`. -/
def handled : Except PyErr Unit → Bool
  | .ok _ => true
  | .error err => err.isException

/-- What is left of a request: a lock call of the device is inside `control.operate`. -/
inductive LeftOf (serial : Serial) : Request → Py Unit → Prop
  | other {req : Request} {k : Py Unit} (hreq : ∀ b, req ≠ .lock serial b)
    (hk : KeepsProgress serial k) : LeftOf serial req k
  | operating {b : Bool} {c : Py Unit} (h : (DanalockControl.operate serial b).Rest c) :
    LeftOf serial (.lock serial b) (c.andThen (finish serial b))

section
variable {parse : ParseBroadcast} {serial : Serial} {b : Bool} {t : TaskId} {e : Entry}
  {c : EntryConfig parse} {l : EntryLabel parse} {req : Request} {k : Py Unit}

theorem advance_keepsProgress (parse : ParseBroadcast) (t : TaskId) (e : Entry)
    (hk : KeepsProgress serial k) :
    ((entryMachine parse).advance t k e).2.inProgress serial = e.inProgress serial :=
  (entryMachine parse).advance_view_only (v := fun e : Entry => e.inProgress serial)
    (fun o e r e' ho hr => by simp only [Entry.runOp_inProgress hr, ho, Option.getD_none])
    (fun o e => Entry.parkOp_inProgress e t o) hk e

/-- What follows `control.operate` does not suspend, and ends as `control.operate` did. -/
theorem advance_finish (parse : ParseBroadcast) (serial : Serial) (b : Bool) (t : TaskId)
    (e : Entry) (r : Except PyErr Unit) :
    ((entryMachine parse).advance t (finish serial b r) e).1.ended = some r ∧
      ((entryMachine parse).advance t (finish serial b r) e).2.inProgress serial =
        if handled r = true then (false, false) else e.inProgress serial := by
  have hcleared : (e.setControl serial { e.controls serial with
      isLocking := false, isUnlocking := false }).inProgress serial = (false, false) := by
    rw [Entry.inProgress_setControl, if_pos rfl]
  cases r with
  | ok u => exact ⟨rfl, hcleared⟩
  | error err =>
    by_cases hexception : err.isException = true
    · rw [finish, if_pos hexception, handled, if_pos hexception]
      exact ⟨rfl, hcleared⟩
    · rw [finish, if_neg hexception, handled, if_neg hexception]
      exact ⟨rfl, rfl⟩

/-- Where the task of a lock call stops: inside `control.operate`, or at the end of the call, whose
result is that of `control.operate`. -/
theorem advance_operating (parse : ParseBroadcast) (serial : Serial) (b : Bool) (t : TaskId)
    (e : Entry) (x : Py Unit) :
    (∃ o f e', (entryMachine parse).advance t x e = (.op o f, e') ∧
      (entryMachine parse).advance t (x.andThen (finish serial b)) e =
        ((Coro.op o f).andThen (finish serial b), e')) ∨
    ∃ r, ((entryMachine parse).advance t x e).1.ended = some r ∧
      ((entryMachine parse).advance t (x.andThen (finish serial b)) e).1.ended = some r ∧
      ((entryMachine parse).advance t (x.andThen (finish serial b)) e).2.inProgress serial =
        if handled r = true then (false, false)
        else ((entryMachine parse).advance t x e).2.inProgress serial := by
  have hthen := (entryMachine parse).advance_andThen t x (finish serial b) e
  generalize (entryMachine parse).advance t x e = p at hthen ⊢
  obtain ⟨stop, e'⟩ := p
  cases stop with
  | op o f => exact .inl ⟨o, f, e', rfl, hthen⟩
  | ret a =>
    rw [hthen]
    exact .inr ⟨.ok a, rfl, advance_finish parse serial b t e' (.ok a)⟩
  | raise err =>
    rw [hthen]
    exact .inr ⟨.error err, rfl, advance_finish parse serial b t e' (.error err)⟩

/-- The task of a lock call starts: the flags are set. -/
theorem advance_lock (parse : ParseBroadcast) (b : Bool) (t : TaskId)
    (hcontrol : serial ∈ e.monitor.serials) :
    ∃ e', (entryMachine parse).advance t (Request.lock serial b).prog e =
        (entryMachine parse).advance t
          ((DanalockControl.operate serial b).andThen (finish serial b)) e' ∧
      e'.inProgress serial = (b, !b) := by
  have hrun : (entryMachine parse).run t (.boundControl serial) e = some (true, e) := by
    simp [Entry.runOp, hcontrol]
  refine ⟨e.setControl serial { e.controls serial with isLocking := b, isUnlocking := !b }, ?_, ?_⟩
  · rw [show (Request.lock serial b).prog = _ from operate_finish serial b]
    show (entryMachine parse).advance t (.op (.boundControl serial) _) e = _
    rw [Machine.advance_op, hrun]
    rfl
  · rw [Entry.inProgress_setControl, if_pos rfl]

/-- `control.operate` suspends before it ends: at the facade's command, or in a key refresh. -/
theorem advance_operate (parse : ParseBroadcast) (serial : Serial) (b : Bool) (t : TaskId)
    (e : Entry) :
    ((entryMachine parse).advance t (DanalockControl.operate serial b) e).1.ended = none := by
  obtain ⟨h, hoperate⟩ : ∃ h, DanalockControl.operate serial b =
      (DanalockControl.refreshIfExpired serial).bind fun _ =>
        tryExcept (DanalockControl.attempt serial b) h := ⟨_, rfl⟩
  have hstart : (entryMachine parse).advance t (DanalockControl.operate serial b) e =
      (entryMachine parse).advance t
        ((if e.expired (e.monitor.keys serial) = true then
          tryExcept ((DanalockKeyManager.refresh serial true).bind fun _ => .ret ()) fun err =>
            if err.isCloud = true then .ret () else .raise err
        else .ret ()).bind fun _ => tryExcept (DanalockControl.attempt serial b) h) e := by
    rw [hoperate]
    rfl
  rw [hstart]
  cases e.expired (e.monitor.keys serial) with
  | false => cases b <;> rfl
  | true =>
    rw [if_pos rfl]
    show ((entryMachine parse).advance t (.op (.acquireRefresh serial) _) e).1.ended = none
    rw [Machine.advance_op]
    by_cases hfree : e.refreshQueue serial = []
    · rw [show (entryMachine parse).run t (.acquireRefresh serial) e =
        some (.ok (), e.setRefreshQueue serial [t]) from if_pos hfree]
      rfl
    · rw [show (entryMachine parse).run t (.acquireRefresh serial) e = none from if_neg hfree]
      rfl

/-- A task that goes on after its wait. -/
theorem LeftOf.resumed {o : Op} {f : o.Res → Py Unit} (h : LeftOf serial req (.op o f)) {r : o.Res}
    {e' : Entry} (hwake : e.wakeOp t o r = some e') : LeftOf serial req (f r) := by
  generalize hk : (Coro.op o f : Py Unit) = k at h
  cases h with
  | other hreq hkeeps =>
    subst hk
    exact .other hreq (hkeeps.2 r)
  | @operating b x hx =>
    cases x with
    | op o' f' =>
      cases hk
      exact .operating (hx.answer r)
    | ret a =>
      cases hk
      cases hwake
    | raise err =>
      have hk : (Coro.op o f : Py Unit) = finish serial b (.error err) := hk
      rw [finish] at hk
      split at hk
      · cases hk
        cases hwake
      · cases hk

/-- A task that goes on leaves the flags alone, and so does one that is no lock call. -/
theorem LeftOf.inProgress (h : LeftOf serial req k)
    (hquiet : ∀ b r, req = .lock serial b → ((entryMachine parse).advance t k e).1.ended ≠ some r) :
    ((entryMachine parse).advance t k e).2.inProgress serial = e.inProgress serial := by
  cases h with
  | other hreq hkeeps => exact advance_keepsProgress parse t e hkeeps
  | @operating b x hx =>
    have hkeeps := advance_keepsProgress parse t e ((operate_keepsProgress serial serial b).rest hx)
    rcases advance_operating parse serial b t e x with ⟨o, f, e', hadv, hthen⟩ | ⟨r, -, hended, -⟩
    · rw [hadv] at hkeeps
      rw [hthen]
      exact hkeeps
    · exact absurd hended (hquiet b r rfl)

/-- Where a task stops that goes on. -/
theorem LeftOf.advance (h : LeftOf serial req k) {o : Op} {f : o.Res → Py Unit} {e' : Entry}
    (hstop : (entryMachine parse).advance t k e = (.op o f, e')) : LeftOf serial req (.op o f) := by
  cases h with
  | other hreq hkeeps =>
    have hrest := (entryMachine parse).advance_rest t k e
    rw [hstop] at hrest
    exact .other hreq (hkeeps.rest hrest)
  | @operating b x hx =>
    have hrest := (entryMachine parse).advance_rest t x e
    rcases advance_operating parse serial b t e x with
      ⟨o', f', e₁, hadv, hthen⟩ | ⟨r, -, hended, -⟩
    · rw [hadv] at hrest
      rw [hthen] at hstop
      cases hstop
      exact .operating (hx.trans hrest)
    · rw [hstop] at hended
      cases hended

/-- Where a task stops that has just been spawned. -/
theorem advance_prog {o : Op} {f : o.Res → Py Unit} {e' : Entry}
    (hstop : (entryMachine parse).advance t req.prog e = (.op o f, e')) :
    LeftOf serial req (.op o f) := by
  by_cases hreq : ∃ b, req = .lock serial b
  · obtain ⟨b, rfl⟩ := hreq
    by_cases hcontrol : serial ∈ e.monitor.serials
    · obtain ⟨e₁, hstart, -⟩ := advance_lock parse b t hcontrol
      rw [hstart] at hstop
      exact (LeftOf.operating .refl).advance hstop
    · have hraise : (entryMachine parse).advance t (Request.lock serial b).prog e =
          (.raise (unboundError serial b), e) := by
        rw [show (Request.lock serial b).prog = _ from operate_finish serial b]
        show (entryMachine parse).advance t (.op (.boundControl serial) _) e = _
        rw [Machine.advance_op, show (entryMachine parse).run t (.boundControl serial) e =
          some (false, e) by simp [Entry.runOp, hcontrol]]
        rfl
      rw [hraise] at hstop
      cases hstop
  · have hkeeps := prog_keepsProgress serial req fun b hb => hreq ⟨b, hb⟩
    have hrest := (entryMachine parse).advance_rest t req.prog e
    rw [hstop] at hrest
    exact .other (fun b hb => hreq ⟨b, hb⟩) (hkeeps.rest hrest)

end

/-- The label starts a lock call of the device. -/
def startsLock (serial : Serial) {parse : ParseBroadcast} (l : EntryLabel parse) : Prop :=
  ∃ t b, l = .spawn t (.lock serial b)

/-- `control.operate` of the task's lock call ends in the step, and how. -/
def OperateEnds (serial : Serial) (b : Bool) (t : TaskId) {parse : ParseBroadcast}
    (c : EntryConfig parse) (l : EntryLabel parse) (r : Except PyErr Unit) : Prop :=
  ∃ x e, (DanalockControl.operate serial b).Rest x ∧
    Config.started Request.prog c l =
      some (t, .lock serial b, x.andThen (finish serial b), e) ∧
    ((entryMachine parse).advance t x e).1.ended = some r

/-- Of the lock calls of the device, `t`'s alone is there, and the flags are its own. -/
structure InCall (serial : Serial) (b : Bool) (t : TaskId) {parse : ParseBroadcast}
    (c : EntryConfig parse) : Prop where
  left : ∀ t' req k, c.tasks t' = some (req, k) → LeftOf serial req k
  only : ∀ t' b' k, c.tasks t' = some (.lock serial b', k) →
    t' = t ∧ b' = b ∧ c.state.inProgress serial = (b, !b)

section
variable {parse : ParseBroadcast} {serial : Serial} {b : Bool} {t : TaskId}
  {c : EntryConfig parse} {l : EntryLabel parse}

/-- Any step leaves every lock call inside `control.operate`. -/
theorem left_step (hleft : ∀ t req k, c.tasks t = some (req, k) → LeftOf serial req k)
    (l : EntryLabel parse) :
    ∀ t req k, (Config.step Request.prog c l).tasks t = some (req, k) → LeftOf serial req k := by
  intro t req k htask
  rcases Config.step_tasks Request.prog htask with
    hbefore | ⟨k', e, o, f, e', hs, hadv, rfl⟩
  · exact hleft t req k hbefore
  · rcases Config.started_cases Request.prog hs with
      ⟨-, -, rfl, -⟩ | ⟨reply, o', f', r, -, hwait, -, hwake, rfl⟩
    · exact advance_prog hadv
    · exact ((hleft _ _ _ hwait).resumed hwake).advance hadv

/-- The task that a step runs which starts no other lock call of the device. -/
theorem InCall.started (h : InCall serial b t c) (hl : ¬ startsLock serial l) {t' : TaskId}
    {req : Request} {k : Py Unit} {e : Entry}
    (hs : Config.started Request.prog c l = some (t', req, k, e)) :
    LeftOf serial req k ∧ e.inProgress serial = c.state.inProgress serial ∧
      ∀ b', req = .lock serial b' → t' = t ∧ b' = b ∧ c.state.inProgress serial = (b, !b) := by
  refine ⟨?_, ?_, ?_⟩
  · rcases Config.started_cases Request.prog hs with
      ⟨rfl, -, rfl, -⟩ | ⟨reply, o, f, r, -, hwait, -, hwake, rfl⟩
    · have hreq : ∀ b, req ≠ .lock serial b := fun b hb => hl ⟨t', b, by rw [hb]⟩
      exact .other hreq (prog_keepsProgress serial req hreq)
    · exact (h.left _ _ _ hwait).resumed hwake
  · exact Config.started_view (v := fun e : Entry => e.inProgress serial) Request.prog
      (fun t o r e e' hw => Entry.wakeOp_inProgress hw) hs
  · rintro b' rfl
    rcases Config.started_cases Request.prog hs with ⟨rfl, -⟩ | ⟨reply, o, f, r, -, hwait, -⟩
    · exact absurd ⟨t', b', rfl⟩ hl
    · exact h.only _ _ _ hwait

/-- A step that ends no lock call of the device leaves the flags alone. -/
theorem InCall.inProgress_step (h : InCall serial b t c) (hl : ¬ startsLock serial l)
    (hquiet : ∀ b r, Config.outcome Request.prog c l ≠ some (.lock serial b, r)) :
    (Config.step Request.prog c l).state.inProgress serial = c.state.inProgress serial := by
  unfold Config.outcome at hquiet
  unfold Config.step
  cases hs : Config.started Request.prog c l with
  | none =>
    cases l with
    | env ev =>
      simp only
      cases hev : c.state.envStep parse ev with
      | none => rfl
      | some e' => exact Entry.envStep_inProgress hev
    | _ => rfl
  | some p =>
    obtain ⟨t₁, req, k, e⟩ := p
    obtain ⟨hleft, hstart, -⟩ := h.started hl hs
    refine (hleft.inProgress fun b r hreq hended => hquiet b r ?_).trans hstart
    simp only [hs, hended, hreq, Option.map_some]

/-- The call ends in a step in which `control.operate` does, and is no longer there. -/
theorem InCall.ended (h : InCall serial b t c) (hl : ¬ startsLock serial l) {b' : Bool}
    {r : Except PyErr Unit} (ho : Config.outcome Request.prog c l = some (.lock serial b', r)) :
    OperateEnds serial b t c l r ∧
      ∀ t₂ b₂ k₂, (Config.step Request.prog c l).tasks t₂ ≠ some (.lock serial b₂, k₂) := by
  obtain ⟨t₁, k, e, hs, hended, hgone⟩ := Config.outcome_tasks Request.prog ho
  obtain ⟨hleft, -, hown⟩ := h.started hl hs
  obtain ⟨rfl, rfl, -⟩ := hown b' rfl
  refine ⟨?_, fun t₂ b₂ k₂ htask => ?_⟩
  · cases hleft with
    | other hreq _ => exact absurd rfl (hreq b')
    | @operating _ x hx =>
      refine ⟨x, e, hx, hs, ?_⟩
      rcases advance_operating parse serial b' t₁ e x with
        ⟨o, f, e', -, hthen⟩ | ⟨r, hx, hthen, -⟩
      · rw [hthen] at hended
        cases hended
      · rw [hx, ← hthen, hended]
  · have ht : t₂ = t₁ := by
      rcases Config.step_tasks Request.prog htask with hbefore | ⟨k', e', o, f, e'', hs', -, -⟩
      · exact (h.only t₂ b₂ k₂ hbefore).1
      · rw [hs] at hs'
        cases hs'
        rfl
    rw [ht, hgone] at htask
    cases htask

/-- A step that starts no other lock call of the device. -/
theorem InCall.step (h : InCall serial b t c) (hl : ¬ startsLock serial l) :
    InCall serial b t (Config.step Request.prog c l) := by
  refine ⟨left_step h.left l, fun t₂ b₂ k₂ htask => ?_⟩
  rw [h.inProgress_step hl fun b r ho => (h.ended hl ho).2 t₂ b₂ k₂ htask]
  rcases Config.step_tasks Request.prog htask with hbefore | ⟨k', e, o, f, e', hs, -, -⟩
  · exact h.only t₂ b₂ k₂ hbefore
  · exact (h.started hl hs).2.2 b₂ rfl

theorem InCall.exec (h : InCall serial b t c) {ls : List (EntryLabel parse)}
    (hls : ∀ l ∈ ls, ¬ startsLock serial l) :
    InCall serial b t (Runs.exec (Config.step Request.prog) c ls) :=
  (Runs.Steps.of_mem hls c).inv (fun _ _ h hl => h.step hl) h

/-- The step in which `control.operate` ends. -/
theorem InCall.operateEnds (h : InCall serial b t c) (hl : ¬ startsLock serial l)
    {r : Except PyErr Unit} (hends : OperateEnds serial b t c l r) :
    Config.outcome Request.prog c l = some (.lock serial b, r) ∧
      (Config.step Request.prog c l).state.inProgress serial =
        if handled r = true then (false, false) else (b, !b) := by
  obtain ⟨x, e, hx, hs, hend⟩ := hends
  obtain ⟨-, hstart, hown⟩ := h.started hl hs
  have hkeeps := advance_keepsProgress parse t e ((operate_keepsProgress serial serial b).rest hx)
  rcases advance_operating parse serial b t e x with ⟨o, f, e', hadv, -⟩ | ⟨r', hr', hthen, hflags⟩
  · rw [hadv] at hend
    cases hend
  · obtain rfl : r' = r := Option.some.inj (hr'.symm.trans hend)
    refine ⟨?_, ?_⟩
    · simp only [Config.outcome, hs, hthen, Option.map_some]
    · simp only [Config.step, hs, Config.put, hflags, hkeeps, hstart, (hown b rfl).2.2]

/-- The call's own step: it sets the flags and goes on to `control.operate`. -/
theorem InCall.start (hleft : ∀ t req k, c.tasks t = some (req, k) → LeftOf serial req k)
    (halone : ∀ t b k, c.tasks t ≠ some (.lock serial b, k)) (hfree : c.tasks t = none)
    (hcontrol : serial ∈ c.state.monitor.serials) :
    InCall serial b t (Config.step Request.prog c (.spawn t (.lock serial b))) ∧
      Config.outcome Request.prog c (.spawn t (.lock serial b)) = none := by
  have hs : Config.started Request.prog c (.spawn t (.lock serial b)) =
      some (t, .lock serial b, (Request.lock serial b).prog, c.state) := by
    simp only [Config.started, hfree, Option.isNone_none, if_true]
  obtain ⟨e, hstart, hflags⟩ :=
    advance_lock parse b t hcontrol
  have hwaits := advance_operate parse serial b t e
  rcases advance_operating parse serial b t e
    (DanalockControl.operate serial b) with ⟨o, f, e', hadv, hthen⟩ | ⟨r, hended, -⟩
  · refine ⟨⟨left_step hleft _, fun t' b' k' htask => ?_⟩, ?_⟩
    · have hkeeps := advance_keepsProgress parse t e
        (operate_keepsProgress serial serial b)
      rw [hadv] at hkeeps
      simp only [Config.step, hs, hstart, hthen] at htask ⊢
      by_cases ht : t' = t
      · subst ht
        rw [Config.put_self] at htask
        cases htask
        exact ⟨rfl, rfl, hkeeps.trans hflags⟩
      · rw [Config.put_other c ht] at htask
        exact absurd htask (halone t' b' k')
    · simp only [Config.outcome, hs, hstart, hthen]
      rfl
  · rw [hwaits] at hended
    cases hended

/-- What the broadcasts make of the optimistic state. -/
def broadcastEvent (serial : Serial) {parse : ParseBroadcast} (c : EntryConfig parse)
    (l : EntryLabel parse) : Option (Option Bool) := (reportEvent serial c l).map fun _ => none

/-- Where no lock call of the device ends, the broadcasts alone write the optimistic state. -/
theorem lockEvent_broadcast
    (ho : ∀ b r, Config.outcome Request.prog c l ≠ some (.lock serial b, r)) :
    lockEvent serial c l = broadcastEvent serial c l := by
  unfold lockEvent
  split
  · next s locked u heq =>
    have hs : s ≠ serial := fun hs => ho locked (.ok u) (by rw [heq, hs])
    rw [if_neg hs, broadcastEvent, reportEvent_task (Config.outcome_env Request.prog heq)]
    rfl
  · rfl

/-- While the call runs, the broadcasts alone write the optimistic state. -/
theorem InCall.pendingLocked (h : InCall serial b t c) {Γ : View (settling serial)}
    (hI : Unsettled serial Γ) (hT : Tracks (settling serial) (settled serial) c Γ)
    {ls : List (EntryLabel parse)} (hls : ∀ l ∈ ls, ¬ startsLock serial l) {k : Py Unit}
    (halive : (Runs.exec (Config.step Request.prog) c ls).tasks t = some (.lock serial b, k)) :
    ((Runs.exec (Config.step Request.prog) c ls).state.monitor.states serial).pendingLocked =
      (Runs.last (Config.step Request.prog) (broadcastEvent serial) c ls).getD
        (c.state.monitor.states serial).pendingLocked := by
  induction ls using List.reverseRecOn generalizing k with
  | nil => rfl
  | append_singleton ls l ih =>
    have hls' : ∀ l ∈ ls, ¬ startsLock serial l := fun l hl => hls l (List.mem_append_left _ hl)
    have hl : ¬ startsLock serial l := hls l (List.mem_append_right _ (List.mem_singleton_self l))
    rw [Runs.exec_snoc] at halive
    have hcall := h.exec hls'
    obtain ⟨Γ', hI', hT'⟩ := (settled_keeps parse serial).run_inv ⟨Γ, hI, hT⟩
      (Runs.Steps.of_forall (fun c l => Config.allowed_any _ c l) ls _)
    have hquiet : ∀ b r, Config.outcome Request.prog (Runs.exec (Config.step Request.prog) c ls) l ≠
        some (.lock serial b, r) := fun b r ho => (hcall.ended hl ho).2 _ _ _ halive
    have hbefore : ∃ k, (Runs.exec (Config.step Request.prog) c ls).tasks t =
        some (.lock serial b, k) := by
      rcases Config.step_tasks Request.prog halive with hbefore | ⟨k', e, o, f, e', hs, -⟩
      · exact ⟨k, hbefore⟩
      · rcases Config.started_cases Request.prog hs with ⟨rfl, -⟩ | ⟨reply, o, f, r, -, hwait, -⟩
        · exact absurd ⟨t, b, rfl⟩ hl
        · exact ⟨_, hwait⟩
    obtain ⟨k', hbefore⟩ := hbefore
    rw [Runs.exec_snoc, pendingLocked_step hI' hT', lockEvent_broadcast hquiet, ih hls' hbefore,
      Runs.last_snoc]
    cases broadcastEvent serial (Runs.exec (Config.step Request.prog) c ls) l <;> rfl

end

/-! ## Whole calls -/

/-- The task's lock call of the device starts and goes on through the labels, and Home Assistant
starts no other lock call of the device before it has ended (`PARALLEL_UPDATES = 1`). -/
structure LockCall (serial : Serial) (b : Bool) (t : TaskId) {parse : ParseBroadcast}
    (c : EntryConfig parse) (ls : List (EntryLabel parse)) : Prop where
  control : serial ∈ c.state.monitor.serials
  free : c.tasks t = none
  alone : ∀ t' b' k, c.tasks t' ≠ some (.lock serial b', k)
  single : ∀ l ∈ ls, ¬ startsLock serial l

/-- What a lock call owes where it ends, `r` being the end of `control.operate`: the caller gets
`r`, both flags are false, and the optimistic state is the target after a normal return, and what
the broadcasts alone have made of it after an exception. -/
structure Settles (serial : Serial) (b : Bool) (t : TaskId) {parse : ParseBroadcast}
    (c : EntryConfig parse) (span : List (EntryLabel parse)) (l : EntryLabel parse)
    (r : Except PyErr Unit) : Prop where
  outcome : Config.outcome Request.prog (Runs.exec (Config.step Request.prog) c span) l =
    some (.lock serial b, r)
  flags : (Runs.exec (Config.step Request.prog) c (span ++ [l])).state.inProgress serial =
    (false, false)
  pending : ((Runs.exec (Config.step Request.prog) c (span ++ [l])).state.monitor.states
    serial).pendingLocked =
      match r with
      | .ok _ => some b
      | .error _ => (Runs.last (Config.step Request.prog) (broadcastEvent serial) c span).getD
        (c.state.monitor.states serial).pendingLocked

section
variable (parse : ParseBroadcast) (serials : List Serial) (nodup : serials.Nodup)
  (keys : Serial → DeviceKey)

theorem left_run (serial : Serial) (ls : List (EntryLabel parse)) :
    ∀ t req k, (EntryConfig.run parse serials nodup keys ls).tasks t = some (req, k) →
      LeftOf serial req k :=
  (Runs.Steps.of_forall (P := fun _ _ => True) (fun _ _ => trivial) ls _).inv
    (I := fun c : EntryConfig parse =>
      ∀ t req k, c.tasks t = some (req, k) → LeftOf serial req k)
    (fun _ l hc _ => left_step hc l) (by rintro t req k ⟨⟩)

section
variable {parse serials nodup keys} {serial : Serial} {b : Bool} {t : TaskId}
  {ls span : List (EntryLabel parse)} {l : EntryLabel parse}
  (hcall : LockCall serial b t (EntryConfig.run parse serials nodup keys ls) (span ++ [l]))
include hcall

theorem LockCall.span_single : ∀ l' ∈ span, ¬ startsLock serial l' :=
  fun l' hl' => hcall.single l' (List.mem_append_left _ hl')

theorem LockCall.last_single : ¬ startsLock serial l :=
  hcall.single l (List.mem_append_right _ (List.mem_singleton_self l))

theorem LockCall.inCall : InCall serial b t (Runs.exec (Config.step Request.prog)
    (EntryConfig.run parse serials nodup keys ls) (.spawn t (.lock serial b) :: span)) :=
  (InCall.start (left_run parse serials nodup keys serial ls) hcall.alone hcall.free
    hcall.control).1.exec hcall.span_single

/-- Where the call ends, the broadcasts alone have written the optimistic state since it started. -/
theorem LockCall.pendingLocked {r : Except PyErr Unit}
    (hends : OperateEnds serial b t (Runs.exec (Config.step Request.prog)
      (EntryConfig.run parse serials nodup keys ls) (.spawn t (.lock serial b) :: span)) l r) :
    ((Runs.exec (Config.step Request.prog) (EntryConfig.run parse serials nodup keys ls)
        (.spawn t (.lock serial b) :: span)).state.monitor.states serial).pendingLocked =
      (Runs.last (Config.step Request.prog) (broadcastEvent serial)
        (EntryConfig.run parse serials nodup keys ls) (.spawn t (.lock serial b) :: span)).getD
        ((EntryConfig.run parse serials nodup keys ls).state.monitor.states
          serial).pendingLocked := by
  obtain ⟨hin, hquiet⟩ := InCall.start (b := b) (left_run parse serials nodup keys serial ls)
    hcall.alone hcall.free hcall.control
  obtain ⟨Γ₀, hI₀, hT₀⟩ := run_unsettled parse serials nodup keys serial ls
  obtain ⟨Γ, hI, hT⟩ := (settled_keeps parse serial).step
    (Config.allowed_any _ _ (.spawn t (.lock serial b))) ⟨Γ₀, hI₀, hT₀⟩
  have halive : ∃ k, (Runs.exec (Config.step Request.prog)
      (EntryConfig.run parse serials nodup keys ls) (.spawn t (.lock serial b) :: span)).tasks t =
        some (.lock serial b, k) := by
    obtain ⟨x, e, -, hs, -⟩ := hends
    rcases Config.started_cases Request.prog hs with ⟨rfl, -⟩ | ⟨reply, o, f, r, -, hwait, -⟩
    · exact absurd ⟨t, b, rfl⟩ hcall.last_single
    · exact ⟨_, hwait⟩
  obtain ⟨k, halive⟩ := halive
  have hbefore : ((Config.step Request.prog (EntryConfig.run parse serials nodup keys ls)
      (.spawn t (.lock serial b))).state.monitor.states serial).pendingLocked =
        ((EntryConfig.run parse serials nodup keys ls).state.monitor.states
          serial).pendingLocked := by
    have hno : ∀ b' r, Config.outcome Request.prog (EntryConfig.run parse serials nodup keys ls)
        (.spawn t (.lock serial b)) ≠ some (.lock serial b', r) := by
      intro b' r ho
      rw [hquiet] at ho
      cases ho
    rw [pendingLocked_step hI₀ hT₀, lockEvent_broadcast hno]
    rfl
  rw [Runs.exec_cons, hin.pendingLocked hI hT hcall.span_single halive, hbefore]
  simp only [Runs.last, broadcastEvent, reportEvent, Option.map_none, Option.or_none]

end

/-- **A lock call settles unless it is cancelled.** However `control.operate` ends, and whatever
the other tasks and the broadcasts do in between, the call leaves the entity as it should exactly
when it has returned or raised an `Exception`. -/
theorem lockCall_settles_iff {serial : Serial} {b : Bool} {t : TaskId}
    (ls : List (EntryLabel parse)) {span : List (EntryLabel parse)} {l : EntryLabel parse}
    (hcall : LockCall serial b t (EntryConfig.run parse serials nodup keys ls) (span ++ [l]))
    {r : Except PyErr Unit}
    (hends : OperateEnds serial b t (Runs.exec (Config.step Request.prog)
      (EntryConfig.run parse serials nodup keys ls) (.spawn t (.lock serial b) :: span)) l r) :
    Settles serial b t (EntryConfig.run parse serials nodup keys ls)
      (.spawn t (.lock serial b) :: span) l r ↔ handled r = true := by
  obtain ⟨hended, hflags⟩ := hcall.inCall.operateEnds hcall.last_single hends
  have hbroadcasts := hcall.pendingLocked hends
  have hcut : EntryConfig.run parse serials nodup keys (ls ++ .spawn t (.lock serial b) :: span) =
      Runs.exec (Config.step Request.prog) (EntryConfig.run parse serials nodup keys ls)
        (.spawn t (.lock serial b) :: span) := Runs.exec_append
  obtain ⟨Γ, hI, hT⟩ := run_unsettled parse serials nodup keys serial
    (ls ++ .spawn t (.lock serial b) :: span)
  rw [hcut] at hT
  have hlast := pendingLocked_step hI hT (l := l)
  constructor
  · intro h
    have hclear := h.flags
    rw [Runs.exec_snoc, hflags] at hclear
    by_contra hno
    rw [if_neg hno] at hclear
    cases b <;> cases hclear
  · intro h
    refine ⟨hended, ?_, ?_⟩
    · rw [Runs.exec_snoc, hflags, if_pos h]
    · rw [Runs.exec_snoc, hlast]
      cases r with
      | ok u => simp only [lockEvent, hended, if_true, Option.getD_some]
      | error err =>
        have hreport : reportEvent serial (Runs.exec (Config.step Request.prog)
            (EntryConfig.run parse serials nodup keys ls) (.spawn t (.lock serial b) :: span)) l =
              none := reportEvent_task (Config.outcome_env Request.prog hended)
        simp only [lockEvent, hended, hreport, Option.map_none, Option.getD_none]
        exact hbroadcasts

end

/-- The device is heard. -/
def heardOnce : List (EntryLabel exampleParse) :=
  [.env (.monitor (atSecond 1 (.advertisement (exampleInfo 0))))]

/-- The task is cancelled while it waits for the facade's command. -/
def cancelCall : (o : Op) → Option o.Res
  | .call _ _ => some (.error .cancelledError)
  | _ => none

/-- A lock call opens a session, and the command ends. -/
def lockCall (reply : (o : Op) → Option o.Res) : List (EntryLabel exampleParse) :=
  [.env (.connect ⟨"L1", 0⟩ fun _ _ => some ()), .resume 0 reply]

theorem lockCall_single (reply : (o : Op) → Option o.Res) :
    LockCall "L1" true 0 (EntryConfig.run exampleParse ["L1"] (by decide) exampleKeys heardOnce)
      (lockCall reply ++ [.resume 0 done]) where
  control := by decide
  free := rfl
  alone := by rintro t b k ⟨⟩
  single := by
    rintro l hl ⟨t, b, rfl⟩
    simp [lockCall] at hl

/-- A call that the lock confirms. -/
theorem lockCall_confirmed : Settles "L1" true 0
    (EntryConfig.run exampleParse ["L1"] (by decide) exampleKeys heardOnce)
    (.spawn 0 (.lock "L1" true) :: lockCall done) (.resume 0 done) (.ok ()) :=
  have hcall := lockCall_single done
  (lockCall_settles_iff exampleParse ["L1"] (by decide) exampleKeys heardOnce hcall
    (hcall.inCall.ended hcall.last_single rfl).1).mpr rfl

/-- The calling task is cancelled while the command runs, and the entity goes on showing that it
locks. -/
theorem lockCall_cancelled :
    let c := EntryConfig.run exampleParse ["L1"] (by decide) exampleKeys heardOnce
    let span := .spawn 0 (.lock "L1" true) :: lockCall cancelCall
    let after := Runs.exec (Config.step Request.prog) c (span ++ [.resume 0 done])
    LockCall "L1" true 0 c (lockCall cancelCall ++ [.resume 0 done]) ∧
      OperateEnds "L1" true 0 (Runs.exec (Config.step Request.prog) c span) (.resume 0 done)
        (.error .cancelledError) ∧
      (after.tasks 0).isNone = true ∧ after.state.inProgress "L1" = (true, false) :=
  have hcall := lockCall_single cancelCall
  ⟨hcall, (hcall.inCall.ended hcall.last_single rfl).1, by decide, by decide⟩

end DanalockBle
