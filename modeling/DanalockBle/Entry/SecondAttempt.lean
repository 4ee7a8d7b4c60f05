import DanalockBle.Entry.KeyDrift

/-!
# The token of a second attempt

However the tasks of an entry interleave and however their awaits end, a command calls the lock at
most twice, the second time only after a token rejection, and then on a facade whose login token the
cloud returned for that device after the rejection. A refresh of another task that was in flight
when the lock rejected the token does not stand in for the command's own.
-/

namespace DanalockBle

open Coroutine Coroutine.Coro

/-- The lock has rejected the login token. -/
def tokenRejected {α : Type} : Except PyErr α → Bool
  | .ok _ => false
  | .error err => err.isTokenRejection

/-- How far a command for the device is. -/
inductive RetryPhase where
  | idle
  /-- the key has been looked up, and no attempt made -/
  | checked
  /-- the lock did not reject the token of the first attempt -/
  | attempted
  | rejected
  /-- the key that came after the rejection -/
  | fetched (key : DeviceKey)
  /-- the current facade is the one built with that key -/
  | built
  | renewed (f : FacadeRef)
  deriving DecidableEq, Repr

namespace RetryPhase

/-- After a call of the device's lock. -/
def called (rejected : Bool) : RetryPhase → RetryPhase
  | checked => if rejected then .rejected else attempted
  | _ => idle

/-- After a disconnect of the device's lock. An attempt whose disconnect fails ends in that
failure. -/
def disconnected (r : Except PyErr Unit) : RetryPhase → RetryPhase
  | attempted => if tokenRejected r then rejected else idle
  | rejected => if r.isOk || tokenRejected r then rejected else idle
  | fetched key => if r.isOk then fetched key else idle
  | renewed f => if r.isOk then renewed f else idle
  | g => g

end RetryPhase

/-- A command for the device calls its lock after the key was looked up, and again after a token
rejection on the facade that its own refresh has built. -/
@[reducible] def retrying (serial : Serial) : Protocol sig where
  Ghost := RetryPhase
  may
    | .built, .lockRef _ => True
    | .built, .notifyKey _ => True
    | .built, .releaseRefresh _ => True
    | .built, _ => False
    | g, .call f _ => f.serial = serial → g = .checked ∨ g = .renewed f
    | _, _ => True
  after
    | g, .key s, _ => some (if s = serial then .checked else g)
    | g, .call f _, r => some (if f.serial = serial then g.called (tokenRejected r) else g)
    | g, .disconnect f, r => some (if f.serial = serial then g.disconnected r else g)
    | g, .boundControl s, bound => if s = serial ∧ bound = false then none else some g
    | g, .lockRef s, f =>
      if f.serial ≠ s then none
      else some (if s = serial ∧ g = .built then .renewed f else g)
    | .rejected, .acquireRefresh _, .error _ => some .idle
    | .rejected, .getKey _ _, .error _ => some .idle
    | .rejected, .getKey s _, .ok key => some (if s = serial then .fetched key else .rejected)
    | .fetched key, .buildFacade s token, _ =>
      some (if s = serial ∧ token = key.loginBlob then .built else .fetched key)
    | g, _, _ => some g

section
variable {serial : Serial} {α : Type}

/-- No command for the device is under way, or it has not called the lock. -/
def Unattempted (g : RetryPhase) : Prop := g = .idle ∨ g = .checked

/-- The coroutine neither starts a command for the device nor calls its lock. -/
def NoAttempt {α : Type} (serial : Serial) (c : Py α) : Prop :=
  ∀ g, Unattempted g → Restores (retrying serial) g c

theorem NoAttempt.compositional : Compositional fun _ c => NoAttempt serial c where
  ret a _ _ := Restores.ret a
  raise e _ _ := Restores.raise e
  bind hc hf g hg := (hc g hg).bind fun a => hf a g hg
  tryExcept hc hh g hg := (hc g hg).tryExcept fun e => hh e g hg
  tryFinally hc hd g hg := (hc g hg).tryFinally (hd g hg)

theorem NoAttempt.ofResult (r : Except PyErr α) : NoAttempt serial (.ofResult r : Py α) :=
  NoAttempt.compositional.ofResult r

theorem NoAttempt.op {o : Op} {k : o.Res → Py α} (hidle : (retrying serial).may .idle o)
    (hchecked : (retrying serial).may .checked o)
    (hafter : ∀ g r g', Unattempted g → (retrying serial).after g o r = some g' → g' = g)
    (hk : ∀ r, NoAttempt serial (k r)) : NoAttempt serial (.op o k : Py α) := by
  refine fun g hg => Restores.op ?_ (fun r g' h => hafter g r g' hg h) fun r => hk r g hg
  rcases hg with rfl | rfl
  · exact hidle
  · exact hchecked

/-- An operation that tells nothing of the attempts. -/
theorem NoAttempt.silent {o : Op} {k : o.Res → Py α} (hidle : (retrying serial).may .idle o)
    (hchecked : (retrying serial).may .checked o)
    (hafter : ∀ g r, Unattempted g → (retrying serial).after g o r = some g)
    (hk : ∀ r, NoAttempt serial (k r)) : NoAttempt serial (.op o k : Py α) :=
  NoAttempt.op hidle hchecked
    (fun g r _ hg h => (Option.some.inj ((hafter g r hg).symm.trans h)).symm) hk

theorem NoAttempt.ret (a : α) : NoAttempt serial (.ret a : Py α) := fun _ _ => Restores.ret a

theorem NoAttempt.plain {o : Op} (ho : o.isPlain = true) (hkey : ∀ s, o ≠ .key s) :
    NoAttempt serial (.op o .ret : Py o.Res) := by
  cases o with
  | key s => exact absurd rfl (hkey s)
  | boundControl s =>
    refine NoAttempt.op trivial trivial (fun g r g' hg h => ?_) NoAttempt.ret
    simp only [retrying] at h
    split at h <;> cases h
    rfl
  | keyExpired | startReauth | keySerials | setInProgress | writeState | setPending
  | applySettings =>
    exact NoAttempt.silent trivial trivial (by rintro g r (rfl | rfl) <;> rfl) NoAttempt.ret
  | _ => cases ho

theorem after_lockRef {s : Serial} {g g' : RetryPhase} {f : FacadeRef} (hg : g ≠ .built)
    (h : (retrying serial).after g (.lockRef s) f = some g') : f.serial = s ∧ g' = g := by
  simp only [retrying, hg, and_false, if_false] at h
  split at h
  · cases h
  · next hs => cases h; exact ⟨not_not.mp hs, rfl⟩

theorem Unattempted.ne_built {g : RetryPhase} (hg : Unattempted g) : g ≠ .built := by
  rcases hg with rfl | rfl <;> exact nofun

theorem disconnect_noAttempt (s : Serial) : NoAttempt serial (DanalockControl.disconnect s) := by
  refine NoAttempt.op trivial trivial (fun g f g' hg h => (after_lockRef hg.ne_built h).2) fun f =>
    NoAttempt.silent trivial trivial ?_ NoAttempt.ofResult
  rintro g r (rfl | rfl) <;> exact congrArg some (ite_self _)

theorem refresh_noAttempt (s : Serial) (force : Bool) :
    NoAttempt serial (DanalockKeyManager.refresh s force) := by
  have hX := @NoAttempt.compositional serial
  refine refresh_of_parts s hX ?_ ?_ ?_ (NoAttempt.plain rfl nofun) ?_ ?_ ?_ force
  · exact NoAttempt.silent trivial trivial (by rintro g r (rfl | rfl) <;> rfl) NoAttempt.ofResult
  · exact fun _ =>
      NoAttempt.silent trivial trivial (by rintro g r (rfl | rfl) <;> rfl) NoAttempt.ofResult
  · exact fun _ =>
      NoAttempt.silent trivial trivial (by rintro g r (rfl | rfl) <;> rfl) NoAttempt.ret
  · exact setKey_of_parts s hX (disconnect_noAttempt s) fun _ =>
      NoAttempt.silent trivial trivial (by rintro g r (rfl | rfl) <;> rfl) NoAttempt.ret
  · exact NoAttempt.silent trivial trivial (by rintro g r (rfl | rfl) <;> rfl) NoAttempt.ret
  · exact NoAttempt.silent trivial trivial (by rintro g r (rfl | rfl) <;> rfl) NoAttempt.ret

/-- A call of another device's lock. -/
theorem callLock_other {s : Serial} (hs : s ≠ serial) (m : Method) :
    NoAttempt serial (DanalockControl.callLock s m) := by
  intro g hg
  refine ⟨by rcases hg with rfl | rfl <;> trivial, fun f g' h => ?_⟩
  obtain ⟨hf, rfl⟩ := after_lockRef hg.ne_built h
  have hne : f.serial ≠ serial := fun h => hs (hf.symm.trans h)
  refine ⟨by rcases hg with rfl | rfl <;> exact fun h => absurd h hne, fun r g'' h => ?_⟩
  rcases hg with rfl | rfl
  all_goals
    cases h
    rw [if_neg hne]
    exact Restores.ofResult r

/-! ## The attempts -/

/-- Where the first attempt leaves its command. -/
def attemptEnd {α : Type} (r : Except PyErr α) : RetryPhase :=
  if tokenRejected r then .rejected else .idle

/-- The call of the first attempt. -/
theorem callLock_first (m : Method) : Meets (retrying serial) .checked
    (DanalockControl.callLock serial m) fun r g =>
      g = if tokenRejected r then .rejected else .attempted := by
  refine ⟨trivial, fun f g h => ?_⟩
  obtain ⟨hf, rfl⟩ := after_lockRef (g := .checked) nofun h
  refine ⟨fun _ => .inl rfl, fun r g h => ?_⟩
  obtain rfl : g = if tokenRejected r then .rejected else .attempted :=
    ((Option.some.inj h).symm).trans (if_pos hf)
  cases r with
  | ok a => rfl
  | error e => rfl

theorem body_first (m : Method) : Meets (retrying serial) .checked
    (DanalockControl.body serial m) fun r g =>
      g = if tokenRejected r then .rejected else .attempted := by
  have hcall := @callLock_first serial m
  cases m with
  | deviceInformation =>
    refine Meets.tryExcept (hcall.mono fun r g hg => ?_)
    cases r with
    | ok a => exact hg
    | error e => cases e <;> exact hg
  | _ => exact hcall

/-- What the disconnect after the call leaves: its own failure, or the end of the call. -/
theorem disconnected_first {α : Type} (r : Except PyErr α) (r' : Except PyErr Unit) :
    (if tokenRejected r then RetryPhase.rejected else .attempted).disconnected r' =
      match r' with
      | .ok _ => attemptEnd r
      | .error e => attemptEnd (.error e : Except PyErr α) := by
  unfold attemptEnd
  cases tokenRejected r <;> cases r' <;> rfl

/-- The first attempt. -/
theorem attempt_first (m : Method) : Meets (retrying serial) .checked
    (DanalockControl.attemptCall serial (DanalockControl.body serial m)) fun r g =>
      g = attemptEnd r := by
  refine Meets.tryFinally ((body_first m).mono fun r g hg => ?_)
  have hne : g ≠ .built := by rw [hg]; split <;> exact nofun
  refine ⟨by rw [hg]; split <;> trivial, fun f g' h => ?_⟩
  obtain ⟨hf, rfl⟩ := after_lockRef hne h
  refine ⟨by rw [hg]; split <;> trivial, fun r' g'' h => ?_⟩
  obtain rfl : g'' = _ := ((Option.some.inj h).symm).trans (if_pos hf)
  rw [hg, disconnected_first]
  cases r' with
  | ok u => rfl
  | error e => rfl

/-- The disconnect after the second attempt tells nothing. -/
theorem disconnect_idle : Restores (retrying serial) .idle (DanalockControl.disconnect serial) :=
  Restores.op trivial (fun _ _ h => (after_lockRef (g := .idle) nofun h).2) fun _ =>
    Restores.op trivial (fun _ _ h => (Option.some.inj h).symm.trans (ite_self _))
      Restores.ofResult

/-- The second attempt calls the facade that the refresh has built. -/
theorem callLock_second (m : Method) : Meets (retrying serial) .built
    (DanalockControl.callLock serial m) fun _ g => g = .idle := by
  refine ⟨trivial, fun f g h => ?_⟩
  by_cases hf : f.serial = serial
  · simp only [retrying, hf, ne_eq, not_true_eq_false, if_false, and_self, if_true,
      Option.some.injEq] at h
    subst h
    refine ⟨fun _ => .inr rfl, fun r g h => ?_⟩
    obtain rfl : g = .idle := (Option.some.inj h).symm.trans (if_pos hf)
    cases r <;> rfl
  · simp only [retrying, ne_eq, hf, not_false_eq_true, if_true] at h
    cases h

theorem attempt_second (m : Method) : Meets (retrying serial) .built
    (DanalockControl.attemptCall serial (DanalockControl.body serial m)) fun _ g => g = .idle := by
  have hbody : Meets (retrying serial) .built (DanalockControl.body serial m)
      fun _ g => g = .idle := by
    have hcall := @callLock_second serial m
    cases m with
    | deviceInformation =>
      refine Meets.tryExcept (hcall.mono fun r g hg => ?_)
      cases r with
      | ok a => exact hg
      | error e => cases e <;> exact hg
    | _ => exact hcall
  refine Meets.tryFinally (hbody.mono fun r g hg => ?_)
  subst hg
  refine disconnect_idle.mono fun r' g hg => ?_
  cases r' with
  | ok u => exact hg
  | error e => exact hg

/-! ## The refresh between the attempts -/

/-- The key swap builds the facade with the key that was fetched, or ends before. -/
theorem setKey_fetched (key : DeviceKey) : Meets (retrying serial) (.fetched key)
    (DanalockControl.setKey serial key) fun r g => g = if r.isOk then .built else .idle := by
  refine ⟨trivial, fun f g h => ?_⟩
  obtain ⟨hf, rfl⟩ := after_lockRef (g := .fetched key) nofun h
  refine ⟨trivial, fun r g h => ?_⟩
  obtain rfl : g = RetryPhase.disconnected r (.fetched key) :=
    (Option.some.inj h).symm.trans (if_pos hf)
  cases r with
  | error e => rfl
  | ok u =>
    refine ⟨trivial, fun _ g h => ?_⟩
    exact (Option.some.inj h).symm.trans (if_pos ⟨rfl, rfl⟩)

/-- What the refresh does under its lock. -/
theorem refresh_rejected_locked (force : Bool) : Meets (retrying serial) .rejected (do
    let key ← Py.getKey serial force
    Py.storeKey serial key
    let bound ← Py.boundControl serial
    if bound then DanalockControl.setKey serial key
    Py.notifyKey serial
    return key : Py DeviceKey) fun r g => g = if r.isOk then .built else .idle := by
  refine ⟨trivial, fun r g h => ?_⟩
  cases r with
  | error e => cases h; rfl
  | ok key =>
    obtain rfl : g = .fetched key := (Option.some.inj h).symm.trans (if_pos rfl)
    refine ⟨trivial, fun _ g h => ?_⟩
    cases h
    refine ⟨trivial, fun bound g h => ?_⟩
    cases bound with
    | false => simp [retrying] at h
    | true =>
      obtain rfl : g = .fetched key := by simpa [retrying, eq_comm] using h
      show Meets (retrying serial) (.fetched key)
        (Coro.bind (DanalockControl.setKey serial key) _) _
      refine Meets.bind ((setKey_fetched key).mono fun r g hg => ?_)
      cases r with
      | error e => exact hg
      | ok u =>
        subst hg
        exact ⟨trivial, fun _ g h => by cases h; rfl⟩

theorem refresh_rejected (force : Bool) : Meets (retrying serial) .rejected
    (DanalockKeyManager.refresh serial force) fun r g => g = if r.isOk then .built else .idle := by
  refine ⟨trivial, fun r g h => ?_⟩
  cases r with
  | error e => cases h; rfl
  | ok u =>
    cases h
    refine Meets.tryFinally ((refresh_rejected_locked force).mono fun r g hg => ?_)
    cases r with
    | error e =>
      subst hg
      exact ⟨trivial, fun _ g h => by cases h; rfl⟩
    | ok key =>
      subst hg
      exact ⟨trivial, fun _ g h => by cases h; rfl⟩

/-- A refresh that fails fails the command. -/
theorem refreshAfterRejection_rejected : Meets (retrying serial) .rejected
    (DanalockControl.refreshAfterRejection serial) fun r g =>
      g = if r.isOk then .built else .idle := by
  refine Meets.tryExcept (Meets.bind ((refresh_rejected true).mono fun r g hg => ?_))
  cases r with
  | ok key => exact hg
  | error e =>
    show Meets _ _ (if e.isCloud then _ else _) _
    split <;> exact hg

/-! ## Commands -/

theorem refreshIfExpired_checks {g : RetryPhase} (hg : Unattempted g) : Meets (retrying serial) g
    (DanalockControl.refreshIfExpired serial) fun _ g' => g' = .checked := by
  have hX := @NoAttempt.compositional serial
  refine ⟨by rcases hg with rfl | rfl <;> trivial, fun key g' h => ?_⟩
  obtain rfl : g' = .checked := by
    rcases hg with rfl | rfl <;> exact (Option.some.inj h).symm.trans (if_pos rfl)
  refine ⟨trivial, fun expired g' h => ?_⟩
  obtain rfl : g' = .checked := (Option.some.inj h).symm
  have hrefresh : NoAttempt serial (tryExcept
      (do let _ ← DanalockKeyManager.refresh serial true) fun err =>
        if err.isCloud then return () else raise err) :=
    hX.tryExcept (hX.bind (refresh_noAttempt serial true) fun _ => hX.ret ()) fun err =>
      Compositional.ite (X := fun _ c => NoAttempt serial c) (hX.ret ()) (hX.raise err)
  exact Compositional.ite (X := fun _ c => NoAttempt serial c) hrefresh (hX.ret ()) .checked
    (.inr rfl)

/-- After a token rejection: a refresh, and the second attempt if it succeeds. -/
theorem retry_rejected (m : Method) : Meets (retrying serial) .rejected (do
    DanalockControl.refreshAfterRejection serial
    tryExcept (DanalockControl.attemptCall serial (DanalockControl.body serial m)) fun err =>
      ofResult (DanalockControl.settle (DanalockControl.rejected m) err))
    fun _ g => g = .idle := by
  refine Meets.bind (refreshAfterRejection_rejected.mono fun r g hg => ?_)
  subst hg
  cases r with
  | error e => rfl
  | ok u =>
    refine Meets.tryExcept ((attempt_second m).mono fun r g hg => ?_)
    subst hg
    cases r with
    | ok v => rfl
    | error e => exact Restores.ofResult _

/-- A command for the device attempts at most twice. -/
theorem run_retrying (m : Method) :
    Preserves (retrying serial) Unattempted (DanalockControl.run serial m) := by
  intro g hg
  rw [DanalockControl.run_eq]
  refine Meets.bind ((refreshIfExpired_checks hg).mono fun r g hg => ?_)
  subst hg
  cases r with
  | error e => exact .inr rfl
  | ok u =>
    refine Meets.tryExcept ((attempt_first m).mono fun r g hg => ?_)
    subst hg
    cases r with
    | ok v => exact .inl rfl
    | error e =>
      show Meets _ (if e.isTokenRejection then _ else _) (if e.isTokenRejection then _ else _) _
      split
      · exact (retry_rejected m).mono fun _ _ h => .inl h
      · exact (NoAttempt.ofResult _ _ (.inl rfl)).mono fun _ _ h => .inl h

/-- A command for another device. -/
theorem run_other {s : Serial} (hs : s ≠ serial) (m : Method) :
    NoAttempt serial (DanalockControl.run s m) := by
  have hX := @NoAttempt.compositional serial
  refine run_of_parts s hX ?_ ?_ ?_ m
  · refine refreshIfExpired_of_parts s hX refresh_noAttempt ?_ fun k =>
      NoAttempt.plain (o := .keyExpired k) rfl nofun
    refine NoAttempt.silent trivial trivial ?_ NoAttempt.ret
    rintro g r (rfl | rfl) <;> exact congrArg some (if_neg hs)
  · exact attemptCall_of_parts s hX (callLock_other hs) (disconnect_noAttempt s)
  · exact refreshAfterRejection_of_parts s hX refresh_noAttempt

/-- **Every request follows the protocol.** -/
theorem prog_retrying (req : Request) : Preserves (retrying serial) Unattempted req.prog := by
  have hpreserves : ∀ {α : Type} {c : Py α}, NoAttempt serial c →
      Preserves (retrying serial) Unattempted c :=
    fun hc g hg => (hc g hg).mono fun _ _ h => h ▸ hg
  refine CommandParts.prog ⟨Preserves.compositional _ _, ?_, fun s force =>
    hpreserves (refresh_noAttempt s force), ?_, fun s => hpreserves (disconnect_noAttempt s)⟩ req ?_
  · intro o ho
    cases o with
    | key s =>
      refine Preserves.op (by rintro g (rfl | rfl) <;> trivial) ?_ Preserves.ret
      rintro g r g' hg h
      obtain rfl : (if s = serial then .checked else g) = g' := by
        rcases hg with rfl | rfl <;> exact Option.some.inj h
      split
      · exact .inr rfl
      · exact hg
    | _ => exact hpreserves (NoAttempt.plain ho nofun)
  · intro s m
    by_cases hs : s = serial
    · subst hs
      exact run_retrying m
    · exact hpreserves (run_other hs m)
  · intro s key _
    refine hpreserves (setKey_of_parts s NoAttempt.compositional (disconnect_noAttempt s)
      (fun _ => NoAttempt.silent trivial trivial ?_ NoAttempt.ret) key)
    rintro g r (rfl | rfl) <;> rfl

end

/-! ## The record of the attempts -/

/-- The keys that the cloud returned for a device, and of each task, since it last looked up the
device's key: how often it called the lock, and how many keys had come when the lock last rejected
its token. -/
structure Attempts where
  fetched : List DeviceKey
  calls : TaskId → Nat
  rejectedAt : TaskId → Option Nat

namespace Attempts

variable (a : Attempts) (t : TaskId)

def lookedUp : Attempts :=
  { a with calls := Function.update a.calls t 0, rejectedAt := Function.update a.rejectedAt t none }

def rejection : Attempts :=
  { a with rejectedAt := Function.update a.rejectedAt t (some a.fetched.length) }

def called {α : Type} (r : Except PyErr α) : Attempts :=
  let a := { a with calls := Function.update a.calls t (a.calls t + 1) }
  if tokenRejected r then a.rejection t else a

/-- The task has called once and been rejected, and the token came later. -/
def Renewed (token : Bytes) : Prop :=
  a.calls t = 1 ∧ ∃ n, a.rejectedAt t = some n ∧ token ∈ (a.fetched.drop n).map (·.loginBlob)

end Attempts

/-- The record of the attempts on the device's lock. -/
def seeAttempts (serial : Serial) (t : TaskId) : (o : Op) → o.Res → Entry → Attempts → Attempts
  | .key s, _, _, a => if s = serial then a.lookedUp t else a
  | .getKey s _, .ok key, _, a =>
    if s = serial then { a with fetched := a.fetched ++ [key] } else a
  | .call f _, r, _, a => if f.serial = serial then a.called t r else a
  | .disconnect f, r, _, a => if f.serial = serial ∧ tokenRejected r then a.rejection t else a
  | _, _, _, a => a

/-- The event loop of a config entry with the record of one device. -/
@[reducible] def attemptMachine (parse : ParseBroadcast) (serial : Serial) : Machine sig :=
  (entryMachine parse).observed (seeAttempts serial)

/-- What holds of a task in a phase. -/
def RetryAt (serial : Serial) (s : Entry × Attempts) (t : TaskId) : RetryPhase → Prop
  | .idle => True
  | .checked => s.2.calls t = 0
  | .attempted => s.2.calls t = 1
  | .rejected => s.2.calls t = 1 ∧ ∃ n, s.2.rejectedAt t = some n ∧ n ≤ s.2.fetched.length
  | .fetched key => s.2.Renewed t key.loginBlob
  | .built => s.2.Renewed t (s.1.facade (s.1.current serial)).loginToken
  | .renewed f => f.serial = serial ∧ f.gen ≤ (s.1.current serial).gen ∧
    s.2.Renewed t (s.1.facade f).loginToken

/-- What a step leaves of a task that does not make it: its record, and the facades with their
tokens. -/
structure Later (serial : Serial) (t : TaskId) (s s' : Entry × Attempts) : Prop where
  calls : s'.2.calls t = s.2.calls t
  rejectedAt : s'.2.rejectedAt t = s.2.rejectedAt t
  fetched : s.2.fetched <+: s'.2.fetched
  gen : (s.1.current serial).gen ≤ (s'.1.current serial).gen
  tokens : ∀ gen ≤ (s.1.current serial).gen,
    (s'.1.facade ⟨serial, gen⟩).loginToken = (s.1.facade ⟨serial, gen⟩).loginToken

section
variable {serial : Serial} {s s' : Entry × Attempts} {t : TaskId}

theorem Later.renewed (h : Later serial t s s') {token : Bytes} (hr : s.2.Renewed t token) :
    s'.2.Renewed t token := by
  obtain ⟨hcalls, n, hn, htoken⟩ := hr
  obtain ⟨more, hmore⟩ := h.fetched
  refine ⟨h.calls.trans hcalls, n, h.rejectedAt.trans hn, ?_⟩
  rw [← hmore, List.drop_append, List.map_append]
  exact List.mem_append_left _ htoken

theorem RetryAt.later {g : RetryPhase} (hg : RetryAt serial s t g) (h : Later serial t s s')
    (hbuilt : g = .built → s'.1.current serial = s.1.current serial) : RetryAt serial s' t g := by
  cases g with
  | idle => trivial
  | checked => exact h.calls.trans hg
  | attempted => exact h.calls.trans hg
  | rejected =>
    obtain ⟨hcalls, n, hn, hle⟩ := hg
    exact ⟨h.calls.trans hcalls, n, h.rejectedAt.trans hn, hle.trans h.fetched.length_le⟩
  | fetched key => exact h.renewed hg
  | built =>
    show s'.2.Renewed t _
    rw [hbuilt rfl]
    exact h.tokens (s.1.current serial).gen le_rfl ▸ h.renewed hg
  | renewed f =>
    obtain ⟨rfl, hgen, hr⟩ := hg
    exact ⟨rfl, hgen.trans h.gen, h.tokens f.gen hgen ▸ h.renewed hr⟩

/-- The record of another task. -/
theorem seeAttempts_other (serial : Serial) {t' : TaskId} (ht : t' ≠ t) (o : Op) (r : o.Res)
    (e : Entry) (a : Attempts) : (seeAttempts serial t o r e a).calls t' = a.calls t' ∧
      (seeAttempts serial t o r e a).rejectedAt t' = a.rejectedAt t' ∧
      a.fetched <+: (seeAttempts serial t o r e a).fetched := by
  cases o with
  | key s =>
    simp only [seeAttempts, Attempts.lookedUp]
    split <;> simp [ht]
  | getKey s force =>
    cases r with
    | ok key =>
      simp only [seeAttempts]
      split <;> simp
    | error err => exact ⟨rfl, rfl, List.prefix_rfl⟩
  | call f m =>
    simp only [seeAttempts, Attempts.called, Attempts.rejection]
    split <;> [split; skip] <;> simp [ht]
  | disconnect f =>
    simp only [seeAttempts, Attempts.rejection]
    split <;> simp [ht]
  | _ => exact ⟨rfl, rfl, List.prefix_rfl⟩

/-- A facade that was built keeps its token. -/
theorem runOp_tokens {e e' : Entry} {o : Op} {r : o.Res} (hr : e.runOp t o = some (r, e')) :
    (e.current serial).gen ≤ (e'.current serial).gen ∧ ∀ gen ≤ (e.current serial).gen,
      (e'.facade ⟨serial, gen⟩).loginToken = (e.facade ⟨serial, gen⟩).loginToken := by
  rw [Entry.runOp_current serial hr]
  refine ⟨?_, fun gen hgen => ?_⟩
  · cases o with
    | buildFacade s token =>
      by_cases hs : serial = s
      · subst hs
        simp
      · simp [hs]
    | _ => exact le_rfl
  · rw [Entry.runOp_facade _ hr]
    cases o with
    | buildFacade s token =>
      refine congrArg Facade.loginToken (if_neg fun h => ?_)
      cases h
      exact absurd hgen (Nat.not_succ_le_self _)
    | _ => rfl

/-- What a step of a task is to the others. -/
theorem later_run {e e' : Entry} {a : Attempts} {o : Op} {r : o.Res}
    (hr : e.runOp t o = some (r, e')) {t' : TaskId} (ht : t' ≠ t) :
    Later serial t' (e, a) (e', seeAttempts serial t o r e a) := by
  obtain ⟨hcalls, hrejected, hfetched⟩ := seeAttempts_other serial ht o r e a
  exact ⟨hcalls, hrejected, hfetched, (runOp_tokens hr).1, (runOp_tokens hr).2⟩

/-- A step that tells nothing of the attempts. -/
theorem RetryAt.silent {g : RetryPhase} {e e' : Entry} {a : Attempts} {o : Op} {r : o.Res}
    (hg : RetryAt serial (e, a) t g) (hr : e.runOp t o = some (r, e'))
    (hbuilt : g = .built → e'.current serial = e.current serial) :
    RetryAt serial (e', a) t g :=
  hg.later ⟨rfl, rfl, List.prefix_rfl, (runOp_tokens hr).1, (runOp_tokens hr).2⟩ hbuilt

/-- An operation that does not suspend. -/
theorem retry_run {g : RetryPhase} {e e' : Entry} {a : Attempts} {o : Op} {r : o.Res}
    (hserial : serial ∈ e.monitor.serials) (hg : RetryAt serial (e, a) t g)
    (hmay : (retrying serial).may g o) (hr : e.runOp t o = some (r, e')) :
    ∃ g', (retrying serial).after g o r = some g' ∧
      RetryAt serial (e', seeAttempts serial t o r e a) t g' := by
  have hcurrent := Entry.runOp_current serial hr
  cases o with
  | lockRef s =>
    cases hr
    by_cases hb : s = serial ∧ g = .built
    · obtain ⟨rfl, rfl⟩ := hb
      exact ⟨.renewed (e.current s), by simp [retrying, Entry.current], rfl, le_rfl, hg⟩
    · exact ⟨g, by simp [retrying, Entry.current, hb], hg⟩
  | buildFacade s token =>
    have hne : g ≠ .built := by
      rintro rfl
      exact hmay
    have hsame : RetryAt serial (e', a) t g := hg.silent hr fun hb => absurd hb hne
    cases g with
    | fetched key =>
      by_cases hbuilt : s = serial ∧ token = key.loginBlob
      · refine ⟨.built, congrArg some (if_pos hbuilt), ?_⟩
        obtain ⟨rfl, rfl⟩ := hbuilt
        have hrenewed : a.Renewed t key.loginBlob := hg
        show a.Renewed t (e'.facade (e'.current s)).loginToken
        rw [hcurrent, Entry.runOp_facade _ hr]
        simpa using hrenewed
      · exact ⟨.fetched key, congrArg some (if_neg hbuilt), hsame⟩
    | built => exact absurd rfl hne
    | _ => exact ⟨_, rfl, hsame⟩
  | key s =>
    have hne : g ≠ .built := by
      rintro rfl
      exact hmay
    by_cases hs : s = serial
    · refine ⟨.checked, by cases g <;> exact congrArg some (if_pos hs), ?_⟩
      show (seeAttempts serial t (.key s) r e a).calls t = 0
      simp [seeAttempts, hs, Attempts.lookedUp]
    · refine ⟨g, by cases g <;> exact congrArg some (if_neg hs), ?_⟩
      rw [show seeAttempts serial t (.key s) r e a = a from if_neg hs]
      exact hg.silent hr fun hb => absurd hb hne
  | boundControl s =>
    refine ⟨g, ?_, hg.silent hr fun _ => hcurrent⟩
    cases hr
    refine if_neg fun h => ?_
    rw [h.1] at h
    exact absurd h.2 (by simpa using hserial)
  | acquireRefresh s =>
    obtain ⟨rfl, -⟩ := Entry.runOp_acquire hr
    exact ⟨g, by cases g <;> rfl, hg.silent hr fun _ => hcurrent⟩
  | call f m => cases hr
  | disconnect f => cases hr
  | getKey s force => cases hr
  | _ => exact ⟨g, by cases g <;> rfl, hg.silent hr fun _ => hcurrent⟩

/-- The facades that the end of a wait leaves. -/
theorem RetryAt.wake {g : RetryPhase} {e e' : Entry} {a : Attempts} {o : Op} {r : o.Res}
    (hw : e.wakeOp t o r = some e') (hg : RetryAt serial (e, a) t g) :
    RetryAt serial (e', a) t g :=
  hg.later ⟨rfl, rfl, List.prefix_rfl, (Entry.wakeOp_current hw serial ▸ le_rfl),
    fun _ _ => Entry.wakeOp_loginToken hw _⟩ fun _ => Entry.wakeOp_current hw serial

theorem later_wake {e e' : Entry} {a : Attempts} {o : Op} {r : o.Res}
    (hw : e.wakeOp t o r = some e') {t' : TaskId} (ht : t' ≠ t) :
    Later serial t' (e, a) (e', seeAttempts serial t o r e a) := by
  obtain ⟨hcalls, hrejected, hfetched⟩ := seeAttempts_other serial ht o r e a
  exact ⟨hcalls, hrejected, hfetched, Entry.wakeOp_current hw serial ▸ le_rfl,
    fun _ _ => Entry.wakeOp_loginToken hw _⟩

/-- A rejected call or disconnect. -/
theorem rejectedAt_rejection {e : Entry} {a : Attempts} (hcalls : a.calls t = 1) :
    RetryAt serial (e, a.rejection t) t .rejected :=
  ⟨hcalls, a.fetched.length, Function.update_self .., le_rfl⟩

/-- The end of a call. -/
theorem retry_called {α : Type} {g : RetryPhase} {f : FacadeRef} {e : Entry} {a : Attempts}
    (hg : RetryAt serial (e, a) t g) (hmay : g = .checked ∨ g = .renewed f) (r : Except PyErr α) :
    RetryAt serial (e, a.called t r) t (g.called (tokenRejected r)) := by
  rcases hmay with rfl | rfl
  · have hcalls : a.calls t = 0 := hg
    unfold RetryPhase.called Attempts.called
    cases tokenRejected r with
    | false => exact (Function.update_self ..).trans (by rw [hcalls])
    | true => exact rejectedAt_rejection ((Function.update_self ..).trans (by rw [hcalls]))
  · trivial

/-- The end of a disconnect. -/
theorem retry_disconnected {g : RetryPhase} {e : Entry} {a : Attempts}
    (hg : RetryAt serial (e, a) t g) (hne : g ≠ .built) (r : Except PyErr Unit) :
    RetryAt serial (e, if tokenRejected r then a.rejection t else a) t (g.disconnected r) := by
  cases g with
  | idle => trivial
  | built => exact absurd rfl hne
  | checked =>
    have hcalls : a.calls t = 0 := hg
    split <;> exact hcalls
  | attempted =>
    unfold RetryPhase.disconnected
    split
    · exact rejectedAt_rejection hg
    · trivial
  | rejected =>
    cases r with
    | ok u => exact hg
    | error err =>
      by_cases herr : tokenRejected (.error err : Except PyErr Unit) = true
      · simp only [herr, RetryPhase.disconnected, Bool.or_true, if_true]
        exact rejectedAt_rejection hg.1
      · simp only [RetryPhase.disconnected, herr]
        trivial
  | fetched key =>
    cases r with
    | ok u => exact hg
    | error err => trivial
  | renewed f =>
    cases r with
    | ok u => exact hg
    | error err => trivial

/-- The end of a wait. -/
theorem retry_wake {g : RetryPhase} {e e' : Entry} {a : Attempts} {o : Op} {r : o.Res}
    (hg : RetryAt serial (e, a) t g) (hne : g ≠ .built) (hmay : (retrying serial).may g o)
    (hw : e.wakeOp t o r = some e') :
    ∃ g', (retrying serial).after g o r = some g' ∧
      RetryAt serial (e', seeAttempts serial t o r e a) t g' := by
  cases o with
  | call f m =>
    refine ⟨if f.serial = serial then g.called (tokenRejected r) else g, rfl, .wake hw ?_⟩
    by_cases hf : f.serial = serial
    · have hphase : g = .checked ∨ g = .renewed f := by
        cases g with
        | built => exact absurd rfl hne
        | _ => exact hmay hf
      simp only [seeAttempts, hf, if_true]
      exact retry_called hg hphase r
    · simp only [seeAttempts, hf, if_false]
      exact hg
  | disconnect f =>
    refine ⟨if f.serial = serial then g.disconnected r else g, rfl, .wake hw ?_⟩
    by_cases hf : f.serial = serial
    · simp only [seeAttempts, hf, true_and, if_true]
      exact retry_disconnected hg hne r
    · simp only [seeAttempts, hf, false_and, if_false]
      exact hg
  | acquireRefresh s =>
    have hsame : RetryAt serial (e', a) t g := .wake hw hg
    cases g with
    | rejected =>
      cases r with
      | ok u => exact ⟨.rejected, rfl, hsame⟩
      | error err => exact ⟨.idle, rfl, trivial⟩
    | _ => exact ⟨_, rfl, hsame⟩
  | getKey s force =>
    cases hw
    cases r with
    | error err =>
      cases g with
      | rejected => exact ⟨.idle, rfl, trivial⟩
      | _ => exact ⟨_, rfl, hg⟩
    | ok key =>
      by_cases hs : s = serial
      · have hgrown : RetryAt serial (e, { a with fetched := a.fetched ++ [key] }) t g :=
          hg.later ⟨rfl, rfl, List.prefix_append .., le_rfl, fun _ _ => rfl⟩ fun _ => rfl
        simp only [seeAttempts, hs, if_true]
        cases g with
        | rejected =>
          obtain ⟨hcalls, n, hn, hle⟩ := hg
          refine ⟨.fetched key, congrArg some (if_pos hs), hcalls, n, hn, ?_⟩
          rw [List.drop_append_of_le_length hle, List.map_append]
          exact List.mem_append_right _ List.mem_cons_self
        | _ => exact ⟨_, rfl, hgrown⟩
      · simp only [seeAttempts, hs, if_false]
        cases g with
        | rejected => exact ⟨.rejected, congrArg some (if_neg hs), hg⟩
        | _ => exact ⟨_, rfl, hg⟩
  | _ => cases hw

end

/-! ## Runs -/

/-- What holds of every task, and that nobody waits with a facade that was just built. -/
structure RetryInv (serial : Serial) (s : Entry × Attempts) (Γ : View (retrying serial)) :
    Prop where
  served : serial ∈ s.1.monitor.serials
  phase : ∀ t g w, Γ t = some (g, w) → RetryAt serial s t g
  atOnce : ∀ t g o, Γ t = some (g, some o) → g ≠ .built

section
variable {serial : Serial} {s s' : Entry × Attempts} {Γ : View (retrying serial)} {t : TaskId}

/-- A step of a task; the current facade is not rebuilt while another has just built it. -/
theorem RetryInv.step (h : RetryInv serial s Γ) {w : Option (RetryPhase × Option Op)}
    (hserved : s'.1.monitor.serials = s.1.monitor.serials)
    (hlater : ∀ t', t' ≠ t → Later serial t' s s')
    (hbuilt : ∀ t' o, t' ≠ t → Γ t' = some (.built, o) →
      s'.1.current serial = s.1.current serial)
    (hown : ∀ g o, w = some (g, o) → RetryAt serial s' t g)
    (honce : ∀ g o, w = some (g, some o) → g ≠ .built) :
    RetryInv serial s' (Function.update Γ t w) where
  served := hserved ▸ h.served
  phase t' g o hΓ := by
    by_cases ht : t' = t
    · subst ht
      rw [Function.update_self] at hΓ
      exact hown g o hΓ
    · rw [Function.update_of_ne ht] at hΓ
      refine (h.phase t' g o hΓ).later (hlater t' ht) fun hb => ?_
      subst hb
      exact hbuilt t' o ht hΓ
  atOnce t' g o hΓ := by
    by_cases ht : t' = t
    · subst ht
      rw [Function.update_self] at hΓ
      exact honce g o hΓ
    · rw [Function.update_of_ne ht] at hΓ
      exact h.atOnce t' g o hΓ

theorem Later.refl : Later serial t s s :=
  ⟨rfl, rfl, List.prefix_rfl, le_rfl, fun _ _ => rfl⟩

/-- The view changes, and the state does not. -/
theorem RetryInv.view (h : RetryInv serial s Γ) {w : Option (RetryPhase × Option Op)}
    (hown : ∀ g o, w = some (g, o) → RetryAt serial s t g)
    (honce : ∀ g o, w = some (g, some o) → g ≠ .built) :
    RetryInv serial s (Function.update Γ t w) :=
  h.step rfl (fun _ _ => .refl) (fun _ _ _ _ => rfl) hown honce

theorem serials_runOp {e e' : Entry} {o : Op} {r : o.Res} (hr : e.runOp t o = some (r, e')) :
    e'.monitor.serials = e.monitor.serials := by
  rw [Entry.runOp_monitor hr]
  cases o with
  | _ => rfl

end

theorem retryInv_keeps (parse : ParseBroadcast) (serial : Serial) :
    Keeps Request.prog (Guard.any (attemptMachine parse serial) Request) (retrying serial)
      (fun _ => .idle) (fun _ _ g => Unattempted g) (RetryInv serial) where
  meets req _ := prog_retrying req .idle (.inl rfl)
  spawn s Γ t req hI hΓ _ := by
    refine hI.view (fun g o h => ?_) (fun g o h => ?_)
    · cases h
      trivial
    · cases h
  run s Γ t g o r s' hI hΓ hothers hmay hr _ := by
    obtain ⟨⟨r', e'⟩, hrun, heq⟩ := Option.map_eq_some_iff.mp hr
    obtain ⟨rfl, rfl⟩ := Prod.mk.inj heq
    obtain ⟨g', hafter, hown⟩ := retry_run hI.served (hI.phase t g none hΓ) hmay hrun
    refine ⟨g', hafter, hI.step (serials_runOp hrun) (fun t' ht => later_run hrun ht) ?_ ?_ ?_⟩
    · intro t' w ht hΓ'
      obtain ⟨o', rfl⟩ := Option.isSome_iff_exists.mp (hothers t' _ _ ht hΓ')
      exact absurd rfl (hI.atOnce t' _ o' hΓ')
    · intro g o h
      cases h
      exact hown
    · exact nofun
  park s Γ t g o hI hΓ hmay hr := by
    have hr : s.1.runOp t o = none := Option.map_eq_none_iff.mp hr
    have hlater : ∀ t', Later serial t' s (s.1.parkOp t o, s.2) := fun _ =>
      ⟨rfl, rfl, List.prefix_rfl, by rw [Entry.parkOp_current],
        fun _ _ => Entry.loginToken_parkOp ..⟩
    have hcurrent : (s.1.parkOp t o).current serial = s.1.current serial :=
      Entry.parkOp_current ..
    refine hI.step (congrArg Monitor.serials (Entry.parkOp_monitor ..)) (fun t' _ => hlater t')
      (fun _ _ _ _ => hcurrent) ?_ ?_
    · intro g' o' h
      cases h
      exact (hI.phase t g none hΓ).later (hlater t) fun _ => hcurrent
    · -- nothing that a task does with a facade it has just built suspends
      intro g' o' h
      cases h
      rintro rfl
      cases o with
      | lockRef s => cases hr
      | notifyKey s => cases hr
      | releaseRefresh s => cases hr
      | _ => exact hmay
  wake s Γ t g o r s' hI hΓ hmay hw _ := by
    obtain ⟨e', hwake, rfl⟩ := Option.map_eq_some_iff.mp hw
    obtain ⟨g', hafter, hown⟩ :=
      retry_wake (hI.phase t g _ hΓ) (hI.atOnce t g o hΓ) hmay hwake
    refine ⟨g', hafter, hI.step (congrArg Monitor.serials (Entry.wakeOp_monitor hwake))
      (fun t' ht => later_wake hwake ht) (fun _ _ _ _ => Entry.wakeOp_current hwake serial) ?_ ?_⟩
    · intro g o h
      cases h
      exact hown
    · exact nofun
  finish s Γ t req r g hI hΓ hg := hI.view nofun nofun
  env s Γ ev s' hI he := by
    obtain ⟨e', henv, rfl⟩ := Option.map_eq_some_iff.mp he
    have hcurrent := Entry.envStep_current henv serial
    refine ⟨?_, fun t g o hΓ => ?_, hI.atOnce⟩
    · rcases Entry.envStep_monitor henv with hm | ⟨ev, -, hm⟩
      · simpa only [hm] using hI.served
      · simpa only [hm, Monitor.serials_step] using hI.served
    · exact (hI.phase t g o hΓ).later ⟨rfl, rfl, List.prefix_rfl, hcurrent ▸ le_rfl,
        fun _ _ => Entry.envStep_loginToken henv _⟩ fun _ => hcurrent

section
variable (parse : ParseBroadcast) (serials : List Serial) (nodup : serials.Nodup)
  (keys : Serial → DeviceKey) (serial : Serial)

def attemptInit : Config (attemptMachine parse serial) PyErr Unit Request where
  state := (.init serials nodup keys, ⟨[], fun _ => 0, fun _ => none⟩)
  tasks _ := none

/-- The record of the attempts on a device's lock in a run of a new entry. -/
def attempts (ls : List (Label (attemptMachine parse serial) Request)) : Attempts :=
  (Runs.exec (Config.step Request.prog) (attemptInit parse serials nodup keys serial) ls).state.2

/-- The task waits for the facade's command. -/
def CallsLock {parse : ParseBroadcast} (c : EntryConfig parse) (t : TaskId) (f : FacadeRef) :
    Prop :=
  ∃ req m k, c.tasks t = some (req, .op (.call f m) k)

end

/-- The lock rejects the login token. -/
def tokenInvalid : (o : Op) → Option o.Res
  | .call _ _ => some (.error (.commandError "TOKEN_VALIDITY" 0x5E))
  | _ => none

/-- A command is rejected and attempts again with the key that came in between. -/
def attemptedTwice : List (Label (attemptMachine exampleParse "L1") Request) :=
  [.env (.monitor (atSecond 1 (.advertisement (exampleInfo 0)))), .spawn 0 (.command "L1" .lock),
    .env (.connect ⟨"L1", 0⟩ fun _ _ => some ()), .resume 0 tokenInvalid, .resume 0 done,
    .resume 0 fetched, .resume 0 done]

end DanalockBle
