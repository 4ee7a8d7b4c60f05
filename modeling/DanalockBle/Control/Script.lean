import DanalockBle.Control.Attempt

/-!
# A command alone

A command of the control played alone against a `Script`, which says how each facade call, each
cloud fetch and each disconnect ends. `Alone` is what the command sees of its control, with the
record `acts` of what it did to the outside, in order.
-/

namespace DanalockBle

open Coroutine Coroutine.Coro

/-- How each step of a command ends: the `n`-th facade call, the disconnect after it, the `n`-th
cloud fetch, and the disconnect that pushes its key. -/
structure Script where
  expired : Bool
  call : Nat → (m : Method) → Except PyErr m.Result
  cleanup : Nat → Except PyErr Unit
  getKey : Nat → Except PyErr DeviceKey
  push : Nat → Except PyErr Unit

inductive Act where
  | getKey (force : Bool)
  | build (f : FacadeRef) (loginToken : Bytes)
  | call (f : FacadeRef) (m : Method)
  | disconnect (f : FacadeRef)
  deriving DecidableEq, Repr

structure Alone where
  key : DeviceKey
  gen : Nat := 0
  calls : Nat := 0
  fetches : Nat := 0
  refreshing : Bool := false
  acts : List Act := []

namespace Alone

def record (w : Alone) (acts : List Act) : Alone := { w with acts := w.acts ++ acts }

/-- The answers of a script. -/
def answer (sc : Script) (w : Alone) : (o : Op) → o.Res × Alone
  | .lockRef s => (⟨s, w.gen⟩, w)
  | .buildFacade s loginToken =>
    ((), { w with gen := w.gen + 1 }.record [.build ⟨s, w.gen + 1⟩ loginToken])
  | .call f m => (sc.call w.calls m, { w with calls := w.calls + 1 }.record [.call f m])
  | .disconnect f =>
    (if w.refreshing then sc.push (w.fetches - 1) else sc.cleanup (w.calls - 1),
      w.record [.disconnect f])
  | .key _ => (w.key, w)
  | .keyExpired _ => (sc.expired, w)
  | .acquireRefresh _ => (.ok (), { w with refreshing := true })
  | .releaseRefresh _ => ((), { w with refreshing := false })
  | .getKey _ force =>
    (sc.getKey w.fetches, { w with fetches := w.fetches + 1 }.record [.getKey force])
  | .storeKey _ key => ((), { w with key := key })
  | .boundControl _ => (true, w)
  | .keySerials => ([], w)
  | .notifyKey _ => ((), w)
  | .startReauth => ((), w)
  | .setInProgress _ _ _ => ((), w)
  | .writeState _ => ((), w)
  | .setPending _ _ => ((), w)
  | .applySettings _ _ => ((), w)

end Alone

namespace Script

variable (sc : Script)

/-- A coroutine of the control against the script. -/
def play {α : Type} (c : Py α) (w : Alone) : Except PyErr α × Alone :=
  Coro.play (Alone.answer sc) c w

/-- A forced refresh: fetch, close the session of the current facade, build a new one. -/
def refetch (serial : Serial) (w : Alone) : Except PyErr DeviceKey × Alone :=
  let fetched := { w with fetches := w.fetches + 1 }.record [.getKey true]
  match sc.getKey w.fetches with
  | .error e => (.error e, fetched)
  | .ok key =>
    let closed := { fetched with key := key }.record [.disconnect ⟨serial, w.gen⟩]
    match sc.push w.fetches with
    | .error e => (.error e, closed)
    | .ok _ =>
      (.ok key,
        { closed with gen := w.gen + 1 }.record [.build ⟨serial, w.gen + 1⟩ key.loginBlob])

/-- An attempt: the call and the disconnect that follows it on the same facade. -/
def attempted (serial : Serial) (m : Method) (w : Alone) : Except PyErr m.Result × Alone :=
  (match sc.cleanup w.calls with
    | .ok _ => DanalockControl.received m (sc.call w.calls m)
    | .error e => .error e,
    { w with calls := w.calls + 1 }.record
      [.call ⟨serial, w.gen⟩ m, .disconnect ⟨serial, w.gen⟩])

section
variable (serial : Serial) {w : Alone}

open DanalockControl

theorem play_refresh (hw : w.refreshing = false) :
    sc.play (DanalockKeyManager.refresh serial true) w = sc.refetch serial w := by
  obtain ⟨key, gen, calls, fetches, refreshing, acts⟩ := w
  cases hw
  unfold play refetch DanalockKeyManager.refresh
  simp only [Py.acquireRefresh, Py.getKey, bind_eq, Coro.bind, Coro.tryFinally, Coro.play,
    Alone.answer, ofResult, Alone.record]
  cases hk : sc.getKey fetches with
  | error e => rfl
  | ok key' =>
    simp only [Coro.bind, Py.storeKey, Py.boundControl, setKey, Py.lockRef, Py.disconnect, bind_eq,
      if_true, Coro.tryFinally, Coro.play, Alone.answer, Nat.add_sub_cancel, Alone.record]
    cases hp : sc.push fetches with
    | error e => rfl
    | ok u => rfl

theorem play_callLock (m : Method) :
    sc.play (callLock serial m) w =
      (sc.call w.calls m, { w with calls := w.calls + 1 }.record [.call ⟨serial, w.gen⟩ m]) := by
  unfold play callLock
  simp only [Py.lockRef, Py.call, bind_eq, Coro.bind, Coro.play, Alone.answer]
  cases sc.call w.calls m <;> rfl

theorem play_body (m : Method) :
    sc.play (body serial m) w =
      (received m (sc.call w.calls m),
        { w with calls := w.calls + 1 }.record [.call ⟨serial, w.gen⟩ m]) := by
  have hcall := play_callLock sc serial (w := w) m
  cases m with
  | deviceInformation =>
    unfold play at hcall ⊢
    simp only [body, readInformation]
    rw [play_tryExcept, hcall]
    cases sc.call w.calls .deviceInformation with
    | ok v => rfl
    | error e => cases e <;> rfl
  | _ => exact hcall

theorem play_attempt (hw : w.refreshing = false) (m : Method) :
    sc.play (attemptCall serial (body serial m)) w = sc.attempted serial m w := by
  have hbody := play_body sc serial (w := w) m
  unfold play at hbody ⊢
  unfold attemptCall
  rw [play_tryFinally, hbody]
  simp only [Py.lockRef, Py.disconnect, bind_eq, Coro.bind, Coro.play, Alone.answer, Alone.record,
    hw, attempted, Nat.add_sub_cancel, Bool.false_eq_true, if_false]
  cases hc : sc.cleanup w.calls <;> simp [ofResult, Coro.play]

@[simp] theorem refetch_refreshing : (sc.refetch serial w).2.refreshing = w.refreshing := by
  unfold refetch
  simp only
  split
  · rfl
  · split <;> rfl

@[simp] theorem attempted_refreshing (m : Method) :
    (sc.attempted serial m w).2.refreshing = w.refreshing := rfl

/-- The refresh of an expired key; only what is no cloud failure escapes. -/
def preCheck (w : Alone) : Except PyErr Unit × Alone :=
  if sc.expired then
    match sc.refetch serial w with
    | (.ok _, w') => (.ok (), w')
    | (.error e, w') => (if e.isCloud then .ok () else .error e, w')
  else (.ok (), w)

theorem play_refreshIfExpired (hw : w.refreshing = false) :
    sc.play (refreshIfExpired serial) w = sc.preCheck serial w := by
  have hrefresh := play_refresh sc serial hw
  unfold play at hrefresh ⊢
  unfold refreshIfExpired preCheck
  simp only [Py.key, Py.keyExpired, bind_eq, Coro.bind, Coro.play, Alone.answer]
  by_cases he : sc.expired = true
  · simp only [he, if_true]
    rw [play_tryExcept, play_bind, hrefresh]
    cases sc.refetch serial w with
    | mk r w' =>
      cases r with
      | ok key => rfl
      | error e => simp only; split <;> rfl
  · simp only [he, Bool.false_eq_true, if_false]
    rfl

theorem play_refreshAfterRejection (hw : w.refreshing = false) :
    sc.play (refreshAfterRejection serial) w =
      match sc.refetch serial w with
      | (.ok _, w') => (.ok (), w')
      | (.error e, w') => (.error (if e.isCloud then refreshFailedError e else e), w') := by
  have hrefresh := play_refresh sc serial hw
  unfold play at hrefresh ⊢
  unfold refreshAfterRejection
  rw [play_tryExcept]
  simp only [bind_eq]
  rw [play_bind, hrefresh]
  cases sc.refetch serial w with
  | mk r w' =>
    cases r with
    | ok key => rfl
    | error e => simp only; split <;> rfl

theorem preCheck_refreshing : (sc.preCheck serial w).2.refreshing = w.refreshing := by
  have h := refetch_refreshing sc serial (w := w)
  unfold preCheck
  split
  · cases hr : sc.refetch serial w with
    | mk r w' =>
      rw [hr] at h
      cases r <;> exact h
  · rfl

/-- What a command does after its first attempt ended in `err`. -/
def afterFailure (m : Method) (err : PyErr) (w : Alone) : Except PyErr m.Result × Alone :=
  if err.isTokenRejection then
    match sc.refetch serial w with
    | (.error e, w') => (.error (if e.isCloud then refreshFailedError e else e), w')
    | (.ok _, w') =>
      match sc.attempted serial m w' with
      | (.ok v, w'') => (.ok v, w'')
      | (.error e, w'') => (settle (rejected m) e, w'')
  else (settle (rejected m) err, w)

theorem play_ofResult {α : Type} (r : Except PyErr α) : sc.play (ofResult r) w = (r, w) := by
  cases r <;> rfl

/-- The handler of the first attempt. -/
theorem play_handler (hw : w.refreshing = false) (m : Method) (err : PyErr) :
    sc.play (if err.isTokenRejection then
        (refreshAfterRejection serial).bind fun _ =>
          tryExcept (attemptCall serial (body serial m)) fun e => ofResult (settle (rejected m) e)
      else ofResult (settle (rejected m) err)) w = sc.afterFailure serial m err w := by
  unfold afterFailure
  by_cases ht : err.isTokenRejection = true
  · rw [if_pos ht, if_pos ht]
    have hrefresh := play_refreshAfterRejection sc serial hw
    have hkept := refetch_refreshing sc serial (w := w)
    unfold play at hrefresh ⊢
    rw [play_bind, hrefresh]
    cases hr : sc.refetch serial w with
    | mk r w' =>
      rw [hr] at hkept
      cases r with
      | error e => rfl
      | ok key =>
        have hattempt := play_attempt sc serial (hkept.trans hw) m
        unfold play at hattempt
        simp only
        rw [play_tryExcept, hattempt]
        cases sc.attempted serial m w' with
        | mk r w'' =>
          cases r with
          | ok v => rfl
          | error e => exact play_ofResult sc _
  · rw [if_neg ht, if_neg ht]
    exact play_ofResult sc _

/-- **A command against a script.** -/
theorem play_run (hw : w.refreshing = false) (m : Method) :
    sc.play (run serial m) w =
      match sc.preCheck serial w with
      | (.error e, w') => (.error e, w')
      | (.ok _, w') =>
        match sc.attempted serial m w' with
        | (.ok v, w'') => (.ok v, w'')
        | (.error e, w'') => sc.afterFailure serial m e w'' := by
  have hpre := play_refreshIfExpired sc serial hw
  have hkept := preCheck_refreshing sc serial (w := w)
  rw [run_eq, withRetry]
  unfold play at hpre ⊢
  rw [bind_eq, play_bind, hpre]
  cases hp : sc.preCheck serial w with
  | mk r w' =>
    rw [hp] at hkept
    cases r with
    | error e => rfl
    | ok u =>
      have hw' : w'.refreshing = false := hkept.trans hw
      have hattempt := play_attempt sc serial hw' m
      unfold play at hattempt
      simp only
      rw [play_tryExcept, hattempt]
      cases ha : sc.attempted serial m w' with
      | mk r w'' =>
        have hw'' : w''.refreshing = false := by
          have hsame := attempted_refreshing sc serial (w := w') m
          rw [ha] at hsame
          exact hsame.trans hw'
        cases r with
        | ok v => rfl
        | error err => exact play_handler sc serial hw'' m err

end

end Script

end DanalockBle
