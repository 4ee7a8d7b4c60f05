import DanalockBle.Control.Commands

/-!
# One background refresh pass

`refresh_all` alone against an assignment of results to the serials: how the fetch of a serial's
key ends, and how the push of the key to the bound control does.
-/

namespace DanalockBle

open Coroutine Coroutine.Coro

/-- What a pass meets for one serial. -/
inductive PassResult where
  | success (key : DeviceKey)
  | authError (text : String)
  | cloudError (text : String)
  | httpError (text : String)
  /-- the key is fetched, the facade's disconnect inside `set_key` raises `BleakError` -/
  | pushFailed (key : DeviceKey) (text : String)
  deriving DecidableEq, Repr

namespace PassResult

/-- `await self._client.get_key(serial, force=force)` -/
def fetch : PassResult → Except PyErr DeviceKey
  | success key | pushFailed key _ => .ok key
  | authError text => .error (.authError text)
  | cloudError text => .error (.cloudError text)
  | httpError text => .error (.httpError text)

/-- `await lock.disconnect()` -/
def push : PassResult → Except PyErr Unit
  | pushFailed _ text => .error (.bleakError text)
  | _ => .ok ()

/-- The key that was fetched. -/
def fetched : PassResult → Option DeviceKey
  | success key | pushFailed key _ => some key
  | _ => none

def isAuthError : PassResult → Bool
  | authError _ => true
  | _ => false

def pushFails : PassResult → Bool
  | pushFailed _ _ => true
  | _ => false

end PassResult

/-- What a pass reads and writes, with the fetches it made and how often it asked for
reauthentication. -/
structure RefreshPass where
  /-- the serials of the key dictionary, in its order -/
  serials : List Serial
  keys : Serial → DeviceKey
  /-- the serials with a bound control -/
  bound : Serial → Bool
  gens : Serial → Nat := fun _ => 0
  fetches : List (Serial × Bool) := []
  reauths : Nat := 0

namespace RefreshPass

/-- The answers to the operations of a pass; it calls no command of a lock. -/
def answer (results : Serial → PassResult) (p : RefreshPass) : (o : Op) → o.Res × RefreshPass
  | .keySerials => (p.serials, p)
  | .acquireRefresh _ => (.ok (), p)
  | .releaseRefresh _ => ((), p)
  | .getKey serial force =>
    ((results serial).fetch, { p with fetches := p.fetches ++ [(serial, force)] })
  | .storeKey serial key => ((), { p with keys := Function.update p.keys serial key })
  | .boundControl serial => (p.bound serial, p)
  | .lockRef serial => (⟨serial, p.gens serial⟩, p)
  | .disconnect f => ((results f.serial).push, p)
  | .buildFacade serial _ =>
    ((), { p with gens := Function.update p.gens serial (p.gens serial + 1) })
  | .notifyKey _ => ((), p)
  | .startReauth => ((), { p with reauths := p.reauths + 1 })
  | .key serial => (p.keys serial, p)
  | .keyExpired _ => (false, p)
  | .call _ _ => (.error (.runtimeError ""), p)
  | .setInProgress _ _ _ => ((), p)
  | .writeState _ => ((), p)
  | .setPending _ _ => ((), p)
  | .applySettings _ _ => ((), p)

variable (results : Serial → PassResult) (p : RefreshPass) (serial : Serial)

/-- The push of a fetched key fails: the serial has a control, and its disconnect raises. -/
def aborts : Bool := p.bound serial && (results serial).pushFails

/-- The key is stored and pushed. -/
def stored (key : DeviceKey) : RefreshPass :=
  { p with
    keys := Function.update p.keys serial key
    gens := if p.bound serial && !(results serial).pushFails then
        Function.update p.gens serial (p.gens serial + 1)
      else p.gens }

/-- What the pass does about one serial. -/
def treated : RefreshPass :=
  let asked := { p with fetches := p.fetches ++ [(serial, true)] }
  match results serial with
  | .success key | .pushFailed key _ => asked.stored results serial key
  | .authError _ => { asked with reauths := asked.reauths + 1 }
  | .cloudError _ | .httpError _ => asked

/-- One refresh: how it ends, and what it leaves. -/
theorem play_refresh :
    (DanalockKeyManager.refresh serial true).play (answer results) p =
      let asked := { p with fetches := p.fetches ++ [(serial, true)] }
      match (results serial).fetch with
      | .error err => (.error err, asked)
      | .ok key =>
        (if p.bound serial then (results serial).push.map fun _ => key else .ok key,
          asked.stored results serial key) := by
  unfold DanalockKeyManager.refresh
  simp only [Py.acquireRefresh, Py.getKey, bind_eq, Coro.bind, Coro.tryFinally, Coro.play, answer,
    ofResult]
  cases hresult : results serial with
  | success key =>
    cases hbound : p.bound serial <;>
      simp [Coro.bind, Coro.tryFinally, Coro.play, answer, ofResult, Py.storeKey, Py.boundControl,
        Py.notifyKey, Py.releaseRefresh, DanalockControl.setKey, Py.lockRef, Py.disconnect,
        Py.buildFacade, stored, PassResult.fetch, PassResult.push, PassResult.pushFails, hresult,
        hbound, Except.map, pure]
  | pushFailed key text =>
    cases hbound : p.bound serial <;>
      simp [Coro.bind, Coro.tryFinally, Coro.play, answer, ofResult, Py.storeKey, Py.boundControl,
        Py.notifyKey, Py.releaseRefresh, DanalockControl.setKey, Py.lockRef, Py.disconnect,
        stored, PassResult.fetch, PassResult.push, PassResult.pushFails, hresult,
        hbound, Except.map, pure]
  | _ => rfl

/-- One serial of the loop. -/
theorem play_each (rest : List Serial) :
    (DanalockKeyManager.refreshEach (serial :: rest)).play (answer results) p =
      if p.aborts results serial = true then ((results serial).push, p.treated results serial)
      else
        (DanalockKeyManager.refreshEach rest).play (answer results) (p.treated results serial) := by
  have hrefresh := play_refresh results p serial
  rw [DanalockKeyManager.refreshEach, bind_eq, play_bind, play_tryExcept, bind_eq, play_bind,
    hrefresh]
  unfold aborts treated
  cases hresult : results serial with
  | success key => cases p.bound serial <;> rfl
  | pushFailed key text => cases p.bound serial <;> rfl
  | _ =>
    rw [Bool.and_comm]
    rfl

@[simp] theorem treated_bound : (p.treated results serial).bound = p.bound := by
  unfold treated stored
  cases results serial <;> rfl

@[simp] theorem treated_fetches :
    (p.treated results serial).fetches = p.fetches ++ [(serial, true)] := by
  unfold treated stored
  cases results serial <;> rfl

@[simp] theorem treated_reauths :
    (p.treated results serial).reauths =
      p.reauths + if (results serial).isAuthError = true then 1 else 0 := by
  unfold treated stored
  cases results serial <;> rfl

/-- Only the entry of the serial changes, to the fetched key if there is one. -/
theorem treated_keys :
    (p.treated results serial).keys =
      Function.update p.keys serial ((results serial).fetched.getD (p.keys serial)) := by
  unfold treated stored
  cases results serial with
  | success key => rfl
  | pushFailed key text => rfl
  | _ => exact (Function.update_eq_self serial p.keys).symm

@[simp] theorem treated_aborts (s : Serial) :
    (p.treated results serial).aborts results s = p.aborts results s := by
  unfold aborts
  rw [treated_bound]

/-- The loop reaches its end exactly when no push of its serials fails. -/
theorem refreshEach_returns_iff (serials : List Serial) :
    ((DanalockKeyManager.refreshEach serials).play (answer results) p).1 = .ok () ↔
      ∀ s ∈ serials, p.aborts results s = false := by
  induction serials generalizing p with
  | nil => simp [DanalockKeyManager.refreshEach, Coro.play, pure]
  | cons serial rest ih =>
    rw [play_each, List.forall_mem_cons]
    cases haborts : p.aborts results serial with
    | true =>
      have hfails : (results serial).pushFails = true := (Bool.and_eq_true_iff.mp haborts).2
      have hpush : (results serial).push ≠ .ok () := by
        cases hresult : results serial with
        | pushFailed key text => simp [PassResult.push]
        | _ => simp [hresult, PassResult.pushFails] at hfails
      simp [hpush]
    | false => simpa using ih (p.treated results serial)

/-- What a loop that reaches its end leaves is what it leaves serial by serial. -/
theorem refreshEach_state {serials : List Serial}
    (h : ∀ s ∈ serials, p.aborts results s = false) :
    ((DanalockKeyManager.refreshEach serials).play (answer results) p).2 =
      serials.foldl (treated results) p := by
  induction serials generalizing p with
  | nil => rfl
  | cons serial rest ih =>
    obtain ⟨hserial, hrest⟩ := List.forall_mem_cons.mp h
    rw [play_each, hserial, if_neg Bool.false_ne_true]
    exact ih _ fun s hs => (treated_aborts results p serial s).trans (hrest s hs)

theorem foldl_treated_fetches (serials : List Serial) :
    (serials.foldl (treated results) p).fetches = p.fetches ++ serials.map fun s => (s, true) := by
  induction serials generalizing p with
  | nil => exact (List.append_nil _).symm
  | cons serial rest ih => simp [ih]

theorem foldl_treated_reauths (serials : List Serial) :
    (serials.foldl (treated results) p).reauths =
      p.reauths + serials.countP fun s => (results s).isAuthError := by
  induction serials generalizing p with
  | nil => rfl
  | cons serial rest ih =>
    rw [List.foldl_cons, ih, treated_reauths, List.countP_cons]
    omega

/-- The cache after the serials: the fetched key of each, and nothing else is written. -/
theorem foldl_treated_keys (serials : List Serial) (s : Serial) :
    (serials.foldl (treated results) p).keys s =
      if s ∈ serials then (results s).fetched.getD (p.keys s) else p.keys s := by
  induction serials generalizing p with
  | nil => rfl
  | cons serial rest ih =>
    rw [List.foldl_cons, ih, treated_keys]
    by_cases hs : s = serial
    · subst hs
      cases (results s).fetched <;> simp
    · simp [hs]

/-- A pass begins. -/
def start (serials : List Serial) (keys : Serial → DeviceKey) (bound : Serial → Bool) :
    RefreshPass where
  serials := serials
  keys := keys
  bound := bound

/-- The pass has treated every serial: it returns, it made one forced fetch for each serial in
the order of the dictionary, a cache entry changed to the fetched key if there is one, and it
asked for reauthentication exactly after an `AuthError`. -/
structure TreatsAll (serials : List Serial) (keys : Serial → DeviceKey)
    (r : Except PyErr Unit × RefreshPass) : Prop where
  returns : r.1 = .ok ()
  fetches : r.2.fetches = serials.map fun s => (s, true)
  keys : ∀ s ∈ serials, r.2.keys s = (results s).fetched.getD (keys s)
  reauths : 0 < r.2.reauths ↔ ∃ s ∈ serials, (results s).isAuthError = true

end RefreshPass

open RefreshPass in
/-- **A background refresh pass.** It treats every serial of the key dictionary exactly when no
serial with a bound control has a push that fails. -/
theorem refreshAll_treatsAll_iff (serials : List Serial) (keys : Serial → DeviceKey)
    (bound : Serial → Bool) (results : Serial → PassResult) :
    TreatsAll results serials keys
        (DanalockKeyManager.refreshAll.play (answer results) (start serials keys bound)) ↔
      ∀ s ∈ serials, bound s = true → (results s).pushFails = false := by
  have hplay : DanalockKeyManager.refreshAll.play (answer results) (start serials keys bound) =
      (DanalockKeyManager.refreshEach serials).play (answer results)
        (start serials keys bound) := rfl
  have haborts : (∀ s ∈ serials, (start serials keys bound).aborts results s = false) ↔
      ∀ s ∈ serials, bound s = true → (results s).pushFails = false := by
    simp [aborts, start]
  rw [hplay, ← haborts]
  refine ⟨fun h => (refreshEach_returns_iff results _ serials).mp h.returns, fun h => ?_⟩
  have hstate := refreshEach_state results _ h
  refine ⟨(refreshEach_returns_iff results _ serials).mpr h, ?_, fun s hs => ?_, ?_⟩
  · rw [hstate, foldl_treated_fetches]
    rfl
  · rw [hstate, foldl_treated_keys, if_pos hs]
    rfl
  · rw [hstate, foldl_treated_reauths, start, Nat.zero_add, List.countP_pos_iff]

/-- Of two locks the facade of the first one cannot be closed. -/
def firstPushFails : Serial → PassResult
  | "A" => .pushFailed ⟨[1], [1]⟩ "not connected"
  | _ => .success ⟨[2], [2]⟩

/-- The pass ends before it reaches the second lock. -/
theorem refreshAll_firstPushFails :
    ¬ ∀ (serials : List Serial) (keys : Serial → DeviceKey) (results : Serial → PassResult),
      serials.Nodup → RefreshPass.TreatsAll results serials keys
        (DanalockKeyManager.refreshAll.play (RefreshPass.answer results)
          (RefreshPass.start serials keys fun _ => true)) := by
  intro h
  have hfetches := (h ["A", "B"] (fun _ => ⟨[], []⟩) firstPushFails (by decide)).fetches
  exact absurd hfetches (by decide)

end DanalockBle
