import DanalockBle.Control.Script

/-!
# The retry protocol of a command

What a command does and returns against a script whose disconnects succeed and whose facade calls
and fetches end in a value or in one of the exceptions the handlers name (`Script.Expected`).
`Script.play_run_eq` is the closed form of what it does and ends in; the points of the protocol
(`RetryProtocol`) are read off it.
-/

namespace DanalockBle

open DanalockControl

/-- The exceptions a facade call is expected to raise. -/
def PyErr.isExpected : PyErr → Bool
  | .commandError _ _ => true
  | err => err.isTransport || err.isLockControlError

/-- The disconnects succeed, the calls and fetches end in a value or an expected exception. -/
structure Script.Expected (sc : Script) : Prop where
  call : ∀ n m e, sc.call n m = .error e → e.isExpected = true
  cleanup : ∀ n, sc.cleanup n = .ok ()
  getKey : ∀ n e, sc.getKey n = .error e → e.isCloud = true
  push : ∀ n, sc.push n = .ok ()

namespace Act

def isCall : Act → Bool
  | call _ _ => true
  | _ => false

def isGetKey : Act → Bool
  | getKey _ => true
  | _ => false

/-- Every call is followed at once by the disconnect of its facade. -/
def Closed : List Act → Prop
  | [] => True
  | call f _ :: acts => acts.head? = some (disconnect f) ∧ Closed acts
  | _ :: acts => Closed acts

/-- The facades of the calls, in order. -/
def attempts (acts : List Act) : List FacadeRef :=
  acts.filterMap fun
    | call f _ => some f
    | _ => none

theorem attempts_append (acts acts' : List Act) :
    attempts (acts ++ acts') = attempts acts ++ attempts acts' := List.filterMap_append

theorem attempts_eq_nil {acts : List Act} (h : ∀ a ∈ acts, a.isCall = false) :
    attempts acts = [] := by
  refine List.filterMap_eq_nil_iff.mpr fun a ha => ?_
  cases a with
  | call f m => cases h _ ha
  | _ => rfl

theorem Closed.append {acts acts' : List Act} (h : ∀ a ∈ acts, a.isCall = false)
    (h' : Closed acts') : Closed (acts ++ acts') := by
  induction acts with
  | nil => exact h'
  | cons a acts ih =>
    have hrest := ih fun b hb => h b (List.mem_cons_of_mem a hb)
    cases a with
    | call f m => cases h _ List.mem_cons_self
    | _ => exact hrest

end Act

namespace Script

variable (sc : Script) (serial : Serial) (m : Method)

/-- The first call is rejected for its token. -/
def tokenRejected : Bool :=
  match sc.call 0 m with
  | .ok _ => false
  | .error e => e.isTokenRejection

/-- The number of the refresh that follows a token rejection. -/
def retryFetch : Nat := if sc.expired then 1 else 0

def fetched (n : Nat) : Bool := (sc.getKey n).isOk

/-- The facade of the first attempt. -/
def firstGen : Nat := if sc.expired && sc.fetched 0 then 1 else 0

def refetchActs (gen n : Nat) : List Act :=
  .getKey true ::
    match sc.getKey n with
    | .ok key => [.disconnect ⟨serial, gen⟩, .build ⟨serial, gen + 1⟩ key.loginBlob]
    | .error _ => []

def attemptActs (gen : Nat) : List Act := [.call ⟨serial, gen⟩ m, .disconnect ⟨serial, gen⟩]

/-- The acts before the first attempt. -/
def preActs : List Act := if sc.expired then sc.refetchActs serial 0 0 else []

/-- The acts after the first attempt. -/
def retryActs : List Act :=
  if sc.tokenRejected m then
    sc.refetchActs serial sc.firstGen sc.retryFetch ++
      if sc.fetched sc.retryFetch then attemptActs serial m (sc.firstGen + 1) else []
  else []

/-- What the command ends in. -/
def result : Except PyErr m.Result :=
  match sc.call 0 m with
  | .ok v => .ok v
  | .error e =>
    if e.isTokenRejection then
      match sc.getKey sc.retryFetch with
      | .error e' => .error (refreshFailedError e')
      | .ok _ =>
        match sc.call 1 m with
        | .ok v => .ok v
        | .error e' => settle (rejected m) e'
    else settle (rejected m) e

/-- A script command starts with a facade of its own and an empty record. -/
def start (key : DeviceKey) : Alone := { key := key }

variable {sc} (h : sc.Expected) (key : DeviceKey)
include h

theorem refetch_eq (w : Alone) :
    sc.refetch serial w =
      (sc.getKey w.fetches,
        match sc.getKey w.fetches with
        | .error _ =>
          { w with
            fetches := w.fetches + 1
            acts := w.acts ++ sc.refetchActs serial w.gen w.fetches }
        | .ok key =>
          { w with
            key := key
            gen := w.gen + 1
            fetches := w.fetches + 1
            acts := w.acts ++ sc.refetchActs serial w.gen w.fetches }) := by
  unfold refetch refetchActs Alone.record
  cases sc.getKey w.fetches with
  | error e => rfl
  | ok key =>
    simp only [h.push, List.append_assoc]
    rfl

theorem attempted_eq (w : Alone) :
    sc.attempted serial m w =
      (sc.call w.calls m,
        { w with calls := w.calls + 1, acts := w.acts ++ attemptActs serial m w.gen }) := by
  have hreceived : received m (sc.call w.calls m) = sc.call w.calls m := by
    cases hc : sc.call w.calls m with
    | ok v => cases m <;> rfl
    | error e =>
      have he := h.call _ _ _ hc
      cases e <;> first | (cases m <;> rfl) | cases he
  unfold attempted attemptActs Alone.record
  rw [h.cleanup, hreceived]

/-- The pre-check fails no command, whatever becomes of its fetch. -/
theorem preCheck_eq : ∃ key', sc.preCheck serial (start key) = (.ok (),
    { key := key', gen := sc.firstGen, fetches := sc.retryFetch, acts := sc.preActs serial }) := by
  unfold preCheck firstGen retryFetch preActs
  by_cases he : sc.expired = true
  · simp only [he, if_true, Bool.true_and]
    rw [refetch_eq serial h]
    have hk : (start key).fetches = 0 := rfl
    rw [hk]
    cases hg : sc.getKey 0 with
    | error e =>
      have hc := h.getKey 0 e hg
      refine ⟨key, ?_⟩
      simp [hc, fetched, hg, Except.isOk, Except.toBool, start]
    | ok key' =>
      refine ⟨key', ?_⟩
      simp [fetched, hg, Except.isOk, Except.toBool, start]
  · refine ⟨key, ?_⟩
    simp [he, start]

/-- What a command returns, from the ends of its calls and fetches. -/
theorem play_run_eq : ∃ w, sc.play (run serial m) (start key) = (sc.result m, w) ∧
    w.acts = sc.preActs serial ++ attemptActs serial m sc.firstGen ++ sc.retryActs serial m := by
  obtain ⟨key', hpre⟩ := preCheck_eq serial h key
  rw [play_run sc serial rfl m, hpre]
  simp only [attempted_eq serial m h]
  unfold result retryActs tokenRejected
  cases hc : sc.call 0 m with
  | ok v => exact ⟨_, rfl, by simp⟩
  | error e =>
    simp only [afterFailure]
    by_cases ht : e.isTokenRejection = true
    · simp only [ht, if_true, refetch_eq serial h]
      cases hg : sc.getKey sc.retryFetch with
      | error e' =>
        have hcloud := h.getKey _ _ hg
        refine ⟨_, by simp only [hcloud, if_true]; rfl, ?_⟩
        simp [fetched, hg, Except.isOk, Except.toBool]
      | ok key2 =>
        simp only [attempted_eq serial m h]
        cases hc2 : sc.call 1 m with
        | ok v =>
          refine ⟨_, rfl, ?_⟩
          simp [fetched, hg, Except.isOk, Except.toBool]
        | error e2 =>
          refine ⟨_, rfl, ?_⟩
          simp [fetched, hg, Except.isOk, Except.toBool]
    · simp only [ht, Bool.false_eq_true, if_false]
      exact ⟨_, rfl, by simp⟩

end Script

/-! ## The protocol -/

/-- The value of an attempt that succeeded; for lock and unlock, nothing to change is success. -/
def attemptValue (m : Method) (r : Except PyErr m.Result) : Option m.Result :=
  match m, r with
  | _, .ok v => some v
  | .lock, .error (.commandError name _) => if name = nothingChangedStatus then some () else none
  | .unlock, .error (.commandError name _) => if name = nothingChangedStatus then some () else none
  | _, .error _ => none

/-- What a command that runs `m` does (`acts`) and how it ends (`r`). -/
structure RetryProtocol (sc : Script) (serial : Serial) (m : Method) (r : Except PyErr m.Result)
    (acts : List Act) : Prop where
  /-- One forced fetch before the first attempt if the key is expired, none otherwise; the
  attempt follows however it ends. -/
  preCheck : ∃ pre f rest, acts = pre ++ .call f m :: rest ∧ (∀ a ∈ pre, a.isCall = false) ∧
    pre.filter Act.isGetKey = if sc.expired then [.getKey true] else []
  /-- At most two attempts, the second after a token rejection and a fetch that succeeded. -/
  attempts : (Act.attempts acts).length ≤ 2 ∧
    ((Act.attempts acts).length = 2 ↔
      sc.tokenRejected m = true ∧ sc.fetched sc.retryFetch = true)
  /-- One more forced fetch after a token rejection, none otherwise. -/
  fetches : acts.filter Act.isGetKey =
    (if sc.expired then [.getKey true] else []) ++
      if sc.tokenRejected m then [.getKey true] else []
  /-- The second attempt runs on the facade that is built after the first one, with the key that
  the fetch between the two has brought. -/
  rebuilt : ∀ f f', Act.attempts acts = [f, f'] → f' = ⟨f.serial, f.gen + 1⟩ ∧
    ∃ key pre mid rest, acts = pre ++ .call f m :: (mid ++ .build f' key.loginBlob ::
        .call f' m :: rest) ∧
      mid.filter Act.isGetKey = [.getKey true] ∧
      sc.getKey (pre.filter Act.isGetKey).length = .ok key
  closed : Act.Closed acts
  /-- The value of the last attempt if it succeeded, otherwise a `LockControlError`. -/
  result : match attemptValue m (sc.call ((Act.attempts acts).length - 1) m) with
    | some v => r = .ok v
    | none => ∃ e, r = .error e ∧ e.isLockControlError = true

/-- An expected exception that is no device rejection ends as a `LockControlError`. -/
theorem settle_other (m : Method) {e : PyErr} (he : e.isExpected = true)
    (hne : ∀ name status, e ≠ .commandError name status) :
    attemptValue m (.error e) = none ∧
      ∃ e', settle (rejected m) e = .error e' ∧ e'.isLockControlError = true := by
  have hvalue : attemptValue m (.error e) = none := by
    cases e with
    | commandError name status => exact absurd rfl (hne name status)
    | _ => cases m <;> rfl
  have hsettle : settle (rejected m) e =
      .error (if e.isTransport then transportError e else e) := by
    cases e with
    | commandError name status => exact absurd rfl (hne name status)
    | _ => rfl
  refine ⟨hvalue, _, hsettle, ?_⟩
  by_cases ht : e.isTransport = true
  · rw [if_pos ht]
    exact isLockControlError_transportError e
  · rw [if_neg ht]
    cases e with
    | commandError name status => exact absurd rfl (hne name status)
    | lockControlError t => rfl
    | lockAddressUnknownError t => rfl
    | _ => first | exact absurd rfl ht | cases he

theorem settle_expected (m : Method) {e : PyErr} (he : e.isExpected = true) :
    match attemptValue m (.error e) with
    | some v => settle (rejected m) e = .ok v
    | none => ∃ e', settle (rejected m) e = .error e' ∧ e'.isLockControlError = true := by
  cases e with
  | commandError name status =>
    by_cases hn : name = nothingChangedStatus
    · subst hn
      cases m <;>
        first | rfl | exact ⟨_, rfl, isLockControlError_commandError _ _ _⟩
    · cases m <;> simp [attemptValue, settle, rejected, hn, isLockControlError_commandError]
  | _ =>
    obtain ⟨hvalue, hsettle⟩ := settle_other m he fun _ _ h => PyErr.noConfusion h
    rw [hvalue]
    exact hsettle

/-- A token rejection is no success. -/
theorem attemptValue_rejected (m : Method) {e : PyErr} (he : e.isTokenRejection = true) :
    attemptValue m (.error e) = none := by
  cases e with
  | commandError name status =>
    have hn : name ≠ nothingChangedStatus := by
      intro h
      subst h
      have hsame : (nothingChangedStatus == tokenValidityStatus) = true := he
      exact absurd hsame (by decide)
    cases m <;> simp [attemptValue, hn]
  | _ => cases he

section
variable {sc : Script} (serial : Serial) (m : Method)

theorem result_run (h : sc.Expected) :
    match attemptValue m
      (sc.call (if sc.tokenRejected m && sc.fetched sc.retryFetch then 1 else 0) m) with
    | some v => sc.result m = .ok v
    | none => ∃ e, sc.result m = .error e ∧ e.isLockControlError = true := by
  unfold Script.result Script.tokenRejected
  cases hc : sc.call 0 m with
  | ok v =>
    simp only [Bool.false_and, Bool.false_eq_true, if_false, hc]
    cases m <;> rfl
  | error e =>
    by_cases ht : e.isTokenRejection = true
    · simp only [ht, Bool.true_and, if_true]
      cases hg : sc.getKey sc.retryFetch with
      | error e' =>
        simp only [Script.fetched, hg, Except.isOk, Except.toBool, Bool.false_eq_true, if_false, hc,
          attemptValue_rejected m ht]
        exact ⟨_, rfl, rfl⟩
      | ok key =>
        simp only [Script.fetched, hg, Except.isOk, Except.toBool, if_true]
        cases hc2 : sc.call 1 m with
        | ok v => cases m <;> rfl
        | error e2 => exact settle_expected m (h.call _ _ _ hc2)
    · simp only [ht, Bool.false_and, Bool.false_eq_true, if_false, hc]
      exact settle_expected m (h.call _ _ _ hc)

/-! The parts of a command's record. -/

theorem refetchActs_isCall (gen n : Nat) : ∀ a ∈ sc.refetchActs serial gen n, a.isCall = false := by
  unfold Script.refetchActs
  split <;> simp [Act.isCall]

theorem refetchActs_getKey (gen n : Nat) :
    (sc.refetchActs serial gen n).filter Act.isGetKey = [.getKey true] := by
  unfold Script.refetchActs
  split <;> rfl

theorem preActs_isCall : ∀ a ∈ sc.preActs serial, a.isCall = false := by
  unfold Script.preActs
  split
  · exact refetchActs_isCall serial 0 0
  · simp

theorem preActs_getKey : (sc.preActs serial).filter Act.isGetKey =
    if sc.expired then [.getKey true] else [] := by
  unfold Script.preActs
  split
  · exact refetchActs_getKey serial 0 0
  · rfl

theorem retryActs_getKey : (sc.retryActs serial m).filter Act.isGetKey =
    if sc.tokenRejected m then [.getKey true] else [] := by
  unfold Script.retryActs
  split
  · rw [List.filter_append, refetchActs_getKey]
    split <;> rfl
  · rfl

theorem retryActs_attempts : Act.attempts (sc.retryActs serial m) =
    if sc.tokenRejected m && sc.fetched sc.retryFetch then [⟨serial, sc.firstGen + 1⟩] else [] := by
  unfold Script.retryActs
  by_cases ht : sc.tokenRejected m = true
  · rw [if_pos ht, Act.attempts_append, Act.attempts_eq_nil (refetchActs_isCall serial _ _), ht]
    cases sc.fetched sc.retryFetch <;> rfl
  · rw [if_neg ht, Bool.eq_false_iff.mpr ht]
    rfl

theorem retryActs_closed : Act.Closed (sc.retryActs serial m) := by
  unfold Script.retryActs
  split
  · refine Act.Closed.append (refetchActs_isCall serial _ _) ?_
    split <;> simp [Script.attemptActs, Act.Closed]
  · trivial

/-- The fetches before the first attempt are as many as its number says. -/
theorem preActs_fetches :
    ((sc.preActs serial).filter Act.isGetKey).length = sc.retryFetch := by
  rw [preActs_getKey]
  unfold Script.retryFetch
  split <;> rfl

/-- A second attempt follows the build of its facade. -/
theorem retryActs_rebuilt (ht : sc.tokenRejected m = true) {key : DeviceKey}
    (hkey : sc.getKey sc.retryFetch = .ok key) :
    sc.retryActs serial m =
      [.getKey true, .disconnect ⟨serial, sc.firstGen⟩] ++
        .build ⟨serial, sc.firstGen + 1⟩ key.loginBlob :: .call ⟨serial, sc.firstGen + 1⟩ m ::
          [.disconnect ⟨serial, sc.firstGen + 1⟩] := by
  have hf : sc.fetched sc.retryFetch = true := by rw [Script.fetched, hkey]; rfl
  unfold Script.retryActs Script.refetchActs
  rw [if_pos ht, if_pos hf, hkey]
  rfl

/-- **The retry protocol.** -/
theorem retryProtocol_run (sc : Script) (h : sc.Expected) (serial : Serial) (key : DeviceKey)
    (m : Method) :
    RetryProtocol sc serial m (sc.play (run serial m) (Script.start key)).1
      (sc.play (run serial m) (Script.start key)).2.acts := by
  obtain ⟨w, hplay, hacts⟩ := Script.play_run_eq serial m h key
  have hpre : Act.attempts (sc.preActs serial) = [] := Act.attempts_eq_nil (preActs_isCall serial)
  have hfirst : Act.attempts (Script.attemptActs serial m sc.firstGen) =
      [⟨serial, sc.firstGen⟩] := rfl
  have hattempts : Act.attempts w.acts = ⟨serial, sc.firstGen⟩ ::
      if sc.tokenRejected m && sc.fetched sc.retryFetch then [⟨serial, sc.firstGen + 1⟩]
      else [] := by
    rw [hacts, Act.attempts_append, Act.attempts_append, hpre, hfirst, retryActs_attempts]
    rfl
  rw [hplay]
  refine ⟨?_, ?_, ?_, ?_, ?_, ?_⟩
  · refine ⟨sc.preActs serial, ⟨serial, sc.firstGen⟩,
      .disconnect ⟨serial, sc.firstGen⟩ :: sc.retryActs serial m, ?_, preActs_isCall serial,
      preActs_getKey serial⟩
    rw [hacts, List.append_assoc]
    rfl
  · rw [hattempts]
    cases sc.tokenRejected m <;> cases sc.fetched sc.retryFetch <;> simp
  · rw [hacts, List.filter_append, List.filter_append, preActs_getKey, retryActs_getKey]
    simp [Script.attemptActs, Act.isGetKey]
  · intro f f' hff
    rw [hattempts] at hff
    cases ht : sc.tokenRejected m with
    | false => simp [ht] at hff
    | true =>
      cases hkey : sc.getKey sc.retryFetch with
      | error e => simp [ht, Script.fetched, hkey, Except.isOk, Except.toBool] at hff
      | ok key =>
        simp only [ht, Script.fetched, hkey, Except.isOk, Except.toBool, Bool.and_self, if_true,
          List.cons.injEq, and_true] at hff
        obtain ⟨rfl, rfl⟩ := hff
        refine ⟨rfl, key, sc.preActs serial,
          [.disconnect ⟨serial, sc.firstGen⟩, .getKey true, .disconnect ⟨serial, sc.firstGen⟩],
          [.disconnect ⟨serial, sc.firstGen + 1⟩], ?_, rfl, ?_⟩
        · rw [hacts, retryActs_rebuilt serial m ht hkey, List.append_assoc]
          rfl
        · rw [preActs_fetches]
          exact hkey
  · rw [hacts, List.append_assoc]
    refine Act.Closed.append (preActs_isCall serial) ⟨rfl, ?_⟩
    exact retryActs_closed serial m
  · have hlast : (Act.attempts w.acts).length - 1 =
        if sc.tokenRejected m && sc.fetched sc.retryFetch then 1 else 0 := by
      rw [hattempts]
      split <;> rfl
    rw [hlast]
    exact result_run m h

end

/-- An expired key that cannot be refreshed, a token rejection, a fetch that succeeds, success. -/
def rejectedOnce : Script where
  expired := true
  call n m :=
    match n, m with
    | 0, _ => .error (.commandError tokenValidityStatus 0x5E)
    | _, .lock => .ok ()
    | _, _ => .error (.timeoutError "")
  cleanup _ := .ok ()
  getKey n := if n = 0 then .error (.httpError "offline") else .ok ⟨[1], []⟩
  push _ := .ok ()

theorem rejectedOnce_expected : rejectedOnce.Expected where
  call n m e h := by
    match n with
    | 0 => cases h; rfl
    | n + 1 => cases m <;> cases h <;> rfl
  cleanup _ := rfl
  getKey n e h := by
    simp only [rejectedOnce] at h
    split at h <;> cases h
    rfl
  push _ := rfl

theorem retryProtocol_rejectedOnce :
    RetryProtocol rejectedOnce "L1" .lock
        (rejectedOnce.play (run "L1" .lock) (Script.start ⟨[], []⟩)).1
        (rejectedOnce.play (run "L1" .lock) (Script.start ⟨[], []⟩)).2.acts ∧
      (rejectedOnce.play (run "L1" .lock) (Script.start ⟨[], []⟩)).2.acts =
        [.getKey true, .call ⟨"L1", 0⟩ .lock, .disconnect ⟨"L1", 0⟩, .getKey true,
          .disconnect ⟨"L1", 0⟩, .build ⟨"L1", 1⟩ [1], .call ⟨"L1", 1⟩ .lock,
          .disconnect ⟨"L1", 1⟩] :=
  ⟨retryProtocol_run rejectedOnce rejectedOnce_expected "L1" ⟨[], []⟩ .lock, by decide⟩

end DanalockBle
