import DanalockBle.Control.Retry

/-!
# The exceptions that escape a command

The scripts here may also raise `ValueError` in a facade call (a malformed response) and
`BleakError` in a disconnect (`Script.Allowed`). A command ends in a value or a `LockControlError`
except on two kinds of input (`Script.escapes`): a malformed response to any command but the
device information read, whose wrapper is the only one that names it, and a disconnect that fails
inside the `set_key` of a refresh, which runs outside the handlers that name `BleakError`.
-/

namespace DanalockBle

open DanalockControl

def PyErr.isValueError : PyErr → Bool
  | valueError _ => true
  | _ => false

def PyErr.isBleakError : PyErr → Bool
  | bleakError _ => true
  | _ => false

namespace Script

/-- The calls also end in `ValueError`, the disconnects in `BleakError`. -/
structure Allowed (sc : Script) : Prop where
  call : ∀ n m e, sc.call n m = .error e → e.isExpected = true ∨ e.isValueError = true
  cleanup : ∀ n e, sc.cleanup n = .error e → e.isBleakError = true
  getKey : ∀ n e, sc.getKey n = .error e → e.isCloud = true
  push : ∀ n e, sc.push n = .error e → e.isBleakError = true

variable (sc : Script)

/-- The `n`-th fetch succeeds and the disconnect that pushes its key fails. -/
def pushFails (n : Nat) : Bool := sc.fetched n && !(sc.push n).isOk

/-- How the `n`-th attempt ends. -/
def attemptEnd (n : Nat) (m : Method) : Except PyErr m.Result :=
  match sc.cleanup n with
  | .ok _ => received m (sc.call n m)
  | .error e => .error e

/-- The `n`-th call gets a malformed response, for a command that does not name it, and its
disconnect succeeds. -/
def malformed (n : Nat) (m : Method) : Bool :=
  (sc.cleanup n).isOk && m != .deviceInformation &&
    match sc.call n m with
    | .ok _ => false
    | .error e => e.isValueError

/-- The first call is rejected for its token and its disconnect succeeds. -/
def rejectedFirst (m : Method) : Bool := (sc.cleanup 0).isOk && sc.tokenRejected m

/-- The inputs on which another exception than `LockControlError` escapes. -/
def escapes (m : Method) : Bool :=
  (sc.expired && sc.pushFails 0) || sc.malformed 0 m ||
    (sc.rejectedFirst m &&
      (sc.pushFails sc.retryFetch || (sc.fetched sc.retryFetch && sc.malformed 1 m)))

end Script

/-- A value or a `LockControlError`. -/
def Surfaced {α : Type} (r : Except PyErr α) : Prop :=
  ∀ e, r = .error e → e.isLockControlError = true

theorem surfaced_ok {α : Type} (v : α) : Surfaced (.ok v : Except PyErr α) := by
  intro e h
  cases h

theorem surfaced_error {α : Type} {e : PyErr} :
    Surfaced (.error e : Except PyErr α) ↔ e.isLockControlError = true := by
  constructor
  · intro h
    exact h e rfl
  · intro h e' he
    cases he
    exact h

section
variable {sc : Script} (serial : Serial) (m : Method)

/-- An attempt that ended in something else than a malformed response is surfaced. -/
theorem settle_surfaced {e : PyErr} (he : e.isExpected = true) :
    Surfaced (settle (rejected m) e) := by
  have h := settle_expected m he
  cases hv : attemptValue m (.error e) with
  | some v =>
    rw [hv] at h
    rw [h]
    exact surfaced_ok v
  | none =>
    rw [hv] at h
    obtain ⟨e', h1, h2⟩ := h
    rw [h1]
    exact surfaced_error.mpr h2

theorem isExpected_of_bleak {e : PyErr} (he : e.isBleakError = true) : e.isExpected = true := by
  cases e <;> first | rfl | cases he

/-- How an attempt can end: a value, an expected exception, or a malformed response. -/
theorem attemptEnd_cases (h : sc.Allowed) (n : Nat) :
    (∃ v, sc.attemptEnd n m = .ok v ∧ sc.malformed n m = false) ∨
    (∃ e, sc.attemptEnd n m = .error e ∧ e.isExpected = true ∧ sc.malformed n m = false) ∨
    (∃ t, sc.attemptEnd n m = .error (.valueError t) ∧ sc.malformed n m = true) := by
  unfold Script.attemptEnd Script.malformed
  cases hc : sc.cleanup n with
  | error e =>
    refine .inr (.inl ⟨e, rfl, isExpected_of_bleak (h.cleanup n e hc), rfl⟩)
  | ok u =>
    simp only [Except.isOk, Except.toBool, Bool.true_and]
    cases hcall : sc.call n m with
    | ok v =>
      left
      refine ⟨v, ?_, by simp⟩
      cases m <;> rfl
    | error e =>
      right
      rcases h.call n m e hcall with he | he
      · left
        refine ⟨e, ?_, he, ?_⟩
        · cases e <;> first | (cases m <;> rfl) | cases he
        · cases e <;> first | (cases he; done) | simp [PyErr.isValueError]
      · cases e with
        | valueError t =>
          by_cases hm : m = .deviceInformation
          · subst hm
            exact .inl ⟨malformedInformationError t, rfl, rfl, rfl⟩
          · refine .inr ⟨t, ?_, ?_⟩
            · cases m <;> first | rfl | exact absurd rfl hm
            · simp [hm, PyErr.isValueError]
        | _ => cases he

/-- How a refresh can end: a cloud failure, a failed push, a new key. -/
theorem refetch_cases (h : sc.Allowed) (w : Alone) :
    (∃ e w', sc.refetch serial w = (.error e, w') ∧ e.isCloud = true ∧
      sc.fetched w.fetches = false ∧ sc.pushFails w.fetches = false ∧ w'.calls = w.calls ∧
      w'.fetches = w.fetches + 1) ∨
    (∃ e w', sc.refetch serial w = (.error e, w') ∧ e.isBleakError = true ∧
      sc.pushFails w.fetches = true) ∨
    (∃ key w', sc.refetch serial w = (.ok key, w') ∧ sc.fetched w.fetches = true ∧
      sc.pushFails w.fetches = false ∧ w'.calls = w.calls ∧ w'.fetches = w.fetches + 1) := by
  unfold Script.refetch Script.pushFails Script.fetched
  cases hg : sc.getKey w.fetches with
  | error e => exact .inl ⟨e, _, rfl, h.getKey _ _ hg, rfl, rfl, rfl, rfl⟩
  | ok key =>
    cases hp : sc.push w.fetches with
    | error e => exact .inr (.inl ⟨e, _, rfl, h.push _ _ hp, rfl⟩)
    | ok u => exact .inr (.inr ⟨key, _, rfl, rfl, rfl, rfl, rfl⟩)

theorem not_surfaced_bleak {α : Type} {e : PyErr} (he : e.isBleakError = true) :
    ¬ Surfaced (.error e : Except PyErr α) := by
  rw [surfaced_error]
  cases e <;> first | (cases he; done) | simp [PyErr.isLockControlError]

theorem not_surfaced_valueError {α : Type} (t : String) :
    ¬ Surfaced (.error (.valueError t) : Except PyErr α) := by
  rw [surfaced_error]
  simp [PyErr.isLockControlError]

theorem isCloud_of_bleak {e : PyErr} (he : e.isBleakError = true) : e.isCloud = false := by
  cases e <;> first | (cases he; done) | rfl

theorem attempted_attemptEnd (w : Alone) :
    sc.attempted serial m w = (sc.attemptEnd w.calls m, (sc.attempted serial m w).2) := rfl

/-- The token rejection of the first attempt is the first call's. -/
theorem attemptEnd_rejected (h : sc.Allowed) {e : PyErr} (he : sc.attemptEnd 0 m = .error e) :
    sc.rejectedFirst m = e.isTokenRejection := by
  unfold Script.attemptEnd at he
  unfold Script.rejectedFirst Script.tokenRejected
  cases hc : sc.cleanup 0 with
  | error e' =>
    rw [hc] at he
    cases he
    have hb := h.cleanup 0 e hc
    cases e <;> first | (cases hb; done) | rfl
  | ok u =>
    rw [hc] at he
    simp only at he
    simp only [Except.isOk, Except.toBool, Bool.true_and]
    cases hcall : sc.call 0 m with
    | ok v =>
      rw [hcall] at he
      cases m <;> cases he
    | error e' =>
      rw [hcall] at he
      cases e' <;> cases m <;> cases he <;> rfl

theorem attemptEnd_accepted {v : m.Result} (hv : sc.attemptEnd 0 m = .ok v) :
    sc.rejectedFirst m = false := by
  unfold Script.attemptEnd at hv
  unfold Script.rejectedFirst Script.tokenRejected
  cases hc : sc.cleanup 0 with
  | error e => rfl
  | ok u =>
    rw [hc] at hv
    cases hcall : sc.call 0 m with
    | ok v => rfl
    | error e =>
      rw [hcall] at hv
      cases e <;> cases m <;> cases hv

/-- An attempt whose failure is settled is surfaced unless its response is malformed. -/
theorem attemptEnd_surfaced (h : sc.Allowed) (n : Nat) :
    Surfaced (match sc.attemptEnd n m with
      | .ok v => .ok v
      | .error e => settle (rejected m) e : Except PyErr m.Result) ↔
      sc.malformed n m = false := by
  rcases attemptEnd_cases m h n with ⟨v, hend, hmal⟩ | ⟨e, hend, hexp, hmal⟩ | ⟨t, hend, hmal⟩
  · rw [hend, hmal]
    exact iff_of_true (surfaced_ok v) rfl
  · rw [hend, hmal]
    exact iff_of_true (settle_surfaced m hexp) rfl
  · rw [hend, hmal]
    exact iff_of_false (not_surfaced_valueError t) (by simp)

/-- The retry after a token rejection escapes. -/
def Script.retryEscapes (sc : Script) (m : Method) : Bool :=
  sc.pushFails sc.retryFetch || (sc.fetched sc.retryFetch && sc.malformed 1 m)

/-- What follows a token rejection is surfaced unless the retry escapes. -/
theorem afterRejection_surfaced (h : sc.Allowed) {w : Alone} (hcalls : w.calls = 1)
    (hfetches : w.fetches = sc.retryFetch) {e : PyErr} (ht : e.isTokenRejection = true) :
    Surfaced (sc.afterFailure serial m e w).1 ↔ sc.retryEscapes m = false := by
  unfold Script.afterFailure Script.retryEscapes
  rw [if_pos ht]
  have hrefetch := refetch_cases serial h w
  rw [hfetches] at hrefetch
  rcases hrefetch with
    ⟨e', w', hr, hcloud, hf, hp, -, -⟩ | ⟨e', w', hr, hb, hp⟩ | ⟨key, w', hr, hf, hp, hc, -⟩
  · rw [hr, hf, hp]
    simp only [hcloud, if_true, surfaced_error]
    simp [refreshFailedError, PyErr.isLockControlError]
  · rw [hr, hp]
    simp only [isCloud_of_bleak hb, Bool.false_eq_true, if_false, Bool.true_or]
    exact iff_of_false (not_surfaced_bleak hb) (by simp)
  · rw [hr, hf, hp, Bool.false_or, Bool.true_and, ← attemptEnd_surfaced m h 1]
    simp only
    rw [attempted_attemptEnd, hc, hcalls]
    cases sc.attemptEnd 1 m <;> exact Iff.rfl

/-- From the first attempt on, a command is surfaced unless that attempt's response is malformed
or its retry escapes. -/
theorem attempted_surfaced (h : sc.Allowed) {w : Alone} (hcalls : w.calls = 0)
    (hfetches : w.fetches = sc.retryFetch) :
    Surfaced (match sc.attempted serial m w with
      | (.ok v, w') => (.ok v, w')
      | (.error e, w') => sc.afterFailure serial m e w' : Except PyErr m.Result × Alone).1 ↔
    (sc.malformed 0 m || (sc.rejectedFirst m && sc.retryEscapes m)) = false := by
  have hcalls' : (sc.attempted serial m w).2.calls = 1 := congrArg (· + 1) hcalls
  have hfetches' : (sc.attempted serial m w).2.fetches = sc.retryFetch := hfetches
  rw [attempted_attemptEnd, hcalls]
  cases hend : sc.attemptEnd 0 m with
  | ok v =>
    have hmal := (attemptEnd_surfaced m h 0).mp (by rw [hend]; exact surfaced_ok v)
    rw [attemptEnd_accepted m hend, hmal]
    exact iff_of_true (surfaced_ok v) rfl
  | error e =>
    rw [attemptEnd_rejected m h hend]
    by_cases ht : e.isTokenRejection = true
    · -- a rejection is no malformed response
      have hmal : sc.malformed 0 m = false := by
        rcases attemptEnd_cases m h 0 with ⟨v, hv, hmal⟩ | ⟨e', -, -, hmal⟩ | ⟨t, hv, -⟩
        · exact hmal
        · exact hmal
        · rw [hend] at hv
          cases hv
          cases ht
      rw [ht, hmal, Bool.false_or, Bool.true_and]
      exact afterRejection_surfaced serial m h hcalls' hfetches' ht
    · have hsettle := attemptEnd_surfaced m h 0
      rw [hend] at hsettle
      rw [Bool.eq_false_iff.mpr ht, Bool.false_and, Bool.or_false, ← hsettle]
      simp only [Script.afterFailure, ht, Bool.false_eq_true, if_false]

/-- **What escapes a command.** A command ends in a value or a `LockControlError` on exactly the
inputs that are not `escapes`. -/
theorem surfaced_iff (sc : Script) (h : sc.Allowed) (serial : Serial) (key : DeviceKey)
    (m : Method) :
    Surfaced (sc.play (run serial m) (Script.start key)).1 ↔ sc.escapes m = false := by
  have hescapes : sc.escapes m = ((sc.expired && sc.pushFails 0) ||
      (sc.malformed 0 m || (sc.rejectedFirst m && sc.retryEscapes m))) := Bool.or_assoc ..
  rw [Script.play_run sc serial rfl m, hescapes]
  unfold Script.preCheck
  by_cases he : sc.expired = true
  · have hretry : sc.retryFetch = 1 := if_pos he
    simp only [he, if_true, Bool.true_and]
    rcases refetch_cases serial h (Script.start key) with
      ⟨e', w', hr, hcloud, -, hp, hc, hf⟩ | ⟨e', w', hr, hb, hp⟩ | ⟨k, w', hr, -, hp, hc, hf⟩
    · rw [hr, show sc.pushFails 0 = false from hp, Bool.false_or]
      simp only [hcloud, if_true]
      exact attempted_surfaced serial m h hc (hf.trans hretry.symm)
    · rw [hr, show sc.pushFails 0 = true from hp, Bool.true_or]
      simp only [isCloud_of_bleak hb, Bool.false_eq_true, if_false]
      exact iff_of_false (not_surfaced_bleak hb) (by simp)
    · rw [hr, show sc.pushFails 0 = false from hp, Bool.false_or]
      exact attempted_surfaced serial m h hc (hf.trans hretry.symm)
  · have hretry : sc.retryFetch = 0 := if_neg he
    simp only [he, Bool.false_eq_true, if_false, Bool.false_and, Bool.false_or]
    exact attempted_surfaced serial m h rfl hretry.symm

end

/-- The lock answers a settings read with a malformed response. -/
def malformedOnce : Script where
  expired := false
  call _ _ := .error (.valueError "unexpected length")
  cleanup _ := .ok ()
  getKey _ := .error (.httpError "offline")
  push _ := .ok ()

theorem malformedOnce_allowed : malformedOnce.Allowed where
  call n m e h := by cases h; exact .inr rfl
  cleanup n e h := by cases h
  getKey n e h := by cases h; rfl
  push n e h := by cases h

theorem surfaced_deviceInformation :
    Surfaced (malformedOnce.play (run "L1" .deviceInformation) (Script.start ⟨[], []⟩)).1 :=
  (surfaced_iff malformedOnce malformedOnce_allowed "L1" ⟨[], []⟩ .deviceInformation).mpr
    (by decide)

/-- The settings read raises `ValueError`. -/
theorem malformedOnce_settings :
    malformedOnce.Allowed ∧
      (malformedOnce.play (run "L1" .settings) (Script.start ⟨[], []⟩)).1 =
        .error (.valueError "unexpected length") ∧
      ¬ Surfaced (malformedOnce.play (run "L1" .settings) (Script.start ⟨[], []⟩)).1 :=
  ⟨malformedOnce_allowed, rfl, fun h => absurd (h _ rfl) (by decide)⟩

end DanalockBle
