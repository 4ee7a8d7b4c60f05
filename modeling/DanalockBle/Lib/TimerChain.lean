import Mathlib.Tactic.Common

/-!
# Timer chains

A component that keeps itself running by one-shot timers: a cycle runs, arms the timer of the next
cycle and ends. `Timers` is what the event loop keeps of it: the timers that are armed (neither
fired nor cancelled) and how many were armed so far, which is the handle of the next one.

`ChainPhase` is what such a component is for: at any time a timer is armed, a cycle runs, or the
chain has ended. `InChain` relates the phase to the timers, to the handle the component keeps and to
the tasks that are inside a cycle; one lemma for each thing that can happen (`ChainPhase.Move`)
leads from one phase to the next.
-/

namespace TimerChain

structure Timers (τ : Type) where
  pending : List (Nat × τ) := []
  armed : Nat := 0

namespace Timers

variable {τ : Type} (T : Timers τ)

/-- A new timer; its handle is `T.armed`. -/
def arm (x : τ) : Timers τ where
  pending := T.pending ++ [(T.armed, x)]
  armed := T.armed + 1

/-- Cancel a timer, if it is still armed. -/
def cancel (h : Nat) : Timers τ := { T with pending := T.pending.filter fun p => p.1 != h }

/-- What was armed under the handle, if it is still armed. -/
def find (h : Nat) : Option τ := (T.pending.find? fun p => p.1 == h).map (·.2)

theorem arm_of_nil (h : T.pending = []) (x : τ) : (T.arm x).pending = [(T.armed, x)] := by
  rw [arm, h, List.nil_append]

theorem cancel_of_nil (h : T.pending = []) (i : Nat) : (T.cancel i).pending = [] := by
  rw [cancel, h, List.filter_nil]

theorem cancel_of_single {h : Nat} {x : τ} (hp : T.pending = [(h, x)]) :
    (T.cancel h).pending = [] := by
  rw [cancel, hp]
  simp

/-- A timer that is not armed cannot be cancelled. -/
theorem cancel_of_find_none {h : Nat} (hf : T.find h = none) : T.cancel h = T := by
  have hkeep : T.pending.filter (fun p => p.1 != h) = T.pending := by
    refine List.filter_eq_self.mpr fun p hp => bne_iff_ne.mpr fun he => ?_
    rw [find, Option.map_eq_none_iff, List.find?_eq_none] at hf
    exact hf p hp (beq_iff_eq.mpr he)
  rw [cancel, hkeep]

theorem find_of_nil (h : T.pending = []) (i : Nat) : T.find i = none := by
  rw [find, h]
  rfl

theorem find_of_single {h i : Nat} {x y : τ} (hp : T.pending = [(h, x)])
    (hf : T.find i = some y) : i = h ∧ y = x := by
  rw [find, hp, List.find?_singleton] at hf
  split at hf
  · next he =>
    simp only [beq_iff_eq] at he
    exact ⟨he.symm, (Option.some.inj hf).symm⟩
  · cases hf

end Timers

/-- What a chain is doing. -/
inductive ChainPhase (τ κ : Type) where
  | armed (h : Nat) (x : τ)
  | running (k : κ)
  | ended

def ChainPhase.isRunning {τ κ : Type} : ChainPhase τ κ → Bool
  | running _ => true
  | _ => false

/-- What happens to a chain. -/
inductive Move where
  | stay
  /-- a cycle starts -/
  | start
  /-- a cycle ends and has armed the next timer -/
  | rearm
  /-- a cycle ends without a next one -/
  | lose
  /-- the timer is cancelled -/
  | cancel
  deriving DecidableEq

variable {τ κ : Type}

/-- A move leads from the phase to the phase. -/
inductive ChainPhase.Step : ChainPhase τ κ → Move → ChainPhase τ κ → Prop where
  | stay (p : ChainPhase τ κ) : Step p .stay p
  | run (h : Nat) (x : τ) (k : κ) : Step (.armed h x) .start (.running k)
  | revive (k : κ) : Step .ended .start (.running k)
  | rearm (k : κ) (h : Nat) (x : τ) : Step (.running k) .rearm (.armed h x)
  | lose (k : κ) : Step (.running k) .lose .ended
  | cancel (h : Nat) (x : τ) : Step (.armed h x) .cancel .ended

/-- A chain goes on until a cycle is lost or the timer is cancelled. -/
theorem ChainPhase.Step.goesOn {p q : ChainPhase τ κ} {m : Move} (h : Step p m q) (hp : p ≠ .ended)
    (hlose : m ≠ .lose) (hcancel : m ≠ .cancel) : q ≠ .ended := by
  cases h with
  | stay => exact hp
  | lose => exact absurd rfl hlose
  | cancel => exact absurd rfl hcancel
  | _ => exact nofun

/-- Without a timer, and with no cycle started or armed again, none will be. -/
theorem ChainPhase.Step.idle {p q : ChainPhase τ κ} {m : Move} (h : Step p m q)
    (hp : ∀ i x, p ≠ .armed i x) (hrearm : m ≠ .rearm) : ∀ i x, q ≠ .armed i x := by
  cases h with
  | stay => exact hp
  | rearm => exact absurd rfl hrearm
  | _ => exact nofun

/-- The phase that the timers, the kept handle and the cycles under way show. -/
def InChain (T : Timers τ) (handle : Option Nat) (inCycle : κ → Prop) : ChainPhase τ κ → Prop
  | .armed h x => T.pending = [(h, x)] ∧ handle = some h ∧ ∀ k, ¬ inCycle k
  | .running k => T.pending = [] ∧ ∀ k', inCycle k' ↔ k' = k
  | .ended => T.pending = [] ∧ ∀ k, ¬ inCycle k

namespace InChain

variable {T : Timers τ} {handle : Option Nat} {inCycle : κ → Prop} {p : ChainPhase τ κ}

theorem congr (h : InChain T handle inCycle p) {inCycle' : κ → Prop}
    (hc : ∀ k, inCycle' k ↔ inCycle k) : InChain T handle inCycle' p := by
  obtain rfl : inCycle' = inCycle := funext fun k => propext (hc k)
  exact h

/-- A chain that is not running has no cycle under way. -/
theorem no_cycle (h : InChain T handle inCycle p) (hp : p.isRunning = false) (k : κ) :
    ¬ inCycle k := by
  cases p with
  | armed i x => exact h.2.2 k
  | running k₀ => cases hp
  | ended => exact h.2 k

/-- **Never stacked.** -/
theorem one_cycle (h : InChain T handle inCycle p) {k k' : κ} (hk : inCycle k)
    (hk' : inCycle k') : k = k' := by
  cases p with
  | armed i x => exact absurd hk (h.2.2 k)
  | running k₀ => exact ((h.2 k).mp hk).trans ((h.2 k').mp hk').symm
  | ended => exact absurd hk (h.2 k)

theorem one_timer (h : InChain T handle inCycle p) : T.pending.length ≤ 1 := by
  cases p with
  | armed i x => rw [h.1]; exact Nat.le_refl 1
  | running k => rw [h.1]; exact Nat.zero_le 1
  | ended => rw [h.1]; exact Nat.zero_le 1

theorem no_timer (h : InChain T handle inCycle p) {k : κ} (hk : inCycle k) : T.pending = [] := by
  cases p with
  | armed i x => exact absurd hk (h.2.2 k)
  | running k₀ => exact h.1
  | ended => exact h.1

/-- The kept handle is the one of the armed timer. -/
theorem kept (h : InChain T handle inCycle p) {i : Nat} {x : τ} (hi : (i, x) ∈ T.pending) :
    handle = some i := by
  cases p with
  | armed j y =>
    rw [h.1, List.mem_singleton] at hi
    cases hi
    exact h.2.1
  | running k =>
    rw [h.1] at hi
    cases hi
  | ended =>
    rw [h.1] at hi
    cases hi

/-- A chain that has not ended has its timer or its cycle. -/
theorem alive (h : InChain T handle inCycle p) (hp : p ≠ .ended) :
    (∃ k, inCycle k) ∨ T.pending ≠ [] := by
  cases p with
  | armed i x => exact .inr (by rw [h.1]; exact List.cons_ne_nil _ _)
  | running k => exact .inl ⟨k, (h.2 k).mpr rfl⟩
  | ended => exact absurd rfl hp

/-- A chain without an armed timer has none pending. -/
theorem pending_nil (h : InChain T handle inCycle p) (hp : ∀ i x, p ≠ .armed i x) :
    T.pending = [] := by
  cases p with
  | armed i x => exact absurd rfl (hp i x)
  | running k => exact h.1
  | ended => exact h.1

/-! What the moves make of the timers. -/

/-- The component cancels the timer whose handle it keeps. -/
theorem cancelKept (h : InChain T handle inCycle p) {i : Nat} (hi : handle = some i) :
    (T.cancel i).pending = [] := by
  cases p with
  | armed j x =>
    obtain rfl : j = i := Option.some.inj (h.2.1.symm.trans hi)
    exact T.cancel_of_single h.1
  | running k => exact T.cancel_of_nil h.1 i
  | ended => exact T.cancel_of_nil h.1 i

/-- A component that keeps no handle has no timer. -/
theorem pending_of_none (h : InChain T none inCycle p) : T.pending = [] := by
  cases p with
  | armed j x => cases h.2.1
  | running k => exact h.1
  | ended => exact h.1

/-- A timer fires in the armed phase only, and there it is the kept one. -/
theorem fires (h : InChain T handle inCycle p) {i : Nat} {x : τ} (hi : T.find i = some x) :
    p = .armed i x ∧ (T.cancel i).pending = [] := by
  cases p with
  | armed j y =>
    obtain ⟨rfl, rfl⟩ := T.find_of_single h.1 hi
    exact ⟨rfl, T.cancel_of_single h.1⟩
  | running k =>
    rw [T.find_of_nil h.1] at hi
    cases hi
  | ended =>
    rw [T.find_of_nil h.1] at hi
    cases hi

end InChain

end TimerChain
