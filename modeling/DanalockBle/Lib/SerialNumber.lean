import Mathlib.Data.List.Induction
import Mathlib.Order.Lattice
import Mathlib.Tactic.Common

/-!
# Serial numbers

A sender numbers its messages with a natural number that never wraps and transmits the residue
modulo `2 * H`; the receiver keeps the message it takes to be the newest. `advances` is the
half-window comparison of two residues, `gate` the receiver. If every number delivered is less
than `H` ahead of the largest one before it and at most `H` behind it (`InWindow`), the
comparison of residues is the comparison of the numbers (`advances_mod`), so the receiver holds
the largest number delivered (`foldl_gate`).
-/

namespace SerialNumber

/-- `new` is ahead of `old` by less than half the modulus. -/
def advances (modulus old new : Nat) : Bool :=
  let delta := ((new : Int) - old) % modulus
  0 < delta && delta < modulus / 2

/-- The receiver: it holds a true number and compares residues only. -/
def gate (modulus : Nat) : Option Nat → Nat → Option Nat
  | none, n => some n
  | some a, n => if advances modulus (a % modulus) (n % modulus) then some n else some a

/-- Each number is less than `H` ahead of the largest before it and at most `H` behind it. -/
def InWindow (H : Nat) (ns : List Nat) : Prop :=
  ∀ pre n post, ns = pre ++ n :: post → ∀ a, pre.max? = some a → n < a + H ∧ a ≤ n + H

theorem InWindow.of_append {H : Nat} {ns ns' : List Nat} (h : InWindow H (ns ++ ns')) :
    InWindow H ns := by
  intro pre n post hns a ha
  exact h pre n (post ++ ns') (by rw [hns]; simp) a ha

theorem InWindow.nil {H : Nat} : InWindow H [] := by
  intro pre n post h
  simp at h

theorem InWindow.snoc {H : Nat} {ns : List Nat} {n : Nat} (h : InWindow H ns)
    (hn : ∀ a, ns.max? = some a → n < a + H ∧ a ≤ n + H) : InWindow H (ns ++ [n]) := by
  intro pre n' post heq a ha
  rcases List.eq_nil_or_concat post with rfl | ⟨post, x, rfl⟩
  · obtain ⟨rfl, hx⟩ := List.append_inj' heq rfl
    cases hx
    exact hn a ha
  · rw [List.concat_eq_append, ← List.cons_append, ← List.append_assoc] at heq
    obtain ⟨hns, -⟩ := List.append_inj' heq rfl
    exact h pre n' post hns a ha

theorem max?_snoc (ns : List Nat) (n : Nat) :
    (ns ++ [n]).max? = some (ns.max?.elim n (max · n)) := by
  cases ns with
  | nil => rfl
  | cons a ns => rw [List.cons_append, List.max?_cons', List.foldl_append]; rfl

/-- The residue of the difference, from the true numbers. -/
theorem emod_sub_mod (M a n : Nat) :
    (((n % M : Nat) : Int) - (a % M : Nat)) % M = ((n : Int) - a) % M := by
  rw [Int.natCast_emod, Int.natCast_emod, ← Int.sub_emod]

section
variable {H a n : Nat}

/-- Ahead within the window: the difference is its own residue. -/
theorem advances_ahead (h1 : a < n) (h2 : n < a + H) :
    advances (2 * H) (a % (2 * H)) (n % (2 * H)) := by
  have hd : ((n : Int) - a) % (2 * H : Nat) = n - a := Int.emod_eq_of_lt (by omega) (by omega)
  simp only [advances, emod_sub_mod, hd, Bool.and_eq_true, decide_eq_true_eq]
  omega

/-- Behind within the window: the residue is the modulus less the distance. -/
theorem advances_behind (hH : 0 < H) (h1 : n ≤ a) (h2 : a ≤ n + H) :
    advances (2 * H) (a % (2 * H)) (n % (2 * H)) = false := by
  simp only [advances, emod_sub_mod, Bool.and_eq_false_iff, decide_eq_false_iff_not]
  rcases Nat.eq_or_lt_of_le h1 with rfl | h
  · left; simp
  · have hd : ((n : Int) - a) % (2 * H : Nat) = (n - a) + (2 * H : Nat) := by
      rw [← Int.add_emod_right]
      exact Int.emod_eq_of_lt (by omega) (by omega)
    right; rw [hd]; omega

/-- Inside the window the comparison of residues is the comparison of the numbers. -/
theorem advances_mod (hH : 0 < H) (h1 : n < a + H) (h2 : a ≤ n + H) :
    advances (2 * H) (a % (2 * H)) (n % (2 * H)) = true ↔ a < n := by
  constructor
  · intro h
    rcases Nat.lt_or_ge a n with hlt | hge
    · exact hlt
    · rw [advances_behind hH hge h2] at h; cases h
  · intro h; exact advances_ahead h h1

end

theorem gate_max {H n : Nat} (hH : 0 < H) {best : Option Nat}
    (hw : ∀ a, best = some a → n < a + H ∧ a ≤ n + H) :
    gate (2 * H) best n = some (best.elim n (max · n)) := by
  cases best with
  | none => rfl
  | some a =>
    obtain ⟨h1, h2⟩ := hw a rfl
    have hadv := advances_mod hH h1 h2
    simp only [gate, Option.elim_some]
    split
    · next h => rw [max_eq_right (Nat.le_of_lt (hadv.mp h))]
    · next h => rw [max_eq_left (by have := mt hadv.mpr h; omega)]

/-- **The receiver holds the largest number delivered.** -/
theorem foldl_gate {H : Nat} (hH : 0 < H) {ns : List Nat} (hw : InWindow H ns) :
    ns.foldl (gate (2 * H)) none = ns.max? := by
  induction ns using List.reverseRecOn with
  | nil => rfl
  | append_singleton ns n ih =>
    have hn := hw ns n [] rfl
    rw [List.foldl_append, ih hw.of_append, max?_snoc]
    exact gate_max hH hn

end SerialNumber
