import Mathlib.Logic.Function.Basic
import Mathlib.Logic.Relation
import Mathlib.Tactic.Common

/-!
# Locks

Critical sections: tasks that work on a resource one at a time, under a lock. Each is in a phase of
its work, or outside; `Alone` says that all tasks but one are outside, and what holds in the phase
of that one. A phase other than `out` is owned by the task that `owner` names.

Who waits for whom: a relation that says who holds up whom, and a rank that goes down along it, as
it does where the locks are ordered and everyone asks for them in that order. Then nobody waits in a
circle, and every chain of waits ends in one whom nobody holds up.
-/

/-! ## Critical sections -/

section
variable {σ ι Phase : Type}

/-- What a critical section is made of: the lock's owner, and what holds when a task is in a phase
and all others are outside. -/
structure CriticalSection (σ ι Phase : Type) where
  out : Phase
  owner : σ → Option ι
  In : σ → ι → Phase → Prop
  owned : ∀ {s t g}, In s t g → g ≠ out → owner s = some t

namespace CriticalSection

variable (C : CriticalSection σ ι Phase)

/-- At most one task is not outside. -/
def Alone (s : σ) (phases : ι → Phase) : Prop :=
  ∃ t, (∀ t', t' ≠ t → phases t' = C.out) ∧ C.In s t (phases t)

variable {C} {s s' : σ} {phases : ι → Phase} {t : ι} {g : Phase}

/-- A task in the section is the only one. -/
theorem Alone.only (h : C.Alone s phases) (ht : phases t ≠ C.out) :
    (∀ t', t' ≠ t → phases t' = C.out) ∧ C.In s t (phases t) := by
  obtain ⟨t₀, hothers, hin⟩ := h
  by_cases hne : t = t₀
  · subst hne
    exact ⟨hothers, hin⟩
  · exact absurd (hothers t hne) ht

theorem Alone.owner (h : C.Alone s phases) (ht : phases t ≠ C.out) : C.owner s = some t :=
  C.owned (h.only ht).2 ht

/-- Two tasks are not in the section at once. -/
theorem Alone.unique {t' : ι} (h : C.Alone s phases) (ht : phases t ≠ C.out)
    (ht' : phases t' ≠ C.out) : t = t' :=
  Option.some.inj ((h.owner ht).symm.trans (h.owner ht'))

/-- Nobody is in the section when nobody but a task outside may own it. -/
theorem Alone.nobody (h : C.Alone s phases) (ht : phases t = C.out)
    (howner : ∀ t', C.owner s = some t' → t' = t) :
    (∀ t', phases t' = C.out) ∧ ∃ t', C.In s t' C.out := by
  obtain ⟨t₀, hothers, hin⟩ := h
  have hout : phases t₀ = C.out := by
    by_contra hne
    exact hne (howner t₀ (C.owned hin hne) ▸ ht)
  refine ⟨fun t' => ?_, t₀, hout ▸ hin⟩
  by_cases hne : t' = t₀
  · rw [hne]
    exact hout
  · exact hothers t' hne

/-- The task goes on to another phase. -/
theorem Alone.move [DecidableEq ι] (hothers : ∀ t', t' ≠ t → phases t' = C.out)
    (hin : C.In s t g) : C.Alone s (Function.update phases t g) := by
  refine ⟨t, fun t' hne => ?_, ?_⟩
  · rw [Function.update_of_ne hne]
    exact hothers t' hne
  · rw [Function.update_self]
    exact hin

/-- A step that keeps what holds in each phase. -/
theorem Alone.frame (h : C.Alone s phases)
    (hin : ∀ t, C.In s t (phases t) → C.In s' t (phases t)) : C.Alone s' phases := by
  obtain ⟨t₀, hothers, h₀⟩ := h
  exact ⟨t₀, hothers, hin t₀ h₀⟩

end CriticalSection

end

/-! ## Chains of waits -/

namespace WaitFor

variable {α : Type} {R : α → α → Prop} {rank : α → Nat}

/-- Every chain of waits ends. -/
theorem exists_free (hrank : ∀ a b, R a b → rank b < rank a) (a : α) :
    ∃ b, Relation.ReflTransGen R a b ∧ ∀ c, ¬ R b c := by
  induction a using (measure rank).wf.induction with
  | h a ih =>
    by_cases hfree : ∃ c, R a c
    · obtain ⟨c, hc⟩ := hfree
      obtain ⟨b, hchain, hb⟩ := ih c (hrank a c hc)
      exact ⟨b, .head hc hchain, hb⟩
    · exact ⟨a, .refl, fun c hc => hfree ⟨c, hc⟩⟩

theorem rank_lt (hrank : ∀ a b, R a b → rank b < rank a) {a b : α}
    (h : Relation.TransGen R a b) : rank b < rank a := by
  induction h with
  | single hab => exact hrank _ _ hab
  | tail _ hbc ih => exact Nat.lt_trans (hrank _ _ hbc) ih

/-- Nobody waits in a circle. -/
theorem acyclic (hrank : ∀ a b, R a b → rank b < rank a) (a : α) :
    ¬ Relation.TransGen R a a := fun h => Nat.lt_irrefl _ (rank_lt hrank h)

end WaitFor
