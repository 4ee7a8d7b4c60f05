import DanalockBle.Entry.Frame

/-!
# Who stands in the queues

A task is in a facade's queue while it waits for that facade's lock, at most once: whatever a task
knows of itself, its place follows from the operation it waits at.
-/

namespace DanalockBle

open Coroutine

/-- The head of a queue without duplicates is the head of every part of the queue it is in. -/
theorem head_of_sublist {β : Type} {l q : List β} {x : β} (h : l.Sublist q) (hq : q.Nodup)
    (hhead : q.head? = some x) (hx : x ∈ l) : ∃ l', l = x :: l' := by
  cases h with
  | slnil => cases hx
  | cons y h' =>
    obtain rfl : y = x := Option.some.inj hhead
    exact absurd (h'.subset hx) (List.nodup_cons.mp hq).1
  | cons_cons y h' =>
    obtain rfl : y = x := Option.some.inj hhead
    exact ⟨_, rfl⟩

/-- A task is in a facade's queue while it waits for that facade's lock. -/
structure Queues {P : Protocol sig} (e : Entry) (Γ : View P) : Prop where
  waits : ∀ f t b, (t, b) ∈ (e.facade f).queue →
    ∃ g o, Γ t = some (g, some o) ∧ o.waitsFor = some f
  nodup : ∀ f, (e.facade f).queue.Nodup

section
variable {P : Protocol sig} {e e' : Entry} {Γ : View P} {t : TaskId} {o : Op}

theorem Queues.frame (h : Queues e Γ)
    (hqueue : ∀ f, (e'.facade f).queue.Sublist (e.facade f).queue) : Queues e' Γ where
  waits f t b hmem := h.waits f t b ((hqueue f).subset hmem)
  nodup f := (h.nodup f).sublist (hqueue f)

/-- A task that does not wait is in no queue. -/
theorem Queues.update (h : Queues e Γ) (hbefore : ∀ g o, Γ t ≠ some (g, some o))
    (p : Option (P.Ghost × Option Op)) : Queues e (Function.update Γ t p) where
  waits f t' b hmem := by
    obtain ⟨g, o, hΓ, ho⟩ := h.waits f t' b hmem
    have hne : t' ≠ t := fun hne => hbefore g o (hne ▸ hΓ)
    exact ⟨g, o, (Function.update_of_ne hne ..).trans hΓ, ho⟩
  nodup := h.nodup

/-- The task waits to run a command. -/
def Op.isCall : Op → Bool
  | call _ _ => true
  | _ => false

/-- A task that starts to wait joins the end of one queue. -/
theorem parkOp_queue (e : Entry) (t : TaskId) (o : Op) (f : FacadeRef) :
    o.waitsFor = some f ∧
        ((e.parkOp t o).facade f).queue = (e.facade f).queue ++ [(t, o.isCall)] ∨
      o.waitsFor ≠ some f ∧ ((e.parkOp t o).facade f).queue = (e.facade f).queue := by
  rw [Entry.parkOp_facade]
  cases o with
  | call f' m =>
    by_cases hf : f = f'
    · subst hf
      exact .inl ⟨rfl, by simp only [if_true, Op.isCall]⟩
    · refine .inr ⟨fun h => hf (Option.some.inj h).symm, ?_⟩
      simp only [hf, if_false]
  | disconnect f' =>
    by_cases hf : f = f'
    · subst hf
      exact .inl ⟨rfl, by simp only [if_true, Op.isCall]⟩
    · refine .inr ⟨fun h => hf (Option.some.inj h).symm, ?_⟩
      simp only [hf, if_false]
  | _ => exact .inr ⟨nofun, rfl⟩

theorem Queues.park (h : Queues e Γ) {g : P.Ghost} (ht : Γ t = some (g, none)) :
    Queues (e.parkOp t o) (Function.update Γ t (some (g, some o))) := by
  have hfresh : ∀ f b, (t, b) ∉ (e.facade f).queue := by
    intro f b hmem
    obtain ⟨g', o', hΓ, -⟩ := h.waits f t b hmem
    rw [ht] at hΓ
    cases hΓ
  have hkept := h.update (t := t) (fun g' o' hΓ => by rw [ht] at hΓ; cases hΓ) (some (g, some o))
  refine ⟨fun f t' b hmem => ?_, fun f => ?_⟩
  · rcases parkOp_queue e t o f with ⟨hw, hq⟩ | ⟨-, hq⟩
    · rw [hq] at hmem
      rcases List.mem_append.mp hmem with hmem | hmem
      · exact hkept.waits f t' b hmem
      · obtain ⟨rfl, rfl⟩ := Prod.mk.inj (List.mem_singleton.mp hmem)
        exact ⟨g, o, Function.update_self .., hw⟩
    · rw [hq] at hmem
      exact hkept.waits f t' b hmem
  · rcases parkOp_queue e t o f with ⟨-, hq⟩ | ⟨-, hq⟩
    · rw [hq]
      refine List.nodup_append.mpr ⟨h.nodup f, List.pairwise_singleton .., fun x hx y hy => ?_⟩
      rw [List.mem_singleton.mp hy]
      rintro rfl
      exact hfresh f o.isCall hx
    · rw [hq]
      exact h.nodup f

theorem Queues.wake (h : Queues e Γ) {g : P.Ghost} (ht : Γ t = some (g, some o)) {r : o.Res}
    (hr : e.wakeOp t o r = some e') (p : Option (P.Ghost × Option Op)) :
    Queues e' (Function.update Γ t p) := by
  have hsub : ∀ f, (e'.facade f).queue.Sublist (e.facade f).queue := by
    intro f
    rw [Entry.wakeOp_queue hr f]
    split
    · exact List.filter_sublist
    · exact List.Sublist.refl _
  refine ⟨fun f t' b hmem => ?_, fun f => (h.nodup f).sublist (hsub f)⟩
  have hne : t' ≠ t := by
    rintro rfl
    obtain ⟨g', o', hΓ, ho'⟩ := h.waits f t' b ((hsub f).subset hmem)
    rw [ht] at hΓ
    cases hΓ
    rw [Entry.wakeOp_queue hr f, if_pos ho'] at hmem
    have hfilter := (List.mem_filter.mp hmem).2
    simp at hfilter
  obtain ⟨g', o', hΓ, ho'⟩ := h.waits f t' b ((hsub f).subset hmem)
  exact ⟨g', o', (Function.update_of_ne hne ..).trans hΓ, ho'⟩

end

end DanalockBle
