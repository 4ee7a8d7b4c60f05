import Mathlib.Tactic.Common

/-!
# Runs of a step function

`exec step s es` is the state after the events `es`. `Steps step P s es` says that every step
of that run satisfies `P` (the state before the step and its event). An invariant is preserved
by runs of steps it is preserved by (`Steps.inv`); a component that each step either
overwrites or keeps is the last overwriting event's value (`exec_view`); one that some steps copy
from the rest of the state is the copy of the last of them (`exec_upTo`); a component that neutral
steps keep does not see them anywhere in the run (`exec_insert`). A loop over distinct indices whose
body touches the component of its own index only is the body once per index (`foldl_component`).
-/

namespace Runs

variable {σ ε β : Type}

/-- The state after the events. -/
def exec (step : σ → ε → σ) (s : σ) (es : List ε) : σ := es.foldl step s

section
variable {step : σ → ε → σ} {s : σ} {e : ε} {es es' : List ε}

@[simp] theorem exec_nil : exec step s [] = s := rfl

@[simp] theorem exec_cons : exec step s (e :: es) = exec step (step s e) es := rfl

theorem exec_append : exec step s (es ++ es') = exec step (exec step s es) es' :=
  List.foldl_append

@[simp] theorem exec_snoc : exec step s (es ++ [e]) = step (exec step s es) e := by
  rw [exec_append]; rfl

end

/-- Every step of the run from `s` satisfies `P`. -/
def Steps (step : σ → ε → σ) (P : σ → ε → Prop) : σ → List ε → Prop
  | _, [] => True
  | s, e :: es => P s e ∧ Steps step P (step s e) es

instance Steps.decidable {step : σ → ε → σ} {P : σ → ε → Prop} [∀ s e, Decidable (P s e)] :
    ∀ (s : σ) (es : List ε), Decidable (Steps step P s es)
  | _, [] => .isTrue trivial
  | s, e :: es =>
    have : Decidable (Steps step P (step s e) es) := Steps.decidable (step s e) es
    inferInstanceAs (Decidable (P s e ∧ Steps step P (step s e) es))

section
variable {step : σ → ε → σ} {P Q : σ → ε → Prop}

theorem Steps.append {es es' : List ε} {s : σ} (h : Steps step P s (es ++ es')) :
    Steps step P s es ∧ Steps step P (exec step s es) es' := by
  induction es generalizing s with
  | nil => exact ⟨trivial, h⟩
  | cons e es ih =>
    obtain ⟨h1, h2⟩ := h
    exact ⟨⟨h1, (ih h2).1⟩, (ih h2).2⟩

theorem Steps.of_forall (h : ∀ s e, P s e) (es : List ε) (s : σ) : Steps step P s es := by
  induction es generalizing s with
  | nil => trivial
  | cons e es ih => exact ⟨h s e, ih _⟩

theorem Steps.of_mem {Q : ε → Prop} {es : List ε} (h : ∀ e ∈ es, Q e) (s : σ) :
    Steps step (fun _ e => Q e) s es := by
  induction es generalizing s with
  | nil => trivial
  | cons e es ih =>
    exact ⟨h e List.mem_cons_self, ih (fun e he => h e (List.mem_cons_of_mem _ he)) _⟩

theorem Steps.mono (hPQ : ∀ s e, P s e → Q s e) {es : List ε} {s : σ} (h : Steps step P s es) :
    Steps step Q s es := by
  induction es generalizing s with
  | nil => trivial
  | cons e es ih => exact ⟨hPQ s e h.1, ih h.2⟩

/-- An invariant every good step preserves holds after a run of good steps. -/
theorem Steps.inv {I : σ → Prop} (hI : ∀ s e, I s → P s e → I (step s e)) {es : List ε} {s : σ}
    (h : Steps step P s es) (hs : I s) : I (exec step s es) := by
  induction es generalizing s with
  | nil => exact hs
  | cons e es ih => exact ih h.2 (hI s e hs h.1)

end

/-- The value of the last event of the run to which `f` assigns one. -/
def last (step : σ → ε → σ) (f : σ → ε → Option β) : σ → List ε → Option β
  | _, [] => none
  | s, e :: es => (last step f (step s e) es).or (f s e)

/-- The value of the first event of the run to which `f` assigns one. -/
def first (step : σ → ε → σ) (f : σ → ε → Option β) : σ → List ε → Option β
  | _, [] => none
  | s, e :: es => (f s e).or (first step f (step s e) es)

/-- The values that `f` assigns to events of the run, in order. -/
def collected (step : σ → ε → σ) (f : σ → ε → Option β) : σ → List ε → List β
  | _, [] => []
  | s, e :: es => (f s e).toList ++ collected step f (step s e) es

section
variable {step : σ → ε → σ}

theorem first_snoc (f : σ → ε → Option β) (es : List ε) (e : ε) (s : σ) :
    first step f s (es ++ [e]) = (first step f s es).or (f (exec step s es) e) := by
  induction es generalizing s with
  | nil => simp [first]
  | cons d es ih => simp [first, ih, Option.or_assoc]

theorem last_snoc (f : σ → ε → Option β) (es : List ε) (e : ε) (s : σ) :
    last step f s (es ++ [e]) = (f (exec step s es) e).or (last step f s es) := by
  induction es generalizing s with
  | nil => simp [last]
  | cons d es ih => simp [last, ih, Option.or_assoc]

/-- A component that each step from an invariant state overwrites with `f`'s value or keeps is
the last value. -/
theorem exec_view_inv {I : σ → Prop} {f : σ → ε → Option β} {v : σ → β}
    (hI : ∀ s e, I s → I (step s e)) (h : ∀ s e, I s → v (step s e) = (f s e).getD (v s))
    (es : List ε) {s : σ} (hs : I s) :
    v (exec step s es) = (last step f s es).getD (v s) := by
  induction es generalizing s with
  | nil => rfl
  | cons e es ih =>
    rw [exec_cons, ih (hI s e hs), h s e hs]
    cases hl : last step f (step s e) es <;> simp [last, hl]

/-- A component that each step overwrites with `f`'s value or keeps is the last value. -/
theorem exec_view {f : σ → ε → Option β} {v : σ → β}
    (h : ∀ s e, v (step s e) = (f s e).getD (v s)) (es : List ε) (s : σ) :
    v (exec step s es) = (last step f s es).getD (v s) :=
  exec_view_inv (I := fun _ => True) (fun _ _ _ => trivial) (fun s e _ => h s e) es trivial

/-- A component that each good step from an invariant state updates by `f`'s value or keeps is
updated by all of them. -/
theorem exec_collected {γ : Type} {I : σ → Prop} {P : σ → ε → Prop} {f : σ → ε → Option β}
    {v : σ → γ} {g : γ → β → γ} (hI : ∀ s e, I s → P s e → I (step s e))
    (h : ∀ s e, I s → P s e → v (step s e) = (f s e).toList.foldl g (v s)) {es : List ε} {s : σ}
    (hes : Steps step P s es) (hs : I s) :
    v (exec step s es) = (collected step f s es).foldl g (v s) := by
  induction es generalizing s with
  | nil => rfl
  | cons e es ih =>
    rw [exec_cons, ih hes.2 (hI s e hs hes.1), h s e hs hes.1, collected, List.foldl_append]

/-- The run up to its last step with `P`. -/
def upTo (step : σ → ε → σ) (P : σ → ε → Bool) : σ → List ε → List ε
  | _, [] => []
  | s, e :: es =>
    if P s e || !(upTo step P (step s e) es).isEmpty then e :: upTo step P (step s e) es else []

theorem upTo_cons (P : σ → ε → Bool) (e : ε) (es : List ε) (s : σ) :
    upTo step P s (e :: es) = if P s e || !(upTo step P (step s e) es).isEmpty then
      e :: upTo step P (step s e) es else [] := rfl

theorem upTo_prefix (P : σ → ε → Bool) (es : List ε) (s : σ) : upTo step P s es <+: es := by
  induction es generalizing s with
  | nil => exact List.prefix_rfl
  | cons e es ih =>
    rw [upTo_cons]
    split
    · exact List.cons_prefix_cons.mpr ⟨rfl, ih (step s e)⟩
    · exact List.nil_prefix

/-- A component that each good step from an invariant state copies from the state it leads to, if
it has `P`, or keeps is the copy of the last step with `P`. -/
theorem exec_upTo {I : σ → Prop} {Q : σ → ε → Prop} {P : σ → ε → Bool} {v w : σ → β}
    (hI : ∀ s e, I s → Q s e → I (step s e))
    (h : ∀ s e, I s → Q s e → v (step s e) = if P s e then w (step s e) else v s) {es : List ε}
    {s : σ} (hes : Steps step Q s es) (hs : I s) :
    v (exec step s es) =
      if (upTo step P s es).isEmpty then v s else w (exec step s (upTo step P s es)) := by
  induction es generalizing s with
  | nil => rfl
  | cons e es ih =>
    rw [exec_cons, ih hes.2 (hI s e hs hes.1), h s e hs hes.1, upTo_cons]
    cases hrest : (upTo step P (step s e) es).isEmpty with
    | false => simp
    | true =>
      rw [List.isEmpty_iff] at hrest
      cases P s e <;> simp [hrest]

/-- Two states that agree on a component agree on it along any run, when the step computes the
component from itself. -/
theorem exec_congr {v : σ → β} (hv : ∀ s s' e, v s = v s' → v (step s e) = v (step s' e))
    (es : List ε) {s s' : σ} (h : v s = v s') : v (exec step s es) = v (exec step s' es) := by
  induction es generalizing s s' with
  | nil => exact h
  | cons e es ih => exact ih (hv s s' e h)

/-- Events that keep a component where they stand can be inserted into a run, or deleted from
it, without changing the component at any later point. -/
theorem exec_insert {v : σ → β} (hv : ∀ s s' e, v s = v s' → v (step s e) = v (step s' e))
    {es ins es' : List ε} {s : σ}
    (hins : Steps step (fun s e => v (step s e) = v s) (exec step s es) ins) :
    v (exec step s (es ++ ins ++ es')) = v (exec step s (es ++ es')) := by
  have hkeep : v (exec step (exec step s es) ins) = v (exec step s es) :=
    hins.inv (I := fun t => v t = v (exec step s es)) (fun t e ht he => he.trans ht) rfl
  rw [exec_append, exec_append, exec_append]
  exact exec_congr hv es' hkeep

end

/-- A loop over distinct indices whose body changes the component of its index by `g` and no
other component. -/
theorem foldl_component {ι : Type} [DecidableEq ι] {body : σ → ι → σ} {v : σ → ι → β}
    {g : β → β} (hself : ∀ s i, v (body s i) i = g (v s i))
    (hother : ∀ s i j, j ≠ i → v (body s i) j = v s j) {l : List ι} (hl : l.Nodup) (s : σ) (j : ι) :
    v (l.foldl body s) j = if j ∈ l then g (v s j) else v s j := by
  induction l generalizing s with
  | nil => rfl
  | cons i l ih =>
    obtain ⟨hi, hl⟩ := List.nodup_cons.mp hl
    rw [List.foldl_cons, ih hl]
    by_cases hj : j = i
    · subst hj
      simp [hi, hself]
    · simp [hj, hother s i j hj]

end Runs
