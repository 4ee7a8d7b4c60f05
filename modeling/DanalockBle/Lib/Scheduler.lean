import DanalockBle.Lib.Coroutine
import DanalockBle.Lib.Runs
import Mathlib.Logic.Function.Basic

/-!
# Cooperative tasks

Coroutines as tasks of one event loop over a shared state. A task runs until it suspends or ends;
between two suspensions no other task runs. A `Machine` says which operations suspend, what
they do to the shared state, when a wait may end, and what the environment does on its own.

A `Guard` restricts the runs: which requests are spawned and how operations end. `Keeps` lists what
an invariant owes: it sees the shared state and, for each task, the ghost of a `Protocol` the
task follows and the operation it waits at. `Keeps.run` derives the invariant for every
configuration of every run the guard allows.
-/

namespace Coroutine

abbrev TaskId := Nat

structure Machine (S : Sig) where
  State : Type
  Env : Type
  /-- the result of an operation that does not suspend -/
  run : TaskId → (o : S.Op) → State → Option (S.Res o × State)
  /-- the task starts to wait -/
  park : TaskId → S.Op → State → State
  /-- the wait ends with a result, if it may -/
  wake : TaskId → (o : S.Op) → S.Res o → State → Option State
  env : Env → State → Option State

variable {S : Sig} {ε α : Type}

/-- How a coroutine that does not go on has ended. -/
def Coro.ended : Coro S ε α → Option (Except ε α)
  | ret a => some (.ok a)
  | raise e => some (.error e)
  | op _ _ => none

/-- Which requests are spawned, and which ends of an operation are allowed in a state. -/
structure Guard (M : Machine S) (Req : Type) where
  spawn : Req → Bool
  op : TaskId → (o : S.Op) → S.Res o → M.State → Bool

/-- No restriction. -/
def Guard.any (M : Machine S) (Req : Type) : Guard M Req := ⟨fun _ => true, fun _ _ _ _ => true⟩

namespace Machine

variable (M : Machine S)

/-- Run a task until it suspends or ends. -/
def advance (t : TaskId) : Coro S ε α → M.State → Coro S ε α × M.State
  | .ret a, s => (.ret a, s)
  | .raise e, s => (.raise e, s)
  | .op o k, s =>
    match M.run t o s with
    | some (r, s') => advance t (k r) s'
    | none => (.op o k, M.park t o s)

theorem advance_op (t : TaskId) (o : S.Op) (k : S.Res o → Coro S ε α) (s : M.State) :
    M.advance t (.op o k) s = match M.run t o s with
      | some (r, s') => M.advance t (k r) s'
      | none => (.op o k, M.park t o s) := by
  rw [advance]

/-- A part of the state that no operation writes. -/
theorem advance_view {β : Type} {v : M.State → β} {t : TaskId}
    (hrun : ∀ o s r s', M.run t o s = some (r, s') → v s' = v s)
    (hpark : ∀ o s, v (M.park t o s) = v s) (c : Coro S ε α) (s : M.State) :
    v (M.advance t c s).2 = v s := by
  induction c generalizing s with
  | ret a => rfl
  | raise e => rfl
  | op o k ih =>
    unfold advance
    cases hr : M.run t o s with
    | none => exact hpark o s
    | some p => exact (ih p.1 p.2).trans (hrun o s p.1 p.2 hr)

/-- A part of the state that no operation of the coroutine writes. -/
theorem advance_view_only {β : Type} {v : M.State → β} {φ : S.Op → Prop} {t : TaskId}
    (hrun : ∀ o s r s', φ o → M.run t o s = some (r, s') → v s' = v s)
    (hpark : ∀ o s, v (M.park t o s) = v s) {c : Coro S ε α} (hc : Only φ c) (s : M.State) :
    v (M.advance t c s).2 = v s := by
  induction c generalizing s with
  | ret a => rfl
  | raise e => rfl
  | op o k ih =>
    unfold advance
    cases hr : M.run t o s with
    | none => exact hpark o s
    | some p => exact (ih p.1 (hc.2 p.1) p.2).trans (hrun o s p.1 p.2 hc.1 hr)

/-- Where a task stops is what is left of its coroutine. -/
theorem advance_rest (t : TaskId) (c : Coro S ε α) (s : M.State) :
    c.Rest (M.advance t c s).1 := by
  induction c generalizing s with
  | ret a => exact .refl
  | raise e => exact .refl
  | op o k ih =>
    unfold advance
    cases M.run t o s with
    | none => exact .refl
    | some p => exact (ih p.1 p.2).after

/-- **A task that runs one coroutine after another.** -/
theorem advance_andThen {β : Type} (t : TaskId) (c : Coro S ε α) (f : Except ε α → Coro S ε β)
    (s : M.State) : M.advance t (c.andThen f) s =
      match M.advance t c s with
      | (.ret a, s') => M.advance t (f (.ok a)) s'
      | (.raise e, s') => M.advance t (f (.error e)) s'
      | (.op o k, s') => ((Coro.op o k).andThen f, s') := by
  induction c generalizing s with
  | ret a => rfl
  | raise e => rfl
  | op o k ih =>
    rw [show (Coro.op o k).andThen f = .op o fun r => (k r).andThen f from rfl, advance_op,
      advance_op]
    cases M.run t o s with
    | none => rfl
    | some p => exact ih p.1 p.2

/-- The guard allows every operation the task runs. -/
def permits {Req : Type} (G : Guard M Req) (t : TaskId) : Coro S ε α → M.State → Bool
  | .ret _, _ => true
  | .raise _, _ => true
  | .op o k, s =>
    match M.run t o s with
    | some (r, s') => G.op t o r s && permits G t (k r) s'
    | none => true

theorem permits_any {Req : Type} (t : TaskId) (c : Coro S ε α) (s : M.State) :
    M.permits (Guard.any M Req) t c s = true := by
  induction c generalizing s with
  | ret a => rfl
  | raise e => rfl
  | op o k ih =>
    unfold permits
    cases hr : M.run t o s with
    | none => rfl
    | some p => exact ih p.1 p.2

end Machine

/-- The machine with an observer that sees each operation end, and the state it ended in. -/
@[reducible] def Machine.observed (M : Machine S) {β : Type}
    (see : TaskId → (o : S.Op) → S.Res o → M.State → β → β) : Machine S where
  State := M.State × β
  Env := M.Env
  run t o s := (M.run t o s.1).map fun p => (p.1, (p.2, see t o p.1 s.1 s.2))
  park t o s := (M.park t o s.1, s.2)
  wake t o r s := (M.wake t o r s.1).map fun s' => (s', see t o r s.1 s.2)
  env e s := (M.env e s.1).map fun s' => (s', s.2)

/-- The machine beside a part with events of its own, which sees each operation end. -/
@[reducible] def Machine.beside (M : Machine S) {β Ev : Type}
    (see : TaskId → (o : S.Op) → S.Res o → M.State → β → β) (own : Ev → M.State → β → β) :
    Machine S where
  State := M.State × β
  Env := M.Env ⊕ Ev
  run t o s := (M.run t o s.1).map fun p => (p.1, (p.2, see t o p.1 s.1 s.2))
  park t o s := (M.park t o s.1, s.2)
  wake t o r s := (M.wake t o r s.1).map fun s' => (s', see t o r s.1 s.2)
  env
    | .inl e, s => (M.env e s.1).map fun s' => (s', s.2)
    | .inr ev, s => some (s.1, own ev s.1 s.2)

structure Config (M : Machine S) (ε α Req : Type) where
  state : M.State
  tasks : TaskId → Option (Req × Coro S ε α)

inductive Label (M : Machine S) (Req : Type) where
  | spawn (t : TaskId) (req : Req)
  | resume (t : TaskId) (reply : (o : S.Op) → Option (S.Res o))
  | env (e : M.Env)

/-- The label spawns none but the first `n` tasks. -/
def Label.spawnsBelow {M : Machine S} {Req : Type} (n : Nat) : Label M Req → Bool
  | spawn t _ => t < n
  | _ => true

namespace Config

section
variable {M : Machine S} {Req : Type} (prog : Req → Coro S ε α)

/-- The task that a step runs: its request, its coroutine and the state it runs from. -/
def started (c : Config M ε α Req) : Label M Req → Option (TaskId × Req × Coro S ε α × M.State)
  | .spawn t req => if (c.tasks t).isNone then some (t, req, prog req, c.state) else none
  | .resume t reply =>
    match c.tasks t with
    | some (req, .op o k) =>
      match reply o with
      | some r =>
        match M.wake t o r c.state with
        | some s => some (t, req, k r, s)
        | none => none
      | none => none
    | _ => none
  | .env _ => none

/-- What starts a task: its spawn, or the end of its wait. -/
theorem started_cases {c : Config M ε α Req} {l : Label M Req} {t : TaskId} {req : Req}
    {k : Coro S ε α} {s : M.State} (hs : started prog c l = some (t, req, k, s)) :
    (l = .spawn t req ∧ c.tasks t = none ∧ k = prog req ∧ s = c.state) ∨
    ∃ reply o f r, l = .resume t reply ∧ c.tasks t = some (req, .op o f) ∧ reply o = some r ∧
      M.wake t o r c.state = some s ∧ k = f r := by
  cases l with
  | env e => cases hs
  | spawn t' req' =>
    simp only [started] at hs
    split at hs
    · next hfree => cases hs; exact .inl ⟨rfl, Option.isNone_iff_eq_none.mp hfree, rfl, rfl⟩
    · cases hs
  | resume t' reply =>
    simp only [started] at hs
    split at hs
    · next req' o f htask =>
      split at hs
      · next r hr =>
        split at hs
        · next s' hw => cases hs; exact .inr ⟨reply, o, f, r, rfl, htask, hr, hw, rfl⟩
        · cases hs
      · cases hs
    · cases hs

theorem started_env {c : Config M ε α Req} {l : Label M Req}
    {p : TaskId × Req × Coro S ε α × M.State} (hs : started prog c l = some p) (e : M.Env) :
    l ≠ .env e := by
  rintro rfl
  cases hs

/-- The configuration in which the task has stopped: it waits, or it has ended. -/
def put (c : Config M ε α Req) (t : TaskId) (req : Req) (p : Coro S ε α × M.State) :
    Config M ε α Req where
  state := p.2
  tasks := Function.update c.tasks t <|
    match p.1 with
    | .op o k => some (req, .op o k)
    | _ => none

theorem put_self (c : Config M ε α Req) (t : TaskId) (req : Req) (p : Coro S ε α × M.State) :
    (c.put t req p).tasks t = match p.1 with
      | .op o k => some (req, .op o k)
      | _ => none := Function.update_self ..

theorem put_other (c : Config M ε α Req) {t t' : TaskId} (h : t' ≠ t) (req : Req)
    (p : Coro S ε α × M.State) : (c.put t req p).tasks t' = c.tasks t' :=
  Function.update_of_ne h ..

/-- A task that has ended is gone. -/
theorem put_ended {c : Config M ε α Req} {t : TaskId} {req : Req} {p : Coro S ε α × M.State}
    (hp : p.1.ended.isSome = true) : (c.put t req p).tasks t = none := by
  rw [put_self]
  obtain ⟨k, s⟩ := p
  cases k with
  | op o f => cases hp
  | _ => rfl

/-- One step of the event loop; a step that is not possible changes nothing. -/
def step (c : Config M ε α Req) (l : Label M Req) : Config M ε α Req :=
  match started prog c l with
  | some (t, req, k, s) => c.put t req (M.advance t k s)
  | none =>
    match l with
    | .env e =>
      match M.env e c.state with
      | some s => { c with state := s }
      | none => c
    | _ => c

/-- The request that ends in the step, and how. -/
def outcome (c : Config M ε α Req) (l : Label M Req) : Option (Req × Except ε α) :=
  match started prog c l with
  | none => none
  | some (t, req, k, s) => (M.advance t k s).1.ended.map (req, ·)

theorem outcome_env {c : Config M ε α Req} {l : Label M Req} {p : Req × Except ε α}
    (ho : outcome prog c l = some p) (e : M.Env) : l ≠ .env e := by
  rintro rfl
  cases ho

/-- The guard allows the step. -/
def allowed (G : Guard M Req) (c : Config M ε α Req) (l : Label M Req) : Bool :=
  (match l with
    | .spawn _ req => G.spawn req
    | .resume t reply =>
      match c.tasks t with
      | some (_, .op o _) =>
        match reply o with
        | some r => G.op t o r c.state
        | none => true
      | _ => true
    | .env _ => true) &&
  match started prog c l with
  | none => true
  | some (t, _, k, s) => M.permits G t k s

/-- The step ends the wait of a task at the operation, with the result. -/
def Ends (c : Config M ε α Req) (l : Label M Req) (o : S.Op) (r : S.Res o) : Prop :=
  ∃ t reply req k, l = .resume t reply ∧ c.tasks t = some (req, .op o k) ∧ reply o = some r

/-- The guard has allowed the end of a wait. -/
theorem allowed_ends {G : Guard M Req} {c : Config M ε α Req} {l : Label M Req} {o : S.Op}
    {r : S.Res o} (hG : allowed prog G c l = true) (he : c.Ends l o r) :
    ∃ t, G.op t o r c.state = true := by
  obtain ⟨t, reply, req, k, rfl, htask, hr⟩ := he
  have hop := (Bool.and_eq_true_iff.mp hG).1
  simp only [htask, hr] at hop
  exact ⟨t, hop⟩

theorem allowed_spawn {G : Guard M Req} {c : Config M ε α Req} {t : TaskId} {req : Req}
    (hG : allowed prog G c (.spawn t req) = true) : G.spawn req = true :=
  (Bool.and_eq_true_iff.mp hG).1

theorem allowed_any (c : Config M ε α Req) (l : Label M Req) :
    allowed prog (Guard.any M Req) c l = true := by
  unfold allowed
  refine Bool.and_eq_true_iff.mpr ⟨?_, ?_⟩
  · cases l with
    | resume t reply =>
      simp only [Guard.any]
      split
      · split <;> rfl
      · rfl
    | _ => rfl
  · split
    · rfl
    · exact M.permits_any _ _ _

theorem step_env (c : Config M ε α Req) (e : M.Env) :
    (step prog c (.env e)).state = (M.env e c.state).getD c.state := by
  unfold step
  rw [show started prog c (.env e) = none from rfl]
  cases he : M.env e c.state with
  | none => simp only [he, Option.getD_none]
  | some s => simp only [he, Option.getD_some]

/-- The state a task runs from: the end of a wait is all that happened. -/
theorem started_view {β : Type} {v : M.State → β}
    (hwake : ∀ t o r s s', M.wake t o r s = some s' → v s' = v s) {c : Config M ε α Req}
    {l : Label M Req} {t : TaskId} {req : Req} {k : Coro S ε α} {s : M.State}
    (hs : started prog c l = some (t, req, k, s)) : v s = v c.state := by
  rcases started_cases prog hs with ⟨-, -, -, rfl⟩ | ⟨reply, o, f, r, -, -, -, hw, -⟩
  · rfl
  · exact hwake t o r c.state s hw

/-- A part of the state that no task writes. -/
theorem step_view {β : Type} {v : M.State → β}
    (hrun : ∀ t o s r s', M.run t o s = some (r, s') → v s' = v s)
    (hpark : ∀ t o s, v (M.park t o s) = v s)
    (hwake : ∀ t o r s s', M.wake t o r s = some s' → v s' = v s) {c : Config M ε α Req}
    {l : Label M Req} (hl : ∀ e, l ≠ .env e) : v (step prog c l).state = v c.state := by
  unfold step
  cases hs : started prog c l with
  | none =>
    cases l with
    | env e => exact absurd rfl (hl e)
    | _ => rfl
  | some q =>
    obtain ⟨t, req, k, s⟩ := q
    exact (M.advance_view (hrun t) (hpark t) k s).trans (started_view prog hwake hs)

/-- A task that is there after a step was there before, or ran in the step until it suspended. -/
theorem step_tasks {c : Config M ε α Req} {l : Label M Req} {t : TaskId} {req : Req}
    {k : Coro S ε α} (h : (step prog c l).tasks t = some (req, k)) :
    c.tasks t = some (req, k) ∨ ∃ k' s o f s', started prog c l = some (t, req, k', s) ∧
      M.advance t k' s = (.op o f, s') ∧ k = .op o f := by
  unfold step at h
  cases hs : started prog c l with
  | none =>
    rw [hs] at h
    cases l with
    | env e =>
      simp only at h
      split at h <;> exact .inl h
    | _ => exact .inl h
  | some p =>
    obtain ⟨t', req', k', s⟩ := p
    simp only [hs] at h
    by_cases ht : t = t'
    · subst ht
      rw [put_self] at h
      generalize hadv : M.advance t k' s = q at h
      obtain ⟨stop, s'⟩ := q
      cases stop with
      | op o f =>
        cases h
        exact .inr ⟨k', s, o, f, s', rfl, hadv, rfl⟩
      | ret a => cases h
      | raise e => cases h
    · rw [put_other c ht] at h
      exact .inl h

/-- The task of a request that ends is gone. -/
theorem outcome_tasks {c : Config M ε α Req} {l : Label M Req} {req : Req} {r : Except ε α}
    (ho : outcome prog c l = some (req, r)) :
    ∃ t k s, started prog c l = some (t, req, k, s) ∧ (M.advance t k s).1.ended = some r ∧
      (step prog c l).tasks t = none := by
  unfold outcome at ho
  unfold step
  cases hs : started prog c l with
  | none =>
    rw [hs] at ho
    cases ho
  | some p =>
    obtain ⟨t, req', k, s⟩ := p
    simp only [hs, Option.map_eq_some_iff, Prod.mk.injEq] at ho
    obtain ⟨r', hended, rfl, rfl⟩ := ho
    exact ⟨t, k, s, rfl, hended, put_ended (by rw [hended]; rfl)⟩

/-- A task that is not spawned is not there. -/
theorem step_tasks_none {c : Config M ε α Req} {t : TaskId} (hc : c.tasks t = none)
    {l : Label M Req} (hl : ∀ req, l ≠ .spawn t req) : (step prog c l).tasks t = none := by
  unfold step
  cases hs : started prog c l with
  | none =>
    cases l with
    | env e =>
      simp only
      split <;> exact hc
    | _ => exact hc
  | some q =>
    obtain ⟨t', req, k, s⟩ := q
    have hne : t ≠ t' := by
      rintro rfl
      rcases started_cases prog hs with ⟨rfl, -, -, -⟩ | ⟨reply, o, f, r, -, htask, -, -, -⟩
      · exact hl req rfl
      · rw [hc] at htask
        cases htask
    exact (put_other c hne req _).trans hc

/-- All tasks have ended when those that the run can have spawned have. -/
theorem exec_ended {c : Config M ε α Req} (hc : ∀ t, c.tasks t = none) {ls : List (Label M Req)}
    (n : Nat) (hls : ls.all (·.spawnsBelow n) = true)
    (hn : ∀ t < n, ((Runs.exec (step prog) c ls).tasks t).isNone = true) (t : TaskId) :
    (Runs.exec (step prog) c ls).tasks t = none := by
  by_cases ht : t < n
  · exact Option.isNone_iff_eq_none.mp (hn t ht)
  · have hsteps : Runs.Steps (step prog) (fun _ l => l.spawnsBelow n = true) c ls :=
      Runs.Steps.of_mem (List.all_eq_true.mp hls) c
    refine hsteps.inv (I := fun c => c.tasks t = none) (fun c l hc hl => ?_) (hc t)
    refine step_tasks_none prog hc ?_
    rintro req rfl
    exact ht (by simpa [Label.spawnsBelow] using hl)

end

end Config

/-! ## Observers -/

section
variable {M : Machine S} {β : Type} {see : TaskId → (o : S.Op) → S.Res o → M.State → β → β}

variable (M see) in
theorem Machine.advance_observed (t : TaskId) (c : Coro S ε α) (s : M.State × β) :
    ((M.observed see).advance t c s).1 = (M.advance t c s.1).1 ∧
      ((M.observed see).advance t c s).2.1 = (M.advance t c s.1).2 := by
  induction c generalizing s with
  | ret a => exact ⟨rfl, rfl⟩
  | raise e => exact ⟨rfl, rfl⟩
  | op o k ih =>
    unfold Machine.advance
    cases hr : M.run t o s.1 with
    | none =>
      simp only [Machine.observed, hr, Option.map_none, and_self]
    | some p =>
      simp only [Machine.observed, hr, Option.map_some]
      exact ih p.1 _

variable {Req : Type}

/-- The configuration without the observer. -/
def Config.unobserved (c : Config (M.observed see) ε α Req) : Config M ε α Req where
  state := c.state.1
  tasks := c.tasks

def Label.unobserved : Label (M.observed see) Req → Label M Req
  | spawn t req => .spawn t req
  | resume t reply => .resume t reply
  | env e => .env e

variable (prog : Req → Coro S ε α)

theorem Config.started_unobserved (c : Config (M.observed see) ε α Req)
    (l : Label (M.observed see) Req) :
    started prog c.unobserved l.unobserved =
      (started prog c l).map fun p => (p.1, p.2.1, p.2.2.1, p.2.2.2.1) := by
  cases l with
  | env e => rfl
  | spawn t req =>
    simp only [started, Label.unobserved, unobserved]
    by_cases hfree : (c.tasks t).isNone = true
    · simp only [hfree, if_true, Option.map_some]
    · simp only [hfree, Bool.false_eq_true, if_false, Option.map_none]
  | resume t reply =>
    simp only [started, Label.unobserved, unobserved]
    split
    · next req o k hc =>
      cases reply o with
      | none => rfl
      | some r =>
        simp only [Machine.observed]
        cases M.wake t o r c.state.1 <;> rfl
    · rfl

/-- **An observer does not interfere.** -/
theorem Config.step_unobserved (c : Config (M.observed see) ε α Req)
    (l : Label (M.observed see) Req) :
    (step prog c l).unobserved = step prog c.unobserved l.unobserved := by
  have hstarted := started_unobserved prog c l
  unfold step
  cases hs : started prog c l with
  | some p =>
    obtain ⟨t, req, k, s⟩ := p
    rw [hs] at hstarted
    simp only [hstarted, Option.map_some]
    obtain ⟨hcoro, hstate⟩ := M.advance_observed see t k s
    simp only [unobserved, put, hcoro, hstate]
  | none =>
    rw [hs] at hstarted
    simp only [hstarted, Option.map_none]
    cases l with
    | env e =>
      simp only [Label.unobserved, unobserved, Machine.observed]
      cases M.env e c.state.1 <;> rfl
    | _ => rfl

theorem Config.exec_unobserved (c : Config (M.observed see) ε α Req)
    (ls : List (Label (M.observed see) Req)) :
    (Runs.exec (step prog) c ls).unobserved =
      Runs.exec (step prog) c.unobserved (ls.map Label.unobserved) := by
  induction ls generalizing c with
  | nil => rfl
  | cons l ls ih =>
    rw [Runs.exec_cons, ih, step_unobserved, List.map_cons, Runs.exec_cons]

end

/-! ## What a task does between two suspensions -/

section
variable {M : Machine S} {Req : Type} {G : Guard M Req} {P : Protocol S}

variable (P) in
/-- How a task stops: it waits at an operation of its protocol, or it has ended as its protocol
says. The property of state and ghost holds before the wait. -/
inductive Machine.Stops (t : TaskId) (J : M.State → P.Ghost → Prop)
    (Q : Except ε α → P.Ghost → Prop) : Coro S ε α × M.State → Prop where
  | waits {g : P.Ghost} {s : M.State} {o : S.Op} {f : S.Res o → Coro S ε α} (hJ : J s g)
      (hmeets : Meets P g (.op o f) Q) (hnone : M.run t o s = none) :
      Stops t J Q (.op o f, M.park t o s)
  | ended {g : P.Ghost} {s : M.State} {k : Coro S ε α} {r : Except ε α}
      (hended : k.ended = some r) (hJ : J s g) (hQ : Q r g) : Stops t J Q (k, s)

/-- A property of state and ghost that every operation preserves holds where the task stops. -/
theorem advance_stops {t : TaskId} {J : M.State → P.Ghost → Prop}
    (hrun : ∀ s g o r s', J s g → P.may g o → M.run t o s = some (r, s') →
      G.op t o r s = true → ∃ g', P.after g o r = some g' ∧ J s' g')
    {Q : Except ε α → P.Ghost → Prop} {c : Coro S ε α} {s : M.State} {g : P.Ghost} (hJ : J s g)
    (hc : Meets P g c Q) (hG : M.permits G t c s = true) :
    Machine.Stops P t J Q (M.advance t c s) := by
  induction c generalizing s g with
  | ret a => exact .ended rfl hJ hc
  | raise e => exact .ended rfl hJ hc
  | op o k ih =>
    unfold Machine.permits at hG
    unfold Machine.advance
    cases hr : M.run t o s with
    | none => exact .waits hJ hc hr
    | some p =>
      obtain ⟨r, s'⟩ := p
      rw [hr] at hG
      obtain ⟨hop, hrest⟩ := Bool.and_eq_true_iff.mp hG
      obtain ⟨g', hafter, hJ'⟩ := hrun s g o r s' hJ hc.1 hr hop
      exact ih r hJ' (hc.2 r g' hafter) hrest

end

/-! ## Invariants -/

/-- What an invariant sees of the tasks: the ghost of each, and where it waits. -/
abbrev View (P : Protocol S) := TaskId → Option (P.Ghost × Option S.Op)

/-- **What an invariant owes.** -/
structure Keeps {M : Machine S} {Req : Type} (prog : Req → Coro S ε α) (G : Guard M Req)
    (P : Protocol S) (start : Req → P.Ghost) (post : Req → Except ε α → P.Ghost → Prop)
    (I : M.State → View P → Prop) : Prop where
  meets : ∀ req, G.spawn req = true → Meets P (start req) (prog req) (post req)
  spawn : ∀ s Γ t req, I s Γ → Γ t = none → G.spawn req = true →
    I s (Function.update Γ t (some (start req, none)))
  run : ∀ s Γ t g o r s', I s Γ → Γ t = some (g, none) →
    (∀ t' g' w, t' ≠ t → Γ t' = some (g', w) → w.isSome = true) → P.may g o →
    M.run t o s = some (r, s') → G.op t o r s = true →
    ∃ g', P.after g o r = some g' ∧ I s' (Function.update Γ t (some (g', none)))
  park : ∀ s Γ t g o, I s Γ → Γ t = some (g, none) → P.may g o → M.run t o s = none →
    I (M.park t o s) (Function.update Γ t (some (g, some o)))
  wake : ∀ s Γ t g o r s', I s Γ → Γ t = some (g, some o) → P.may g o →
    M.wake t o r s = some s' → G.op t o r s = true →
    ∃ g', P.after g o r = some g' ∧ I s' (Function.update Γ t (some (g', none)))
  finish : ∀ s Γ t req r g, I s Γ → Γ t = some (g, none) → post req r g →
    I s (Function.update Γ t none)
  env : ∀ s Γ e s', I s Γ → M.env e s = some s' → I s' Γ

section
variable {M : Machine S} {Req : Type} {prog : Req → Coro S ε α} {G : Guard M Req}
  {P : Protocol S} {start : Req → P.Ghost} {post : Req → Except ε α → P.Ghost → Prop}
  {I : M.State → View P → Prop}

/-- The view describes the tasks: each waits at an operation its protocol allows, and goes on
as the protocol says. -/
def Tracks (P : Protocol S) (post : Req → Except ε α → P.Ghost → Prop) (c : Config M ε α Req)
    (Γ : View P) : Prop :=
  ∀ t, match c.tasks t with
    | none => Γ t = none
    | some (req, k) => ∃ o f g, k = .op o f ∧ Γ t = some (g, some o) ∧ Meets P g k (post req)

theorem Tracks.waits {c : Config M ε α Req} {Γ : View P} (h : Tracks P post c Γ) {t : TaskId}
    {g : P.Ghost} {w : Option S.Op} (ht : Γ t = some (g, w)) : w.isSome = true := by
  have h := h t
  cases hc : c.tasks t with
  | none =>
    rw [hc] at h
    rw [h] at ht
    cases ht
  | some p =>
    rw [hc] at h
    obtain ⟨o, f, g', -, hΓ, -⟩ := h
    rw [hΓ] at ht
    cases ht
    rfl

/-- A task in the view is there, and waits where its protocol allows it. -/
theorem Tracks.task {c : Config M ε α Req} {Γ : View P} (h : Tracks P post c Γ) {t : TaskId}
    {g : P.Ghost} {w : Option S.Op} (hΓ : Γ t = some (g, w)) :
    ∃ req o k, c.tasks t = some (req, .op o k) ∧ w = some o ∧ P.may g o := by
  have ht := h t
  cases hc : c.tasks t with
  | none =>
    rw [hc, hΓ] at ht
    cases ht
  | some p =>
    obtain ⟨req, k⟩ := p
    rw [hc] at ht
    obtain ⟨o, f, g', rfl, hΓ', hk⟩ := ht
    rw [hΓ] at hΓ'
    cases hΓ'
    exact ⟨req, o, f, rfl, rfl, hk.1⟩

/-- What a view shows of a task that waits for the operation. -/
theorem Tracks.waiting {c : Config M ε α Req} {Γ : View P} (h : Tracks P post c Γ) {t : TaskId}
    {req : Req} {o : S.Op} {k : S.Res o → Coro S ε α}
    (ht : c.tasks t = some (req, .op o k)) : ∃ g, Γ t = some (g, some o) ∧ P.may g o := by
  have h := h t
  rw [ht] at h
  obtain ⟨o', f, g, hk, hΓ, hmeets⟩ := h
  cases hk
  exact ⟨g, hΓ, hmeets.1⟩

/-- The view of a task that has stopped. -/
theorem Tracks.put {c : Config M ε α Req} {Γ : View P} (h : Tracks P post c Γ) {t : TaskId}
    {req : Req} {p : Coro S ε α × M.State} {w : Option (P.Ghost × Option S.Op)}
    (hw : match (c.put t req p).tasks t with
      | none => w = none
      | some (req, k) => ∃ o f g, k = .op o f ∧ w = some (g, some o) ∧ Meets P g k (post req)) :
    Tracks P post (c.put t req p) (Function.update Γ t w) := by
  intro t'
  by_cases ht : t' = t
  · subst ht
    rw [Function.update_self]
    exact hw
  · rw [Function.update_of_ne ht, Config.put_other c ht]
    exact h t'

/-- A step of a task starts it from its ghost. -/
theorem Keeps.started (h : Keeps prog G P start post I) {c : Config M ε α Req} {l : Label M Req}
    {Γ : View P} (hI : I c.state Γ) (hT : Tracks P post c Γ)
    (hG : Config.allowed prog G c l = true) {t : TaskId} {req : Req} {k : Coro S ε α}
    {s : M.State} (hs : Config.started prog c l = some (t, req, k, s)) :
    ∃ g, I s (Function.update Γ t (some (g, none))) ∧ Meets P g k (post req) ∧
      M.permits G t k s = true ∧
      (g = start req ∨ ∃ g₀ o r, Γ t = some (g₀, some o) ∧ P.after g₀ o r = some g) := by
  obtain ⟨hG1, hG2⟩ := Bool.and_eq_true_iff.mp hG
  rw [hs] at hG2
  have ht := hT t
  rcases Config.started_cases prog hs with
    ⟨rfl, hfree, rfl, rfl⟩ | ⟨reply, o, f, r, rfl, htask, hr, hwake, rfl⟩
  · rw [hfree] at ht
    exact ⟨start req, h.spawn _ _ t req hI ht hG1, h.meets req hG1, hG2, .inl rfl⟩
  · rw [htask] at ht
    simp only [htask, hr] at hG1
    obtain ⟨o', f', g, hk, hΓ, hmeets⟩ := ht
    cases hk
    obtain ⟨g', hafter, hI'⟩ := h.wake _ _ t g o r s hI hΓ hmeets.1 hwake hG1
    exact ⟨g', hI', hmeets.2 r g' hafter, hG2, .inr ⟨g, o, r, hΓ, hafter⟩⟩

/-- Where a task stops that runs while the others wait. -/
theorem Keeps.stops (h : Keeps prog G P start post I) {c : Config M ε α Req} {Γ : View P}
    {t : TaskId} {req : Req} {k : Coro S ε α} {s : M.State} {g : P.Ghost}
    (hT : Tracks P post c Γ) (hI : I s (Function.update Γ t (some (g, none))))
    (hk : Meets P g k (post req)) (hG : M.permits G t k s = true) :
    Machine.Stops P t (fun s g => I s (Function.update Γ t (some (g, none)))) (post req)
      (M.advance t k s) := by
  refine advance_stops (G := G) (fun s g o r s' hJ hmay hr hop => ?_) hI hk hG
  obtain ⟨g', hafter, hI'⟩ := h.run s _ t g o r s' hJ (Function.update_self ..)
    (fun t' g' w hne ht' => hT.waits (by rw [Function.update_of_ne hne] at ht'; exact ht'))
    hmay hr hop
  rw [Function.update_idem] at hI'
  exact ⟨g', hafter, hI'⟩

/-- The view after one task ran until it stopped. -/
theorem Keeps.advance (h : Keeps prog G P start post I) {c : Config M ε α Req} {Γ : View P}
    {t : TaskId} {req : Req} {k : Coro S ε α} {s : M.State} {g : P.Ghost}
    (hT : Tracks P post c Γ) (hI : I s (Function.update Γ t (some (g, none))))
    (hk : Meets P g k (post req)) (hG : M.permits G t k s = true) :
    ∃ Γ', I (c.put t req (M.advance t k s)).state Γ' ∧
      Tracks P post (c.put t req (M.advance t k s)) Γ' := by
  have hstops := h.stops hT hI hk hG
  generalize M.advance t k s = stop at hstops ⊢
  cases hstops with
  | @waits g' s' o f hJ hmeets hnone =>
    have hI' := h.park s' _ t g' o hJ (Function.update_self ..) hmeets.1 hnone
    rw [Function.update_idem] at hI'
    refine ⟨_, hI', hT.put ?_⟩
    rw [Config.put_self]
    exact ⟨o, f, g', rfl, rfl, hmeets⟩
  | @ended g' s' k' r hended hJ hQ =>
    have hI' := h.finish s' _ t req r g' hJ (Function.update_self ..) hQ
    rw [Function.update_idem] at hI'
    refine ⟨_, hI', hT.put ?_⟩
    rw [Config.put_ended (by rw [hended]; rfl)]

/-- One step that the guard allows. -/
theorem Keeps.step (h : Keeps prog G P start post I) {c : Config M ε α Req} {l : Label M Req}
    (hG : Config.allowed prog G c l = true)
    (hc : ∃ Γ, I c.state Γ ∧ Tracks P post c Γ) :
    ∃ Γ, I (Config.step prog c l).state Γ ∧ Tracks P post (Config.step prog c l) Γ := by
  obtain ⟨Γ, hI, hT⟩ := hc
  unfold Config.step
  cases hs : Config.started prog c l with
  | some p =>
    obtain ⟨t, req, k, s⟩ := p
    obtain ⟨g, hI', hk, hperm, -⟩ := h.started hI hT hG hs
    exact h.advance hT hI' hk hperm
  | none =>
    cases l with
    | env e =>
      cases he : M.env e c.state with
      | none => exact ⟨Γ, by simpa only [he] using hI, by simpa only [he] using hT⟩
      | some s' =>
        simp only [he]
        exact ⟨Γ, h.env _ _ e s' hI he, hT⟩
    | _ => exact ⟨Γ, hI, hT⟩

/-- A request that ends in a step ends as its protocol says. -/
theorem Keeps.outcome (h : Keeps prog G P start post I) {c : Config M ε α Req}
    {l : Label M Req} (hG : Config.allowed prog G c l = true)
    (hc : ∃ Γ, I c.state Γ ∧ Tracks P post c Γ) {req : Req} {r : Except ε α}
    (ho : Config.outcome prog c l = some (req, r)) :
    ∃ Γ t g, I (Config.step prog c l).state Γ ∧ Γ t = some (g, none) ∧ post req r g := by
  obtain ⟨Γ, hI, hT⟩ := hc
  unfold Config.outcome at ho
  unfold Config.step
  cases hs : Config.started prog c l with
  | none =>
    rw [hs] at ho
    cases ho
  | some p =>
    obtain ⟨t, req', k, s⟩ := p
    simp only [hs] at ho
    obtain ⟨g, hI', hk, hperm, -⟩ := h.started hI hT hG hs
    have hstops := h.stops hT hI' hk hperm
    simp only [Config.put]
    generalize M.advance t k s = stop at hstops ho ⊢
    cases hstops with
    | waits hJ hmeets hnone => cases ho
    | @ended g' s' k' r' hended hJ hQ =>
      rw [hended] at ho
      cases ho
      exact ⟨_, t, g', hJ, Function.update_self .., hQ⟩

/-- **An invariant that keeps what it owes holds in every configuration of every allowed run.** -/
theorem Keeps.run_inv (h : Keeps prog G P start post I) {c : Config M ε α Req}
    {ls : List (Label M Req)} (hc : ∃ Γ, I c.state Γ ∧ Tracks P post c Γ)
    (hG : Runs.Steps (Config.step prog) (fun c l => Config.allowed prog G c l = true) c ls) :
    ∃ Γ, I (Runs.exec (Config.step prog) c ls).state Γ ∧
      Tracks P post (Runs.exec (Config.step prog) c ls) Γ :=
  hG.inv (I := fun c => ∃ Γ, I c.state Γ ∧ Tracks P post c Γ) (fun _ _ hc hG => h.step hG hc) hc

/-- The empty view describes a configuration without tasks. -/
theorem Tracks.of_none {c : Config M ε α Req} (h : ∀ t, c.tasks t = none) :
    Tracks P post c fun _ => none := by
  intro t
  rw [h t]

/-- Once every task has ended, the view is empty. -/
theorem Tracks.view_none {c : Config M ε α Req} {Γ : View P} (h : Tracks P post c Γ)
    (hc : ∀ t, c.tasks t = none) : Γ = fun _ => none := by
  funext t
  have ht := h t
  rw [hc t] at ht
  exact ht

end

end Coroutine
