import Mathlib.Tactic.Common

/-!
# Coroutines

A coroutine is the tree of the operations it performs: it ends in a value, ends in an
exception, or performs an operation and goes on with its result. `tryExcept` and `tryFinally`
are the exception handlers of a language in which a handler's own exceptions escape it.

Two readings. `play` runs a coroutine alone, against a handler that answers each operation. A
`Protocol` says which operations a coroutine may perform and what an answer tells it, as a
state that only the logic sees; `Meets` says that every path of the coroutine follows it.
Properties that sequencing and the handlers keep are `Compositional`: `Preserves` (a path keeps a
property of the ghost), `Restores` (it ends with the ghost it started with) and `Only` (no operation
outside a set).
-/

namespace Coroutine

/-- Operations and the types of their results. -/
structure Sig where
  Op : Type
  Res : Op → Type

inductive Coro (S : Sig) (ε α : Type) where
  | ret (a : α)
  | raise (e : ε)
  | op (o : S.Op) (k : S.Res o → Coro S ε α)

namespace Coro

variable {S : Sig} {ε α β : Type}

def bind : Coro S ε α → (α → Coro S ε β) → Coro S ε β
  | ret a, f => f a
  | raise e, _ => raise e
  | op o k, f => op o fun r => (k r).bind f

instance : Monad (Coro S ε) where
  pure := ret
  bind := bind

/-- An exception of the body goes to the handler, whose own exceptions escape. -/
def tryExcept : Coro S ε α → (ε → Coro S ε α) → Coro S ε α
  | ret a, _ => ret a
  | raise e, h => h e
  | op o k, h => op o fun r => (k r).tryExcept h

/-- The cleanup runs however the body ends; its exception replaces the body's end. -/
def tryFinally : Coro S ε α → Coro S ε Unit → Coro S ε α
  | ret a, cleanup => cleanup.bind fun _ => ret a
  | raise e, cleanup => cleanup.bind fun _ => raise e
  | op o k, cleanup => op o fun r => (k r).tryFinally cleanup

def ofResult : Except ε α → Coro S ε α
  | .ok a => ret a
  | .error e => raise e

/-- What a coroutine does after another one ended, in a value or an exception. -/
def andThen (c : Coro S ε α) (f : Except ε α → Coro S ε β) : Coro S ε β :=
  match c with
  | ret a => f (.ok a)
  | raise e => f (.error e)
  | op o k => op o fun r => (k r).andThen f

@[simp] theorem bind_eq (c : Coro S ε α) (f : α → Coro S ε β) : c >>= f = c.bind f := rfl

theorem bind_ret (c : Coro S ε α) : c.bind ret = c := by
  induction c with
  | ret a => rfl
  | raise e => rfl
  | op o k ih => simp only [bind, ih]

/-! Sequencing and both handlers are instances of `andThen`. -/

theorem bind_eq_andThen (c : Coro S ε α) (f : α → Coro S ε β) : c.bind f = c.andThen fun
    | .ok a => f a
    | .error e => raise e := by
  induction c with
  | ret a => rfl
  | raise e => rfl
  | op o k ih => simp only [bind, andThen, ih]

theorem tryExcept_eq_andThen (c : Coro S ε α) (h : ε → Coro S ε α) :
    c.tryExcept h = c.andThen fun
      | .ok a => ret a
      | .error e => h e := by
  induction c with
  | ret a => rfl
  | raise e => rfl
  | op o k ih => simp only [tryExcept, andThen, ih]

theorem tryFinally_eq_andThen (c : Coro S ε α) (cleanup : Coro S ε Unit) :
    c.tryFinally cleanup = c.andThen fun r => cleanup.bind fun _ => ofResult r := by
  induction c with
  | ret a => rfl
  | raise e => rfl
  | op o k ih => simp only [tryFinally, andThen, ih]

theorem andThen_assoc {γ : Type} (c : Coro S ε α) (f : Except ε α → Coro S ε β)
    (g : Except ε β → Coro S ε γ) :
    (c.andThen f).andThen g = c.andThen fun r => (f r).andThen g := by
  induction c with
  | ret a => rfl
  | raise e => rfl
  | op o k ih => simp only [andThen, ih]

/-- A handler and what follows it, as one continuation. -/
theorem bind_tryExcept (c : Coro S ε α) (h : ε → Coro S ε α) (f : α → Coro S ε β) :
    (c.tryExcept h).bind f = c.andThen fun
      | .ok a => f a
      | .error e => (h e).bind f := by
  rw [bind_eq_andThen, tryExcept_eq_andThen, andThen_assoc]
  refine congrArg c.andThen (funext fun r => ?_)
  cases r with
  | ok a => rfl
  | error e => exact (bind_eq_andThen ..).symm

/-- `d` is what is left of `c` after some operations have been answered. -/
inductive Rest (c : Coro S ε α) : Coro S ε α → Prop
  | refl : Rest c c
  | answer {o : S.Op} {k : S.Res o → Coro S ε α} (h : Rest c (.op o k)) (r : S.Res o) :
    Rest c (k r)

theorem Rest.trans {c d e : Coro S ε α} (h : Rest c d) (h' : Rest d e) : Rest c e := by
  induction h' with
  | refl => exact h
  | answer _ r ih => exact ih.answer r

theorem Rest.after {o : S.Op} {k : S.Res o → Coro S ε α} {r : S.Res o} {d : Coro S ε α}
    (h : Rest (k r) d) : Rest (.op o k) d :=
  (Rest.refl.answer r).trans h

/-! ## Running alone -/

section
variable {σ : Type} (answer : σ → (o : S.Op) → S.Res o × σ)

/-- Run the coroutine alone, each operation answered at once. -/
def play : Coro S ε α → σ → Except ε α × σ
  | ret a, s => (.ok a, s)
  | raise e, s => (.error e, s)
  | op o k, s => (k (answer s o).1).play (answer s o).2

theorem play_andThen (c : Coro S ε α) (f : Except ε α → Coro S ε β) (s : σ) :
    (c.andThen f).play answer s = (f (c.play answer s).1).play answer (c.play answer s).2 := by
  induction c generalizing s with
  | ret a => rfl
  | raise e => rfl
  | op o k ih => exact ih _ _

theorem play_bind (c : Coro S ε α) (f : α → Coro S ε β) (s : σ) :
    (c.bind f).play answer s =
      match c.play answer s with
      | (.ok a, s') => (f a).play answer s'
      | (.error e, s') => (.error e, s') := by
  rw [bind_eq_andThen, play_andThen]
  obtain ⟨r, s'⟩ := c.play answer s
  cases r <;> rfl

theorem play_tryExcept (c : Coro S ε α) (h : ε → Coro S ε α) (s : σ) :
    (c.tryExcept h).play answer s =
      match c.play answer s with
      | (.ok a, s') => (.ok a, s')
      | (.error e, s') => (h e).play answer s' := by
  rw [tryExcept_eq_andThen, play_andThen]
  obtain ⟨r, s'⟩ := c.play answer s
  cases r <;> rfl

theorem play_tryFinally (c : Coro S ε α) (cleanup : Coro S ε Unit) (s : σ) :
    (c.tryFinally cleanup).play answer s =
      match cleanup.play answer (c.play answer s).2 with
      | (.ok _, s') => ((c.play answer s).1, s')
      | (.error e, s') => (.error e, s') := by
  rw [tryFinally_eq_andThen, play_andThen, play_bind]
  obtain ⟨r, s'⟩ := c.play answer s
  obtain ⟨r', s''⟩ := cleanup.play answer s'
  cases r' <;> cases r <;> rfl

end

end Coro

/-! ## Protocols -/

/-- What a coroutine may do. The ghost is what is known of the run so far; `after` is what an
answer adds to it, `none` for an answer that is never given. -/
structure Protocol (S : Sig) where
  Ghost : Type
  may : Ghost → S.Op → Prop
  after : Ghost → (o : S.Op) → S.Res o → Option Ghost

variable {S : Sig} {ε α β : Type}

/-- Every path of the coroutine follows the protocol and ends in `Q`. -/
def Meets (P : Protocol S) : P.Ghost → Coro S ε α → (Except ε α → P.Ghost → Prop) → Prop
  | g, .ret a, Q => Q (.ok a) g
  | g, .raise e, Q => Q (.error e) g
  | g, .op o k, Q => P.may g o ∧ ∀ r g', P.after g o r = some g' → Meets P g' (k r) Q

namespace Meets

variable {P : Protocol S} {g : P.Ghost}

theorem mono {Q Q' : Except ε α → P.Ghost → Prop} (h : ∀ r g, Q r g → Q' r g) {c : Coro S ε α}
    (hc : Meets P g c Q) : Meets P g c Q' := by
  induction c generalizing g with
  | ret a => exact h _ _ hc
  | raise e => exact h _ _ hc
  | op o k ih => exact ⟨hc.1, fun r g' hr => ih r (hc.2 r g' hr)⟩

theorem andThen {Q : Except ε β → P.Ghost → Prop} {c : Coro S ε α}
    {f : Except ε α → Coro S ε β} (hc : Meets P g c fun r g' => Meets P g' (f r) Q) :
    Meets P g (c.andThen f) Q := by
  induction c generalizing g with
  | ret a => exact hc
  | raise e => exact hc
  | op o k ih => exact ⟨hc.1, fun r g' hr => ih r (hc.2 r g' hr)⟩

theorem bind {Q : Except ε β → P.Ghost → Prop} {c : Coro S ε α} {f : α → Coro S ε β}
    (hc : Meets P g c fun r g' =>
      match r with
      | .ok a => Meets P g' (f a) Q
      | .error e => Q (.error e) g') :
    Meets P g (c.bind f) Q := by
  rw [Coro.bind_eq_andThen]
  refine andThen (hc.mono fun r g' h => ?_)
  cases r with
  | ok a => exact h
  | error e => exact h

theorem tryExcept {Q : Except ε α → P.Ghost → Prop} {c : Coro S ε α} {h : ε → Coro S ε α}
    (hc : Meets P g c fun r g' =>
      match r with
      | .ok a => Q (.ok a) g'
      | .error e => Meets P g' (h e) Q) :
    Meets P g (c.tryExcept h) Q := by
  rw [Coro.tryExcept_eq_andThen]
  refine andThen (hc.mono fun r g' h => ?_)
  cases r with
  | ok a => exact h
  | error e => exact h

theorem tryFinally {Q : Except ε α → P.Ghost → Prop} {c : Coro S ε α}
    {cleanup : Coro S ε Unit}
    (hc : Meets P g c fun r g' => Meets P g' cleanup fun r' g'' =>
      match r' with
      | .ok _ => Q r g''
      | .error e => Q (.error e) g'') :
    Meets P g (c.tryFinally cleanup) Q := by
  rw [Coro.tryFinally_eq_andThen]
  refine andThen (hc.mono fun r g' h => bind (h.mono fun r' g'' h' => ?_))
  cases r' with
  | ok a => cases r <;> exact h'
  | error e => exact h'

end Meets

/-! ## Coroutines that keep a property of the ghost -/

/-- From a ghost with the property, every path of the coroutine follows the protocol and ends with
a ghost that has it. -/
def Preserves (P : Protocol S) (J : P.Ghost → Prop) (c : Coro S ε α) : Prop :=
  ∀ g, J g → Meets P g c fun _ g' => J g'

namespace Preserves

variable {P : Protocol S} {J : P.Ghost → Prop}

theorem ret (a : α) : Preserves P J (.ret a : Coro S ε α) := fun _ hg => hg

theorem raise (e : ε) : Preserves P J (.raise e : Coro S ε α) := fun _ hg => hg

theorem ofResult (r : Except ε α) : Preserves P J (.ofResult r : Coro S ε α) := by
  cases r with
  | ok a => exact ret a
  | error e => exact raise e

theorem op {o : S.Op} {k : S.Res o → Coro S ε α} (hmay : ∀ g, J g → P.may g o)
    (hafter : ∀ g r g', J g → P.after g o r = some g' → J g') (hk : ∀ r, Preserves P J (k r)) :
    Preserves P J (.op o k) :=
  fun g hg => ⟨hmay g hg, fun r g' hr => hk r g' (hafter g r g' hg hr)⟩

theorem bind {c : Coro S ε α} {f : α → Coro S ε β} (hc : Preserves P J c)
    (hf : ∀ a, Preserves P J (f a)) : Preserves P J (c.bind f) := by
  refine fun g hg => Meets.bind ((hc g hg).mono fun r g' hg' => ?_)
  cases r with
  | ok a => exact hf a g' hg'
  | error e => exact hg'

theorem tryExcept {c : Coro S ε α} {h : ε → Coro S ε α} (hc : Preserves P J c)
    (hh : ∀ e, Preserves P J (h e)) : Preserves P J (c.tryExcept h) := by
  refine fun g hg => Meets.tryExcept ((hc g hg).mono fun r g' hg' => ?_)
  cases r with
  | ok a => exact hg'
  | error e => exact hh e g' hg'

theorem tryFinally {c : Coro S ε α} {cleanup : Coro S ε Unit} (hc : Preserves P J c)
    (hd : Preserves P J cleanup) : Preserves P J (c.tryFinally cleanup) := by
  refine fun g hg => Meets.tryFinally ((hc g hg).mono fun r g' hg' => ?_)
  refine (hd g' hg').mono fun r' g'' hg'' => ?_
  cases r' <;> exact hg''

end Preserves

/-- Every path of the coroutine follows the protocol and ends with the ghost it started with. -/
def Restores (P : Protocol S) (g : P.Ghost) (c : Coro S ε α) : Prop :=
  Meets P g c fun _ g' => g' = g

namespace Restores

variable {P : Protocol S} {g : P.Ghost}

theorem preserves {c : Coro S ε α} (h : Restores P g c) : Preserves P (· = g) c := by
  rintro _ rfl
  exact h

theorem ret (a : α) : Restores P g (.ret a : Coro S ε α) := rfl

theorem raise (e : ε) : Restores P g (.raise e : Coro S ε α) := rfl

theorem ofResult (r : Except ε α) : Restores P g (.ofResult r : Coro S ε α) :=
  Preserves.ofResult r g rfl

theorem op {o : S.Op} {k : S.Res o → Coro S ε α} (hmay : P.may g o)
    (hafter : ∀ r g', P.after g o r = some g' → g' = g) (hk : ∀ r, Restores P g (k r)) :
    Restores P g (.op o k) := by
  refine Preserves.op (J := (· = g)) ?_ ?_ (fun r => (hk r).preserves) g rfl
  · rintro _ rfl
    exact hmay
  · rintro _ r g' rfl hr
    exact hafter r g' hr

theorem bind {c : Coro S ε α} {f : α → Coro S ε β} (hc : Restores P g c)
    (hf : ∀ a, Restores P g (f a)) : Restores P g (c.bind f) :=
  hc.preserves.bind (fun a => (hf a).preserves) g rfl

theorem tryExcept {c : Coro S ε α} {h : ε → Coro S ε α} (hc : Restores P g c)
    (hh : ∀ e, Restores P g (h e)) : Restores P g (c.tryExcept h) :=
  hc.preserves.tryExcept (fun e => (hh e).preserves) g rfl

theorem tryFinally {c : Coro S ε α} {cleanup : Coro S ε Unit} (hc : Restores P g c)
    (hd : Restores P g cleanup) : Restores P g (c.tryFinally cleanup) :=
  hc.preserves.tryFinally hd.preserves g rfl

end Restores

/-! ## The operations of a coroutine -/

/-- The coroutine performs no operation outside `φ`. -/
def Only (φ : S.Op → Prop) : Coro S ε α → Prop
  | .ret _ => True
  | .raise _ => True
  | .op o k => φ o ∧ ∀ r, Only φ (k r)

namespace Only

variable {φ : S.Op → Prop}

theorem mono {ψ : S.Op → Prop} (h : ∀ o, φ o → ψ o) {c : Coro S ε α} (hc : Only φ c) :
    Only ψ c := by
  induction c with
  | ret a => exact trivial
  | raise e => exact trivial
  | op o k ih => exact ⟨h o hc.1, fun r => ih r (hc.2 r)⟩

theorem op {o : S.Op} {k : S.Res o → Coro S ε α} (ho : φ o) (hk : ∀ r, Only φ (k r)) :
    Only φ (.op o k) := ⟨ho, hk⟩

theorem ofResult (r : Except ε α) : Only φ (Coro.ofResult r : Coro S ε α) := by
  cases r <;> exact trivial

theorem andThen {c : Coro S ε α} {f : Except ε α → Coro S ε β} (hc : Only φ c)
    (hf : ∀ r, Only φ (f r)) : Only φ (c.andThen f) := by
  induction c with
  | ret a => exact hf _
  | raise e => exact hf _
  | op o k ih => exact ⟨hc.1, fun r => ih r (hc.2 r)⟩

theorem bind {c : Coro S ε α} {f : α → Coro S ε β} (hc : Only φ c) (hf : ∀ a, Only φ (f a)) :
    Only φ (c.bind f) := by
  rw [Coro.bind_eq_andThen]
  refine hc.andThen fun r => ?_
  cases r with
  | ok a => exact hf a
  | error e => exact trivial

theorem tryExcept {c : Coro S ε α} {h : ε → Coro S ε α} (hc : Only φ c) (hh : ∀ e, Only φ (h e)) :
    Only φ (c.tryExcept h) := by
  rw [Coro.tryExcept_eq_andThen]
  refine hc.andThen fun r => ?_
  cases r with
  | ok a => exact trivial
  | error e => exact hh e

theorem tryFinally {c : Coro S ε α} {cleanup : Coro S ε Unit} (hc : Only φ c)
    (hd : Only φ cleanup) : Only φ (c.tryFinally cleanup) := by
  rw [Coro.tryFinally_eq_andThen]
  exact hc.andThen fun r => hd.bind fun _ => ofResult r

theorem rest {c d : Coro S ε α} (hc : Only φ c) (h : Coro.Rest c d) : Only φ d := by
  induction h with
  | refl => exact hc
  | answer _ r ih => exact ih.2 r

/-- A part of the state that the operations do not touch. -/
theorem play_view {σ ρ : Type} {answer : σ → (o : S.Op) → S.Res o × σ} {v : σ → ρ}
    (hφ : ∀ o, φ o → ∀ s, v (answer s o).2 = v s) {c : Coro S ε α} (hc : Only φ c) (s : σ) :
    v (c.play answer s).2 = v s := by
  induction c generalizing s with
  | ret a => rfl
  | raise e => rfl
  | op o k ih => exact (ih _ (hc.2 _) _).trans (hφ o hc.1 s)

/-- A set of ghosts that the operations neither leave nor need to. -/
theorem meets {P : Protocol S} {J : P.Ghost → Prop} (hmay : ∀ g o, J g → φ o → P.may g o)
    (hafter : ∀ g o r g', J g → φ o → P.after g o r = some g' → J g') {c : Coro S ε α}
    (hc : Only φ c) {g : P.Ghost} (hg : J g) : Meets P g c fun _ g' => J g' := by
  induction c generalizing g with
  | ret a => exact hg
  | raise e => exact hg
  | op o k ih => exact ⟨hmay g o hg hc.1, fun r g' hr => ih r (hc.2 r) (hafter g o r g' hg hc.1 hr)⟩

end Only

/-! ## Properties of whole coroutines -/

/-- Values, exceptions, sequencing and both handlers keep the property, so a coroutine has it
when the coroutines it is made of have it. -/
structure Compositional (X : (α : Type) → Coro S ε α → Prop) : Prop where
  ret : ∀ {α : Type} (a : α), X α (.ret a)
  raise : ∀ {α : Type} (e : ε), X α (.raise e)
  bind : ∀ {α β : Type} {c : Coro S ε α} {f : α → Coro S ε β},
    X α c → (∀ a, X β (f a)) → X β (c.bind f)
  tryExcept : ∀ {α : Type} {c : Coro S ε α} {h : ε → Coro S ε α},
    X α c → (∀ e, X α (h e)) → X α (c.tryExcept h)
  tryFinally : ∀ {α : Type} {c : Coro S ε α} {cleanup : Coro S ε Unit},
    X α c → X Unit cleanup → X α (c.tryFinally cleanup)

namespace Compositional

theorem ofResult {X : (α : Type) → Coro S ε α → Prop} (hX : Compositional X) (r : Except ε α) :
    X α (.ofResult r) := by
  cases r with
  | ok a => exact hX.ret a
  | error e => exact hX.raise e

theorem ite {X : (α : Type) → Coro S ε α → Prop} {p : Prop} [Decidable p] {c d : Coro S ε α}
    (hc : X α c) (hd : X α d) : X α (if p then c else d) := by
  split
  · exact hc
  · exact hd

end Compositional

theorem Preserves.compositional (P : Protocol S) (J : P.Ghost → Prop) :
    Compositional (S := S) (ε := ε) fun _ c => Preserves P J c where
  ret := Preserves.ret
  raise := Preserves.raise
  bind := Preserves.bind
  tryExcept := Preserves.tryExcept
  tryFinally := Preserves.tryFinally

theorem Restores.compositional (P : Protocol S) (g : P.Ghost) :
    Compositional (S := S) (ε := ε) fun _ c => Restores P g c where
  ret := Restores.ret
  raise := Restores.raise
  bind := Restores.bind
  tryExcept := Restores.tryExcept
  tryFinally := Restores.tryFinally

theorem Only.compositional (φ : S.Op → Prop) :
    Compositional (S := S) (ε := ε) fun _ c => Only φ c where
  ret _ := trivial
  raise _ := trivial
  bind := Only.bind
  tryExcept := Only.tryExcept
  tryFinally := Only.tryFinally

end Coroutine
