import DanalockBle.Entry.Frame

/-!
# What every request is made of

Refreshes, attempts and disconnects do the work of every request; around them stand operations
that touch no facade, no key and no refresh lock. What holds of all of these holds of every request
(`RequestParts.prog`); a protocol whose ghost these parts restore has it restored by every request
(`Parts.prog`).
-/

namespace DanalockBle

open Coroutine Coroutine.Coro

/-- An operation on the entities and the state objects, or a read of the key cache. -/
def Op.isPlain : Op → Bool
  | key _ | keyExpired _ | boundControl _ | startReauth | keySerials => true
  | setInProgress _ _ _ | writeState _ | setPending _ _ | applySettings _ _ => true
  | _ => false

/-- What a property of coroutines needs to hold of every request, that of the commands among it. -/
structure CommandParts (X : (α : Type) → Py α → Prop) : Prop where
  compositional : Compositional X
  plain : ∀ o : Op, o.isPlain = true → X _ (.op o .ret)
  refresh : ∀ s force, X _ (DanalockKeyManager.refresh s force)
  run : ∀ s m, X _ (DanalockControl.run s m)
  disconnect : ∀ s, X _ (DanalockControl.disconnect s)

/-- A request is made of commands, refreshes, disconnects and plain operations. -/
theorem CommandParts.prog {X : (α : Type) → Py α → Prop} (h : CommandParts X) (req : Request)
    (hkey : ∀ s key, req = .setKey s key → X _ (DanalockControl.setKey s key)) :
    X _ req.prog := by
  have hX := h.compositional
  cases req with
  | command s m => exact hX.bind (h.run s m) fun _ => hX.ret ()
  | lock s locked =>
    exact lock_of_parts s hX (h.plain (.boundControl s) rfl) locked
      (operate_of_parts s (h.run s) locked) (fun b b' => h.plain (.setInProgress s b b') rfl)
      (h.plain (.writeState s) rfl) (h.plain (.setPending s locked) rfl)
  | press s suffix point =>
    exact press_of_parts s hX (h.plain (.boundControl s) rfl) suffix point
      (h.run s (.setCalibrationPoint point))
  | selectOption s name option =>
    exact selectOption_of_parts s hX (h.plain (.boundControl s) rfl) (h.run s)
      (fun settings => h.plain (.applySettings s settings) rfl) (h.plain (.writeState s) rfl)
      name option
  | readSettings s =>
    exact readSettings_of_parts s hX (h.run s) fun settings =>
      h.plain (.applySettings s settings) rfl
  | disconnect s => exact h.disconnect s
  | setKey s key => exact hkey s key rfl
  | refresh s force => exact hX.bind (h.refresh s force) fun _ => hX.ret ()
  | refreshAll =>
    exact hX.bind (h.plain .keySerials rfl) fun serials =>
      refreshEach_of_parts hX h.refresh (h.plain .startReauth rfl) serials

/-- What a property of coroutines needs to hold of every request. -/
structure RequestParts (X : (α : Type) → Py α → Prop) : Prop where
  compositional : Compositional X
  plain : ∀ o : Op, o.isPlain = true → X _ (.op o .ret)
  refresh : ∀ s force, X _ (DanalockKeyManager.refresh s force)
  attempt : ∀ s m, X _ (DanalockControl.attemptCall s (DanalockControl.body s m))
  disconnect : ∀ s, X _ (DanalockControl.disconnect s)

namespace RequestParts

variable {X : (α : Type) → Py α → Prop} (h : RequestParts X)
include h

theorem run (s : Serial) (m : Method) : X _ (DanalockControl.run s m) := by
  have hX := h.compositional
  refine run_of_parts s hX ?_ (h.attempt s) ?_ m
  · exact refreshIfExpired_of_parts s hX h.refresh (h.plain (.key s) rfl) fun k =>
      h.plain (.keyExpired k) rfl
  · exact refreshAfterRejection_of_parts s hX h.refresh

/-- **Every request has what its parts have**, a swap of the key by itself aside. -/
theorem prog (req : Request)
    (hkey : ∀ s key, req = .setKey s key → X _ (DanalockControl.setKey s key)) :
    X _ req.prog :=
  CommandParts.prog ⟨h.compositional, h.plain, h.refresh, h.run, h.disconnect⟩ req hkey

end RequestParts

/-- The parts of the requests restore the ghost. -/
structure Parts (P : Protocol sig) (g : P.Ghost) : Prop where
  may : ∀ o : Op, o.isPlain = true → P.may g o
  after : ∀ (o : Op) r g', o.isPlain = true → P.after g o r = some g' → g' = g
  refresh : ∀ s force, Restores P g (DanalockKeyManager.refresh s force)
  attempt : ∀ s m,
    Restores P g (DanalockControl.attemptCall s (DanalockControl.body s m))
  disconnect : ∀ s, Restores P g (DanalockControl.disconnect s)

namespace Parts

variable {P : Protocol sig} {g : P.Ghost} (h : Parts P g)
include h

theorem requestParts : RequestParts fun _ c => Restores P g c where
  compositional := Restores.compositional P g
  plain o ho := Restores.op (h.may o ho) (fun r g' => h.after o r g' ho) Restores.ret
  refresh := h.refresh
  attempt := h.attempt
  disconnect := h.disconnect

/-- **Every request restores the ghost its parts restore**, a swap of the key by itself aside. -/
theorem prog (req : Request)
    (hkey : ∀ s key, req = .setKey s key → Restores P g (DanalockControl.setKey s key)) :
    Restores P g req.prog := h.requestParts.prog req hkey

end Parts

/-! ## The work of the entities -/

/-- The operations of entities that are part of the request. -/
def Request.performs : Request → Op → Bool
  | lock s _, .setInProgress s' _ _ => s' == s
  | lock s _, .setPending s' _ => s' == s
  | lock s _, .writeState s' => s' == s
  | selectOption s _ _, .applySettings s' _ => s' == s
  | selectOption s _ _, .writeState s' => s' == s
  | readSettings s, .applySettings s' _ => s' == s
  | _, _ => false

/-- The coroutine does the entities' work that is part of the request, and no other. -/
abbrev DoesOwn {α : Type} (req : Request) (c : Py α) : Prop :=
  Only (fun o : Op => o.isEntity = true → req.performs o = true) c

theorem SparesEntities.doesOwn {α : Type} {c : Py α} (h : SparesEntities c) (req : Request) :
    DoesOwn req c :=
  Only.mono (fun o ho hentity => by rw [ho] at hentity; cases hentity) h

/-- **A request does no other entity's work.** -/
theorem prog_performs (req : Request) : DoesOwn req req.prog := by
  have hX : Compositional fun _ c => DoesOwn req c := Only.compositional _
  have hbound : ∀ s, DoesOwn req (Py.boundControl s) := fun s => ⟨nofun, fun _ => trivial⟩
  have hrun : ∀ s m, DoesOwn req (DanalockControl.run s m) := fun s m =>
    (run_sparesEntities s m).doesOwn req
  cases req with
  | command s m => exact (hrun s m).bind fun _ => trivial
  | lock s locked =>
    exact lock_of_parts s hX (hbound s) locked ((operate_sparesEntities s locked).doesOwn _)
      (fun _ _ => ⟨fun _ => beq_self_eq_true s, fun _ => trivial⟩)
      ⟨fun _ => beq_self_eq_true s, fun _ => trivial⟩
      ⟨fun _ => beq_self_eq_true s, fun _ => trivial⟩
  | press s suffix point =>
    exact press_of_parts s hX (hbound s) suffix point (hrun s (.setCalibrationPoint point))
  | selectOption s name option =>
    exact selectOption_of_parts s hX (hbound s) (hrun s)
      (fun _ => ⟨fun _ => beq_self_eq_true s, fun _ => trivial⟩)
      ⟨fun _ => beq_self_eq_true s, fun _ => trivial⟩ name option
  | readSettings s =>
    exact readSettings_of_parts s hX (hrun s)
      fun _ => ⟨fun _ => beq_self_eq_true s, fun _ => trivial⟩
  | disconnect s => exact (disconnect_sparesEntities s).doesOwn _
  | setKey s key => exact (setKey_sparesEntities s key).doesOwn _
  | refresh s force =>
    exact ((refresh_sparesEntities s force).doesOwn _).bind fun _ => trivial
  | refreshAll => exact ⟨nofun, fun l => (refreshEach_sparesEntities l).doesOwn _⟩

/-- What a request leaves alone that performs no operation of a kind. -/
theorem prog_spares {φ : Op → Prop} {req : Request} (hother : ∀ o, o.isEntity = false → φ o)
    (hreq : ∀ o, req.performs o = true → φ o) : Only φ req.prog := by
  refine (prog_performs req).mono fun o ho => ?_
  cases hentity : o.isEntity with
  | false => exact hother o hentity
  | true => exact hreq o (ho hentity)

end DanalockBle
