import DanalockBle.Control.Errors
import DanalockBle.Lib.Coroutine
import Mathlib.Data.List.Basic

/-!
# The firmware action

The handler of `danalock_ble.check_firmware_updates` (`update.py`), played alone against a
registry of update entities and an end of each entity's forced check. A set of targets is a list
without repetitions in the order in which the loop takes them.
-/

namespace DanalockBle

open Coroutine Coroutine.Coro

abbrev EntityId := String

/-- `except HomeAssistantError`: the class and those the integration derives from it. -/
def PyErr.isHomeAssistantError : PyErr → Bool
  | homeAssistantError _ | serviceValidationError _ => true
  | lockControlError _ | lockAddressUnknownError _ => true
  | _ => false

/-- An entity of the update platform. -/
inductive UpdateEntity where
  /-- a `DanalockFirmwareUpdateEntity` -/
  | firmware
  | foreign
  deriving DecidableEq, Repr

inductive ActionOp where
  /-- `await _extract_targets(hass, call)` -/
  | extractTargets
  /-- `hass.data.get(DATA_COMPONENT) is not None` -/
  | component
  /-- `component.get_entity(entity_id)` -/
  | getEntity (id : EntityId)
  /-- `await entity.async_update()` -/
  | asyncUpdate (id : EntityId)

@[reducible] def ActionOp.Res : ActionOp → Type
  | extractTargets => List EntityId
  | component => Bool
  | getEntity _ => Option UpdateEntity
  | asyncUpdate _ => Except PyErr Unit

abbrev actionSig : Sig := ⟨ActionOp, ActionOp.Res⟩

/-- A coroutine of the action. -/
abbrev Action (α : Type) := Coro actionSig PyErr α

namespace FirmwareAction

def extractTargets : Action (List EntityId) := .op .extractTargets .ret
def component : Action Bool := .op .component .ret
def getEntity (id : EntityId) : Action (Option UpdateEntity) := .op (.getEntity id) .ret
def asyncUpdate (id : EntityId) : Action Unit := .op (.asyncUpdate id) .ofResult

/-- The loop of the handler. -/
def checkEach : List EntityId → Action Unit
  | [] => return ()
  | id :: rest => do
    let entity ← getEntity id
    match entity with
    | none => raise (.serviceValidationError s!"Unknown entity {id}")
    | some .foreign =>
      raise (.serviceValidationError s!"{id} is not a danalock firmware entity")
    | some .firmware => do
      asyncUpdate id
      checkEach rest

/-- `_async_handle`. -/
def asyncHandle : Action Unit := do
  let entityIds ← extractTargets
  if entityIds.isEmpty then return ()
  else do
    let loaded ← component
    if !loaded then raise (.serviceValidationError "No update entities are loaded")
    checkEach entityIds

end FirmwareAction

/-- What the action meets: whether the component is there, its entities, and how the forced check
of each entity ends. -/
structure ActionSite where
  loaded : Bool
  registry : EntityId → Option UpdateEntity
  check : EntityId → Except PyErr Unit

namespace ActionSite

variable (a : ActionSite)

/-- The answers, for targets that come in an order; the state is the checks that were run. -/
def answer (order : List EntityId) (checked : List EntityId) :
    (o : ActionOp) → o.Res × List EntityId
  | .extractTargets => (order, checked)
  | .component => (a.loaded, checked)
  | .getEntity id => (a.registry id, checked)
  | .asyncUpdate id => (a.check id, checked ++ [id])

/-- The action on the targets in an order: how it ends, and the checks it ran. -/
def run (order : List EntityId) : Except PyErr Unit × List EntityId :=
  FirmwareAction.asyncHandle.play (a.answer order) []

/-- The target is a firmware entity that the component knows. -/
def isValid (id : EntityId) : Bool := a.loaded && a.registry id == some .firmware

/-- The target is valid and its check succeeds. -/
def passes (id : EntityId) : Bool :=
  a.isValid id && match a.check id with
    | .ok _ => true
    | .error _ => false

/-- How the action stops at a target that does not pass. -/
def stopsAt (id : EntityId) : Except PyErr Unit :=
  if a.loaded then
    match a.registry id with
    | none => .error (.serviceValidationError s!"Unknown entity {id}")
    | some .foreign => .error (.serviceValidationError s!"{id} is not a danalock firmware entity")
    | some .firmware => a.check id
  else .error (.serviceValidationError "No update entities are loaded")

section
variable {a} {order init rest : List EntityId} {id : EntityId}

theorem passes_iff : a.passes id = true ↔ a.isValid id = true ∧ a.check id = .ok () := by
  unfold passes
  rw [Bool.and_eq_true]
  cases hcheck : a.check id with
  | ok u => simp
  | error err => simp

theorem isValid_iff :
    a.isValid id = true ↔ a.loaded = true ∧ a.registry id = some .firmware := by
  simp [isValid]

/-- An invalid target stops the action with a `ServiceValidationError`. -/
theorem stopsAt_invalid (h : a.isValid id = false) :
    ∃ text, a.stopsAt id = .error (.serviceValidationError text) := by
  unfold stopsAt
  cases hloaded : a.loaded with
  | false => exact ⟨_, rfl⟩
  | true =>
    cases hentity : a.registry id with
    | none => exact ⟨_, rfl⟩
    | some entity =>
      cases entity with
      | foreign => exact ⟨_, rfl⟩
      | firmware => simp [isValid, hloaded, hentity] at h

theorem stopsAt_valid (h : a.isValid id = true) : a.stopsAt id = a.check id := by
  obtain ⟨hloaded, hentity⟩ := isValid_iff.mp h
  simp [stopsAt, hloaded, hentity]

/-- The loop runs the checks of targets that pass and goes on. -/
theorem play_passing (h : ∀ id ∈ init, a.passes id = true) (checked : List EntityId) :
    (FirmwareAction.checkEach (init ++ rest)).play (a.answer order) checked =
      (FirmwareAction.checkEach rest).play (a.answer order) (checked ++ init) := by
  induction init generalizing checked with
  | nil => simp
  | cons id init ih =>
    obtain ⟨hid, hinit⟩ := List.forall_mem_cons.mp h
    obtain ⟨hvalid, hcheck⟩ := passes_iff.mp hid
    have hentity := (isValid_iff.mp hvalid).2
    have hstep : (FirmwareAction.checkEach (id :: init ++ rest)).play (a.answer order) checked =
        (FirmwareAction.checkEach (init ++ rest)).play (a.answer order) (checked ++ [id]) := by
      simp [FirmwareAction.checkEach, FirmwareAction.getEntity, FirmwareAction.asyncUpdate,
        Coro.bind, Coro.play, answer, hentity, hcheck, ofResult]
    rw [hstep, ih hinit, List.append_assoc, List.singleton_append]

/-- A target that does not pass ends the loop. -/
theorem play_stop (hloaded : a.loaded = true) (h : a.passes id = false)
    (checked : List EntityId) :
    (FirmwareAction.checkEach (id :: rest)).play (a.answer order) checked =
      (a.stopsAt id, checked ++ if a.isValid id = true then [id] else []) := by
  cases hentity : a.registry id with
  | none =>
    simp [FirmwareAction.checkEach, FirmwareAction.getEntity, Coro.bind, Coro.play, answer,
      stopsAt, isValid, hloaded, hentity]
  | some entity =>
    cases entity with
    | foreign =>
      simp [FirmwareAction.checkEach, FirmwareAction.getEntity, Coro.bind, Coro.play, answer,
        stopsAt, isValid, hloaded, hentity]
    | firmware =>
      have hvalid : a.isValid id = true := isValid_iff.mpr ⟨hloaded, hentity⟩
      cases hcheck : a.check id with
      | ok u =>
        rw [passes_iff.mpr ⟨hvalid, hcheck⟩] at h
        cases h
      | error err =>
        simp [FirmwareAction.checkEach, FirmwareAction.getEntity, FirmwareAction.asyncUpdate,
          Coro.bind, Coro.play, answer, stopsAt, hloaded, hentity, hvalid, hcheck, ofResult]

theorem run_loaded (hloaded : a.loaded = true) (hne : order ≠ []) :
    a.run order = (FirmwareAction.checkEach order).play (a.answer order) [] := by
  simp [run, FirmwareAction.asyncHandle, FirmwareAction.extractTargets, FirmwareAction.component,
    Coro.bind, Coro.play, answer, hne, hloaded]

theorem run_unloaded (hloaded : a.loaded = false) (hne : order ≠ []) :
    a.run order =
      (.error (.serviceValidationError "No update entities are loaded"), []) := by
  simp [run, FirmwareAction.asyncHandle, FirmwareAction.extractTargets, FirmwareAction.component,
    Coro.bind, Coro.play, answer, hne, hloaded]

/-- Targets that all pass are all checked. -/
theorem run_passing (hne : order ≠ []) (h : ∀ id ∈ order, a.passes id = true) :
    a.run order = (.ok (), order) := by
  obtain ⟨id, hid⟩ := List.exists_mem_of_ne_nil order hne
  have hloaded := (isValid_iff.mp (passes_iff.mp (h id hid)).1).1
  have hplay : (FirmwareAction.checkEach (order ++ [])).play (a.answer order) [] =
      (.ok (), [] ++ order) := play_passing h []
  rw [List.append_nil, List.nil_append] at hplay
  rw [run_loaded hloaded hne, hplay]

/-- The action stops at the first target that does not pass. -/
theorem run_stop (hinit : ∀ id ∈ init, a.passes id = true) (h : a.passes id = false) :
    a.run (init ++ id :: rest) =
      (a.stopsAt id, init ++ if a.isValid id = true then [id] else []) := by
  have hne : init ++ id :: rest ≠ [] := by simp
  cases hloaded : a.loaded with
  | true =>
    rw [run_loaded hloaded hne, play_passing hinit, play_stop hloaded h, List.nil_append]
  | false =>
    have hnone : init = [] := by
      cases init with
      | nil => rfl
      | cons head tail =>
        have hhead := (isValid_iff.mp (passes_iff.mp (hinit head List.mem_cons_self)).1).1
        rw [hloaded] at hhead
        cases hhead
    subst hnone
    rw [run_unloaded hloaded hne]
    simp [stopsAt, isValid, hloaded]

/-- It stops at the first target. -/
theorem run_stop_head (rest : List EntityId) (h : a.passes id = false) :
    a.run (id :: rest) = (a.stopsAt id, if a.isValid id = true then [id] else []) := by
  have hnone : ∀ i ∈ ([] : List EntityId), a.passes i = true := by simp
  exact run_stop hnone h

/-- Either all targets pass, or there is a first one that does not. -/
theorem first_stop (a : ActionSite) (order : List EntityId) :
    (∀ id ∈ order, a.passes id = true) ∨ ∃ init id rest, order = init ++ id :: rest ∧
      (∀ i ∈ init, a.passes i = true) ∧ a.passes id = false := by
  cases hfind : order.find? fun id => !a.passes id with
  | none => exact .inl fun id hid => by simpa using List.find?_eq_none.mp hfind id hid
  | some id =>
    obtain ⟨hid, init, rest, rfl, hinit⟩ := List.find?_eq_some_iff_append.mp hfind
    exact .inr ⟨init, id, rest, rfl, fun i hi => by simpa using hinit i hi, by simpa using hid⟩

end

/-- What the action owes for targets in an order: it rejects them as a whole if one is invalid,
and else runs the check of each once and raises exactly if a check failed. -/
structure AllOrNothing (order : List EntityId) : Prop where
  rejects : (∃ id ∈ order, a.isValid id = false) →
    (∃ text, (a.run order).1 = .error (.serviceValidationError text)) ∧ (a.run order).2 = []
  checks : (∀ id ∈ order, a.isValid id = true) → (a.run order).2.Perm order
  raises : (∀ id ∈ order, a.isValid id = true) →
    ((∃ err, (a.run order).1 = .error err ∧ err.isHomeAssistantError = true) ↔
      ∃ id ∈ order, ∃ err, a.check id = .error err)

/-- The first target is invalid, or only the last check may fail, with a `HomeAssistantError`. -/
def StopsInTime (order : List EntityId) : Prop :=
  (∃ id rest, order = id :: rest ∧ a.isValid id = false) ∨
    ∃ init id, order = init ++ [id] ∧ (∀ i ∈ init, a.passes i = true) ∧ a.isValid id = true ∧
      ∀ err, a.check id = .error err → err.isHomeAssistantError = true

section
variable {a} {order : List EntityId}

theorem AllOrNothing.stopsInTime (hne : order ≠ []) (h : a.AllOrNothing order) :
    a.StopsInTime order := by
  rcases a.first_stop order with hall | ⟨init, id, rest, rfl, hinit, hid⟩
  · obtain ⟨init, id, rfl⟩ := (List.eq_nil_or_concat' order).resolve_left hne
    have hpasses := passes_iff.mp (hall id (by simp))
    refine .inr ⟨init, id, rfl, fun i hi => hall i (by simp [hi]), hpasses.1, fun err herr => ?_⟩
    rw [hpasses.2] at herr
    cases herr
  · have hrun : a.run (init ++ id :: rest) = _ := run_stop hinit hid
    cases hvalid : a.isValid id with
    | false =>
      have hnothing := (h.rejects ⟨id, by simp, hvalid⟩).2
      have hnil : init = [] := by simpa [hrun, hvalid] using hnothing
      subst hnil
      exact .inl ⟨id, rest, rfl, hvalid⟩
    | true =>
      have hchecked : (a.run (init ++ id :: rest)).2 = init ++ [id] := by simp [hrun, hvalid]
      have hall : ∀ i ∈ init ++ id :: rest, a.isValid i = true := by
        intro i hi
        by_contra hinvalid
        have hnothing := (h.rejects ⟨i, hi, by simpa using hinvalid⟩).2
        rw [hchecked] at hnothing
        simp at hnothing
      have hrest : rest = [] := by
        have hlength := (h.checks hall).length_eq
        rw [hchecked] at hlength
        simpa using hlength
      subst hrest
      refine .inr ⟨init, id, rfl, hinit, hvalid, fun err herr => ?_⟩
      obtain ⟨err', hraised, hclass⟩ := (h.raises hall).mpr ⟨id, by simp, err, herr⟩
      rw [hrun, stopsAt_valid hvalid, herr] at hraised
      cases hraised
      exact hclass

theorem StopsInTime.allOrNothing (h : a.StopsInTime order) : a.AllOrNothing order := by
  rcases h with ⟨id, rest, rfl, hinvalid⟩ | ⟨init, id, rfl, hinit, hvalid, hclass⟩
  · have hid : a.passes id = false := by simp [passes, hinvalid]
    have hrun := run_stop_head rest hid
    have hcontra : ¬ ∀ i ∈ id :: rest, a.isValid i = true := fun hall => by
      have := hall id List.mem_cons_self
      rw [hinvalid] at this
      cases this
    refine ⟨fun _ => ?_, fun hall => absurd hall hcontra, fun hall => absurd hall hcontra⟩
    rw [hrun]
    exact ⟨stopsAt_invalid hinvalid, by simp [hinvalid]⟩
  · have hall : ∀ i ∈ init ++ [id], a.isValid i = true := by
      intro i hi
      rcases List.mem_append.mp hi with hi | hi
      · exact (passes_iff.mp (hinit i hi)).1
      · rw [List.mem_singleton.mp hi]
        exact hvalid
    have hreject : ¬ ∃ i ∈ init ++ [id], a.isValid i = false := by
      rintro ⟨i, hi, hinvalid⟩
      rw [hall i hi] at hinvalid
      cases hinvalid
    have hrun : a.run (init ++ [id]) = (a.check id, init ++ [id]) := by
      cases hid : a.passes id with
      | true =>
        rw [run_passing (by simp), (passes_iff.mp hid).2]
        intro i hi
        rcases List.mem_append.mp hi with hi | hi
        · exact hinit i hi
        · rw [List.mem_singleton.mp hi]
          exact hid
      | false => rw [run_stop hinit hid, stopsAt_valid hvalid, hvalid, if_pos rfl]
    refine ⟨fun hsome => absurd hsome hreject, fun _ => ?_, fun _ => ?_⟩
    · rw [hrun]
    · rw [hrun]
      constructor
      · rintro ⟨err, herr, -⟩
        exact ⟨id, by simp, err, herr⟩
      · rintro ⟨i, hi, err, herr⟩
        rcases List.mem_append.mp hi with hi | hi
        · rw [(passes_iff.mp (hinit i hi)).2] at herr
          cases herr
        · rw [List.mem_singleton.mp hi] at herr
          exact ⟨err, herr, hclass err herr⟩

/-- In one order of the targets. -/
theorem allOrNothing_iff (hne : order ≠ []) : a.AllOrNothing order ↔ a.StopsInTime order :=
  ⟨fun h => h.stopsInTime hne, fun h => h.allOrNothing⟩

/-! The order of the targets decides which checks run. -/

/-- An invalid target in front: nothing is checked. -/
theorem checked_invalid {id : EntityId} {rest : List EntityId} (h : a.isValid id = false) :
    (a.run (id :: rest)).2 = [] := by
  have hid : a.passes id = false := by simp [passes, h]
  have hrun := run_stop_head rest hid
  simp [hrun, h]

/-- A valid target in front is checked. -/
theorem mem_checked_head {id : EntityId} {rest : List EntityId} (h : a.isValid id = true) :
    id ∈ (a.run (id :: rest)).2 := by
  rcases a.first_stop (id :: rest) with hall | ⟨init, i, rest', heq, hinit, hi⟩
  · rw [run_passing (by simp) hall]
    exact List.mem_cons_self
  · rw [heq, run_stop hinit hi]
    cases init with
    | nil =>
      cases heq
      simp [h]
    | cons head tail =>
      cases heq
      simp

/-- A valid target in front whose check fails is the only one that is checked. -/
theorem checked_failing {id : EntityId} {rest : List EntityId} (h : a.isValid id = true)
    {err : PyErr} (herr : a.check id = .error err) : (a.run (id :: rest)).2 = [id] := by
  have hid : a.passes id = false := by simp [passes, herr]
  have hrun := run_stop_head rest hid
  simp [hrun, h]

variable (a) in
/-- The same checks run in whatever order the targets are taken. -/
def OrderFree (order : List EntityId) : Prop :=
  ∀ order' : List EntityId, order'.Perm order → ∀ id, id ∈ (a.run order').2 ↔ id ∈ (a.run order).2

variable (a) in
/-- All targets are invalid; or all are valid, and no check fails or there is one target only. -/
def Uniform (order : List EntityId) : Prop :=
  (∀ id ∈ order, a.isValid id = false) ∨
    (∀ id ∈ order, a.isValid id = true) ∧
      ((∀ id ∈ order, a.check id = .ok ()) ∨ ∃ id, order = [id])

theorem OrderFree.of_perm (h : a.OrderFree order) {o o' : List EntityId} (ho : o.Perm order)
    (ho' : o'.Perm order) (id : EntityId) : id ∈ (a.run o).2 ↔ id ∈ (a.run o').2 :=
  (h o ho id).trans (h o' ho' id).symm

theorem OrderFree.uniform (hnodup : order.Nodup) (h : a.OrderFree order) : a.Uniform order := by
  -- a target taken first
  have hfirst : ∀ {id}, id ∈ order → (id :: order.erase id).Perm order := fun hid =>
    (List.perm_cons_erase hid).symm
  by_cases hvalid : ∀ id ∈ order, a.isValid id = true
  · refine .inr ⟨hvalid, ?_⟩
    by_cases hok : ∀ id ∈ order, a.check id = .ok ()
    · exact .inl hok
    · push Not at hok
      obtain ⟨id, hid, hfails⟩ := hok
      obtain ⟨err, herr⟩ : ∃ err, a.check id = .error err := by
        cases hcheck : a.check id with
        | ok u => exact absurd hcheck hfails
        | error err => exact ⟨err, rfl⟩
      refine .inr ⟨id, ?_⟩
      have honly : ∀ other ∈ order, other = id := by
        intro other hother
        have hmem := (h.of_perm (hfirst hother) (hfirst hid) other).mp
          (mem_checked_head (hvalid other hother))
        rw [checked_failing (hvalid id hid) herr] at hmem
        exact List.mem_singleton.mp hmem
      exact List.perm_singleton.mp ((List.perm_ext_iff_of_nodup hnodup (by simp)).mpr
        fun other => ⟨fun hother => List.mem_singleton.mpr (honly other hother), fun hother => by
          rw [List.mem_singleton.mp hother]
          exact hid⟩)
  · push Not at hvalid
    obtain ⟨id, hid, hinvalid⟩ := hvalid
    refine .inl fun other hother => ?_
    by_contra hother'
    have hmem := (h.of_perm (hfirst hother) (hfirst hid) other).mp
      (mem_checked_head (by simpa using hother'))
    rw [checked_invalid (by simpa using hinvalid)] at hmem
    cases hmem

theorem Uniform.orderFree (h : a.Uniform order) : a.OrderFree order := by
  intro order' hperm
  rcases h with hinvalid | ⟨hvalid, hok | ⟨id, rfl⟩⟩
  · have hnone : ∀ o : List EntityId, o.Perm order → (a.run o).2 = [] := by
      intro o ho
      cases o with
      | nil => rfl
      | cons id rest => exact checked_invalid (hinvalid id (ho.mem_iff.mp List.mem_cons_self))
    intro id
    rw [hnone order' hperm, hnone order (.refl _)]
  · have hall : ∀ o : List EntityId, o.Perm order → (a.run o).2 = o := by
      intro o ho
      cases o with
      | nil => rfl
      | cons id rest =>
        rw [run_passing (by simp)]
        intro i hi
        have hi := ho.mem_iff.mp hi
        exact passes_iff.mpr ⟨hvalid i hi, hok i hi⟩
    intro id
    rw [hall order' hperm, hall order (.refl _), hperm.mem_iff]
  · rw [List.perm_singleton.mp hperm]
    exact fun _ => Iff.rfl

end

end ActionSite

/-- **The firmware action**, on targets without repetitions. For an order of them it rejects as a
whole or checks them all exactly when the first target is invalid or nothing but the last check
fails. It does so, and the checks do not depend on the order, exactly when all targets are invalid,
or all are valid and no check fails or a single target's check fails with a
`HomeAssistantError`. -/
theorem asyncHandle_allOrNothing_iff (a : ActionSite) {order : List EntityId}
    (hnodup : order.Nodup) (hne : order ≠ []) :
    (a.AllOrNothing order ↔ a.StopsInTime order) ∧
    (a.AllOrNothing order ∧ a.OrderFree order ↔
      (∀ id ∈ order, a.isValid id = false) ∨
        (∀ id ∈ order, a.isValid id = true) ∧
          ((∀ id ∈ order, a.check id = .ok ()) ∨ ∃ id, order = [id] ∧
            ∀ err, a.check id = .error err → err.isHomeAssistantError = true)) := by
  refine ⟨ActionSite.allOrNothing_iff hne, ?_, ?_⟩
  · rintro ⟨hall, hfree⟩
    rcases hfree.uniform hnodup with hinvalid | ⟨hvalid, hok | ⟨id, rfl⟩⟩
    · exact .inl hinvalid
    · exact .inr ⟨hvalid, .inl hok⟩
    · refine .inr ⟨hvalid, .inr ⟨id, rfl, ?_⟩⟩
      rcases hall.stopsInTime hne with ⟨id', rest, heq, hinvalid⟩ | ⟨init, id', heq, -, -, hclass⟩
      · cases heq
        rw [hvalid id List.mem_cons_self] at hinvalid
        cases hinvalid
      · cases init with
        | nil =>
          cases heq
          exact hclass
        | cons head tail => simp at heq
  · rintro (hinvalid | ⟨hvalid, hok | ⟨id, rfl, hclass⟩⟩)
    · obtain ⟨id, rest, rfl⟩ := List.exists_cons_of_ne_nil hne
      exact ⟨ActionSite.StopsInTime.allOrNothing
        (.inl ⟨id, rest, rfl, hinvalid id List.mem_cons_self⟩),
        ActionSite.Uniform.orderFree (.inl hinvalid)⟩
    · obtain ⟨init, id, rfl⟩ := (List.eq_nil_or_concat' order).resolve_left hne
      refine ⟨ActionSite.StopsInTime.allOrNothing (.inr ⟨init, id, rfl, fun i hi => ?_,
        hvalid id (by simp), fun err herr => ?_⟩),
        ActionSite.Uniform.orderFree (.inr ⟨hvalid, .inl hok⟩)⟩
      · exact ActionSite.passes_iff.mpr ⟨hvalid i (by simp [hi]), hok i (by simp [hi])⟩
      · rw [hok id (by simp)] at herr
        cases herr
    · exact ⟨ActionSite.StopsInTime.allOrNothing
        (.inr ⟨[], id, rfl, by simp, hvalid id List.mem_cons_self, hclass⟩),
        ActionSite.Uniform.orderFree (.inr ⟨hvalid, .inr ⟨id, rfl⟩⟩)⟩

/-- Two firmware entities, of which only the second one's check succeeds. -/
def firstCheckFails : ActionSite where
  loaded := true
  registry
    | "update.a" | "update.b" => some .firmware
    | _ => none
  check
    | "update.a" => .error (.homeAssistantError "Firmware check failed for update.a")
    | _ => .ok ()

theorem asyncHandle_allOrNothing_iff_firstCheckFails :
    (firstCheckFails.AllOrNothing ["update.b", "update.a"] ↔
      firstCheckFails.StopsInTime ["update.b", "update.a"]) ∧
    (firstCheckFails.AllOrNothing ["update.b", "update.a"] ∧
        firstCheckFails.OrderFree ["update.b", "update.a"] ↔
      (∀ id ∈ ["update.b", "update.a"], firstCheckFails.isValid id = false) ∨
        (∀ id ∈ ["update.b", "update.a"], firstCheckFails.isValid id = true) ∧
          ((∀ id ∈ ["update.b", "update.a"], firstCheckFails.check id = .ok ()) ∨
            ∃ id, ["update.b", "update.a"] = [id] ∧
              ∀ err, firstCheckFails.check id = .error err → err.isHomeAssistantError = true)) :=
  asyncHandle_allOrNothing_iff firstCheckFails (by decide) (by decide)

/-- The failed check of the first target keeps the second one from being checked. -/
theorem firstCheckFails_notAllOrNothing :
    ¬ ∀ (a : ActionSite) (order : List EntityId), order.Nodup → order ≠ [] →
      a.AllOrNothing order ∧ a.OrderFree order := by
  intro h
  have hchecks := (h firstCheckFails ["update.a", "update.b"] (by decide) (by decide)).1.checks
    (by decide)
  exact absurd hchecks (by decide)

end DanalockBle
