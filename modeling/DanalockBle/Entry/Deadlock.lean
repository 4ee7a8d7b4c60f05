import DanalockBle.Broadcast.Availability
import DanalockBle.Entry.Queues
import DanalockBle.Entry.Requests
import DanalockBle.Lib.Locks
import Mathlib.Data.List.Nodup

/-!
# Commands and key refreshes do not deadlock

Two kinds of locks: the refresh lock of a device, and the lock of a facade. A task asks for a
facade's lock with or without a refresh lock, and holds it for one command or disconnect, in which
it waits for no other lock; it asks for a refresh lock only when it holds none (`locking`). So the
locks are ordered, and the ranks of the tasks go down along every wait. The invariant behind it is
that the queues hold exactly the tasks that wait there or hold the lock (`Queued`), over facades
that are replaced while tasks queue on them.
-/

namespace DanalockBle

open Coroutine Coroutine.Coro

/-- The loop of `async_unload_entry` over the controls. -/
def disconnectControls : List Serial → Py Unit
  | [] => return ()
  | serial :: rest => do
    DanalockControl.disconnect serial
    disconnectControls rest

/-- What runs as a task of the entry. -/
inductive EntryTask where
  | request (req : Request)
  | unload (serials : List Serial)

def EntryTask.prog : EntryTask → Py Unit
  | request req => req.prog
  | unload serials => disconnectControls serials

/-! ## What a task does with the locks -/

/-- The refresh lock a task holds, and what `self._lock` was when it last read it. -/
structure LockUse where
  refresh : Option Serial
  lock : Option FacadeRef

/-- A refresh lock is asked for while none is held, and a facade is used that was read from
`self._lock`. -/
@[reducible] def locking : Protocol sig where
  Ghost := LockUse
  may g
    | .acquireRefresh _ => g.refresh = none
    | .releaseRefresh s => g.refresh = some s
    | .call f _ => g.lock = some f
    | .disconnect f => g.lock = some f
    | _ => True
  after g
    | .lockRef _, f => some { g with lock := some f }
    | .acquireRefresh s, .ok _ => some { g with refresh := some s }
    | .releaseRefresh _, _ => some { g with refresh := none }
    | _, _ => some g

/-- The coroutine keeps the refresh lock that its task holds, if any. -/
abbrev KeepsRefresh {α : Type} (held : Option Serial) (c : Py α) : Prop :=
  Preserves locking (fun g => g.refresh = held) c

section
variable {held : Option Serial} {α : Type}

theorem keepsRefresh_compositional (held : Option Serial) :
    Compositional (S := sig) (ε := PyErr) fun _ c => KeepsRefresh held c :=
  Preserves.compositional locking _

/-- An operation that has nothing to do with the locks. -/
theorem KeepsRefresh.op {o : Op} {k : o.Res → Py α} (hmay : ∀ g, locking.may g o)
    (hafter : ∀ g r, locking.after g o r = some g) (hk : ∀ r, KeepsRefresh held (k r)) :
    KeepsRefresh held (.op o k : Py α) :=
  Preserves.op (fun g _ => hmay g) (fun g r g' hg hr => by
    rw [hafter] at hr
    exact Option.some.inj hr ▸ hg) hk

/-- A use of what `self._lock` is. -/
theorem keepsRefresh_use (s : Serial) {o : FacadeRef → Op} {k : ∀ f, (o f).Res → Py α}
    (hmay : ∀ f g, g.lock = some f → locking.may g (o f))
    (hafter : ∀ f g r, locking.after g (o f) r = some g) (hk : ∀ f r, KeepsRefresh held (k f r)) :
    KeepsRefresh held (.op (.lockRef s) fun f => .op (o f) (k f)) := by
  refine fun g hg => ⟨trivial, fun f g' hf => ?_⟩
  cases hf
  refine ⟨hmay f _ rfl, fun r g'' hr => ?_⟩
  rw [hafter] at hr
  cases hr
  exact hk f r _ hg

theorem disconnect_keepsRefresh (s : Serial) : KeepsRefresh held (DanalockControl.disconnect s) :=
  keepsRefresh_use s (o := .disconnect) (fun _ _ h => h) (fun _ _ _ => rfl) fun _ =>
    Preserves.ofResult

theorem callLock_keepsRefresh (s : Serial) (m : Method) :
    KeepsRefresh held (DanalockControl.callLock s m) :=
  keepsRefresh_use s (o := (.call · m)) (fun _ _ h => h) (fun _ _ _ => rfl) fun _ =>
    Preserves.ofResult

theorem setKey_keepsRefresh (s : Serial) (key : DeviceKey) :
    KeepsRefresh held (DanalockControl.setKey s key) :=
  setKey_of_parts s (keepsRefresh_compositional held) (disconnect_keepsRefresh s)
    (fun _ => KeepsRefresh.op (fun _ => trivial) (fun _ _ => rfl) Preserves.ret) key

/-- What a refresh does under its lock. -/
theorem refresh_holdsLock (s : Serial) (force : Bool) :
    KeepsRefresh held (do
      let key ← Py.getKey s force
      Py.storeKey s key
      let bound ← Py.boundControl s
      if bound then DanalockControl.setKey s key
      Py.notifyKey s
      return key : Py DeviceKey) := by
  have hlast : ∀ key : DeviceKey,
      KeepsRefresh held (do Py.notifyKey s; return key : Py DeviceKey) := fun key =>
    KeepsRefresh.op (fun _ => trivial) (fun _ _ => rfl) fun _ => Preserves.ret key
  refine KeepsRefresh.op (fun _ => trivial) (fun _ _ => rfl) fun r => ?_
  cases r with
  | error err => exact Preserves.raise err
  | ok key =>
    refine KeepsRefresh.op (fun _ => trivial) (fun _ _ => rfl) fun _ => ?_
    refine KeepsRefresh.op (fun _ => trivial) (fun _ _ => rfl) fun bound => ?_
    cases bound with
    | false => exact hlast key
    | true => exact (setKey_keepsRefresh s key).bind fun _ => hlast key

/-- **A refresh asks for its lock while it holds none, and gives it back.** -/
theorem refresh_keepsRefresh (s : Serial) (force : Bool) :
    KeepsRefresh none (DanalockKeyManager.refresh s force) := by
  refine fun g hg => ⟨hg, fun r g' hr => ?_⟩
  cases r with
  | error err =>
    cases hr
    exact hg
  | ok u =>
    cases hr
    refine Meets.tryFinally ((refresh_holdsLock s force _ rfl).mono fun r g' h => ?_)
    refine ⟨h, fun _ g'' hr => ?_⟩
    cases hr
    cases r <;> rfl

theorem locking_parts : RequestParts fun _ c => KeepsRefresh none c where
  compositional := keepsRefresh_compositional none
  plain o ho := by
    refine KeepsRefresh.op (fun g => ?_) (fun g r => ?_) Preserves.ret
    · cases o with
      | call | disconnect | acquireRefresh | releaseRefresh => cases ho
      | _ => trivial
    · cases o with
      | lockRef | acquireRefresh | releaseRefresh => cases ho
      | _ => rfl
  refresh := refresh_keepsRefresh
  attempt s m := attemptCall_of_parts s (keepsRefresh_compositional none) (callLock_keepsRefresh s)
    (disconnect_keepsRefresh s) m
  disconnect := disconnect_keepsRefresh

theorem disconnectControls_keepsRefresh (serials : List Serial) :
    KeepsRefresh none (disconnectControls serials) := by
  induction serials with
  | nil => exact Preserves.ret ()
  | cons s rest ih => exact (disconnect_keepsRefresh s).bind fun _ => ih

/-- **Every task of the entry follows the locking protocol.** -/
theorem task_keepsRefresh (task : EntryTask) : KeepsRefresh none task.prog := by
  cases task with
  | request req => exact locking_parts.prog req fun s key _ => setKey_keepsRefresh s key
  | unload serials => exact disconnectControls_keepsRefresh serials

end

/-! ## Who stands in the queues -/

/-- The task waits for the facade's lock, to run a command or not. -/
def WaitsAt (f : FacadeRef) (b : Bool) (p : Option (LockUse × Option Op)) : Prop :=
  ∃ g o, p = some (g, some o) ∧ o.waitsFor = some f ∧ o.isCall = b

/-- The task holds the device's refresh lock, or waits for it. -/
def InRefresh (s : Serial) (p : Option (LockUse × Option Op)) : Prop :=
  ∃ g w, p = some (g, w) ∧ (g.refresh = some s ∨ w = some (.acquireRefresh s))

/-- The facades the task knows have been built. -/
def Known (e : Entry) (p : Option (LockUse × Option Op)) : Prop :=
  ∀ g w, p = some (g, w) → ∀ f, (g.lock = some f ∨ ∃ o, w = some o ∧ o.waitsFor = some f) →
    f.gen ≤ (e.current f.serial).gen

/-- A facade's queue holds the tasks that wait for its lock. -/
structure FacadeQueued (e : Entry) (Γ : View locking) : Prop where
  mem : ∀ f t b, (t, b) ∈ (e.facade f).queue ↔ WaitsAt f b (Γ t)
  known : ∀ t, Known e (Γ t)

/-- A refresh queue holds the tasks that hold the refresh lock or wait for it. -/
structure RefreshQueued (e : Entry) (Γ : View locking) : Prop where
  mem : ∀ s t, t ∈ e.refreshQueue s ↔ InRefresh s (Γ t)
  nodup : ∀ s, (e.refreshQueue s).Nodup

section
variable {e e' : Entry} {Γ : View locking} {t : TaskId} {p : Option (LockUse × Option Op)}
  {g : LockUse}

theorem not_waitsAt {f : FacadeRef} {b : Bool} : ¬ WaitsAt f b (some (g, none)) := by
  rintro ⟨_, _, ⟨⟩, _⟩

theorem inRefresh_running {s : Serial} : InRefresh s (some (g, none)) ↔ g.refresh = some s := by
  constructor
  · rintro ⟨_, _, ⟨⟩, h | h⟩
    · exact h
    · cases h
  · exact fun h => ⟨g, none, rfl, .inl h⟩

theorem waitsAt_waiting {o : Op} {f : FacadeRef} {b : Bool} :
    WaitsAt f b (some (g, some o)) ↔ o.waitsFor = some f ∧ o.isCall = b := by
  constructor
  · rintro ⟨_, _, ⟨⟩, ho⟩
    exact ho
  · exact fun ho => ⟨g, o, rfl, ho⟩

theorem inRefresh_waiting {o : Op} {s : Serial} :
    InRefresh s (some (g, some o)) ↔ g.refresh = some s ∨ o = .acquireRefresh s := by
  constructor
  · rintro ⟨_, _, ⟨⟩, h | h⟩
    · exact .inl h
    · exact .inr (Option.some.inj h)
  · rintro (h | rfl)
    · exact ⟨g, _, rfl, .inl h⟩
    · exact ⟨g, _, rfl, .inr rfl⟩

theorem FacadeQueued.update (h : FacadeQueued e Γ)
    (hothers : ∀ f t' b, t' ≠ t → ((t', b) ∈ (e'.facade f).queue ↔ (t', b) ∈ (e.facade f).queue))
    (hself : ∀ f b, (t, b) ∈ (e'.facade f).queue ↔ WaitsAt f b p)
    (hgen : ∀ s, (e.current s).gen ≤ (e'.current s).gen) (hknown : Known e' p) :
    FacadeQueued e' (Function.update Γ t p) := by
  refine ⟨fun f t' b => ?_, fun t' => ?_⟩
  · by_cases ht : t' = t
    · subst ht
      rw [Function.update_self]
      exact hself f b
    · rw [Function.update_of_ne ht, hothers f t' b ht]
      exact h.mem f t' b
  · by_cases ht : t' = t
    · subst ht
      rw [Function.update_self]
      exact hknown
    · rw [Function.update_of_ne ht]
      exact fun g w hΓ f hf => Nat.le_trans (h.known t' g w hΓ f hf) (hgen f.serial)

/-- The queues stay as they are, and the task's place with them. -/
theorem FacadeQueued.frame (h : FacadeQueued e Γ)
    (hqueue : ∀ f, (e'.facade f).queue = (e.facade f).queue)
    (hplace : ∀ f b, WaitsAt f b p ↔ WaitsAt f b (Γ t))
    (hgen : ∀ s, (e.current s).gen ≤ (e'.current s).gen) (hknown : Known e' p) :
    FacadeQueued e' (Function.update Γ t p) := by
  refine h.update (fun f t' b _ => by rw [hqueue]) (fun f b => ?_) hgen hknown
  rw [hqueue, h.mem, hplace]

theorem RefreshQueued.update (h : RefreshQueued e Γ)
    (hothers : ∀ s t', t' ≠ t → (t' ∈ e'.refreshQueue s ↔ t' ∈ e.refreshQueue s))
    (hself : ∀ s, t ∈ e'.refreshQueue s ↔ InRefresh s p) (hnodup : ∀ s, (e'.refreshQueue s).Nodup) :
    RefreshQueued e' (Function.update Γ t p) := by
  refine ⟨fun s t' => ?_, hnodup⟩
  by_cases ht : t' = t
  · subst ht
    rw [Function.update_self]
    exact hself s
  · rw [Function.update_of_ne ht, hothers s t' ht]
    exact h.mem s t'

theorem RefreshQueued.frame (h : RefreshQueued e Γ)
    (hqueue : ∀ s, e'.refreshQueue s = e.refreshQueue s)
    (hplace : ∀ s, InRefresh s p ↔ InRefresh s (Γ t)) :
    RefreshQueued e' (Function.update Γ t p) := by
  refine h.update (fun s t' _ => by rw [hqueue]) (fun s => ?_) fun s => ?_
  · rw [hqueue, h.mem, hplace]
  · rw [hqueue]
    exact h.nodup s

/-! ### Operations that do not suspend -/

theorem runOp_gen {o : Op} {r : o.Res} (h : e.runOp t o = some (r, e')) (s : Serial) :
    (e.current s).gen ≤ (e'.current s).gen := by
  rw [Entry.runOp_current s h]
  cases o with
  | buildFacade s' token =>
    simp only
    split
    · next hs =>
      subst hs
      exact Nat.le_succ _
    · exact Nat.le_refl _
  | _ => exact Nat.le_refl _

/-- A new facade is nobody's yet. -/
theorem FacadeQueued.runOp_queue (h : FacadeQueued e Γ) {o : Op} {r : o.Res}
    (hr : e.runOp t o = some (r, e')) (f : FacadeRef) :
    (e'.facade f).queue = (e.facade f).queue := by
  rw [Entry.runOp_facade f hr]
  cases o with
  | buildFacade s token =>
    simp only
    split
    · next hf =>
      subst hf
      symm
      refine List.eq_nil_iff_forall_not_mem.mpr fun ⟨t', b⟩ hmem => ?_
      obtain ⟨g, o, hΓ, ho, -⟩ := (h.mem _ t' b).mp hmem
      have hknown := h.known t' g _ hΓ _ (.inr ⟨o, rfl, ho⟩)
      exact Nat.not_succ_le_self _ hknown
    · rfl
  | _ => rfl

theorem FacadeQueued.run (h : FacadeQueued e Γ) (ht : Γ t = some (g, none)) {o : Op} {r : o.Res}
    (hr : e.runOp t o = some (r, e')) {g' : LockUse} (hafter : locking.after g o r = some g') :
    FacadeQueued e' (Function.update Γ t (some (g', none))) := by
  refine h.frame (h.runOp_queue hr) (fun f b => ?_) (runOp_gen hr) ?_
  · rw [ht]
    exact iff_of_false not_waitsAt not_waitsAt
  · rintro _ _ ⟨⟩ f (hf | ⟨_, ⟨⟩, _⟩)
    have hbefore : ∀ f, g.lock = some f → f.gen ≤ (e'.current f.serial).gen := fun f hf =>
      Nat.le_trans (h.known t g none ht f (.inl hf)) (runOp_gen hr f.serial)
    cases o with
    | lockRef s =>
      cases hr
      cases hafter
      cases hf
      exact Nat.le_refl _
    | acquireRefresh s =>
      cases r with
      | ok u => cases hafter; exact hbefore f hf
      | error err => cases hafter; exact hbefore f hf
    | _ => cases hafter; exact hbefore f hf

theorem RefreshQueued.runAcquire (h : RefreshQueued e Γ) (ht : Γ t = some (g, none)) {s : Serial}
    (hfree : g.refresh = none) {r : Except PyErr Unit}
    (hr : e.runOp t (.acquireRefresh s) = some (r, e')) :
    r = .ok () ∧
      RefreshQueued e' (Function.update Γ t (some ({ g with refresh := some s }, none))) := by
  obtain ⟨rfl, hempty⟩ := Entry.runOp_acquire hr
  have hq : ∀ s', e'.refreshQueue s' = if s' = s then [t] else e.refreshQueue s' := fun s' =>
    Entry.runOp_refreshQueue s' hr
  refine ⟨rfl, h.update (fun s' t' hne => ?_) (fun s' => ?_) fun s' => ?_⟩
  · rw [hq]
    split
    · next hs => simp [hs, hempty, hne]
    · exact Iff.rfl
  · rw [hq, inRefresh_running]
    by_cases hs : s' = s
    · subst hs
      simp
    · rw [if_neg hs, h.mem, ht, inRefresh_running, hfree]
      simp [Ne.symm hs]
  · rw [hq]
    split
    · exact List.pairwise_singleton ..
    · exact h.nodup s'

theorem RefreshQueued.runRelease (h : RefreshQueued e Γ) (ht : Γ t = some (g, none)) {s : Serial}
    (hheld : g.refresh = some s) {r : Unit} (hr : e.runOp t (.releaseRefresh s) = some (r, e')) :
    RefreshQueued e' (Function.update Γ t (some ({ g with refresh := none }, none))) := by
  have hq : ∀ s', e'.refreshQueue s' =
      if s' = s then (e.refreshQueue s').erase t else e.refreshQueue s' := fun s' =>
    Entry.runOp_refreshQueue s' hr
  refine h.update (fun s' t' hne => ?_) (fun s' => ?_) fun s' => ?_
  · rw [hq]
    split
    · exact List.mem_erase_of_ne hne
    · exact Iff.rfl
  · rw [hq, inRefresh_running]
    by_cases hs : s' = s
    · rw [if_pos hs]
      refine iff_of_false (fun hmem => ?_) nofun
      exact ((h.nodup s').mem_erase_iff.mp hmem).1 rfl
    · rw [if_neg hs, h.mem, ht, inRefresh_running, hheld]
      simp [Ne.symm hs]
  · rw [hq]
    split
    · exact (h.nodup s').erase t
    · exact h.nodup s'

theorem RefreshQueued.run (h : RefreshQueued e Γ) (ht : Γ t = some (g, none)) {o : Op} {r : o.Res}
    (hmay : locking.may g o) (hr : e.runOp t o = some (r, e')) :
    ∃ g', locking.after g o r = some g' ∧
      RefreshQueued e' (Function.update Γ t (some (g', none))) := by
  have hframe : (∀ s, e'.refreshQueue s = e.refreshQueue s) → ∀ g' : LockUse,
      g'.refresh = g.refresh → RefreshQueued e' (Function.update Γ t (some (g', none))) := by
    intro hq g' hg'
    refine h.frame hq fun s => ?_
    rw [ht, inRefresh_running, inRefresh_running, hg']
  cases o with
  | acquireRefresh s =>
    obtain ⟨rfl, h'⟩ := h.runAcquire ht hmay hr
    exact ⟨_, rfl, h'⟩
  | releaseRefresh s => exact ⟨_, rfl, h.runRelease ht hmay hr⟩
  | _ => exact ⟨_, rfl, hframe (fun s => Entry.runOp_refreshQueue s hr) _ rfl⟩

/-! ### Waits -/

theorem FacadeQueued.park (h : FacadeQueued e Γ) (ht : Γ t = some (g, none)) {o : Op}
    (hmay : locking.may g o) :
    FacadeQueued (e.parkOp t o) (Function.update Γ t (some (g, some o))) := by
  have hnew : ∀ f b, (t, b) ∉ (e.facade f).queue := by
    intro f b hmem
    rw [h.mem, ht] at hmem
    exact not_waitsAt hmem
  refine h.update (fun f t' b hne => ?_) (fun f b => ?_) (fun s => ?_) ?_
  · rcases parkOp_queue e t o f with ⟨-, hq⟩ | ⟨-, hq⟩
    · simp [hq, hne]
    · rw [hq]
  · rw [waitsAt_waiting]
    rcases parkOp_queue e t o f with ⟨ho, hq⟩ | ⟨ho, hq⟩
    · simp [hq, hnew, ho, eq_comm]
    · rw [hq]
      exact iff_of_false (hnew f b) fun hw => ho hw.1
  · rw [Entry.parkOp_current]
  · rintro _ _ ⟨⟩ f hf
    rw [Entry.parkOp_current]
    refine h.known t g none ht f (.inl ?_)
    rcases hf with hf | ⟨_, ⟨⟩, hf⟩
    · exact hf
    · cases o with
      | call f' m => cases hf; exact hmay
      | disconnect f' => cases hf; exact hmay
      | _ => cases hf

theorem RefreshQueued.park (h : RefreshQueued e Γ) (ht : Γ t = some (g, none)) {o : Op}
    (hmay : locking.may g o) :
    RefreshQueued (e.parkOp t o) (Function.update Γ t (some (g, some o))) := by
  have hmem : ∀ s, t ∈ e.refreshQueue s ↔ g.refresh = some s := fun s => by
    rw [h.mem, ht, inRefresh_running]
  cases o with
  | acquireRefresh s =>
    have hq : ∀ s', (e.parkOp t (.acquireRefresh s)).refreshQueue s' =
        if s' = s then e.refreshQueue s' ++ [t] else e.refreshQueue s' := fun s' =>
      Entry.parkOp_refreshQueue e t _ s'
    have hfree : g.refresh = none := hmay
    have hnew : ∀ s', t ∉ e.refreshQueue s' := by
      intro s'
      rw [hmem, hfree]
      exact nofun
    refine h.update (fun s' t' hne => ?_) (fun s' => ?_) fun s' => ?_
    · rw [hq]
      split
      · simp [hne]
      · exact Iff.rfl
    · rw [hq, inRefresh_waiting, hfree]
      split
      · next hs => simp [hs]
      · next hs => simpa [hnew, eq_comm] using hs
    · rw [hq]
      split
      · refine List.nodup_append.mpr ⟨h.nodup s', List.pairwise_singleton .., fun x hx y hy => ?_⟩
        rw [List.mem_singleton.mp hy]
        rintro rfl
        exact hnew s' hx
      · exact h.nodup s'
  | _ =>
    refine h.frame (fun s => Entry.parkOp_refreshQueue e t _ s) fun s => ?_
    rw [inRefresh_waiting, ht, inRefresh_running]
    simp

theorem FacadeQueued.wake (h : FacadeQueued e Γ) {o : Op} (ht : Γ t = some (g, some o)) {r : o.Res}
    (hr : e.wakeOp t o r = some e') {g' : LockUse} (hafter : locking.after g o r = some g') :
    FacadeQueued e' (Function.update Γ t (some (g', none))) := by
  refine h.update (fun f t' b hne => ?_) (fun f b => iff_of_false ?_ not_waitsAt) (fun s => ?_) ?_
  · rw [Entry.wakeOp_queue hr f]
    split
    · simp [hne]
    · exact Iff.rfl
  · rw [Entry.wakeOp_queue hr f]
    split
    · simp
    · next ho =>
      rw [h.mem, ht, waitsAt_waiting]
      exact fun hw => ho hw.1
  · rw [Entry.wakeOp_current hr]
  · rintro _ _ ⟨⟩ f (hf | ⟨_, ⟨⟩, _⟩)
    rw [Entry.wakeOp_current hr]
    have hbefore : ∀ f, g.lock = some f → f.gen ≤ (e.current f.serial).gen := fun f hf =>
      h.known t g _ ht f (.inl hf)
    cases o with
    | lockRef s => cases hr
    | acquireRefresh s =>
      cases r with
      | ok u => cases hafter; exact hbefore f hf
      | error err => cases hafter; exact hbefore f hf
    | _ => cases hafter; exact hbefore f hf

theorem RefreshQueued.wakeAcquire (h : RefreshQueued e Γ) {s : Serial}
    (ht : Γ t = some (g, some (.acquireRefresh s))) (hfree : g.refresh = none)
    {r : Except PyErr Unit} (hr : e.wakeOp t (.acquireRefresh s) r = some e') :
    ∃ g', locking.after g (.acquireRefresh s) r = some g' ∧
      RefreshQueued e' (Function.update Γ t (some (g', none))) := by
  rcases Entry.wakeOp_acquire hr with ⟨rfl, -, rfl⟩ | ⟨rfl, rfl⟩
  · refine ⟨_, rfl, h.frame (fun _ => rfl) fun s' => ?_⟩
    rw [inRefresh_running, ht, inRefresh_waiting, hfree]
    simp
  · -- a cancelled task gives up its place, which is its only one
    refine ⟨g, rfl, h.update (fun s' t' hne => ?_) (fun s' => iff_of_false ?_ ?_) fun s' => ?_⟩
    · rw [Entry.refreshQueue_setRefreshQueue]
      split
      · next hs => rw [hs]; exact List.mem_erase_of_ne hne
      · exact Iff.rfl
    · rw [Entry.refreshQueue_setRefreshQueue]
      split
      · exact fun hmem => ((h.nodup s).mem_erase_iff.mp hmem).1 rfl
      · next hs =>
        rw [h.mem, ht, inRefresh_waiting, hfree]
        simpa [eq_comm] using hs
    · rw [inRefresh_running, hfree]
      exact nofun
    · rw [Entry.refreshQueue_setRefreshQueue]
      split
      · exact (h.nodup s).erase t
      · exact h.nodup s'

theorem RefreshQueued.wake (h : RefreshQueued e Γ) {o : Op} (ht : Γ t = some (g, some o))
    (hmay : locking.may g o) {r : o.Res} (hr : e.wakeOp t o r = some e') :
    ∃ g', locking.after g o r = some g' ∧
      RefreshQueued e' (Function.update Γ t (some (g', none))) := by
  have hframe : (∀ s, o ≠ .acquireRefresh s) →
      RefreshQueued e' (Function.update Γ t (some (g, none))) := by
    intro ho
    refine h.frame (fun s => Entry.wakeOp_refreshQueue hr s (ho s)) fun s => ?_
    rw [ht, inRefresh_running, inRefresh_waiting]
    simp [ho s]
  cases o with
  | acquireRefresh s => exact h.wakeAcquire ht hmay hr
  | call f m => exact ⟨g, rfl, hframe (by rintro s ⟨⟩)⟩
  | disconnect f => exact ⟨g, rfl, hframe (by rintro s ⟨⟩)⟩
  | getKey s force => exact ⟨g, rfl, hframe (by rintro s ⟨⟩)⟩
  | _ => cases hr

end

/-! ### Whole runs -/

/-- The operations that suspend. -/
def Op.suspends : Op → Bool
  | .call _ _ | .disconnect _ | .acquireRefresh _ | .getKey _ _ => true
  | _ => false

/-- The queues, and where tasks wait at all. -/
structure Queued (e : Entry) (Γ : View locking) : Prop where
  facades : FacadeQueued e Γ
  refreshes : RefreshQueued e Γ
  suspends : ∀ t g o, Γ t = some (g, some o) → o.suspends = true

section
variable {e e' : Entry} {Γ : View locking} {t : TaskId} {p : Option (LockUse × Option Op)}

theorem runOp_suspends {o : Op} (h : e.runOp t o = none) : o.suspends = true := by
  cases o with
  | call | disconnect | acquireRefresh | getKey => rfl
  | _ => cases h

theorem Queued.updateSuspends (h : Queued e Γ)
    (hp : ∀ g o, p = some (g, some o) → o.suspends = true) :
    ∀ t' g o, Function.update Γ t p t' = some (g, some o) → o.suspends = true :=
  (Function.forall_update_iff Γ fun _ p => ∀ g o, p = some (g, some o) → o.suspends = true).mpr
    ⟨hp, fun t' _ => h.suspends t'⟩

theorem queued_keeps (parse : ParseBroadcast) :
    Keeps EntryTask.prog (.any (entryMachine parse) EntryTask) locking (fun _ => ⟨none, none⟩)
      (fun _ _ g => g.refresh = none) Queued where
  meets task _ := task_keepsRefresh task _ rfl
  spawn e Γ t task hI ht _ := by
    refine ⟨?_, ?_, hI.updateSuspends (by rintro _ _ ⟨⟩)⟩
    · refine hI.facades.frame (fun _ => rfl) (fun f b => ?_) (fun _ => Nat.le_refl _) ?_
      · rw [ht]
        exact iff_of_false not_waitsAt (by rintro ⟨_, _, ⟨⟩, _⟩)
      · rintro _ _ ⟨⟩ f (hf | ⟨_, ⟨⟩, _⟩)
        cases hf
    · refine hI.refreshes.frame (fun _ => rfl) fun s => ?_
      rw [ht, inRefresh_running]
      exact iff_of_false nofun (by rintro ⟨_, _, ⟨⟩, _⟩)
  run e Γ t g o r e' hI ht _ hmay hr _ := by
    obtain ⟨g', hafter, hrefreshes⟩ := hI.refreshes.run ht hmay hr
    exact ⟨g', hafter, hI.facades.run ht hr hafter, hrefreshes,
      hI.updateSuspends (by rintro _ _ ⟨⟩)⟩
  park e Γ t g o hI ht hmay hr :=
    ⟨hI.facades.park ht hmay, hI.refreshes.park ht hmay,
      hI.updateSuspends (by rintro _ _ ⟨⟩; exact runOp_suspends hr)⟩
  wake e Γ t g o r e' hI ht hmay hr _ := by
    obtain ⟨g', hafter, hrefreshes⟩ := hI.refreshes.wake ht hmay hr
    exact ⟨g', hafter, hI.facades.wake ht hr hafter, hrefreshes,
      hI.updateSuspends (by rintro _ _ ⟨⟩)⟩
  finish e Γ t task r g hI ht hfree := by
    refine ⟨?_, ?_, hI.updateSuspends (by rintro _ _ ⟨⟩)⟩
    · refine hI.facades.frame (fun _ => rfl) (fun f b => ?_) (fun _ => Nat.le_refl _) ?_
      · rw [ht]
        exact iff_of_false (by rintro ⟨_, _, ⟨⟩, _⟩) not_waitsAt
      · rintro _ _ ⟨⟩
    · refine hI.refreshes.frame (fun _ => rfl) fun s => ?_
      rw [ht, inRefresh_running, hfree]
      exact iff_of_false (by rintro ⟨_, _, ⟨⟩, _⟩) nofun
  env e Γ ev e' hI hev := by
    have hgen : ∀ s, e'.current s = e.current s := fun s => Entry.envStep_current hev s
    refine ⟨⟨fun f t b => ?_, fun t => ?_⟩, ⟨fun s t => ?_, fun s => ?_⟩, hI.suspends⟩
    · rw [Entry.envStep_queue hev, hI.facades.mem]
    · intro g w hΓ f hf
      rw [hgen]
      exact hI.facades.known t g w hΓ f hf
    · rw [Entry.envStep_refreshQueue hev, hI.refreshes.mem]
    · rw [Entry.envStep_refreshQueue hev]
      exact hI.refreshes.nodup s

end

/-! ## Waiting for each other -/

/-- The task that holds the lock the operation waits for. -/
def Entry.holder (e : Entry) : Op → Option TaskId
  | .call f _ => (e.facade f).queue.head?.map (·.1)
  | .disconnect f => (e.facade f).queue.head?.map (·.1)
  | .acquireRefresh s => (e.refreshQueue s).head?
  | _ => none

/-- Not the cancellation of the waiting task. -/
def uncancelled {α : Type} : Except PyErr α → Bool
  | .ok _ => true
  | .error err => err.isException

/-- The wait ends otherwise than by a cancellation. -/
def Op.completes : (o : Op) → o.Res → Bool
  | .call _ _, r => uncancelled r
  | .disconnect _, r => uncancelled r
  | .acquireRefresh _, r => uncancelled r
  | .getKey _ _, r => uncancelled r
  | _, _ => true

/-- A configuration of an entry with all its tasks. -/
abbrev TaskConfig (parse : ParseBroadcast) := Config (entryMachine parse) PyErr Unit EntryTask

abbrev TaskLabel (parse : ParseBroadcast) := Label (entryMachine parse) EntryTask

namespace TaskConfig

variable {parse : ParseBroadcast}

/-- The configuration after a run of a new entry. -/
def run (parse : ParseBroadcast) (serials : List Serial) (nodup : serials.Nodup)
    (keys : Serial → DeviceKey) (ls : List (TaskLabel parse)) : TaskConfig parse :=
  Runs.exec (Config.step EntryTask.prog)
    { state := .init serials nodup keys, tasks := fun _ => none } ls

/-- `t` waits for a lock that another task holds. -/
def HeldUpBy (c : TaskConfig parse) (t t' : TaskId) : Prop :=
  ∃ task o k, c.tasks t = some (task, .op o k) ∧ c.state.holder o = some t' ∧ t' ≠ t

/-- The task's wait can end, and not only by a cancellation. -/
def CanGoOn (c : TaskConfig parse) (t : TaskId) : Prop :=
  ∃ task o k r, c.tasks t = some (task, .op o k) ∧ o.completes r = true ∧
    (c.state.wakeOp t o r).isSome = true

/-- The order of the locks. -/
def level : Op → Nat
  | .acquireRefresh _ => 2
  | .call _ _ => 1
  | .disconnect _ => 1
  | _ => 0

/-- The level of the lock that another task withholds from the task. -/
def rank (c : TaskConfig parse) (t : TaskId) : Nat :=
  match c.tasks t with
  | some (_, .op o _) => if c.state.holder o = some t then 0 else level o
  | _ => 0

section
variable {c : TaskConfig parse} {t : TaskId} {task : EntryTask} {o : Op} {k : o.Res → Py Unit}
  (htask : c.tasks t = some (task, .op o k))
include htask

theorem rank_eq : c.rank t = if c.state.holder o = some t then 0 else level o := by
  unfold rank
  rw [htask]

theorem rank_le : c.rank t ≤ level o := by
  rw [rank_eq htask]
  split
  · exact Nat.zero_le _
  · exact Nat.le_refl _

theorem rank_holder (hholder : c.state.holder o = some t) : c.rank t = 0 := by
  rw [rank_eq htask, if_pos hholder]

end

variable {c : TaskConfig parse} {Γ : View locking}

/-- A task that the view shows is there, where the view shows it. -/
theorem task_of_view (hT : Tracks locking (fun _ _ g => g.refresh = none) c Γ) {t : TaskId}
    {g : LockUse} {w : Option Op} (hΓ : Γ t = some (g, w)) :
    ∃ task o k, c.tasks t = some (task, .op o k) ∧ w = some o ∧ locking.may g o := by
  have ht := hT t
  cases hc : c.tasks t with
  | none =>
    rw [hc, hΓ] at ht
    cases ht
  | some p =>
    obtain ⟨task, k⟩ := p
    rw [hc] at ht
    obtain ⟨o, f, g', rfl, hΓ', hk⟩ := ht
    rw [hΓ] at hΓ'
    cases hΓ'
    exact ⟨task, o, f, rfl, rfl, hk.1⟩

theorem holder_of_waitsFor (e : Entry) {o : Op} {f : FacadeRef} (ho : o.waitsFor = some f) :
    e.holder o = (e.facade f).queue.head?.map (·.1) := by
  cases o with
  | call f' m => cases ho; rfl
  | disconnect f' => cases ho; rfl
  | _ => cases ho

section
variable (hI : Queued c.state Γ) (hT : Tracks locking (fun _ _ g => g.refresh = none) c Γ)
include hI hT

/-- Who holds a facade's lock is held up by nobody. -/
theorem facade_holder {f : FacadeRef} {t : TaskId}
    (hholder : (c.state.facade f).queue.head?.map (·.1) = some t) :
    ∃ task o k, c.tasks t = some (task, .op o k) ∧ c.state.holder o = some t := by
  obtain ⟨⟨t₁, b⟩, hhead, ht₁⟩ := Option.map_eq_some_iff.mp hholder
  obtain rfl : t₁ = t := ht₁
  obtain ⟨g, o, hΓ, ho, -⟩ := (hI.facades.mem f t₁ b).mp (List.mem_of_mem_head? hhead)
  obtain ⟨task, o', k, htask, hw, -⟩ := task_of_view hT hΓ
  obtain rfl : o = o' := Option.some.inj hw
  exact ⟨task, o, k, htask, (holder_of_waitsFor c.state ho).trans hholder⟩

/-- Who holds a refresh lock, or has just been given it, waits for a facade's lock at most. -/
theorem refresh_holder {s : Serial} {t : TaskId}
    (hholder : (c.state.refreshQueue s).head? = some t) :
    ∃ task o k, c.tasks t = some (task, .op o k) ∧
      (c.state.holder o = some t ∨ level o ≤ 1) := by
  obtain ⟨g, w, hΓ, hin⟩ := (hI.refreshes.mem s t).mp (List.mem_of_mem_head? hholder)
  obtain ⟨task, o, k, htask, rfl, hmay⟩ := task_of_view hT hΓ
  refine ⟨task, o, k, htask, ?_⟩
  rcases hin with hheld | hwaits
  · refine .inr ?_
    cases o with
    | acquireRefresh s' =>
      have hfree : g.refresh = none := hmay
      rw [hheld] at hfree
      cases hfree
    | call f m => exact Nat.le_refl 1
    | disconnect f => exact Nat.le_refl 1
    | _ => exact Nat.zero_le 1
  · cases hwaits
    exact .inl hholder

/-- Who holds the lock that an operation waits for is a task, and held up for less if at all. -/
theorem holder_task {o : Op} {t : TaskId} (hholder : c.state.holder o = some t) :
    ∃ task o' k, c.tasks t = some (task, .op o' k) ∧
      (c.state.holder o' = some t ∧ 0 < level o ∨ level o' < level o) := by
  cases o with
  | acquireRefresh s =>
    obtain ⟨task, o', k, htask, hfree | hlevel⟩ := refresh_holder hI hT hholder
    · exact ⟨task, o', k, htask, .inl ⟨hfree, Nat.zero_lt_two⟩⟩
    · exact ⟨task, o', k, htask, .inr (Nat.lt_succ_of_le hlevel)⟩
  | call f m =>
    obtain ⟨task, o', k, htask, hfree⟩ := facade_holder hI hT hholder
    exact ⟨task, o', k, htask, .inl ⟨hfree, Nat.zero_lt_one⟩⟩
  | disconnect f =>
    obtain ⟨task, o', k, htask, hfree⟩ := facade_holder hI hT hholder
    exact ⟨task, o', k, htask, .inl ⟨hfree, Nat.zero_lt_one⟩⟩
  | _ => cases hholder

/-- **The locks are ordered**: who holds up another task is held up for less. -/
theorem rank_heldUpBy {t t' : TaskId} (h : c.HeldUpBy t t') : c.rank t' < c.rank t := by
  obtain ⟨task, o, k, htask, hholder, hne⟩ := h
  have hrank : c.rank t = level o := by
    rw [rank_eq htask, hholder]
    exact if_neg fun h => hne (Option.some.inj h)
  rw [hrank]
  obtain ⟨task', o', k', htask', ⟨hfree, hlevel⟩ | hlevel⟩ := holder_task hI hT hholder
  · rw [rank_holder htask' hfree]
    exact hlevel
  · exact Nat.lt_of_le_of_lt (rank_le htask') hlevel

/-- Who holds up another task is unfinished too. -/
theorem unfinished_chain {t t' : TaskId} (ht : (c.tasks t).isSome = true)
    (h : Relation.ReflTransGen c.HeldUpBy t t') : (c.tasks t').isSome = true := by
  cases h with
  | refl => exact ht
  | tail _ hlast =>
    obtain ⟨task, o, k, -, hholder, -⟩ := hlast
    obtain ⟨task', o', k', htask', -⟩ := holder_task hI hT hholder
    rw [htask']
    rfl

section
variable {t : TaskId} {task : EntryTask} {o : Op} {k : o.Res → Py Unit} {g : LockUse}
  (htask : c.tasks t = some (task, .op o k)) (hΓ : Γ t = some (g, some o))
  (hfree : ∀ t', ¬ c.HeldUpBy t t')
include htask hΓ hfree

omit hT in
/-- A task that waits for a facade's lock and is held up by nobody has it. -/
theorem facade_head {f : FacadeRef} (ho : o.waitsFor = some f) :
    (c.state.facade f).queue.head? = some (t, o.isCall) := by
  have hmem : (t, o.isCall) ∈ (c.state.facade f).queue :=
    (hI.facades.mem f t o.isCall).mpr ⟨g, o, hΓ, ho, rfl⟩
  have hhead : ∃ p, (c.state.facade f).queue.head? = some p := by
    cases hq : (c.state.facade f).queue with
    | nil => rw [hq] at hmem; cases hmem
    | cons p rest => exact ⟨p, rfl⟩
  obtain ⟨⟨t', b⟩, hhead⟩ := hhead
  obtain rfl : t' = t := by
    by_contra hne
    refine hfree t' ⟨task, o, k, htask, ?_, hne⟩
    rw [holder_of_waitsFor c.state ho, hhead]
    rfl
  obtain ⟨g', o', hΓ', -, hb⟩ := (hI.facades.mem f t' b).mp (List.mem_of_mem_head? hhead)
  rw [hΓ] at hΓ'
  cases hΓ'
  rw [hhead, hb]

omit hT in
/-- A task that waits for a refresh lock and is held up by nobody has it. -/
theorem refresh_head {s : Serial} (ho : o = .acquireRefresh s) :
    (c.state.refreshQueue s).head? = some t := by
  have hmem : t ∈ c.state.refreshQueue s :=
    (hI.refreshes.mem s t).mpr ⟨g, some o, hΓ, .inr (by rw [ho])⟩
  cases hq : c.state.refreshQueue s with
  | nil => rw [hq] at hmem; cases hmem
  | cons t' rest =>
    by_contra hne
    refine hfree t' ⟨task, o, k, htask, ?_, fun h => hne (by rw [h]; rfl)⟩
    rw [ho]
    show (c.state.refreshQueue s).head? = some t'
    rw [hq]
    rfl

end

/-- A task that nobody holds up can go on. -/
theorem canGoOn_of_free {t : TaskId} (ht : (c.tasks t).isSome = true)
    (hfree : ∀ t', ¬ c.HeldUpBy t t') : c.CanGoOn t := by
  have hview := hT t
  obtain ⟨⟨task, k⟩, htask⟩ := Option.isSome_iff_exists.mp ht
  rw [htask] at hview
  obtain ⟨o, k, g, rfl, hΓ, -⟩ := hview
  have hsuspends := hI.suspends t g o hΓ
  cases o with
  | call f m =>
    have hhead : (c.state.facade f).queue.head? = some (t, true) :=
      facade_head hI htask hΓ hfree rfl
    refine ⟨task, _, k, .error (.timeoutError ""), htask, rfl, ?_⟩
    simp only [Entry.wakeOp, Entry.endCall]
    rw [if_pos ⟨hhead, by rintro ⟨⟩⟩]
    rfl
  | disconnect f =>
    have hhead : (c.state.facade f).queue.head? = some (t, false) :=
      facade_head hI htask hΓ hfree rfl
    refine ⟨task, _, k, .ok (), htask, rfl, ?_⟩
    simp only [Entry.wakeOp, Entry.endDisconnect]
    rw [if_pos hhead]
    rfl
  | acquireRefresh s =>
    have hhead := refresh_head hI htask hΓ hfree rfl
    refine ⟨task, _, k, .ok (), htask, rfl, ?_⟩
    simp only [Entry.wakeOp]
    rw [if_pos hhead]
    rfl
  | getKey s force => exact ⟨task, _, k, .error (.cloudError ""), htask, rfl, rfl⟩
  | _ => cases hsuspends

end

section
variable (parse : ParseBroadcast) (serials : List Serial) (nodup : serials.Nodup)
  (keys : Serial → DeviceKey)

theorem run_queued (ls : List (TaskLabel parse)) :
    ∃ Γ, Queued (run parse serials nodup keys ls).state Γ ∧
      Tracks locking (fun _ _ g => g.refresh = none) (run parse serials nodup keys ls) Γ := by
  have hinit : Queued (Entry.init serials nodup keys) fun _ => none := by
    refine ⟨⟨fun f t b => ?_, by rintro _ _ _ ⟨⟩⟩, ⟨fun s t => ?_, fun s => List.nodup_nil⟩,
      by rintro _ _ _ ⟨⟩⟩
    · exact iff_of_false (List.not_mem_nil) (by rintro ⟨_, _, ⟨⟩, _⟩)
    · exact iff_of_false (List.not_mem_nil) (by rintro ⟨_, _, ⟨⟩, _⟩)
  exact (queued_keeps parse).run_inv ⟨_, hinit, Tracks.of_none fun _ => rfl⟩
    (Runs.Steps.of_forall (fun c l => Config.allowed_any _ c l) ls _)

/-- **No deadlock.** In every configuration that an entry can reach, nobody waits in a circle, and
each unfinished task waits, through tasks that hold what the one before asks for, for an unfinished
task that no other holds up, and whose own wait can end without a cancellation. -/
theorem no_deadlock (ls : List (TaskLabel parse)) :
    let c := run parse serials nodup keys ls
    (∀ t, ¬ Relation.TransGen c.HeldUpBy t t) ∧
      ∀ t, (c.tasks t).isSome = true → ∃ t', Relation.ReflTransGen c.HeldUpBy t t' ∧
        (c.tasks t').isSome = true ∧ (∀ t'', ¬ c.HeldUpBy t' t'') ∧ c.CanGoOn t' := by
  intro c
  obtain ⟨Γ, hI, hT⟩ := run_queued parse serials nodup keys ls
  have hrank : ∀ t t', c.HeldUpBy t t' → c.rank t' < c.rank t := fun _ _ => rank_heldUpBy hI hT
  refine ⟨WaitFor.acyclic hrank, fun t ht => ?_⟩
  obtain ⟨t', hchain, hfree⟩ := WaitFor.exists_free hrank t
  have ht' := unfinished_chain hI hT ht hchain
  exact ⟨t', hchain, ht', hfree, canGoOn_of_free hI hT ht' hfree⟩

end

/-- The cloud answers with a key. -/
def keyArrives : (o : Op) → Option o.Res
  | .getKey _ _ => some (.ok ⟨[1], []⟩)
  | _ => none

/-- A command runs, a refresh waits for its facade, and another refresh for that one. -/
def refreshBehindCommand : List (TaskLabel exampleParse) :=
  [.spawn 0 (.request (.lock "L1" true)), .spawn 1 (.request (.refresh "L1" true)),
    .resume 1 keyArrives, .spawn 2 (.request (.refresh "L1" true))]

theorem no_deadlock_refreshBehindCommand :
    let c := run exampleParse ["L1"] (List.nodup_singleton "L1") exampleKeys refreshBehindCommand
    c.HeldUpBy 2 1 ∧ c.HeldUpBy 1 0 ∧ ∃ t', Relation.ReflTransGen c.HeldUpBy 2 t' ∧
      (c.tasks t').isSome = true ∧ (∀ t'', ¬ c.HeldUpBy t' t'') ∧ c.CanGoOn t' :=
  ⟨⟨_, _, _, rfl, rfl, by decide⟩, ⟨_, _, _, rfl, rfl, by decide⟩,
    (no_deadlock exampleParse ["L1"] (List.nodup_singleton "L1") exampleKeys
      refreshBehindCommand).2 2 rfl⟩

end TaskConfig

end DanalockBle
