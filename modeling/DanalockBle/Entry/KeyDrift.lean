import DanalockBle.Broadcast.Availability
import DanalockBle.Entry.Requests

/-!
# The key cache and the facade

A refresh stores the key it fetched, closes the session of the current facade and builds a
facade with the key. The disconnect in the middle is the one place where it can end with the key
stored and the facade not built. If no disconnect of a refresh fails, the facade's login token is
the cached one whenever nobody holds the device's refresh lock, and a refresh that ends without
completing leaves both as it found them. An `Audit` beside the event loop records the latter.
-/

namespace DanalockBle

open Coroutine Coroutine.Coro

/-- Where a task is in a refresh of the device. -/
inductive RefreshPhase where
  | out
  | holding
  | stored (key : DeviceKey)
  | built
  | completed
  deriving DecidableEq, Repr

/-- What a task does of a refresh of the device, and that nothing else it does touches the
device's key, facade or refresh lock. The disconnect does not fail. -/
@[reducible] def refreshing (serial : Serial) : Protocol sig where
  Ghost := RefreshPhase
  may
    | .out, .storeKey s _ => s ≠ serial
    | .out, .buildFacade s _ => s ≠ serial
    | .out, .notifyKey s => s ≠ serial
    | .out, .releaseRefresh s => s ≠ serial
    | .out, _ => True
    | .holding, .getKey _ _ => True
    | .holding, .storeKey s _ => s = serial
    | .holding, .releaseRefresh s => s = serial
    | .stored _, .boundControl s => s = serial
    | .stored _, .lockRef s => s = serial
    | .stored _, .disconnect f => f.serial = serial
    | .stored key, .buildFacade s token => s = serial ∧ token = key.loginBlob
    | .built, .notifyKey s => s = serial
    | .completed, .releaseRefresh s => s = serial
    | _, _ => False
  after
    | .out, .acquireRefresh s, .ok _ => some (if s = serial then .holding else .out)
    | .out, _, _ => some .out
    | .holding, .storeKey _ key, _ => some (.stored key)
    | .holding, .releaseRefresh _, _ => some .out
    | .stored key, .boundControl _, bound => if bound then some (.stored key) else none
    | .stored key, .lockRef s, f => if f.serial = s then some (.stored key) else none
    | .stored key, .disconnect _, .ok _ => some (.stored key)
    | .stored _, .disconnect _, .error _ => none
    | .stored _, .buildFacade _ _, _ => some .built
    | .built, .notifyKey _, _ => some .completed
    | .completed, .releaseRefresh _, _ => some .out
    | g, _, _ => some g

/-- The coroutine is not in a refresh of the device before and after. -/
abbrev Outside {α : Type} (serial : Serial) (c : Py α) : Prop :=
  Restores (refreshing serial) .out c

section
variable {serial : Serial} {α : Type}

theorem Outside.op {o : Op} {k : o.Res → Py α} (hmay : (refreshing serial).may .out o)
    (hafter : ∀ r, (refreshing serial).after .out o r = some .out)
    (hk : ∀ r, Outside serial (k r)) : Outside serial (.op o k : Py α) :=
  Restores.op hmay (fun r g hg => by rw [hafter] at hg; exact (Option.some.inj hg).symm) hk

theorem disconnect_outside (s : Serial) : Outside serial (DanalockControl.disconnect s) :=
  Outside.op trivial (fun _ => rfl) fun _ => Outside.op trivial (fun _ => rfl) Restores.ofResult

theorem attemptCall_outside (s : Serial) (m : Method) :
    Outside serial (DanalockControl.attemptCall s (DanalockControl.body s m)) := by
  refine attemptCall_of_parts s (Restores.compositional (refreshing serial) .out) (fun m => ?_)
    (disconnect_outside s) m
  exact Outside.op trivial (fun _ => rfl) fun _ =>
    Outside.op trivial (fun _ => rfl) Restores.ofResult

/-- A refresh of another device. -/
theorem refresh_outside {s : Serial} (hs : s ≠ serial) (force : Bool) :
    Outside serial (DanalockKeyManager.refresh s force) := by
  have hX := Restores.compositional (ε := PyErr) (refreshing serial) .out
  have hset : ∀ key, Outside serial (DanalockControl.setKey s key) :=
    setKey_of_parts s hX (disconnect_outside s) fun _ =>
      Outside.op hs (fun _ => rfl) Restores.ret
  refine refresh_of_parts s hX ?_ ?_ ?_ ?_ hset ?_ ?_ force
  · refine Restores.op trivial (fun r g hg => ?_) Restores.ofResult
    cases r with
    | ok u => exact ((Option.some.inj hg).symm).trans (if_neg hs)
    | error e => exact (Option.some.inj hg).symm
  · exact fun _ => Outside.op trivial (fun _ => rfl) Restores.ofResult
  · exact fun _ => Outside.op hs (fun _ => rfl) Restores.ret
  · exact Outside.op trivial (fun _ => rfl) Restores.ret
  · exact Outside.op hs (fun _ => rfl) Restores.ret
  · exact Outside.op hs (fun _ => rfl) Restores.ret

/-- The key swap of a refresh: it ends with the facade built. -/
theorem setKey_stored (key : DeviceKey) :
    Meets (refreshing serial) (.stored key) (DanalockControl.setKey serial key) fun r g =>
      r = .ok () ∧ g = .built := by
  refine ⟨rfl, fun f g hg => ?_⟩
  simp only at hg
  split at hg
  · next hf =>
    obtain rfl := Option.some.inj hg
    refine ⟨hf, fun r g hg => ?_⟩
    cases r with
    | ok u =>
      obtain rfl := Option.some.inj hg
      refine ⟨⟨rfl, rfl⟩, fun _ g hg => ?_⟩
      obtain rfl := Option.some.inj hg
      exact ⟨rfl, rfl⟩
    | error e => cases hg
  · cases hg

/-- What a refresh does under its lock: nothing, when the fetch fails, or all of it. -/
theorem refresh_holding (force : Bool) :
    Meets (refreshing serial) .holding (do
      let key ← Py.getKey serial force
      Py.storeKey serial key
      let bound ← Py.boundControl serial
      if bound then DanalockControl.setKey serial key
      Py.notifyKey serial
      return key : Py DeviceKey) fun _ g => g = .holding ∨ g = .completed := by
  refine ⟨trivial, fun r g hg => ?_⟩
  obtain rfl := Option.some.inj hg
  cases r with
  | error e => exact .inl rfl
  | ok key =>
    refine ⟨rfl, fun _ g hg => ?_⟩
    obtain rfl := Option.some.inj hg
    refine ⟨rfl, fun bound g hg => ?_⟩
    cases bound with
    | false => cases hg
    | true =>
      obtain rfl := Option.some.inj hg
      show Meets (refreshing serial) (.stored key)
        (Coro.bind (DanalockControl.setKey serial key) _) _
      refine Meets.bind ((setKey_stored key).mono fun r g h => ?_)
      obtain ⟨rfl, rfl⟩ := h
      refine ⟨rfl, fun _ g hg => ?_⟩
      obtain rfl := Option.some.inj hg
      exact .inr rfl

/-- **A refresh takes its lock, does nothing or everything, and gives the lock back.** -/
theorem refresh_outside_self (force : Bool) :
    Outside serial (DanalockKeyManager.refresh serial force) := by
  refine ⟨trivial, fun r g hg => ?_⟩
  cases r with
  | error e => exact (Option.some.inj hg).symm
  | ok u =>
    have hg : g = .holding := ((Option.some.inj hg).symm).trans (if_pos rfl)
    subst hg
    refine Meets.tryFinally ((refresh_holding force).mono fun r g h => ?_)
    rcases h with rfl | rfl
    · refine ⟨rfl, fun _ g hg => ?_⟩
      exact (Option.some.inj hg).symm
    · refine ⟨rfl, fun _ g hg => ?_⟩
      exact (Option.some.inj hg).symm

theorem refreshing_parts : Parts (refreshing serial) .out where
  may o ho := by cases o <;> trivial
  after o r g' ho hr := by cases o <;> first | (cases hr; rfl) | cases ho
  refresh s force := by
    by_cases hs : s = serial
    · subst hs
      exact refresh_outside_self force
    · exact refresh_outside hs force
  attempt s m := attemptCall_outside s m
  disconnect s := disconnect_outside s

end

/-! ## The audit -/

/-- What a refresh writes: the cache entry, the facade and its login token. -/
abbrev Snapshot := DeviceKey × FacadeRef × Bytes

def Entry.snapshot (e : Entry) (serial : Serial) : Snapshot :=
  (e.monitor.keys serial, e.current serial, (e.facade (e.current serial)).loginToken)

/-- A record of the device's refreshes: what the one that holds the lock found and whether it has
notified the listeners, and of each that gave the lock back without, what it found and left. -/
structure Audit where
  found : Option Snapshot := none
  completed : Bool := false
  abandoned : List (Snapshot × Snapshot) := []

namespace Audit

def see (serial : Serial) (_ : TaskId) : (o : Op) → o.Res → Entry → Audit → Audit
  | .acquireRefresh s, .ok _, e, a =>
    if s = serial then { a with found := some (e.snapshot serial), completed := false } else a
  | .notifyKey s, _, _, a => if s = serial then { a with completed := true } else a
  | .releaseRefresh s, _, e, a =>
    if s = serial ∧ a.completed = false then
      { a with abandoned := a.abandoned ++ (a.found.map (·, e.snapshot serial)).toList }
    else a
  | _, _, _, a => a

end Audit

/-- The event loop of a config entry with the audit of one device. -/
@[reducible] def auditMachine (parse : ParseBroadcast) (serial : Serial) : Machine sig :=
  (entryMachine parse).observed (Audit.see serial)

/-- The facade is not swapped but by refreshes. -/
def Request.refreshesKeys : Request → Bool
  | setKey _ _ => false
  | _ => true

/-- The disconnect of a key swap, which the task that has the device's refresh lock waits for,
does not fail. -/
def swapSucceeds (serial : Serial) (t : TaskId) (e : Entry) : (o : Op) → o.Res → Bool
  | .disconnect f, r =>
    f.serial != serial || (e.refreshQueue serial).head? != some t || r.isOk
  | _, _ => true

/-- Any end of any operation. -/
def refreshGuard (parse : ParseBroadcast) (serial : Serial) :
    Guard (auditMachine parse serial) Request where
  spawn := Request.refreshesKeys
  op _ _ _ _ := true

/-- No key swap of the device is interrupted. -/
def uninterrupted (parse : ParseBroadcast) (serial : Serial) :
    Guard (auditMachine parse serial) Request where
  spawn := Request.refreshesKeys
  op t o r s := swapSucceeds serial t s.1 o r

/-! ## The invariant -/

/-- What holds when the task is in the phase and no other task in a refresh of the device. -/
structure InPhase (serial : Serial) (s : Entry × Audit) (t : TaskId) (g : RefreshPhase) :
    Prop where
  holder : g ≠ .out → (s.1.refreshQueue serial).head? = some t
  agree : (∀ key, g ≠ .stored key) →
    (s.1.facade (s.1.current serial)).loginToken = (s.1.monitor.keys serial).loginBlob
  stored : ∀ key, g = .stored key → s.1.monitor.keys serial = key
  found : g = .holding → s.2.found = some (s.1.snapshot serial) ∧ s.2.completed = false
  completed : g = .completed → s.2.completed = true

/-- At most one task is in a refresh of the device, and what was abandoned was left as found. -/
structure Synced (serial : Serial) (s : Entry × Audit) (phases : TaskId → RefreshPhase) :
    Prop where
  bound : serial ∈ s.1.monitor.serials
  abandoned : ∀ p ∈ s.2.abandoned, p.1 = p.2
  alone : ∃ t, (∀ t', t' ≠ t → phases t' = .out) ∧ InPhase serial s t (phases t)

section
variable {serial : Serial} {s s' : Entry × Audit} {phases : TaskId → RefreshPhase} {t : TaskId}

theorem InPhase.frame {g : RefreshPhase} (h : InPhase serial s t g)
    (hsnapshot : s'.1.snapshot serial = s.1.snapshot serial)
    (hhead : g ≠ .out → (s.1.refreshQueue serial).head? = some t →
      (s'.1.refreshQueue serial).head? = some t) (haudit : s'.2 = s.2) :
    InPhase serial s' t g := by
  obtain ⟨hkeys, hrest⟩ := Prod.mk.inj hsnapshot
  obtain ⟨hcurrent, htoken⟩ := Prod.mk.inj hrest
  refine ⟨fun hg => hhead hg (h.holder hg), fun hg => ?_, fun key hg => ?_, fun hg => ?_,
    fun hg => ?_⟩
  · rw [htoken, hkeys]
    exact h.agree hg
  · rw [hkeys]
    exact h.stored key hg
  · rw [haudit, hsnapshot]
    exact h.found hg
  · rw [haudit]
    exact h.completed hg

/-- A task in a refresh of the device is the only one. -/
theorem Synced.only (h : Synced serial s phases) (ht : phases t ≠ .out) :
    (∀ t', t' ≠ t → phases t' = .out) ∧ InPhase serial s t (phases t) := by
  obtain ⟨t₀, hothers, hin⟩ := h.alone
  by_cases hne : t = t₀
  · subst hne
    exact ⟨hothers, hin⟩
  · exact absurd (hothers t hne) ht

/-- No task is in a refresh of the device when a task outside may take its lock. -/
theorem Synced.nobody (h : Synced serial s phases) (ht : phases t = .out)
    (hhead : ∀ t', (s.1.refreshQueue serial).head? = some t' → t' = t) :
    (∀ t', phases t' = .out) ∧ InPhase serial s t .out := by
  obtain ⟨t₀, hothers, hin⟩ := h.alone
  have hout : phases t₀ = .out := by
    by_contra hne
    have htt := hhead t₀ (hin.holder hne)
    exact hne (htt ▸ ht)
  refine ⟨fun t' => ?_, ?_⟩
  · by_cases hne : t' = t₀
    · rw [hne]
      exact hout
    · exact hothers t' hne
  · rw [hout] at hin
    exact ⟨fun hne => absurd rfl hne, hin.agree, nofun, nofun, nofun⟩

/-- The task goes on to another phase. -/
theorem Synced.move (hothers : ∀ t', t' ≠ t → phases t' = .out) {g : RefreshPhase}
    (hbound : serial ∈ s'.1.monitor.serials) (habandoned : ∀ p ∈ s'.2.abandoned, p.1 = p.2)
    (hin : InPhase serial s' t g) : Synced serial s' (Function.update phases t g) where
  bound := hbound
  abandoned := habandoned
  alone := by
    refine ⟨t, fun t' hne => ?_, ?_⟩
    · rw [Function.update_of_ne hne]
      exact hothers t' hne
    · rw [Function.update_self]
      exact hin

/-- A step that touches none of it. -/
theorem Synced.frame (h : Synced serial s phases)
    (hserials : s'.1.monitor.serials = s.1.monitor.serials)
    (hsnapshot : s'.1.snapshot serial = s.1.snapshot serial)
    (hhead : ∀ t', phases t' ≠ .out → (s.1.refreshQueue serial).head? = some t' →
      (s'.1.refreshQueue serial).head? = some t') (haudit : s'.2 = s.2) :
    Synced serial s' phases where
  bound := hserials ▸ h.bound
  abandoned := haudit ▸ h.abandoned
  alone := by
    obtain ⟨t₀, hothers, hin⟩ := h.alone
    exact ⟨t₀, hothers, hin.frame hsnapshot (hhead t₀) haudit⟩

/-! ## Steps -/

/-- The operation writes the device's key, facade or refresh lock, or completes a refresh. -/
def Op.concerns (serial : Serial) : Op → Bool
  | buildFacade s _ => s == serial
  | acquireRefresh s => s == serial
  | releaseRefresh s => s == serial
  | storeKey s _ => s == serial
  | notifyKey s => s == serial
  | _ => false

variable {e e' : Entry} {a : Audit}

theorem see_frame {o : Op} (ho : o.concerns serial = false) (t : TaskId) (r : o.Res) (e : Entry)
    (a : Audit) : Audit.see serial t o r e a = a := by
  cases o with
  | acquireRefresh s =>
    have hs : s ≠ serial := by simpa [Op.concerns] using ho
    cases r with
    | ok u => exact if_neg hs
    | error err => rfl
  | releaseRefresh s =>
    have hs : s ≠ serial := by simpa [Op.concerns] using ho
    exact if_neg fun h => hs h.1
  | notifyKey s =>
    have hs : s ≠ serial := by simpa [Op.concerns] using ho
    exact if_neg hs
  | _ => rfl

theorem runOp_serials {o : Op} {r : o.Res} (h : e.runOp t o = some (r, e')) :
    e'.monitor.serials = e.monitor.serials := by
  rw [Entry.runOp_monitor h]
  cases o <;> rfl

theorem runOp_frame {o : Op} {r : o.Res} (h : e.runOp t o = some (r, e'))
    (ho : o.concerns serial = false) :
    e'.snapshot serial = e.snapshot serial ∧
      e'.refreshQueue serial = e.refreshQueue serial := by
  have hkeys : e'.monitor.keys serial = e.monitor.keys serial := by
    rw [Entry.runOp_monitor h]
    cases o with
    | storeKey s key =>
      have hs : s ≠ serial := by simpa [Op.concerns] using ho
      exact Function.update_of_ne hs.symm _ _
    | _ => rfl
  have hcurrent : e'.current serial = e.current serial := by
    have hc := Entry.runOp_current serial h
    cases o with
    | buildFacade s token =>
      have hs : s ≠ serial := by simpa [Op.concerns] using ho
      exact hc.trans (if_neg hs.symm)
    | _ => exact hc
  have hfacade : e'.facade (e.current serial) = e.facade (e.current serial) := by
    have hf := Entry.runOp_facade (e.current serial) h
    cases o with
    | buildFacade s token =>
      have hs : s ≠ serial := by simpa [Op.concerns] using ho
      exact hf.trans (if_neg fun heq => hs (congrArg FacadeRef.serial heq).symm)
    | _ => exact hf
  have hqueue : e'.refreshQueue serial = e.refreshQueue serial := by
    have hq := Entry.runOp_refreshQueue serial h
    cases o with
    | acquireRefresh s =>
      have hs : s ≠ serial := by simpa [Op.concerns] using ho
      exact hq.trans (if_neg hs.symm)
    | releaseRefresh s =>
      have hs : s ≠ serial := by simpa [Op.concerns] using ho
      exact hq.trans (if_neg hs.symm)
    | _ => exact hq
  refine ⟨?_, hqueue⟩
  unfold Entry.snapshot
  rw [hkeys, hcurrent, hfacade]

theorem snapshot_setRefreshQueue (e : Entry) (q : List TaskId) :
    (e.setRefreshQueue serial q).snapshot serial = e.snapshot serial := by
  unfold Entry.snapshot
  rw [Entry.current_setRefreshQueue, Entry.facade_setRefreshQueue]
  rfl

/-- The task has the lock, and finds the key and the facade in agreement. -/
theorem InPhase.enter (h : InPhase serial (e, a) t .out)
    (hsnapshot : e'.snapshot serial = e.snapshot serial)
    (hhead : (e'.refreshQueue serial).head? = some t) :
    InPhase serial (e', { a with found := some (e.snapshot serial), completed := false }) t
      .holding := by
  have hframe : InPhase serial (e', a) t .out :=
    h.frame hsnapshot (fun hne => absurd rfl hne) rfl
  refine ⟨fun _ => hhead, fun _ => hframe.agree nofun, nofun, fun _ => ⟨?_, rfl⟩, nofun⟩
  show some (e.snapshot serial) = some (e'.snapshot serial)
  rw [hsnapshot]

/-- Out of a refresh only the agreement matters. -/
theorem InPhase.leave {g : RefreshPhase} (h : InPhase serial (e, a) t g)
    (hg : ∀ key, g ≠ .stored key) (hsnapshot : e'.snapshot serial = e.snapshot serial)
    (a' : Audit) : InPhase serial (e', a') t .out := by
  obtain ⟨hkeys, hrest⟩ := Prod.mk.inj hsnapshot
  obtain ⟨-, htoken⟩ := Prod.mk.inj hrest
  refine ⟨fun hne => absurd rfl hne, fun _ => ?_, nofun, nofun, nofun⟩
  rw [htoken, hkeys]
  exact h.agree hg

theorem update_out (phases : TaskId → RefreshPhase) {t : TaskId} (ht : phases t = .out) :
    Function.update phases t .out = phases := by
  rw [← ht, Function.update_eq_self]

/-- The task goes on as its protocol says, with the invariant kept. -/
abbrev GoesOn (serial : Serial) (phases : TaskId → RefreshPhase) (t : TaskId) (o : Op)
    (r : o.Res) (e e' : Entry) (a : Audit) : Prop :=
  ∃ g, (refreshing serial).after (phases t) o r = some g ∧
    Synced serial (e', Audit.see serial t o r e a) (Function.update phases t g)

/-- The refresh lock is free, so nobody is in a refresh of the device. -/
theorem Synced.runAcquire (h : Synced serial (e, a) phases) (hg : phases t = .out)
    {r : Except PyErr Unit} (hr : e.runOp t (.acquireRefresh serial) = some (r, e')) :
    GoesOn serial phases t (.acquireRefresh serial) r e e' a := by
  have hbound : serial ∈ e'.monitor.serials := runOp_serials hr ▸ h.bound
  obtain ⟨rfl, hempty⟩ := Entry.runOp_acquire hr
  obtain ⟨hothers, hin⟩ := h.nobody hg fun t' ht' => by
    rw [hempty] at ht'
    cases ht'
  have he : e' = e.setRefreshQueue serial [t] := by
    simp only [Entry.runOp, hempty, if_true, Option.some.injEq, Prod.mk.injEq] at hr
    exact hr.2.symm
  refine ⟨.holding, by simp [hg], Synced.move (fun t' _ => hothers t') hbound ?_ ?_⟩
  · simp only [Audit.see, if_true]
    exact h.abandoned
  · simp only [Audit.see, if_true]
    refine hin.enter (he ▸ snapshot_setRefreshQueue e _) ?_
    rw [he, Entry.refreshQueue_setRefreshQueue, if_pos rfl]
    rfl

/-- Outside, a task does not touch the device's key, facade or lock otherwise. -/
theorem out_concerns {o : Op} (hmay : (refreshing serial).may .out o)
    (hacquire : o ≠ .acquireRefresh serial) : o.concerns serial = false := by
  cases o with
  | acquireRefresh s => simpa [Op.concerns] using fun hs : s = serial => hacquire (by rw [hs])
  | buildFacade s token => simpa [Op.concerns] using hmay
  | releaseRefresh s => simpa [Op.concerns] using hmay
  | storeKey s key => simpa [Op.concerns] using hmay
  | notifyKey s => simpa [Op.concerns] using hmay
  | _ => rfl

theorem out_after {o : Op} (ho : o.concerns serial = false) (r : o.Res) :
    (refreshing serial).after .out o r = some .out := by
  cases o with
  | acquireRefresh s =>
    have hs : s ≠ serial := by simpa [Op.concerns] using ho
    cases r with
    | ok u => simp [hs]
    | error err => rfl
  | _ => rfl

theorem Synced.runOut (h : Synced serial (e, a) phases) (hg : phases t = .out) {o : Op} {r : o.Res}
    (hmay : (refreshing serial).may .out o) (hr : e.runOp t o = some (r, e')) :
    GoesOn serial phases t o r e e' a := by
  by_cases hacquire : o = .acquireRefresh serial
  · subst hacquire
    exact h.runAcquire hg hr
  · have ho := out_concerns hmay hacquire
    obtain ⟨hsnapshot, hqueue⟩ := runOp_frame hr ho
    refine ⟨.out, by rw [hg]; exact out_after ho r, ?_⟩
    rw [update_out phases hg, see_frame ho]
    exact h.frame (runOp_serials hr) hsnapshot
      (fun t' _ ht' => by rw [← hqueue] at ht'; exact ht') rfl

/-- The task that has the lock stores the key, or gives the lock back with nothing changed. -/
theorem Synced.runHolding (h : Synced serial (e, a) phases) (hg : phases t = .holding) {o : Op}
    {r : o.Res} (hmay : (refreshing serial).may .holding o) (hr : e.runOp t o = some (r, e')) :
    GoesOn serial phases t o r e e' a := by
  have hbound : serial ∈ e'.monitor.serials := runOp_serials hr ▸ h.bound
  obtain ⟨hothers, hin⟩ := h.only (t := t) (by rw [hg]; exact nofun)
  unfold GoesOn
  rw [hg] at hin ⊢
  cases o with
  | storeKey s key =>
    obtain rfl : s = serial := hmay
    refine ⟨.stored key, rfl, Synced.move hothers hbound h.abandoned ?_⟩
    have hqueue := Entry.runOp_refreshQueue s hr
    refine ⟨fun _ => hqueue ▸ hin.holder nofun, fun hne => absurd rfl (hne key), ?_, nofun, nofun⟩
    rintro key' hkey
    obtain rfl : key = key' := by simpa using hkey
    rw [Entry.runOp_monitor hr]
    exact Function.update_self ..
  | releaseRefresh s =>
    obtain rfl : s = serial := hmay
    obtain ⟨hfound, hcompleted⟩ := hin.found rfl
    have he : e' = e.setRefreshQueue s ((e.refreshQueue s).erase t) := by
      cases hr
      rfl
    refine ⟨.out, rfl, Synced.move hothers hbound ?_
      (hin.leave nofun (he ▸ snapshot_setRefreshQueue e _) _)⟩
    intro p hp
    simp only at hfound hcompleted
    simp only [Audit.see, hcompleted, hfound, and_self, if_true, Option.map_some,
      Option.toList_some, List.mem_append, List.mem_singleton] at hp
    rcases hp with hp | rfl
    · exact h.abandoned p hp
    · rfl
  | getKey s force => cases hr
  | _ => cases hmay

/-- The stored key becomes the facade's. -/
theorem Synced.runStored (h : Synced serial (e, a) phases) {key : DeviceKey}
    (hg : phases t = .stored key) {o : Op} {r : o.Res}
    (hmay : (refreshing serial).may (.stored key) o) (hr : e.runOp t o = some (r, e')) :
    GoesOn serial phases t o r e e' a := by
  have hbound : serial ∈ e'.monitor.serials := runOp_serials hr ▸ h.bound
  obtain ⟨hothers, hin⟩ := h.only (t := t) (by rw [hg]; exact nofun)
  have hself : Function.update phases t (.stored key) = phases := by
    rw [← hg, Function.update_eq_self]
  unfold GoesOn
  rw [hg] at hin ⊢
  cases o with
  | boundControl s =>
    obtain rfl : s = serial := hmay
    cases hr
    refine ⟨.stored key, if_pos (by simpa using h.bound), ?_⟩
    rw [hself]
    exact h
  | lockRef s =>
    cases hr
    refine ⟨.stored key, if_pos rfl, ?_⟩
    rw [hself]
    exact h
  | buildFacade s token =>
    obtain ⟨rfl, rfl⟩ := hmay
    have hqueue := Entry.runOp_refreshQueue s hr
    have hkeys : e'.monitor.keys s = key := by
      rw [Entry.runOp_monitor hr]
      exact hin.stored key rfl
    have htoken : (e'.facade (e'.current s)).loginToken = key.loginBlob := by
      cases hr
      rw [Entry.current_buildFacade, if_pos rfl, Entry.facade_buildFacade, if_pos rfl]
    refine ⟨.built, rfl, Synced.move hothers hbound h.abandoned
      ⟨fun _ => hqueue ▸ hin.holder nofun, fun _ => ?_, nofun, nofun, nofun⟩⟩
    rw [htoken, hkeys]
  | disconnect f => cases hr
  | _ => cases hmay

/-- The refresh notifies its listeners, and is complete. -/
theorem Synced.runBuilt (h : Synced serial (e, a) phases) (hg : phases t = .built) {o : Op}
    {r : o.Res} (hmay : (refreshing serial).may .built o) (hr : e.runOp t o = some (r, e')) :
    GoesOn serial phases t o r e e' a := by
  have hbound : serial ∈ e'.monitor.serials := runOp_serials hr ▸ h.bound
  obtain ⟨hothers, hin⟩ := h.only (t := t) (by rw [hg]; exact nofun)
  unfold GoesOn
  rw [hg] at hin ⊢
  cases o with
  | notifyKey s =>
    obtain rfl : s = serial := hmay
    cases hr
    refine ⟨.completed, rfl, Synced.move hothers hbound ?_ ?_⟩
    · simp only [Audit.see, if_true]
      exact h.abandoned
    · refine ⟨fun _ => hin.holder nofun, fun _ => hin.agree nofun, nofun, nofun, fun _ => ?_⟩
      simp only [Audit.see, if_true]
  | _ => cases hmay

theorem Synced.runCompleted (h : Synced serial (e, a) phases) (hg : phases t = .completed) {o : Op}
    {r : o.Res} (hmay : (refreshing serial).may .completed o) (hr : e.runOp t o = some (r, e')) :
    GoesOn serial phases t o r e e' a := by
  have hbound : serial ∈ e'.monitor.serials := runOp_serials hr ▸ h.bound
  obtain ⟨hothers, hin⟩ := h.only (t := t) (by rw [hg]; exact nofun)
  unfold GoesOn
  rw [hg] at hin ⊢
  cases o with
  | releaseRefresh s =>
    obtain rfl : s = serial := hmay
    have he : e' = e.setRefreshQueue s ((e.refreshQueue s).erase t) := by
      cases hr
      rfl
    refine ⟨.out, rfl, Synced.move hothers hbound ?_
      (hin.leave nofun (he ▸ snapshot_setRefreshQueue e _) _)⟩
    have hcompleted : a.completed = true := hin.completed rfl
    simp only [Audit.see, hcompleted, Bool.true_eq_false, and_false, if_false]
    exact h.abandoned
  | _ => cases hmay

theorem Synced.run (h : Synced serial (e, a) phases) {o : Op} {r : o.Res}
    (hmay : (refreshing serial).may (phases t) o) (hr : e.runOp t o = some (r, e')) :
    GoesOn serial phases t o r e e' a := by
  cases hg : phases t with
  | out => exact h.runOut hg (hg ▸ hmay) hr
  | holding => exact h.runHolding hg (hg ▸ hmay) hr
  | stored key => exact h.runStored hg (hg ▸ hmay) hr
  | built => exact h.runBuilt hg (hg ▸ hmay) hr
  | completed => exact h.runCompleted hg (hg ▸ hmay) hr

theorem Synced.park (h : Synced serial (e, a) phases) {o : Op} (hr : e.runOp t o = none) :
    Synced serial (e.parkOp t o, a) phases := by
  refine h.frame (by rw [Entry.parkOp_monitor]) ?_ (fun t' _ ht' => ?_) rfl
  · simp only [Entry.snapshot, Entry.parkOp_monitor, Entry.parkOp_current, Entry.loginToken_parkOp]
  · have hq := Entry.parkOp_refreshQueue e t o serial
    cases o with
    | acquireRefresh s =>
      simp only at hq ht' ⊢
      rw [hq]
      split
      · rw [List.head?_append, ht']
        rfl
      · exact ht'
    | _ => exact hq ▸ ht'

theorem head?_erase {l : List TaskId} {t t' : TaskId} (h : l.head? = some t') (hne : t' ≠ t) :
    (l.erase t).head? = some t' := by
  cases l with
  | nil => cases h
  | cons x l =>
    obtain rfl : x = t' := by simpa using h
    rw [List.erase_cons_tail (by simpa using hne)]
    rfl

theorem wakeOp_snapshot (serial : Serial) {o : Op} {r : o.Res} (hw : e.wakeOp t o r = some e') :
    e'.monitor.serials = e.monitor.serials ∧ e'.snapshot serial = e.snapshot serial := by
  have hmonitor := Entry.wakeOp_monitor hw
  refine ⟨by rw [hmonitor], ?_⟩
  simp only [Entry.snapshot, hmonitor, Entry.wakeOp_current hw, Entry.wakeOp_loginToken hw]

/-- The wait for the refresh lock ends with the lock, or in a cancellation. -/
theorem Synced.wakeAcquire (h : Synced serial (e, a) phases) (hg : phases t = .out)
    {r : Except PyErr Unit} (hw : e.wakeOp t (.acquireRefresh serial) r = some e') :
    GoesOn serial phases t (.acquireRefresh serial) r e e' a := by
  obtain ⟨hserials, hsnapshot⟩ := wakeOp_snapshot serial hw
  unfold GoesOn
  rw [hg]
  rcases Entry.wakeOp_acquire hw with ⟨rfl, hhead, rfl⟩ | ⟨rfl, rfl⟩
  · obtain ⟨hothers, hin⟩ := h.nobody hg fun t' ht' => by
      rw [hhead] at ht'
      exact (Option.some.inj ht').symm
    refine ⟨.holding, by simp, Synced.move (fun t' _ => hothers t') h.bound ?_ ?_⟩
    · simp only [Audit.see, if_true]
      exact h.abandoned
    · simp only [Audit.see, if_true]
      exact hin.enter rfl hhead
  · refine ⟨.out, rfl, ?_⟩
    rw [update_out phases hg]
    refine h.frame hserials hsnapshot (fun t' ht' hhead => ?_) rfl
    have hne : t' ≠ t := fun hne => ht' (hne ▸ hg)
    simp only [Entry.refreshQueue_setRefreshQueue, if_true]
    exact head?_erase hhead hne

theorem wakeOp_concerns {o : Op} {r : o.Res} (hw : e.wakeOp t o r = some e')
    (hacquire : o ≠ .acquireRefresh serial) : o.concerns serial = false := by
  cases o with
  | acquireRefresh s => simpa [Op.concerns] using fun hs : s = serial => hacquire (by rw [hs])
  | call f m => rfl
  | disconnect f => rfl
  | getKey s force => rfl
  | _ => cases hw

/-- A task that does not wait for the refresh lock stays in its phase, as the disconnect of a key
swap does not fail. -/
theorem Synced.after_wake (h : Synced serial (e, a) phases) {o : Op} {r : o.Res}
    (hmay : (refreshing serial).may (phases t) o) (hw : e.wakeOp t o r = some e')
    (hacquire : o ≠ .acquireRefresh serial) (hG : swapSucceeds serial t e o r = true) :
    (refreshing serial).after (phases t) o r = some (phases t) := by
  cases hg : phases t with
  | out => exact out_after (wakeOp_concerns hw hacquire) r
  | holding =>
    rw [hg] at hmay
    cases o with
    | getKey s force => rfl
    | storeKey s key => cases hw
    | releaseRefresh s => cases hw
    | _ => cases hmay
  | stored key =>
    obtain ⟨-, hin⟩ := h.only (t := t) (by rw [hg]; exact nofun)
    have hhead := hin.holder (by rw [hg]; exact nofun)
    rw [hg] at hmay
    cases o with
    | disconnect f =>
      have hf : f.serial = serial := hmay
      have hok : r.isOk = true := by simpa [swapSucceeds, hf, hhead] using hG
      cases r with
      | ok u => rfl
      | error err => cases hok
    | boundControl s => cases hw
    | lockRef s => cases hw
    | buildFacade s token => cases hw
    | _ => cases hmay
  | built =>
    rw [hg] at hmay
    cases o <;> first | (cases hmay; done) | cases hw
  | completed =>
    rw [hg] at hmay
    cases o <;> first | (cases hmay; done) | cases hw

theorem Synced.wake (h : Synced serial (e, a) phases) {o : Op} {r : o.Res}
    (hmay : (refreshing serial).may (phases t) o) (hw : e.wakeOp t o r = some e')
    (hG : swapSucceeds serial t e o r = true) : GoesOn serial phases t o r e e' a := by
  by_cases hacquire : o = .acquireRefresh serial
  · subst hacquire
    have hg : phases t = .out := by
      cases hg : phases t with
      | out => rfl
      | _ => rw [hg] at hmay; cases hmay
    exact h.wakeAcquire hg hw
  · obtain ⟨hserials, hsnapshot⟩ := wakeOp_snapshot serial hw
    have hqueue := Entry.wakeOp_refreshQueue hw serial hacquire
    refine ⟨_, h.after_wake hmay hw hacquire hG, ?_⟩
    rw [Function.update_eq_self, see_frame (wakeOp_concerns hw hacquire)]
    exact h.frame hserials hsnapshot (fun t' _ ht' => by rw [← hqueue] at ht'; exact ht') rfl

theorem Synced.env {parse : ParseBroadcast} (h : Synced serial (e, a) phases) {ev : EnvEvent}
    (he : e.envStep parse ev = some e') : Synced serial (e', a) phases := by
  have hconfig : e'.monitor.config = e.monitor.config := by
    rcases Entry.envStep_monitor he with hm | ⟨ev, hown, hm⟩
    · rw [hm]
    · rw [hm, Monitor.config_step]
      cases hev : ev.event with
      | storeKey s key => rw [hev] at hown; cases hown
      | _ => rfl
  obtain ⟨hserials, hkeys⟩ := Prod.mk.inj hconfig
  refine h.frame hserials ?_ (fun t' _ ht' => ?_) rfl
  · simp only [Entry.snapshot, hkeys, Entry.envStep_current he, Entry.envStep_loginToken he]
  · rw [← Entry.envStep_refreshQueue he] at ht'
    exact ht'

end

/-! ## Runs -/

/-- The phase of a task; a task that is not there is in none. -/
def phaseOf (p : Option (RefreshPhase × Option Op)) : RefreshPhase :=
  match p with
  | some (g, _) => g
  | none => .out

theorem phaseOf_update {serial : Serial} (Γ : View (refreshing serial)) (t : TaskId)
    (p : Option (RefreshPhase × Option Op)) :
    (fun t' => phaseOf (Function.update Γ t p t')) =
      Function.update (fun t' => phaseOf (Γ t')) t (phaseOf p) :=
  Function.comp_update phaseOf Γ t p

theorem synced_keeps (parse : ParseBroadcast) (serial : Serial) :
    Keeps Request.prog (uninterrupted parse serial) (refreshing serial) (fun _ => .out)
      (fun _ _ g => g = .out) fun s Γ => Synced serial s fun t => phaseOf (Γ t) where
  meets req hspawn := refreshing_parts.prog req fun s key hreq => by
    rw [hreq] at hspawn
    cases hspawn
  spawn s Γ t req hI hΓ _ := by
    rw [phaseOf_update]
    exact (update_out (fun t' => phaseOf (Γ t')) (by rw [hΓ]; rfl)).symm ▸ hI
  run s Γ t g o r s' hI hΓ _ hmay hr _ := by
    obtain ⟨⟨r', e'⟩, hrun, heq⟩ := Option.map_eq_some_iff.mp hr
    obtain ⟨rfl, rfl⟩ := Prod.mk.inj heq
    have hg : phaseOf (Γ t) = g := by rw [hΓ]; rfl
    rw [← hg] at hmay ⊢
    obtain ⟨g', hafter, hI'⟩ := hI.run hmay hrun
    exact ⟨g', hafter, by rw [phaseOf_update]; exact hI'⟩
  park s Γ t g o hI hΓ _ hr := by
    have hr : s.1.runOp t o = none := Option.map_eq_none_iff.mp hr
    have hg : phaseOf (Γ t) = phaseOf (some (g, some o)) := by rw [hΓ]; rfl
    rw [phaseOf_update, ← hg, Function.update_eq_self t (fun t' => phaseOf (Γ t'))]
    exact hI.park hr
  wake s Γ t g o r s' hI hΓ hmay hw hG := by
    obtain ⟨e', hwake, rfl⟩ := Option.map_eq_some_iff.mp hw
    have hg : phaseOf (Γ t) = g := by rw [hΓ]; rfl
    rw [← hg] at hmay ⊢
    obtain ⟨g', hafter, hI'⟩ := hI.wake hmay hwake hG
    exact ⟨g', hafter, by rw [phaseOf_update]; exact hI'⟩
  finish s Γ t req r g hI hΓ hg := by
    rw [phaseOf_update]
    exact (update_out (fun t' => phaseOf (Γ t')) (by rw [hΓ, hg]; rfl)).symm ▸ hI
  env s Γ ev s' hI he := by
    obtain ⟨e', henv, rfl⟩ := Option.map_eq_some_iff.mp he
    exact hI.env henv

section
variable (parse : ParseBroadcast) (serials : List Serial) (nodup : serials.Nodup)
  (keys : Serial → DeviceKey) (serial : Serial)

/-- The configuration of a new entry with its audit after a run. -/
def auditRun (ls : List (Label (auditMachine parse serial) Request)) :
    Config (auditMachine parse serial) PyErr Unit Request :=
  Runs.exec (Config.step Request.prog)
    { state := (.init serials nodup keys, {}), tasks := fun _ => none } ls

/-- The audit watches the entry's own run. -/
theorem auditRun_unobserved (ls : List (Label (auditMachine parse serial) Request)) :
    (auditRun parse serials nodup keys serial ls).unobserved =
      EntryConfig.run parse serials nodup keys (ls.map Label.unobserved) :=
  Config.exec_unobserved Request.prog _ ls

/-- Out of refreshes the facade has the cached login token, and every refresh that has given up
its lock without completing left the cache entry and the facade as it found them. -/
def NoDrift (e : Entry) (a : Audit) : Prop :=
  (e.refreshQueue serial = [] →
      (e.facade (e.current serial)).loginToken = (e.monitor.keys serial).loginBlob) ∧
    ∀ p ∈ a.abandoned, p.1 = p.2

/-- **Key cache and facade do not drift apart** in a run in which no key swap of the device is
interrupted. -/
theorem noDrift_run (hserial : serial ∈ serials)
    (ls : List (Label (auditMachine parse serial) Request))
    (hswaps : Runs.Steps (Config.step Request.prog)
      (fun c l => Config.allowed Request.prog (uninterrupted parse serial) c l = true)
      { state := (.init serials nodup keys, {}), tasks := fun _ => none } ls) :
    NoDrift serial (EntryConfig.run parse serials nodup keys (ls.map Label.unobserved)).state
      (auditRun parse serials nodup keys serial ls).state.2 := by
  have hinit : Synced serial (Entry.init serials nodup keys, ({} : Audit))
      fun t => phaseOf ((fun _ => none : View (refreshing serial)) t) :=
    ⟨hserial, nofun, 0, fun _ _ => rfl,
      ⟨fun hne => absurd rfl hne, fun _ => rfl, nofun, nofun, nofun⟩⟩
  obtain ⟨Γ, hI, -⟩ := (synced_keeps parse serial).run_inv
    ⟨fun _ => none, hinit, Tracks.of_none fun _ => rfl⟩ hswaps
  rw [← auditRun_unobserved]
  refine ⟨fun hempty => ?_, hI.abandoned⟩
  obtain ⟨t, -, hin⟩ := hI.alone
  refine hin.agree fun key hkey => ?_
  have hhead := hin.holder (by rw [hkey]; exact nofun)
  cases hhead.symm.trans (congrArg List.head? hempty)

end

/-- The cloud returns a new key. -/
def fetched : (o : Op) → Option o.Res
  | .getKey _ _ => some (.ok ⟨[1], []⟩)
  | _ => none

/-- The connection breaks during a disconnect. -/
def broken : (o : Op) → Option o.Res
  | .disconnect _ => some (.error (.bleakError "not connected"))
  | _ => none

/-- A refresh that completes. -/
def refreshed : List (Label (auditMachine exampleParse "L1") Request) :=
  [.spawn 0 (.refresh "L1" true), .resume 0 fetched, .resume 0 done]

theorem noDrift_refreshed :
    NoDrift "L1" (EntryConfig.run exampleParse ["L1"] (by decide) exampleKeys
      (refreshed.map Label.unobserved)).state
      (auditRun exampleParse ["L1"] (by decide) exampleKeys "L1" refreshed).state.2 :=
  noDrift_run exampleParse ["L1"] (by decide) exampleKeys "L1" (by decide) refreshed (by decide)

/-- A refresh whose key swap is interrupted. -/
def interrupted : List (Label (auditMachine exampleParse "L1") Request) :=
  [.spawn 0 (.refresh "L1" true), .resume 0 fetched, .resume 0 broken]

/-- The interrupted refresh leaves the new key in the cache and the old token in the facade. -/
theorem drift_interrupted :
    ¬ ∀ ls : List (Label (auditMachine exampleParse "L1") Request),
      Runs.Steps (Config.step Request.prog)
        (fun c l => Config.allowed Request.prog (refreshGuard exampleParse "L1") c l = true)
        { state := (.init ["L1"] (by decide) exampleKeys, {}), tasks := fun _ => none } ls →
      NoDrift "L1" (EntryConfig.run exampleParse ["L1"] (by decide) exampleKeys
        (ls.map Label.unobserved)).state
        (auditRun exampleParse ["L1"] (by decide) exampleKeys "L1" ls).state.2 := by
  intro h
  have htoken := (h interrupted (by decide)).1 (by decide)
  revert htoken
  decide

end DanalockBle
