import DanalockBle.Entry.KeyFetches
import Mathlib.Data.List.Nodup

/-!
# The sensors of a key's validity

A `DanalockKeyValidUntilSensor` (`sensor.py`) shows the cached key of its device and writes its
state when the key manager tells its listeners. A refresh stores the key first, then swaps the
facade, and tells them last; a swap that fails keeps the key, and nobody is told. In every other
state an added sensor with no scheduled write shows the cached key (`keySensors_show`).
-/

namespace DanalockBle

open Coroutine Coroutine.Coro

/-- What the listeners of a device know of its key. -/
inductive KeyNews where
  | announced
  /-- the task has stored a key and is to announce it -/
  | due (t : TaskId)
  /-- the swap of a stored key failed -/
  | missed
  deriving DecidableEq, Repr

/-- The key sensors of one device; what a sensor shows is the key whose `valid_to` it is. -/
structure KeyBoard where
  /-- `self._listeners[serial]` -/
  listeners : List Listener := []
  /-- the added sensors -/
  added : Listener → Bool := fun _ => false
  /-- the scheduled writes -/
  queue : List Listener := []
  /-- the last state that an added sensor wrote -/
  written : Listener → Option DeviceKey := fun _ => none
  news : KeyNews := .announced

inductive SensorEvent where
  /-- `async_added_to_hass`, and the first write by Home Assistant -/
  | add (l : Listener)
  /-- `async_will_remove_from_hass` -/
  | remove (l : Listener)
  /-- the loop runs the next scheduled write -/
  | callback
  /-- a write for another reason: an update of the monitor, or Home Assistant's own -/
  | write (l : Listener)

namespace KeyBoard

/-- A sensor writes its state; one that was removed does not. -/
def write (b : KeyBoard) (key : DeviceKey) (l : Listener) : KeyBoard :=
  if b.added l then { b with written := Function.update b.written l (some key) } else b

def add (b : KeyBoard) (l : Listener) : KeyBoard :=
  { b with listeners := b.listeners ++ [l], added := Function.update b.added l true }

def remove (b : KeyBoard) (l : Listener) : KeyBoard :=
  { b with
    listeners := b.listeners.erase l
    added := Function.update b.added l false
    written := Function.update b.written l none }

/-- One event, with the cached key of the device; one that is not possible changes nothing. -/
def handle (b : KeyBoard) (key : DeviceKey) : SensorEvent → KeyBoard
  | .add l => if b.added l then b else (b.add l).write key l
  | .remove l => if b.added l then b.remove l else b
  | .callback =>
    match b.queue with
    | [] => b
    | l :: rest => { b with queue := rest }.write key l
  | .write l => b.write key l

/-- `_notify`: every listener is scheduled. -/
def notify (b : KeyBoard) : KeyBoard :=
  { b with queue := b.queue ++ b.listeners, news := .announced }

/-- What the operations of the refreshes do. -/
def see (serial : Serial) (t : TaskId) : (o : Op) → o.Res → Entry → KeyBoard → KeyBoard
  | .storeKey s _, _, _, b => if s = serial then { b with news := .due t } else b
  | .notifyKey s, _, _, b => if s = serial then b.notify else b
  | .disconnect _, .error _, _, b => if b.news = .due t then { b with news := .missed } else b
  | _, _, _, b => b

/-- Every added sensor is registered, once, and shows the key that was announced. -/
structure Inv (b : KeyBoard) (key : DeviceKey) : Prop where
  nodup : b.listeners.Nodup
  registered : ∀ l, l ∈ b.listeners ↔ b.added l = true
  current : b.news = .announced → ∀ l, b.added l = true → l ∉ b.queue → b.written l = some key

section
variable {b : KeyBoard} {key : DeviceKey} {l : Listener}

theorem news_write : (b.write key l).news = b.news := by
  unfold write
  split <;> rfl

theorem news_handle (ev : SensorEvent) : (b.handle key ev).news = b.news := by
  cases ev with
  | add l =>
    simp only [handle]
    split
    · rfl
    · exact news_write
  | remove l =>
    simp only [handle]
    split <;> rfl
  | callback =>
    simp only [handle]
    split
    · rfl
    · exact news_write
  | write l => exact news_write

/-- The writing sensor is up to date, and the others as they were. -/
theorem Inv.write (nodup : b.listeners.Nodup) (registered : ∀ l, l ∈ b.listeners ↔ b.added l = true)
    (current : b.news = .announced → ∀ l', l' ≠ l → b.added l' = true → l' ∉ b.queue →
      b.written l' = some key) : (b.write key l).Inv key := by
  unfold KeyBoard.write
  split
  · next hl =>
    refine ⟨nodup, registered, fun hnews l' hl' hq => ?_⟩
    by_cases he : l' = l
    · subst he
      exact Function.update_self ..
    · exact (Function.update_of_ne he ..).trans (current hnews l' he hl' hq)
  · next hl =>
    refine ⟨nodup, registered, fun hnews l' hl' hq => current hnews l' ?_ hl' hq⟩
    rintro rfl
    exact hl hl'

theorem Inv.add (h : b.Inv key) (hl : b.added l = false) : ((b.add l).write key l).Inv key := by
  have hnew : l ∉ b.listeners := fun hmem => by
    rw [(h.registered l).mp hmem] at hl
    cases hl
  refine Inv.write ?_ (fun l' => ?_) fun hnews l' he hl' hq => ?_
  · show (b.listeners ++ [l]).Nodup
    rw [← List.concat_eq_append]
    exact h.nodup.concat hnew
  · by_cases he : l' = l
    · subst he
      simp [KeyBoard.add]
    · simp [KeyBoard.add, he, h.registered]
  · exact h.current hnews l' ((Function.update_of_ne he ..).symm.trans hl') hq

theorem Inv.remove (h : b.Inv key) : (b.remove l).Inv key := by
  refine ⟨h.nodup.erase l, fun l' => ?_, fun hnews l' hl' hq => ?_⟩
  · by_cases he : l' = l
    · subst he
      simp [KeyBoard.remove, h.nodup.mem_erase_iff]
    · simp [KeyBoard.remove, he, h.nodup.mem_erase_iff, h.registered]
  · have he : l' ≠ l := by
      rintro rfl
      simp [KeyBoard.remove] at hl'
    refine (Function.update_of_ne he ..).trans (h.current hnews l' ?_ hq)
    exact (Function.update_of_ne he ..).symm.trans hl'

theorem Inv.handle (h : b.Inv key) (ev : SensorEvent) : (b.handle key ev).Inv key := by
  cases ev with
  | add l =>
    simp only [KeyBoard.handle]
    split
    · exact h
    · next hl => exact h.add (Bool.eq_false_iff.mpr hl)
  | remove l =>
    simp only [KeyBoard.handle]
    split
    · exact h.remove
    · exact h
  | callback =>
    simp only [KeyBoard.handle]
    split
    · exact h
    · next l rest hq =>
      refine Inv.write h.nodup h.registered fun hnews l' he hl' hrest =>
        h.current hnews l' hl' ?_
      rw [hq]
      simp [he, hrest]
  | write l =>
    exact Inv.write h.nodup h.registered fun hnews l' _ => h.current hnews l'

/-- A notification owes nothing to the sensors: each has a write scheduled. -/
theorem Inv.notify {key' : DeviceKey} (h : b.Inv key) : b.notify.Inv key' := by
  refine ⟨h.nodup, h.registered, fun _ l hl hq => absurd ?_ hq⟩
  exact List.mem_append_right _ ((h.registered l).mpr hl)

theorem Inv.unannounced {key' : DeviceKey} {news : KeyNews} (h : b.Inv key)
    (hnews : news ≠ .announced) : { b with news := news }.Inv key' :=
  ⟨h.nodup, h.registered, fun ha => absurd ha hnews⟩

end

end KeyBoard

/-! ## The refreshes -/

/-- Where a refresh is: a key of the device is stored and not announced yet. -/
inductive SwapPhase where
  | out
  | stored
  deriving DecidableEq, Repr

/-- A refresh that has stored the device's key swaps the facade, and ends by announcing the key or
by a failed disconnect. -/
@[reducible] def announcing (serial : Serial) : Protocol sig where
  Ghost := SwapPhase
  may
    | .out, _ => True
    | .stored, .boundControl _ => True
    | .stored, .lockRef _ => True
    | .stored, .disconnect _ => True
    | .stored, .buildFacade _ _ => True
    | .stored, .notifyKey s => s = serial
    | .stored, _ => False
  after
    | .out, .storeKey s _, _ => some (if s = serial then .stored else .out)
    | .stored, .disconnect _, .error _ => some .out
    | .stored, .notifyKey _, _ => some .out
    | g, _, _ => some g

section
variable {serial : Serial} {α : Type}

/-- A coroutine that does not store the device's key. -/
abbrev NoStore {α : Type} (serial : Serial) (c : Py α) : Prop := Restores (announcing serial) .out c

theorem NoStore.op {o : Op} {k : o.Res → Py α}
    (hafter : ∀ r, (announcing serial).after .out o r = some .out)
    (hk : ∀ r, NoStore serial (k r)) : NoStore serial (.op o k : Py α) :=
  Restores.op trivial (fun r g hg => by rw [hafter] at hg; exact (Option.some.inj hg).symm) hk

theorem disconnect_noStore (s : Serial) : NoStore serial (DanalockControl.disconnect s) :=
  NoStore.op (fun _ => rfl) fun _ => NoStore.op (fun _ => rfl) Restores.ofResult

theorem setKey_noStore (s : Serial) (key : DeviceKey) :
    NoStore serial (DanalockControl.setKey s key) :=
  setKey_of_parts s (Restores.compositional _ _) (disconnect_noStore s)
    (fun _ => NoStore.op (fun _ => rfl) Restores.ret) key

/-- The swap of a stored key fails, or the key is still to be announced. -/
theorem setKey_announcing (key : DeviceKey) :
    Meets (announcing serial) .stored (DanalockControl.setKey serial key) fun r g =>
      match r with
      | .ok _ => g = .stored
      | .error _ => g = .out := by
  rw [setKey_eq]
  refine Meets.bind ⟨trivial, fun f g hg => ?_⟩
  cases hg
  refine ⟨trivial, fun r g hg => ?_⟩
  cases r with
  | error err =>
    cases hg
    rfl
  | ok u =>
    cases hg
    refine ⟨trivial, fun _ g hg => ?_⟩
    cases hg
    rfl

/-- What a refresh does under its lock. -/
theorem refresh_announcing (force : Bool) : NoStore serial (do
    let key ← Py.getKey serial force
    Py.storeKey serial key
    let bound ← Py.boundControl serial
    if bound then DanalockControl.setKey serial key
    Py.notifyKey serial
    return key : Py DeviceKey) := by
  refine NoStore.op (fun _ => rfl) fun r => ?_
  cases r with
  | error err => exact Restores.raise err
  | ok key =>
    refine ⟨trivial, fun _ g hg => ?_⟩
    obtain rfl : g = .stored := ((Option.some.inj hg).symm).trans (if_pos rfl)
    refine ⟨trivial, fun bound g hg => ?_⟩
    cases hg
    have hlast : Meets (announcing serial) .stored (do
        Py.notifyKey serial
        return key : Py DeviceKey) fun _ g => g = .out := by
      refine ⟨rfl, fun _ g hg => ?_⟩
      cases hg
      rfl
    cases bound with
    | false => exact hlast
    | true =>
      show Meets (announcing serial) .stored ((DanalockControl.setKey serial key).bind _) _
      refine Meets.bind ((setKey_announcing key).mono fun r g hg => ?_)
      cases r with
      | error err => exact hg
      | ok u =>
        obtain rfl : g = .stored := hg
        exact hlast

theorem refresh_noStore (s : Serial) (force : Bool) :
    NoStore serial (DanalockKeyManager.refresh s force) := by
  by_cases hs : s = serial
  · subst hs
    refine NoStore.op (fun _ => rfl) fun r => ?_
    cases r with
    | error err => exact Restores.raise err
    | ok u =>
      exact Restores.tryFinally (refresh_announcing force) (NoStore.op (fun _ => rfl) Restores.ret)
  · refine refresh_of_parts s (Restores.compositional _ _) ?_ ?_ ?_ ?_ (setKey_noStore s) ?_ ?_
      force
    · exact NoStore.op (fun _ => rfl) Restores.ofResult
    · exact fun _ => NoStore.op (fun _ => rfl) Restores.ofResult
    · exact fun _ => NoStore.op (fun _ => congrArg some (if_neg hs)) Restores.ret
    · exact NoStore.op (fun _ => rfl) Restores.ret
    · exact NoStore.op (fun _ => rfl) Restores.ret
    · exact NoStore.op (fun _ => rfl) Restores.ret

theorem announcing_parts : Parts (announcing serial) .out where
  may _ _ := trivial
  after o r g' ho hr := by cases o <;> first | (cases hr; rfl) | cases ho
  refresh := refresh_noStore
  attempt s m := by
    refine attemptCall_of_parts s (Restores.compositional _ _) (fun m => ?_)
      (disconnect_noStore s) m
    exact NoStore.op (fun _ => rfl) fun _ => NoStore.op (fun _ => rfl) Restores.ofResult
  disconnect := disconnect_noStore

end

/-! ## Runs -/

/-- The event loop of a config entry beside the key sensors of one device. -/
@[reducible] def sensorMachine (parse : ParseBroadcast) (serial : Serial) : Machine sig :=
  (entryMachine parse).beside (KeyBoard.see serial) fun (ev : SensorEvent) e b =>
    b.handle (e.monitor.keys serial) ev

/-- The sensors, and that a key to be announced has a task that swaps the facade. -/
structure SensorInv (serial : Serial) (s : Entry × KeyBoard) (Γ : View (announcing serial)) :
    Prop where
  board : s.2.Inv (s.1.monitor.keys serial)
  due : ∀ t, s.2.news = .due t → ∃ w, Γ t = some (.stored, w)
  swaps : ∀ t o, Γ t = some (.stored, some o) → ∃ f, o = .disconnect f

section
variable {serial : Serial} {e e' : Entry} {b b' : KeyBoard} {Γ : View (announcing serial)}
  {t : TaskId} {g : SwapPhase}

theorem SensorInv.update (h : SensorInv serial (e, b) Γ) {p : Option (SwapPhase × Option Op)}
    (hboard : b'.Inv (e'.monitor.keys serial))
    (hothers : ∀ t', t' ≠ t → b'.news = .due t' → b.news = .due t')
    (hself : b'.news = .due t → ∃ w, p = some (.stored, w))
    (hswaps : ∀ o, p = some (.stored, some o) → ∃ f, o = .disconnect f) :
    SensorInv serial (e', b') (Function.update Γ t p) where
  board := hboard
  due t' hnews := by
    by_cases ht : t' = t
    · subst ht
      rw [Function.update_self]
      exact hself hnews
    · rw [Function.update_of_ne ht]
      exact h.due t' (hothers t' ht hnews)
  swaps t' o hΓ := by
    by_cases ht : t' = t
    · subst ht
      rw [Function.update_self] at hΓ
      exact hswaps o hΓ
    · rw [Function.update_of_ne ht] at hΓ
      exact h.swaps t' o hΓ

/-- The task goes on and the sensors see nothing of it. -/
theorem SensorInv.quiet (h : SensorInv serial (e, b) Γ) {w : Option Op} (hΓ : Γ t = some (g, w))
    (hkeys : e'.monitor.keys serial = e.monitor.keys serial) :
    SensorInv serial (e', b) (Function.update Γ t (some (g, none))) := by
  refine h.update (hkeys ▸ h.board) (fun _ _ hnews => hnews) (fun hnews => ?_) nofun
  obtain ⟨w', hstored⟩ := h.due t hnews
  obtain ⟨rfl, -⟩ := Prod.mk.inj (Option.some.inj (hΓ.symm.trans hstored))
  exact ⟨none, rfl⟩

/-- A task that is not to announce a key. -/
theorem SensorInv.not_due (h : SensorInv serial (e, b) Γ) (hΓ : ∀ w, Γ t ≠ some (.stored, w)) :
    b.news ≠ .due t := fun hnews => by
  obtain ⟨w, hstored⟩ := h.due t hnews
  exact hΓ w hstored

theorem SensorInv.notify (h : SensorInv serial (e, b) Γ) :
    SensorInv serial (e', b.notify) (Function.update Γ t (some (.out, none))) :=
  h.update h.board.notify (fun _ _ hnews => by cases hnews) (fun hnews => by cases hnews) nofun

/-- An operation that does not suspend. -/
theorem SensorInv.run (h : SensorInv serial (e, b) Γ) (hΓ : Γ t = some (g, none)) {o : Op}
    {r : o.Res} (hmay : (announcing serial).may g o) (hr : e.runOp t o = some (r, e')) :
    ∃ g', (announcing serial).after g o r = some g' ∧
      SensorInv serial (e', KeyBoard.see serial t o r e b)
        (Function.update Γ t (some (g', none))) := by
  cases g with
  | out =>
    cases o with
    | storeKey s key =>
      by_cases hs : s = serial
      · refine ⟨.stored, congrArg some (if_pos hs), ?_⟩
        rw [KeyBoard.see, if_pos hs]
        refine h.update (h.board.unannounced nofun) (fun t' ht hnews => ?_) (fun _ => ⟨none, rfl⟩)
          nofun
        exact absurd (KeyNews.due.inj hnews).symm ht
      · refine ⟨.out, congrArg some (if_neg hs), ?_⟩
        rw [KeyBoard.see, if_neg hs]
        exact h.quiet hΓ (Entry.runOp_keys hr fun key heq => hs (Op.storeKey.inj heq).1)
    | notifyKey s =>
      refine ⟨.out, rfl, ?_⟩
      by_cases hs : s = serial
      · rw [KeyBoard.see, if_pos hs]
        exact h.notify
      · rw [KeyBoard.see, if_neg hs]
        exact h.quiet hΓ (Entry.runOp_keys hr nofun)
    | disconnect f => cases hr
    | _ => exact ⟨.out, rfl, h.quiet hΓ (Entry.runOp_keys hr nofun)⟩
  | stored =>
    cases o with
    | notifyKey s =>
      refine ⟨.out, rfl, ?_⟩
      rw [KeyBoard.see, if_pos hmay]
      exact h.notify
    | boundControl s => exact ⟨.stored, rfl, h.quiet hΓ (Entry.runOp_keys hr nofun)⟩
    | lockRef s => exact ⟨.stored, rfl, h.quiet hΓ (Entry.runOp_keys hr nofun)⟩
    | buildFacade s token => exact ⟨.stored, rfl, h.quiet hΓ (Entry.runOp_keys hr nofun)⟩
    | disconnect f => cases hr
    | _ => cases hmay

theorem SensorInv.park (h : SensorInv serial (e, b) Γ) (hΓ : Γ t = some (g, none)) {o : Op}
    (hmay : (announcing serial).may g o) (hr : e.runOp t o = none) :
    SensorInv serial (e.parkOp t o, b) (Function.update Γ t (some (g, some o))) := by
  refine h.update (by rw [Entry.parkOp_monitor]; exact h.board) (fun _ _ hnews => hnews)
    (fun hnews => ?_) fun o' hp => ?_
  · obtain ⟨w, hstored⟩ := h.due t hnews
    obtain ⟨rfl, -⟩ := Prod.mk.inj (Option.some.inj (hΓ.symm.trans hstored))
    exact ⟨_, rfl⟩
  · -- of what a swap does, only the disconnect suspends
    cases hp
    cases o with
    | disconnect f => exact ⟨f, rfl⟩
    | notifyKey s => cases hr
    | boundControl s => cases hr
    | lockRef s => cases hr
    | buildFacade s token => cases hr
    | _ => cases hmay

/-- A wait ends; the end of a swap's disconnect may be its failure. -/
theorem SensorInv.wake (h : SensorInv serial (e, b) Γ) {o : Op} (hΓ : Γ t = some (g, some o))
    {r : o.Res} (hw : e.wakeOp t o r = some e') :
    ∃ g', (announcing serial).after g o r = some g' ∧
      SensorInv serial (e', KeyBoard.see serial t o r e b)
        (Function.update Γ t (some (g', none))) := by
  have hkeys : e'.monitor.keys serial = e.monitor.keys serial := by rw [Entry.wakeOp_monitor hw]
  have hfailed : SensorInv serial (e', if b.news = .due t then { b with news := .missed } else b)
      (Function.update Γ t (some (.out, none))) := by
    split
    · exact h.update (h.board.unannounced nofun) (fun _ _ hnews => by cases hnews)
        (fun hnews => by cases hnews) nofun
    · next hnews =>
      exact h.update (hkeys ▸ h.board) (fun _ _ hdue => hdue) (fun hdue => absurd hdue hnews) nofun
  cases g with
  | out =>
    refine ⟨.out, ?_⟩
    cases o with
    | disconnect f =>
      cases r with
      | ok u => exact ⟨rfl, h.quiet hΓ hkeys⟩
      | error err => exact ⟨rfl, hfailed⟩
    | storeKey s key => cases hw
    | notifyKey s => cases hw
    | _ => exact ⟨rfl, h.quiet hΓ hkeys⟩
  | stored =>
    obtain ⟨f, rfl⟩ := h.swaps t o hΓ
    cases r with
    | ok u => exact ⟨.stored, rfl, h.quiet hΓ hkeys⟩
    | error err => exact ⟨.out, rfl, hfailed⟩

end

theorem sensorInv_keeps (parse : ParseBroadcast) (serial : Serial) :
    Keeps Request.prog (.any (sensorMachine parse serial) Request) (announcing serial)
      (fun _ => .out) (fun _ _ g => g = .out) (SensorInv serial) where
  meets req _ := announcing_parts.prog req fun s key _ => setKey_noStore s key
  spawn s Γ t req hI hΓ _ :=
    hI.update hI.board (fun _ _ hnews => hnews)
      (fun hnews => absurd hnews (hI.not_due (by rw [hΓ]; exact nofun))) nofun
  run s Γ t g o r s' hI hΓ _ hmay hr _ := by
    obtain ⟨⟨r', e'⟩, hrun, heq⟩ := Option.map_eq_some_iff.mp hr
    obtain ⟨rfl, rfl⟩ := Prod.mk.inj heq
    exact hI.run hΓ hmay hrun
  park s Γ t g o hI hΓ hmay hr := hI.park hΓ hmay (Option.map_eq_none_iff.mp hr)
  wake s Γ t g o r s' hI hΓ _ hw _ := by
    obtain ⟨e', hwake, rfl⟩ := Option.map_eq_some_iff.mp hw
    exact hI.wake hΓ hwake
  finish s Γ t req r g hI hΓ hg := by
    refine hI.update hI.board (fun _ _ hnews => hnews)
      (fun hnews => absurd hnews (hI.not_due fun w hstored => ?_)) nofun
    rw [hΓ, hg] at hstored
    cases hstored
  env s Γ ev s' hI he := by
    cases ev with
    | inl ev =>
      obtain ⟨e', henv, rfl⟩ := Option.map_eq_some_iff.mp he
      exact ⟨(Entry.envStep_keys henv serial).symm ▸ hI.board, hI.due, hI.swaps⟩
    | inr ev =>
      cases he
      exact ⟨hI.board.handle ev, fun t hnews => hI.due t (KeyBoard.news_handle ev ▸ hnews),
        hI.swaps⟩

section
variable (parse : ParseBroadcast) (serials : List Serial) (nodup : serials.Nodup)
  (keys : Serial → DeviceKey) (serial : Serial)

/-- The configuration after a run of a new entry, with the key sensors of one device. -/
def sensorRun (ls : List (Label (sensorMachine parse serial) Request)) :
    Config (sensorMachine parse serial) PyErr Unit Request :=
  Runs.exec (Config.step Request.prog) ⟨(.init serials nodup keys, {}), fun _ => none⟩ ls

/-- **A key sensor follows the cached key.** However the requests of the entry interleave and end,
and whenever sensors come and go and their scheduled writes run: an added sensor is registered once,
and with no write scheduled it shows the key in the cache, unless the facade swap for that key is
under way, whose task waits for the old facade's disconnect, or has failed. -/
theorem keySensors_show (ls : List (Label (sensorMachine parse serial) Request)) :
    let c := sensorRun parse serials nodup keys serial ls
    (∀ l, c.state.2.listeners.count l = if c.state.2.added l then 1 else 0) ∧
      (∀ t, c.state.2.news = .due t → ∃ req f k, c.tasks t = some (req, .op (.disconnect f) k)) ∧
      (c.state.2.news = .announced → ∀ l, c.state.2.added l = true → l ∉ c.state.2.queue →
        c.state.2.written l = some (c.state.1.monitor.keys serial)) := by
  have hinit : SensorInv serial (Entry.init serials nodup keys, {}) fun _ => none :=
    ⟨⟨List.nodup_nil, fun l => iff_of_false List.not_mem_nil nofun, fun _ l hl => by cases hl⟩,
      fun t hnews => (by cases hnews), nofun⟩
  obtain ⟨Γ, hI, hT⟩ := (sensorInv_keeps parse serial).run_inv
    (c := ⟨(.init serials nodup keys, {}), fun _ => none⟩) ⟨_, hinit, Tracks.of_none fun _ => rfl⟩
    (Runs.Steps.of_forall (fun c l => Config.allowed_any Request.prog c l) ls _)
  refine ⟨fun l => ?_, fun t hnews => ?_, hI.board.current⟩
  · have hregistered := hI.board.registered l
    split
    · next hl => exact List.count_eq_one_of_mem hI.board.nodup (hregistered.mpr hl)
    · next hl => exact List.count_eq_zero_of_not_mem fun hmem => hl (hregistered.mp hmem)
  · obtain ⟨w, hΓ⟩ := hI.due t hnews
    obtain ⟨req, o, k, htask, rfl, -⟩ := hT.task hΓ
    obtain ⟨f, rfl⟩ := hI.swaps t o hΓ
    exact ⟨req, f, k, htask⟩

end

/-- A sensor is added, and the key is refreshed. -/
def refreshedSensor : List (Label (sensorMachine exampleParse "L1") Request) :=
  [.env (.inr (.add 7)), .spawn 0 (.refresh "L1" true), .resume 0 fetched, .resume 0 done,
    .env (.inr .callback)]

theorem keySensors_show_refreshedSensor :
    (sensorRun exampleParse ["L1"] (by decide) exampleKeys "L1" refreshedSensor).state.2.written 7 =
      some ⟨[1], []⟩ := by
  obtain ⟨-, -, hcurrent⟩ := keySensors_show exampleParse ["L1"] (by decide) exampleKeys "L1"
    refreshedSensor
  exact (hcurrent (by decide) 7 (by decide) (by decide)).trans (by decide)

end DanalockBle
