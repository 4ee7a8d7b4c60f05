import DanalockBle.Entities.Entity

/-!
# What the entities have written

The monitor, the entities that were added, and the writes that `_notify` has scheduled on the event
loop (`call_soon_threadsafe`): they run one by one, in order, at any later time. In every reachable
state an added entity that no scheduled write is left for has written what is true of its device
(`written_agrees`), so no update is lost; its listener is registered, so its removal finds it.
-/

namespace DanalockBle

/-- The listener that an output calls. -/
def Output.listener : Output → Option Listener
  | call _ l => some l
  | _ => none

structure Board where
  clock : Instant := 0
  monitor : Monitor
  /-- the added entities, by their listeners -/
  entities : Listener → Option DanalockEntity := fun _ => none
  /-- which entity has a unique id; Home Assistant adds no second one -/
  ids : Serial × EntityKind → Option Listener := fun _ => none
  /-- the scheduled writes -/
  queue : List Listener := []
  /-- the last state that an added entity wrote -/
  written : Listener → Option (Option EntityValue) := fun _ => none

inductive EntityEvent where
  | monitor (event : Event)
  /-- `async_added_to_hass`, and the first write by Home Assistant -/
  | add (l : Listener) (entity : DanalockEntity)
  /-- `async_will_remove_from_hass` -/
  | remove (l : Listener)
  /-- the loop runs the next scheduled write -/
  | callback
  /-- Home Assistant writes the state on its own account -/
  | write (l : Listener)
  /-- `_operate` of a lock entity: up to the command, after a failed one, after a successful one -/
  | operating (l : Listener) (targetLocked : Bool)
  | operateFailed (l : Listener)
  | operated (l : Listener) (targetLocked : Bool)

namespace Board

section
variable (b : Board)

/-- An entity writes its state; one that was removed does not. -/
def write (l : Listener) : Board :=
  match b.entities l with
  | none => b
  | some entity =>
    let state := entity.shows (b.monitor.states entity.serial) b.clock
    { b with written := Function.update b.written l (some state) }

/-- A handler of the monitor, whose calls are scheduled. -/
def receive (parse : ParseBroadcast) (event : Event) : Board :=
  let m := { b.monitor with out := [] }.step parse ⟨b.clock, event⟩
  { b with monitor := m, queue := b.queue ++ m.out.filterMap Output.listener }

def add (l : Listener) (entity : DanalockEntity) : Board :=
  { b with
    monitor := b.monitor.addListener entity.serial l
    entities := Function.update b.entities l (some entity)
    ids := Function.update b.ids (entity.serial, entity.kind) (some l) }

def remove (l : Listener) (entity : DanalockEntity) : Board :=
  { b with
    monitor := b.monitor.removeListener entity.serial l
    entities := Function.update b.entities l none
    ids := Function.update b.ids (entity.serial, entity.kind) none
    written := Function.update b.written l none }

/-- The progress flags of a lock entity. -/
def setInProgress (l : Listener) (entity : DanalockEntity) (locking unlocking : Bool) : Board :=
  let entity := { entity with isLocking := locking, isUnlocking := unlocking }
  { b with entities := Function.update b.entities l (some entity) }

def setPending (entity : DanalockEntity) (locked : Bool) : Board :=
  { b with monitor := b.monitor.setPending entity.serial locked }

/-- The entity may be added. -/
def free (l : Listener) (entity : DanalockEntity) : Bool :=
  (b.entities l).isNone && (b.ids (entity.serial, entity.kind)).isNone &&
    b.monitor.serials.contains entity.serial

/-- An event of the monitor or of other components: the optimistic state is the lock entity's, and
an added entity is unregistered by its removal. -/
def foreign : Event → Bool
  | .setPending _ _ => false
  | .removeListener _ l => (b.entities l).isNone
  | _ => true

/-- The lock entity with the listener. -/
def lockEntity (l : Listener) : Option DanalockEntity :=
  (b.entities l).filter fun entity => entity.kind = .lock

/-- One event; one that is not possible changes nothing. -/
def handle (parse : ParseBroadcast) : EntityEvent → Board
  | .monitor event => if b.foreign event then b.receive parse event else b
  | .add l entity => if b.free l entity then (b.add l entity).write l else b
  | .remove l =>
    match b.entities l with
    | none => b
    | some entity => b.remove l entity
  | .callback =>
    match b.queue with
    | [] => b
    | l :: rest => { b with queue := rest }.write l
  | .write l => b.write l
  | .operating l targetLocked =>
    match b.lockEntity l with
    | none => b
    | some entity => (b.setInProgress l entity targetLocked !targetLocked).write l
  | .operateFailed l =>
    match b.lockEntity l with
    | none => b
    | some entity => (b.setInProgress l entity false false).write l
  | .operated l targetLocked =>
    match b.lockEntity l with
    | none => b
    | some entity =>
      ((b.setInProgress l entity false false).setPending entity targetLocked).write l

end

def step (parse : ParseBroadcast) (b : Board) (e : Instant × EntityEvent) : Board :=
  { b with clock := e.1 }.handle parse e.2

/-- The clock does not run backwards. -/
def Forward (b : Board) (e : Instant × EntityEvent) : Prop := b.clock ≤ e.1

instance (b : Board) (e : Instant × EntityEvent) : Decidable (b.Forward e) := Nat.decLe _ _

def init (serials : List Serial) (nodup : serials.Nodup) (keys : Serial → DeviceKey) : Board where
  monitor := .init serials nodup keys

/-! ## The invariant -/

/-- The last written state of the entity is true of its device. -/
def Current (b : Board) (l : Listener) (entity : DanalockEntity) : Prop :=
  ∃ w, b.written l = some w ∧ entity.Agrees (b.monitor.states entity.serial) b.clock w

structure Inv (b : Board) : Prop where
  registered : ∀ l entity, b.entities l = some entity → l ∈ b.monitor.listeners entity.serial
  unique : ∀ l entity, b.entities l = some entity →
    b.ids (entity.serial, entity.kind) = some l
  known : ∀ s, (b.monitor.states s).AddressKnown
  current : ∀ l entity, b.entities l = some entity → l ∉ b.queue → b.Current l entity

section
variable {b : Board} {l : Listener} {entity : DanalockEntity}

theorem Inv.later (h : b.Inv) {now : Instant} (hc : b.clock ≤ now) :
    { b with clock := now }.Inv where
  registered := h.registered
  unique := h.unique
  known := h.known
  current l entity hl hq := by
    obtain ⟨w, hw, ha⟩ := h.current l entity hl hq
    exact ⟨w, hw, ha.later hc⟩

/-- What is owed to be current after the entity with the listener has written. -/
theorem Inv.write
    (registered : ∀ l entity, b.entities l = some entity → l ∈ b.monitor.listeners entity.serial)
    (unique : ∀ l entity, b.entities l = some entity →
      b.ids (entity.serial, entity.kind) = some l)
    (known : ∀ s, (b.monitor.states s).AddressKnown)
    (current : ∀ l' entity, l' ≠ l → b.entities l' = some entity → l' ∉ b.queue →
      b.Current l' entity) : (b.write l).Inv := by
  unfold Board.write
  cases hl : b.entities l with
  | none =>
    refine ⟨registered, unique, known, fun l' entity hl' => current l' entity ?_ hl'⟩
    rintro rfl
    rw [hl] at hl'
    cases hl'
  | some entity =>
    refine ⟨registered, unique, known, fun l' entity' hl' hq => ?_⟩
    by_cases he : l' = l
    · subst he
      obtain rfl : entity = entity' := Option.some.inj (hl.symm.trans hl')
      exact ⟨_, Function.update_self l' _ b.written, DanalockEntity.agrees_shows⟩
    · obtain ⟨w, hw, ha⟩ := current l' entity' he hl' hq
      exact ⟨w, (Function.update_of_ne he ..).trans hw, ha⟩

/-- A write that was scheduled. -/
theorem Inv.callback (h : b.Inv) {rest : List Listener} (hq : b.queue = l :: rest) :
    ({ b with queue := rest }.write l).Inv := by
  refine Inv.write h.registered h.unique h.known fun l' entity he hl' hrest => ?_
  refine h.current l' entity hl' ?_
  rw [hq]
  simp [he, hrest]

theorem Inv.add (h : b.Inv) (hfree : b.free l entity = true) :
    ((b.add l entity).write l).Inv := by
  simp only [free, Bool.and_eq_true, Option.isNone_iff_eq_none] at hfree
  obtain ⟨⟨hl, hid⟩, -⟩ := hfree
  have hother : ∀ {l' e'}, l' ≠ l → (b.add l entity).entities l' = some e' →
      b.entities l' = some e' := by
    intro l' e' hne h'
    simpa [Board.add, hne] using h'
  have hself : ∀ {e'}, (b.add l entity).entities l = some e' → entity = e' := by
    intro e' h'
    simpa [Board.add] using h'
  refine Inv.write (fun l' e' hl' => ?_) (fun l' e' hl' => ?_) h.known fun l' e' he hl' hq =>
    h.current l' e' (hother he hl') hq
  · simp only [Board.add, Monitor.addListener]
    by_cases he : l' = l
    · subst he
      obtain rfl := hself hl'
      rw [Function.update_self]
      exact List.mem_append_right _ List.mem_cons_self
    · have hmem := h.registered l' e' (hother he hl')
      by_cases hs : e'.serial = entity.serial
      · rw [hs] at hmem ⊢
        rw [Function.update_self]
        exact List.mem_append_left _ hmem
      · rwa [Function.update_of_ne hs]
  · simp only [Board.add]
    by_cases he : l' = l
    · subst he
      obtain rfl := hself hl'
      exact Function.update_self ..
    · have hid' := h.unique l' e' (hother he hl')
      rw [Function.update_of_ne, hid']
      intro hsame
      rw [hsame, hid] at hid'
      cases hid'

theorem Inv.remove (h : b.Inv) (hl : b.entities l = some entity) : (b.remove l entity).Inv := by
  have hother : ∀ {l' e'}, (b.remove l entity).entities l' = some e' →
      l' ≠ l ∧ b.entities l' = some e' := by
    intro l' e' h'
    by_cases he : l' = l
    · subst he
      simp [Board.remove] at h'
    · exact ⟨he, by simpa [Board.remove, he] using h'⟩
  refine ⟨fun l' e' hl' => ?_, fun l' e' hl' => ?_, h.known, fun l' e' hl' hq => ?_⟩
  · obtain ⟨he, hl'⟩ := hother hl'
    have hmem := h.registered l' e' hl'
    simp only [Board.remove, Monitor.removeListener]
    by_cases hs : e'.serial = entity.serial
    · rw [hs] at hmem ⊢
      rw [Function.update_self]
      exact (List.mem_erase_of_ne he).mpr hmem
    · rwa [Function.update_of_ne hs]
  · obtain ⟨he, hl'⟩ := hother hl'
    have hid' := h.unique l' e' hl'
    simp only [Board.remove]
    rw [Function.update_of_ne, hid']
    intro hsame
    rw [hsame, h.unique l entity hl] at hid'
    exact he (Option.some.inj hid').symm
  · obtain ⟨he, hl'⟩ := hother hl'
    obtain ⟨w, hw, ha⟩ := h.current l' e' hl' hq
    exact ⟨w, (Function.update_of_ne he ..).trans hw, ha⟩

/-! ### The lock entity -/

theorem lockEntity_some (hl : b.lockEntity l = some entity) :
    b.entities l = some entity ∧ entity.kind = .lock := by
  simpa [lockEntity, Option.filter_eq_some_iff] using hl

/-- The entity itself is still to write. -/
theorem Inv.setInProgress (h : b.Inv) (hl : b.entities l = some entity) (locking unlocking : Bool) :
    ∀ c, c = b.setInProgress l entity locking unlocking →
    (∀ l' e', c.entities l' = some e' → l' ∈ c.monitor.listeners e'.serial) ∧
      (∀ l' e', c.entities l' = some e' → c.ids (e'.serial, e'.kind) = some l') ∧
      ∀ l' e', l' ≠ l → c.entities l' = some e' → b.entities l' = some e' := by
  rintro _ rfl
  have hother : ∀ l' e', l' ≠ l →
      (b.setInProgress l entity locking unlocking).entities l' = some e' →
      b.entities l' = some e' := by
    intro l' e' hne h'
    simpa [Board.setInProgress, hne] using h'
  have hself : ∀ e', (b.setInProgress l entity locking unlocking).entities l = some e' →
      { entity with isLocking := locking, isUnlocking := unlocking } = e' := by
    intro e' h'
    simpa [Board.setInProgress] using h'
  refine ⟨fun l' e' hl' => ?_, fun l' e' hl' => ?_, hother⟩
  · by_cases he : l' = l
    · subst he
      rw [← hself e' hl']
      exact h.registered l' entity hl
    · exact h.registered l' e' (hother l' e' he hl')
  · by_cases he : l' = l
    · subst he
      rw [← hself e' hl']
      exact h.unique l' entity hl
    · exact h.unique l' e' (hother l' e' he hl')

theorem Inv.inProgress (h : b.Inv) (hl : b.lockEntity l = some entity) (locking unlocking : Bool) :
    ((b.setInProgress l entity locking unlocking).write l).Inv := by
  obtain ⟨hl, -⟩ := lockEntity_some hl
  obtain ⟨hreg, huniq, hother⟩ := h.setInProgress hl locking unlocking _ rfl
  exact Inv.write hreg huniq h.known fun l' e' he hl' hq =>
    h.current l' e' (hother l' e' he hl') hq

end

end Board

namespace DanalockEntity

/-- The lock entity alone shows the optimistic state. -/
theorem Agrees.setPending {entity : DanalockEntity} {state : DanalockDeviceState} {now : Instant}
    {written : Option EntityValue} (h : entity.Agrees state now written)
    (hkind : entity.kind ≠ .lock) (locked : Bool) :
    entity.Agrees { state with pendingLocked := some locked } now written := by
  refine h.congr ?_ rfl rfl
  unfold value
  split
  · rfl
  · rfl
  · rfl
  · rfl
  · rfl
  · rfl
  · next hk => exact absurd hk hkind

end DanalockEntity

namespace Board

section
variable {b : Board} {l : Listener} {entity : DanalockEntity}

theorem Inv.operated (h : b.Inv) (hl : b.lockEntity l = some entity) (locked : Bool) :
    (((b.setInProgress l entity false false).setPending entity locked).write l).Inv := by
  obtain ⟨hl, hkind⟩ := lockEntity_some hl
  obtain ⟨hreg, huniq, hother⟩ := h.setInProgress hl false false _ rfl
  refine Inv.write hreg huniq (fun s => ?_) fun l' e' he hl' hq => ?_
  · simp only [Board.setPending, Board.setInProgress, Monitor.setPending, Monitor.setState]
    by_cases hs : s = entity.serial
    · rw [hs, Function.update_self]
      exact h.known entity.serial
    · rw [Function.update_of_ne hs]
      exact h.known s
  · have hl' := hother l' e' he hl'
    obtain ⟨w, hw, ha⟩ := h.current l' e' hl' hq
    refine ⟨w, hw, ?_⟩
    simp only [Board.setPending, Board.setInProgress, Monitor.setPending, Monitor.setState]
    by_cases hs : e'.serial = entity.serial
    · rw [hs, Function.update_self]
      rw [hs] at ha
      refine ha.setPending (fun hk => ?_) locked
      -- the device has one lock entity
      have hid := h.unique l' e' hl'
      rw [hs, hk, ← hkind, h.unique l entity hl] at hid
      exact he (Option.some.inj hid).symm
    · rwa [Function.update_of_ne hs]

/-! ### The monitor -/

theorem mem_calls {out : List Output} {l : Listener} :
    l ∈ out.filterMap Output.listener ↔ ∃ s, .call s l ∈ out := by
  rw [List.mem_filterMap]
  constructor
  · rintro ⟨o, ho, hl⟩
    cases o with
    | call s l' =>
      cases hl
      exact ⟨s, ho⟩
    | unavailable s => cases hl
    | backOnline s => cases hl
  · rintro ⟨s, hs⟩
    exact ⟨_, hs, rfl⟩

/-- A registered listener stays registered, unless it is the one that goes. -/
theorem mem_listeners_step {d : Device} {now : Instant} {ev : DeviceEvent}
    (hl : l ∈ d.listeners) (hev : ev ≠ .removeListener l) : l ∈ (d.step now ev).listeners := by
  cases ev with
  | start registered =>
    simp only [Device.step]
    split <;> exact hl
  | accept report info => rwa [Device.step, Device.accept_listeners]
  | poll history => rwa [Device.step, Device.poll_listeners]
  | check => rwa [Device.step, Device.check_listeners]
  | addListener l' => exact List.mem_append_left _ hl
  | removeListener l' =>
    have hne : l ≠ l' := fun he => hev (by rw [he])
    exact (List.mem_erase_of_ne hne).mpr hl
  | _ => exact hl

theorem Inv.receive (h : b.Inv) (parse : ParseBroadcast) {event : Event}
    (hforeign : b.foreign event = true) : (b.receive parse event).Inv := by
  have hdevice : ∀ s, (b.receive parse event).monitor.device s =
      { b.monitor.device s with out := [] }.step b.clock (b.monitor.deviceEvent parse event s) :=
    Monitor.device_step { b.monitor with out := [] } parse ⟨b.clock, event⟩
  have hsource := fun s => b.monitor.deviceEvent_source parse event s
  refine ⟨fun l e hl => ?_, h.unique, fun s => ?_, fun l e hl hq => ?_⟩
  · have hmem := congrArg Device.listeners (hdevice e.serial)
    rw [Monitor.device_listeners] at hmem
    rw [hmem]
    refine mem_listeners_step (h.registered l e hl) fun hev => ?_
    have hev' := hsource e.serial
    rw [hev] at hev'
    rw [hev'] at hforeign
    simp [foreign, show b.entities l = some e from hl] at hforeign
  · have hstate := congrArg Device.state (hdevice s)
    rw [Monitor.device_state, Device.step_state] at hstate
    rw [hstate]
    exact (h.known s).step b.clock (b.monitor.deviceEvent parse event s)
  · have hstate := congrArg Device.state (hdevice e.serial)
    rw [Monitor.device_state] at hstate
    have hquiet : ∀ l, l ∉ (b.receive parse event).queue → l ∉ b.queue ∧
        ∀ s, Output.call s l ∉ (b.receive parse event).monitor.out := by
      intro l hl
      simp only [Board.receive, List.mem_append, not_or, mem_calls, not_exists] at hl
      exact hl
    obtain ⟨hold, hcall⟩ := hquiet l hq
    obtain ⟨w, hw, ha⟩ := h.current l e hl hold
    refine ⟨w, hw, ?_⟩
    rw [hstate]
    refine Device.agrees_step ha (h.known e.serial) ?_ fun locked hev => ?_
    · -- the listener is registered, so it would have been called
      by_contra hnotifies
      refine hcall e.serial ?_
      rw [← Monitor.call_mem_device, hdevice]
      exact (Device.call_mem_step (d := { b.monitor.device e.serial with out := [] }) rfl _ l).mpr
        ⟨by simpa using hnotifies, h.registered l e hl⟩
    · have hev' := hsource e.serial
      rw [hev] at hev'
      rw [hev'] at hforeign
      cases hforeign

theorem Inv.handle (h : b.Inv) (parse : ParseBroadcast) (event : EntityEvent) :
    (b.handle parse event).Inv := by
  cases event with
  | monitor event =>
    simp only [Board.handle]
    split
    · next hforeign => exact h.receive parse hforeign
    · exact h
  | add l entity =>
    simp only [Board.handle]
    split
    · next hfree => exact h.add hfree
    · exact h
  | remove l =>
    simp only [Board.handle]
    split
    · exact h
    · next hl => exact h.remove hl
  | callback =>
    simp only [Board.handle]
    split
    · exact h
    · next hq => exact h.callback hq
  | write l =>
    exact Inv.write h.registered h.unique h.known fun l' e _ hl' hq => h.current l' e hl' hq
  | operating l targetLocked =>
    simp only [Board.handle]
    split
    · exact h
    · next hl => exact h.inProgress hl _ _
  | operateFailed l =>
    simp only [Board.handle]
    split
    · exact h
    · next hl => exact h.inProgress hl _ _
  | operated l targetLocked =>
    simp only [Board.handle]
    split
    · exact h
    · next hl => exact h.operated hl targetLocked

theorem inv_init (serials : List Serial) (nodup : serials.Nodup) (keys : Serial → DeviceKey) :
    (init serials nodup keys).Inv where
  registered _ _ hl := by cases hl
  unique _ _ hl := by cases hl
  known _ h := by cases h
  current _ _ hl := by cases hl

end

/-- The board after a run of a new entry. -/
def run (parse : ParseBroadcast) (serials : List Serial) (nodup : serials.Nodup)
    (keys : Serial → DeviceKey) (es : List (Instant × EntityEvent)) : Board :=
  Runs.exec (step parse) (init serials nodup keys) es

/-- The lock's state sensor is added, and the lock is heard. -/
def heardSensor : List (Instant × EntityEvent) :=
  [(0, .add 7 ⟨"L1", .lockState, true, false, false⟩),
    (1, .monitor (.advertisement (exampleInfo 0))), (2, .callback)]

end Board

end DanalockBle
