import DanalockBle.Broadcast.SettingCache
import DanalockBle.Control.Commands

/-!
# The shared settings read

A select that is added while the settings of its device are not known starts a settings read, or
joins the one that `_PENDING_READS` has for the serial. The registry outlives a reload of the
config entry, which builds new state objects, so a read can be joined by a select that displays
another object than the one it fills. At most one read per serial is in flight in any case. Each
step here is what happens between two suspensions.
-/

namespace DanalockBle

open Coroutine Coroutine.Coro DanalockDeviceState

/-- How a settings read ends: it fills the cache, its failure is logged, or it is cancelled. -/
inductive ReadEnd where
  | filled
  | failed
  | raised
  deriving DecidableEq, Repr

def ReadEnd.of : Except PyErr LockSettings → ReadEnd
  | .ok _ => filled
  | .error err => if err.isException then failed else raised

/-- A `DanalockDeviceState` that some setup of the entry built. -/
structure StateObject where
  serial : Serial
  state : DanalockDeviceState := {}

/-- A settings read of the state object at `object`; it is cleaned up once its done callback has
run. -/
structure SettingsRead where
  object : Nat
  serial : Serial
  ended : Option ReadEnd := none
  cleanedUp : Bool := false

/-- A select whose `async_added_to_hass` awaits a read. -/
structure AddedSelect where
  object : Nat
  setting : SettingName
  read : Nat
  deriving DecidableEq

/-- A return of `async_added_to_hass` from its `await`: whether the read had filled the cache, and
whether all values of the object that the select displays were known. -/
structure AddReturn where
  select : AddedSelect
  filled : Bool
  known : Bool

/-- `_PENDING_READS`, with every state object and every read there has been. -/
structure SelectPlatform where
  objects : List StateObject := []
  reads : List SettingsRead := []
  pendingReads : Serial → Option Nat := fun _ => none
  waiting : List AddedSelect := []
  returns : List AddReturn := []

inductive SelectEvent where
  /-- a setup of a config entry builds its state objects -/
  | setup (serials : List Serial)
  /-- a select of the state object is added -/
  | added (object : Nat) (setting : SettingName) (control : Bool)
  /-- `control.settings()` of the read ends -/
  | readEnds (read : Nat) (r : Except PyErr LockSettings)
  /-- the done callback of the read runs -/
  | cleanUp (read : Nat)
  /-- the `await` of an added select ends with its read -/
  | resumes (select : AddedSelect)
  /-- the `await` of an added select is cancelled -/
  | cancelled (select : AddedSelect)
  /-- something else happens to the state object -/
  | device (object : Nat) (now : Instant) (ev : DeviceEvent)

namespace SelectPlatform

variable (p : SelectPlatform)

/-- `settings_known()` of the state object. -/
def settingsKnown (object : Nat) : Bool := (p.objects[object]?).any (·.state.settingsKnown)

def awaitRead (object : Nat) (setting : SettingName) (read : Nat) : SelectPlatform :=
  { p with waiting := ⟨object, setting, read⟩ :: p.waiting }

/-- `_async_ensure_settings_read` up to its `await`. -/
def asyncEnsureSettingsRead (object : Nat) (setting : SettingName) (serial : Serial) :
    SelectPlatform :=
  match p.pendingReads serial with
  | some task => p.awaitRead object setting task
  | none =>
    let task := p.reads.length
    let created : SelectPlatform := { p with
      reads := p.reads ++ [{ object := object, serial := serial }]
      pendingReads := Function.update p.pendingReads serial (some task) }
    created.awaitRead object setting task

/-- `async_added_to_hass` up to its `await`. -/
def asyncAddedToHass (object : Nat) (setting : SettingName) (control : Bool) : SelectPlatform :=
  match p.objects[object]? with
  | none => p
  | some x =>
    if !control || x.state.settingsKnown then p
    else p.asyncEnsureSettingsRead object setting x.serial

/-- The state object changes. -/
def modifyState (object : Nat) (f : DanalockDeviceState → DanalockDeviceState) : SelectPlatform :=
  { p with objects := p.objects.modify object fun x => { x with state := f x.state } }

/-- `_async_read_settings` after its `await` (`readSettings_eq`). -/
def endRead (i : Nat) (r : Except PyErr LockSettings) : SelectPlatform :=
  match p.reads[i]? with
  | some read =>
    match read.ended with
    | some _ => p
    | none =>
      let ended : SelectPlatform := { p with
        reads := p.reads.modify i fun read => { read with ended := some (ReadEnd.of r) } }
      match r with
      | .ok settings => ended.modifyState read.object (·.applySettings settings)
      | .error _ => ended
  | none => p

/-- `_PENDING_READS.pop(serial, None)`. -/
def cleanUp (i : Nat) : SelectPlatform :=
  match p.reads[i]? with
  | some read =>
    if read.ended.isSome && !read.cleanedUp then
      { p with
        reads := p.reads.modify i fun read => { read with cleanedUp := true }
        pendingReads := Function.update p.pendingReads read.serial none }
    else p
  | none => p

/-- The `await task` of `_async_ensure_settings_read` ends; a cancelled read is raised. -/
def resume (w : AddedSelect) : SelectPlatform :=
  if w ∈ p.waiting then
    match (p.reads[w.read]?).bind (·.ended) with
    | none => p
    | some .raised => { p with waiting := p.waiting.erase w }
    | some ended =>
      { p with
        waiting := p.waiting.erase w
        returns := ⟨w, ended == .filled, p.settingsKnown w.object⟩ :: p.returns }
  else p

def step : SelectEvent → SelectPlatform
  | .setup serials => { p with objects := p.objects ++ serials.map fun serial => ⟨serial, {}⟩ }
  | .added object setting control => p.asyncAddedToHass object setting control
  | .readEnds i r => p.endRead i r
  | .cleanUp i => p.cleanUp i
  | .resumes w => p.resume w
  | .cancelled w => { p with waiting := p.waiting.erase w }
  | .device object now ev => p.modifyState object (·.step now ev)

/-- The platform after a run. -/
def run (es : List SelectEvent) : SelectPlatform := Runs.exec step {} es

/-! ## The condition -/

/-- The read that a select joins when it is added. -/
def joins (object : Nat) (control : Bool) : Option Nat :=
  match p.objects[object]? with
  | none => none
  | some x => if !control || x.state.settingsKnown then none else p.pendingReads x.serial

/-- The read has filled the state object. -/
def hasFilled (object i : Nat) : Bool :=
  (p.reads[i]?).any fun read => read.object == object && read.ended == some .filled

/-- A read has filled the state object, and a select waits for it or can join it. -/
def serves (object : Nat) : Bool :=
  (p.objects[object]?).any (fun x => (p.pendingReads x.serial).any (p.hasFilled object)) ||
    p.waiting.any fun w => p.hasFilled object w.read

/-- A select joins no read of another state object, and no flag of a state object turns on while
a read that has filled the object serves it. -/
def servesOwn : SelectEvent → Bool
  | .added object _ control =>
    (p.joins object control).all fun i => (p.reads[i]?).all (·.object == object)
  | .device object _ ev =>
    !p.serves object || (p.objects[object]?).all fun x =>
      settingFlagNames.all fun name => x.state.settingEvent name ev != some none
  | _ => true

/-! ## One read per serial -/

/-- Every read is registered from its start to its clean-up, and nothing else is. -/
structure Registered (p : SelectPlatform) : Prop where
  object : ∀ (i : Nat) (r : SettingsRead), p.reads[i]? = some r →
    ∃ x : StateObject, p.objects[r.object]? = some x ∧ x.serial = r.serial
  current : ∀ (i : Nat) (r : SettingsRead), p.reads[i]? = some r → r.cleanedUp = false →
    p.pendingReads r.serial = some i
  target : ∀ serial i, p.pendingReads serial = some i →
    ∃ r : SettingsRead, p.reads[i]? = some r ∧ r.serial = serial
  ended : ∀ (i : Nat) (r : SettingsRead), p.reads[i]? = some r → r.cleanedUp = true →
    r.ended.isSome = true

section
variable {p}

/-- A read that has not ended is not cleaned up. -/
theorem Registered.running (h : Registered p) {i : Nat} {r : SettingsRead}
    (hr : p.reads[i]? = some r) (hrun : r.ended = none) : p.pendingReads r.serial = some i := by
  refine h.current i r hr ?_
  by_contra hc
  have hended := h.ended i r hr (by simpa using hc)
  rw [hrun] at hended
  cases hended

theorem objects_modifyState (object k : Nat) (f : DanalockDeviceState → DanalockDeviceState) :
    (p.modifyState object f).objects[k]? =
      (p.objects[k]?).map fun x => if object = k then { x with state := f x.state } else x :=
  List.getElem?_modify ..

theorem Registered.modifyState (h : Registered p) (object : Nat)
    (f : DanalockDeviceState → DanalockDeviceState) : Registered (p.modifyState object f) where
  object i r hr := by
    obtain ⟨x, hx, hserial⟩ := h.object i r hr
    rw [objects_modifyState, hx]
    refine ⟨_, rfl, ?_⟩
    split <;> exact hserial
  current := h.current
  target := h.target
  ended := h.ended

/-- New state objects are added behind the others. -/
theorem Registered.setup (h : Registered p) (objects : List StateObject) :
    Registered { p with objects := p.objects ++ objects } where
  object i r hr := by
    obtain ⟨x, hx, hserial⟩ := h.object i r hr
    obtain ⟨hlt, -⟩ := List.getElem?_eq_some_iff.mp hx
    exact ⟨x, (List.getElem?_append_left hlt).trans hx, hserial⟩
  current := h.current
  target := h.target
  ended := h.ended

/-- The reads after one was created. -/
theorem getElem?_created {reads : List SettingsRead} {read r : SettingsRead} {i : Nat}
    (h : (reads ++ [read])[i]? = some r) : reads[i]? = some r ∨ i = reads.length ∧ r = read := by
  by_cases hi : i < reads.length
  · rw [List.getElem?_append_left hi] at h
    exact .inl h
  · rw [List.getElem?_append_right (Nat.le_of_not_lt hi)] at h
    have hlt := (List.getElem?_eq_some_iff.mp h).1
    have hi' : i = reads.length := by
      simp only [List.length_singleton] at hlt
      omega
    subst hi'
    rw [Nat.sub_self] at h
    exact .inr ⟨rfl, (Option.some.inj h).symm⟩

/-- A read of an object whose serial has none is created and registered. -/
theorem Registered.create (h : Registered p) {object : Nat} {x : StateObject}
    (hx : p.objects[object]? = some x) (hnone : p.pendingReads x.serial = none) :
    Registered { p with
      reads := p.reads ++ [{ object := object, serial := x.serial }]
      pendingReads := Function.update p.pendingReads x.serial (some p.reads.length) } where
  object i r hr := by
    rcases getElem?_created hr with hr | ⟨-, rfl⟩
    · exact h.object i r hr
    · exact ⟨x, hx, rfl⟩
  current i r hr hc := by
    rcases getElem?_created hr with hr | ⟨rfl, rfl⟩
    · have hcurrent := h.current i r hr hc
      have hne : r.serial ≠ x.serial := by
        intro heq
        rw [heq, hnone] at hcurrent
        cases hcurrent
      exact (Function.update_of_ne hne ..).trans hcurrent
    · exact Function.update_self ..
  target serial i hi := by
    change Function.update p.pendingReads x.serial (some p.reads.length) serial = some i at hi
    by_cases hs : serial = x.serial
    · subst hs
      rw [Function.update_self] at hi
      cases hi
      exact ⟨_, List.getElem?_concat_length .., rfl⟩
    · rw [Function.update_of_ne hs] at hi
      obtain ⟨r, hr, hserial⟩ := h.target serial i hi
      obtain ⟨hlt, -⟩ := List.getElem?_eq_some_iff.mp hr
      exact ⟨r, (List.getElem?_append_left hlt).trans hr, hserial⟩
  ended i r hr hc := by
    rcases getElem?_created hr with hr | ⟨-, rfl⟩
    · exact h.ended i r hr hc
    · cases hc

/-- One read changes. -/
theorem getElem?_modify_some {reads : List SettingsRead} {f : SettingsRead → SettingsRead}
    {i j : Nat} {r : SettingsRead} (h : (reads.modify i f)[j]? = some r) :
    ∃ r₀, reads[j]? = some r₀ ∧ r = if i = j then f r₀ else r₀ := by
  rw [List.getElem?_modify] at h
  obtain ⟨r₀, hr₀, rfl⟩ := Option.map_eq_some_iff.mp h
  exact ⟨r₀, hr₀, rfl⟩

/-- A read ends. -/
theorem Registered.finish (h : Registered p) (i : Nat) (e : ReadEnd) :
    Registered { p with
      reads := p.reads.modify i fun read => { read with ended := some e } } where
  object j r hr := by
    obtain ⟨r₀, hr₀, rfl⟩ := getElem?_modify_some hr
    obtain ⟨x, hx, hserial⟩ := h.object j r₀ hr₀
    split <;> exact ⟨x, hx, hserial⟩
  current j r hr hc := by
    obtain ⟨r₀, hr₀, rfl⟩ := getElem?_modify_some hr
    have hcurrent := h.current j r₀ hr₀
    split at hc <;> split <;> exact hcurrent hc
  target serial j hj := by
    obtain ⟨r, hr, hserial⟩ := h.target serial j hj
    refine ⟨_, (List.getElem?_modify ..).trans (congrArg _ hr), ?_⟩
    split <;> exact hserial
  ended j r hr hc := by
    obtain ⟨r₀, hr₀, rfl⟩ := getElem?_modify_some hr
    have hended := h.ended j r₀ hr₀
    split at hc
    · next hij => rw [if_pos hij]; rfl
    · next hij => rw [if_neg hij]; exact hended hc

/-- The done callback unregisters its own read. -/
theorem Registered.cleanUp (h : Registered p) (i : Nat) : Registered (p.cleanUp i) := by
  unfold SelectPlatform.cleanUp
  split
  · next read hread =>
    split
    · next hc =>
      obtain ⟨hended, hclean⟩ : read.ended.isSome = true ∧ read.cleanedUp = false := by
        simpa using hc
      have hown := h.current i read hread hclean
      refine ⟨fun j r hr => ?_, fun j r hr hcl => ?_, fun serial j hj => ?_, fun j r hr hcl => ?_⟩
      · obtain ⟨r₀, hr₀, rfl⟩ := getElem?_modify_some hr
        obtain ⟨x, hx, hserial⟩ := h.object j r₀ hr₀
        split <;> exact ⟨x, hx, hserial⟩
      · obtain ⟨r₀, hr₀, rfl⟩ := getElem?_modify_some hr
        by_cases hij : i = j
        · rw [if_pos hij] at hcl
          cases hcl
        · rw [if_neg hij] at hcl ⊢
          have hcurrent := h.current j r₀ hr₀ hcl
          -- another registered read has another serial
          have hne : r₀.serial ≠ read.serial := by
            intro heq
            rw [heq, hown] at hcurrent
            exact hij (Option.some.inj hcurrent)
          exact (Function.update_of_ne hne ..).trans hcurrent
      · change Function.update p.pendingReads read.serial none serial = some j at hj
        by_cases hs : serial = read.serial
        · subst hs
          rw [Function.update_self] at hj
          cases hj
        · rw [Function.update_of_ne hs] at hj
          obtain ⟨r, hr, hserial⟩ := h.target serial j hj
          refine ⟨_, (List.getElem?_modify ..).trans (congrArg _ hr), ?_⟩
          split <;> exact hserial
      · obtain ⟨r₀, hr₀, rfl⟩ := getElem?_modify_some hr
        by_cases hij : i = j
        · subst hij
          rw [hread] at hr₀
          cases hr₀
          rw [if_pos rfl]
          exact hended
        · rw [if_neg hij] at hcl ⊢
          exact h.ended j r₀ hr₀ hcl
    · exact h
  · exact h

/-- The selects that wait and have returned are no concern of the registry. -/
theorem Registered.frame (h : Registered p) (waiting : List AddedSelect)
    (returns : List AddReturn) :
    Registered { p with waiting := waiting, returns := returns } :=
  ⟨h.object, h.current, h.target, h.ended⟩

theorem Registered.endRead (h : Registered p) (i : Nat) (r : Except PyErr LockSettings) :
    Registered (p.endRead i r) := by
  unfold SelectPlatform.endRead
  split
  · split
    · exact h
    · cases r with
      | ok settings => exact (h.finish i .filled).modifyState _ _
      | error err => exact h.finish i (ReadEnd.of (.error err))
  · exact h

theorem Registered.added (h : Registered p) (object : Nat) (setting : SettingName)
    (control : Bool) : Registered (p.asyncAddedToHass object setting control) := by
  unfold asyncAddedToHass
  split
  · exact h
  · next x hx =>
    split
    · exact h
    · unfold asyncEnsureSettingsRead
      split
      · exact h.frame _ _
      · next hnone => exact (h.create hx hnone).frame _ _

theorem Registered.resume (h : Registered p) (w : AddedSelect) : Registered (p.resume w) := by
  unfold SelectPlatform.resume
  split
  · split
    · exact h
    · exact h.frame _ _
    · exact h.frame _ _
  · exact h

theorem Registered.step (h : Registered p) (e : SelectEvent) : Registered (p.step e) := by
  cases e with
  | setup serials => exact h.setup _
  | added object setting control => exact h.added object setting control
  | readEnds i r => exact h.endRead i r
  | cleanUp i => exact h.cleanUp i
  | resumes w => exact h.resume w
  | cancelled w => exact h.frame _ _
  | device object now ev => exact h.modifyState object (·.step now ev)

theorem registered_run (es : List SelectEvent) : Registered (run es) := by
  refine (Runs.Steps.of_forall (P := fun _ _ => True) (fun _ _ => trivial) es {}).inv
    (I := Registered) (fun _ e h _ => h.step e) ⟨?_, ?_, ?_, ?_⟩
  · intro i r hr
    cases hr
  · intro i r hr
    cases hr
  · intro serial i hi
    cases hi
  · intro i r hr
    cases hr

/-! ## What a read serves -/

/-- Every select that waits displays the object its read fills, and what a read has filled is known
while a select can join it or waits for it. -/
structure Served (p : SelectPlatform) : Prop where
  own : ∀ w ∈ p.waiting, ∃ r : SettingsRead, p.reads[w.read]? = some r ∧ r.object = w.object
  known : ∀ (i : Nat) (r : SettingsRead), p.reads[i]? = some r → r.ended = some .filled →
    (p.pendingReads r.serial = some i ∨ ∃ w ∈ p.waiting, w.read = i) →
    p.settingsKnown r.object = true
  returns : ∀ x ∈ p.returns, x.filled = true → x.known = true

theorem settingsKnown_eq_true {object : Nat} : p.settingsKnown object = true ↔
    ∃ x, p.objects[object]? = some x ∧ x.state.settingsKnown = true :=
  Option.any_eq_true ..

/-- An object that changes otherwise stays known if the change keeps it so. -/
theorem settingsKnown_modifyState {object k : Nat}
    {f : DanalockDeviceState → DanalockDeviceState}
    (hf : object = k → ∀ x, p.objects[k]? = some x → x.state.settingsKnown = true →
      (f x.state).settingsKnown = true) (h : p.settingsKnown k = true) :
    (p.modifyState object f).settingsKnown k = true := by
  obtain ⟨x, hx, hknown⟩ := settingsKnown_eq_true.mp h
  refine settingsKnown_eq_true.mpr ⟨_, by rw [objects_modifyState, hx]; rfl, ?_⟩
  split
  · next heq => exact hf heq x hx hknown
  · exact hknown

theorem settingsKnown_modifyState_self {object : Nat} {x : StateObject}
    {f : DanalockDeviceState → DanalockDeviceState} (hx : p.objects[object]? = some x)
    (hf : (f x.state).settingsKnown = true) :
    (p.modifyState object f).settingsKnown object = true := by
  refine settingsKnown_eq_true.mpr ⟨{ x with state := f x.state }, ?_, hf⟩
  rw [objects_modifyState, hx, Option.map_some, if_pos rfl]

/-- Values are unknown again only when a flag turns on. -/
theorem settingsKnown_step {state : DanalockDeviceState} {ev : DeviceEvent} (now : Instant)
    (h : state.settingsKnown = true)
    (hev : (settingFlagNames.all fun name => state.settingEvent name ev != some none) = true) :
    (state.step now ev).settingsKnown = true := by
  refine List.all_eq_true.mpr fun name hname => ?_
  have hknown := List.all_eq_true.mp h name hname
  have hkept := List.all_eq_true.mp hev name hname
  rw [step_settingValues]
  cases hset : state.settingEvent name ev with
  | none => exact hknown
  | some value =>
    cases value with
    | none =>
      rw [hset] at hkept
      cases hkept
    | some v => rfl

/-- A select waits for a read that it has joined or started. -/
theorem Served.added (h : Served p) (hreg : Registered p) {object : Nat} {control : Bool}
    (setting : SettingName) (hown : p.servesOwn (.added object setting control) = true) :
    Served (p.asyncAddedToHass object setting control) := by
  unfold asyncAddedToHass
  split
  · exact h
  · next x hx =>
    split
    · exact h
    · next hjoin =>
      unfold asyncEnsureSettingsRead
      split
      · next task htask =>
        obtain ⟨r, hr, hserial⟩ := hreg.target x.serial task htask
        have hobject : r.object = object := by
          have hjoins : p.joins object control = some task := by
            rw [joins, hx]
            simp only [if_neg hjoin, htask]
          rw [servesOwn, hjoins] at hown
          simpa [hr] using hown
        refine ⟨fun w hw => ?_, fun i r' hr' hfilled hi => ?_, h.returns⟩
        · rcases List.mem_cons.mp hw with rfl | hw
          · exact ⟨r, hr, hobject⟩
          · exact h.own w hw
        · refine h.known i r' hr' hfilled ?_
          rcases hi with hi | ⟨w, hw, rfl⟩
          · exact .inl hi
          · rcases List.mem_cons.mp hw with rfl | hw
            · obtain rfl : r = r' := Option.some.inj (hr.symm.trans hr')
              exact .inl (hserial ▸ htask)
            · exact .inr ⟨w, hw, rfl⟩
      · next hnone =>
        refine ⟨fun w hw => ?_, fun i r hr hfilled hi => ?_, h.returns⟩
        · rcases List.mem_cons.mp hw with rfl | hw
          · exact ⟨_, List.getElem?_concat_length .., rfl⟩
          · obtain ⟨r, hr, hobject⟩ := h.own w hw
            obtain ⟨hlt, -⟩ := List.getElem?_eq_some_iff.mp hr
            exact ⟨r, (List.getElem?_append_left hlt).trans hr, hobject⟩
        · rcases getElem?_created hr with hr | ⟨-, rfl⟩
          · have hlt := (List.getElem?_eq_some_iff.mp hr).1
            refine h.known i r hr hfilled ?_
            rcases hi with hi | ⟨w, hw, rfl⟩
            · change Function.update p.pendingReads x.serial (some p.reads.length) r.serial =
                some i at hi
              by_cases hs : r.serial = x.serial
              · rw [hs, Function.update_self] at hi
                exact absurd (Option.some.inj hi) (Nat.ne_of_gt hlt)
              · rw [Function.update_of_ne hs] at hi
                exact .inl hi
            · rcases List.mem_cons.mp hw with rfl | hw
              · exact absurd hlt (Nat.lt_irrefl _)
              · exact .inr ⟨w, hw, rfl⟩
          · cases hfilled

/-- Some reads and objects change, and no select joins. -/
theorem Served.change (h : Served p) {q : SelectPlatform}
    (hreads : ∀ (i : Nat) (r : SettingsRead), p.reads[i]? = some r →
      ∃ r', q.reads[i]? = some r' ∧ r'.object = r.object)
    (hwaiting : ∀ w ∈ q.waiting, w ∈ p.waiting) (hreturns : q.returns = p.returns)
    (hknown : ∀ (i : Nat) (r : SettingsRead), q.reads[i]? = some r → r.ended = some .filled →
      (q.pendingReads r.serial = some i ∨ ∃ w ∈ q.waiting, w.read = i) →
      q.settingsKnown r.object = true) : Served q where
  own w hw := by
    obtain ⟨r, hr, hobject⟩ := h.own w (hwaiting w hw)
    obtain ⟨r', hr', heq⟩ := hreads w.read r hr
    exact ⟨r', hr', heq.trans hobject⟩
  known := hknown
  returns := by
    rw [hreturns]
    exact h.returns

theorem exists_modify {reads : List SettingsRead} {f : SettingsRead → SettingsRead}
    (hf : ∀ r, (f r).object = r.object) (i j : Nat) (r : SettingsRead) (hr : reads[j]? = some r) :
    ∃ r', (reads.modify i f)[j]? = some r' ∧ r'.object = r.object := by
  refine ⟨_, (List.getElem?_modify ..).trans (congrArg _ hr), ?_⟩
  split
  · exact hf r
  · rfl

theorem Served.setup (h : Served p) (objects : List StateObject) :
    Served { p with objects := p.objects ++ objects } := by
  refine h.change (fun i r hr => ⟨r, hr, rfl⟩) (fun _ hw => hw) rfl fun i r hr hfilled hi => ?_
  obtain ⟨x, hx, hknown⟩ := settingsKnown_eq_true.mp (h.known i r hr hfilled hi)
  have hlt := (List.getElem?_eq_some_iff.mp hx).1
  exact settingsKnown_eq_true.mpr ⟨x, (List.getElem?_append_left hlt).trans hx, hknown⟩

/-- A read that ends fills its object, or leaves all objects alone. -/
theorem Served.endRead (h : Served p) (hreg : Registered p) (i : Nat)
    (r : Except PyErr LockSettings) : Served (p.endRead i r) := by
  unfold SelectPlatform.endRead
  split
  · next read hread =>
    split
    · exact h
    · next hrun =>
      cases r with
      | ok settings =>
        refine h.change (exists_modify (by exact fun _ => rfl) i) (fun _ hw => hw) rfl
          fun j r hr hfilled hj => ?_
        obtain ⟨r₀, hr₀, rfl⟩ := getElem?_modify_some hr
        by_cases hij : i = j
        · subst hij
          obtain rfl : read = r₀ := Option.some.inj (hread.symm.trans hr₀)
          obtain ⟨x, hx, -⟩ := hreg.object i read hread
          rw [if_pos rfl]
          exact settingsKnown_modifyState_self hx (settingsKnown_applySettings x.state settings)
        · rw [if_neg hij] at hfilled hj ⊢
          exact settingsKnown_modifyState (fun _ x _ _ => settingsKnown_applySettings _ _)
            (h.known j r₀ hr₀ hfilled hj)
      | error err =>
        refine h.change (exists_modify (by exact fun _ => rfl) i) (fun _ hw => hw) rfl
          fun j r hr hfilled hj => ?_
        obtain ⟨r₀, hr₀, rfl⟩ := getElem?_modify_some hr
        by_cases hij : i = j
        · rw [if_pos hij] at hfilled
          simp only [ReadEnd.of] at hfilled
          split at hfilled <;> cases hfilled
        · rw [if_neg hij] at hfilled hj ⊢
          exact h.known j r₀ hr₀ hfilled hj
  · exact h

theorem Served.cleanUp (h : Served p) (i : Nat) : Served (p.cleanUp i) := by
  unfold SelectPlatform.cleanUp
  split
  · next read hread =>
    split
    · refine h.change (exists_modify (by exact fun _ => rfl) i) (fun _ hw => hw) rfl
        fun j r hr hfilled hj => ?_
      obtain ⟨r₀, hr₀, rfl⟩ := getElem?_modify_some hr
      have hfilled₀ : r₀.ended = some .filled := by
        split at hfilled <;> exact hfilled
      have hserial : (if i = j then { r₀ with cleanedUp := true } else r₀).serial = r₀.serial := by
        split <;> rfl
      have hobject : (if i = j then { r₀ with cleanedUp := true } else r₀).object = r₀.object := by
        split <;> rfl
      rw [hobject]
      refine h.known j r₀ hr₀ hfilled₀ (hj.imp_left fun hj => ?_)
      rw [hserial] at hj
      change Function.update p.pendingReads read.serial none r₀.serial = some j at hj
      by_cases hs : r₀.serial = read.serial
      · rw [hs, Function.update_self] at hj
        cases hj
      · rwa [Function.update_of_ne hs] at hj
    · exact h
  · exact h

/-- A select no longer waits. -/
theorem Served.leave (h : Served p) (w : AddedSelect) :
    Served { p with waiting := p.waiting.erase w } := by
  refine h.change (fun i r hr => ⟨r, hr, rfl⟩) (fun _ hw => List.mem_of_mem_erase hw) rfl
    fun i r hr hfilled hi => h.known i r hr hfilled ?_
  exact hi.imp_right fun ⟨w', hw', heq⟩ => ⟨w', List.mem_of_mem_erase hw', heq⟩

/-- A select returns after its read: what the read has filled is its own object. -/
theorem Served.resume (h : Served p) (w : AddedSelect) : Served (p.resume w) := by
  unfold SelectPlatform.resume
  split
  · next hw =>
    split
    · exact h
    · exact h.leave w
    · next e hnot hended =>
      have hleft := h.leave w
      refine ⟨hleft.own, hleft.known, fun x hx hfilled => ?_⟩
      rcases List.mem_cons.mp hx with rfl | hx
      · obtain ⟨r, hr, hobject⟩ := h.own w hw
        rw [hr] at hended
        have he : e = .filled := by simpa using hfilled
        have hknown := h.known w.read r hr (hended.trans (congrArg some he)) (.inr ⟨w, hw, rfl⟩)
        rwa [hobject] at hknown
      · exact h.returns x hx hfilled
  · exact h

/-- A state object changes: while a read serves it, no flag of it turns on. -/
theorem Served.device (h : Served p) (hreg : Registered p) {object : Nat} {now : Instant}
    {ev : DeviceEvent} (hown : p.servesOwn (.device object now ev) = true) :
    Served (p.modifyState object (·.step now ev)) := by
  refine h.change (fun i r hr => ⟨r, hr, rfl⟩) (fun _ hw => hw) rfl fun i r hr hfilled hi => ?_
  refine settingsKnown_modifyState (fun heq x hx hknown => ?_) (h.known i r hr hfilled hi)
  have hhas : p.hasFilled object i = true := by
    change p.reads[i]? = some r at hr
    rw [hasFilled, hr]
    simp [heq, hfilled]
  have hserves : p.serves object = true := by
    rcases hi with hi | ⟨w, hw, rfl⟩
    · obtain ⟨x', hx', hserial⟩ := hreg.object i r hr
      refine Bool.or_eq_true_iff.mpr (.inl ((Option.any_eq_true ..).mpr ⟨x', heq ▸ hx', ?_⟩))
      exact (Option.any_eq_true ..).mpr ⟨i, hserial ▸ hi, hhas⟩
    · exact Bool.or_eq_true_iff.mpr (.inr (List.any_eq_true.mpr ⟨w, hw, hhas⟩))
  refine settingsKnown_step now hknown ?_
  rw [servesOwn, hserves, heq, hx] at hown
  simpa using hown

theorem Served.step (h : Served p) (hreg : Registered p) {e : SelectEvent}
    (hown : p.servesOwn e = true) : Served (p.step e) := by
  cases e with
  | setup serials => exact h.setup _
  | added object setting control => exact h.added hreg setting hown
  | readEnds i r => exact h.endRead hreg i r
  | cleanUp i => exact h.cleanUp i
  | resumes w => exact h.resume w
  | cancelled w => exact h.leave w
  | device object now ev => exact h.device hreg hown

end

/-- At most one settings read per serial is in flight. -/
def OneInFlight (p : SelectPlatform) : Prop :=
  ∀ (i j : Nat) (r r' : SettingsRead), p.reads[i]? = some r → p.reads[j]? = some r' →
    r.ended = none → r'.ended = none → r.serial = r'.serial → i = j

/-- Every select that has returned after a read that filled the cache found all values of its
object known. -/
def AllServed (p : SelectPlatform) : Prop := ∀ x ∈ p.returns, x.filled = true → x.known = true

/-- **The shared settings read.** In every run at most one read per serial is in flight; in a run
in which every select joins a read of its own state object, and no flag of an object turns on
while a read that has filled it serves it, every select is served. -/
theorem sharedRead_run (es : List SelectEvent) :
    OneInFlight (run es) ∧
      (Runs.Steps step (fun p e => p.servesOwn e = true) {} es → AllServed (run es)) := by
  have hreg := registered_run es
  refine ⟨fun i j r r' hr hr' hrun hrun' hserial => ?_, fun hown => ?_⟩
  · have hi := hreg.running hr hrun
    have hj := hreg.running hr' hrun'
    rw [hserial, hj] at hi
    exact (Option.some.inj hi).symm
  · have hserved : Registered (run es) ∧ Served (run es) := by
      refine hown.inv (I := fun p => Registered p ∧ Served p) (fun p e h he => ?_)
        ⟨registered_run [], ⟨nofun, nofun, nofun⟩⟩
      exact ⟨h.1.step e, h.2.step h.1 he⟩
    exact hserved.2.returns

/-- Two selects of a device share one read. -/
def twoSelects : List SelectEvent :=
  [.setup ["L1"], .added 0 .autoLock true, .added 0 .brakeAndGoBack true,
    .readEnds 0 (.ok ⟨1, 10, 0, 0⟩), .resumes ⟨0, .autoLock, 0⟩, .cleanUp 0,
    .resumes ⟨0, .brakeAndGoBack, 0⟩]

theorem sharedRead_twoSelects : (run twoSelects).returns.length = 2 ∧ AllServed (run twoSelects) :=
  ⟨by decide +kernel, (sharedRead_run twoSelects).2 (by decide +kernel)⟩

/-- The entry is reloaded while a read runs, and a select of the new state object joins it. -/
def reloadedSelect : List SelectEvent :=
  [.setup ["L1"], .added 0 .autoLock true, .setup ["L1"], .added 1 .autoLock true,
    .readEnds 0 (.ok ⟨1, 10, 0, 0⟩), .resumes ⟨1, .autoLock, 0⟩]

/-- The read fills the old state object, and the select shows nothing. -/
theorem unserved_reloadedSelect : ¬ ∀ es, OneInFlight (run es) ∧ AllServed (run es) := by
  intro h
  have hreturns : (run reloadedSelect).returns.any (fun x => x.filled && !x.known) = true := by
    decide +kernel
  obtain ⟨x, hx, hlost⟩ := List.any_eq_true.mp hreturns
  obtain ⟨hfilled, hunknown⟩ := Bool.and_eq_true_iff.mp hlost
  rw [(h reloadedSelect).2 x hx hfilled] at hunknown
  cases hunknown

end SelectPlatform

end DanalockBle
