import DanalockBle.Entry.System

/-!
# What the steps of the entry change

One lemma for each part of the shared state and each kind of step: what an operation, the start
of a wait, the end of a wait and the environment leave of the monitor, of a facade, of the
current facade and of a refresh queue. The invariants are derived from these.
-/

namespace DanalockBle

open Coroutine

/-- An event that is no write by a task. -/
def DeviceEvent.isOwn : DeviceEvent → Bool
  | .setPending _ | .applySettings _ => false
  | _ => true

theorem Monitor.deviceEvent_isOwn (m : Monitor) (parse : ParseBroadcast) {event : Event}
    (h : event.isOwn = true) (serial : Serial) :
    (m.deviceEvent parse event serial).isOwn = true := by
  have hsource := m.deviceEvent_source parse event serial
  cases hev : m.deviceEvent parse event serial with
  | setPending locked =>
    rw [hev] at hsource
    subst hsource
    cases h
  | applySettings settings =>
    rw [hev] at hsource
    subst hsource
    cases h
  | _ => rfl

/-- What the operation is to a device. -/
def Op.deviceEvent (serial : Serial) : Op → DeviceEvent
  | setPending s locked => if serial = s then .setPending locked else .idle
  | applySettings s settings => if serial = s then .applySettings settings else .idle
  | _ => .idle

/-- The facade whose lock the operation waits for. -/
def Op.waitsFor : Op → Option FacadeRef
  | call f _ => some f
  | disconnect f => some f
  | _ => none

theorem Op.deviceEvent_idle {serial : Serial} {o : Op} (h : o.storesFor serial = false) :
    o.deviceEvent serial = .idle := by
  cases o with
  | setPending s locked =>
    have hs : serial ≠ s := fun hs => by simp [storesFor, hs] at h
    exact if_neg hs
  | applySettings s settings =>
    have hs : serial ≠ s := fun hs => by simp [storesFor, hs] at h
    exact if_neg hs
  | _ => rfl

namespace Entry

variable (e : Entry)

/-! ## Updates -/

section
variable (f g : FacadeRef) (s s' : Serial)

theorem controls_setControl (c : Control) : (e.setControl s c).controls s' =
    if s' = s then c else e.controls s' := by
  by_cases h : s' = s
  · subst h
    simp [setControl]
  · simp [setControl, h]

theorem facade_setControl (c : Control) : (e.setControl s c).facade f =
    if f.serial = s then c.facades f.gen else e.facade f := by
  unfold facade
  rw [controls_setControl]
  split <;> rfl

theorem current_setControl (c : Control) : (e.setControl s c).current s' =
    if s' = s then ⟨s', c.gen⟩ else e.current s' := by
  unfold current
  rw [controls_setControl]
  split <;> rfl

theorem refreshQueue_setControl (c : Control) : (e.setControl s c).refreshQueue s' =
    if s' = s then c.refreshQueue else e.refreshQueue s' := by
  unfold refreshQueue
  rw [controls_setControl]
  split <;> rfl

theorem facade_setFacade (x : Facade) :
    (e.setFacade f x).facade g = if g = f then x else e.facade g := by
  unfold setFacade
  rw [facade_setControl]
  obtain ⟨fs, fg⟩ := f
  obtain ⟨gs, gg⟩ := g
  by_cases hs : gs = fs
  · subst hs
    by_cases hg : gg = fg
    · subst hg
      simp
    · simp [hg, facade]
  · simp [hs]

@[simp] theorem current_setFacade (x : Facade) : (e.setFacade f x).current s = e.current s := by
  unfold setFacade
  rw [current_setControl]
  split
  · next h => rw [h]; rfl
  · rfl

@[simp] theorem refreshQueue_setFacade (x : Facade) :
    (e.setFacade f x).refreshQueue s = e.refreshQueue s := by
  unfold setFacade
  rw [refreshQueue_setControl]
  split
  · next h => rw [h]; rfl
  · rfl

@[simp] theorem facade_setRefreshQueue (q : List TaskId) :
    (e.setRefreshQueue s q).facade f = e.facade f := by
  unfold setRefreshQueue
  rw [facade_setControl]
  split
  · next h => rw [← h]; rfl
  · rfl

@[simp] theorem current_setRefreshQueue (q : List TaskId) :
    (e.setRefreshQueue s q).current s' = e.current s' := by
  unfold setRefreshQueue
  rw [current_setControl]
  split
  · next h => rw [h]; rfl
  · rfl

theorem refreshQueue_setRefreshQueue (q : List TaskId) : (e.setRefreshQueue s q).refreshQueue s' =
    if s' = s then q else e.refreshQueue s' := by
  unfold setRefreshQueue
  rw [refreshQueue_setControl]

/-- A leave touches the queue of its facade only. -/
theorem facade_leave (t : TaskId) : (e.leave f t).facade g =
    if g = f then { e.facade f with queue := (e.facade f).queue.filter (·.1 != t) }
    else e.facade g := facade_setFacade e f g _

@[simp] theorem session_leave (t : TaskId) :
    ((e.leave f t).facade g).session = (e.facade g).session := by
  rw [facade_leave]
  split
  · next h => rw [h]
  · rfl

@[simp] theorem loginToken_leave (t : TaskId) :
    ((e.leave f t).facade g).loginToken = (e.facade g).loginToken := by
  rw [facade_leave]
  split
  · next h => rw [h]
  · rfl

theorem session_setSession (b : Bool) :
    ((e.setSession f b).facade g).session = if g = f then b else (e.facade g).session := by
  unfold setSession
  rw [facade_setFacade]
  split <;> rfl

@[simp] theorem queue_setSession (b : Bool) :
    ((e.setSession f b).facade g).queue = (e.facade g).queue := by
  unfold setSession
  rw [facade_setFacade]
  split
  · next h => rw [h]
  · rfl

@[simp] theorem loginToken_setSession (b : Bool) :
    ((e.setSession f b).facade g).loginToken = (e.facade g).loginToken := by
  unfold setSession
  rw [facade_setFacade]
  split
  · next h => rw [h]
  · rfl

theorem facade_buildFacade (token : Bytes) : (e.buildFacade s token).facade f =
    if f = ⟨s, (e.current s).gen + 1⟩ then { loginToken := token } else e.facade f := by
  unfold buildFacade
  simp only
  rw [facade_setControl]
  obtain ⟨fs, fg⟩ := f
  by_cases hs : fs = s
  · subst hs
    by_cases hg : fg = (e.controls fs).gen + 1
    · subst hg
      simp [current]
    · simp [hg, current, facade]
  · simp [hs, current]

theorem current_buildFacade (token : Bytes) : (e.buildFacade s token).current s' =
    if s' = s then ⟨s, (e.current s).gen + 1⟩ else e.current s' := by
  unfold buildFacade
  simp only
  rw [current_setControl]
  split
  · next h => rw [h]; rfl
  · rfl

@[simp] theorem refreshQueue_buildFacade (token : Bytes) :
    (e.buildFacade s token).refreshQueue s' = e.refreshQueue s' := by
  unfold buildFacade
  simp only
  rw [refreshQueue_setControl]
  split
  · next h => rw [h]; rfl
  · rfl

end

/-! ## Operations that do not suspend -/

section
variable {e} {e' : Entry} {t : TaskId} {o : Op} {r : o.Res}

theorem runOp_monitor : e.runOp t o = some (r, e') → e'.monitor =
    match o with
    | .storeKey s key => e.monitor.storeKey s key
    | .setPending s locked => e.monitor.setPending s locked
    | .applySettings s settings => e.monitor.applySettings s settings
    | _ => e.monitor := by
  intro h
  cases o with
  | acquireRefresh s =>
    simp only [runOp] at h
    split at h
    · cases h; rfl
    · cases h
  | _ => cases h <;> rfl

/-- A device makes the step the operation is to it. -/
theorem runOp_states (serial : Serial) (now : Instant) (h : e.runOp t o = some (r, e')) :
    e'.monitor.states serial =
      (e.monitor.states serial).step now (o.deviceEvent serial) := by
  have hm := runOp_monitor h
  cases o with
  | setPending s locked =>
    rw [hm]
    exact e.monitor.states_step (fun _ _ => none) ⟨now, .setPending s locked⟩ serial
  | applySettings s settings =>
    rw [hm]
    exact e.monitor.states_step (fun _ _ => none) ⟨now, .applySettings s settings⟩ serial
  | _ => rw [hm]; rfl

theorem runOp_facade (f : FacadeRef) : e.runOp t o = some (r, e') → e'.facade f =
    match o with
    | .buildFacade s token =>
      if f = ⟨s, (e.current s).gen + 1⟩ then { loginToken := token } else e.facade f
    | _ => e.facade f := by
  intro h
  cases o with
  | acquireRefresh s =>
    simp only [runOp] at h
    split at h
    · cases h; exact facade_setRefreshQueue e f s _
    · cases h
  | buildFacade s token => cases h; exact facade_buildFacade e f s token
  | releaseRefresh s => cases h; exact facade_setRefreshQueue e f s _
  | setInProgress s locking unlocking =>
    cases h
    rw [facade_setControl]
    split
    · next hs => rw [← hs]; rfl
    · rfl
  | _ => cases h <;> rfl

theorem runOp_current (s : Serial) : e.runOp t o = some (r, e') → e'.current s =
    match o with
    | .buildFacade s' _ => if s = s' then ⟨s', (e.current s').gen + 1⟩ else e.current s
    | _ => e.current s := by
  intro h
  cases o with
  | acquireRefresh s' =>
    simp only [runOp] at h
    split at h
    · cases h; exact current_setRefreshQueue e s' s _
    · cases h
  | buildFacade s' token => cases h; exact current_buildFacade e s' s token
  | releaseRefresh s' => cases h; exact current_setRefreshQueue e s' s _
  | setInProgress s' locking unlocking =>
    cases h
    rw [current_setControl]
    split
    · next hs => rw [hs]; rfl
    · rfl
  | _ => cases h <;> rfl

theorem runOp_refreshQueue (s : Serial) : e.runOp t o = some (r, e') → e'.refreshQueue s =
    match o with
    | .acquireRefresh s' => if s = s' then [t] else e.refreshQueue s
    | .releaseRefresh s' => if s = s' then (e.refreshQueue s).erase t else e.refreshQueue s
    | _ => e.refreshQueue s := by
  intro h
  cases o with
  | acquireRefresh s' =>
    simp only [runOp] at h
    split at h
    · cases h; exact refreshQueue_setRefreshQueue e s' s _
    · cases h
  | buildFacade s' token => cases h; exact refreshQueue_buildFacade e s' s token
  | releaseRefresh s' =>
    cases h
    refine (refreshQueue_setRefreshQueue e s' s _).trans ?_
    by_cases hs : s = s'
    · subst hs; rfl
    · simp [hs]
  | setInProgress s' locking unlocking =>
    cases h
    rw [refreshQueue_setControl]
    split
    · next hs => rw [hs]; rfl
    · rfl
  | _ => cases h <;> rfl

/-- The refresh lock is taken at once only when it is free. -/
theorem runOp_acquire {s : Serial} {r : Except PyErr Unit}
    (h : e.runOp t (.acquireRefresh s) = some (r, e')) : r = .ok () ∧ e.refreshQueue s = [] := by
  simp only [runOp] at h
  split at h
  · next hq => cases h; exact ⟨rfl, hq⟩
  · cases h

end

/-! ## The start of a wait -/

section
variable (t : TaskId) (o : Op)

@[simp] theorem parkOp_monitor : (e.parkOp t o).monitor = e.monitor := by
  cases o <;> rfl

theorem parkOp_facade (f : FacadeRef) : (e.parkOp t o).facade f =
    match o with
    | .call f' _ => if f = f' then
        { e.facade f with queue := (e.facade f).queue ++ [(t, true)] } else e.facade f
    | .disconnect f' => if f = f' then
        { e.facade f with queue := (e.facade f).queue ++ [(t, false)] } else e.facade f
    | _ => e.facade f := by
  cases o with
  | call f' m =>
    refine (facade_setFacade e f' f _).trans ?_
    by_cases h : f = f'
    · subst h; simp
    · simp [h]
  | disconnect f' =>
    refine (facade_setFacade e f' f _).trans ?_
    by_cases h : f = f'
    · subst h; simp
    · simp [h]
  | acquireRefresh s => exact facade_setRefreshQueue e f s _
  | _ => rfl

@[simp] theorem parkOp_current (s : Serial) : (e.parkOp t o).current s = e.current s := by
  cases o with
  | call f' m => exact current_setFacade e f' s _
  | disconnect f' => exact current_setFacade e f' s _
  | acquireRefresh s' => exact current_setRefreshQueue e s' s _
  | _ => rfl

theorem session_parkOp (f : FacadeRef) :
    ((e.parkOp t o).facade f).session = (e.facade f).session := by
  rw [parkOp_facade]
  cases o with
  | call f' m => simp only; split <;> rfl
  | disconnect f' => simp only; split <;> rfl
  | _ => rfl

theorem loginToken_parkOp (f : FacadeRef) :
    ((e.parkOp t o).facade f).loginToken = (e.facade f).loginToken := by
  rw [parkOp_facade]
  cases o with
  | call f' m => simp only; split <;> rfl
  | disconnect f' => simp only; split <;> rfl
  | _ => rfl

theorem parkOp_refreshQueue (s : Serial) : (e.parkOp t o).refreshQueue s =
    match o with
    | .acquireRefresh s' => if s = s' then e.refreshQueue s ++ [t] else e.refreshQueue s
    | _ => e.refreshQueue s := by
  cases o with
  | call f' m => exact refreshQueue_setFacade e f' s _
  | disconnect f' => exact refreshQueue_setFacade e f' s _
  | acquireRefresh s' =>
    refine (refreshQueue_setRefreshQueue e s' s _).trans ?_
    by_cases h : s = s'
    · subst h; simp
    · simp [h]
  | _ => rfl

end

/-! ## The end of a wait -/

section
variable {e} {e' : Entry} {t : TaskId} {f : FacadeRef}

theorem endCall_some {α : Type} {r : Except PyErr α} (h : e.endCall t f r = some e') :
    e' = e.leave f t ∧ (replied r = true → (e.facade f).session = true) ∧
      (r = .error .cancelledError ∨ (e.facade f).queue.head? = some (t, true)) := by
  unfold endCall at h
  split at h
  · cases h
    exact ⟨rfl, nofun, .inl rfl⟩
  · split at h
    · next hc => cases h; exact ⟨rfl, hc.2, .inr hc.1⟩
    · cases h

theorem endDisconnect_some {r : Except PyErr Unit} (h : e.endDisconnect t f r = some e') :
    (∃ err, r = .error err ∧ e' = e.leave f t ∧
        (err.isReply = true → (e.facade f).session = true)) ∨
      r = .ok () ∧ (e.facade f).queue.head? = some (t, false) ∧
        e' = (e.setSession f false).leave f t := by
  unfold endDisconnect at h
  split at h
  · cases h
    exact .inl ⟨_, rfl, rfl, nofun⟩
  · next err _ =>
    split at h
    · next hc => cases h; exact .inl ⟨err, rfl, rfl, hc.2⟩
    · cases h
  · split at h
    · next hc => cases h; exact .inr ⟨rfl, hc, rfl⟩
    · cases h

/-- The wait for the refresh lock ends at the head of the queue, or in a cancellation. -/
theorem wakeOp_acquire {s : Serial} {r : Except PyErr Unit}
    (h : e.wakeOp t (.acquireRefresh s) r = some e') :
    r = .ok () ∧ (e.refreshQueue s).head? = some t ∧ e' = e ∨
      r = .error .cancelledError ∧
        e' = e.setRefreshQueue s ((e.refreshQueue s).erase t) := by
  cases r with
  | ok u =>
    simp only [wakeOp] at h
    split at h
    · next hq => cases h; exact .inl ⟨rfl, hq, rfl⟩
    · cases h
  | error err =>
    cases err with
    | cancelledError => cases h; exact .inr ⟨rfl, rfl⟩
    | _ => cases h

/-- The entries that the end of a wait leaves. -/
theorem wakeOp_cases {o : Op} {r : o.Res} (h : e.wakeOp t o r = some e') :
    (∃ f, e' = e.leave f t ∨ e' = (e.setSession f false).leave f t) ∨ e' = e ∨
      ∃ s, e' = e.setRefreshQueue s ((e.refreshQueue s).erase t) := by
  cases o with
  | call f m => exact .inl ⟨f, .inl (endCall_some h).1⟩
  | disconnect f =>
    rcases endDisconnect_some h with ⟨err, -, he, -⟩ | ⟨-, -, he⟩
    · exact .inl ⟨f, .inl he⟩
    · exact .inl ⟨f, .inr he⟩
  | acquireRefresh s =>
    rcases wakeOp_acquire h with ⟨-, -, he⟩ | ⟨-, he⟩
    · exact .inr (.inl he)
    · exact .inr (.inr ⟨s, he⟩)
  | getKey s force => cases h; exact .inr (.inl rfl)
  | _ => cases h

section
variable {o : Op} {r : o.Res} (h : e.wakeOp t o r = some e')
include h

theorem wakeOp_monitor : e'.monitor = e.monitor := by
  rcases wakeOp_cases h with ⟨f, rfl | rfl⟩ | rfl | ⟨s, rfl⟩ <;> rfl

theorem wakeOp_current (s : Serial) : e'.current s = e.current s := by
  rcases wakeOp_cases h with ⟨f, rfl | rfl⟩ | rfl | ⟨s', rfl⟩
  · exact current_setFacade ..
  · exact (current_setFacade ..).trans (current_setFacade ..)
  · rfl
  · exact current_setRefreshQueue ..

theorem wakeOp_loginToken (f : FacadeRef) :
    (e'.facade f).loginToken = (e.facade f).loginToken := by
  rcases wakeOp_cases h with ⟨f', rfl | rfl⟩ | rfl | ⟨s, rfl⟩
  · exact loginToken_leave ..
  · exact (loginToken_leave ..).trans (loginToken_setSession ..)
  · rfl
  · rw [facade_setRefreshQueue]

/-- A task leaves the queue of the facade it waited for. -/
theorem wakeOp_queue (f : FacadeRef) : (e'.facade f).queue =
    if o.waitsFor = some f then (e.facade f).queue.filter (·.1 != t)
    else (e.facade f).queue := by
  have hleave : ∀ (e : Entry) (f' : FacadeRef), ((e.leave f' t).facade f).queue =
      if some f' = some f then (e.facade f).queue.filter (·.1 != t)
      else (e.facade f).queue := by
    intro e f'
    rw [facade_leave]
    by_cases hf : f' = f
    · subst hf
      simp
    · simp [hf, Ne.symm hf]
  cases o with
  | call f' m =>
    rw [(endCall_some h).1]
    exact hleave e f'
  | disconnect f' =>
    rcases endDisconnect_some h with ⟨err, -, rfl, -⟩ | ⟨-, -, rfl⟩
    · exact hleave e f'
    · refine (hleave _ f').trans ?_
      rw [queue_setSession]
      rfl
  | acquireRefresh s =>
    rcases wakeOp_acquire h with ⟨-, -, rfl⟩ | ⟨-, rfl⟩
    · rfl
    · rw [facade_setRefreshQueue]
      rfl
  | getKey s force => cases h; rfl
  | _ => cases h

theorem wakeOp_refreshQueue (s : Serial) (ho : o ≠ .acquireRefresh s) :
    e'.refreshQueue s = e.refreshQueue s := by
  cases o with
  | call f m =>
    rw [(endCall_some h).1]
    exact refreshQueue_setFacade ..
  | disconnect f =>
    rcases endDisconnect_some h with ⟨err, -, rfl, -⟩ | ⟨-, -, rfl⟩
    · exact refreshQueue_setFacade ..
    · exact (refreshQueue_setFacade ..).trans (refreshQueue_setFacade ..)
  | acquireRefresh s' =>
    have hs : s ≠ s' := fun hs => ho (by rw [hs])
    rcases wakeOp_acquire h with ⟨-, -, rfl⟩ | ⟨-, rfl⟩
    · rfl
    · rw [refreshQueue_setRefreshQueue, if_neg hs]
  | getKey s' force => cases h; rfl
  | _ => cases h

/-- No wait ends with a session opened. -/
theorem wakeOp_session (f : FacadeRef) (hs : (e'.facade f).session = true) :
    (e.facade f).session = true := by
  rcases wakeOp_cases h with ⟨f', rfl | rfl⟩ | rfl | ⟨s, rfl⟩
  · rwa [session_leave] at hs
  · rw [session_leave, session_setSession] at hs
    split at hs
    · cases hs
    · exact hs
  · exact hs
  · rwa [facade_setRefreshQueue] at hs

end

end

/-! ## The environment -/

section
variable {e} {e' : Entry} {parse : ParseBroadcast} {ev : EnvEvent}
  (h : e.envStep parse ev = some e')
include h

/-- What the environment does. -/
theorem envStep_cases :
    (∃ ev : Timed, ev.event.isOwn = true ∧ e' = { e with monitor := e.monitor.step parse ev }) ∨
    (∃ f t, (e.facade f).queue.head? = some (t, true) ∧
      (e.monitor.states f.serial).address.isSome = true ∧ e' = e.setSession f true) ∨
    (∃ f, e' = e.setSession f false) ∨ ∃ x, e' = { e with expired := x } := by
  cases ev with
  | monitor ev =>
    simp only [envStep] at h
    split at h
    · next hown => cases h; exact .inl ⟨ev, hown, rfl⟩
    · cases h
  | connect f deviceFor =>
    simp only [envStep] at h
    split at h
    · next hc =>
      cases h
      obtain ⟨hhead, hdev⟩ := hc
      have haddr : (e.monitor.states f.serial).address.isSome = true := by
        cases ha : (e.monitor.states f.serial).address with
        | none => rw [ha] at hdev; cases hdev
        | some a => rfl
      obtain ⟨⟨t, b⟩, hq, hb⟩ := (Option.any_eq_true _ _).mp hhead
      cases hb
      exact .inr (.inl ⟨f, t, hq, haddr, rfl⟩)
    · cases h
  | drop f => cases h; exact .inr (.inr (.inl ⟨f, rfl⟩))
  | expire x => cases h; exact .inr (.inr (.inr ⟨x, rfl⟩))

theorem envStep_monitor : e'.monitor = e.monitor ∨
    ∃ ev : Timed, ev.event.isOwn = true ∧ e'.monitor = e.monitor.step parse ev := by
  rcases envStep_cases h with ⟨ev, hown, rfl⟩ | ⟨f, t, -, -, rfl⟩ | ⟨f, rfl⟩ | ⟨x, rfl⟩
  · exact .inr ⟨ev, hown, rfl⟩
  · exact .inl rfl
  · exact .inl rfl
  · exact .inl rfl

theorem envStep_current (s : Serial) : e'.current s = e.current s := by
  rcases envStep_cases h with ⟨ev, -, rfl⟩ | ⟨f, t, -, -, rfl⟩ | ⟨f, rfl⟩ | ⟨x, rfl⟩
  · rfl
  · exact current_setFacade ..
  · exact current_setFacade ..
  · rfl

theorem envStep_refreshQueue (s : Serial) : e'.refreshQueue s = e.refreshQueue s := by
  rcases envStep_cases h with ⟨ev, -, rfl⟩ | ⟨f, t, -, -, rfl⟩ | ⟨f, rfl⟩ | ⟨x, rfl⟩
  · rfl
  · exact refreshQueue_setFacade ..
  · exact refreshQueue_setFacade ..
  · rfl

theorem envStep_queue (f : FacadeRef) : (e'.facade f).queue = (e.facade f).queue := by
  rcases envStep_cases h with ⟨ev, -, rfl⟩ | ⟨f', t, -, -, rfl⟩ | ⟨f', rfl⟩ | ⟨x, rfl⟩
  · rfl
  · exact queue_setSession ..
  · exact queue_setSession ..
  · rfl

theorem envStep_loginToken (f : FacadeRef) :
    (e'.facade f).loginToken = (e.facade f).loginToken := by
  rcases envStep_cases h with ⟨ev, -, rfl⟩ | ⟨f', t, -, -, rfl⟩ | ⟨f', rfl⟩ | ⟨x, rfl⟩
  · rfl
  · exact loginToken_setSession ..
  · exact loginToken_setSession ..
  · rfl

/-- A session opens for the command at the head of its queue, at a known address. -/
theorem envStep_session (f : FacadeRef) (hs : (e'.facade f).session = true) :
    (e.facade f).session = true ∨ (∃ t, (e.facade f).queue.head? = some (t, true)) ∧
      (e.monitor.states f.serial).address.isSome = true := by
  rcases envStep_cases h with ⟨ev, -, rfl⟩ | ⟨f', t, hq, haddr, rfl⟩ | ⟨f', rfl⟩ | ⟨x, rfl⟩
  · exact .inl hs
  · by_cases hf : f = f'
    · subst hf; exact .inr ⟨⟨t, hq⟩, haddr⟩
    · rw [session_setSession, if_neg hf] at hs
      exact .inl hs
  · rw [session_setSession] at hs
    split at hs
    · cases hs
    · exact .inl hs
  · exact .inl hs

end

/-- A part of a device's state that no write of a task concerns is left alone by every step of a
task. -/
theorem step_states {parse : ParseBroadcast} {β : Type} {v : DanalockDeviceState → β}
    (hpending : ∀ state b, v { state with pendingLocked := some b } = v state)
    (hsettings : ∀ state settings, v (DanalockDeviceState.applySettings state settings) = v state)
    (serial : Serial) {c : EntryConfig parse} {l : EntryLabel parse} (hl : ∀ e, l ≠ .env e) :
    v ((Config.step Request.prog c l).state.monitor.states serial) =
      v (c.state.monitor.states serial) := by
  refine Config.step_view (v := fun e : Entry => v (e.monitor.states serial)) Request.prog
    ?_ ?_ ?_ hl
  · intro t o e r e' hr
    simp only [runOp_states serial 0 hr]
    cases o with
    | setPending s locked =>
      simp only [Op.deviceEvent]
      split
      · exact hpending _ locked
      · rfl
    | applySettings s settings =>
      simp only [Op.deviceEvent]
      split
      · exact hsettings _ settings
      · rfl
    | _ => rfl
  · intro t o e
    simp only [parkOp_monitor]
  · intro t o r e e' hw
    simp only [wakeOp_monitor hw]

end Entry

end DanalockBle
