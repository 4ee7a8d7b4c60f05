import DanalockBle.Broadcast.Availability
import DanalockBle.Entry.Requests

/-!
# Sessions and the tasks that close them

A command opens a session of the facade it was called on and disconnects the facade that
`self._lock` is when its cleanup runs. The two are the same unless the facade is swapped while the
command waits for the facade's lock. As long as no swap finds a command in the queue of the
facade it replaces, an open session has a task that owes its disconnect (`Owed`), so none is open
once all tasks have ended; with such a swap a session outlives its command.
-/

namespace DanalockBle

open Coroutine Coroutine.Coro

/-- Where a task is in its use of the facade: it has read `self._lock`, its call has ended, its
cleanup has read `self._lock`. -/
inductive Phase where
  | free
  | seen
  | returned
  | closing
  deriving DecidableEq, Repr

/-- A command is called right after `self._lock` is read, and is followed by the disconnect of
what `self._lock` is then. Disconnects do not fail. -/
@[reducible] def usage (f : FacadeRef) : Protocol sig where
  Ghost := Phase
  may
    | .free, .call f' _ => f' ≠ f
    | .free, _ => True
    | .seen, .call f' _ => f' = f
    | .seen, .disconnect f' => f' = f
    | .returned, .lockRef s => s = f.serial
    | .closing, .disconnect f' => f' = f
    | _, _ => False
  after
    | .free, .lockRef s, f' =>
      if f'.serial = s then some (if f' = f then .seen else .free) else none
    | .returned, .lockRef _, f' => if f' = f then some .closing else none
    | .seen, .call _ _, _ => some .returned
    | _, .disconnect _, .ok _ => some .free
    | _, .disconnect _, .error _ => none
    | g, _, _ => some g

/-- The coroutine owes nothing to the facade, before and after. -/
abbrev Balanced {α : Type} (f : FacadeRef) (c : Py α) : Prop := Restores (usage f) .free c

section
variable {f : FacadeRef}

/-- Disconnecting what `self._lock` is. -/
theorem disconnect_balanced (s : Serial) : Balanced f (DanalockControl.disconnect s) := by
  refine ⟨trivial, fun f' g hg => ?_⟩
  simp only at hg
  split at hg
  · obtain rfl := Option.some.inj hg
    by_cases hf : f' = f
    · rw [if_pos hf]
      refine ⟨hf, fun r g hr => ?_⟩
      cases r with
      | ok u => cases hr; rfl
      | error e => cases hr
    · rw [if_neg hf]
      refine ⟨trivial, fun r g hr => ?_⟩
      cases r with
      | ok u => cases hr; rfl
      | error e => cases hr
  · cases hg

/-- After a call on the facade the task owes a disconnect of it. -/
theorem callLock_usage (s : Serial) (m : Method) :
    Meets (usage f) .free (DanalockControl.callLock s m) fun _ g =>
      g = .free ∨ g = .returned ∧ s = f.serial := by
  refine ⟨trivial, fun f' g hg => ?_⟩
  simp only at hg
  split at hg
  · next hs =>
    obtain rfl := Option.some.inj hg
    by_cases hf : f' = f
    · rw [if_pos hf]
      refine ⟨hf, fun r g hr => ?_⟩
      cases hr
      have hend : Phase.returned = .free ∨ Phase.returned = .returned ∧ s = f.serial :=
        .inr ⟨rfl, by rw [← hs, hf]⟩
      cases r <;> exact hend
    · rw [if_neg hf]
      refine ⟨hf, fun r g hr => ?_⟩
      cases hr
      cases r <;> exact .inl rfl
  · cases hg

theorem body_usage (s : Serial) (m : Method) :
    Meets (usage f) .free (DanalockControl.body s m) fun _ g =>
      g = .free ∨ g = .returned ∧ s = f.serial := by
  cases m with
  | deviceInformation =>
    refine Meets.tryExcept ((callLock_usage s _).mono fun r g h => ?_)
    cases r with
    | ok v => exact h
    | error e => cases e <;> exact h
  | _ => exact callLock_usage s _

/-- An attempt pays what it owes. -/
theorem attemptCall_balanced (s : Serial) (m : Method) :
    Balanced f (DanalockControl.attemptCall s (DanalockControl.body s m)) := by
  refine Meets.tryFinally ((body_usage s m).mono fun r g h => ?_)
  rcases h with rfl | ⟨rfl, hs⟩
  · refine (disconnect_balanced s).mono fun r' g hg => ?_
    cases r' <;> exact hg
  · refine ⟨hs, fun f' g hg => ?_⟩
    simp only at hg
    split at hg
    · next hf =>
      cases hg
      refine ⟨hf, fun r' g hr => ?_⟩
      cases r' with
      | ok u => cases hr; rfl
      | error e => cases hr
    · cases hg

/-- An operation that the task may perform when it owes nothing, and that leaves it so. -/
theorem op_balanced {α : Type} {o : Op} {k : o.Res → Py α} (hmay : (usage f).may .free o)
    (hafter : ∀ r, (usage f).after .free o r = some .free) (hk : ∀ r, Balanced f (k r)) :
    Balanced f (.op o k : Py α) :=
  Restores.op hmay (fun r g hg => by rw [hafter] at hg; exact (Option.some.inj hg).symm) hk

theorem setKey_balanced (s : Serial) (key : DeviceKey) :
    Balanced f (DanalockControl.setKey s key) :=
  setKey_of_parts s (Restores.compositional (usage f) .free) (disconnect_balanced s)
    (fun _ => op_balanced trivial (fun _ => rfl) Restores.ret) key

theorem refresh_balanced (s : Serial) (force : Bool) :
    Balanced f (DanalockKeyManager.refresh s force) := by
  refine refresh_of_parts s (Restores.compositional (usage f) .free) ?_ ?_ ?_ ?_
    (setKey_balanced s) ?_ ?_ force
  · exact op_balanced trivial (fun _ => rfl) Restores.ofResult
  · exact fun _ => op_balanced trivial (fun _ => rfl) Restores.ofResult
  · exact fun _ => op_balanced trivial (fun _ => rfl) Restores.ret
  · exact op_balanced trivial (fun _ => rfl) Restores.ret
  · exact op_balanced trivial (fun _ => rfl) Restores.ret
  · exact op_balanced trivial (fun _ => rfl) Restores.ret

theorem usage_parts : Parts (usage f) .free where
  may o ho := by cases o <;> trivial
  after o r g' ho hr := by cases o <;> first | (cases hr; rfl) | cases ho
  refresh s force := refresh_balanced s force
  attempt s m := attemptCall_balanced s m
  disconnect s := disconnect_balanced s

end

/-! ## Runs -/

/-- A disconnect ends in success. -/
def disconnects : (o : Op) → o.Res → Bool
  | .disconnect _, r => r.isOk
  | _, _ => true

/-- The operation does not replace a facade that has a command in its queue. -/
def swapsIdle (e : Entry) : Op → Bool
  | .buildFacade s _ => (e.facade (e.current s)).queue.all fun w => !w.2
  | _ => true

/-- What is assumed of the facade. -/
def facadeGuard (parse : ParseBroadcast) : Guard (entryMachine parse) Request where
  spawn _ := true
  op _ o r _ := disconnects o r

/-- Beside that, every swap finds the facade idle. -/
def swapGuard (parse : ParseBroadcast) : Guard (entryMachine parse) Request where
  spawn _ := true
  op _ o r e := disconnects o r && swapsIdle e o

/-- The task owes a disconnect. -/
def Phase.owes : Phase → Bool
  | returned | closing => true
  | _ => false

/-- The task waits in a call on the facade. -/
def Calls (f : FacadeRef) (p : Option (Phase × Option Op)) : Prop :=
  ∃ g m, p = some (g, some (.call f m))

/-- The task calls the facade, or owes it a disconnect. -/
def Owes (f : FacadeRef) (p : Option (Phase × Option Op)) : Prop :=
  Calls f p ∨ ∃ g w, p = some (g, w) ∧ g.owes = true

/-- An open session has a task that owes its disconnect, on the facade that `self._lock` is. -/
structure Owed (f : FacadeRef) (e : Entry) (Γ : View (usage f)) : Prop where
  queued : ∀ t, (t, true) ∈ (e.facade f).queue ↔ Calls f (Γ t)
  calling : ∀ t g m, Γ t = some (g, some (.call f m)) → e.current f.serial = f
  running : ∀ t g, Γ t = some (g, none) → g = .seen ∨ g = .returned → e.current f.serial = f
  session : (e.facade f).session = true → ∃ t, Owes f (Γ t)

section
variable {parse : ParseBroadcast} {f : FacadeRef} {e e' : Entry} {Γ : View (usage f)} {t : TaskId}

/-- A step that leaves the facade's commands alone, opens no session and swaps nothing. -/
theorem Owed.frame (h : Owed f e Γ)
    (hqueue : ∀ t, (t, true) ∈ (e'.facade f).queue ↔ (t, true) ∈ (e.facade f).queue)
    (hcurrent : e'.current f.serial = e.current f.serial)
    (hsession : (e'.facade f).session = true → (e.facade f).session = true) : Owed f e' Γ where
  queued t := (hqueue t).trans (h.queued t)
  calling t g m ht := hcurrent.trans (h.calling t g m ht)
  running t g ht hg := hcurrent.trans (h.running t g ht hg)
  session hs := h.session (hsession hs)

/-- A task that does not wait in a call on the facade goes on to something else. -/
theorem Owed.update (h : Owed f e Γ) {p : Option (Phase × Option Op)} (hbefore : ¬ Calls f (Γ t))
    (hafter : ¬ Calls f p)
    (hrunning : ∀ g, p = some (g, none) → g = .seen ∨ g = .returned → e.current f.serial = f)
    (howes : (e.facade f).session = true → Owes f (Γ t) → Owes f p) :
    Owed f e (Function.update Γ t p) where
  queued := (Function.forall_update_iff Γ fun t p => (t, true) ∈ (e.facade f).queue ↔ Calls f p).mpr
    ⟨(h.queued t).trans (iff_of_false hbefore hafter), fun t' _ => h.queued t'⟩
  calling := (Function.forall_update_iff Γ fun _ p => ∀ g m, p = some (g, some (.call f m)) →
    e.current f.serial = f).mpr ⟨fun g m hp => absurd ⟨g, m, hp⟩ hafter, fun t' _ => h.calling t'⟩
  running := (Function.forall_update_iff Γ fun _ p => ∀ g, p = some (g, none) →
    g = .seen ∨ g = .returned → e.current f.serial = f).mpr ⟨hrunning, fun t' _ => h.running t'⟩
  session hs := by
    obtain ⟨t', ho⟩ := h.session hs
    refine (Function.exists_update_iff Γ fun _ p => Owes f p).mpr ?_
    by_cases hne : t' = t
    · subst hne
      exact .inl (howes hs ho)
    · exact .inr ⟨t', hne, ho⟩

theorem not_calls_running (g : Phase) : ¬ Calls f (some (g, none)) := by
  rintro ⟨g', m, h⟩
  cases h

theorem not_owes_free : ¬ Owes f (some (.free, none)) := by
  rintro (h | ⟨g, w, h, hg⟩)
  · exact not_calls_running _ h
  · cases h
    cases hg

/-- A new facade, where no command is in the queue of the one it replaces. -/
theorem Owed.buildFacade (h : Owed f e Γ) {s : Serial} (token : Bytes)
    (hidle : swapsIdle e (.buildFacade s token) = true)
    (hfree : ∀ t g, Γ t = some (g, none) → g = .free) : Owed f (e.buildFacade s token) Γ := by
  have hrunning : ∀ t g, Γ t = some (g, none) → g = .seen ∨ g = .returned →
      (e.buildFacade s token).current f.serial = f := by
    intro t g ht hg
    rw [hfree t g ht] at hg
    rcases hg with hg | hg <;> cases hg
  by_cases hnew : f = ⟨s, (e.current s).gen + 1⟩
  · -- nobody has called the facade that is built now
    have hnone : ∀ t, ¬ Calls f (Γ t) := by
      rintro t ⟨g, m, ht⟩
      have hcur := h.calling t g m ht
      rw [hnew] at hcur
      have hgen := congrArg FacadeRef.gen hcur
      simp only at hgen
      omega
    have hfacade : (e.buildFacade s token).facade f = { loginToken := token } := by
      rw [Entry.facade_buildFacade, if_pos hnew]
    refine ⟨fun t => ?_, fun t g m ht => absurd ⟨g, m, ht⟩ (hnone t), hrunning, fun hs => ?_⟩
    · rw [hfacade]
      exact iff_of_false List.not_mem_nil (hnone t)
    · rw [hfacade] at hs
      cases hs
  · have hfacade : (e.buildFacade s token).facade f = e.facade f := by
      rw [Entry.facade_buildFacade, if_neg hnew]
    refine ⟨fun t => ?_, fun t g m ht => ?_, hrunning, fun hs => ?_⟩
    · rw [hfacade]
      exact h.queued t
    · have hcur := h.calling t g m ht
      rw [Entry.current_buildFacade]
      split
      · next hs =>
        -- the call is in the queue of the facade that is replaced
        have hmem : (t, true) ∈ (e.facade (e.current s)).queue := by
          rw [← hs, hcur]
          exact (h.queued t).mpr ⟨g, m, ht⟩
        have hno := List.all_eq_true.mp hidle (t, true) hmem
        cases hno
      · exact hcur
    · rw [hfacade] at hs
      exact h.session hs

/-- The cleanup reads `self._lock`, which is the facade that was called. -/
theorem Owed.runReturned (h : Owed f e Γ) (ht : Γ t = some (.returned, none)) :
    e.current f.serial = f ∧ Owed f e (Function.update Γ t (some (.closing, none))) := by
  refine ⟨h.running t _ ht (.inr rfl), h.update ?_ (not_calls_running _) ?_ ?_⟩
  · rw [ht]
    exact not_calls_running _
  · rintro g hg (rfl | rfl) <;> cases hg
  · exact fun _ _ => .inr ⟨_, _, rfl, rfl⟩

/-- A task that owes nothing reads `self._lock`. -/
theorem Owed.runLockRef (h : Owed f e Γ) (ht : Γ t = some (.free, none)) (s : Serial) :
    Owed f e (Function.update Γ t
      (some (if e.current s = f then .seen else .free, none))) := by
  refine h.update (by rw [ht]; exact not_calls_running _) (not_calls_running _) (fun g hg hgs => ?_)
    fun _ ho => absurd (ht ▸ ho) not_owes_free
  by_cases hf : e.current s = f
  · have hs : s = f.serial := by rw [← hf]; rfl
    rw [← hs]
    exact hf
  · rw [if_neg hf] at hg
    cases hg
    rcases hgs with hgs | hgs <;> cases hgs

theorem Owed.run (h : Owed f e Γ) {g : Phase} (ht : Γ t = some (g, none))
    (hothers : ∀ t' g' w, t' ≠ t → Γ t' = some (g', w) → w.isSome = true) {o : Op} {r : o.Res}
    (hmay : (usage f).may g o) (hr : e.runOp t o = some (r, e'))
    (hidle : swapsIdle e o = true) :
    ∃ g', (usage f).after g o r = some g' ∧
      Owed f e' (Function.update Γ t (some (g', none))) := by
  cases g with
  | seen => cases o <;> first | (cases hmay; done) | cases hr
  | closing => cases o <;> first | (cases hmay; done) | cases hr
  | returned =>
    cases o with
    | lockRef s =>
      obtain rfl : s = f.serial := hmay
      cases hr
      obtain ⟨hcur, hI⟩ := h.runReturned ht
      exact ⟨.closing, if_pos hcur, hI⟩
    | _ => cases hmay
  | free =>
    have hself : Function.update Γ t (some (.free, none)) = Γ := by
      rw [← ht, Function.update_eq_self]
    cases o with
    | lockRef s =>
      cases hr
      exact ⟨_, if_pos rfl, h.runLockRef ht s⟩
    | buildFacade s token =>
      cases hr
      refine ⟨.free, rfl, ?_⟩
      rw [hself]
      refine h.buildFacade token hidle fun t' g ht' => ?_
      by_cases hne : t' = t
      · subst hne
        rw [ht] at ht'
        cases ht'
        rfl
      · cases hothers t' g none hne ht'
    | call f' m => cases hr
    | disconnect f' => cases hr
    | _ =>
      refine ⟨.free, rfl, ?_⟩
      rw [hself]
      have hfacade := Entry.runOp_facade f hr
      have hcur := Entry.runOp_current f.serial hr
      exact h.frame (fun t => by rw [hfacade]) hcur fun hs => by rwa [hfacade] at hs

theorem parkOp_commands (e : Entry) (t : TaskId) {o : Op} (ho : ∀ m, o ≠ .call f m)
    (t' : TaskId) :
    (t', true) ∈ ((e.parkOp t o).facade f).queue ↔ (t', true) ∈ (e.facade f).queue := by
  rw [Entry.parkOp_facade]
  cases o with
  | call f' m =>
    have hf : f ≠ f' := fun hf => ho m (by rw [hf])
    simp only [hf, if_false]
  | disconnect f' =>
    simp only
    split
    · simp
    · rfl
  | _ => rfl

/-- Only a task that has read `self._lock` calls the facade. -/
theorem usage_call {g : Phase} {m : Method} (h : (usage f).may g (.call f m)) : g = .seen := by
  cases g with
  | free => exact absurd rfl h
  | seen => rfl
  | returned => cases h
  | closing => cases h

/-- A call joins the queue of the facade that `self._lock` is. -/
theorem Owed.parkCall (h : Owed f e Γ) (ht : Γ t = some (.seen, none)) (m : Method) :
    Owed f (e.parkOp t (.call f m)) (Function.update Γ t (some (.seen, some (.call f m)))) := by
  have hcur : (e.parkOp t (.call f m)).current f.serial = f := by
    rw [Entry.parkOp_current]
    exact h.running t _ ht (.inl rfl)
  refine ⟨fun t' => ?_, fun _ _ _ _ => hcur, fun _ _ _ _ => hcur, fun _ => ⟨t, ?_⟩⟩
  · rw [Entry.parkOp_facade]
    by_cases hne : t' = t
    · subst hne
      rw [Function.update_self]
      exact iff_of_true (by simp) ⟨_, m, rfl⟩
    · rw [Function.update_of_ne hne, ← h.queued t']
      simp [hne]
  · rw [Function.update_self]
    exact .inl ⟨_, m, rfl⟩

theorem Owed.park (h : Owed f e Γ) {g : Phase} (ht : Γ t = some (g, none)) {o : Op}
    (hmay : (usage f).may g o) :
    Owed f (e.parkOp t o) (Function.update Γ t (some (g, some o))) := by
  by_cases hcall : ∃ m, o = .call f m
  · obtain ⟨m, rfl⟩ := hcall
    obtain rfl := usage_call hmay
    exact h.parkCall ht m
  · have hno : ∀ m, o ≠ .call f m := fun m hm => hcall ⟨m, hm⟩
    have hsession : ((e.parkOp t o).facade f).session = true → (e.facade f).session = true := by
      rw [Entry.session_parkOp]
      exact id
    refine (h.frame (parkOp_commands e t hno) (by rw [Entry.parkOp_current]) hsession).update
      (by rw [ht]; exact not_calls_running g) ?_ ?_ fun _ ho => ?_
    · rintro ⟨g', m, hg⟩
      cases hg
      exact hno m rfl
    · intro g' hg
      cases hg
    · rw [ht] at ho
      rcases ho with ho | ⟨g', w, hg, howes⟩
      · exact absurd ho (not_calls_running g)
      · cases hg
        exact .inr ⟨g, _, rfl, howes⟩

/-- A call that has ended owes a disconnect. -/
theorem Owed.wakeCall (h : Owed f e Γ) {g : Phase} {m : Method}
    (ht : Γ t = some (g, some (.call f m))) {r : Except PyErr m.Result}
    (hw : e.wakeOp t (.call f m) r = some e') :
    Owed f e' (Function.update Γ t (some (.returned, none))) := by
  have hcur : e'.current f.serial = f :=
    (Entry.wakeOp_current hw f.serial).trans (h.calling t _ m ht)
  refine ⟨fun t' => ?_, fun _ _ _ _ => hcur, fun _ _ _ _ => hcur, fun _ => ⟨t, ?_⟩⟩
  · rw [(Entry.wakeOp_queue hw f).trans (if_pos rfl)]
    by_cases hne : t' = t
    · subst hne
      rw [Function.update_self]
      exact iff_of_false (by simp) (not_calls_running _)
    · rw [Function.update_of_ne hne, ← h.queued t']
      simp [hne]
  · rw [Function.update_self]
    exact .inr ⟨_, _, rfl, rfl⟩

/-- Another wait leaves the commands of the facade alone. -/
theorem Owed.wakeOther (h : Owed f e Γ) {o : Op} (hbefore : ¬ Calls f (Γ t)) {r : o.Res}
    (hw : e.wakeOp t o r = some e') : Owed f e' Γ := by
  refine h.frame (fun t' => ?_) (Entry.wakeOp_current hw f.serial) (Entry.wakeOp_session hw f)
  rw [Entry.wakeOp_queue hw f]
  split
  · -- the task itself was in the queue for a disconnect
    have hne : (t', true) ∈ (e.facade f).queue → t' ≠ t := by
      rintro hmem rfl
      exact hbefore ((h.queued t').mp hmem)
    simpa using hne
  · rfl

theorem Owed.wake (h : Owed f e Γ) {g : Phase} {o : Op} (ht : Γ t = some (g, some o)) {r : o.Res}
    (hmay : (usage f).may g o) (hw : e.wakeOp t o r = some e') (hd : disconnects o r = true) :
    ∃ g', (usage f).after g o r = some g' ∧
      Owed f e' (Function.update Γ t (some (g', none))) := by
  by_cases hcall : ∃ m, o = .call f m
  · obtain ⟨m, rfl⟩ := hcall
    obtain rfl := usage_call hmay
    exact ⟨.returned, rfl, h.wakeCall ht hw⟩
  have hbefore : ¬ Calls f (Γ t) := by
    rintro ⟨g', m, hg⟩
    rw [ht] at hg
    cases hg
    exact hcall ⟨m, rfl⟩
  -- the task goes on owing nothing, and owed nothing while the session is open
  have hfree : (usage f).after g o r = some .free →
      ((e'.facade f).session = true → g.owes = false) →
      ∃ g', (usage f).after g o r = some g' ∧
        Owed f e' (Function.update Γ t (some (g', none))) := by
    intro hafter howes
    refine ⟨.free, hafter, (h.wakeOther hbefore hw).update hbefore (not_calls_running _) ?_
      fun hs ho => ?_⟩
    · rintro g' hg (rfl | rfl) <;> cases hg
    · rcases ho with ho | ⟨g', w, hg, ho⟩
      · exact absurd ho hbefore
      · rw [ht] at hg
        cases hg
        rw [howes hs] at ho
        cases ho
  cases o with
  | call f' m =>
    have hg : g = .free := by
      cases g with
      | free => rfl
      | seen => exact absurd ⟨m, by rw [show f' = f from hmay]⟩ hcall
      | returned => cases hmay
      | closing => cases hmay
    subst hg
    exact hfree rfl fun _ => rfl
  | disconnect f' =>
    rcases Entry.endDisconnect_some hw with ⟨err, rfl, -, -⟩ | ⟨rfl, -, rfl⟩
    · cases hd
    · refine hfree (by cases g <;> rfl) fun hs => ?_
      cases g with
      | closing =>
        have hf : f' = f := hmay
        rw [Entry.session_leave, Entry.session_setSession, if_pos hf.symm] at hs
        cases hs
      | returned => cases hmay
      | _ => rfl
  | acquireRefresh s => cases g <;> first | (cases hmay; done) | exact hfree rfl fun _ => rfl
  | getKey s force => cases g <;> first | (cases hmay; done) | exact hfree rfl fun _ => rfl
  | _ => cases hw

theorem Owed.env (h : Owed f e Γ) {ev : EnvEvent} (he : e.envStep parse ev = some e') :
    Owed f e' Γ := by
  have hqueue := Entry.envStep_queue he f
  have hcurrent := Entry.envStep_current he f.serial
  refine ⟨fun t => by rw [hqueue]; exact h.queued t, fun t g m ht => ?_, fun t g ht hg => ?_,
    fun hs => ?_⟩
  · exact hcurrent.trans (h.calling t g m ht)
  · exact hcurrent.trans (h.running t g ht hg)
  · rcases Entry.envStep_session he f hs with hs | ⟨⟨t, hq⟩, -⟩
    · exact h.session hs
    · exact ⟨t, .inl ((h.queued t).mp (List.mem_of_mem_head? hq))⟩

theorem owed_keeps (parse : ParseBroadcast) (f : FacadeRef) :
    Keeps Request.prog (swapGuard parse) (usage f) (fun _ => .free) (fun _ _ g => g = .free)
      (Owed f) where
  meets req _ := usage_parts.prog req fun s key _ => setKey_balanced s key
  spawn s Γ t req hI hΓ _ := by
    refine hI.update ?_ (not_calls_running _) ?_ fun _ ho => ?_
    · rintro ⟨g, m, h⟩
      rw [hΓ] at h
      cases h
    · rintro g hg (rfl | rfl) <;> cases hg
    · rw [hΓ] at ho
      rcases ho with ⟨g, m, h⟩ | ⟨g, w, h, -⟩ <;> cases h
  run s Γ t g o r s' hI hΓ hothers hmay hr hG :=
    hI.run hΓ hothers hmay hr (Bool.and_eq_true_iff.mp hG).2
  park s Γ t g o hI hΓ hmay _ := hI.park hΓ hmay
  wake s Γ t g o r s' hI hΓ hmay hw hG := hI.wake hΓ hmay hw (Bool.and_eq_true_iff.mp hG).1
  finish s Γ t req r g hI hΓ hg := by
    subst hg
    refine hI.update (by rw [hΓ]; exact not_calls_running _) ?_ ?_ fun _ ho => ?_
    · rintro ⟨g, m, h⟩
      cases h
    · intro g hg
      cases hg
    · rw [hΓ] at ho
      exact absurd ho not_owes_free
  env s Γ ev s' hI he := hI.env he

end

/-- **No session outlives its command** in a run in which every swap finds the facade it replaces
without a command in its queue: once all tasks have ended, no facade has an open session. -/
theorem no_open_session (parse : ParseBroadcast) (serials : List Serial) (nodup : serials.Nodup)
    (keys : Serial → DeviceKey) (ls : List (EntryLabel parse))
    (hswaps : Runs.Steps (Config.step Request.prog)
      (fun c l => Config.allowed Request.prog (swapGuard parse) c l = true)
      (EntryConfig.init parse serials nodup keys) ls)
    (hended : ∀ t, (EntryConfig.run parse serials nodup keys ls).tasks t = none)
    (f : FacadeRef) :
    ((EntryConfig.run parse serials nodup keys ls).state.facade f).session = false := by
  have hinit : Owed f (Entry.init serials nodup keys) fun _ => none := by
    refine ⟨fun t => ?_, nofun, nofun, nofun⟩
    refine iff_of_false List.not_mem_nil ?_
    rintro ⟨g, m, h⟩
    cases h
  obtain ⟨Γ, hI, hT⟩ := (owed_keeps parse f).run_inv ⟨_, hinit, Tracks.of_none fun _ => rfl⟩ hswaps
  rw [hT.view_none hended] at hI
  rw [Bool.eq_false_iff]
  intro hs
  rcases hI.session hs with ⟨t, ⟨g, m, h⟩ | ⟨g, w, h, -⟩⟩ <;> cases h

/-- Two commands at once, a key that is swapped in behind them while the second still disconnects,
and a command on the new facade. -/
def swapped : List (EntryLabel exampleParse) :=
  [.env (.monitor (atSecond 1 (.advertisement (exampleInfo 0)))), .spawn 0 (.lock "L1" true),
    .spawn 1 (.press "L1" "set_point_closed" 1), .env (.connect ⟨"L1", 0⟩ fun _ _ => some ()),
    .resume 0 done, .spawn 2 (.setKey "L1" ⟨[1], []⟩), .resume 1 done, .resume 0 done,
    .resume 2 done, .spawn 3 (.lock "L1" false), .resume 1 done,
    .env (.connect ⟨"L1", 1⟩ fun _ _ => some ()), .resume 3 done, .resume 3 done]

/-- Neither facade has a session. -/
theorem no_open_session_swapped :
    let c := EntryConfig.run exampleParse ["L1"] (by decide) exampleKeys swapped
    (c.state.facade ⟨"L1", 0⟩).session = false ∧ (c.state.facade ⟨"L1", 1⟩).session = false := by
  have hclosed := no_open_session exampleParse ["L1"] (by decide) exampleKeys swapped
    (by decide +kernel)
    (EntryConfig.run_ended exampleParse ["L1"] (by decide) exampleKeys 4 (by decide)
      (by decide +kernel))
  exact ⟨hclosed ⟨"L1", 0⟩, hclosed ⟨"L1", 1⟩⟩

/-- A key is swapped in while a lock command runs, and a second command waits for the lock of the
facade that is replaced. -/
def overtaken : List (EntryLabel exampleParse) :=
  [.env (.monitor (atSecond 1 (.advertisement (exampleInfo 0)))), .spawn 0 (.lock "L1" true),
    .env (.connect ⟨"L1", 0⟩ fun _ _ => some ()), .spawn 1 (.setKey "L1" ⟨[1], []⟩),
    .resume 0 done, .spawn 2 (.press "L1" "set_point_closed" 1), .resume 1 done, .resume 0 done,
    .env (.connect ⟨"L1", 0⟩ fun _ _ => some ()), .resume 2 done, .resume 2 done]

/-- The cleanup of the second command disconnects the new facade, and the session it opened on
the old one stays open. -/
theorem open_session_overtaken :
    ¬ ∀ ls : List (EntryLabel exampleParse),
      Runs.Steps (Config.step Request.prog)
        (fun c l => Config.allowed Request.prog (facadeGuard exampleParse) c l = true)
        (EntryConfig.init exampleParse ["L1"] (by decide) exampleKeys) ls →
      (∀ t, (EntryConfig.run exampleParse ["L1"] (by decide) exampleKeys ls).tasks t = none) →
      ∀ f, ((EntryConfig.run exampleParse ["L1"] (by decide) exampleKeys
        ls).state.facade f).session = false := by
  intro h
  have hended : ∀ t, (EntryConfig.run exampleParse ["L1"] (by decide) exampleKeys
      overtaken).tasks t = none :=
    EntryConfig.run_ended exampleParse ["L1"] (by decide) exampleKeys 3 (by decide)
      (by decide +kernel)
  have hclosed := h overtaken (by decide +kernel) hended ⟨"L1", 0⟩
  have hopen : ((EntryConfig.run exampleParse ["L1"] (by decide) exampleKeys
      overtaken).state.facade ⟨"L1", 0⟩).session = true := by decide +kernel
  rw [hopen] at hclosed
  cases hclosed

end DanalockBle
