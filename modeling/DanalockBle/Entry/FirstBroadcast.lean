import DanalockBle.Broadcast.Availability
import DanalockBle.Entry.Requests

/-!
# Before the first broadcast

Until a device is heard its address is unknown, so no session opens, no reply of the lock
arrives and no command succeeds: nothing a command verified can be stored yet, and the first
report finds nothing to discard. A task earns the right to store by a reply of the lock
(`evidence`), a reply needs a session, and a session the address.
-/

namespace DanalockBle

open Coroutine Coroutine.Coro

namespace DanalockDeviceState

/-- Nothing received from the device is stored. -/
structure Unset (state : DanalockDeviceState) : Prop where
  report : state.report = none
  rssi : state.rssi = none
  lastSeen : state.lastSeen = none
  address : state.address = none
  lastInfo : state.lastInfo = none

/-- Everything received from the device is stored. -/
structure AllSet (state : DanalockDeviceState) : Prop where
  report : state.report.isSome = true
  rssi : state.rssi.isSome = true
  lastSeen : state.lastSeen.isSome = true
  address : state.address.isSome = true
  lastInfo : state.lastInfo.isSome = true

/-- Nothing that a command verified is stored. -/
structure Unverified (state : DanalockDeviceState) : Prop where
  pendingLocked : state.pendingLocked = none
  settingValues : ∀ name, state.settingValues name = none

theorem Unset.not_allSet {state : DanalockDeviceState} (h : state.Unset) : ¬ state.AllSet := by
  intro h'
  have ha := h'.address
  rw [h.address] at ha
  cases ha

/-- A device is heard, or nothing is known of it. -/
def HeardOrUnknown (state : DanalockDeviceState) : Prop :=
  state.AllSet ∨ state.Unset ∧ state.Unverified

section
variable {state : DanalockDeviceState} (now : Instant) (report : BroadcastReport)
  (info : ServiceInfo)

theorem allSet_accepted (h : state.report.isSome = true ∨ state.report = none) :
    (state.accepted now report info).AllSet where
  report := by
    rw [accepted_report]
    rcases h with h | h
    · split
      · rfl
      · exact h
    · have hch : state.reportChanged report = true := by
        unfold reportChanged
        rw [h]
      rw [if_pos hch]
      rfl
  rssi := rfl
  lastSeen := rfl
  address := rfl
  lastInfo := rfl

/-- The first report finds nothing to discard. -/
theorem accepted_unverified (hr : state.report = none) (h : state.Unverified) :
    (state.accepted now report info).pendingLocked = state.pendingLocked ∧
      (state.accepted now report info).settingValues = state.settingValues := by
  have hch : state.reportChanged report = true := by
    unfold reportChanged
    rw [hr]
  refine ⟨?_, funext fun name => ?_⟩
  · rw [accepted_pendingLocked, if_pos hch, h.pendingLocked]
  · rw [accepted_settingValues, if_pos hch, hr, h.settingValues]
    cases hf : flagOn report name <;> rfl

theorem allSet_step (h : state.AllSet) (ev : DeviceEvent) : (state.step now ev).AllSet := by
  cases ev with
  | accept report info => exact allSet_accepted now report info (.inl h.report)
  | poll history =>
    simp only [step]
    split
    · exact h
    · exact ⟨h.report, rfl, rfl, h.address, rfl⟩
  | setPending locked => exact ⟨h.report, h.rssi, h.lastSeen, h.address, h.lastInfo⟩
  | applySettings settings => exact ⟨h.report, h.rssi, h.lastSeen, h.address, h.lastInfo⟩
  | _ => exact h

theorem heardOrUnknown_step (h : state.HeardOrUnknown) {ev : DeviceEvent}
    (hev : ev.isOwn = true) : (state.step now ev).HeardOrUnknown := by
  rcases h with h | ⟨hu, hv⟩
  · exact .inl (allSet_step now h ev)
  · cases ev with
    | accept report info => exact .inl (allSet_accepted now report info (.inr hu.report))
    | poll history =>
      have hnone : state.newEntry history = none := by
        unfold newEntry
        rw [hu.address]
      simp only [step, hnone]
      exact .inr ⟨hu, hv⟩
    | setPending locked => cases hev
    | applySettings settings => cases hev
    | _ => exact .inr ⟨hu, hv⟩

end

end DanalockDeviceState

/-! ## Replies of the lock -/

/-- A task may store for the device only after a reply of the lock, which the ghost records. -/
@[reducible] def evidence (serial : Serial) : Protocol sig where
  Ghost := Bool
  may g o := o.storesFor serial = true → g = true
  after g
    | .lockRef s, f => if f.serial = s then some g else none
    | .call f _, r => some (g || (f.serial == serial && replied r))
    | .disconnect f, .error err => some (g || (f.serial == serial && err.isReply))
    | _, _ => some g

section
variable {serial : Serial} {α : Type}

theorem evidence_after {g g' : Bool} {o : Op} {r : o.Res}
    (h : (evidence serial).after g o r = some g') (hg : g = true) : g' = true := by
  subst hg
  cases o with
  | lockRef s =>
    simp only [evidence] at h
    split at h <;> cases h
    rfl
  | disconnect f => cases r <;> cases h <;> rfl
  | _ => cases h; rfl

/-- Evidence is not lost. -/
theorem meets_evident (c : Py α) :
    Meets (evidence serial) true c fun _ g => g = true := by
  have h : Only (fun _ : Op => True) c := by
    induction c with
    | ret a => exact trivial
    | raise e => exact trivial
    | op o k ih => exact ⟨trivial, ih⟩
  exact h.meets (J := (· = true)) (fun g o hg _ _ => hg)
    (fun g o r g' hg _ hr => evidence_after hr hg) rfl

theorem meets_storesNothing {c : Py α} (h : StoresNothing serial c) (g : Bool) :
    Meets (evidence serial) g c fun _ _ => True :=
  h.meets (P := evidence serial) (J := fun _ => True)
    (fun g o _ ho hs => by rw [ho] at hs; cases hs) (fun _ _ _ _ _ _ _ => trivial) trivial

/-- A command that has evidence goes on as it likes. -/
theorem meets_or {c : Py α} {Q : Except PyErr α → Bool → Prop} {g : Bool}
    (hQ : ∀ r, Q r true) (h : g = false → Meets (evidence serial) g c Q) :
    Meets (evidence serial) g c Q := by
  cases g with
  | true => exact (meets_evident c).mono fun r g hg => by rw [hg]; exact hQ r
  | false => exact h rfl

theorem callLock_evidence (m : Method) (g : Bool) :
    Meets (evidence serial) g (DanalockControl.callLock serial m) fun r g' =>
      replied r = true → g' = true := by
  refine ⟨nofun, fun f g' hf => ⟨nofun, fun r g'' hr => ?_⟩⟩
  simp only [evidence] at hf hr
  split at hf
  · next hs =>
    cases hf
    cases hr
    cases r with
    | ok v => intro h; simp [hs, h]
    | error e => intro h; simp [hs, h]
  · cases hf

theorem body_evidence (m : Method) (g : Bool) :
    Meets (evidence serial) g (DanalockControl.body serial m) fun r g' =>
      replied r = true → g' = true := by
  cases m with
  | deviceInformation =>
    refine Meets.tryExcept ((callLock_evidence _ g).mono fun r g' h => ?_)
    cases r with
    | ok v => exact h
    | error e => cases e <;> exact h
  | _ => exact callLock_evidence _ g

/-- An attempt that ends in a reply got it from the lock. -/
theorem attemptCall_evidence (m : Method) (g : Bool) :
    Meets (evidence serial) g
      (DanalockControl.attemptCall serial (DanalockControl.body serial m)) fun r g' =>
      replied r = true → g' = true := by
  refine Meets.tryFinally ((body_evidence m g).mono fun r g' h => ?_)
  refine ⟨nofun, fun f g₁ hf => ⟨nofun, fun r' g'' hr => ?_⟩⟩
  simp only [evidence] at hf
  split at hf
  · next hs =>
    cases hf
    cases r' with
    | ok u => cases hr; exact h
    | error e =>
      cases hr
      intro h'
      simp [hs, show e.isReply = true from h']
  · cases hf

/-- **A command that succeeds got a reply of the lock.** -/
theorem run_evidence (m : Method) (g : Bool) :
    Meets (evidence serial) g (DanalockControl.run serial m) fun r g' =>
      r.isOk = true → g' = true := by
  rw [DanalockControl.run_eq]
  refine Meets.bind ((meets_storesNothing (refreshIfExpired_sparesEntities ..).storesNothing g).mono
    fun r g' _ => ?_)
  cases r with
  | error e => exact nofun
  | ok u =>
    refine Meets.tryExcept ((attemptCall_evidence m g').mono fun r g'' h => ?_)
    cases r with
    | ok v => exact fun _ => h rfl
    | error e =>
      -- without evidence the error is no reply, so neither a rejection nor a success
      refine meets_or (fun _ _ => rfl) fun hg => ?_
      subst hg
      cases e with
      | commandError name status => cases h rfl
      | _ => exact nofun

end

/-! ## The requests -/

/-- The request is a command of the device; it succeeds when it ends without an exception. -/
def Request.commands (serial : Serial) : Request → Bool
  | command s _ => s == serial
  | lock s _ => s == serial
  | press s _ _ => s == serial
  | selectOption s _ _ => s == serial
  | _ => false

section
variable {serial : Serial} (s : Serial)

theorem run_evidence_of (m : Method) (g : Bool) :
    Meets (evidence serial) g (DanalockControl.run s m) fun r g' =>
      s = serial → r.isOk = true → g' = true := by
  by_cases hs : s = serial
  · subst hs
    exact (run_evidence m g).mono fun r g' h _ => h
  · exact (meets_storesNothing (run_sparesEntities s m).storesNothing g).mono fun r g' _ h =>
      absurd h hs

theorem operate_evidence (locked g : Bool) :
    Meets (evidence serial) g (DanalockControl.operate s locked) fun r g' =>
      s = serial → r.isOk = true → g' = true :=
  operate_of_parts (X := fun _ c => Meets (evidence serial) g c fun r g' =>
    s = serial → r.isOk = true → g' = true) s (fun m => run_evidence_of s m g) locked

theorem lock_evidence (locked g : Bool) :
    Meets (evidence serial) g (DanalockLockEntity.operate s locked) fun r g' =>
      s = serial → r.isOk = true → g' = true := by
  refine ⟨by rintro ⟨⟩, fun bound g' hb => ?_⟩
  cases hb
  cases bound with
  | false => exact fun _ => by rintro ⟨⟩
  | true =>
    refine ⟨by rintro ⟨⟩, fun _ g' h1 => ⟨by rintro ⟨⟩, fun _ g'' h2 => ?_⟩⟩
    cases h1
    cases h2
    show Meets (evidence serial) g
      (Coro.bind (Coro.tryExcept (DanalockControl.operate s locked) _) _) _
    refine Meets.bind (Meets.tryExcept ((operate_evidence s locked g).mono fun r g₁ h => ?_))
    cases r with
    | ok u =>
      refine ⟨by rintro ⟨⟩, fun _ g₂ h1 => ⟨fun hs => ?_, fun _ g₃ h2 =>
        ⟨by rintro ⟨⟩, fun _ g₄ h3 => ?_⟩⟩⟩
      · cases h1
        exact h (by simpa [Op.storesFor] using hs) rfl
      · cases h1
        cases h2
        cases h3
        exact h
    | error err =>
      simp only
      split
      · exact ⟨by rintro ⟨⟩, fun _ _ _ => ⟨by rintro ⟨⟩, fun _ _ _ => fun _ => by rintro ⟨⟩⟩⟩
      · exact fun _ => by rintro ⟨⟩

theorem settingWrite_evidence (name : SettingName) (value : Int) (g : Bool) :
    Meets (evidence serial) g (DanalockSettingSelectEntity.settingWrite s name value) fun r g' =>
      s = serial → r.isOk = true → g' = true :=
  settingWrite_of_parts (X := fun _ c => Meets (evidence serial) g c fun r g' =>
    s = serial → r.isOk = true → g' = true) s (fun m => run_evidence_of s m g) name value

theorem selectOption_evidence (name : SettingName) (option : String) (g : Bool) :
    Meets (evidence serial) g (DanalockSettingSelectEntity.selectOption s name option) fun r g' =>
      s = serial → r.isOk = true → g' = true := by
  refine ⟨by rintro ⟨⟩, fun bound g' hb => ?_⟩
  cases hb
  cases bound with
  | false => exact fun _ => by rintro ⟨⟩
  | true =>
    show Meets (evidence serial) g
      (Coro.bind (DanalockSettingSelectEntity.valueFor s name option) _) _
    unfold DanalockSettingSelectEntity.valueFor
    split
    · next value _ _ =>
      show Meets (evidence serial) g
        (Coro.bind (DanalockSettingSelectEntity.settingWrite s name value) _) _
      refine Meets.bind ((settingWrite_evidence s name value g).mono fun r g₁ h => ?_)
      cases r with
      | ok settings =>
        refine ⟨fun hs => h (by simpa [Op.storesFor] using hs) rfl, fun _ g₂ h1 =>
          ⟨by rintro ⟨⟩, fun _ g₃ h2 => ?_⟩⟩
        cases h1
        cases h2
        exact h
      | error err => exact h
    · exact fun _ => by rintro ⟨⟩

theorem readSettings_evidence (g : Bool) :
    Meets (evidence serial) g (DanalockSettingSelectEntity.readSettings s) fun _ _ => True := by
  rw [readSettings_eq]
  refine Meets.andThen ((run_evidence_of s .settings g).mono fun r g₁ h => ?_)
  cases r with
  | ok settings => exact ⟨fun hs => h (by simpa [Op.storesFor] using hs) rfl, fun _ _ _ => trivial⟩
  | error err =>
    simp only
    split <;> trivial

theorem press_evidence (suffix : String) (point : Int) (g : Bool) :
    Meets (evidence serial) g (DanalockCalibrationButton.press s suffix point) fun r g' =>
      s = serial → r.isOk = true → g' = true := by
  refine ⟨nofun, fun bound g' hb => ?_⟩
  cases hb
  cases bound with
  | false => exact fun _ => nofun
  | true => exact run_evidence_of s (.setCalibrationPoint point) g

end

/-- A request that is no entity's stores nothing. -/
theorem prog_storesNothing {serial : Serial} {req : Request}
    (hreq : ∀ o, req.performs o ≠ true) : StoresNothing serial req.prog :=
  prog_spares (fun _ => Op.storesFor_spares) fun o ho => absurd ho (hreq o)

/-- **A task stores for the device, and a command of it succeeds, on evidence only.** -/
theorem prog_evidence {serial : Serial} (req : Request) :
    Meets (evidence serial) false req.prog fun r g =>
      req.commands serial = true → r.isOk = true → g = true := by
  cases req with
  | command s m =>
    refine Meets.bind ((run_evidence_of s m false).mono fun r g h => ?_)
    cases r with
    | ok v => exact fun hs _ => h (by simpa [Request.commands] using hs) rfl
    | error e => exact fun _ => nofun
  | lock s locked =>
    exact (lock_evidence s locked false).mono fun r g h hs =>
      h (by simpa [Request.commands] using hs)
  | press s suffix point =>
    exact (press_evidence s suffix point false).mono fun r g h hs =>
      h (by simpa [Request.commands] using hs)
  | selectOption s name option =>
    exact (selectOption_evidence s name option false).mono fun r g h hs =>
      h (by simpa [Request.commands] using hs)
  | readSettings s => exact (readSettings_evidence s false).mono fun _ _ _ => nofun
  | disconnect | setKey | refresh | refreshAll =>
    exact (meets_storesNothing (prog_storesNothing (by rintro _ ⟨⟩)) false).mono fun _ _ _ => nofun

/-! ## Runs -/

/-- A session, or a task with evidence, means that the device was heard. -/
structure Heard (serial : Serial) (e : Entry) (Γ : View (evidence serial)) : Prop where
  state : (e.monitor.states serial).HeardOrUnknown
  session : ∀ gen, (e.facade ⟨serial, gen⟩).session = true → (e.monitor.states serial).AllSet
  evident : ∀ t w, Γ t = some (true, w) → (e.monitor.states serial).AllSet

section
variable {parse : ParseBroadcast} {serial : Serial} {e e' : Entry} {Γ : View (evidence serial)}

/-- A step that writes no state object and opens no session of the device. -/
theorem Heard.frame (h : Heard serial e Γ)
    (hstate : e'.monitor.states serial = e.monitor.states serial)
    (hsession : ∀ gen, (e'.facade ⟨serial, gen⟩).session = true →
      (e.facade ⟨serial, gen⟩).session = true) : Heard serial e' Γ where
  state := hstate ▸ h.state
  session gen hs := hstate ▸ h.session gen (hsession gen hs)
  evident t w ht := hstate ▸ h.evident t w ht

/-- One task's view changes. -/
theorem Heard.update (h : Heard serial e Γ) {t : TaskId} {p : Option (Bool × Option Op)}
    (hp : ∀ w, p = some (true, w) → (e.monitor.states serial).AllSet) :
    Heard serial e (Function.update Γ t p) where
  state := h.state
  session := h.session
  evident := (Function.forall_update_iff Γ fun _ p => ∀ w, p = some (true, w) →
    (e.monitor.states serial).AllSet).mpr ⟨hp, fun t' _ => h.evident t'⟩

theorem evidence_runOp {t : TaskId} {g : Bool} {o : Op} {r : o.Res}
    (h : e.runOp t o = some (r, e')) : (evidence serial).after g o r = some g := by
  cases o with
  | lockRef s => cases h; exact if_pos rfl
  | call f m => cases h
  | disconnect f => cases h
  | _ => rfl

theorem runOp_session {t : TaskId} {o : Op} {r : o.Res} (h : e.runOp t o = some (r, e'))
    (f : FacadeRef) (hs : (e'.facade f).session = true) : (e.facade f).session = true := by
  have hf := Entry.runOp_facade f h
  cases o with
  | buildFacade s token =>
    simp only at hf
    split at hf
    · rw [hf] at hs; cases hs
    · rwa [hf] at hs
  | _ => rwa [hf] at hs

/-- An operation keeps what was heard, and stores for the device on evidence only. -/
theorem Heard.run (h : Heard serial e Γ) {t : TaskId} {g : Bool} {w : Option Op}
    (ht : Γ t = some (g, w)) {o : Op} {r : o.Res} (hmay : (evidence serial).may g o)
    (hr : e.runOp t o = some (r, e')) : Heard serial e' Γ := by
  have hstates := Entry.runOp_states serial 0 hr
  cases ho : o.storesFor serial with
  | false =>
    rw [Op.deviceEvent_idle ho] at hstates
    exact h.frame hstates fun gen => runOp_session hr _
  | true =>
    have hg : g = true := hmay ho
    have hset := DanalockDeviceState.allSet_step 0 (h.evident t w (hg ▸ ht)) (o.deviceEvent serial)
    rw [← hstates] at hset
    exact ⟨.inl hset, fun _ _ => hset, fun _ _ _ => hset⟩

/-- The end of a wait is evidence only over a session. -/
theorem Heard.wake (h : Heard serial e Γ) {t : TaskId} {g : Bool} {w : Option Op}
    (ht : Γ t = some (g, w)) {o : Op} {r : o.Res} (hw : e.wakeOp t o r = some e') :
    ∃ g', (evidence serial).after g o r = some g' ∧
      Heard serial e' (Function.update Γ t (some (g', none))) := by
  have hframe : Heard serial e' Γ := h.frame (by rw [Entry.wakeOp_monitor hw])
    fun gen => Entry.wakeOp_session hw _
  have hstate : e'.monitor.states serial = e.monitor.states serial := by
    rw [Entry.wakeOp_monitor hw]
  -- a reply on a facade of the device came over a session of it
  have hreply : ∀ f : FacadeRef, ∀ b : Bool, (b = true → (e.facade f).session = true) →
      (g || (f.serial == serial && b)) = true → (e'.monitor.states serial).AllSet := by
    intro f b hb hg
    rw [hstate]
    cases g with
    | true => exact h.evident t w ht
    | false =>
      simp only [Bool.false_or, Bool.and_eq_true, beq_iff_eq] at hg
      obtain ⟨hf, hb'⟩ := hg
      have hs := hb hb'
      obtain ⟨fs, fg⟩ := f
      subst hf
      exact h.session fg hs
  have hkeep : g = true → (e'.monitor.states serial).AllSet := by
    intro hg
    rw [hstate]
    exact h.evident t w (hg ▸ ht)
  cases o with
  | call f m =>
    exact ⟨_, rfl, hframe.update fun w hp => hreply f _ (Entry.endCall_some hw).2.1
      (Prod.mk.inj (Option.some.inj hp)).1⟩
  | disconnect f =>
    rcases Entry.endDisconnect_some hw with ⟨err, rfl, -, hsess⟩ | ⟨rfl, -, -⟩
    · exact ⟨_, rfl, hframe.update fun w hp => hreply f _ hsess
        (Prod.mk.inj (Option.some.inj hp)).1⟩
    · exact ⟨_, rfl, hframe.update fun w hp => hkeep (by cases hp; rfl)⟩
  | acquireRefresh s => exact ⟨_, rfl, hframe.update fun w hp => hkeep (by cases hp; rfl)⟩
  | getKey s force => exact ⟨_, rfl, hframe.update fun w hp => hkeep (by cases hp; rfl)⟩
  | _ => cases hw

theorem Heard.env (h : Heard serial e Γ) {ev : EnvEvent} (he : e.envStep parse ev = some e') :
    Heard serial e' Γ := by
  have hstep : ∃ now dev, DeviceEvent.isOwn dev = true ∧
      e'.monitor.states serial = (e.monitor.states serial).step now dev := by
    rcases Entry.envStep_monitor he with hm | ⟨ev, hown, hm⟩
    · exact ⟨0, .idle, rfl, by rw [hm]; rfl⟩
    · exact ⟨ev.now, _, e.monitor.deviceEvent_isOwn parse hown serial,
        by rw [hm]; exact e.monitor.states_step parse ev serial⟩
  obtain ⟨now, dev, hown, hstate⟩ := hstep
  have hset : (e.monitor.states serial).AllSet → (e'.monitor.states serial).AllSet := by
    intro hs
    rw [hstate]
    exact DanalockDeviceState.allSet_step now hs dev
  refine ⟨?_, fun gen hs => ?_, fun t w ht => hset (h.evident t w ht)⟩
  · rw [hstate]
    exact DanalockDeviceState.heardOrUnknown_step now h.state hown
  · rcases Entry.envStep_session he _ hs with hs | ⟨-, haddr⟩
    · exact hset (h.session gen hs)
    · rcases h.state with hs | ⟨hu, -⟩
      · exact hset hs
      · rw [hu.address] at haddr
        cases haddr

/-- How a request ends: a command of the device that succeeds has evidence. -/
abbrev onEvidence (serial : Serial) (req : Request) (r : Except PyErr Unit) (g : Bool) : Prop :=
  req.commands serial = true → r.isOk = true → g = true

theorem heard_keeps (parse : ParseBroadcast) (serial : Serial) :
    Keeps Request.prog (.any (entryMachine parse) Request) (evidence serial) (fun _ => false)
      (onEvidence serial) (Heard serial) where
  meets req _ := prog_evidence req
  spawn s Γ t req hI hΓ _ := hI.update fun w hp => by cases hp
  run s Γ t g o r s' hI hΓ _ hmay hr _ := by
    refine ⟨g, evidence_runOp hr, ?_⟩
    rw [← hΓ, Function.update_eq_self]
    exact hI.run hΓ hmay hr
  park s Γ t g o hI hΓ _ _ := by
    refine Heard.frame (hI.update fun w hp => ?_) (by rw [Entry.parkOp_monitor])
      fun gen hs => by rwa [Entry.session_parkOp] at hs
    cases hp
    exact hI.evident t _ hΓ
  wake s Γ t g o r s' hI hΓ _ hw _ := hI.wake hΓ hw
  finish s Γ t req r g hI _ _ := hI.update fun w hp => by cases hp
  env s Γ ev s' hI he := hI.env he

end

section
variable (parse : ParseBroadcast) (serials : List Serial) (nodup : serials.Nodup)
  (keys : Serial → DeviceKey) (serial : Serial)

theorem run_heard (ls : List (EntryLabel parse)) :
    ∃ Γ, Heard serial (EntryConfig.run parse serials nodup keys ls).state Γ ∧
      Tracks (evidence serial) (onEvidence serial)
        (EntryConfig.run parse serials nodup keys ls) Γ := by
  refine (heard_keeps parse serial).run_inv
    ⟨fun _ => none, ⟨.inr ⟨?_, ?_⟩, nofun, nofun⟩, Tracks.of_none ?_⟩
    (Runs.Steps.of_forall (fun c l => Config.allowed_any _ c l) ls _)
  · exact ⟨rfl, rfl, rfl, rfl, rfl⟩
  · exact ⟨rfl, fun _ => rfl⟩
  · exact fun _ => rfl

/-- A step in which a request ends leaves the address alone. -/
theorem outcome_address {c : EntryConfig parse} {l : EntryLabel parse}
    {p : Request × Except PyErr Unit} (h : Config.outcome Request.prog c l = some p) :
    ((Config.step Request.prog c l).state.monitor.states serial).address =
      (c.state.monitor.states serial).address :=
  Entry.step_states (v := DanalockDeviceState.address) (fun _ _ => rfl) (fun _ _ => rfl) serial
    (Config.outcome_env Request.prog h)

/-- **Nothing verified is lost to the first broadcast.** After every run what a device's
broadcasts set is all unset or all set; while it is unset nothing verified is stored and no
command of the device can end in success; and a first report leaves the pending state and the
setting values as they are. -/
theorem firstBroadcast_run (ls : List (EntryLabel parse)) :
    let c := EntryConfig.run parse serials nodup keys ls
    let state := c.state.monitor.states serial
    (state.Unset ∨ state.AllSet) ∧
      (state.Unset → state.Unverified ∧ ∀ l req, req.commands serial = true →
        Config.outcome Request.prog c l ≠ some (req, .ok ())) ∧
      (state.report = none → ∀ now report info,
        (state.accepted now report info).pendingLocked = state.pendingLocked ∧
          (state.accepted now report info).settingValues = state.settingValues) := by
  intro c state
  obtain ⟨Γ, hI, hT⟩ := run_heard parse serials nodup keys serial ls
  refine ⟨hI.state.elim .inr fun h => .inl h.1, fun hu => ⟨?_, ?_⟩, fun hr now report info => ?_⟩
  · exact hI.state.elim (absurd · hu.not_allSet) (·.2)
  · intro l req hreq hout
    obtain ⟨Γ', t, g, hI', ht, hpost⟩ := (heard_keeps parse serial).outcome
      (Config.allowed_any _ c l) ⟨Γ, hI, hT⟩ hout
    have hset := hI'.evident t none (ht.trans (by rw [hpost hreq rfl]))
    have haddr := hset.address
    rw [outcome_address parse serial hout, hu.address] at haddr
    cases haddr
  · refine hI.state.elim (fun h => ?_) fun h =>
      DanalockDeviceState.accepted_unverified now report info hr h.2
    have hset := h.report
    rw [show (c.state.monitor.states serial).report = none from hr] at hset
    cases hset

end

/-- The lock is out of reach. -/
def unreachable : (o : Op) → Option o.Res
  | .call _ _ => some (.error (.bleakError "no device"))
  | .disconnect _ => some (.ok ())
  | _ => none

/-- Three requests of a device that was never heard; two of them fail, the third waits. -/
def unheard : List (EntryLabel exampleParse) :=
  [.spawn 0 (.lock "L1" true), .spawn 1 (.readSettings "L1"),
    .spawn 2 (.press "L1" "set_point_closed" 1), .env (.connect ⟨"L1", 0⟩ fun _ _ => some ()),
    .resume 0 unreachable, .resume 1 unreachable]

/-- The first broadcast comes, and the third request and two more go through. -/
def heardLate : List (EntryLabel exampleParse) :=
  [.env (.monitor (atSecond 1 (.advertisement (exampleInfo 0)))),
    .env (.connect ⟨"L1", 0⟩ fun _ _ => some ()), .resume 2 done, .resume 0 done, .resume 1 done,
    .resume 2 done, .spawn 3 (.lock "L1" false), .spawn 4 (.readSettings "L1"),
    .env (.connect ⟨"L1", 0⟩ fun _ _ => some ()), .resume 3 done,
    .resume 4 (settingsReply ⟨1, 30, 0, 0⟩), .resume 3 done, .resume 4 done]

theorem firstBroadcast_heardLate :
    let before := EntryConfig.run exampleParse ["L1"] (by decide) exampleKeys unheard
    let state := (EntryConfig.run exampleParse ["L1"] (by decide) exampleKeys
      (unheard ++ heardLate)).state.monitor.states "L1"
    ((before.state.monitor.states "L1").Unverified ∧ ∀ l req, req.commands "L1" = true →
        Config.outcome Request.prog before l ≠ some (req, .ok ())) ∧
      state.AllSet ∧ state.pendingLocked = some false ∧
        state.settingValues .autoLock = some 30 := by
  intro before state
  have hheard := firstBroadcast_run exampleParse ["L1"] (by decide) exampleKeys "L1"
    (unheard ++ heardLate)
  have hnone : ∀ {α : Type} {x : Option α}, x.isNone = true → x = none :=
    Option.isNone_iff_eq_none.mp
  have hunset : (before.state.monitor.states "L1").Unset :=
    ⟨hnone (by decide +kernel), hnone (by decide +kernel), hnone (by decide +kernel),
      hnone (by decide +kernel), hnone (by decide +kernel)⟩
  have hreport : state.report ≠ none := by decide +kernel
  exact ⟨(firstBroadcast_run exampleParse ["L1"] (by decide) exampleKeys "L1" unheard).2.1 hunset,
    hheard.1.resolve_left fun hunset => hreport hunset.report, by decide +kernel,
    by decide +kernel⟩

end DanalockBle
