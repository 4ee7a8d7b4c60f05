import DanalockBle.Firmware.Provenance

/-!
# The firmware values across restarts

A session of the update entity runs from its add to its end, at any moment. What the next session
restores is the state last written in it, by the end of a cycle or by Home Assistant; an empty
string counts as none then. So the values of a probe are lost when the session ends while its cycle
waits for the lock, and nothing else is: what the entity shows is what one session would show that
had the probes and lock reads of the earlier sessions up to their last written states and all of its
own (`values_restarts`).
-/

namespace DanalockBle

open Coroutine TimerChain DanalockFirmwareUpdateEntity

/-- The values without empty strings, as `_async_restore` takes them. -/
def FirmwareValues.kept (v : FirmwareValues) : FirmwareValues where
  installedVersion := restored v.installedVersion
  latestVersion := restored v.latestVersion
  firmwareIdentifier := restored v.firmwareIdentifier
  hardwareVersion := restored v.hardwareVersion
  maturity := restored v.maturity

/-- What the entity learns in a step. -/
inductive FirmwareNews where
  | probed (latest : FirmwareVersion)
  | read (info : DeviceInformation)

namespace FirmwareNews

def latest : FirmwareNews → Option FirmwareVersion
  | probed latest => some latest
  | read _ => none

def information : FirmwareNews → Option DeviceInformation
  | probed _ => none
  | read info => some info

def firmwareIdentifier : FirmwareNews → String
  | probed latest => latest.firmwareIdentifier
  | read info => info.firmwareIdentifier

end FirmwareNews

def FirmwareValues.learn (versionDot : VersionDot) (v : FirmwareValues) :
    FirmwareNews → FirmwareValues
  | .probed latest => v.probed latest
  | .read info => v.read versionDot info

section
variable {v w : FirmwareValues}

theorem restored_ne_empty (a : Option String) : restored a ≠ some "" := by
  cases a with
  | none => exact nofun
  | some s => simp [restored, Option.filter_eq_some_iff]

theorem restored_of_ne_empty {a : Option String} (h : a ≠ some "") : restored a = a := by
  cases a with
  | none => rfl
  | some s =>
    have hs : s ≠ "" := fun hs => h (by rw [hs])
    simp [restored, Option.filter, hs]

theorem restored_restored (a : Option String) : restored (restored a) = restored a :=
  restored_of_ne_empty (restored_ne_empty a)

theorem kept_kept (v : FirmwareValues) : v.kept.kept = v.kept := by
  simp only [FirmwareValues.kept, restored_restored]

namespace FirmwareValues

/-- Values that differ in empty strings at most, the identifier aside. -/
structure Matches (v w : FirmwareValues) : Prop where
  kept : v.kept = w.kept
  firmwareIdentifier : v.firmwareIdentifier = w.firmwareIdentifier
  identified : v.firmwareIdentifier ≠ some ""

theorem Matches.of_kept (hkept : v.kept = w.kept) (hv : v.firmwareIdentifier ≠ some "")
    (hw : w.firmwareIdentifier ≠ some "") : v.Matches w := by
  refine ⟨hkept, ?_, hv⟩
  have hids : restored v.firmwareIdentifier = restored w.firmwareIdentifier :=
    congrArg FirmwareValues.firmwareIdentifier hkept
  rwa [restored_of_ne_empty hv, restored_of_ne_empty hw] at hids

/-- Restored values match what was written. -/
theorem Matches.restart (h : v.Matches w) : v.kept.Matches w :=
  .of_kept ((kept_kept v).trans h.kept) (restored_ne_empty _) (h.firmwareIdentifier ▸ h.identified)

theorem Matches.learn (h : v.Matches w) (versionDot : VersionDot) {news : FirmwareNews}
    (hnews : news.firmwareIdentifier ≠ "") :
    (v.learn versionDot news).Matches (w.learn versionDot news) := by
  have hkept := h.kept
  simp only [FirmwareValues.kept, FirmwareValues.mk.injEq] at hkept
  obtain ⟨hinstalled, hlatest, -, hhardware, hmaturity⟩ := hkept
  cases news with
  | probed latest =>
    refine ⟨?_, ?_, ?_⟩
    · simp only [FirmwareValues.learn, probed, FirmwareValues.kept, hinstalled, hhardware,
        h.firmwareIdentifier]
    · simp only [FirmwareValues.learn, probed, h.firmwareIdentifier]
    · have hold := h.identified
      simp only [FirmwareValues.learn, probed]
      cases hv : v.firmwareIdentifier with
      | none => exact fun heq => hnews (Option.some.inj heq)
      | some id => rwa [hv] at hold
  | read info =>
    refine ⟨?_, rfl, fun heq => hnews (Option.some.inj heq)⟩
    simp only [FirmwareValues.learn, read, FirmwareValues.kept, hlatest, hmaturity]

theorem Matches.foldl (h : v.Matches w) (versionDot : VersionDot) (news : List FirmwareNews)
    (hnews : ∀ n ∈ news, n.firmwareIdentifier ≠ "") :
    (news.foldl (FirmwareValues.learn versionDot) v).Matches
      (news.foldl (FirmwareValues.learn versionDot) w) := by
  induction news generalizing v w with
  | nil => exact h
  | cons n news ih =>
    exact ih (h.learn versionDot (hnews n List.mem_cons_self)) fun m hm =>
      hnews m (List.mem_cons_of_mem _ hm)

end FirmwareValues

end

namespace FirmwareConfig

section
variable (versionDot : VersionDot) (serial : Serial)

/-- The values of a new entity that has learned the news, in order. -/
theorem foldl_learn (news : List FirmwareNews) :
    news.foldl (FirmwareValues.learn versionDot) {} =
      valuesFrom versionDot (news.filterMap (·.latest)).getLast? (news.filterMap (·.latest)).head?
        (news.filterMap (·.information)).getLast? := by
  induction news using List.reverseRecOn with
  | nil => rfl
  | append_singleton news n ih =>
    rw [List.foldl_append, ih]
    cases n with
    | probed latest =>
      simp only [List.foldl_cons, List.foldl_nil, FirmwareValues.learn, List.filterMap_append,
        probed_valuesFrom]
      simp [FirmwareNews.latest, FirmwareNews.information, List.head?_append]
    | read info =>
      simp only [List.foldl_cons, List.foldl_nil, FirmwareValues.learn, List.filterMap_append,
        read_valuesFrom]
      simp [FirmwareNews.latest, FirmwareNews.information]

/-- What the step brings. -/
def news (c : FirmwareConfig) (l : FirmwareLabel) : Option FirmwareNews :=
  match probed c l with
  | some latest => some (.probed latest)
  | none => (lockRead c l).map .read

theorem valuesAfter_news (c : FirmwareConfig) (l : FirmwareLabel) :
    valuesAfter versionDot c l =
      (news c l).toList.foldl (FirmwareValues.learn versionDot) c.state.values := by
  unfold valuesAfter news
  cases probed c l with
  | some latest => rfl
  | none => cases lockRead c l <;> rfl

/-- What a session brings that restores the given state. -/
def newsOf (lastState : Option FirmwareValues) (ls : List FirmwareLabel) : List FirmwareNews :=
  Runs.collected (Config.step (FirmwareRequest.prog versionDot serial)) news
    (init versionDot serial lastState) ls

/-- The values of an entity that restores the state. -/
def restoredValues (lastState : Option FirmwareValues) : FirmwareValues :=
  (lastState.map FirmwareValues.kept).getD {}

theorem values_init (lastState : Option FirmwareValues) :
    (init versionDot serial lastState).state.values = restoredValues lastState := by
  cases lastState <;> rfl

theorem steps_noAdd {ls : List FirmwareLabel} (hls : ls.all (!·.isAdd) = true)
    (c : FirmwareConfig) :
    Runs.Steps (Config.step (FirmwareRequest.prog versionDot serial))
      (fun _ (l : FirmwareLabel) => l.isAdd = false) c ls :=
  Runs.Steps.of_mem (Q := fun l : FirmwareLabel => l.isAdd = false)
    (fun l hl => by simpa using List.all_eq_true.mp hls l hl) c

theorem values_session (lastState : Option FirmwareValues) {ls : List FirmwareLabel}
    (hls : ls.all (!·.isAdd) = true) :
    (run versionDot serial lastState ls).state.values =
      (newsOf versionDot serial lastState ls).foldl (FirmwareValues.learn versionDot)
        (restoredValues lastState) := by
  rw [← values_init versionDot serial]
  refine Runs.exec_collected (I := fun c => ∃ p, Follows versionDot serial c p)
    (P := fun _ (l : FirmwareLabel) => l.isAdd = false) (v := fun c => c.state.values) ?_ ?_ ?_
    ⟨_, follows_init versionDot serial lastState⟩
  · rintro c l ⟨p, hp⟩ hl
    obtain ⟨m, q, hm⟩ := follows_step hp (ne_add hl)
    exact ⟨q, hm.follows⟩
  · rintro c l ⟨p, hp⟩ hl
    rw [← valuesAfter_news]
    exact (step_values hp (ne_add hl)).1
  · exact steps_noAdd versionDot serial hls _

/-! ## The written states -/

/-- The step writes the state. -/
def writes (c : FirmwareConfig) (l : FirmwareLabel) : Bool :=
  decide (c.state.written.length <
    (Config.step (FirmwareRequest.prog versionDot serial) c l).state.written.length)

theorem task_written (req : FirmwareRequest) (p : CycleProgress × FirmwareEntity) :
    p.2.WroteFrom (CycleProgress.task versionDot serial req p).2 := by
  obtain ⟨progress, e⟩ := p
  cases progress with
  | finish outcome =>
    simp only [CycleProgress.task, FirmwareEntity.endCycle]
    split
    · exact .inr rfl
    · exact .inl rfl
  | _ => exact .inl rfl

/-- What a step writes are the values it leads to. -/
theorem step_written {c : FirmwareConfig} {p : ChainPhase Nat TaskId} {l : FirmwareLabel}
    (h : Follows versionDot serial c p) (hl : ∀ t lastState, l ≠ .spawn t (.added lastState)) :
    c.state.WroteFrom (Config.step (FirmwareRequest.prog versionDot serial) c l).state := by
  cases hs : Config.started (FirmwareRequest.prog versionDot serial) c l with
  | none =>
    rw [step_idle hs]
    exact .inl rfl
  | some start =>
    obtain ⟨t, req, k, e⟩ := start
    rw [step_started hs]
    obtain ⟨hkind, rfl⟩ := started_kinds h hs
    cases hkind with
    | spawned hl' ht =>
      subst hl'
      have hstops := spawned_stops versionDot serial t c.state req
        fun lastState hreq => hl t lastState (by rw [hreq])
      generalize firmwareMachine.advance t (req.prog versionDot serial) c.state = stop at hstops
      cases hstops with
      | start e' hidle hflag hprobes hvalues hwritten => exact hwritten
      | rest k e' hk hflag hprobes hvalues hwritten => exact hwritten
    | probe r hend hread hp ht =>
      rw [resumed_probe]
      have htask := task_written versionDot serial req (c.state.probeEnded r)
      rwa [show (c.state.probeEnded r).2.WroteFrom = c.state.WroteFrom by cases r <;> rfl] at htask
    | read r hend hprobe hp ht =>
      rw [resumed_read]
      have htask := task_written versionDot serial req (c.state.readEnded versionDot r)
      rwa [show (c.state.readEnded versionDot r).2.WroteFrom = c.state.WroteFrom by
        cases r <;> rfl] at htask

/-- The session up to the state last written in it. -/
def writtenPart (lastState : Option FirmwareValues) (ls : List FirmwareLabel) :
    List FirmwareLabel :=
  Runs.upTo (Config.step (FirmwareRequest.prog versionDot serial)) (writes versionDot serial)
    (init versionDot serial lastState) ls

theorem writtenPart_all (lastState : Option FirmwareValues) {ls : List FirmwareLabel}
    (hls : ls.all (!·.isAdd) = true) :
    (writtenPart versionDot serial lastState ls).all (!·.isAdd) = true :=
  List.all_eq_true.mpr fun l hl =>
    List.all_eq_true.mp hls l ((Runs.upTo_prefix _ ls _).subset hl)

/-- The state last written. -/
theorem written_session (lastState : Option FirmwareValues) {ls : List FirmwareLabel}
    (hls : ls.all (!·.isAdd) = true) :
    (run versionDot serial lastState ls).state.written.head? =
      if (writtenPart versionDot serial lastState ls).isEmpty then none
      else some (run versionDot serial lastState
        (writtenPart versionDot serial lastState ls)).state.values := by
  have hinit : (init versionDot serial lastState).state.written.head? = none := by
    cases lastState <;> rfl
  rw [← hinit]
  refine Runs.exec_upTo (I := fun c => ∃ p, Follows versionDot serial c p)
    (Q := fun _ (l : FirmwareLabel) => l.isAdd = false) (v := fun c => c.state.written.head?)
    (w := fun c => some c.state.values) ?_ ?_ (steps_noAdd versionDot serial hls _)
    ⟨_, follows_init versionDot serial lastState⟩
  · rintro c l ⟨p, hp⟩ hl
    obtain ⟨m, q, hm⟩ := follows_step hp (ne_add hl)
    exact ⟨q, hm.follows⟩
  · rintro c l ⟨p, hp⟩ hl
    rcases step_written versionDot serial hp (ne_add hl) with hsame | hwrote
    · rw [writes, hsame]
      simp
    · rw [writes, hwrote]
      simp

/-! ## Sessions -/

/-- What a session after this one restores. -/
def stored (lastState : Option FirmwareValues) (ls : List FirmwareLabel) : Option FirmwareValues :=
  (run versionDot serial lastState ls).state.written.head?.or lastState

/-- What is restored after the sessions. -/
def lastWritten : Option FirmwareValues → List (List FirmwareLabel) → Option FirmwareValues
  | lastState, [] => lastState
  | lastState, ls :: rest => lastWritten (stored versionDot serial lastState ls) rest

/-- What the sessions bring up to their last written states. -/
def history : Option FirmwareValues → List (List FirmwareLabel) → List FirmwareNews
  | _, [] => []
  | lastState, ls :: rest =>
    newsOf versionDot serial lastState (writtenPart versionDot serial lastState ls) ++
      history (stored versionDot serial lastState ls) rest

/-- One session. -/
theorem stored_matches {lastState : Option FirmwareValues} {w : FirmwareValues}
    {ls : List FirmwareLabel} (hls : ls.all (!·.isAdd) = true)
    (hnamed : ∀ n ∈ newsOf versionDot serial lastState (writtenPart versionDot serial lastState ls),
      n.firmwareIdentifier ≠ "")
    (h : (restoredValues lastState).Matches w) :
    (restoredValues (stored versionDot serial lastState ls)).Matches
      ((newsOf versionDot serial lastState (writtenPart versionDot serial lastState ls)).foldl
        (FirmwareValues.learn versionDot) w) := by
  have hpart := h.foldl versionDot _ hnamed
  rw [← values_session versionDot serial lastState
    (writtenPart_all versionDot serial lastState hls)] at hpart
  rw [stored, written_session versionDot serial lastState hls]
  split
  · next hempty =>
    rw [List.isEmpty_iff.mp hempty]
    exact h
  · exact hpart.restart

theorem lastWritten_matches {lastState : Option FirmwareValues} {w : FirmwareValues}
    {sessions : List (List FirmwareLabel)}
    (hsessions : ∀ ls ∈ sessions, ls.all (!·.isAdd) = true)
    (hnamed : ∀ n ∈ history versionDot serial lastState sessions, n.firmwareIdentifier ≠ "")
    (h : (restoredValues lastState).Matches w) :
    (restoredValues (lastWritten versionDot serial lastState sessions)).Matches
      ((history versionDot serial lastState sessions).foldl (FirmwareValues.learn versionDot)
        w) := by
  induction sessions generalizing lastState w with
  | nil => exact h
  | cons ls rest ih =>
    have hfirst := stored_matches versionDot serial (hsessions ls List.mem_cons_self)
      (fun n hn => hnamed n (List.mem_append_left _ hn)) h
    rw [history, List.foldl_append]
    exact ih (fun ls' hls' => hsessions ls' (List.mem_cons_of_mem _ hls'))
      (fun n hn => hnamed n (List.mem_append_right _ hn)) hfirst

/-- **What restarts show.** After any number of sessions, each of which restores what was last
written before it, the entity shows in a further one what a single session would show that had the
probes and lock reads of the earlier ones up to their last written states and all of the further
one: an empty string counts as none, and no identifier is empty. -/
theorem values_restarts (sessions : List (List FirmwareLabel)) (ls : List FirmwareLabel)
    (hsessions : ∀ ls' ∈ sessions ++ [ls], ls'.all (!·.isAdd) = true)
    (hnamed : ∀ n ∈ history versionDot serial none sessions ++
      newsOf versionDot serial (lastWritten versionDot serial none sessions) ls,
        n.firmwareIdentifier ≠ "") :
    let learned := history versionDot serial none sessions ++
      newsOf versionDot serial (lastWritten versionDot serial none sessions) ls
    (run versionDot serial (lastWritten versionDot serial none sessions) ls).state.values.kept =
      (valuesFrom versionDot (learned.filterMap (·.latest)).getLast?
        (learned.filterMap (·.latest)).head?
        (learned.filterMap (·.information)).getLast?).kept := by
  have hls := hsessions ls (List.mem_append_right _ List.mem_cons_self)
  have hempty : (restoredValues none).Matches {} := ⟨rfl, rfl, nofun⟩
  have hbefore := lastWritten_matches versionDot serial
    (fun ls' hls' => hsessions ls' (List.mem_append_left _ hls'))
    (fun n hn => hnamed n (List.mem_append_left _ hn)) hempty
  have hlast := hbefore.foldl versionDot
    (newsOf versionDot serial (lastWritten versionDot serial none sessions) ls)
    fun n hn => hnamed n (List.mem_append_right _ hn)
  rw [← values_session versionDot serial _ hls, ← List.foldl_append, foldl_learn] at hlast
  exact hlast.kept

end

/-- The lock is read in the first session. -/
def readSession : List FirmwareLabel :=
  [.resume 0 (cloud (.ok exampleLatest)), .resume 0 (lockReads (.ok exampleInformation))]

/-- The second one ends while its cycle waits for the lock: the probe was not written. -/
def brokenSession : List FirmwareLabel :=
  [.resume 0 (cloud (.ok ⟨"D2", "beta", "1.3.0"⟩))]

/-- In the third one the cloud names another firmware, and the lock is out of range. -/
def renamedSession : List FirmwareLabel :=
  [.resume 0 (cloud (.ok ⟨"D3", "production", "2.0.0"⟩)),
    .resume 0 (lockReads (.error (.lockControlError "out of range")))]

/-- In the last one the cloud is not reached. -/
def offlineSession : List FirmwareLabel :=
  [.spawn 1 .write, .resume 0 (cloud (.error (.httpError "offline")))]

/-- The version of the third session is shown with the identifier of the lock. -/
theorem values_restarts_renamed :
    (run exampleDot "L1"
      (lastWritten exampleDot "L1" none [readSession, brokenSession, renamedSession])
      offlineSession).state.values.kept =
        ⟨some "1.2.3", some "2.0.0", some "D1", some "4.1.7", some "production"⟩ :=
  (values_restarts exampleDot "L1" [readSession, brokenSession, renamedSession] offlineSession
    (by decide) (by decide)).trans (by decide)

end FirmwareConfig

end DanalockBle
