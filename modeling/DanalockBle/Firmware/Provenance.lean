import DanalockBle.Firmware.Results
import Mathlib.Data.List.Induction

/-!
# Where the firmware values come from

What the entity shows after a run, in terms of the last successful probe and the last successful
lock read of the run. The identifier of a probe is taken only while none is shown, so before the
first lock read it is the first probe's and not the last one's (`provenance_iff`).
-/

namespace DanalockBle

open Coroutine Coroutine.Coro TimerChain DanalockFirmwareUpdateEntity

namespace FirmwareConfig

/-- The probe that succeeds in the step. -/
def probed (c : FirmwareConfig) (l : FirmwareLabel) : Option FirmwareVersion :=
  (c.probeEnd l).bind (·.2.toOption)

/-- The lock read that succeeds in the step. -/
def lockRead (c : FirmwareConfig) (l : FirmwareLabel) : Option DeviceInformation :=
  (c.readEnd l).bind (·.2.toOption)

/-- The task waits for the lock. -/
def AtLock (c : FirmwareConfig) (t : TaskId) : Prop :=
  ∃ req f, c.tasks t = some (req, .op .deviceInformation f)

/-- The lock is contacted in the step. -/
def Contacts (versionDot : VersionDot) (serial : Serial) (c : FirmwareConfig)
    (l : FirmwareLabel) : Prop :=
  ∃ t, ¬ AtLock c t ∧ AtLock (Config.step (FirmwareRequest.prog versionDot serial) c l) t

/-- A probe succeeds in the step, and its version is not the installed one. -/
def Diverges (c : FirmwareConfig) (l : FirmwareLabel) : Prop :=
  ∃ latest, c.probed l = some latest ∧
    versionsEqual c.state.values.installedVersion (some latest.version) = false

theorem atLock_put (c : FirmwareConfig) (t : TaskId) (req : FirmwareRequest)
    (p : Fw Unit × FirmwareEntity) (t' : TaskId) :
    AtLock (c.put t req p) t' ↔
      if t' = t then ∃ f, p.1 = .op .deviceInformation f else AtLock c t' := by
  by_cases ht : t' = t
  · subst ht
    rw [if_pos rfl, AtLock, Config.put_self]
    obtain ⟨k, e⟩ := p
    cases k with
    | op o f =>
      constructor
      · rintro ⟨_, g, hg⟩
        cases hg
        exact ⟨g, rfl⟩
      · rintro ⟨g, hg⟩
        exact ⟨req, g, by rw [hg]⟩
    | _ => exact ⟨by rintro ⟨_, _, ⟨⟩⟩, by rintro ⟨_, ⟨⟩⟩⟩
  · rw [if_neg ht, AtLock, AtLock, Config.put_other c ht]

section
variable {versionDot : VersionDot} {serial : Serial} {c : FirmwareConfig} {l : FirmwareLabel}
  {p : ChainPhase Nat TaskId} {t : TaskId} {req : FirmwareRequest} {k : Fw Unit}

/-- A step ends one call at most. -/
theorem lockRead_of_probed {latest : FirmwareVersion} (hprobed : probed c l = some latest) :
    lockRead c l = none := by
  cases l with
  | resume t reply =>
    simp only [probed, lockRead, probeEnd, readEnd] at hprobed ⊢
    split at hprobed
    · next htask => simp only [htask, Option.bind_none]
    · cases hprobed
  | _ => rfl

/-- The lock is contacted by the task that stops, if at all. -/
theorem contacts_put {stop : Fw Unit × FirmwareEntity}
    (hs : Config.step (FirmwareRequest.prog versionDot serial) c l = c.put t req stop)
    (ht : ¬ AtLock c t) :
    Contacts versionDot serial c l ↔ ∃ f, stop.1 = .op .deviceInformation f := by
  unfold Contacts
  simp only [hs, atLock_put]
  constructor
  · rintro ⟨t', hno, hyes⟩
    by_cases hne : t' = t
    · rwa [if_pos hne] at hyes
    · rw [if_neg hne] at hyes
      exact absurd hyes hno
  · intro hstop
    exact ⟨t, ht, by rwa [if_pos rfl]⟩

theorem not_contacts {stop : Fw Unit × FirmwareEntity}
    (hs : Config.step (FirmwareRequest.prog versionDot serial) c l = c.put t req stop)
    (hstop : ¬ ∃ f, stop.1 = .op .deviceInformation f) : ¬ Contacts versionDot serial c l := by
  rintro ⟨t', hno, hyes⟩
  rw [hs, atLock_put] at hyes
  by_cases hne : t' = t
  · rw [if_pos hne] at hyes
    exact hstop hyes
  · rw [if_neg hne] at hyes
    exact hno hyes

/-- A task that sends a probe does not contact the lock. -/
theorem probing_ne : ¬ ∃ f, probing versionDot serial req Fw.latestFirmware =
    .op .deviceInformation f := by
  rintro ⟨f, hf⟩
  rw [probing_wait] at hf
  cases hf

/-- Nor does one that has ended. -/
theorem ended_ne (hk : k.ended.isSome = true) : ¬ ∃ f, k = .op .deviceInformation f := by
  rintro ⟨f, rfl⟩
  cases hk

/-- The values after a step. -/
def valuesAfter (versionDot : VersionDot) (c : FirmwareConfig) (l : FirmwareLabel) :
    FirmwareValues :=
  match probed c l, lockRead c l with
  | some latest, _ => c.state.values.probed latest
  | none, some info => c.state.values.read versionDot info
  | none, none => c.state.values

theorem task_values (p : CycleProgress × FirmwareEntity) :
    (CycleProgress.task versionDot serial req p).2.values = p.2.values := by
  obtain ⟨progress, e⟩ := p
  cases progress with
  | finish outcome =>
    simp only [CycleProgress.task, FirmwareEntity.endCycle]
    split <;> rfl
  | _ => rfl

theorem task_contact (p : CycleProgress × FirmwareEntity) :
    (∃ f, (CycleProgress.task versionDot serial req p).1 = .op .deviceInformation f) ↔
      p.1 = .contact := by
  obtain ⟨progress, e⟩ := p
  cases progress with
  | contact => exact ⟨fun _ => rfl, fun _ => ⟨_, reading_wait versionDot serial req⟩⟩
  | finish outcome =>
    exact ⟨fun hf => absurd hf (ended_ne (after_ended serial req _)), by rintro ⟨⟩⟩
  | fail err => exact ⟨by rintro ⟨_, ⟨⟩⟩, by rintro ⟨⟩⟩

/-- **One step**: the values after it, and when it contacts the lock. -/
theorem step_values (h : Follows versionDot serial c p)
    (hl : ∀ t lastState, l ≠ .spawn t (.added lastState)) :
    (Config.step (FirmwareRequest.prog versionDot serial) c l).state.values =
        valuesAfter versionDot c l ∧
      (Contacts versionDot serial c l ↔ Diverges c l) := by
  cases hs : Config.started (FirmwareRequest.prog versionDot serial) c l with
  | none =>
    obtain ⟨hprobe, hread⟩ := ends_none hs
    simp only [Contacts, Diverges, valuesAfter, probed, lockRead, step_idle hs, hprobe, hread]
    refine ⟨rfl, ?_⟩
    simp
  | some start =>
    obtain ⟨t, req, k, e⟩ := start
    have hstep := step_started hs
    obtain ⟨hkind, rfl⟩ := started_kinds h hs
    cases hkind with
    | spawned hl' ht =>
      subst hl'
      have hstops := spawned_stops versionDot serial t c.state req
        fun lastState hreq => hl t lastState (by rw [hreq])
      have hdiverges : ¬ Diverges c (.spawn t req) := by rintro ⟨_, ⟨⟩, _⟩
      generalize firmwareMachine.advance t (req.prog versionDot serial) c.state = stop
        at hstep hstops
      cases hstops with
      | start e' hidle hflag hprobes hvalues =>
        refine ⟨?_, iff_of_false (not_contacts hstep probing_ne) hdiverges⟩
        rw [hstep]
        exact hvalues
      | rest k e' hk hflag hprobes hvalues =>
        refine ⟨?_, iff_of_false (not_contacts hstep (ended_ne hk)) hdiverges⟩
        rw [hstep]
        exact hvalues
    | probe r hend hread hp ht =>
      have hnot : ¬ AtLock c t := by
        rintro ⟨req', f, hf⟩
        rw [ht, probing_wait] at hf
        cases hf
      rw [resumed_probe] at hstep
      rw [contacts_put hstep hnot, task_contact, probeEnded_contact, hstep]
      simp only [Diverges, valuesAfter, probed, lockRead, hend, hread, Config.put]
      rw [task_values]
      refine ⟨?_, Iff.rfl⟩
      cases r <;> rfl
    | read r hend hprobe hp ht =>
      rw [resumed_read] at hstep
      have hnot := not_contacts hstep
        (fun hf => readEnded_contact versionDot c.state r ((task_contact _).mp hf))
      refine ⟨?_, iff_of_false hnot ?_⟩
      · rw [hstep]
        simp only [valuesAfter, probed, lockRead, hend, hprobe, Config.put]
        rw [task_values]
        cases r <;> rfl
      · rintro ⟨latest, hlatest, -⟩
        simp [probed, hprobe] at hlatest

end

/-! ## Runs -/

section
variable (versionDot : VersionDot) (serial : Serial) (ls : List FirmwareLabel)

/-- The first successful probe of a new entity. -/
def firstProbe : Option FirmwareVersion :=
  Runs.first (Config.step (FirmwareRequest.prog versionDot serial)) probed
    (init versionDot serial none) ls

/-- The most recent successful probe. -/
def lastProbe : Option FirmwareVersion :=
  Runs.last (Config.step (FirmwareRequest.prog versionDot serial)) probed
    (init versionDot serial none) ls

/-- The most recent successful lock read. -/
def lastRead : Option DeviceInformation :=
  Runs.last (Config.step (FirmwareRequest.prog versionDot serial)) lockRead
    (init versionDot serial none) ls

/-- The values whose sources are the probe and the lock read, and of the identifier the last read
or the given probe. -/
def valuesFrom (probe idProbe : Option FirmwareVersion) (read : Option DeviceInformation) :
    FirmwareValues where
  installedVersion := read.map (versionDot ·.firmwareVersion)
  latestVersion := probe.map (·.version)
  firmwareIdentifier := (read.map (·.firmwareIdentifier)).or (idProbe.map (·.firmwareIdentifier))
  hardwareVersion := read.map (versionDot ·.hardwareVersion)
  maturity := probe.map (·.maturity)

theorem firstProbe_snoc (l : FirmwareLabel) :
    firstProbe versionDot serial (ls ++ [l]) =
      (firstProbe versionDot serial ls).or (probed (run versionDot serial none ls) l) :=
  Runs.first_snoc ..

theorem lastProbe_snoc (l : FirmwareLabel) :
    lastProbe versionDot serial (ls ++ [l]) =
      (probed (run versionDot serial none ls) l).or (lastProbe versionDot serial ls) :=
  Runs.last_snoc ..

theorem lastRead_snoc (l : FirmwareLabel) :
    lastRead versionDot serial (ls ++ [l]) =
      (lockRead (run versionDot serial none ls) l).or (lastRead versionDot serial ls) :=
  Runs.last_snoc ..

/-- A probe is the source of the values of a probe, and of the identifier when it is the first. -/
theorem probed_valuesFrom (probe idProbe : Option FirmwareVersion) (read : Option DeviceInformation)
    (latest : FirmwareVersion) :
    (valuesFrom versionDot probe idProbe read).probed latest =
      valuesFrom versionDot (some latest) (idProbe.or (some latest)) read := by
  cases read <;> cases idProbe <;> rfl

theorem read_valuesFrom (probe idProbe : Option FirmwareVersion) (read : Option DeviceInformation)
    (info : DeviceInformation) :
    (valuesFrom versionDot probe idProbe read).read versionDot info =
      valuesFrom versionDot probe idProbe (some info) := rfl

/-- **What the entity shows after a run.** -/
theorem values_run (hls : ls.all (!·.isAdd) = true) :
    (run versionDot serial none ls).state.values =
      valuesFrom versionDot (lastProbe versionDot serial ls) (firstProbe versionDot serial ls)
        (lastRead versionDot serial ls) := by
  induction ls using List.reverseRecOn with
  | nil => rfl
  | append_singleton ls l ih =>
    rw [List.all_append, Bool.and_eq_true] at hls
    obtain ⟨hls, hl⟩ := hls
    obtain ⟨p, hp⟩ := follows_exec (follows_init versionDot serial none) hls
    have hl' : l.isAdd = false := by simpa using hl
    have hstep := (step_values hp (ne_add hl')).1
    have hsnoc : (run versionDot serial none (ls ++ [l])).state.values =
        valuesAfter versionDot (run versionDot serial none ls) l := by
      rw [run_snoc]
      exact hstep
    rw [hsnoc, valuesAfter, ih hls, firstProbe_snoc, lastProbe_snoc, lastRead_snoc]
    cases hprobed : probed (run versionDot serial none ls) l with
    | some latest =>
      rw [lockRead_of_probed hprobed]
      exact probed_valuesFrom ..
    | none =>
      rw [Option.or_none]
      cases lockRead (run versionDot serial none ls) l with
      | none => rfl
      | some info => exact read_valuesFrom ..

/-- Each value comes from its source, and the lock is contacted when the versions diverge. -/
structure Provenance : Prop where
  latestVersion : (run versionDot serial none ls).state.values.latestVersion =
    (lastProbe versionDot serial ls).map (·.version)
  maturity : (run versionDot serial none ls).state.values.maturity =
    (lastProbe versionDot serial ls).map (·.maturity)
  installedVersion : (run versionDot serial none ls).state.values.installedVersion =
    (lastRead versionDot serial ls).map (versionDot ·.firmwareVersion)
  hardwareVersion : (run versionDot serial none ls).state.values.hardwareVersion =
    (lastRead versionDot serial ls).map (versionDot ·.hardwareVersion)
  firmwareIdentifier : (run versionDot serial none ls).state.values.firmwareIdentifier =
    ((lastRead versionDot serial ls).map (·.firmwareIdentifier)).or
      ((lastProbe versionDot serial ls).map (·.firmwareIdentifier))
  contacts : ∀ pre l post, ls = pre ++ l :: post →
    (Contacts versionDot serial (run versionDot serial none pre) l ↔
      Diverges (run versionDot serial none pre) l)

/-- Every lock contact of a run is the divergence of its probe. -/
theorem contacts_run (hls : ls.all (!·.isAdd) = true) (pre : List FirmwareLabel)
    (l : FirmwareLabel) (post : List FirmwareLabel) (hsplit : ls = pre ++ l :: post) :
    Contacts versionDot serial (run versionDot serial none pre) l ↔
      Diverges (run versionDot serial none pre) l := by
  subst hsplit
  rw [List.all_append, List.all_cons, Bool.and_eq_true, Bool.and_eq_true] at hls
  obtain ⟨hpre, hl, -⟩ := hls
  obtain ⟨p, hp⟩ := follows_exec (follows_init versionDot serial none) hpre
  exact (step_values hp (ne_add (by simpa using hl))).2

/-- **Every value comes from its source** when a lock read has succeeded, or the last successful
probe brought the identifier of the first one; and then only. -/
theorem provenance_iff (hls : ls.all (!·.isAdd) = true) :
    Provenance versionDot serial ls ↔ (lastRead versionDot serial ls = none →
      (firstProbe versionDot serial ls).map (·.firmwareIdentifier) =
        (lastProbe versionDot serial ls).map (·.firmwareIdentifier)) := by
  have hvalues := values_run versionDot serial ls hls
  constructor
  · intro hprov hread
    have hid := hprov.firmwareIdentifier
    rw [hvalues, valuesFrom, hread] at hid
    exact hid
  · intro hid
    refine ⟨by rw [hvalues, valuesFrom], by rw [hvalues, valuesFrom], by rw [hvalues, valuesFrom],
      by rw [hvalues, valuesFrom], ?_, contacts_run versionDot serial ls hls⟩
    rw [hvalues, valuesFrom]
    cases hread : lastRead versionDot serial ls with
    | some info => rfl
    | none => exact hid hread

end

theorem provenance_iff_forcedTwice :
    Provenance exampleDot "L1" forcedTwice ↔ (lastRead exampleDot "L1" forcedTwice = none →
      (firstProbe exampleDot "L1" forcedTwice).map (·.firmwareIdentifier) =
        (lastProbe exampleDot "L1" forcedTwice).map (·.firmwareIdentifier)) :=
  provenance_iff exampleDot "L1" forcedTwice (by decide)

/-- The cloud names another firmware before the lock could be read. -/
def renamedFirmware : List FirmwareLabel :=
  [.resume 0 (cloud (.ok exampleLatest)),
    .resume 0 (lockReads (.error (.lockControlError "out of range"))), .spawn 1 (.fire 0),
    .resume 1 (cloud (.ok ⟨"D2", "production", "2.0.0"⟩)),
    .resume 1 (lockReads (.error (.lockControlError "out of range")))]

/-- The entity shows version 2.0.0 and the identifier that came with 1.2.3. -/
theorem provenance_renamedFirmware :
    ¬ ∀ ls : List FirmwareLabel, ls.all (!·.isAdd) = true → Provenance exampleDot "L1" ls := by
  intro h
  exact absurd (h renamedFirmware (by decide)).firmwareIdentifier (by decide)

end FirmwareConfig

end DanalockBle
