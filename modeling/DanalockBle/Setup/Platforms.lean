import DanalockBle.Control.Commands
import DanalockBle.Setup.Registry
import Mathlib.Data.List.Infix

/-!
# The entities of a config entry

What the platforms add for an entry whose setup forwards to them. In every setup that comes so far,
each supported device of the cloud list gets the same entities, each with its own device's control;
no two share a unique id on their platform or an entity id, and each belongs to a device that the
registry has by then (`setup_platforms`). The parts of a unique id can be read off it again: the
serial, which has no separator, and the suffix, none of which ends in another.
-/

/-! ## Names made of parts -/

section
variable {α : Type}

/-- A first part without the separator. -/
theorem append_cons_inj_of_first {sep : α} {d d' r r' : List α} (hd : sep ∉ d) (hd' : sep ∉ d')
    (heq : d ++ sep :: r = d' ++ sep :: r') : d = d' ∧ r = r' := by
  induction d generalizing d' with
  | nil =>
    cases d' with
    | nil => exact ⟨rfl, (List.cons.inj heq).2⟩
    | cons c d' => exact absurd ((List.cons.inj heq).1 ▸ List.mem_cons_self) hd'
  | cons c d ih =>
    cases d' with
    | nil => exact absurd ((List.cons.inj heq).1 ▸ List.mem_cons_self) hd
    | cons c' d' =>
      obtain ⟨rfl, hrest⟩ := List.cons.inj heq
      obtain ⟨rfl, hr⟩ := ih (List.not_mem_of_not_mem_cons hd) (List.not_mem_of_not_mem_cons hd')
        hrest
      exact ⟨rfl, hr⟩

/-- No word of the code ends in another. -/
def SuffixFree (code : List (List α)) : Prop := ∀ w ∈ code, ∀ w' ∈ code, w <:+ w' → w = w'

instance [DecidableEq α] (code : List (List α)) : Decidable (SuffixFree code) :=
  inferInstanceAs (Decidable (∀ w ∈ code, ∀ w' ∈ code, w <:+ w' → w = w'))

/-- A last part from such a code, whatever stands before it. -/
theorem SuffixFree.append_inj {code : List (List α)} {k k' w w' : List α} (h : SuffixFree code)
    (hw : w ∈ code) (hw' : w' ∈ code) (heq : k ++ w = k' ++ w') : k = k' ∧ w = w' := by
  have hsame : w = w' := by
    have hsuffix : w <:+ k' ++ w' := heq ▸ List.suffix_append k w
    rcases List.suffix_or_suffix_of_suffix hsuffix (List.suffix_append k' w') with hs | hs
    · exact h w hw w' hw' hs
    · exact (h w' hw' w hw hs).symm
  subst hsame
  exact ⟨List.append_cancel_right heq, rfl⟩

end

namespace DanalockBle

open Coroutine Coroutine.Coro

inductive Platform where
  | binarySensor
  | button
  | lock
  | select
  | sensor
  | update
  deriving DecidableEq, Repr

/-- The value of the enumeration, which is the domain of the entity ids. -/
def Platform.value : Platform → String
  | binarySensor => "binary_sensor"
  | button => "button"
  | lock => "lock"
  | select => "select"
  | sensor => "sensor"
  | update => "update"

/-- What an entity is constructed with: the state object or the serial of its device, its suffix,
and the control. -/
structure PlatformEntity where
  platform : Platform
  serial : Serial
  suffix : String
  /-- the device of the control -/
  control : Option Serial := none
  deriving DecidableEq, Repr

namespace PlatformEntity

variable (e : PlatformEntity)

def uniqueId : String := s!"{e.serial}_{e.suffix}"

def entityId : String := s!"{e.platform.value}.{domain}_{e.serial}_{e.suffix}"

/-- The identifier of `device_info`. -/
def deviceIdentifier : String × String := (domain, e.serial)

end PlatformEntity

namespace RuntimeData

variable (runtime : RuntimeData)

/-- The keys of `monitor.states`, a comprehension over the key dictionary. -/
def states : List Serial := runtime.keys.map (·.1)

/-- `controls.get(serial)`. -/
def control (serial : Serial) : Option Serial :=
  if serial ∈ runtime.controls then some serial else none

end RuntimeData

/-! ## `async_setup_entry` of each platform -/

namespace Platform

def plain (platform : Platform) (suffix : String) (serial : Serial) : PlatformEntity :=
  { platform := platform, serial := serial, suffix := suffix }

def statusSuffixes : List String := ["jammed", "auto_calibrated", "point_calibrated"]

def calibrationPoints : List String := ["set_point_open", "set_point_closed"]

def settingSuffixes : List String := settingFlagNames.map DanalockSettingSelectEntity.settingName

def sensorSuffixes : List String :=
  ["signal_strength", "rssi", "update_counter", "battery_level", "key_valid_until"]

section
variable (runtime : RuntimeData)

def binarySensorSetup : List PlatformEntity :=
  if !runtime.monitor then []
  else
    runtime.states.map (plain .binarySensor "lock_state") ++
      (runtime.states.flatMap fun serial =>
        statusSuffixes.map fun suffix => plain .binarySensor suffix serial) ++
      runtime.states.map (plain .binarySensor "twist_assist")

def buttonSetup : List PlatformEntity :=
  if !runtime.monitor then []
  else runtime.states.flatMap fun serial =>
    let control := runtime.control serial
    calibrationPoints.map fun suffix => ⟨.button, serial, suffix, control⟩

def lockSetup : List PlatformEntity :=
  if !runtime.monitor then []
  else runtime.states.map fun serial => ⟨.lock, serial, "lock", runtime.control serial⟩

def selectSetup : List PlatformEntity :=
  if !runtime.monitor then []
  else runtime.states.flatMap fun serial =>
    let control := runtime.control serial
    settingSuffixes.map fun suffix => ⟨.select, serial, suffix, control⟩

/-- `monitor.states[serial]` is there: both are the serials of the key dictionary. -/
def sensorSetup : List PlatformEntity :=
  if !runtime.monitor then []
  else runtime.keys.flatMap fun (serial, _) =>
    sensorSuffixes.map fun suffix => plain .sensor suffix serial

/-- `controls[serial]` raises when there is no control. -/
def updateSetup : Except PyErr (List PlatformEntity) :=
  if !runtime.monitor then .ok []
  else runtime.keys.mapM fun (serial, _) =>
    match runtime.control serial with
    | some control => .ok ⟨.update, serial, "firmware", some control⟩
    | none => .error (.other "KeyError" serial)

/-- The platforms of `async_forward_entry_setups`. -/
def setups : Except PyErr (List PlatformEntity) := do
  let updates ← updateSetup runtime
  return binarySensorSetup runtime ++ buttonSetup runtime ++ lockSetup runtime ++
    selectSetup runtime ++ sensorSetup runtime ++ updates

end

end Platform

/-! ## What is meant to be there -/

/-- The entities of each device. -/
def Platform.suffixes : Platform → List String
  | binarySensor => ["lock_state", "jammed", "auto_calibrated", "point_calibrated", "twist_assist"]
  | button => ["set_point_open", "set_point_closed"]
  | lock => ["lock"]
  | select => ["auto_lock", "brake_and_go_back", "blocked_to_blocked"]
  | sensor => ["signal_strength", "rssi", "update_counter", "battery_level", "key_valid_until"]
  | update => ["firmware"]

/-- The entities of each platform, in the order in which it adds them. -/
def Platform.groups : List (Platform × List String) :=
  [(binarySensor, ["lock_state"]), (binarySensor, statusSuffixes), (binarySensor, ["twist_assist"]),
    (button, calibrationPoints), (lock, ["lock"]), (select, settingSuffixes),
    (sensor, sensorSuffixes), (update, ["firmware"])]

theorem Platform.mem_groups (platform : Platform) (suffix : String) :
    (∃ group ∈ groups, platform = group.1 ∧ suffix ∈ group.2) ↔ suffix ∈ platform.suffixes := by
  cases platform <;> simp [groups, suffixes, statusSuffixes, calibrationPoints, settingSuffixes,
    sensorSuffixes, settingFlagNames, DanalockSettingSelectEntity.settingName, or_assoc]

/-- The entities of the platform run commands. -/
def Platform.commands : Platform → Bool
  | binarySensor | sensor => false
  | _ => true

/-- The entity is one of those of its device, with the device's own control if it runs commands. -/
def PlatformEntity.Intended (e : PlatformEntity) : Prop :=
  e.suffix ∈ e.platform.suffixes ∧
    e.control = if e.platform.commands then some e.serial else none

/-! ## The names -/

section
variable {e e' : PlatformEntity}

theorem uniqueId_toList :
    e.uniqueId.toList = e.serial.toList ++ '_' :: e.suffix.toList := by
  have hid : e.uniqueId = e.serial ++ "_" ++ e.suffix := rfl
  simp [hid]

theorem suffixes_free (platform : Platform) :
    SuffixFree (platform.suffixes.map fun suffix => '_' :: suffix.toList) := by
  cases platform <;> decide

theorem suffix_inj (hplatform : e.platform = e'.platform) (h : e.Intended) (h' : e'.Intended)
    {k k' : List Char} (heq : k ++ '_' :: e.suffix.toList = k' ++ '_' :: e'.suffix.toList) :
    k = k' ∧ e.suffix = e'.suffix := by
  obtain ⟨hk, hsuffix⟩ := (suffixes_free e.platform).append_inj (List.mem_map_of_mem h.1)
    (List.mem_map_of_mem (hplatform ▸ h'.1)) heq
  exact ⟨hk, String.toList_injective (List.cons.inj hsuffix).2⟩

/-- Two entities of one device are told apart by platform and suffix. -/
theorem Intended.ext (h : e.Intended) (h' : e'.Intended) (hplatform : e.platform = e'.platform)
    (hserial : e.serial = e'.serial) (hsuffix : e.suffix = e'.suffix) : e = e' := by
  obtain ⟨p, s, x, c⟩ := e
  obtain ⟨p', s', x', c'⟩ := e'
  obtain rfl : p = p' := hplatform
  obtain rfl : s = s' := hserial
  obtain rfl : x = x' := hsuffix
  obtain rfl : c = c' := h.2.trans h'.2.symm
  rfl

theorem uniqueId_inj (h : e.Intended) (h' : e'.Intended) (hplatform : e.platform = e'.platform)
    (heq : e.uniqueId = e'.uniqueId) : e = e' := by
  have hchars := congrArg String.toList heq
  rw [uniqueId_toList, uniqueId_toList] at hchars
  obtain ⟨hserial, hsuffix⟩ := suffix_inj hplatform h h' hchars
  exact Intended.ext h h' hplatform (String.toList_injective hserial) hsuffix

theorem entityId_toList : e.entityId.toList = e.platform.value.toList ++ '.' ::
    (("danalock_ble_".toList ++ e.serial.toList) ++ '_' :: e.suffix.toList) := by
  have hid : e.entityId =
      e.platform.value ++ "." ++ "danalock_ble" ++ "_" ++ e.serial ++ "_" ++ e.suffix := rfl
  simp [hid]

theorem value_inj {platform platform' : Platform} (h : platform.value = platform'.value) :
    platform = platform' := by
  cases platform <;> cases platform' <;> first | rfl | (revert h; decide)

theorem entityId_inj (h : e.Intended) (h' : e'.Intended) (heq : e.entityId = e'.entityId) :
    e = e' := by
  have hdot : ∀ platform : Platform, '.' ∉ platform.value.toList := by
    intro platform
    cases platform <;> decide
  have hchars := congrArg String.toList heq
  rw [entityId_toList, entityId_toList] at hchars
  obtain ⟨hvalue, hrest⟩ := append_cons_inj_of_first (hdot _) (hdot _) hchars
  have hplatform := value_inj (String.toList_injective hvalue)
  obtain ⟨hserial, hsuffix⟩ := suffix_inj hplatform h h' hrest
  exact Intended.ext h h' hplatform (String.toList_injective (List.append_cancel_left hserial))
    hsuffix

end

/-! ## The platforms -/

namespace RuntimeData

/-- The runtime data as the setup leaves it to the platforms. -/
structure Complete (runtime : RuntimeData) : Prop where
  nodup : runtime.states.Nodup
  controls : runtime.controls = runtime.states
  monitor : runtime.monitor = !runtime.keys.isEmpty

variable {runtime : RuntimeData} (h : runtime.Complete)
include h

theorem Complete.control {serial : Serial} (hs : serial ∈ runtime.states) :
    runtime.control serial = some serial := if_pos (h.controls ▸ hs)

theorem Complete.states_of_not_monitor (hm : runtime.monitor = false) : runtime.states = [] := by
  have hempty : runtime.keys.isEmpty = true := by simpa [hm] using h.monitor
  rw [states, List.isEmpty_iff.mp hempty]
  rfl

end RuntimeData

/-- Entities of a platform with the suffixes, for each device. -/
def Platform.each (platform : Platform) (suffixes : List String) (serials : List Serial) :
    List PlatformEntity :=
  serials.flatMap fun serial => suffixes.map fun suffix =>
    ⟨platform, serial, suffix, if platform.commands then some serial else none⟩

section
variable {platform : Platform} {suffixes : List String} {serials : List Serial}

theorem mem_each {e : PlatformEntity} : e ∈ platform.each suffixes serials ↔
    e.platform = platform ∧ e.serial ∈ serials ∧ e.suffix ∈ suffixes ∧
      e.control = if platform.commands then some e.serial else none := by
  obtain ⟨p, s, x, c⟩ := e
  simp only [Platform.each, List.mem_flatMap, List.mem_map, PlatformEntity.mk.injEq]
  constructor
  · rintro ⟨s', hs, x', hx, rfl, rfl, rfl, rfl⟩
    exact ⟨rfl, hs, hx, rfl⟩
  · rintro ⟨rfl, hs, hx, rfl⟩
    exact ⟨s, hs, x, hx, rfl, rfl, rfl, rfl⟩

theorem nodup_each (hserials : serials.Nodup) (hsuffixes : suffixes.Nodup) :
    (platform.each suffixes serials).Nodup := by
  refine List.nodup_flatMap.mpr ⟨fun serial _ => hsuffixes.map fun x x' hx => ?_,
    hserials.imp fun hne => ?_⟩
  · exact congrArg PlatformEntity.suffix hx
  · intro e he he'
    obtain ⟨x, -, rfl⟩ := List.mem_map.mp he
    obtain ⟨x', -, heq⟩ := List.mem_map.mp he'
    exact hne (congrArg PlatformEntity.serial heq).symm

/-- Groups of entities that share no platform and suffix. -/
theorem nodup_groups {groups : List (Platform × List String)}
    (hgroups : (groups.flatMap fun group => group.2.map fun suffix => (group.1, suffix)).Nodup)
    (hserials : serials.Nodup) :
    (groups.flatMap fun group => group.1.each group.2 serials).Nodup := by
  obtain ⟨hsuffixes, hdisjoint⟩ := List.nodup_flatMap.mp hgroups
  refine List.nodup_flatMap.mpr ⟨fun group hgroup =>
    nodup_each hserials (hsuffixes group hgroup).of_map, hdisjoint.imp fun hpairs => ?_⟩
  intro e he he'
  obtain ⟨hplatform, -, hsuffix, -⟩ := mem_each.mp he
  obtain ⟨hplatform', -, hsuffix', -⟩ := mem_each.mp he'
  exact hpairs (List.mem_map.mpr ⟨e.suffix, hsuffix, by rw [← hplatform]⟩)
    (List.mem_map.mpr ⟨e.suffix, hsuffix', by rw [← hplatform']⟩)

theorem map_plain (hcommands : platform.commands = false) (suffix : String) :
    serials.map (platform.plain suffix) = platform.each [suffix] serials := by
  simp [Platform.each, Platform.plain, hcommands, List.map_eq_flatMap]

end

namespace RuntimeData

variable {runtime : RuntimeData} (h : runtime.Complete)
include h

theorem Complete.controlled (platform : Platform) (hcommands : platform.commands = true)
    (suffixes : List String) :
    (runtime.states.flatMap fun serial =>
      let control := runtime.control serial
      suffixes.map fun suffix => ⟨platform, serial, suffix, control⟩) =
    platform.each suffixes runtime.states := by
  refine List.flatMap_congr fun serial hs => ?_
  rw [h.control hs, hcommands]
  rfl

/-- No control is missing. -/
theorem Complete.updateSetup (hm : runtime.monitor = true) : Platform.updateSetup runtime =
    .ok (Platform.each .update ["firmware"] runtime.states) := by
  have hall : ∀ p ∈ runtime.keys, runtime.control p.1 = some p.1 := fun p hp =>
    h.control (List.mem_map_of_mem hp)
  simp only [Platform.updateSetup, hm, Bool.not_true, Bool.false_eq_true, if_false, states]
  generalize runtime.keys = keys at hall
  induction keys with
  | nil => rfl
  | cons p keys ih =>
    rw [List.mapM_cons, ih fun p hp => hall p (List.mem_cons_of_mem _ hp)]
    simp only [hall p List.mem_cons_self]
    rfl

/-- The entities of all platforms. -/
theorem Complete.setups : Platform.setups runtime =
    .ok (Platform.groups.flatMap fun group => group.1.each group.2 runtime.states) := by
  cases hm : runtime.monitor with
  | false =>
    have hstates := h.states_of_not_monitor hm
    simp [Platform.setups, Platform.updateSetup, Platform.binarySensorSetup, Platform.buttonSetup,
      Platform.lockSetup, Platform.selectSetup, Platform.sensorSetup, Platform.groups,
      Platform.each, hm, hstates]
  | true =>
    have hplain : ∀ suffix, runtime.states.map (Platform.plain .binarySensor suffix) =
        Platform.each .binarySensor [suffix] runtime.states := map_plain rfl
    have hstatus : (runtime.states.flatMap fun serial => Platform.statusSuffixes.map fun suffix =>
        Platform.plain .binarySensor suffix serial) =
          Platform.each .binarySensor Platform.statusSuffixes runtime.states := rfl
    have hlock : runtime.states.map (fun serial =>
        (⟨.lock, serial, "lock", runtime.control serial⟩ : PlatformEntity)) =
          Platform.each .lock ["lock"] runtime.states := by
      rw [← h.controlled .lock rfl, List.map_eq_flatMap]
      rfl
    have hsensor : (runtime.keys.flatMap fun (serial, _) =>
        Platform.sensorSuffixes.map fun suffix => Platform.plain .sensor suffix serial) =
          Platform.each .sensor Platform.sensorSuffixes runtime.states := by
      rw [Platform.each, states, List.flatMap_map]
      rfl
    have hbutton := h.controlled .button rfl Platform.calibrationPoints
    have hselect := h.controlled .select rfl Platform.settingSuffixes
    simp only [Platform.setups, h.updateSetup hm, Platform.binarySensorSetup, Platform.buttonSetup,
      Platform.lockSetup, Platform.selectSetup, Platform.sensorSetup, Platform.groups, hm, hlock,
      hsensor, hbutton, hselect, hplain, hstatus, Bool.not_true, Bool.false_eq_true, if_false,
      List.flatMap_cons, List.flatMap_nil, List.append_nil]
    simp only [List.append_assoc]
    rfl

/-- **The entities that each device is meant to have, each once.** -/
theorem Complete.intended : ∃ entities, Platform.setups runtime = .ok entities ∧
    entities.Nodup ∧ ∀ e, e ∈ entities ↔ e.serial ∈ runtime.states ∧ e.Intended := by
  refine ⟨_, h.setups, nodup_groups (by decide) h.nodup, fun e => ?_⟩
  simp only [List.mem_flatMap, mem_each, PlatformEntity.Intended, ← Platform.mem_groups]
  constructor
  · rintro ⟨group, hgroup, hplatform, hserial, hsuffix, hcontrol⟩
    exact ⟨hserial, ⟨group, hgroup, hplatform, hsuffix⟩, hplatform ▸ hcontrol⟩
  · rintro ⟨hserial, ⟨group, hgroup, hplatform, hsuffix⟩, hcontrol⟩
    exact ⟨group, hgroup, hplatform, hserial, hsuffix, hplatform ▸ hcontrol⟩

end RuntimeData

/-! ## The setup -/

/-- The last device list, runtime data and registry sync of a setup. -/
structure SetupRecord where
  summaries : Option (List DeviceSummary) := none
  runtime : Option RuntimeData := none
  synced : Option (List (Serial × Option String) × List (Serial × Option String)) := none

/-- What the platforms add is what is meant to be there. -/
structure Served (summaries : List DeviceSummary)
    (names deviceTypes : List (Serial × Option String)) (entities : List PlatformEntity) :
    Prop where
  mem : ∀ e, e ∈ entities ↔ e.Intended ∧
    ∃ summary ∈ summaries, isSupportedDevice summary.deviceType ∧ summary.serial = e.serial
  uniqueIds : (entities.map fun e => (e.platform, e.uniqueId)).Nodup
  entityIds : (entities.map (·.entityId)).Nodup
  /-- whatever the registry held before the sync -/
  device : ∀ e ∈ entities, ∀ serialWithSeparators entry r,
    ∃ d ∈ (registerDevices serialWithSeparators entry names deviceTypes r).devices,
      e.deviceIdentifier ∈ d.identifiers ∧ entry ∈ d.configEntries

def SetupRecord.Ready (seen : SetupRecord) : Prop :=
  ∃ summaries runtime names deviceTypes entities,
    seen = ⟨some summaries, some runtime, some (names, deviceTypes)⟩ ∧
      Platform.setups runtime = .ok entities ∧ Served summaries names deviceTypes entities

/-- The platforms are set up only when all is ready. -/
def settingUp : Protocol setupSig where
  Ghost := SetupRecord
  may seen
    | .forwardEntrySetups => seen.Ready
    | _ => True
  after seen
    | .devices, .ok summaries => some { seen with summaries := some summaries }
    | .setRuntimeData runtime, _ => some { seen with runtime := some runtime }
    | .registerDevices names deviceTypes, .ok _ =>
      some { seen with synced := some (names, deviceTypes) }
    | _, _ => some seen

/-- The operation is not part of the record. -/
def SetupOp.Unseen : SetupOp → Prop
  | devices | setRuntimeData _ | registerDevices _ _ | forwardEntrySetups => False
  | _ => True

theorem restores_of_unseen {α : Type} {c : Su α} (hc : Only SetupOp.Unseen c)
    (seen : SetupRecord) : Restores settingUp seen c := by
  refine hc.meets (P := settingUp) (J := fun g' => g' = seen) (g := seen) ?_ ?_ rfl
  · intro g o _ ho
    cases o <;> trivial
  · rintro g o r g' rfl ho hr
    cases o <;> first | exact (Option.some.inj hr).symm | exact ho.elim

theorem openStorage_unseen : Only SetupOp.Unseen openStorage :=
  openStorage_within.mono fun o ho => by cases o <;> trivial

theorem monitorStart_unseen : Only SetupOp.Unseen monitorStart := by
  refine Only.bind (Only.tryExcept (.op trivial .ofResult) fun err => ?_) fun _ =>
    Only.bind (.op trivial .ofResult) fun _ => .op trivial .ofResult
  cases err.isRuntimeError <;> trivial

theorem newControls_unseen (serials : List Serial) : Only SetupOp.Unseen (newControls serials) := by
  induction serials with
  | nil => trivial
  | cons serial rest ih => exact Only.bind (.op trivial .ofResult) fun _ => ih

variable (seen : SetupRecord)

/-- The handlers raise. -/
theorem fetchFailed_raises {α : Type} (err : PyErr) :
    Meets settingUp seen (fetchFailed err : Su α) fun r _ => ∃ e, r = .error e := by
  have hclose : ∀ e : PyErr, Meets settingUp seen (Su.aclose.bind fun _ => (.raise e : Su α))
      fun r _ => ∃ e, r = .error e := by
    intro e
    refine ⟨trivial, fun r g' _ => ?_⟩
    cases r with
    | ok _ => exact ⟨_, rfl⟩
    | error e' => exact ⟨_, rfl⟩
  cases err with
  | authError text => exact hclose _
  | cloudError text => exact hclose _
  | httpError text => exact hclose _
  | _ => exact ⟨_, rfl⟩

/-- A key for each device of the list. -/
theorem getKeys_meets (summaries : List DeviceSummary) :
    Meets settingUp seen (getKeys summaries) fun r g' => g' = seen ∧
      ∀ keys, r = .ok keys → keys.map (·.1) = summaries.map (·.serial) := by
  induction summaries with
  | nil =>
    refine ⟨rfl, ?_⟩
    rintro keys ⟨⟩
    rfl
  | cons summary rest ih =>
    refine ⟨trivial, fun r g' hr => ?_⟩
    obtain rfl := Option.some.inj hr
    cases r with
    | error e => exact ⟨rfl, nofun⟩
    | ok key =>
      show Meets settingUp seen ((getKeys rest).bind _) _
      refine Meets.bind (ih.mono fun r g' hr => ?_)
      obtain ⟨rfl, hkeys⟩ := hr
      cases r with
      | error e => exact ⟨rfl, nofun⟩
      | ok keys =>
        refine ⟨rfl, ?_⟩
        rintro _ ⟨⟩
        rw [List.map_cons, List.map_cons, hkeys keys rfl]

/-- The keys are those of the supported devices, each once. -/
structure Fetched (summaries : List DeviceSummary) (keys : List (Serial × DeviceKey)) : Prop where
  nodup : (keys.map (·.1)).Nodup
  mem : ∀ serial, serial ∈ keys.map (·.1) ↔
    ∃ summary ∈ summaries, isSupportedDevice summary.deviceType ∧ summary.serial = serial

theorem fetch_meets : Meets settingUp seen fetch fun r g' => ∀ summaries keys,
    r = .ok (summaries, keys) →
      g' = { seen with summaries := some summaries } ∧ Fetched summaries keys := by
  refine ⟨trivial, fun r g' hr => ?_⟩
  cases r with
  | error e => exact nofun
  | ok summaries =>
    obtain rfl := Option.some.inj hr
    show Meets settingUp _ ((getKeys _).bind _) _
    refine Meets.bind ((getKeys_meets _ _).mono fun r g' hr => ?_)
    obtain ⟨rfl, hkeys⟩ := hr
    cases r with
    | error e => exact nofun
    | ok keys =>
      rintro _ _ ⟨⟩
      refine ⟨rfl, nodup_dictOf keys, fun serial => ?_⟩
      rw [mem_keys_dictOf]
      show serial ∈ keys.map (·.1) ↔ _
      rw [hkeys keys rfl]
      simp only [List.mem_map, List.mem_filter, and_assoc]

/-- The platforms find what they need. -/
theorem Fetched.ready {summaries : List DeviceSummary} {keys : List (Serial × DeviceKey)}
    (h : Fetched summaries keys) (runtime : RuntimeData) (hkeys : runtime.keys = keys)
    (hruntime : runtime.Complete) (names : List (Serial × Option String)) :
    SetupRecord.Ready ⟨some summaries, some runtime, some (names,
      dictOf (summaries.map fun summary => (summary.serial, summary.deviceType)))⟩ := by
  obtain ⟨entities, hsetups, hnodup, hmem⟩ := hruntime.intended
  have hintended : ∀ e ∈ entities, e.Intended := fun e he => ((hmem e).mp he).2
  refine ⟨summaries, runtime, names, _, entities, rfl, hsetups, fun e => ?_, ?_, ?_, ?_⟩
  · rw [hmem, RuntimeData.states, hkeys, h.mem, and_comm]
  · refine hnodup.map_on fun e he e' he' heq => ?_
    obtain ⟨hplatform, hid⟩ := Prod.ext_iff.mp heq
    exact uniqueId_inj (hintended e he) (hintended e' he') hplatform hid
  · exact hnodup.map_on fun e he e' he' heq =>
      entityId_inj (hintended e he) (hintended e' he') heq
  · intro e he serialWithSeparators entry r
    obtain ⟨summary, hsummary, -, hserial⟩ := (h.mem e.serial).mp (hkeys ▸ ((hmem e).mp he).1)
    have hlisted : e.serial ∈ (dictOf (summaries.map fun summary =>
        (summary.serial, summary.deviceType))).map (·.1) := by
      refine mem_keys_dictOf.mpr (List.mem_map.mpr ⟨_, List.mem_map_of_mem hsummary, hserial⟩)
    obtain ⟨hlists, hfound⟩ := lists_registerDevices serialWithSeparators entry names _ r
    obtain ⟨d, hd, hd'⟩ := hfound e.serial hlisted
    exact ⟨d, hd, mem_serials.mp hd', ((hlists d hd).mpr ⟨_, hlisted, hd'⟩).1⟩

/-- A setup that succeeds has set up the platforms. -/
def SetupServes (c : Su Bool) (seen : SetupRecord) : Prop :=
  Meets settingUp seen c fun r g' => r = .ok true → g'.Ready

/-- Nothing of the record changes up to the platforms. -/
theorem finish_serves {seen : SetupRecord} (h : seen.Ready) :
    SetupServes (Su.addUpdateListener.bind fun _ => Su.forwardEntrySetups.bind fun _ =>
      Coro.ret true) seen := by
  refine ⟨trivial, fun r g' hr => ?_⟩
  obtain rfl := Option.some.inj hr
  cases r with
  | error e => exact nofun
  | ok _ =>
    refine ⟨h, fun r g' hr => ?_⟩
    obtain rfl := Option.some.inj hr
    cases r with
    | error e => exact nofun
    | ok _ => exact fun _ => h

theorem startDevices_meets (runtime : RuntimeData) (synced) :
    Meets settingUp ⟨seen.summaries, some runtime, synced⟩ (startDevices runtime) fun r g' =>
      r = .ok () → g' = ⟨seen.summaries, some { runtime with
        monitor := true, controls := runtime.states }, synced⟩ := by
  refine Meets.bind ((restores_of_unseen monitorStart_unseen _).mono fun r g' hr => ?_)
  subst hr
  cases r with
  | error e => exact nofun
  | ok _ =>
    refine ⟨trivial, fun _ g' hr => ?_⟩
    obtain rfl := Option.some.inj hr
    show Meets settingUp _ ((newControls _).bind _) _
    refine Meets.bind ((restores_of_unseen (newControls_unseen _) _).mono fun r g' hr => ?_)
    subst hr
    cases r with
    | error e => exact nofun
    | ok _ =>
      refine ⟨trivial, fun _ g' hr => ?_⟩
      obtain rfl := Option.some.inj hr
      refine ⟨trivial, fun r g' hr => ?_⟩
      obtain rfl := Option.some.inj hr
      cases r with
      | error e => exact nofun
      | ok _ => exact fun _ => rfl

theorem setupDevices_serves {summaries : List DeviceSummary} {keys : List (Serial × DeviceKey)}
    (h : Fetched summaries keys) (hseen : seen.summaries = some summaries) :
    SetupServes (setupDevices summaries keys) seen := by
  refine ⟨trivial, fun _ g' hr => ?_⟩
  obtain rfl := Option.some.inj hr
  refine ⟨trivial, fun r g' hr => ?_⟩
  cases r with
  | error e => exact nofun
  | ok _ =>
    obtain rfl := Option.some.inj hr
    show SetupServes (Coro.bind (if keys.isEmpty then _ else _) _) _
    rw [hseen]
    cases hempty : keys.isEmpty with
    | true =>
      refine finish_serves (h.ready { keys := keys } rfl ⟨h.nodup, ?_, ?_⟩ _)
      · rw [List.isEmpty_iff.mp hempty]
        rfl
      · rw [hempty]
        rfl
    | false =>
      refine Meets.bind ((startDevices_meets ⟨some summaries, none, none⟩ _ _).mono
        fun r g' hr => ?_)
      cases r with
      | error e => exact nofun
      | ok _ =>
        obtain rfl := hr rfl
        have hcomplete : RuntimeData.Complete ⟨keys, keys.map (·.1), true⟩ :=
          ⟨h.nodup, rfl, (congrArg (!·) hempty).symm⟩
        exact finish_serves (h.ready _ rfl hcomplete _)

/-- **Every setup that reaches the platforms serves each supported device.** Whatever the calls
answer, the platforms then raise nothing, and what they add is what each supported device of the
cloud list is meant to have, with its own control; no two entities of a platform share a unique id
and no two an entity id, and each belongs to a device of the entry in the registry. No other setup
succeeds. -/
theorem setup_platforms :
    Meets settingUp {} asyncSetupEntry fun r seen => r = .ok true → seen.Ready := by
  show SetupServes (openStorage.bind _) _
  refine Meets.bind ((restores_of_unseen openStorage_unseen _).mono fun r g' hr => ?_)
  subst hr
  cases r with
  | error e => exact nofun
  | ok storage =>
    refine ⟨trivial, fun r g' hr => ?_⟩
    obtain rfl := Option.some.inj hr
    cases r with
    | error e => exact nofun
    | ok _ =>
      show SetupServes ((tryExcept fetch fetchFailed).bind _) _
      refine Meets.bind (Meets.tryExcept ((fetch_meets _).mono fun r g' hr => ?_))
      cases r with
      | error err =>
        refine (fetchFailed_raises g' err).mono ?_
        rintro _ _ ⟨e, rfl⟩
        exact nofun
      | ok fetched =>
        obtain ⟨hg, hfetched⟩ := hr _ _ rfl
        exact setupDevices_serves g' hfetched (hg ▸ rfl)

end DanalockBle
