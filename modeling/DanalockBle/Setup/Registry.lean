import DanalockBle.Setup.Entry
import Mathlib.Data.Finset.Image
import Mathlib.Data.List.Nodup

/-!
# The device registry

`_register_devices` (`__init__.py`) over the part of Home Assistant's device registry it uses. A
device belongs to any number of config entries; it is found by identifier, and a removed device is
gone for all of them. `settle` is what the calls of one sync do to one device.

A sync keeps the devices of the other entries if and only if no stale device of its entry is shared
with one of them (`registerDevices_iff`).
-/

namespace DanalockBle

abbrev EntryId := String

abbrev DeviceId := Nat

structure RegistryDevice where
  id : DeviceId
  identifiers : Finset (String × String)
  connections : Finset (String × String) := ∅
  configEntries : Finset EntryId := ∅
  manufacturer : Option String := none
  model : Option String := none
  name : Option String := none
  deriving DecidableEq

/-- No two devices share an id or an identifier. -/
@[ext]
structure DeviceRegistry where
  devices : List RegistryDevice
  nextId : DeviceId
  fresh : ∀ d ∈ devices, d.id < nextId
  distinct : (devices.map (·.id)).Nodup
  identified : ∀ d ∈ devices, ∀ d' ∈ devices, ∀ i ∈ d.identifiers, i ∈ d'.identifiers → d = d'

/-- The arguments of `async_get_or_create`. -/
structure DeviceInfo where
  configEntryId : EntryId
  identifier : String × String
  connection : String × String
  manufacturer : String
  model : String
  name : String

/-- A device takes the arguments of a call for one of its identifiers. -/
def RegistryDevice.merge (d : RegistryDevice) (info : DeviceInfo) : RegistryDevice :=
  if info.identifier ∈ d.identifiers then
    { d with
      connections := insert info.connection d.connections
      configEntries := insert info.configEntryId d.configEntries
      manufacturer := some info.manufacturer
      model := some info.model
      name := some info.name }
  else d

theorem RegistryDevice.merge_id (d : RegistryDevice) (info : DeviceInfo) :
    (d.merge info).id = d.id := by
  unfold merge; split <;> rfl

theorem RegistryDevice.merge_identifiers (d : RegistryDevice) (info : DeviceInfo) :
    (d.merge info).identifiers = d.identifiers := by
  unfold merge; split <;> rfl

namespace DeviceRegistry

/-- A device for the identifier, if there is none. -/
def ensure (r : DeviceRegistry) (identifier : String × String) : DeviceRegistry :=
  if h : ∃ d ∈ r.devices, identifier ∈ d.identifiers then r
  else {
    devices := r.devices ++ [{ id := r.nextId, identifiers := {identifier} }]
    nextId := r.nextId + 1
    fresh := by
      intro d hd
      rcases List.mem_append.mp hd with hd | hd
      · exact (r.fresh d hd).trans (Nat.lt_succ_self _)
      · rw [List.mem_singleton.mp hd]
        exact Nat.lt_succ_self _
    distinct := by
      rw [List.map_append, List.nodup_append]
      refine ⟨r.distinct, List.nodup_singleton _, ?_⟩
      intro i hi i' hi'
      obtain ⟨d, hd, rfl⟩ := List.mem_map.mp hi
      rw [List.map_singleton, List.mem_singleton] at hi'
      subst hi'
      exact (r.fresh d hd).ne
    identified := by
      have hnew : ∀ d ∈ r.devices, ∀ i ∈ d.identifiers, i ∉ ({identifier} : Finset _) := by
        intro d hd i hi hi'
        rw [Finset.mem_singleton] at hi'
        subst hi'
        exact h ⟨d, hd, hi⟩
      intro d hd d' hd' i hi hi'
      rcases List.mem_append.mp hd with hd | hd <;> rcases List.mem_append.mp hd' with hd' | hd'
      · exact r.identified d hd d' hd' i hi hi'
      · rw [List.mem_singleton.mp hd'] at hi'
        exact absurd hi' (hnew d hd i hi)
      · rw [List.mem_singleton.mp hd] at hi
        exact absurd hi (hnew d' hd' i hi')
      · rw [List.mem_singleton.mp hd, List.mem_singleton.mp hd'] }

/-- The device with the identifier takes the arguments. -/
def update (r : DeviceRegistry) (info : DeviceInfo) : DeviceRegistry where
  devices := r.devices.map (·.merge info)
  nextId := r.nextId
  fresh := by
    intro d hd
    obtain ⟨d₀, hd₀, rfl⟩ := List.mem_map.mp hd
    rw [RegistryDevice.merge_id]
    exact r.fresh d₀ hd₀
  distinct := by
    rw [List.map_map]
    refine (congrArg List.Nodup (List.map_congr_left fun d _ => ?_)).mpr r.distinct
    exact d.merge_id info
  identified := by
    intro d hd d' hd' i hi hi'
    obtain ⟨d₀, hd₀, rfl⟩ := List.mem_map.mp hd
    obtain ⟨d₁, hd₁, rfl⟩ := List.mem_map.mp hd'
    rw [RegistryDevice.merge_identifiers] at hi hi'
    rw [r.identified d₀ hd₀ d₁ hd₁ i hi hi']

@[simp] theorem update_devices (r : DeviceRegistry) (info : DeviceInfo) :
    (r.update info).devices = r.devices.map (·.merge info) := rfl

/-- `async_get_or_create` -/
def asyncGetOrCreate (r : DeviceRegistry) (info : DeviceInfo) : DeviceRegistry :=
  (r.ensure info.identifier).update info

/-- `async_remove_device` -/
def asyncRemoveDevice (r : DeviceRegistry) (id : DeviceId) : DeviceRegistry where
  devices := r.devices.filter (·.id ≠ id)
  nextId := r.nextId
  fresh d hd := r.fresh d (List.mem_of_mem_filter hd)
  distinct := r.distinct.sublist (List.filter_sublist.map _)
  identified d hd d' hd' :=
    r.identified d (List.mem_of_mem_filter hd) d' (List.mem_of_mem_filter hd')

/-- `dr.async_entries_for_config_entry` -/
def asyncEntriesForConfigEntry (r : DeviceRegistry) (entry : EntryId) : List RegistryDevice :=
  r.devices.filter (entry ∈ ·.configEntries)

end DeviceRegistry

/-! ## The sync -/

def domain : String := "danalock_ble"

def manufacturer : String := "Danalock"

def model : String := "V3"

def connectionBluetooth : String := "bluetooth"

def deviceTypeModels : List (String × String) := [("danalockv3", "Danalock V3")]

/-- Cloud device name when present, serial fallback. -/
def deviceName (names : List (Serial × Option String)) (serial : Serial) : String :=
  match names.lookup serial with
  | some (some name) => if name = "" then "danalock_" ++ serial else name
  | _ => "danalock_" ++ serial

/-- Human-readable model for an API device type. -/
def deviceModel : Option String → String
  | none => model
  | some deviceType => (deviceTypeModels.lookup deviceType).getD deviceType

/-- The Danalock serials of a device. -/
def RegistryDevice.serials (d : RegistryDevice) : Finset Serial :=
  (d.identifiers.filter (·.1 = domain)).image (·.2)

/-- The device has Danalock serials, and none of them is in the cloud list. -/
def RegistryDevice.Absent (d : RegistryDevice) (serials : List Serial) : Prop :=
  d.serials.Nonempty ∧ ∀ serial ∈ d.serials, serial ∉ serials

instance (d : RegistryDevice) (serials : List Serial) : Decidable (d.Absent serials) :=
  inferInstanceAs (Decidable (_ ∧ _))

section
variable (serialWithSeparators : Serial → String) (entry : EntryId)
  (names deviceTypes : List (Serial × Option String))

/-- The arguments for one device of the cloud list. -/
def deviceInfo (item : Serial × Option String) : DeviceInfo where
  configEntryId := entry
  identifier := (domain, item.1)
  connection := (connectionBluetooth, serialWithSeparators item.1)
  manufacturer := manufacturer
  model := deviceModel item.2
  name := deviceName names item.1

/-- Sync the device registry with the cloud device list. -/
def registerDevices (r : DeviceRegistry) : DeviceRegistry :=
  let r := deviceTypes.foldl
    (fun r item => r.asyncGetOrCreate (deviceInfo serialWithSeparators entry names item)) r
  (r.asyncEntriesForConfigEntry entry).foldl
    (fun r d => if d.Absent (deviceTypes.map (·.1)) then r.asyncRemoveDevice d.id else r) r

end

/-! ## What a sync does to one device -/

namespace RegistryDevice

variable (infos : List DeviceInfo) (d : RegistryDevice)

/-- The device after the calls. -/
def settle : RegistryDevice := infos.foldl merge d

/-- The calls that find the device. -/
def calls : List DeviceInfo := infos.filter (·.identifier ∈ d.identifiers)

/-- The device keeps all that the calls add, and the last texts. -/
theorem settle_eq : d.settle infos =
    { d with
      connections := d.connections ∪ ((d.calls infos).map (·.connection)).toFinset
      configEntries := d.configEntries ∪ ((d.calls infos).map (·.configEntryId)).toFinset
      manufacturer := ((d.calls infos).getLast?.map (·.manufacturer)).or d.manufacturer
      model := ((d.calls infos).getLast?.map (·.model)).or d.model
      name := ((d.calls infos).getLast?.map (·.name)).or d.name } := by
  induction infos using List.reverseRecOn with
  | nil => simp [settle, calls]
  | append_singleton infos info ih =>
    have hsettle : d.settle (infos ++ [info]) = (d.settle infos).merge info := List.foldl_append
    rw [hsettle, ih, merge]
    by_cases hinfo : info.identifier ∈ d.identifiers
    · rw [if_pos hinfo]
      simp [calls, hinfo, Finset.union_insert]
    · rw [if_neg hinfo]
      simp [calls, hinfo]

@[simp] theorem settle_id : (d.settle infos).id = d.id := by rw [settle_eq]

@[simp] theorem settle_identifiers : (d.settle infos).identifiers = d.identifiers := by
  rw [settle_eq]

@[simp] theorem settle_serials : (d.settle infos).serials = d.serials := by
  rw [serials, settle_identifiers, serials]

theorem mem_settle_configEntries {entry : EntryId} :
    entry ∈ (d.settle infos).configEntries ↔ entry ∈ d.configEntries ∨
      ∃ info ∈ infos, info.identifier ∈ d.identifiers ∧ info.configEntryId = entry := by
  rw [settle_eq]
  simp [calls, and_assoc]

/-- Calls that have been made change nothing. -/
theorem settle_settle : (d.settle infos).settle infos = d.settle infos := by
  have hcalls : (d.settle infos).calls infos = d.calls infos := by
    rw [calls, settle_identifiers, calls]
  rw [settle_eq infos (d.settle infos), hcalls, settle_eq]
  cases (d.calls infos).getLast? <;> simp [Finset.union_assoc]

end RegistryDevice

/-! ## What a sync does to the registry -/

namespace DeviceRegistry

variable (infos : List DeviceInfo) (r : DeviceRegistry)

theorem mem_ensure {identifier : String × String} {d : RegistryDevice} :
    d ∈ (r.ensure identifier).devices ↔ d ∈ r.devices ∨
      (¬ ∃ d ∈ r.devices, identifier ∈ d.identifiers) ∧
        d = { id := r.nextId, identifiers := {identifier} } := by
  unfold ensure
  split
  · next h => simp [h]
  · next h => simp only [h, List.mem_append, List.mem_singleton, not_false_eq_true, true_and]

theorem ensure_of_mem {identifier : String × String}
    (h : ∃ d ∈ r.devices, identifier ∈ d.identifiers) : r.ensure identifier = r := dif_pos h

/-- A device for each call. -/
def ensureAll : DeviceRegistry := infos.foldl (fun r info => r.ensure info.identifier) r

theorem ensureAll_snoc (info : DeviceInfo) :
    r.ensureAll (infos ++ [info]) = (r.ensureAll infos).ensure info.identifier :=
  List.foldl_append

theorem mem_ensureAll_of_mem {d : RegistryDevice} (hd : d ∈ r.devices) :
    d ∈ (r.ensureAll infos).devices := by
  induction infos using List.reverseRecOn with
  | nil => exact hd
  | append_singleton infos info ih =>
    rw [ensureAll_snoc, mem_ensure]
    exact .inl ih

/-- A new device belongs to no entry yet. -/
theorem of_mem_ensureAll {d : RegistryDevice} (hd : d ∈ (r.ensureAll infos).devices) :
    d ∈ r.devices ∨ d.configEntries = ∅ ∧ ∃ info ∈ infos, d.identifiers = {info.identifier} := by
  induction infos using List.reverseRecOn with
  | nil => exact .inl hd
  | append_singleton infos info ih =>
    rw [ensureAll_snoc, mem_ensure] at hd
    rcases hd with hd | ⟨-, rfl⟩
    · refine (ih hd).imp_right fun ⟨hempty, info', hinfo', hd⟩ => ?_
      exact ⟨hempty, info', List.mem_append_left _ hinfo', hd⟩
    · exact .inr ⟨rfl, info, List.mem_append_right _ (List.mem_singleton_self _), rfl⟩

theorem exists_mem_ensureAll {info : DeviceInfo} (hinfo : info ∈ infos) :
    ∃ d ∈ (r.ensureAll infos).devices, info.identifier ∈ d.identifiers := by
  induction infos using List.reverseRecOn with
  | nil => cases hinfo
  | append_singleton infos info' ih =>
    simp only [ensureAll_snoc, mem_ensure]
    by_cases hold : ∃ d ∈ (r.ensureAll infos).devices, info.identifier ∈ d.identifiers
    · obtain ⟨d, hd, hi⟩ := hold
      exact ⟨d, .inl hd, hi⟩
    · rcases List.mem_append.mp hinfo with hinfo | hinfo
      · exact absurd (ih hinfo) hold
      · obtain rfl := List.mem_singleton.mp hinfo
        exact ⟨_, .inr ⟨hold, rfl⟩, Finset.mem_singleton_self _⟩

theorem ensureAll_of_mem (h : ∀ info ∈ infos, ∃ d ∈ r.devices, info.identifier ∈ d.identifiers) :
    r.ensureAll infos = r := by
  induction infos with
  | nil => rfl
  | cons info infos ih =>
    have hensure := r.ensure_of_mem (h info List.mem_cons_self)
    show ensureAll infos (r.ensure info.identifier) = r
    rw [hensure]
    exact ih fun info' hinfo' => h info' (List.mem_cons_of_mem _ hinfo')

/-- All calls of a sync: every device is found or made first, and takes its arguments then. -/
theorem foldl_asyncGetOrCreate :
    (infos.foldl asyncGetOrCreate r).devices = (r.ensureAll infos).devices.map (·.settle infos) ∧
      (infos.foldl asyncGetOrCreate r).nextId = (r.ensureAll infos).nextId := by
  induction infos using List.reverseRecOn with
  | nil => exact ⟨(List.map_id' _).symm, rfl⟩
  | append_singleton infos info ih =>
    obtain ⟨hdevices, hnextId⟩ := ih
    have hfold : (infos ++ [info]).foldl asyncGetOrCreate r =
        ((infos.foldl asyncGetOrCreate r).ensure info.identifier).update info :=
      List.foldl_append
    have hmerge : ∀ d : RegistryDevice, d.settle (infos ++ [info]) = (d.settle infos).merge info :=
      fun d => List.foldl_append
    have hfound :
        (∃ d ∈ (infos.foldl asyncGetOrCreate r).devices, info.identifier ∈ d.identifiers) ↔
          ∃ d ∈ (r.ensureAll infos).devices, info.identifier ∈ d.identifiers := by
      rw [hdevices]
      simp only [List.mem_map, exists_exists_and_eq_and, RegistryDevice.settle_identifiers]
    rw [hfold, ensureAll_snoc]
    by_cases hold : ∃ d ∈ (r.ensureAll infos).devices, info.identifier ∈ d.identifiers
    · rw [ensure_of_mem _ (hfound.mpr hold), ensure_of_mem _ hold]
      refine ⟨?_, hnextId⟩
      rw [update_devices, hdevices, List.map_map]
      exact List.map_congr_left fun d _ => (hmerge d).symm
    · -- no earlier call finds the new device
      have hnew : ∀ id, RegistryDevice.settle infos { id := id, identifiers := {info.identifier} } =
          { id := id, identifiers := {info.identifier} } := by
        intro id
        have hcalls : RegistryDevice.calls infos { id := id, identifiers := {info.identifier} } =
            [] := by
          refine List.filter_eq_nil_iff.mpr fun info' hinfo' h => hold ?_
          have heq : info'.identifier = info.identifier := by simpa using h
          rw [← heq]
          exact r.exists_mem_ensureAll infos hinfo'
        rw [RegistryDevice.settle_eq, hcalls]
        rfl
      rw [ensure, dif_neg (hfound.not.mpr hold), ensure, dif_neg hold]
      refine ⟨?_, congrArg (· + 1) hnextId⟩
      simp only [update_devices, hdevices, hnextId, List.map_append, List.map_map,
        List.map_singleton, hmerge, hnew]
      rfl

theorem mem_asyncRemoveDevice {id : DeviceId} {d : RegistryDevice} :
    d ∈ (r.asyncRemoveDevice id).devices ↔ d ∈ r.devices ∧ d.id ≠ id := by
  rw [asyncRemoveDevice, List.mem_filter, decide_eq_true_iff]

section
variable (p : RegistryDevice → Prop) [DecidablePred p] (ds : List RegistryDevice)

/-- The devices of `ds` with the property are removed, one after the other. -/
theorem mem_foldl_asyncRemoveDevice {d : RegistryDevice} :
    d ∈ (ds.foldl (fun r d => if p d then r.asyncRemoveDevice d.id else r) r).devices ↔
      d ∈ r.devices ∧ ¬ ∃ d' ∈ ds, p d' ∧ d'.id = d.id := by
  induction ds generalizing r with
  | nil => simp
  | cons d' ds ih =>
    rw [List.foldl_cons, ih]
    by_cases hd : p d'
    · rw [if_pos hd, mem_asyncRemoveDevice]
      simp only [List.exists_mem_cons_iff, hd, true_and, not_or, and_assoc, ne_eq,
        eq_comm (a := d'.id)]
    · rw [if_neg hd]
      simp only [List.exists_mem_cons_iff, hd, false_and, false_or]

theorem foldl_asyncRemoveDevice_of_not (h : ∀ d ∈ ds, ¬ p d) :
    ds.foldl (fun r d => if p d then r.asyncRemoveDevice d.id else r) r = r := by
  induction ds with
  | nil => rfl
  | cons d ds ih =>
    rw [List.foldl_cons, if_neg (h d List.mem_cons_self)]
    exact ih fun d' hd' => h d' (List.mem_cons_of_mem _ hd')

end

theorem eq_of_id {d d' : RegistryDevice} (hd : d ∈ r.devices) (hd' : d' ∈ r.devices)
    (hid : d.id = d'.id) : d = d' :=
  List.inj_on_of_nodup_map r.distinct hd hd' hid

/-- The devices that belong to the entry. -/
def deviceIds (entry : EntryId) : Finset DeviceId :=
  ((r.asyncEntriesForConfigEntry entry).map (·.id)).toFinset

theorem mem_deviceIds {entry : EntryId} {id : DeviceId} :
    id ∈ r.deviceIds entry ↔ ∃ d ∈ r.devices, entry ∈ d.configEntries ∧ d.id = id := by
  simp only [deviceIds, asyncEntriesForConfigEntry, List.mem_toFinset, List.mem_map,
    List.mem_filter, decide_eq_true_iff, and_assoc]

/-- The devices of the entry that have a Danalock serial are those of the cloud list, and each
serial of the list has one. -/
def Lists (entry : EntryId) (serials : List Serial) : Prop :=
  (∀ d ∈ r.devices, entry ∈ d.configEntries ∧ d.serials.Nonempty ↔
    ∃ serial ∈ serials, serial ∈ d.serials) ∧
  ∀ serial ∈ serials, ∃ d ∈ r.devices, serial ∈ d.serials

end DeviceRegistry

theorem mem_serials {d : RegistryDevice} {serial : Serial} :
    serial ∈ d.serials ↔ (domain, serial) ∈ d.identifiers := by
  simp only [RegistryDevice.serials, Finset.mem_image, Finset.mem_filter, Prod.exists, and_comm,
    exists_eq_left]

section
variable (serialWithSeparators : Serial → String) (entry : EntryId)
  (names deviceTypes : List (Serial × Option String)) (r : DeviceRegistry)

/-- The calls of a sync. -/
def deviceInfos : List DeviceInfo :=
  deviceTypes.map (deviceInfo serialWithSeparators entry names)

/-- A sync adds its entry to the devices of the cloud list, and no other entry to any. -/
theorem mem_settle_deviceInfos {d : RegistryDevice} {other : EntryId} :
    other ∈ (d.settle (deviceInfos serialWithSeparators entry names deviceTypes)).configEntries ↔
      other ∈ d.configEntries ∨
        other = entry ∧ ∃ serial ∈ deviceTypes.map (·.1), serial ∈ d.serials := by
  rw [RegistryDevice.mem_settle_configEntries]
  refine or_congr_right ⟨?_, ?_⟩
  · rintro ⟨info, hinfo, hfound, rfl⟩
    obtain ⟨item, hitem, rfl⟩ := List.mem_map.mp hinfo
    exact ⟨rfl, item.1, List.mem_map_of_mem hitem, mem_serials.mpr hfound⟩
  · rintro ⟨rfl, serial, hserial, hd⟩
    obtain ⟨item, hitem, rfl⟩ := List.mem_map.mp hserial
    exact ⟨_, List.mem_map_of_mem hitem, mem_serials.mp hd, rfl⟩

/-- The registry after the calls and before the removals. -/
def registered : DeviceRegistry :=
  (deviceInfos serialWithSeparators entry names deviceTypes).foldl DeviceRegistry.asyncGetOrCreate r

theorem registerDevices_eq : registerDevices serialWithSeparators entry names deviceTypes r =
    ((registered serialWithSeparators entry names deviceTypes r).asyncEntriesForConfigEntry
      entry).foldl
        (fun r d => if d.Absent (deviceTypes.map (·.1)) then r.asyncRemoveDevice d.id else r)
        (registered serialWithSeparators entry names deviceTypes r) := by
  rw [registered, deviceInfos, List.foldl_map]
  rfl

theorem mem_registered {d : RegistryDevice} :
    d ∈ (registered serialWithSeparators entry names deviceTypes r).devices ↔
      ∃ d₀ ∈ (r.ensureAll (deviceInfos serialWithSeparators entry names deviceTypes)).devices,
        d₀.settle (deviceInfos serialWithSeparators entry names deviceTypes) = d := by
  rw [registered, (r.foldl_asyncGetOrCreate _).1, List.mem_map]

theorem mem_registerDevices {d : RegistryDevice} :
    d ∈ (registerDevices serialWithSeparators entry names deviceTypes r).devices ↔
      d ∈ (registered serialWithSeparators entry names deviceTypes r).devices ∧
        ¬ (entry ∈ d.configEntries ∧ d.Absent (deviceTypes.map (·.1))) := by
  rw [registerDevices_eq, DeviceRegistry.mem_foldl_asyncRemoveDevice]
  refine and_congr_right fun hd => not_congr ⟨?_, fun ⟨hentry, habsent⟩ => ?_⟩
  · rintro ⟨d', hd', habsent, hid⟩
    obtain ⟨hd', hentry⟩ := List.mem_filter.mp hd'
    obtain rfl := DeviceRegistry.eq_of_id _ hd' hd hid
    exact ⟨of_decide_eq_true hentry, habsent⟩
  · exact ⟨d, List.mem_filter.mpr ⟨hd, decide_eq_true hentry⟩, habsent, rfl⟩

/-- A device that the cloud list does not mention keeps its entries. -/
theorem settle_absent {d : RegistryDevice} {other : EntryId}
    (h : d.Absent (deviceTypes.map (·.1))) :
    other ∈ (d.settle (deviceInfos serialWithSeparators entry names deviceTypes)).configEntries ↔
      other ∈ d.configEntries := by
  rw [mem_settle_deviceInfos]
  refine or_iff_left ?_
  rintro ⟨-, serial, hserial, hd⟩
  exact h.2 serial hd hserial

theorem absent_settle {d : RegistryDevice} {infos : List DeviceInfo} {serials : List Serial} :
    (d.settle infos).Absent serials ↔ d.Absent serials := by
  rw [RegistryDevice.Absent, RegistryDevice.settle_serials, RegistryDevice.Absent]

/-- What the other entries have after the sync: the devices that are not stale. -/
theorem mem_deviceIds_registerDevices {other : EntryId} (hother : other ≠ entry) {id : DeviceId} :
    id ∈ (registerDevices serialWithSeparators entry names deviceTypes r).deviceIds other ↔
      ∃ d ∈ r.devices, other ∈ d.configEntries ∧
        ¬ (entry ∈ d.configEntries ∧ d.Absent (deviceTypes.map (·.1))) ∧ d.id = id := by
  rw [DeviceRegistry.mem_deviceIds]
  have hkept : ∀ d : RegistryDevice,
      other ∈ (d.settle (deviceInfos serialWithSeparators entry names deviceTypes)).configEntries ↔
        other ∈ d.configEntries := by
    intro d
    rw [mem_settle_deviceInfos]
    exact or_iff_left fun h => hother h.1
  have hstale : ∀ d : RegistryDevice,
      (entry ∈ (d.settle (deviceInfos serialWithSeparators entry names deviceTypes)).configEntries ∧
        (d.settle (deviceInfos serialWithSeparators entry names deviceTypes)).Absent
          (deviceTypes.map (·.1))) ↔
      (entry ∈ d.configEntries ∧ d.Absent (deviceTypes.map (·.1))) := by
    intro d
    rw [absent_settle]
    exact and_congr_left fun h => settle_absent serialWithSeparators entry names deviceTypes h
  constructor
  · rintro ⟨d, hd, hd', rfl⟩
    obtain ⟨hd, hkeep⟩ := (mem_registerDevices ..).mp hd
    obtain ⟨d₀, hd₀, rfl⟩ := (mem_registered ..).mp hd
    rw [hkept] at hd'
    rw [hstale] at hkeep
    rcases r.of_mem_ensureAll _ hd₀ with hold | ⟨hempty, -⟩
    · exact ⟨d₀, hold, hd', hkeep, (d₀.settle_id _).symm⟩
    · rw [hempty] at hd'
      exact absurd hd' (Finset.notMem_empty _)
  · rintro ⟨d, hd, hd', hkeep, rfl⟩
    refine ⟨_, (mem_registerDevices ..).mpr ⟨(mem_registered ..).mpr
      ⟨d, r.mem_ensureAll_of_mem _ hd, rfl⟩, ?_⟩, (hkept d).mpr hd', d.settle_id _⟩
    rw [hstale]
    exact hkeep

/-- The other entries keep their devices if and only if none of them is stale. -/
theorem deviceIds_iff :
    (∀ other ≠ entry, (registerDevices serialWithSeparators entry names deviceTypes r).deviceIds
        other = r.deviceIds other) ↔
      ¬ ∃ d ∈ r.devices, entry ∈ d.configEntries ∧ d.Absent (deviceTypes.map (·.1)) ∧
        ∃ other ∈ d.configEntries, other ≠ entry := by
  constructor
  · rintro h ⟨d, hd, hentry, habsent, other, hother, hne⟩
    have hbefore : d.id ∈ r.deviceIds other := r.mem_deviceIds.mpr ⟨d, hd, hother, rfl⟩
    rw [← h other hne, mem_deviceIds_registerDevices serialWithSeparators entry names deviceTypes r
      hne] at hbefore
    obtain ⟨d', hd', -, hkeep, hid⟩ := hbefore
    obtain rfl := r.eq_of_id hd' hd hid
    exact hkeep ⟨hentry, habsent⟩
  · intro h other hother
    ext id
    rw [mem_deviceIds_registerDevices _ _ _ _ _ hother, r.mem_deviceIds]
    refine exists_congr fun d => and_congr_right fun hd => and_congr_right fun hd' =>
      and_iff_right ?_
    rintro ⟨hentry, habsent⟩
    exact h ⟨d, hd, hentry, habsent, other, hd', hother⟩

theorem lists_registerDevices :
    (registerDevices serialWithSeparators entry names deviceTypes r).Lists entry
      (deviceTypes.map (·.1)) := by
  constructor
  · intro d hd
    obtain ⟨hd, hkeep⟩ := (mem_registerDevices ..).mp hd
    obtain ⟨d₀, hd₀, rfl⟩ := (mem_registered ..).mp hd
    constructor
    · rintro ⟨hentry, hserials⟩
      by_contra hnone
      exact hkeep ⟨hentry, hserials, fun serial hserial hlisted =>
        hnone ⟨serial, hlisted, hserial⟩⟩
    · rintro ⟨serial, hlisted, hserial⟩
      refine ⟨?_, serial, hserial⟩
      rw [RegistryDevice.settle_serials] at hserial
      rw [mem_settle_deviceInfos]
      exact .inr ⟨rfl, serial, hlisted, hserial⟩
  · intro serial hserial
    obtain ⟨item, hitem, rfl⟩ := List.mem_map.mp hserial
    obtain ⟨d, hd, hfound⟩ := r.exists_mem_ensureAll
      (deviceInfos serialWithSeparators entry names deviceTypes) (List.mem_map_of_mem hitem)
    have hd' : item.1 ∈ d.serials := mem_serials.mpr hfound
    refine ⟨_, (mem_registerDevices ..).mpr ⟨(mem_registered ..).mpr ⟨d, hd, rfl⟩, ?_⟩,
      (d.settle_serials _).symm ▸ hd'⟩
    rintro ⟨-, -, hnone⟩
    rw [RegistryDevice.settle_serials] at hnone
    exact hnone item.1 hd' hserial

/-- A second sync finds every device as it would leave it. -/
theorem registerDevices_registerDevices :
    registerDevices serialWithSeparators entry names deviceTypes
        (registerDevices serialWithSeparators entry names deviceTypes r) =
      registerDevices serialWithSeparators entry names deviceTypes r := by
  generalize hafter : registerDevices serialWithSeparators entry names deviceTypes r = after
  have hfound : ∀ info ∈ deviceInfos serialWithSeparators entry names deviceTypes,
      ∃ d ∈ after.devices, info.identifier ∈ d.identifiers := by
    intro info hinfo
    obtain ⟨item, hitem, rfl⟩ := List.mem_map.mp hinfo
    obtain ⟨d, hd, hserial⟩ := (lists_registerDevices serialWithSeparators entry names deviceTypes
      r).2 item.1 (List.mem_map_of_mem hitem)
    exact ⟨d, hafter ▸ hd, mem_serials.mp hserial⟩
  have hregistered : registered serialWithSeparators entry names deviceTypes after = after := by
    obtain ⟨hdevices, hnextId⟩ := after.foldl_asyncGetOrCreate
      (deviceInfos serialWithSeparators entry names deviceTypes)
    rw [after.ensureAll_of_mem _ hfound] at hdevices hnextId
    refine DeviceRegistry.ext (hdevices.trans ?_) hnextId
    refine (List.map_congr_left fun d hd => ?_).trans (List.map_id _)
    subst hafter
    obtain ⟨d₀, -, rfl⟩ := (mem_registered ..).mp ((mem_registerDevices ..).mp hd).1
    exact d₀.settle_settle _
  rw [registerDevices_eq, hregistered]
  refine after.foldl_asyncRemoveDevice_of_not _ _ fun d hd habsent => ?_
  obtain ⟨hd, hentry⟩ := List.mem_filter.mp hd
  subst hafter
  exact ((mem_registerDevices ..).mp hd).2 ⟨of_decide_eq_true hentry, habsent⟩

/-- **A sync and the other accounts.** After a sync the entry has the devices of its cloud list, a
second sync changes nothing, and the other entries keep their devices: all of it if and only if no
device that the entry shares has Danalock serials none of which is in the list. -/
theorem registerDevices_iff :
    ((registerDevices serialWithSeparators entry names deviceTypes r).Lists entry
        (deviceTypes.map (·.1)) ∧
      (∀ other ≠ entry, (registerDevices serialWithSeparators entry names deviceTypes r).deviceIds
        other = r.deviceIds other) ∧
      registerDevices serialWithSeparators entry names deviceTypes
          (registerDevices serialWithSeparators entry names deviceTypes r) =
        registerDevices serialWithSeparators entry names deviceTypes r) ↔
    ¬ ∃ d ∈ r.devices, entry ∈ d.configEntries ∧ d.Absent (deviceTypes.map (·.1)) ∧
      ∃ other ∈ d.configEntries, other ≠ entry := by
  rw [and_iff_right (lists_registerDevices ..), and_iff_left (registerDevices_registerDevices ..)]
  exact deviceIds_iff ..

end

/-- A lock of two accounts. -/
def sharedLock : DeviceRegistry where
  devices := [{ id := 0, identifiers := {(domain, "aabb")}, configEntries := {"A", "B"} }]
  nextId := 1
  fresh := by decide
  distinct := by decide
  identified := by
    intro d hd d' hd' _ _ _
    rw [List.mem_singleton.mp hd, List.mem_singleton.mp hd']

/-- Account A loses the lock, and the device is removed for account B too. -/
theorem sharedLock_removed :
    ¬ ∀ (serialWithSeparators : Serial → String) (entry : EntryId)
      (names deviceTypes : List (Serial × Option String)) (r : DeviceRegistry),
      (registerDevices serialWithSeparators entry names deviceTypes r).Lists entry
          (deviceTypes.map (·.1)) ∧
        (∀ other ≠ entry, (registerDevices serialWithSeparators entry names deviceTypes r).deviceIds
          other = r.deviceIds other) ∧
        registerDevices serialWithSeparators entry names deviceTypes
            (registerDevices serialWithSeparators entry names deviceTypes r) =
          registerDevices serialWithSeparators entry names deviceTypes r := by
  intro h
  have hids := (h id "A" [] [] sharedLock).2.1 "B" (by decide)
  have hafter : (registerDevices id "A" [] [] sharedLock).deviceIds "B" = ∅ := by decide +kernel
  have hbefore : sharedLock.deviceIds "B" = {0} := by decide +kernel
  rw [hafter, hbefore] at hids
  exact absurd hids (by decide)

end DanalockBle
