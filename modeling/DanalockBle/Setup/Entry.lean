import DanalockBle.Control.Effects
import DanalockBle.Setup.Storage

/-!
# Setup and unload of a config entry

The coroutines of `__init__.py` and `storage.py` and the last step of a revalidation
(`config_flow.py`), over the calls they make. A call that may raise has an `Except` result; what
a call does to the outside is left to the machine or the script that answers it. Log records are
left out.
-/

namespace DanalockBle

open Coroutine Coroutine.Coro

/-! ## Dictionaries -/

/-- `d[key] = value` -/
def dictSet {κ ν : Type} [BEq κ] (d : List (κ × ν)) (key : κ) (value : ν) : List (κ × ν) :=
  if d.any (·.1 == key) then d.map fun p => if p.1 == key then (key, value) else p
  else d ++ [(key, value)]

/-- A dictionary comprehension over the items. -/
def dictOf {κ ν : Type} [BEq κ] (items : List (κ × ν)) : List (κ × ν) :=
  items.foldl (fun d p => dictSet d p.1 p.2) []

section
variable {κ ν : Type} [DecidableEq κ]

theorem keys_dictSet (d : List (κ × ν)) (key : κ) (value : ν) :
    (dictSet d key value).map Prod.fst =
      if key ∈ d.map Prod.fst then d.map Prod.fst else d.map Prod.fst ++ [key] := by
  have hany : d.any (·.1 == key) = true ↔ key ∈ d.map Prod.fst := by
    simp only [List.any_eq_true, beq_iff_eq, List.mem_map]
  unfold dictSet
  by_cases hkey : key ∈ d.map Prod.fst
  · rw [if_pos (hany.mpr hkey), if_pos hkey, List.map_map]
    refine List.map_congr_left fun q _ => ?_
    by_cases hq : q.1 = key
    · simp [hq]
    · simp [hq]
  · rw [if_neg fun h => hkey (hany.mp h), if_neg hkey, List.map_append]
    rfl

theorem nodup_dictSet {d : List (κ × ν)} (hd : (d.map Prod.fst).Nodup) (key : κ) (value : ν) :
    ((dictSet d key value).map Prod.fst).Nodup := by
  rw [keys_dictSet]
  split
  · exact hd
  · next hkey =>
    rw [← List.concat_eq_append]
    exact hd.concat hkey

/-- Each key once. -/
theorem nodup_dictOf (items : List (κ × ν)) : ((dictOf items).map Prod.fst).Nodup := by
  have hfold : ∀ d : List (κ × ν), (d.map Prod.fst).Nodup →
      ((items.foldl (fun d p => dictSet d p.1 p.2) d).map Prod.fst).Nodup := by
    induction items with
    | nil => exact fun d hd => hd
    | cons p rest ih => exact fun d hd => ih _ (nodup_dictSet hd p.1 p.2)
  exact hfold [] List.nodup_nil

theorem mem_keys_dictOf {items : List (κ × ν)} {key : κ} :
    key ∈ (dictOf items).map Prod.fst ↔ key ∈ items.map Prod.fst := by
  have hfold : ∀ d : List (κ × ν),
      key ∈ (items.foldl (fun d p => dictSet d p.1 p.2) d).map Prod.fst ↔
        key ∈ d.map Prod.fst ∨ key ∈ items.map Prod.fst := by
    induction items with
    | nil => simp
    | cons p rest ih =>
      intro d
      have hset : key ∈ (dictSet d p.1 p.2).map Prod.fst ↔ key ∈ d.map Prod.fst ∨ key = p.1 := by
        rw [keys_dictSet]
        split
        · next hp => exact ⟨.inl, fun h => h.elim id fun h => h ▸ hp⟩
        · rw [List.mem_append, List.mem_singleton]
      rw [List.foldl_cons, ih, hset, List.map_cons, List.mem_cons, or_assoc]
  exact (hfold []).trans (or_iff_right List.not_mem_nil)

end

/-! ## Operations -/

/-- What the setup reads of a device of the cloud account. -/
structure DeviceSummary where
  serial : Serial
  name : Option String
  deviceType : Option String
  deriving DecidableEq, Repr

/-- The parts of `entry.runtime_data` that the unload releases. -/
structure RuntimeData where
  keys : List (Serial × DeviceKey)
  controls : List Serial := []
  monitor : Bool := false

/-- The states of a config entry that a reload tells apart. -/
inductive EntryState where
  | loaded
  | notLoaded
  | failedUnload
  deriving DecidableEq, Repr

inductive SetupOp where
  /-- `DanalockTokenStorage(hass, entry.entry_id)`; storages are numbered -/
  | newStorage
  /-- `self._token` of a storage -/
  | token (storage : Nat)
  | setToken (storage : Nat) (token : Option TokenData)
  /-- the wait of `await self._store.async_load()` -/
  | storeLoad (storage : Nat)
  /-- what it has read; `null` when there is no file -/
  | storeContent (storage : Nat)
  | storeSave (storage : Nat) (data : Json)
  | storeRemove (storage : Nat)
  | popPendingTokens
  /-- `await new_cloud_client(hass, storage)` -/
  | newCloudClient (storage : Nat)
  | devices
  | getKey (serial : Serial)
  | aclose
  | runtimeData
  | setRuntimeData (runtime : RuntimeData)
  | registerDevices (names deviceTypes : List (Serial × Option String))
  /-- `async_register_callback` -/
  | registerCallback
  /-- the timer of `_check_stale` -/
  | trackCheckStale
  /-- the timer of `_refresh_states` -/
  | trackRefreshStates
  | newControl (serial : Serial)
  | keyManagerStart
  | addUpdateListener
  | forwardEntrySetups
  | unloadPlatforms
  | monitorStop
  | keyManagerStop
  | disconnect (serial : Serial)
  | uniqueId
  /-- `async_update_reload_and_abort` -/
  | updateReloadAndAbort (uniqueId : Option String) (username : String)
  /-- whether the cloud client of a storage is open -/
  | clientOpen (storage : Nat)
  /-- a reload that has been asked for takes the setup lock, if it is free -/
  | startReload
  /-- it releases the lock -/
  | endReload
  | entryState
  | setEntryState (state : EntryState)

@[reducible] def SetupOp.Res : SetupOp → Type
  | newStorage => Nat
  | token _ => Option TokenData
  | storeContent _ => Json
  | popPendingTokens => Option TokenData
  | devices => Except PyErr (List DeviceSummary)
  | getKey _ => Except PyErr DeviceKey
  | runtimeData => Option RuntimeData
  | unloadPlatforms => Except PyErr Bool
  | uniqueId => Option String
  | clientOpen _ | startReload => Bool
  | entryState => EntryState
  | setToken _ _ | setRuntimeData _ | updateReloadAndAbort _ _ | endReload | setEntryState _ => Unit
  | _ => Except PyErr Unit

abbrev setupSig : Sig := ⟨SetupOp, SetupOp.Res⟩

/-- A coroutine of the config entry. -/
abbrev Su (α : Type) := Coro setupSig PyErr α

namespace Su

def newStorage : Su Nat := .op .newStorage .ret
def token (storage : Nat) : Su (Option TokenData) := .op (.token storage) .ret
def setToken (storage : Nat) (token : Option TokenData) : Su Unit :=
  .op (.setToken storage token) .ret
def storeLoad (storage : Nat) : Su Unit := .op (.storeLoad storage) .ofResult
def storeContent (storage : Nat) : Su Json := .op (.storeContent storage) .ret
def storeSave (storage : Nat) (data : Json) : Su Unit := .op (.storeSave storage data) .ofResult
def storeRemove (storage : Nat) : Su Unit := .op (.storeRemove storage) .ofResult
def popPendingTokens : Su (Option TokenData) := .op .popPendingTokens .ret
def newCloudClient (storage : Nat) : Su Unit := .op (.newCloudClient storage) .ofResult
def devices : Su (List DeviceSummary) := .op .devices .ofResult
def getKey (serial : Serial) : Su DeviceKey := .op (.getKey serial) .ofResult
def aclose : Su Unit := .op .aclose .ofResult
def runtimeData : Su (Option RuntimeData) := .op .runtimeData .ret
def setRuntimeData (runtime : RuntimeData) : Su Unit := .op (.setRuntimeData runtime) .ret
def registerDevices (names deviceTypes : List (Serial × Option String)) : Su Unit :=
  .op (.registerDevices names deviceTypes) .ofResult
def registerCallback : Su Unit := .op .registerCallback .ofResult
def trackCheckStale : Su Unit := .op .trackCheckStale .ofResult
def trackRefreshStates : Su Unit := .op .trackRefreshStates .ofResult
def newControl (serial : Serial) : Su Unit := .op (.newControl serial) .ofResult
def keyManagerStart : Su Unit := .op .keyManagerStart .ofResult
def addUpdateListener : Su Unit := .op .addUpdateListener .ofResult
def forwardEntrySetups : Su Unit := .op .forwardEntrySetups .ofResult
def unloadPlatforms : Su Bool := .op .unloadPlatforms .ofResult
def monitorStop : Su Unit := .op .monitorStop .ofResult
def keyManagerStop : Su Unit := .op .keyManagerStop .ofResult
def disconnect (serial : Serial) : Su Unit := .op (.disconnect serial) .ofResult
def uniqueId : Su (Option String) := .op .uniqueId .ret
def updateReloadAndAbort (uniqueId : Option String) (username : String) : Su Unit :=
  .op (.updateReloadAndAbort uniqueId username) .ret
def clientOpen (storage : Nat) : Su Bool := .op (.clientOpen storage) .ret
def startReload : Su Bool := .op .startReload .ret
def endReload : Su Unit := .op .endReload .ret
def entryState : Su EntryState := .op .entryState .ret
def setEntryState (state : EntryState) : Su Unit := .op (.setEntryState state) .ret

end Su

/-! ## Token storage -/

namespace DanalockTokenStorage

open Su

/-- Load persisted tokens into memory. -/
def asyncLoad (storage : Nat) : Su Unit := do
  storeLoad storage
  let data ← storeContent storage
  let token ← ofResult (tokenFromDict data)
  setToken storage token

/-- Persist a token pair and update memory, awaited. -/
def asyncSave (storage : Nat) (token : TokenData) : Su Unit := do
  setToken storage (some token)
  storeSave storage (tokenToDict token)

/-- `save`, with the task that it starts. -/
def save (storage : Nat) (token : TokenData) : Su Unit := do
  setToken storage (some token)
  storeSave storage (tokenToDict token)

/-- `clear`, with the task that it starts. -/
def clear (storage : Nat) : Su Unit := do
  setToken storage none
  storeRemove storage

end DanalockTokenStorage

open Su DanalockTokenStorage

/-! ## Setup -/

def supportedDeviceTypes : List String := ["danalockv3"]

/-- Devices without a reported type are treated as supported. -/
def isSupportedDevice (deviceType : Option String) : Bool :=
  match deviceType with
  | none => true
  | some deviceType => supportedDeviceTypes.contains deviceType

/-- An empty storage takes the staged flow tokens of its entry, if any. -/
def seedPending (storage : Nat) : Su Unit := do
  let found ← token storage
  match found with
  | some _ => return ()
  | none =>
    let pending ← popPendingTokens
    match pending with
    | some pending => asyncSave storage pending
    | none => return ()

/-- The storage of a setup, with the tokens that it finds. -/
def openStorage : Su Nat := do
  let storage ← newStorage
  asyncLoad storage
  seedPending storage
  return storage

/-- The keys of the supported devices, in the order of the cloud list. -/
def getKeys : List DeviceSummary → Su (List (Serial × DeviceKey))
  | [] => return []
  | summary :: rest => do
    let key ← getKey summary.serial
    let keys ← getKeys rest
    return (summary.serial, key) :: keys

/-- The cloud requests of a setup. -/
def fetch : Su (List DeviceSummary × List (Serial × DeviceKey)) := do
  let summaries ← devices
  let keys ← getKeys (summaries.filter fun summary => isSupportedDevice summary.deviceType)
  return (summaries, dictOf keys)

/-- The handlers of the cloud requests. -/
def fetchFailed {α : Type} (err : PyErr) : Su α :=
  match err with
  | .authError text => do
    aclose
    raise (.other "ConfigEntryAuthFailed" text)
  | err =>
    if err.isCloud then do
      aclose
      raise (.other "ConfigEntryNotReady" err.text)
    else raise err

/-- `DanalockBroadcastMonitor.start`. -/
def monitorStart : Su Unit := do
  tryExcept registerCallback fun err => if err.isRuntimeError then return () else raise err
  trackCheckStale
  trackRefreshStates

/-- One control for each serial. -/
def newControls : List Serial → Su Unit
  | [] => return ()
  | serial :: rest => do
    newControl serial
    newControls rest

/-- The monitor, the controls and the background refresh of an entry with keys. -/
def startDevices (runtime : RuntimeData) : Su Unit := do
  let serials := runtime.keys.map (·.1)
  monitorStart
  setRuntimeData { runtime with monitor := true }
  newControls serials
  setRuntimeData { runtime with monitor := true, controls := serials }
  keyManagerStart

/-- The setup after the cloud requests. -/
def setupDevices (summaries : List DeviceSummary) (keys : List (Serial × DeviceKey)) : Su Bool := do
  let runtime : RuntimeData := { keys := keys }
  setRuntimeData runtime
  registerDevices (dictOf (summaries.map fun summary => (summary.serial, summary.name)))
    (dictOf (summaries.map fun summary => (summary.serial, summary.deviceType)))
  (if keys.isEmpty then return () else startDevices runtime)
  addUpdateListener
  forwardEntrySetups
  return true

def asyncSetupEntry : Su Bool := do
  let storage ← openStorage
  newCloudClient storage
  let (summaries, keys) ← tryExcept fetch fetchFailed
  setupDevices summaries keys

/-! ## Unload -/

/-- The controls, one after the other. -/
def disconnectAll : List Serial → Su Unit
  | [] => return ()
  | serial :: rest => do
    disconnect serial
    disconnectAll rest

/-- Release the runtime objects. -/
def releaseRuntime (runtime : RuntimeData) : Su Unit := do
  (if runtime.monitor then monitorStop else return ())
  keyManagerStop
  disconnectAll runtime.controls
  aclose

def asyncUnloadEntry : Su Bool := do
  let unloadOk ← unloadPlatforms
  if unloadOk then
    let runtime ← runtimeData
    match runtime with
    | some runtime => do
      releaseRuntime runtime
      return unloadOk
    | none => return unloadOk
  else return unloadOk

/-! ## Which operations a part performs -/

inductive SetupPart where
  | storage
  | client
  | request
  | devices
  | unload
  | flow
  deriving DecidableEq

def SetupOp.part : SetupOp → SetupPart
  | newStorage | token _ | setToken _ _ | storeLoad _ | storeContent _ | storeSave _ _
  | storeRemove _ | popPendingTokens => .storage
  | newCloudClient _ | aclose => .client
  | devices | getKey _ => .request
  | setRuntimeData _ | registerDevices _ _ | registerCallback | trackCheckStale
  | trackRefreshStates | newControl _ | keyManagerStart | addUpdateListener
  | forwardEntrySetups => .devices
  | runtimeData | unloadPlatforms | monitorStop | keyManagerStop | disconnect _ => .unload
  | uniqueId | updateReloadAndAbort _ _ | clientOpen _ | startReload | endReload | entryState
  | setEntryState _ => .flow

/-- The coroutine performs operations of the part only. -/
abbrev Within {α : Type} (part : SetupPart) (c : Su α) : Prop :=
  Only (fun o : SetupOp => o.part = part) c

theorem asyncLoad_within (storage : Nat) : Within .storage (asyncLoad storage) :=
  Only.bind (.op rfl .ofResult) fun _ => Only.bind (.op rfl fun _ => trivial) fun _ =>
    Only.bind (.ofResult _) fun _ => .op rfl fun _ => trivial

theorem asyncSave_within (storage : Nat) (token : TokenData) :
    Within .storage (asyncSave storage token) :=
  Only.bind (.op rfl fun _ => trivial) fun _ => .op rfl .ofResult

theorem seedPending_within (storage : Nat) : Within .storage (seedPending storage) := by
  refine Only.bind (.op rfl fun _ => trivial) fun found => ?_
  cases found with
  | some token => trivial
  | none =>
    refine Only.bind (.op rfl fun _ => trivial) fun pending => ?_
    cases pending with
    | none => trivial
    | some pending => exact asyncSave_within storage pending

theorem openStorage_within : Within .storage openStorage :=
  Only.bind (.op rfl fun _ => trivial) fun storage => Only.bind (asyncLoad_within storage) fun _ =>
    Only.bind (seedPending_within storage) fun _ => trivial

theorem getKeys_within (summaries : List DeviceSummary) : Within .request (getKeys summaries) := by
  induction summaries with
  | nil => trivial
  | cons summary rest ih =>
    exact Only.bind (.op rfl .ofResult) fun _ => Only.bind ih fun _ => trivial

theorem fetch_within : Within .request fetch :=
  Only.bind (.op rfl .ofResult) fun _ => Only.bind (getKeys_within _) fun _ => trivial

theorem monitorStart_within : Within .devices monitorStart := by
  refine Only.bind (Only.tryExcept (.op rfl .ofResult) fun err => ?_) fun _ =>
    Only.bind (.op rfl .ofResult) fun _ => .op rfl .ofResult
  cases err.isRuntimeError <;> trivial

theorem newControls_within (serials : List Serial) : Within .devices (newControls serials) := by
  induction serials with
  | nil => trivial
  | cons serial rest ih => exact Only.bind (.op rfl .ofResult) fun _ => ih

theorem startDevices_within (runtime : RuntimeData) : Within .devices (startDevices runtime) :=
  Only.bind monitorStart_within fun _ => Only.bind (.op rfl fun _ => trivial) fun _ =>
    Only.bind (newControls_within _) fun _ => Only.bind (.op rfl fun _ => trivial) fun _ =>
      .op rfl .ofResult

theorem setupDevices_within (summaries : List DeviceSummary) (keys : List (Serial × DeviceKey)) :
    Within .devices (setupDevices summaries keys) := by
  refine Only.bind (.op rfl fun _ => trivial) fun _ => Only.bind (.op rfl .ofResult) fun _ =>
    Only.bind ?_ fun _ => Only.bind (.op rfl .ofResult) fun _ =>
      Only.bind (.op rfl .ofResult) fun _ => trivial
  cases keys.isEmpty with
  | true => trivial
  | false => exact startDevices_within _

theorem disconnectAll_within (serials : List Serial) : Within .unload (disconnectAll serials) := by
  induction serials with
  | nil => trivial
  | cons serial rest ih => exact Only.bind (.op rfl .ofResult) fun _ => ih

theorem stopMonitor_within (runtime : RuntimeData) :
    Within .unload (if runtime.monitor then Su.monitorStop else return ()) := by
  cases runtime.monitor with
  | true => exact .op rfl .ofResult
  | false => trivial

end DanalockBle
