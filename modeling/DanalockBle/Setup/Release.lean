import DanalockBle.Setup.Entry

/-!
# What an entry holds

Setup and unload played alone against a `SetupScript`, which says how each call ends, and what the
entry holds afterwards. A call that raises has acquired nothing, except that the executor may
finish a cloud client whose setup was cancelled meanwhile. A failed setup has released everything
only when it failed before the cloud client, or in a cloud request whose handler closes the client;
an unload is complete only when none of its calls raises (`released_iff`).
-/

namespace DanalockBle

open Coroutine Coroutine.Coro DanalockTokenStorage

/-- How each call ends; the `n`-th key request and the control of each serial. -/
structure SetupScript where
  storeLoad : Except PyErr Unit
  content : Json
  pending : Option TokenData
  storeSave : Except PyErr Unit
  /-- the executor builds the client, also when the wait for it ends in an exception -/
  clientBuilt : Bool
  newCloudClient : Except PyErr Unit
  devices : Except PyErr (List DeviceSummary)
  getKey : Nat → Except PyErr DeviceKey
  aclose : Except PyErr Unit
  registerDevices : Except PyErr Unit
  registerCallback : Except PyErr Unit
  trackCheckStale : Except PyErr Unit
  trackRefreshStates : Except PyErr Unit
  newControl : Serial → Except PyErr Unit
  keyManagerStart : Except PyErr Unit
  /-- the refresh period is not 0 -/
  refreshEnabled : Bool
  addUpdateListener : Except PyErr Unit
  forwardEntrySetups : Except PyErr Unit
  unloadPlatforms : Except PyErr Bool
  monitorStop : Except PyErr Unit
  keyManagerStop : Except PyErr Unit
  disconnect : Serial → Except PyErr Unit

inductive ClientState where
  | absent
  | opened
  | closed
  deriving DecidableEq, Repr

/-- What the entry holds, and what was done for it. -/
structure Held where
  client : ClientState := .absent
  callback : Bool := false
  staleTimer : Bool := false
  rssiTimer : Bool := false
  refreshTimer : Bool := false
  runtime : Option RuntimeData := none
  storages : List (Option TokenData) := []
  fetches : Nat := 0
  /-- the controls whose disconnect was called -/
  disconnects : List Serial := []

namespace Held

def resources (w : Held) : ClientState × Bool × Bool × Bool × Bool :=
  (w.client, w.callback, w.staleTimer, w.rssiTimer, w.refreshTimer)

/-- The callback and the timers are unregistered and the client, if it was built, is closed. -/
def Released (w : Held) : Prop :=
  w.callback = false ∧ w.staleTimer = false ∧ w.rssiTimer = false ∧ w.refreshTimer = false ∧
    w.client ≠ .opened

/-- A loaded entry. -/
def loaded (sc : SetupScript) (runtime : RuntimeData) : Held where
  client := .opened
  callback := runtime.monitor && sc.registerCallback.isOk
  staleTimer := runtime.monitor
  rssiTimer := runtime.monitor
  refreshTimer := runtime.monitor && sc.refreshEnabled
  runtime := some runtime

/-- The answers of a script. -/
def answer (sc : SetupScript) (w : Held) : (o : SetupOp) → o.Res × Held
  | .newStorage => (w.storages.length, { w with storages := w.storages ++ [none] })
  | .token storage => ((w.storages[storage]?).getD none, w)
  | .setToken storage token => ((), { w with storages := w.storages.set storage token })
  | .storeLoad _ => (sc.storeLoad, w)
  | .storeContent _ => (sc.content, w)
  | .storeSave _ _ => (sc.storeSave, w)
  | .storeRemove _ => (.ok (), w)
  | .popPendingTokens => (sc.pending, w)
  | .newCloudClient _ =>
    (sc.newCloudClient,
      { w with client := if sc.newCloudClient.isOk || sc.clientBuilt then .opened else w.client })
  | .devices => (sc.devices, w)
  | .getKey _ => (sc.getKey w.fetches, { w with fetches := w.fetches + 1 })
  | .aclose => (sc.aclose, { w with client := if sc.aclose.isOk then .closed else w.client })
  | .runtimeData => (w.runtime, w)
  | .setRuntimeData runtime => ((), { w with runtime := some runtime })
  | .registerDevices _ _ => (sc.registerDevices, w)
  | .registerCallback => (sc.registerCallback, { w with callback := sc.registerCallback.isOk })
  | .trackCheckStale => (sc.trackCheckStale, { w with staleTimer := sc.trackCheckStale.isOk })
  | .trackRefreshStates =>
    (sc.trackRefreshStates, { w with rssiTimer := sc.trackRefreshStates.isOk })
  | .newControl serial => (sc.newControl serial, w)
  | .keyManagerStart =>
    (sc.keyManagerStart,
      { w with refreshTimer := sc.keyManagerStart.isOk && sc.refreshEnabled })
  | .addUpdateListener => (sc.addUpdateListener, w)
  | .forwardEntrySetups => (sc.forwardEntrySetups, w)
  | .unloadPlatforms => (sc.unloadPlatforms, w)
  | .monitorStop =>
    (sc.monitorStop,
      if sc.monitorStop.isOk then
        { w with callback := false, staleTimer := false, rssiTimer := false }
      else w)
  | .keyManagerStop =>
    (sc.keyManagerStop, if sc.keyManagerStop.isOk then { w with refreshTimer := false } else w)
  | .disconnect serial =>
    (sc.disconnect serial, { w with disconnects := w.disconnects ++ [serial] })
  | .uniqueId => (none, w)
  | .updateReloadAndAbort _ _ => ((), w)
  | .clientOpen _ => (w.client = .opened, w)
  | .startReload => (false, w)
  | .entryState => (.loaded, w)
  | .endReload | .setEntryState _ => ((), w)

end Held

namespace SetupScript

variable (sc : SetupScript)

def play {α : Type} (c : Su α) (w : Held) : Except PyErr α × Held := Coro.play (Held.answer sc) c w

/-! ## How the calls end -/

/-- The storage of the setup opens. -/
def opens : Bool :=
  match sc.storeLoad with
  | .ok _ =>
    match tokenFromDict sc.content with
    | .ok (some _) => true
    | .ok none => sc.pending.isNone || sc.storeSave.isOk
    | .error _ => false
  | .error _ => false

/-- The keys of the devices, from the `n`-th request on. -/
def keys (n : Nat) : List DeviceSummary → Except PyErr (List (Serial × DeviceKey))
  | [] => .ok []
  | summary :: rest => do
    let key ← sc.getKey n
    let keys ← keys (n + 1) rest
    return (summary.serial, key) :: keys

/-- The devices and the keys, or the exception of the first cloud request that raises. -/
def fetched : Except PyErr (List DeviceSummary × List (Serial × DeviceKey)) := do
  let summaries ← sc.devices
  let keys ← sc.keys 0 (summaries.filter fun summary => isSupportedDevice summary.deviceType)
  return (summaries, dictOf keys)

/-- The Bluetooth callback is registered, or Bluetooth is not available. -/
def callbackHandled : Bool :=
  match sc.registerCallback with
  | .ok _ => true
  | .error err => err.isRuntimeError

/-- No call for the monitor, the controls and the background refresh raises. -/
def startsDevices (serials : List Serial) : Bool :=
  (sc.callbackHandled && (sc.trackCheckStale.isOk && sc.trackRefreshStates.isOk)) &&
    ((serials.all fun serial => (sc.newControl serial).isOk) && sc.keyManagerStart.isOk)

/-- No call after the cloud requests raises. -/
def starts (keys : List (Serial × DeviceKey)) : Bool :=
  sc.registerDevices.isOk && ((keys.isEmpty || sc.startsDevices (keys.map (·.1))) &&
    (sc.addUpdateListener.isOk && sc.forwardEntrySetups.isOk))

/-- No call raises; or the one that does comes before the cloud client is built; or it is a cloud
request, with an exception that is handled, and the client can be closed. -/
def setupReleases : Bool :=
  !sc.opens ||
    match sc.newCloudClient with
    | .error _ => !sc.clientBuilt
    | .ok _ =>
      match sc.fetched with
      | .error err => err.isCloud && sc.aclose.isOk
      | .ok (_, keys) => sc.starts keys

/-- No call of the unload raises. -/
def unloadQuiet (runtime : RuntimeData) : Bool :=
  (!runtime.monitor || sc.monitorStop.isOk) && (sc.keyManagerStop.isOk &&
    ((runtime.controls.all fun serial => (sc.disconnect serial).isOk) && sc.aclose.isOk))

theorem play_ofResult {α : Type} (r : Except PyErr α) (w : Held) :
    sc.play (.ofResult r) w = (r, w) := by
  cases r <;> rfl

/-- The coroutine succeeds if and only if the Boolean is true, whatever the entry holds. -/
def Succeeds {α : Type} (c : Su α) (b : Bool) : Prop := ∀ w, (sc.play c w).1.isOk = b

namespace Succeeds

variable {sc} {α β : Type} {b b' : Bool}

theorem ret (a : α) : sc.Succeeds (.ret a) true := fun _ => rfl

/-- An operation that leads to another coroutine. -/
theorem skip {c d : Su α} (hd : sc.Succeeds d b) (hc : ∀ w, ∃ w', sc.play c w = sc.play d w') :
    sc.Succeeds c b := by
  intro w
  obtain ⟨w', hw⟩ := hc w
  rw [hw]
  exact hd w'

theorem setRuntimeData (runtime : RuntimeData) {f : Unit → Su β} (hf : sc.Succeeds (f ()) b) :
    sc.Succeeds ((Su.setRuntimeData runtime).bind f) b :=
  hf.skip fun _ => ⟨_, rfl⟩

theorem ofResult (r : Except PyErr α) : sc.Succeeds (.ofResult r) r.isOk := by
  intro w
  rw [play_ofResult]

theorem bind {c : Su α} {f : α → Su β} (hc : sc.Succeeds c b) (hf : ∀ a, sc.Succeeds (f a) b') :
    sc.Succeeds (c.bind f) (b && b') := by
  intro w
  have hw := hc w
  rw [play] at hw ⊢
  rw [play_bind]
  rcases hplay : Coro.play (Held.answer sc) c w with ⟨r, w'⟩
  rw [hplay] at hw ⊢
  subst hw
  cases r with
  | ok a => exact hf a w'
  | error e => rfl

end Succeeds

/-! ## Setup -/

theorem succeeds_monitorStart :
    sc.Succeeds monitorStart
      (sc.callbackHandled && (sc.trackCheckStale.isOk && sc.trackRefreshStates.isOk)) := by
  have hcallback : sc.Succeeds
      (tryExcept Su.registerCallback fun err =>
        if err.isRuntimeError then return () else raise err) sc.callbackHandled := by
    intro w
    show (sc.play (tryExcept (.ofResult sc.registerCallback) _) _).1.isOk = sc.callbackHandled
    unfold callbackHandled
    cases sc.registerCallback with
    | ok u => rfl
    | error err =>
      show (sc.play (if err.isRuntimeError = true then .ret () else .raise err) _).1.isOk =
        err.isRuntimeError
      cases err.isRuntimeError <;> rfl
  have hstale : sc.Succeeds Su.trackCheckStale sc.trackCheckStale.isOk :=
    (Succeeds.ofResult _).skip fun _ => ⟨_, rfl⟩
  have hrssi : sc.Succeeds Su.trackRefreshStates sc.trackRefreshStates.isOk :=
    (Succeeds.ofResult _).skip fun _ => ⟨_, rfl⟩
  exact hcallback.bind fun _ => hstale.bind fun _ => hrssi

theorem succeeds_newControls (serials : List Serial) :
    sc.Succeeds (newControls serials) (serials.all fun serial => (sc.newControl serial).isOk) := by
  induction serials with
  | nil => exact .ret ()
  | cons serial rest ih =>
    have hcontrol : sc.Succeeds (Su.newControl serial) (sc.newControl serial).isOk :=
      (Succeeds.ofResult _).skip fun _ => ⟨_, rfl⟩
    exact hcontrol.bind fun _ => ih

theorem succeeds_startDevices (runtime : RuntimeData) :
    sc.Succeeds (startDevices runtime) (sc.startsDevices (runtime.keys.map (·.1))) := by
  have hmanager : sc.Succeeds Su.keyManagerStart sc.keyManagerStart.isOk :=
    (Succeeds.ofResult _).skip fun _ => ⟨_, rfl⟩
  exact sc.succeeds_monitorStart.bind fun _ => .setRuntimeData _ <|
    (sc.succeeds_newControls (runtime.keys.map (·.1))).bind fun _ => .setRuntimeData _ hmanager

/-- The last part of the setup succeeds when none of its calls raises. -/
theorem succeeds_setupDevices (summaries : List DeviceSummary) (keys : List (Serial × DeviceKey)) :
    sc.Succeeds (setupDevices summaries keys) (sc.starts keys) := by
  have hregister : ∀ names types,
      sc.Succeeds (Su.registerDevices names types) sc.registerDevices.isOk := fun _ _ =>
    (Succeeds.ofResult _).skip fun _ => ⟨_, rfl⟩
  have hdevices : sc.Succeeds (if keys.isEmpty then return () else startDevices ⟨keys, [], false⟩)
      (keys.isEmpty || sc.startsDevices (keys.map (·.1))) := by
    cases keys.isEmpty with
    | true => exact .ret ()
    | false => exact sc.succeeds_startDevices ⟨keys, [], false⟩
  have hlistener : sc.Succeeds Su.addUpdateListener sc.addUpdateListener.isOk :=
    (Succeeds.ofResult _).skip fun _ => ⟨_, rfl⟩
  have hforward : sc.Succeeds (do Su.forwardEntrySetups; return true)
      (sc.forwardEntrySetups.isOk && true) :=
    ((Succeeds.ofResult _).skip fun _ => ⟨_, rfl⟩).bind fun _ => .ret true
  rw [Bool.and_true] at hforward
  exact .setRuntimeData _ <| (hregister _ _).bind fun _ => hdevices.bind fun _ =>
    hlistener.bind fun _ => hforward

/-! What the parts leave alone. -/

theorem play_client {α : Type} {part : SetupPart} (hpart : part ≠ .client) {c : Su α}
    (hc : Within part c) (w : Held) : (sc.play c w).2.client = w.client := by
  refine hc.play_view (v := Held.client) (fun o ho w => ?_) w
  cases o with
  | newCloudClient storage => exact absurd ho.symm hpart
  | aclose => exact absurd ho.symm hpart
  | monitorStop =>
    show (if sc.monitorStop.isOk then _ else w).client = w.client
    split <;> rfl
  | keyManagerStop =>
    show (if sc.keyManagerStop.isOk then _ else w).client = w.client
    split <;> rfl
  | _ => rfl

theorem play_storage {α : Type} {c : Su α} (hc : Within .storage c) (w : Held) :
    (sc.play c w).2.resources = w.resources ∧ (sc.play c w).2.fetches = w.fetches := by
  have hkept : ∀ o : SetupOp, o.part = .storage → ∀ w : Held,
      ((Held.answer sc w o).2.resources, (Held.answer sc w o).2.fetches) =
        (w.resources, w.fetches) := by
    intro o ho w
    cases o <;> first | rfl | cases ho
  exact Prod.mk.inj (hc.play_view (v := fun w => (w.resources, w.fetches)) hkept w)

theorem play_fetches {α : Type} {c : Su α} (hc : Within .request c) (w : Held) :
    (sc.play c w).2.resources = w.resources := by
  refine hc.play_view (v := Held.resources) (fun o ho w => ?_) w
  cases o <;> first | rfl | cases ho

/-! How the parts of the setup end. -/

theorem play_asyncLoad :
    sc.play (asyncLoad 0) { storages := [none] } =
      match sc.storeLoad with
      | .ok _ =>
        match tokenFromDict sc.content with
        | .ok token => (.ok (), { storages := [token] })
        | .error err => (.error err, { storages := [none] })
      | .error err => (.error err, { storages := [none] }) := by
  have hbranch : sc.play (asyncLoad 0) { storages := [none] } =
      sc.play ((Coro.ofResult sc.storeLoad).bind fun _ => (Su.storeContent 0).bind fun data =>
        (Coro.ofResult (tokenFromDict data)).bind fun token => Su.setToken 0 token)
          { storages := [none] } := rfl
  rw [hbranch]
  cases sc.storeLoad with
  | error err => rfl
  | ok u =>
    show sc.play ((Coro.ofResult (tokenFromDict sc.content)).bind fun token =>
      Su.setToken 0 token) _ =
        match tokenFromDict sc.content with
        | .ok token => (.ok (), { storages := [token] })
        | .error err => (.error err, { storages := [none] })
    cases tokenFromDict sc.content <;> rfl

theorem play_seedPending (token : Option TokenData) :
    (sc.play (seedPending 0) { storages := [token] }).1.isOk =
      (token.isSome || (sc.pending.isNone || sc.storeSave.isOk)) := by
  cases token with
  | some token => rfl
  | none =>
    have hbranch : sc.play (seedPending 0) { storages := [none] } =
        sc.play (Coro.bind Su.popPendingTokens _) { storages := [none] } := rfl
    have hpop : Coro.play (Held.answer sc) Su.popPendingTokens { storages := [none] } =
        (.ok sc.pending, { storages := [none] }) := rfl
    rw [hbranch, play, play_bind, hpop]
    cases sc.pending with
    | none => rfl
    | some pending =>
      show (sc.play (Coro.ofResult sc.storeSave) _).1.isOk = _
      rw [play_ofResult]
      rfl

theorem play_openStorage : (sc.play openStorage {}).1.isOk = sc.opens := by
  have hbranch : sc.play openStorage {} =
      sc.play ((asyncLoad 0).bind fun _ => (seedPending 0).bind fun _ => .ret 0)
        { storages := [none] } := rfl
  have hload := sc.play_asyncLoad
  rw [play] at hload
  rw [hbranch, play, play_bind, hload, opens]
  cases sc.storeLoad with
  | error err => rfl
  | ok u =>
    simp only
    cases tokenFromDict sc.content with
    | error err => rfl
    | ok token =>
      have hseed := sc.play_seedPending token
      rw [play] at hseed
      simp only
      rw [play_bind]
      rcases hplay : Coro.play (Held.answer sc) (seedPending 0) { storages := [token] } with ⟨r, w⟩
      rw [hplay] at hseed ⊢
      cases r <;> cases token <;> exact hseed

theorem play_getKeys (summaries : List DeviceSummary) (w : Held) :
    (sc.play (getKeys summaries) w).1 = sc.keys w.fetches summaries := by
  induction summaries generalizing w with
  | nil => rfl
  | cons summary rest ih =>
    have hbranch : sc.play (getKeys (summary :: rest)) w =
        sc.play ((Coro.ofResult (sc.getKey w.fetches)).bind fun key =>
          (getKeys rest).bind fun keys => .ret ((summary.serial, key) :: keys))
            { w with fetches := w.fetches + 1 } := rfl
    rw [hbranch, keys]
    cases sc.getKey w.fetches with
    | error err => rfl
    | ok key =>
      have hrest := ih { w with fetches := w.fetches + 1 }
      show (Coro.play _ ((getKeys rest).bind _) _).1 = _
      rw [play] at hrest
      rw [play_bind]
      rcases hplay : Coro.play (Held.answer sc) (getKeys rest) { w with fetches := w.fetches + 1 }
        with ⟨r, w'⟩
      rw [hplay] at hrest ⊢
      rw [← hrest]
      cases r <;> rfl

theorem play_fetch (w : Held) (hw : w.fetches = 0) : (sc.play fetch w).1 = sc.fetched := by
  have hbranch : sc.play fetch w =
      sc.play ((Coro.ofResult sc.devices).bind fun summaries =>
        (getKeys (summaries.filter fun summary => isSupportedDevice summary.deviceType)).bind
          fun keys => .ret (summaries, dictOf keys)) w := rfl
  rw [hbranch, fetched]
  cases sc.devices with
  | error err => rfl
  | ok summaries =>
    have hkeys := sc.play_getKeys
      (summaries.filter fun summary => isSupportedDevice summary.deviceType) w
    show (Coro.play _ ((getKeys _).bind _) _).1 = _
    rw [play, hw] at hkeys
    rw [play_bind]
    rcases hplay : Coro.play (Held.answer sc) (getKeys (summaries.filter fun summary =>
      isSupportedDevice summary.deviceType)) w with ⟨r, w'⟩
    rw [hplay] at hkeys ⊢
    show _ = (sc.keys 0 _).bind _
    rw [← hkeys]
    cases r <;> rfl

/-- The handlers of the cloud requests close the client after an exception that they name. -/
theorem play_fetchFailed {α : Type} (err : PyErr) (w : Held) :
    (sc.play (fetchFailed err : Su α) w).1.isOk = false ∧
      (sc.play (fetchFailed err : Su α) w).2 =
        if err.isCloud then
          { w with client := if sc.aclose.isOk then .closed else w.client }
        else w := by
  have hclose : ∀ e : PyErr,
      (sc.play (Su.aclose.bind fun _ => (.raise e : Su α)) w).1.isOk = false ∧
      (sc.play (Su.aclose.bind fun _ => (.raise e : Su α)) w).2 =
        { w with client := if sc.aclose.isOk then .closed else w.client } := by
    intro e
    have hbranch : sc.play (Su.aclose.bind fun _ => (.raise e : Su α)) w =
        sc.play ((Coro.ofResult sc.aclose).bind fun _ => .raise e)
          { w with client := if sc.aclose.isOk then .closed else w.client } := rfl
    rw [hbranch]
    cases sc.aclose <;> exact ⟨rfl, rfl⟩
  cases err with
  | authError text => exact hclose _
  | cloudError text => exact hclose _
  | httpError text => exact hclose _
  | _ => exact ⟨rfl, rfl⟩

theorem play_bind_true {α : Type} {c : Su α} {f : α → Su Bool}
    (hf : ∀ a w v, (sc.play (f a) w).1 = .ok v → v = true) (w : Held) (v : Bool)
    (hv : (sc.play (c.bind f) w).1 = .ok v) : v = true := by
  rw [play, play_bind] at hv
  generalize Coro.play (Held.answer sc) c w = p at hv
  obtain ⟨r, w'⟩ := p
  cases r with
  | ok a => exact hf a w' v hv
  | error err => cases hv

/-- The setup of the devices ends in `True` or in an exception. -/
theorem play_setupDevices_true (summaries : List DeviceSummary) (keys : List (Serial × DeviceKey)) :
    ∀ w v, (sc.play (setupDevices summaries keys) w).1 = .ok v → v = true :=
  sc.play_bind_true fun _ => sc.play_bind_true fun _ => sc.play_bind_true fun _ =>
    sc.play_bind_true fun _ => sc.play_bind_true fun _ _ _ hv => by
      cases hv
      rfl

/-- A played coroutine that ends in anything but `True` has released what it held. -/
def Releases (p : Except PyErr Bool × Held) : Prop := p.1 ≠ .ok true → p.2.Released

/-- The client is open while the devices are set up. -/
theorem setupDevices_releases (summaries : List DeviceSummary) (keys : List (Serial × DeviceKey))
    {w : Held} (hw : w.client = .opened) :
    Releases (sc.play (setupDevices summaries keys) w) ↔ sc.starts keys = true := by
  have hclient := (sc.play_client (by decide) (setupDevices_within summaries keys) w).trans hw
  have hend := sc.succeeds_setupDevices summaries keys w
  have htrue := sc.play_setupDevices_true summaries keys w
  generalize sc.play (setupDevices summaries keys) w = p at hclient hend htrue
  obtain ⟨r, w'⟩ := p
  rw [← hend]
  cases r with
  | ok v =>
    obtain rfl := htrue v rfl
    exact iff_of_true (fun h => absurd rfl h) rfl
  | error err =>
    refine iff_of_false (fun h => ?_) nofun
    exact (h nofun).2.2.2.2 hclient

/-- A handler that closes the client leaves nothing. -/
theorem fetchFailed_released {α : Type} (err : PyErr) {w : Held}
    (hw : w.resources = (.opened, false, false, false, false)) :
    (sc.play (fetchFailed err : Su α) w).2.Released ↔ (err.isCloud && sc.aclose.isOk) = true := by
  rw [(sc.play_fetchFailed err w).2]
  simp only [Held.resources, Prod.mk.injEq] at hw
  obtain ⟨hclient, hcallback, hstale, hrssi, hrefresh⟩ := hw
  cases err.isCloud <;> cases sc.aclose.isOk <;>
    simp [Held.Released, hclient, hcallback, hstale, hrssi, hrefresh]

/-- The setup from the cloud requests on, with an open client. -/
theorem fetch_releases {w : Held} (hw : w.resources = (.opened, false, false, false, false))
    (hfetches : w.fetches = 0) :
    Releases (sc.play ((tryExcept fetch fetchFailed).bind fun found =>
      setupDevices found.1 found.2) w) ↔
        (match sc.fetched with
          | .error err => err.isCloud && sc.aclose.isOk
          | .ok (_, keys) => sc.starts keys) = true := by
  have hresult := sc.play_fetch w hfetches
  have hkept := (sc.play_fetches fetch_within w).trans hw
  rw [play] at hresult hkept ⊢
  rw [play_bind, play_tryExcept, ← hresult]
  generalize Coro.play (Held.answer sc) fetch w = q at hkept
  obtain ⟨r, w'⟩ := q
  cases r with
  | ok found => exact sc.setupDevices_releases found.1 found.2 (congrArg Prod.fst hkept)
  | error err =>
    have hreleased := sc.fetchFailed_released
      (α := List DeviceSummary × List (Serial × DeviceKey)) err hkept
    have hfail :=
      (sc.play_fetchFailed (α := List DeviceSummary × List (Serial × DeviceKey)) err w').1
    rw [play] at hreleased hfail
    simp only
    generalize Coro.play (Held.answer sc)
      (fetchFailed err : Su (List DeviceSummary × List (Serial × DeviceKey))) w' = q
      at hreleased hfail
    obtain ⟨r, w''⟩ := q
    cases r with
    | ok found => cases hfail
    | error err' => exact Iff.trans ⟨fun h => h nofun, fun h _ => h⟩ hreleased

/-- The setup from the construction of the client on. -/
theorem client_releases (storage : Nat) {w : Held}
    (hw : w.resources = (.absent, false, false, false, false)) (hfetches : w.fetches = 0) :
    Releases (sc.play ((Su.newCloudClient storage).bind fun _ =>
      (tryExcept fetch fetchFailed).bind fun found => setupDevices found.1 found.2) w) ↔
        (match sc.newCloudClient with
          | .error _ => !sc.clientBuilt
          | .ok _ =>
            match sc.fetched with
            | .error err => err.isCloud && sc.aclose.isOk
            | .ok (_, keys) => sc.starts keys) = true := by
  have hbuilt : sc.play ((Su.newCloudClient storage).bind fun _ =>
        (tryExcept fetch fetchFailed).bind fun found => setupDevices found.1 found.2) w =
      sc.play ((Coro.ofResult sc.newCloudClient).bind fun _ =>
        (tryExcept fetch fetchFailed).bind fun found => setupDevices found.1 found.2)
          { w with
            client := if sc.newCloudClient.isOk || sc.clientBuilt then .opened else w.client } :=
    rfl
  rw [hbuilt]
  simp only [Held.resources, Prod.mk.injEq] at hw
  obtain ⟨hclient, hcallback, hstale, hrssi, hrefresh⟩ := hw
  cases sc.newCloudClient with
  | ok u =>
    refine sc.fetch_releases ?_ hfetches
    simp only [Held.resources, hcallback, hstale, hrssi, hrefresh]
    rfl
  | error err =>
    have hreleased : Held.Released
        { w with client := if sc.clientBuilt then .opened else w.client } ↔
          (!sc.clientBuilt) = true := by
      cases sc.clientBuilt <;>
        simp [Held.Released, hclient, hcallback, hstale, hrssi, hrefresh]
    exact Iff.trans ⟨fun h => h nofun, fun h _ => h⟩ hreleased

/-- **A setup that does not return `True` has released everything** if and only if it failed before
the client was built or in a cloud request with a handler, whose close succeeded. -/
theorem setup_releases : Releases (sc.play asyncSetupEntry {}) ↔ sc.setupReleases = true := by
  have hopen := sc.play_openStorage
  obtain ⟨hkept, hfetches⟩ := sc.play_storage openStorage_within {}
  have hsetup : sc.play asyncSetupEntry {} = sc.play (openStorage.bind fun storage =>
      (Su.newCloudClient storage).bind fun _ => (tryExcept fetch fetchFailed).bind fun found =>
        setupDevices found.1 found.2) {} := rfl
  rw [hsetup, setupReleases, ← hopen]
  rw [play] at hkept hfetches ⊢
  rw [play_bind, play]
  generalize Coro.play (Held.answer sc) openStorage {} = p at hkept hfetches
  obtain ⟨r, w⟩ := p
  cases r with
  | ok storage => exact sc.client_releases storage hkept hfetches
  | error err =>
    simp only [Held.resources, Prod.mk.injEq] at hkept
    obtain ⟨hclient, hcallback, hstale, hrssi, hrefresh⟩ := hkept
    refine iff_of_true (fun _ => ⟨hcallback, hstale, hrssi, hrefresh, ?_⟩) rfl
    rw [hclient]
    nofun

/-! ## Unload -/

/-- The controls are disconnected one after the other. -/
theorem play_disconnectAll {serials : List Serial}
    (hserials : (serials.all fun serial => (sc.disconnect serial).isOk) = true) (w : Held) :
    sc.play (disconnectAll serials) w =
      (.ok (), { w with disconnects := w.disconnects ++ serials }) := by
  induction serials generalizing w with
  | nil =>
    rw [List.append_nil]
    rfl
  | cons serial rest ih =>
    rw [List.all_cons, Bool.and_eq_true] at hserials
    have hbranch : sc.play (disconnectAll (serial :: rest)) w =
        sc.play ((Coro.ofResult (sc.disconnect serial)).bind fun _ => disconnectAll rest)
          { w with disconnects := w.disconnects ++ [serial] } := rfl
    rw [hbranch]
    cases hdisconnect : sc.disconnect serial with
    | error err =>
      rw [hdisconnect] at hserials
      cases hserials.1
    | ok u =>
      show sc.play (disconnectAll rest) _ = _
      rw [ih hserials.2, List.append_assoc]
      rfl

theorem succeeds_disconnectAll (serials : List Serial) :
    sc.Succeeds (disconnectAll serials)
      (serials.all fun serial => (sc.disconnect serial).isOk) := by
  induction serials with
  | nil => exact .ret ()
  | cons serial rest ih =>
    have hdisconnect : sc.Succeeds (Su.disconnect serial) (sc.disconnect serial).isOk :=
      (Succeeds.ofResult _).skip fun _ => ⟨_, rfl⟩
    exact hdisconnect.bind fun _ => ih

/-- The coroutine closes the open client if and only if the Boolean is true. -/
def Closes {α : Type} (c : Su α) (b : Bool) : Prop :=
  ∀ w : Held, w.client = .opened → ((sc.play c w).2.client = .closed ↔ b = true)

theorem Closes.bind {α β : Type} {c : Su α} {f : α → Su β} {b b' : Bool}
    (hc : Within .unload c) (hb : sc.Succeeds c b)
    (hf : ∀ a, sc.Closes (f a) b') : sc.Closes (c.bind f) (b && b') := by
  intro w hw
  have hclient := (sc.play_client (by decide) hc w).trans hw
  have hend := hb w
  rw [play] at hclient hend ⊢
  rw [play_bind]
  generalize Coro.play (Held.answer sc) c w = p at hclient hend
  obtain ⟨r, w'⟩ := p
  subst hend
  cases r with
  | ok a => exact hf a w' hclient
  | error err =>
    refine iff_of_false (fun h => ?_) nofun
    cases (show w'.client = .opened from hclient).symm.trans h

/-- The monitor is stopped, if there is one. -/
theorem succeeds_stopMonitor (runtime : RuntimeData) :
    sc.Succeeds (if runtime.monitor then Su.monitorStop else return ())
      (!runtime.monitor || sc.monitorStop.isOk) := by
  cases runtime.monitor with
  | true => exact (Succeeds.ofResult _).skip fun _ => ⟨_, rfl⟩
  | false => exact .ret ()

theorem closes_releaseRuntime (runtime : RuntimeData) :
    sc.Closes (releaseRuntime runtime) (sc.unloadQuiet runtime) := by
  have hmanager : sc.Succeeds Su.keyManagerStop sc.keyManagerStop.isOk :=
    (Succeeds.ofResult _).skip fun _ => ⟨_, rfl⟩
  have hclose : sc.Closes Su.aclose sc.aclose.isOk := by
    intro w hw
    have hbranch : sc.play Su.aclose w = sc.play (Coro.ofResult sc.aclose)
        { w with client := if sc.aclose.isOk then .closed else w.client } := rfl
    rw [hbranch, play_ofResult, hw]
    cases sc.aclose.isOk <;> simp
  exact Closes.bind sc (stopMonitor_within runtime) (sc.succeeds_stopMonitor runtime) fun _ =>
    Closes.bind sc (.op rfl .ofResult) hmanager fun _ =>
      Closes.bind sc (disconnectAll_within _) (sc.succeeds_disconnectAll _) fun _ => hclose

theorem play_stopMonitor {runtime : RuntimeData}
    (h : (!runtime.monitor || sc.monitorStop.isOk) = true) (w : Held) :
    ∃ w', sc.play (if runtime.monitor then Su.monitorStop else .ret ()) w = (.ok (), w') ∧
      w'.disconnects = w.disconnects := by
  cases hpresent : runtime.monitor with
  | false => exact ⟨w, rfl, rfl⟩
  | true =>
    rw [hpresent, Bool.not_true, Bool.false_or] at h
    have hbranch : sc.play (if true then Su.monitorStop else .ret ()) w =
        sc.play (Coro.ofResult sc.monitorStop) (if sc.monitorStop.isOk then
          { w with callback := false, staleTimer := false, rssiTimer := false } else w) := rfl
    rw [hbranch, play_ofResult, h]
    cases hstop : sc.monitorStop with
    | ok u => exact ⟨_, rfl, rfl⟩
    | error err =>
      rw [hstop] at h
      cases h

theorem play_keyManagerStop (h : sc.keyManagerStop.isOk = true) (w : Held) :
    ∃ w', sc.play Su.keyManagerStop w = (.ok (), w') ∧ w'.disconnects = w.disconnects := by
  have hbranch : sc.play Su.keyManagerStop w = sc.play (Coro.ofResult sc.keyManagerStop)
      (if sc.keyManagerStop.isOk then { w with refreshTimer := false } else w) := rfl
  rw [hbranch, play_ofResult, h]
  cases hstop : sc.keyManagerStop with
  | ok u => exact ⟨_, rfl, rfl⟩
  | error err =>
    rw [hstop] at h
    cases h

/-- An unload without an exception calls every disconnect. -/
theorem releaseRuntime_disconnects {runtime : RuntimeData} (hquiet : sc.unloadQuiet runtime = true)
    (w : Held) :
    (sc.play (releaseRuntime runtime) w).2.disconnects = w.disconnects ++ runtime.controls := by
  simp only [unloadQuiet, Bool.and_eq_true] at hquiet
  obtain ⟨hmonitor, hmanager, hcontrols, -⟩ := hquiet
  obtain ⟨w₁, hw₁, hkept₁⟩ := sc.play_stopMonitor hmonitor w
  obtain ⟨w₂, hw₂, hkept₂⟩ := sc.play_keyManagerStop hmanager w₁
  have hw₃ := sc.play_disconnectAll hcontrols w₂
  have hbranch : sc.play (releaseRuntime runtime) w = sc.play ((if runtime.monitor then
      Su.monitorStop else .ret ()).bind fun _ => Su.keyManagerStop.bind fun _ =>
        (disconnectAll runtime.controls).bind fun _ => Su.aclose) w := rfl
  rw [hbranch, ← hkept₁, ← hkept₂]
  rw [play] at hw₁ hw₂ hw₃ ⊢
  rw [play_bind, hw₁]
  simp only
  rw [play_bind, hw₂]
  simp only
  rw [play_bind, hw₃]
  show (sc.play (Coro.ofResult sc.aclose) _).2.disconnects = _
  rw [play_ofResult]
  rfl

/-- The unload releases the runtime data of a loaded entry. -/
theorem play_asyncUnloadEntry (runtime : RuntimeData) (h : sc.unloadPlatforms = .ok true) :
    (sc.play asyncUnloadEntry (Held.loaded sc runtime)).2 =
      (sc.play (releaseRuntime runtime) (Held.loaded sc runtime)).2 := by
  have hbranch : sc.play asyncUnloadEntry (Held.loaded sc runtime) =
      sc.play ((Coro.ofResult sc.unloadPlatforms).bind _) (Held.loaded sc runtime) := rfl
  have hrelease : sc.play asyncUnloadEntry (Held.loaded sc runtime) =
      sc.play ((releaseRuntime runtime).bind fun _ => .ret true) (Held.loaded sc runtime) := by
    rw [hbranch, h]
    rfl
  rw [hrelease, play, play_bind, play]
  generalize Coro.play (Held.answer sc) (releaseRuntime runtime) (Held.loaded sc runtime) = p
  obtain ⟨r, w⟩ := p
  cases r <;> rfl

end SetupScript

/-- **What a failed setup and an unload leave behind.** A setup that does not return `True` leaves
no callback, no timer and no open client if and only if none of its calls raises, or the one that
does comes before the client is built, or is a cloud request with a handled exception and the client
can be closed. An unload that has unloaded the platforms has disconnected every control and closed
the client if and only if none of its calls raises. -/
theorem released_iff (sc : SetupScript) :
    (((sc.play asyncSetupEntry {}).1 ≠ .ok true → (sc.play asyncSetupEntry {}).2.Released) ↔
      sc.setupReleases = true) ∧
    ∀ runtime : RuntimeData, sc.unloadPlatforms = .ok true →
      let w := (sc.play asyncUnloadEntry (Held.loaded sc runtime)).2
      ((∀ serial ∈ runtime.controls, serial ∈ w.disconnects) ∧ w.client = .closed ↔
        sc.unloadQuiet runtime = true) := by
  refine ⟨sc.setup_releases, fun runtime hplatforms => ?_⟩
  have hclosed := sc.closes_releaseRuntime runtime (Held.loaded sc runtime) rfl
  rw [← sc.play_asyncUnloadEntry runtime hplatforms] at hclosed
  refine ⟨fun h => hclosed.mp h.2, fun hquiet => ⟨fun serial hserial => ?_, hclosed.mpr hquiet⟩⟩
  rw [sc.play_asyncUnloadEntry runtime hplatforms, sc.releaseRuntime_disconnects hquiet]
  exact List.mem_append_right _ hserial

/-- A setup of one device and an unload in which no call raises. -/
def quietScript : SetupScript where
  storeLoad := .ok ()
  content := tokenToDict ⟨.str "access", .str "refresh", .finite 100⟩
  pending := none
  storeSave := .ok ()
  clientBuilt := true
  newCloudClient := .ok ()
  devices := .ok [⟨"aabbcc", some "Front door", some "danalockv3"⟩]
  getKey _ := .ok ⟨[], []⟩
  aclose := .ok ()
  registerDevices := .ok ()
  registerCallback := .ok ()
  trackCheckStale := .ok ()
  trackRefreshStates := .ok ()
  newControl _ := .ok ()
  keyManagerStart := .ok ()
  refreshEnabled := true
  addUpdateListener := .ok ()
  forwardEntrySetups := .ok ()
  unloadPlatforms := .ok true
  monitorStop := .ok ()
  keyManagerStop := .ok ()
  disconnect _ := .ok ()

/-- A setup whose second key the cloud refuses. -/
def refusedScript : SetupScript :=
  { quietScript with
    devices := .ok [⟨"aabbcc", none, some "danalockv3"⟩, ⟨"ddeeff", none, none⟩]
    getKey := fun n => if n = 0 then .ok ⟨[], []⟩ else .error (.authError "expired") }

/-- The refused setup leaves nothing; the unload of an entry with two locks disconnects both. -/
theorem released_refusedScript :
    ((refusedScript.play asyncSetupEntry {}).1 ≠ .ok true ∧
      (refusedScript.play asyncSetupEntry {}).2.Released) ∧
    let w := (quietScript.play asyncUnloadEntry
      (Held.loaded quietScript ⟨[], ["aabbcc", "ddeeff"], true⟩)).2
    (∀ serial ∈ ["aabbcc", "ddeeff"], serial ∈ w.disconnects) ∧ w.client = .closed := by
  have hfails : (refusedScript.play asyncSetupEntry {}).1 ≠ .ok true := by decide
  exact ⟨⟨hfails, (released_iff refusedScript).1.mpr (by decide) hfails⟩,
    ((released_iff quietScript).2 ⟨[], ["aabbcc", "ddeeff"], true⟩ rfl).mpr (by decide)⟩

/-- A setup that is cancelled while the platforms are set up leaves everything behind. -/
theorem leaks_cancelledPlatforms :
    ¬ ∀ sc : SetupScript,
      ((sc.play asyncSetupEntry {}).1 ≠ .ok true → (sc.play asyncSetupEntry {}).2.Released) ∧
      ∀ runtime : RuntimeData, sc.unloadPlatforms = .ok true →
        let w := (sc.play asyncUnloadEntry (Held.loaded sc runtime)).2
        (∀ serial ∈ runtime.controls, serial ∈ w.disconnects) ∧ w.client = .closed := by
  intro h
  have hreleased :=
    (h { quietScript with forwardEntrySetups := .error .cancelledError }).1 (by decide)
  exact absurd hreleased.1 (by decide)

end DanalockBle
