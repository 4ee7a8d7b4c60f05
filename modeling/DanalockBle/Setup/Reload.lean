import DanalockBle.Setup.Tokens

/-!
# The tokens that a reload finds

Every setup after a revalidation finds the validated tokens as long as no other storage than the
flow's writes the store between the flow's write and the load of the last reload that it asks for
(`reloaded_tokens`). A `TokenStage` says how far the flow and the reloads are; the reload that holds
the setup lock is the only one at work, and the invariant relates it to the store.
-/

namespace DanalockBle

open Coroutine Coroutine.Coro DanalockTokenStorage

/-- How far a task is. -/
inductive TokenStage where
  /-- a call of the client of a storage, if it is open -/
  | asking (storage : Nat)
  | client (storage : Nat)
  /-- the flow saves its tokens -/
  | saving
  | saved
  /-- a reload that has not started -/
  | waiting
  | unloading
  /-- the new setup has its storage and reads the store -/
  | opening (storage : Nat)
  | reading (storage : Nat)
  | decoding (storage : Nat) (data : Json)
  | holding (storage : Nat)
  | loaded (storage : Nat)
  | ended

/-- The task is a reload under the setup lock. -/
def TokenStage.isActive : TokenStage → Bool
  | unloading | opening _ | reading _ | decoding _ _ | holding _ | loaded _ => true
  | _ => false

/-- An operation of the unload. -/
def SetupOp.unloads : SetupOp → Bool
  | entryState | unloadPlatforms | runtimeData | monitorStop | keyManagerStop | disconnect _
  | aclose => true
  | _ => false

/-- An operation of the setup after its storage has read the store. -/
def SetupOp.afterLoad (storage : Nat) : SetupOp → Bool
  | newStorage | token _ | storeLoad _ | storeContent _ | updateReloadAndAbort _ _ | clientOpen _
  | startReload | endReload | entryState | setEntryState _ => false
  | storeSave i _ | storeRemove i | newCloudClient i => i == storage
  | _ => true

/-- The stages of the requests of a run. -/
@[reducible] def tokenProtocol (token : TokenData) : Protocol setupSig where
  Ghost := TokenStage
  may
    | g, .endReload => g.isActive = true
    | g, .setEntryState _ => g.isActive = true
    | .asking i, .clientOpen storage => storage = i
    | .client _, .setToken _ _ => True
    | .client i, .storeSave storage _ => storage = i
    | .client i, .storeRemove storage => storage = i
    | .saving, .storeSave storage data => storage = flowStorage ∧ data = tokenToDict token
    | .saved, .uniqueId => True
    | .saved, .updateReloadAndAbort _ _ => True
    | .waiting, .startReload => True
    | .unloading, .newStorage => True
    | .unloading, o => o.unloads = true
    | .opening i, .storeLoad storage => storage = i
    | .reading i, .storeContent storage => storage = i
    | .decoding i data, .setToken storage found => storage = i ∧ tokenFromDict data = .ok found
    | .holding i, .token storage => storage = i
    | .loaded i, o => o.afterLoad i = true
    | _, _ => False
  after
    | _, .endReload, _ => some .ended
    | .asking i, .clientOpen _, isOpen => some (if isOpen then .client i else .ended)
    | .saving, .storeSave _ _, r => some (if r.isOk then .saved else .ended)
    | .saved, .updateReloadAndAbort _ _, _ => some .ended
    | .waiting, .startReload, starts => some (if starts then .unloading else .ended)
    | .unloading, .newStorage, i => some (.opening i)
    | .opening i, .storeLoad _, r => some (if r.isOk then .reading i else .opening i)
    | .reading i, .storeContent _, data => some (.decoding i data)
    | .decoding i _, .setToken _ _, _ => some (.holding i)
    | .holding i, .token _, _ => some (.loaded i)
    | g, _, _ => some g

/-- A stage at which no operation waits. -/
def TokenStage.runsOn : TokenStage → Bool
  | asking _ | saved | waiting | reading _ | decoding _ _ | holding _ | ended => true
  | _ => false

def TokenRequest.start : TokenRequest → TokenStage
  | revalidated _ _ => .ended
  | save storage _ | clear storage => .asking storage
  | reload => .waiting

section
variable {token : TokenData}

theorem asyncUnloadEntry_unloads : Only (fun o : SetupOp => o.unloads = true) asyncUnloadEntry := by
  have hunload : ∀ {c : Su Unit}, Within .unload c → Only (fun o : SetupOp => o.unloads = true) c :=
    fun hc => hc.mono fun o ho => by cases o <;> first | rfl | cases ho
  refine Only.bind (.op rfl .ofResult) fun unloadOk => ?_
  cases unloadOk with
  | false => trivial
  | true =>
    refine Only.bind (.op rfl fun _ => trivial) fun runtime => ?_
    cases runtime with
    | none => trivial
    | some runtime =>
      exact Only.bind (Only.bind (hunload (stopMonitor_within runtime)) fun _ =>
        Only.bind (.op rfl .ofResult) fun _ =>
          Only.bind (hunload (disconnectAll_within _)) fun _ => .op rfl .ofResult) fun _ => trivial

/-- What follows the storage of a setup. -/
theorem setup_afterLoad (storage : Nat) : Only (fun o : SetupOp => o.afterLoad storage = true)
    ((Su.newCloudClient storage).bind fun _ => (tryExcept fetch fetchFailed).bind fun found =>
      setupDevices found.1 found.2) := by
  have hpart : ∀ {α : Type} {part : SetupPart} {c : Su α}, part = .request ∨ part = .devices →
      Within part c → Only (fun o : SetupOp => o.afterLoad storage = true) c := by
    intro α part c hpart hc
    refine hc.mono fun o ho => ?_
    subst ho
    cases o <;> first | rfl | simp [SetupOp.part] at hpart
  have hfailed : ∀ {α : Type} (err : PyErr),
      Only (fun o : SetupOp => o.afterLoad storage = true) (fetchFailed err : Su α) := by
    intro α err
    have hclose : ∀ e : PyErr, Only (fun o : SetupOp => o.afterLoad storage = true)
        (Su.aclose.bind fun _ => (.raise e : Su α)) := fun _ =>
      Only.bind (.op rfl .ofResult) fun _ => trivial
    cases err with
    | authError text => exact hclose _
    | cloudError text => exact hclose _
    | httpError text => exact hclose _
    | _ => trivial
  exact Only.bind (.op (beq_self_eq_true storage) .ofResult) fun _ =>
    Only.bind (Only.tryExcept (hpart (.inl rfl) fetch_within) hfailed) fun found =>
      hpart (.inr rfl) (setupDevices_within found.1 found.2)

/-- A stage whose operations do not end it. -/
theorem meets_stage {α : Type} {g : TokenStage} {φ : SetupOp → Prop} {c : Su α}
    (hmay : ∀ o, φ o → (tokenProtocol token).may g o)
    (hafter : ∀ o r, φ o → (tokenProtocol token).after g o r = some g) (hc : Only φ c) :
    Restores (tokenProtocol token) g c := by
  refine hc.meets (P := tokenProtocol token) (J := fun g' => g' = g) (g := g)
    (fun g' o hg ho => ?_) (fun g' o r g'' hg ho hr => ?_) rfl
  · subst hg
    exact hmay o ho
  · subst hg
    exact Option.some.inj (hr.symm.trans (hafter o r ho))

theorem unload_restores : Restores (tokenProtocol token) .unloading asyncUnloadEntry := by
  refine meets_stage (fun o ho => ?_) (fun o r ho => ?_) asyncUnloadEntry_unloads
  · cases o <;> first | exact ho | cases ho
  · cases o <;> first | rfl | cases ho

theorem loaded_restores {α : Type} {storage : Nat} {c : Su α}
    (hc : Only (fun o : SetupOp => o.afterLoad storage = true) c) :
    Restores (tokenProtocol token) (.loaded storage) c := by
  refine meets_stage (fun o ho => ?_) (fun o r ho => ?_) hc
  · cases o <;> first | exact ho | cases ho
  · cases o <;> first | rfl | cases ho

theorem client_meets {storage : Nat} {c : Su Unit}
    (hc : Only (fun o => (tokenProtocol token).may (.client storage) o) c) :
    Meets (tokenProtocol token) (.asking storage) (ofClient storage c) fun _ _ => True := by
  refine ⟨rfl, fun isOpen g hg => ?_⟩
  cases isOpen with
  | false => trivial
  | true =>
    obtain rfl : TokenStage.client storage = g := Option.some.inj hg
    refine (meets_stage (fun _ ho => ho) (fun o r ho => ?_) hc).mono fun _ _ _ => trivial
    cases o <;> first | rfl | cases ho

/-- A storage that holds its tokens goes on with the rest of the setup. -/
theorem seedPending_meets (storage : Nat) :
    Meets (tokenProtocol token) (.holding storage) (seedPending storage)
      fun _ g => g = .loaded storage := by
  refine ⟨rfl, fun found g hg => ?_⟩
  obtain rfl : TokenStage.loaded storage = g := Option.some.inj hg
  cases found with
  | some found => rfl
  | none =>
    refine loaded_restores ?_
    show Only _ (Su.popPendingTokens.bind _)
    refine Only.bind (.op rfl fun _ => trivial) fun pending => ?_
    cases pending with
    | none => trivial
    | some pending =>
      exact Only.bind (.op rfl fun _ => trivial) fun _ => .op (beq_self_eq_true storage) .ofResult

theorem asyncLoad_meets (storage : Nat) :
    Meets (tokenProtocol token) (.opening storage) (asyncLoad storage) fun r g =>
      g.isActive = true ∧ (r.isOk = true → g = .holding storage) := by
  refine ⟨rfl, fun r g hg => ?_⟩
  obtain rfl := Option.some.inj hg
  cases r with
  | error err => exact ⟨rfl, nofun⟩
  | ok u =>
    refine ⟨rfl, fun data g hg => ?_⟩
    obtain rfl : TokenStage.decoding storage data = g := Option.some.inj hg
    show Meets _ _ ((Coro.ofResult (tokenFromDict data)).bind _) _
    cases hdata : tokenFromDict data with
    | error err => exact ⟨rfl, nofun⟩
    | ok found =>
      refine ⟨⟨rfl, hdata⟩, fun u g hg => ?_⟩
      obtain rfl : TokenStage.holding storage = g := Option.some.inj hg
      exact ⟨rfl, fun _ => rfl⟩

theorem asyncSetupEntry_meets : Meets (tokenProtocol token) .unloading asyncSetupEntry
    fun _ g => g.isActive = true := by
  refine Meets.bind (Meets.mono (Q := fun r (g : TokenStage) =>
    g.isActive = true ∧ ∀ storage, r = .ok storage → g = .loaded storage) (fun r g hr => ?_) ?_)
  · cases r with
    | error err => exact hr.1
    | ok storage =>
      obtain rfl := hr.2 storage rfl
      refine (loaded_restores (setup_afterLoad storage)).mono fun _ g hg => ?_
      subst hg
      rfl
  · refine ⟨trivial, fun storage g hg => ?_⟩
    obtain rfl : TokenStage.opening storage = g := Option.some.inj hg
    show Meets _ _ ((asyncLoad storage).bind _) _
    refine Meets.bind ((asyncLoad_meets storage).mono fun r g hr => ?_)
    cases r with
    | error err => exact ⟨hr.1, nofun⟩
    | ok u =>
      obtain rfl := hr.2 rfl
      show Meets _ _ ((seedPending storage).bind _) _
      refine Meets.bind ((seedPending_meets storage).mono fun r g hr => ?_)
      subst hr
      cases r with
      | error err => exact ⟨rfl, nofun⟩
      | ok u =>
        refine ⟨rfl, fun storage' hstorage => ?_⟩
        rw [Except.ok.inj hstorage]

/-- The unload ends where it began, with the entry's new state. -/
theorem unloadEntry_restores : Restores (tokenProtocol token) .unloading unloadEntry := by
  refine ⟨rfl, fun state g hg => ?_⟩
  obtain rfl : TokenStage.unloading = g := Option.some.inj hg
  cases state with
  | notLoaded => rfl
  | failedUnload => rfl
  | loaded =>
    show Restores _ _ ((tryExcept asyncUnloadEntry fun _ => return false).bind _)
    refine Restores.bind (Restores.tryExcept unload_restores fun _ => Restores.ret _) fun _ => ?_
    exact ⟨rfl, fun _ g hg => (Option.some.inj hg).symm⟩

theorem setupEntry_meets : Meets (tokenProtocol token) .unloading setupEntry
    fun _ g => g.isActive = true := by
  have hstate : ∀ (state : EntryState) (g : TokenStage), g.isActive = true →
      Meets (tokenProtocol token) g (Su.setEntryState state) fun _ g => g.isActive = true := by
    intro state g hg
    refine ⟨by cases g <;> exact hg, fun u g' hg' => ?_⟩
    obtain rfl : g = g' := by cases g <;> exact Option.some.inj hg'
    exact hg
  refine Meets.bind (Meets.tryExcept (asyncSetupEntry_meets.mono fun r g hg => ?_))
  cases r with
  | ok setupOk => exact hstate _ g hg
  | error err => exact hstate _ g hg

theorem asyncReload_meets : Meets (tokenProtocol token) .waiting asyncReload fun _ _ => True := by
  refine ⟨trivial, fun starts g hg => ?_⟩
  cases starts with
  | false => trivial
  | true =>
    obtain rfl : TokenStage.unloading = g := Option.some.inj hg
    refine Meets.tryFinally (Meets.mono (Q := fun _ (g : TokenStage) => g.isActive = true)
      (fun r g hg => ?_) ?_)
    · refine ⟨by cases g <;> exact hg, fun u g' _ => ?_⟩
      trivial
    · refine Meets.bind (unloadEntry_restores.mono fun r g hg => ?_)
      subst hg
      cases r with
      | error err => rfl
      | ok unloadOk =>
        cases unloadOk with
        | false => rfl
        | true => exact setupEntry_meets

theorem prog_meets (str : StrMethods) {req : TokenRequest}
    (hreq : ∀ token username, req ≠ .revalidated token username) :
    Meets (tokenProtocol token) req.start (req.prog str) fun _ _ => True := by
  cases req with
  | revalidated token username => exact absurd rfl (hreq token username)
  | save storage found =>
    exact client_meets (Only.bind (.op trivial fun _ => trivial) fun _ => .op rfl .ofResult)
  | clear storage =>
    exact client_meets (Only.bind (.op trivial fun _ => trivial) fun _ => .op rfl .ofResult)
  | reload => exact asyncReload_meets

end

/-! ## The invariant -/

/-- The flow's tokens are in the store, and a reload has yet to read them. -/
def TokenStore.awaitsLoad (s : TokenStore) : Bool :=
  s.fresh && (decide (0 < s.asked) || s.reload != .past)

/-- A write by another storage than the flow's. -/
def SetupOp.writesOther : SetupOp → Bool
  | storeSave storage _ | storeRemove storage => storage != flowStorage
  | _ => false

/-- An operation on the store itself. -/
def SetupOp.onStore : SetupOp → Bool
  | storeLoad _ | storeSave _ _ | storeRemove _ => true
  | _ => false

/-- One flow; no write of another storage takes effect while the flow's tokens wait for a load. -/
def tokenGuard : Guard tokenMachine TokenRequest where
  spawn
    | .revalidated _ _ => false
    | _ => true
  op _ o r s := !(o.writesOther && s.awaitsLoad && TokenStore.resultOk o r)

/-- What the stage of a task says of the store. -/
def TokenStage.Fits (token : TokenData) (s : TokenStore) (t : TaskId) (w : Option SetupOp) :
    TokenStage → Prop
  | asking _ | waiting | ended => True
  | client i => i ≠ flowStorage
  | saving => t = 0 ∧ s.asked = 0 ∧ s.reload = .idle
  | saved => t = 0 ∧ s.asked = 0 ∧ s.reload = .idle ∧ s.fresh = true
  | unloading => s.lock = some t ∧ s.reload = .running
  | opening i => s.lock = some t ∧ s.reload = .running ∧ i ≠ flowStorage
  | reading i =>
    s.lock = some t ∧ s.reload = .past ∧ i ≠ flowStorage ∧ s.content t = tokenToDict token
  | decoding i data =>
    s.lock = some t ∧ s.reload = .past ∧ i ≠ flowStorage ∧ data = tokenToDict token
  | holding i =>
    s.lock = some t ∧ s.reload = .past ∧ i ≠ flowStorage ∧ (w = none → s.tokens i = some token)
  | loaded i => s.lock = some t ∧ s.reload = .past ∧ i ≠ flowStorage

/-- What the setups find are the flow's tokens. -/
structure Reloading (token : TokenData) (s : TokenStore) (Γ : View (tokenProtocol token)) :
    Prop where
  storages : flowStorage < s.storages
  clients : s.clients flowStorage = false
  loads : ∀ found ∈ s.loads, found = some token
  stored : s.awaitsLoad = true → s.stored = tokenToDict token
  asked : 0 < s.asked ∨ s.reload ≠ .idle → s.fresh = true
  fits : ∀ t g w, Γ t = some (g, w) → TokenStage.Fits token s t w g

theorem TokenStore.awaitsLoad_of (s : TokenStore) (hfresh : s.fresh = true)
    (hnext : 0 < s.asked ∨ s.reload ≠ .past) : s.awaitsLoad = true := by
  rw [awaitsLoad, hfresh, Bool.true_and, Bool.or_eq_true, decide_eq_true_eq, bne_iff_ne]
  exact hnext

theorem TokenStore.awaitsLoad_cases {s : TokenStore} (h : s.awaitsLoad = true) :
    s.fresh = true ∧ (0 < s.asked ∨ s.reload ≠ .past) := by
  rwa [awaitsLoad, Bool.and_eq_true, Bool.or_eq_true, decide_eq_true_eq, bne_iff_ne] at h

theorem TokenStore.wakeOp_eq_none {s : TokenStore} {t : TaskId} {o : SetupOp} {r : o.Res}
    (h : suspends o = false) : s.wakeOp t o r = none := by
  rw [wakeOp, h]
  rfl

namespace Reloading

variable {token : TokenData} {s s' : TokenStore} {Γ : View (tokenProtocol token)} {t : TaskId}
  {g : TokenStage} {w : Option SetupOp}

/-- The task at an active stage holds the lock. -/
theorem fits_lock (h : TokenStage.Fits token s t w g) (hg : g.isActive = true) :
    s.lock = some t ∧ s.reload ≠ .idle := by
  cases g with
  | unloading => exact ⟨h.1, by rw [h.2]; nofun⟩
  | opening i => exact ⟨h.1, by rw [h.2.1]; nofun⟩
  | reading i => exact ⟨h.1, by rw [h.2.1]; nofun⟩
  | decoding i data => exact ⟨h.1, by rw [h.2.1]; nofun⟩
  | holding i => exact ⟨h.1, by rw [h.2.1]; nofun⟩
  | loaded i => exact ⟨h.1, by rw [h.2.1]; nofun⟩
  | _ => cases hg

/-- Of a task that neither saves the tokens nor holds the lock, the stage says nothing that a step
changes. -/
theorem fits_free (h : TokenStage.Fits token s t w g)
    (hflow : ¬ (t = 0 ∧ s.asked = 0 ∧ s.reload = .idle))
    (hlock : ¬ (s.lock = some t ∧ s.reload ≠ .idle)) : TokenStage.Fits token s' t w g := by
  cases hg : g.isActive with
  | true => exact absurd (fits_lock h hg) hlock
  | false =>
    cases g with
    | asking i => trivial
    | waiting => trivial
    | ended => trivial
    | client i => exact h
    | saving => exact absurd h hflow
    | saved => exact absurd ⟨h.1, h.2.1, h.2.2.1⟩ hflow
    | _ => cases hg

theorem fits_frame (h : TokenStage.Fits token s t w g) (hasked : s'.asked = s.asked)
    (hlock : s'.lock = s.lock) (hreload : s'.reload = s.reload)
    (hfresh : s.fresh = true → s'.fresh = true) (hcontent : s'.content t = s.content t)
    (htokens : w = none → s'.tokens = s.tokens) : TokenStage.Fits token s' t w g := by
  cases g with
  | asking i => trivial
  | waiting => trivial
  | ended => trivial
  | client i => exact h
  | saving => exact ⟨h.1, hasked.trans h.2.1, hreload.trans h.2.2⟩
  | saved => exact ⟨h.1, hasked.trans h.2.1, hreload.trans h.2.2.1, hfresh h.2.2.2⟩
  | unloading => exact ⟨hlock.trans h.1, hreload.trans h.2⟩
  | opening i => exact ⟨hlock.trans h.1, hreload.trans h.2.1, h.2.2⟩
  | reading i => exact ⟨hlock.trans h.1, hreload.trans h.2.1, h.2.2.1, hcontent.trans h.2.2.2⟩
  | decoding i data => exact ⟨hlock.trans h.1, hreload.trans h.2.1, h.2.2⟩
  | holding i =>
    exact ⟨hlock.trans h.1, hreload.trans h.2.1, h.2.2.1,
      fun hw => (congrFun (htokens hw) i).trans (h.2.2.2 hw)⟩
  | loaded i => exact ⟨hlock.trans h.1, hreload.trans h.2.1, h.2.2⟩

/-- A task goes on to another stage. -/
theorem move (h : Reloading token s Γ) (hstorages : s.storages ≤ s'.storages)
    (hclients : s'.clients flowStorage = s.clients flowStorage)
    (hloads : ∀ found ∈ s'.loads, found = some token)
    (hstored : s'.awaitsLoad = true → s'.stored = tokenToDict token)
    (hasked : 0 < s'.asked ∨ s'.reload ≠ .idle → s'.fresh = true)
    (hfits : TokenStage.Fits token s' t w g)
    (hothers : ∀ t' g' w', t' ≠ t → Γ t' = some (g', w') → TokenStage.Fits token s' t' w' g') :
    Reloading token s' (Function.update Γ t (some (g, w))) where
  storages := h.storages.trans_le hstorages
  clients := hclients.trans h.clients
  loads := hloads
  stored := hstored
  asked := hasked
  fits t' g' w' ht' := by
    by_cases hne : t' = t
    · subst hne
      rw [Function.update_self] at ht'
      cases ht'
      exact hfits
    · rw [Function.update_of_ne hne] at ht'
      exact hothers t' g' w' hne ht'

/-- A step that changes neither the store nor the reloads. -/
theorem quiet (h : Reloading token s Γ) (hstorages : s.storages ≤ s'.storages)
    (hclients : s'.clients flowStorage = s.clients flowStorage) (hloads : s'.loads = s.loads)
    (hstored : s'.stored = s.stored) (hasked : s'.asked = s.asked) (hlock : s'.lock = s.lock)
    (hreload : s'.reload = s.reload) (hfresh : s'.fresh = s.fresh)
    (hcontent : s'.content = s.content)
    (htokens : ∀ t' g', t' ≠ t → Γ t' = some (g', none) → s'.tokens = s.tokens)
    (hfits : TokenStage.Fits token s' t w g) :
    Reloading token s' (Function.update Γ t (some (g, w))) := by
  refine h.move hstorages hclients (hloads ▸ h.loads) (fun hwait => ?_) (fun hnext => ?_) hfits
    fun t' g' w' hne ht' => ?_
  · rw [TokenStore.awaitsLoad, hfresh, hasked, hreload] at hwait
    exact hstored.trans (h.stored hwait)
  · rw [hasked, hreload] at hnext
    exact hfresh.trans (h.asked hnext)
  · refine fits_frame (h.fits t' g' w' ht') hasked hlock hreload (hfresh.trans ·)
      (congrFun hcontent t') fun hw => ?_
    subst hw
    exact htokens t' g' hne ht'

/-- A step of a task that stays at its stage and changes nothing that the stages are about. -/
theorem same (h : Reloading token s Γ) (ht : Γ t = some (g, none))
    (hstorages : s'.storages = s.storages)
    (hclients : s'.clients flowStorage = s.clients flowStorage) (hloads : s'.loads = s.loads)
    (hstored : s'.stored = s.stored) (hasked : s'.asked = s.asked) (hlock : s'.lock = s.lock)
    (hreload : s'.reload = s.reload) (hfresh : s'.fresh = s.fresh)
    (hcontent : s'.content = s.content) (htokens : s'.tokens = s.tokens) :
    Reloading token s' (Function.update Γ t (some (g, none))) :=
  h.quiet hstorages.ge hclients hloads hstored hasked hlock hreload hfresh hcontent
    (fun _ _ _ _ => htokens) (fits_frame (h.fits t g none ht) hasked hlock hreload
      (hfresh.trans ·) (congrFun hcontent t) fun _ => htokens)

/-- The flow asks for the reloads. -/
theorem schedule (h : Reloading token s Γ) (ht : Γ t = some (.saved, none))
    (uniqueId : Option String) (title username : String) (n : Nat) :
    Reloading token
      { s with uniqueId := uniqueId, title := title, username := username, asked := s.asked + n }
      (Function.update Γ t (some (.ended, none))) := by
  obtain ⟨h0, hasked, hidle, hfresh⟩ := h.fits t .saved none ht
  refine h.move le_rfl rfl h.loads (fun _ => h.stored ?_) (fun _ => hfresh) trivial
    fun t' g' w' hne ht' => fits_free (h.fits t' g' w' ht') (fun hflow => ?_) fun hlock => ?_
  · exact s.awaitsLoad_of hfresh (.inr (by rw [hidle]; nofun))
  · exact hne (hflow.1.trans h0.symm)
  · exact hlock.2 hidle

/-- A reload takes the lock. -/
theorem begins (h : Reloading token s Γ) (hasked : 0 < s.asked) (hlock : s.lock = none) :
    Reloading token { s with asked := s.asked - 1, lock := some t, reload := .running }
      (Function.update Γ t (some (.unloading, none))) := by
  have hfresh := h.asked (.inl hasked)
  refine h.move le_rfl rfl h.loads (fun _ => h.stored (s.awaitsLoad_of hfresh (.inl hasked)))
    (fun _ => hfresh) ⟨rfl, rfl⟩
    fun t' g' w' hne ht' => fits_free (h.fits t' g' w' ht') (fun hflow => ?_) fun hheld => ?_
  · exact hasked.ne' hflow.2.1
  · cases hlock.symm.trans hheld.1

/-- The setup has read the store. -/
theorem read (h : Reloading token s Γ) {storage : Nat} {w₀ : Option SetupOp}
    (ht : Γ t = some (.opening storage, w₀)) :
    Reloading token { s with content := Function.update s.content t s.stored, reload := .past }
      (Function.update Γ t (some (.reading storage, none))) := by
  obtain ⟨hlock, hrunning, hstorage⟩ := h.fits t _ w₀ ht
  have hfresh := h.asked (.inr (by rw [hrunning]; nofun))
  have hstored := h.stored (s.awaitsLoad_of hfresh (.inr (by rw [hrunning]; nofun)))
  refine h.move le_rfl rfl h.loads (fun _ => hstored) (fun _ => hfresh)
    ⟨hlock, rfl, hstorage, (Function.update_self ..).trans hstored⟩
    fun t' g' w' hne ht' => fits_free (h.fits t' g' w' ht') (fun hflow => ?_) fun hheld => ?_
  · cases hrunning.symm.trans hflow.2.2
  · exact hne (Option.some.inj (hheld.1.symm.trans hlock))

/-- The reload releases the lock. -/
theorem ends (h : Reloading token s Γ) (ht : Γ t = some (g, none)) (hg : g.isActive = true) :
    Reloading token { s with lock := none, reload := .past }
      (Function.update Γ t (some (.ended, none))) := by
  obtain ⟨hlock, hreload⟩ := fits_lock (h.fits t g none ht) hg
  have hfresh := h.asked (.inr hreload)
  refine h.move le_rfl rfl h.loads (fun hwait => h.stored ?_) (fun _ => hfresh) trivial
    fun t' g' w' hne ht' => fits_free (h.fits t' g' w' ht') (fun hflow => ?_) fun hheld => ?_
  · exact s.awaitsLoad_of hfresh (.inl ((TokenStore.awaitsLoad_cases hwait).2.resolve_right
      fun hpast => hpast rfl))
  · exact hreload hflow.2.2
  · exact hne (Option.some.inj (hheld.1.symm.trans hlock))

/-- The unload changes nothing before its first wait. -/
theorem unloads_run {o : SetupOp} {r : o.Res} (ho : o.unloads = true)
    (hr : s.runOp t o = some (r, s')) : s' = s := by
  cases o with
  | runtimeData => cases hr; rfl
  | entryState => cases hr; rfl
  | _ => first | (cases hr; done) | cases ho

/-- The rest of the setup changes neither the store nor the reloads. -/
theorem afterLoad_run {storage : Nat} {o : SetupOp} {r : o.Res} (ho : o.afterLoad storage = true)
    (hr : s.runOp t o = some (r, s')) : ∃ tokens pending runtime runtimeClient,
      s' = { s with
        tokens := tokens, pending := pending, runtime := runtime
        runtimeClient := runtimeClient } := by
  cases o with
  | setToken | popPendingTokens | runtimeData | setRuntimeData | uniqueId =>
    cases hr
    exact ⟨_, _, _, _, rfl⟩
  | _ => first | (cases hr; done) | cases ho

/-- The entry's new state and the end of a reload, at whatever stage it is. -/
theorem run_reload (h : Reloading token s Γ) (ht : Γ t = some (g, none)) {o : SetupOp}
    (ho : o = .endReload ∨ ∃ state, o = .setEntryState state) {r : o.Res}
    (hmay : (tokenProtocol token).may g o) (hr : s.runOp t o = some (r, s')) :
    ∃ g', (tokenProtocol token).after g o r = some g' ∧
      Reloading token s' (Function.update Γ t (some (g', none))) := by
  rcases ho with rfl | ⟨state, rfl⟩
  · have hg : g.isActive = true := by cases g <;> exact hmay
    cases hr
    exact ⟨.ended, by cases g <;> rfl, h.ends ht hg⟩
  · cases hr
    exact ⟨g, by cases g <;> rfl, h.same ht rfl rfl rfl rfl rfl rfl rfl rfl rfl rfl⟩

/-- An operation that does not suspend. -/
theorem run (h : Reloading token s Γ)
    (hround : tokenFromDict (tokenToDict token) = .ok (some token)) (ht : Γ t = some (g, none))
    (hothers : ∀ t' g' w, t' ≠ t → Γ t' = some (g', w) → w.isSome = true) {o : SetupOp}
    {r : o.Res} (hmay : (tokenProtocol token).may g o) (hr : s.runOp t o = some (r, s')) :
    ∃ g', (tokenProtocol token).after g o r = some g' ∧
      Reloading token s' (Function.update Γ t (some (g', none))) := by
  by_cases ho : o = .endReload ∨ ∃ state, o = .setEntryState state
  · exact h.run_reload ht ho hmay hr
  have htokens : ∀ {P : Prop} (t' : TaskId) (g' : TokenStage),
      t' ≠ t → Γ t' = some (g', none) → P :=
    fun t' g' hne ht' => nomatch hothers t' g' none hne ht'
  have hended : Reloading token s (Function.update Γ t (some (.ended, none))) :=
    h.quiet le_rfl rfl rfl rfl rfl rfl rfl rfl rfl (fun _ _ _ _ => rfl) trivial
  cases g with
  | asking i =>
    cases o with
    | clientOpen storage =>
      cases hr
      obtain rfl : storage = i := hmay
      cases hopen : s.clients storage with
      | false => exact ⟨.ended, rfl, hended⟩
      | true =>
        refine ⟨.client storage, rfl,
          h.quiet le_rfl rfl rfl rfl rfl rfl rfl rfl rfl (fun _ _ _ _ => rfl) ?_⟩
        rintro rfl
        cases hopen.symm.trans h.clients
    | endReload | setEntryState => cases hmay
    | _ => exact hmay.elim
  | client i =>
    cases o with
    | setToken storage found =>
      cases hr
      exact ⟨.client i, rfl, h.quiet le_rfl rfl rfl rfl rfl rfl rfl rfl rfl htokens
        (h.fits t _ none ht)⟩
    | storeSave | storeRemove => cases hr
    | endReload | setEntryState => cases hmay
    | _ => exact hmay.elim
  | saving =>
    cases o with
    | storeSave => cases hr
    | endReload | setEntryState => cases hmay
    | _ => exact hmay.elim
  | saved =>
    cases o with
    | uniqueId =>
      cases hr
      exact ⟨.saved, rfl, h.same ht rfl rfl rfl rfl rfl rfl rfl rfl rfl rfl⟩
    | updateReloadAndAbort uniqueId username =>
      cases hr
      exact ⟨.ended, rfl, h.schedule ht _ _ _ _⟩
    | endReload | setEntryState => cases hmay
    | _ => exact hmay.elim
  | waiting =>
    cases o with
    | startReload =>
      simp only [TokenStore.runOp] at hr
      split at hr
      · next hfree =>
        cases hr
        exact ⟨.unloading, rfl, h.begins hfree.1 hfree.2⟩
      · cases hr
        exact ⟨.ended, rfl, hended⟩
    | endReload | setEntryState => cases hmay
    | _ => exact hmay.elim
  | unloading =>
    cases o with
    | newStorage =>
      cases hr
      obtain ⟨hlock, hrunning⟩ := h.fits t _ none ht
      exact ⟨.opening s.storages, rfl, h.quiet (Nat.le_succ _) rfl rfl rfl rfl rfl rfl rfl rfl
        (fun _ _ _ _ => rfl) ⟨hlock, hrunning, h.storages.ne'⟩⟩
    | endReload | setEntryState => exact absurd (by simp) ho
    | _ =>
      obtain rfl := unloads_run hmay hr
      exact ⟨.unloading, rfl, h.same ht rfl rfl rfl rfl rfl rfl rfl rfl rfl rfl⟩
  | opening i =>
    cases o with
    | storeLoad => cases hr
    | endReload | setEntryState => exact absurd (by simp) ho
    | _ => exact hmay.elim
  | reading i =>
    cases o with
    | storeContent storage =>
      cases hr
      obtain ⟨hlock, hpast, hstorage, hcontent⟩ := h.fits t _ none ht
      exact ⟨.decoding i (s.content t), rfl, h.quiet le_rfl rfl rfl rfl rfl rfl rfl rfl rfl
        (fun _ _ _ _ => rfl) ⟨hlock, hpast, hstorage, hcontent⟩⟩
    | endReload | setEntryState => exact absurd (by simp) ho
    | _ => exact hmay.elim
  | decoding i data =>
    cases o with
    | setToken storage found =>
      cases hr
      obtain ⟨rfl, hfound⟩ := hmay
      obtain ⟨hlock, hpast, hstorage, rfl⟩ := h.fits t _ none ht
      obtain rfl : some token = found := Except.ok.inj (hround.symm.trans hfound)
      exact ⟨.holding storage, rfl, h.quiet le_rfl rfl rfl rfl rfl rfl rfl rfl rfl htokens
        ⟨hlock, hpast, hstorage, fun _ => Function.update_self ..⟩⟩
    | endReload | setEntryState => exact absurd (by simp) ho
    | _ => exact hmay.elim
  | holding i =>
    cases o with
    | token storage =>
      cases hr
      obtain rfl : storage = i := hmay
      obtain ⟨hlock, hpast, hstorage, hheld⟩ := h.fits t _ none ht
      refine ⟨.loaded storage, rfl, h.move le_rfl rfl (fun found hfound => ?_) h.stored h.asked
        ⟨hlock, hpast, hstorage⟩
        fun t' g' w' _ ht' => fits_frame (h.fits t' g' w' ht') rfl rfl rfl id rfl fun _ => rfl⟩
      rcases List.mem_append.mp hfound with hold | hnew
      · exact h.loads found hold
      · rw [List.mem_singleton.mp hnew]
        exact hheld rfl
    | endReload | setEntryState => exact absurd (by simp) ho
    | _ => exact hmay.elim
  | loaded i =>
    have hafter : o.afterLoad i = true := by
      cases o with
      | endReload | setEntryState => exact absurd (by simp) ho
      | _ => exact hmay
    obtain ⟨tokens, pending, runtime, runtimeClient, rfl⟩ := afterLoad_run hafter hr
    have hstay : (tokenProtocol token).after (.loaded i) o r = some (.loaded i) := by
      cases o <;> first | rfl | cases hafter
    exact ⟨.loaded i, hstay, h.quiet le_rfl rfl rfl rfl rfl rfl rfl rfl rfl htokens
      (h.fits t _ none ht)⟩
  | ended =>
    cases o with
    | endReload | setEntryState => cases hmay
    | _ => exact hmay.elim

theorem park (h : Reloading token s Γ) (ht : Γ t = some (g, none)) (o : SetupOp) :
    Reloading token s (Function.update Γ t (some (g, some o))) := by
  refine h.quiet le_rfl rfl rfl rfl rfl rfl rfl rfl rfl (fun _ _ _ _ => rfl) ?_
  have hfits := h.fits t g none ht
  cases g with
  | holding i => exact ⟨hfits.1, hfits.2.1, hfits.2.2.1, nofun⟩
  | _ => exact hfits

/-- A write of the store takes effect. -/
theorem write (h : Reloading token s Γ) {data : Json} {fresh : Bool}
    (hfresh : s.fresh = true → fresh = true)
    (hdata : ({ s with stored := data, fresh := fresh } : TokenStore).awaitsLoad = true →
      data = tokenToDict token)
    (hfits : TokenStage.Fits token { s with stored := data, fresh := fresh } t w g) :
    Reloading token { s with stored := data, fresh := fresh } (Function.update Γ t (some (g, w))) :=
  h.move le_rfl rfl h.loads hdata (fun hnext => hfresh (h.asked hnext)) hfits
    fun _ _ _ _ ht' => fits_frame (h.fits _ _ _ ht') rfl rfl rfl hfresh rfl fun _ => rfl

/-- The writes of the other storages take effect before the flow's or after the last load. -/
theorem otherWrite (h : Reloading token s Γ) {storage : Nat} (hstorage : storage ≠ flowStorage)
    (data : Json) {written : Bool}
    (hguard : (!(storage != flowStorage && s.awaitsLoad && written)) = true)
    (hfits : ∀ data, TokenStage.Fits token { s with stored := data } t none g) :
    Reloading token
      (if written then { s with stored := data, fresh := s.fresh || storage == flowStorage } else s)
      (Function.update Γ t (some (g, none))) := by
  cases written with
  | false =>
    exact h.quiet le_rfl rfl rfl rfl rfl rfl rfl rfl rfl (fun _ _ _ _ => rfl) (hfits s.stored)
  | true =>
    rw [bne_iff_ne.mpr hstorage, Bool.true_and, Bool.and_true, Bool.not_eq_true'] at hguard
    rw [if_pos rfl, beq_eq_false_iff_ne.mpr hstorage, Bool.or_false]
    refine h.write id (fun hwait => ?_) (hfits data)
    cases hguard.symm.trans hwait

theorem runsOn_suspends (hg : g.runsOn = true) {o : SetupOp}
    (hmay : (tokenProtocol token).may g o) : TokenStore.suspends o = false := by
  cases g with
  | client | saving | unloading | opening | loaded => cases hg
  | _ => cases o <;> first | rfl | cases hmay

/-- A wait that is not one for the store opens or closes a client at most. -/
theorem wake_frame {o : SetupOp} {r : o.Res} (ho : o.onStore = false)
    (hopens : ∀ storage, o = .newCloudClient storage → storage ≠ flowStorage)
    (hw : s.wakeOp t o r = some s') (hclosed : s.clients flowStorage = false) :
    ∃ clients built, s' = { s with clients := clients, built := built } ∧
      clients flowStorage = false := by
  cases o with
  | aclose =>
    cases hw
    cases r with
    | error err => exact ⟨_, _, rfl, hclosed⟩
    | ok u =>
      refine ⟨_, _, rfl, ?_⟩
      rw [Function.update_apply]
      split
      · rfl
      · exact hclosed
  | newCloudClient storage =>
    cases hw
    cases r with
    | error err => exact ⟨_, _, rfl, hclosed⟩
    | ok u => exact ⟨_, _, rfl, (Function.update_of_ne (hopens storage rfl).symm ..).trans hclosed⟩
  | _ =>
    first
    | (cases hw; done)
    | (cases ho; done)
    | cases hw; exact ⟨_, _, rfl, hclosed⟩

/-- A wait of a task that stays at its stage. -/
theorem stays (h : Reloading token s Γ) (ht : Γ t = some (g, w)) {clients : Nat → Bool}
    (hclosed : clients flowStorage = false) (built : TaskId → Option Nat)
    (hg : ∀ storage, g ≠ .holding storage) :
    Reloading token { s with clients := clients, built := built }
      (Function.update Γ t (some (g, none))) := by
  refine h.quiet le_rfl (hclosed.trans h.clients.symm) rfl rfl rfl rfl rfl rfl rfl
    (fun _ _ _ _ => rfl) ?_
  have hfits := h.fits t g w ht
  cases g with
  | holding i => exact absurd rfl (hg i)
  | _ => exact hfits

/-- A wait ends. -/
theorem wake (h : Reloading token s Γ) {o : SetupOp} {r : o.Res} (ht : Γ t = some (g, some o))
    (hmay : (tokenProtocol token).may g o) (hguard : tokenGuard.op t o r s = true)
    (hw : s.wakeOp t o r = some s') :
    ∃ g', (tokenProtocol token).after g o r = some g' ∧
      Reloading token s' (Function.update Γ t (some (g', none))) := by
  have hended : Reloading token s (Function.update Γ t (some (.ended, none))) :=
    h.quiet le_rfl rfl rfl rfl rfl rfl rfl rfl rfl (fun _ _ _ _ => rfl) trivial
  cases g with
  | client i =>
    have hi : i ≠ flowStorage := h.fits t _ _ ht
    cases o with
    | storeSave storage data =>
      cases hw
      obtain rfl : storage = i := hmay
      exact ⟨.client storage, rfl, h.otherWrite hi data hguard fun _ => hi⟩
    | storeRemove storage =>
      cases hw
      obtain rfl : storage = i := hmay
      exact ⟨.client storage, rfl, h.otherWrite hi .null hguard fun _ => hi⟩
    | setToken | endReload | setEntryState => cases hw
    | _ => exact hmay.elim
  | saving =>
    cases o with
    | storeSave storage data =>
      cases hw
      obtain ⟨rfl, rfl⟩ := hmay
      obtain ⟨h0, hasked, hidle⟩ := h.fits t _ _ ht
      refine ⟨_, rfl, ?_⟩
      cases r with
      | error err => exact hended
      | ok u =>
        exact h.write (fun hfresh => by rw [hfresh]; rfl) (fun _ => rfl)
          ⟨h0, hasked, hidle, Bool.or_true _⟩
    | endReload | setEntryState => cases hw
    | _ => exact hmay.elim
  | unloading =>
    cases o with
    | newStorage | endReload | setEntryState => cases hw
    | newCloudClient => cases hmay
    | _ =>
      obtain ⟨clients, built, rfl, hclosed⟩ :=
        wake_frame (by first | rfl | cases hmay) (fun storage ho => by cases ho) hw h.clients
      exact ⟨.unloading, rfl, h.stays ht hclosed built nofun⟩
  | opening i =>
    cases o with
    | storeLoad storage =>
      cases hw
      obtain rfl : storage = i := hmay
      cases r with
      | error err => exact ⟨.opening storage, rfl, h.stays ht h.clients _ nofun⟩
      | ok u => exact ⟨.reading storage, rfl, h.read ht⟩
    | endReload | setEntryState => cases hw
    | _ => exact hmay.elim
  | loaded i =>
    have hfits := h.fits t _ _ ht
    cases o with
    | storeSave storage data =>
      cases hw
      obtain rfl : storage = i := eq_of_beq hmay
      exact ⟨.loaded storage, rfl, h.otherWrite hfits.2.2 data hguard fun _ => hfits⟩
    | storeRemove storage =>
      cases hw
      obtain rfl : storage = i := eq_of_beq hmay
      exact ⟨.loaded storage, rfl, h.otherWrite hfits.2.2 .null hguard fun _ => hfits⟩
    | endReload | setEntryState => cases hw
    | newCloudClient storage =>
      obtain rfl : storage = i := eq_of_beq hmay
      obtain ⟨clients, built, rfl, hclosed⟩ := wake_frame rfl (fun _ heq => by
        cases heq; exact hfits.2.2) hw h.clients
      exact ⟨.loaded storage, rfl, h.stays ht hclosed built nofun⟩
    | _ =>
      obtain ⟨clients, built, rfl, hclosed⟩ :=
        wake_frame (by first | rfl | cases hmay) (fun storage ho => by cases ho) hw h.clients
      exact ⟨.loaded i, rfl, h.stays ht hclosed built nofun⟩
  | asking | saved | waiting | reading | decoding | holding | ended =>
    rw [TokenStore.wakeOp_eq_none (runsOn_suspends rfl hmay)] at hw
    cases hw

/-- A task begins or ends. -/
theorem replace (h : Reloading token s Γ) {v : Option (TokenStage × Option SetupOp)}
    (hv : ∀ g w, v = some (g, w) → TokenStage.Fits token s t w g) :
    Reloading token s (Function.update Γ t v) where
  storages := h.storages
  clients := h.clients
  loads := h.loads
  stored := h.stored
  asked := h.asked
  fits t' g' w' ht' := by
    by_cases hne : t' = t
    · subst hne
      rw [Function.update_self] at ht'
      exact hv g' w' ht'
    · rw [Function.update_of_ne hne] at ht'
      exact h.fits t' g' w' ht'

/-- The invariant along the steps that the guard allows. -/
theorem keeps (str : StrMethods)
    (hround : tokenFromDict (tokenToDict token) = .ok (some token)) :
    Keeps (TokenRequest.prog str) tokenGuard (tokenProtocol token) TokenRequest.start
      (fun _ _ _ => True) (Reloading token) where
  meets req hspawn := by
    refine prog_meets str ?_
    rintro token username rfl
    cases hspawn
  spawn s Γ t req hI _ hspawn := by
    refine hI.replace fun g w hg => ?_
    cases hg
    cases req <;> trivial
  run s Γ t g o r s' hI ht hothers hmay hr _ := hI.run hround ht hothers hmay hr
  park s Γ t g o hI ht _ _ := hI.park ht o
  wake s Γ t g o r s' hI ht hmay hw hG := hI.wake ht hmay hG hw
  finish s Γ t req r g hI _ _ := hI.replace nofun
  env s Γ e s' hI he := nomatch e

end Reloading

section
variable (str : StrMethods) (entry : LoadedEntry) (token : TokenData) (username : String)

/-- The flow waits for its write. -/
def savingView : View (tokenProtocol token) :=
  Function.update (fun _ => none) 0
    (some (.saving, some (.storeSave flowStorage (tokenToDict token))))

theorem init_reloading :
    Reloading token (TokenConfig.init str entry token username).state (savingView token) where
  storages := Nat.one_lt_two
  clients := rfl
  loads found hfound := by cases hfound
  stored h := by cases h
  asked h := by
    rcases h with h | h
    · cases h
    · exact absurd rfl h
  fits t g w ht := by
    by_cases h0 : t = 0
    · subst h0
      cases ht
      exact ⟨rfl, rfl, rfl⟩
    · rw [savingView, Function.update_of_ne h0] at ht
      cases ht

/-- What the flow does after its write. -/
theorem saved_meets : Meets (tokenProtocol token) .saved
    (Su.uniqueId.bind fun current =>
      if some (normalizedUsername str username) ≠ current then
        Su.updateReloadAndAbort (some (normalizedUsername str username)) username
      else Su.updateReloadAndAbort none username) fun _ _ => True := by
  refine ⟨trivial, fun current g hg => ?_⟩
  obtain rfl : TokenStage.saved = g := Option.some.inj hg
  show Meets _ _ (if _ then _ else _) _
  split <;> exact ⟨trivial, fun _ _ _ => trivial⟩

theorem init_tracks :
    Tracks (tokenProtocol token) (fun _ _ _ => True) (TokenConfig.init str entry token username)
      (savingView token) := by
  intro t
  by_cases h0 : t = 0
  · subst h0
    refine ⟨.storeSave flowStorage (tokenToDict token), _, .saving, rfl, rfl, ⟨rfl, rfl⟩,
      fun r g hg => ?_⟩
    obtain rfl := Option.some.inj hg
    cases r with
    | error err => trivial
    | ok u => exact saved_meets str token username
  · have hnone : (TokenConfig.init str entry token username).tasks t = none :=
      Config.put_other _ h0 _ _
    rw [hnone]
    exact Function.update_of_ne h0 ..

end

/-- **The next setups find the validated tokens.** In every run in which no save or clear of another
storage than the flow's takes effect between the flow's write and the load of the last reload that
the flow asks for, every load finds what the flow has validated. -/
theorem reloaded_tokens (str : StrMethods) (entry : LoadedEntry) (accessToken refreshToken : Json)
    (expiresAt : ℚ) (username : String) (ls : List TokenLabel)
    (hls : Runs.Steps (Config.step (TokenRequest.prog str))
      (fun c l => Config.allowed (TokenRequest.prog str) tokenGuard c l = true)
      (TokenConfig.init str entry ⟨accessToken, refreshToken, .finite expiresAt⟩ username) ls) :
    ∀ found ∈ (TokenConfig.run str entry ⟨accessToken, refreshToken, .finite expiresAt⟩ username
        ls).state.loads,
      found = some ⟨accessToken, refreshToken, .finite expiresAt⟩ := by
  have hkeeps := Reloading.keeps str (tokenFromDict_toDict accessToken refreshToken expiresAt)
  obtain ⟨Γ, hI, -⟩ := hkeeps.run_inv
    ⟨_, init_reloading str entry _ username, init_tracks str entry _ username⟩ hls
  exact hI.loads

/-- A wait that ends without an exception; the account has no devices. -/
def succeeds : (o : SetupOp) → Option o.Res
  | .storeLoad _ | .storeSave _ _ | .storeRemove _ | .newCloudClient _ | .aclose
  | .registerDevices _ _ | .addUpdateListener | .forwardEntrySetups | .monitorStop | .keyManagerStop
  | .disconnect _ => some (.ok ())
  | .unloadPlatforms => some (.ok true)
  | .devices => some (.ok [])
  | _ => none

def exampleStr : StrMethods := ⟨id, id⟩

/-- A loaded entry without devices. -/
def exampleEntry : LoadedEntry :=
  ⟨tokenToDict ⟨.str "old", .str "older", .finite 100⟩,
    some ⟨.str "old", .str "older", .finite 100⟩, { keys := [] }, some "user", "user", "user"⟩

/-- The reload of a task, up to the load of its setup. -/
def loadsAgain (t : TaskId) : List TokenLabel :=
  [.spawn t .reload, .resume t succeeds, .resume t succeeds, .resume t succeeds,
    .resume t succeeds]

/-- The rest of the setup. -/
def setsUp (t : TaskId) : List TokenLabel :=
  [.resume t succeeds, .resume t succeeds, .resume t succeeds, .resume t succeeds,
    .resume t succeeds]

/-- A changed username: the old client saves before the flow's write; the update listener's reload
and the scheduled one load, each in its turn; then a removal by the old client and a save by the
last one take effect. -/
def renamed : List TokenLabel :=
  [.spawn 1 (.save 0 ⟨.str "mid", .str "older", .finite 150⟩), .resume 1 succeeds,
    .spawn 2 (.clear 0), .resume 0 succeeds] ++ loadsAgain 3 ++ .spawn 4 .reload :: setsUp 3 ++
    loadsAgain 5 ++ [.resume 5 succeeds, .resume 2 succeeds,
      .spawn 6 (.save 3 ⟨.str "next", .str "newer", .finite 300⟩), .resume 6 succeeds]

theorem reloaded_tokens_renamed :
    (TokenConfig.run exampleStr exampleEntry ⟨.str "new", .str "newer", .finite 200⟩ "other"
        renamed).state.loads.length = 2 ∧
      (TokenConfig.run exampleStr exampleEntry ⟨.str "new", .str "newer", .finite 200⟩ "other"
        renamed).state.stored = tokenToDict ⟨.str "next", .str "newer", .finite 300⟩ ∧
      ∀ found ∈ (TokenConfig.run exampleStr exampleEntry ⟨.str "new", .str "newer", .finite 200⟩
          "other" renamed).state.loads,
        found = some ⟨.str "new", .str "newer", .finite 200⟩ :=
  ⟨by decide +kernel, rfl, reloaded_tokens exampleStr exampleEntry (.str "new") (.str "newer") 200
    "other" renamed (by decide +kernel)⟩

/-- The client drops its tokens while the flow writes; the removal takes effect after the write. -/
def dropped : List TokenLabel :=
  [.spawn 1 (.clear 0), .resume 0 succeeds, .resume 1 succeeds] ++ loadsAgain 2

/-- The next setup finds no tokens. -/
theorem dropped_tokens :
    ¬ ∀ (str : StrMethods) (entry : LoadedEntry) (accessToken refreshToken : Json) (expiresAt : ℚ)
      (username : String) (ls : List TokenLabel),
      ∀ found ∈ (TokenConfig.run str entry ⟨accessToken, refreshToken, .finite expiresAt⟩ username
          ls).state.loads,
        found = some ⟨accessToken, refreshToken, .finite expiresAt⟩ := by
  intro h
  have hloads : (TokenConfig.run exampleStr exampleEntry ⟨.str "new", .str "newer", .finite 200⟩
      "user" dropped).state.loads = [none] := rfl
  have hfound := h exampleStr exampleEntry (.str "new") (.str "newer") 200 "user" dropped none
    (hloads ▸ List.mem_singleton_self none)
  cases hfound

end DanalockBle
