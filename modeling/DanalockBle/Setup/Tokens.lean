import DanalockBle.Flow.System
import Mathlib.Logic.Function.Basic

/-!
# Tokens across a reload

The revalidation of a loaded entry, the cloud clients of its setups and the reloads that follow, as
tasks of the event loop over the entry's store. The update of the entry schedules a reload, and when
it changes the entry, the update listener asks for another; reloads take the setup lock in turn. An
operation on the store takes effect when its wait ends; one that ends in an exception has had no
effect. A call that may raise ends in any way at any time. A setup that was not ready and that Home
Assistant tries again later is left out.
-/

namespace DanalockBle

open Coroutine Coroutine.Coro DanalockTokenStorage

/-- How far the last reload that has started is. -/
inductive ReloadPhase where
  /-- none has started -/
  | idle
  | running
  /-- its setup has read the store, or it has ended -/
  | past
  deriving DecidableEq, Repr

/-- The storage of the flow; that of the running setup has the number 0. -/
def flowStorage : Nat := 1

structure TokenStore where
  /-- the content of the store, `null` when there is no file -/
  stored : Json
  /-- the storages so far -/
  storages : Nat := 1
  /-- the memory of each storage -/
  tokens : Nat → Option TokenData
  /-- what a task has read of the store -/
  content : TaskId → Json := fun _ => .null
  pending : Option TokenData := none
  runtime : Option RuntimeData
  uniqueId : Option String
  title : String
  /-- the username of `entry.data` -/
  username : String
  entryState : EntryState := .loaded
  /-- the storages whose cloud client is open -/
  clients : Nat → Bool := (· == 0)
  /-- the storage of the client that a task has built -/
  built : TaskId → Option Nat := fun _ => none
  /-- the storage of the client in the runtime data -/
  runtimeClient : Nat := 0
  /-- the reloads that have been asked for and have not started -/
  asked : Nat := 0
  /-- the reload that holds the setup lock -/
  lock : Option TaskId := none
  reload : ReloadPhase := .idle
  /-- the flow has written the store -/
  fresh : Bool := false
  /-- what `load` returned after each `async_load` -/
  loads : List (Option TokenData) := []

namespace TokenStore

/-- Whether `async_update_entry` with the flow's values changes the entry. -/
def entryChanges (s : TokenStore) (uniqueId : Option String) (username : String) : Bool :=
  uniqueId.or s.uniqueId != s.uniqueId || s.title != username || s.username != username

/-- The reloads that the update asks for: the scheduled one and, when the entry changes, that of the
update listener, which a loaded entry has. -/
def reloadsAsked (s : TokenStore) (uniqueId : Option String) (username : String) : Nat :=
  if s.entryState = .loaded ∧ s.entryChanges uniqueId username = true then 2 else 1

/-- The operations that do not suspend. -/
def runOp (t : TaskId) (s : TokenStore) : (o : SetupOp) → Option (o.Res × TokenStore)
  | .newStorage => some (s.storages, { s with storages := s.storages + 1 })
  | .token storage => some (s.tokens storage, { s with loads := s.loads ++ [s.tokens storage] })
  | .setToken storage token =>
    some ((), { s with tokens := Function.update s.tokens storage token })
  | .storeContent _ => some (s.content t, s)
  | .popPendingTokens => some (s.pending, { s with pending := none })
  | .runtimeData => some (s.runtime, s)
  | .setRuntimeData runtime =>
    some ((), { s with
      runtime := some runtime, runtimeClient := (s.built t).getD s.runtimeClient })
  | .uniqueId => some (s.uniqueId, s)
  | .updateReloadAndAbort uniqueId username =>
    some ((), { s with
      uniqueId := uniqueId.or s.uniqueId, title := username, username := username
      asked := s.asked + s.reloadsAsked uniqueId username })
  | .clientOpen storage => some (s.clients storage, s)
  | .startReload =>
    if 0 < s.asked ∧ s.lock = none then
      some (true, { s with asked := s.asked - 1, lock := some t, reload := .running })
    else some (false, s)
  | .endReload => some ((), { s with lock := none, reload := .past })
  | .entryState => some (s.entryState, s)
  | .setEntryState state => some ((), { s with entryState := state })
  | _ => none

/-- The operations that wait. -/
def suspends : SetupOp → Bool
  | .newStorage | .token _ | .setToken _ _ | .storeContent _ | .popPendingTokens | .runtimeData
  | .setRuntimeData _ | .uniqueId | .updateReloadAndAbort _ _ | .clientOpen _ | .startReload
  | .endReload | .entryState | .setEntryState _ => false
  | _ => true

/-- The state after a wait that ended without an exception. A client is closed by the setup that has
built it, or by the unload of the runtime data that hold it. -/
def wakeOk (t : TaskId) (s : TokenStore) : SetupOp → TokenStore
  | .storeLoad _ => { s with content := Function.update s.content t s.stored, reload := .past }
  | .storeSave storage data => { s with stored := data, fresh := s.fresh || storage == flowStorage }
  | .storeRemove storage => { s with stored := .null, fresh := s.fresh || storage == flowStorage }
  | .newCloudClient storage =>
    { s with
      clients := Function.update s.clients storage true
      built := Function.update s.built t (some storage) }
  | .aclose =>
    { s with clients := Function.update s.clients ((s.built t).getD s.runtimeClient) false }
  | _ => s

/-- Whether the result is one without an exception. -/
def resultOk : (o : SetupOp) → o.Res → Bool
  | .storeLoad _, r => r.isOk
  | .storeSave _ _, r => r.isOk
  | .storeRemove _, r => r.isOk
  | .newCloudClient _, r => r.isOk
  | .aclose, r => r.isOk
  | _, _ => true

def wakeOp (t : TaskId) (s : TokenStore) (o : SetupOp) (r : o.Res) : Option TokenStore :=
  if suspends o then some (if resultOk o r then s.wakeOk t o else s) else none

end TokenStore

@[reducible] def tokenMachine : Machine setupSig where
  State := TokenStore
  Env := Empty
  run t o s := s.runOp t o
  park _ _ s := s
  wake t o r s := s.wakeOp t o r
  env e _ := nomatch e

/-! ## Tasks -/

/-- What runs as a task. -/
inductive TokenRequest where
  /-- the last step of a reauth or reconfigure flow -/
  | revalidated (token : TokenData) (username : String)
  /-- the cloud client of a storage records a token pair -/
  | save (storage : Nat) (token : TokenData)
  | clear (storage : Nat)
  | reload

/-- `async_unload` of an entry. One that is not loaded needs no unload; one that could not be
unloaded stays as it is. -/
def unloadEntry : Su Bool := do
  let state ← Su.entryState
  match state with
  | .notLoaded => return true
  | .failedUnload => return false
  | .loaded => do
    let unloadOk ← tryExcept asyncUnloadEntry fun _ => return false
    Su.setEntryState (if unloadOk then .notLoaded else .failedUnload)
    return unloadOk

/-- `async_setup` of an entry. -/
def setupEntry : Su Unit := do
  let setupOk ← tryExcept asyncSetupEntry fun _ => return false
  Su.setEntryState (if setupOk then .loaded else .notLoaded)

/-- `async_reload`, under the setup lock; who waits for the lock starts when it is free. -/
def asyncReload : Su Unit := do
  let starts ← Su.startReload
  if starts then
    tryFinally (do
      let unloadOk ← unloadEntry
      if unloadOk then setupEntry else return ()) Su.endReload
  else return ()

/-- A call of an open client. -/
def ofClient (storage : Nat) (c : Su Unit) : Su Unit := do
  let isOpen ← Su.clientOpen storage
  if isOpen then c else return ()

def TokenRequest.prog (str : StrMethods) : TokenRequest → Su Unit
  | revalidated token username =>
    asyncUpdateAfterRevalidation str (do let storage ← Su.newStorage; asyncSave storage token)
      Su.uniqueId (fun uniqueId => Su.updateReloadAndAbort uniqueId username) username
  | save storage token => ofClient storage (DanalockTokenStorage.save storage token)
  | clear storage => ofClient storage (DanalockTokenStorage.clear storage)
  | reload => asyncReload

abbrev TokenConfig := Config tokenMachine PyErr Unit TokenRequest

abbrev TokenLabel := Label tokenMachine TokenRequest

/-- An entry that is loaded: what its store holds, and the storage of the running setup. -/
structure LoadedEntry where
  stored : Json
  token : Option TokenData
  runtime : RuntimeData
  uniqueId : Option String
  title : String
  username : String

namespace TokenConfig

variable (str : StrMethods) (entry : LoadedEntry) (token : TokenData) (username : String)

def loaded : TokenConfig where
  state := {
    stored := entry.stored, tokens := Function.update (fun _ => none) 0 entry.token
    runtime := some entry.runtime, uniqueId := entry.uniqueId, title := entry.title
    username := entry.username }
  tasks _ := none

/-- The flow has validated a token pair. -/
def init : TokenConfig :=
  Config.step (TokenRequest.prog str) (loaded entry) (.spawn 0 (.revalidated token username))

def run (ls : List TokenLabel) : TokenConfig :=
  Runs.exec (Config.step (TokenRequest.prog str)) (init str entry token username) ls

end TokenConfig

end DanalockBle
