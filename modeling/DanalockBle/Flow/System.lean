import DanalockBle.Lib.Scheduler
import DanalockBle.Setup.Entry

/-!
# Config flows

The login steps of the config flow (`config_flow.py`) and the flow manager that runs them: any
number of flows over the config entries of the integration. A flow has the id of the task that runs
its steps; it is in progress from its start until a step ends it, and its steps run one at a time.
The forms' schemas are left out.
-/

namespace DanalockBle

open Coroutine Coroutine.Coro

/-! ## Account names -/

/-- `str.strip` and `str.lower`. -/
structure StrMethods where
  strip : String → String
  lower : String → String

/-- Entry identity form of a username. -/
def normalizedUsername (str : StrMethods) (username : String) : String :=
  str.lower (str.strip username)

/-! ## The end of a revalidation -/

/-- `_async_update_after_revalidation`, over the operations of the flow that runs it: the tokens are
saved, then the entry is updated; a changed username moves the unique id. -/
def asyncUpdateAfterRevalidation {S : Sig} {α : Type} (str : StrMethods)
    (asyncSave : Coro S PyErr Unit) (entryUniqueId : Coro S PyErr (Option String))
    (updateReloadAndAbort : Option String → Coro S PyErr α) (username : String) :
    Coro S PyErr α := do
  asyncSave
  let current ← entryUniqueId
  let uniqueId := normalizedUsername str username
  if some uniqueId ≠ current then updateReloadAndAbort (some uniqueId)
  else updateReloadAndAbort none

/-! ## Flows -/

/-- What a flow was started for; an entry is its position in the list of entries. -/
inductive FlowSource where
  | user
  | reauth (entry : Nat)
  | reconfigure (entry : Nat)
  deriving DecidableEq, Repr

/-- The entry that a flow updates. -/
def FlowSource.target : FlowSource → Option Nat
  | user => none
  | reauth entry | reconfigure entry => some entry

structure UserInput where
  username : String
  password : String

inductive FlowResult where
  | form (stepId : String) (base : Option String)
  | createEntry (title username : String)
  | abort (reason : String)

/-! ## Operations -/

inductive FlowOp where
  | startFlow (source : FlowSource)
  /-- the source of the flow, while it is in progress -/
  | source
  /-- `async_set_unique_id`: whether another flow in progress carries the id -/
  | setUniqueId (uniqueId : String)
  /-- whether an entry has the flow's id -/
  | uniqueIdConfigured
  | newCloudClient
  /-- the pair that the login leaves in the client's memory -/
  | loginPassword (username password : String)
  | devices
  | aclose
  | stagePendingTokens (uniqueId : String) (token : TokenData)
  | entryUniqueId (entry : Nat)
  | asyncSave (entry : Nat) (token : TokenData)
  /-- the write of `async_update_reload_and_abort` -/
  | updateEntry (entry : Nat) (uniqueId : Option String) (username : String)
  /-- the flow manager handles the result of a step -/
  | finish (result : FlowResult)

@[reducible] def FlowOp.Res : FlowOp → Type
  | startFlow _ | setUniqueId _ | uniqueIdConfigured => Bool
  | source => Option FlowSource
  | loginPassword _ _ => Except PyErr TokenData
  | devices => Except PyErr (List DeviceSummary)
  | newCloudClient | aclose | asyncSave _ _ => Except PyErr Unit
  | entryUniqueId _ => Option String
  | stagePendingTokens _ _ | updateEntry _ _ _ | finish _ => Unit

abbrev flowSig : Sig := ⟨FlowOp, FlowOp.Res⟩

/-- A coroutine of the config flow. -/
abbrev Fl (α : Type) := Coro flowSig PyErr α

namespace Fl

def startFlow (source : FlowSource) : Fl Bool := .op (.startFlow source) .ret
def source : Fl (Option FlowSource) := .op .source .ret
def setUniqueId (uniqueId : String) : Fl Bool := .op (.setUniqueId uniqueId) .ret
def uniqueIdConfigured : Fl Bool := .op .uniqueIdConfigured .ret
def newCloudClient : Fl Unit := .op .newCloudClient .ofResult
def loginPassword (username password : String) : Fl TokenData :=
  .op (.loginPassword username password) .ofResult
def devices : Fl (List DeviceSummary) := .op .devices .ofResult
def aclose : Fl Unit := .op .aclose .ofResult
def stagePendingTokens (uniqueId : String) (token : TokenData) : Fl Unit :=
  .op (.stagePendingTokens uniqueId token) .ret
def entryUniqueId (entry : Nat) : Fl (Option String) := .op (.entryUniqueId entry) .ret
def asyncSave (entry : Nat) (token : TokenData) : Fl Unit :=
  .op (.asyncSave entry token) .ofResult
def updateEntry (entry : Nat) (uniqueId : Option String) (username : String) : Fl Unit :=
  .op (.updateEntry entry uniqueId username) .ret
def finish (result : FlowResult) : Fl Unit := .op (.finish result) .ret

end Fl

/-! ## Steps -/

def abortFlow (reason : String) : PyErr := .other "AbortFlow" reason

/-- `_ValidationError` -/
def validationError (base : String) : PyErr := .other "_ValidationError" base

/-- The argument of an exception of the class. -/
def PyErr.argument (cls : String) : PyErr → Option String
  | .other cls' text => if cls' = cls then some text else none
  | _ => none

/-- `async_set_unique_id` -/
def asyncSetUniqueId (uniqueId : String) : Fl Unit := do
  let inProgress ← Fl.setUniqueId uniqueId
  if inProgress then raise (abortFlow "already_in_progress") else return ()

/-- `_abort_if_unique_id_configured` -/
def abortIfUniqueIdConfigured : Fl Unit := do
  let configured ← Fl.uniqueIdConfigured
  if configured then raise (abortFlow "already_configured") else return ()

/-- `async_update_reload_and_abort` -/
def updateReloadAndAbort (source : FlowSource) (entry : Nat) (username : String)
    (uniqueId : Option String) : Fl FlowResult := do
  Fl.updateEntry entry uniqueId username
  return .abort (match source with
    | .reconfigure _ => "reconfigure_successful"
    | _ => "reauth_successful")

/-- The error base of a failed login. -/
def loginFailed {α : Type} (err : PyErr) : Fl α :=
  match err with
  | .authError _ => raise (validationError "invalid_auth")
  | err =>
    if err.isCloud then raise (validationError "cannot_connect")
    else if err.isException then raise (validationError "unknown")
    else raise err

/-- Login and device list of the client. -/
def login (username password : String) : Fl (TokenData × List DeviceSummary) := do
  let token ← Fl.loginPassword username password
  let summaries ← Fl.devices
  return (token, summaries)

/-- Run login and key retrieval; the client is always closed. -/
def asyncValidate (username password : String) : Fl TokenData := do
  Fl.newCloudClient
  tryFinally (do
    let (token, summaries) ← tryExcept (login username password) loginFailed
    if summaries.isEmpty then raise (validationError "no_keys") else return token) Fl.aclose

/-- `try: .. except _ValidationError as err: errors["base"] = err.base` -/
def orBase (c : Fl TokenData) : Fl (Except String TokenData) :=
  tryExcept (do let token ← c; return .ok token) fun err =>
    match err.argument "_ValidationError" with
    | some base => return .error base
    | none => raise err

section
variable (str : StrMethods)

/-- Handle the initial login step. -/
def asyncStepUser : Option UserInput → Fl FlowResult
  | none => return .form "user" none
  | some input => do
    let username := str.strip input.username
    let uniqueId := normalizedUsername str username
    asyncSetUniqueId uniqueId
    abortIfUniqueIdConfigured
    let validated ← orBase (asyncValidate username input.password)
    match validated with
    | .error base => return .form "user" (some base)
    | .ok token => do
      Fl.stagePendingTokens uniqueId token
      return .createEntry username username

/-- The duplicate check, unless the username is that of the entry. -/
def checkUniqueId (entry : Nat) (uniqueId : String) : Fl Unit := do
  let current ← Fl.entryUniqueId entry
  if some uniqueId ≠ current then do
    asyncSetUniqueId uniqueId
    abortIfUniqueIdConfigured
  else return ()

/-- Shared reauth and reconfigure form. -/
def asyncRevalidationStep (source : FlowSource) (entry : Nat) (stepId : String) :
    Option UserInput → Fl FlowResult
  | none => return .form stepId none
  | some input => do
    let username := str.strip input.username
    checkUniqueId entry (normalizedUsername str username)
    let validated ← orBase (asyncValidate username input.password)
    match validated with
    | .error base => return .form stepId (some base)
    | .ok token =>
      asyncUpdateAfterRevalidation str (Fl.asyncSave entry token) (Fl.entryUniqueId entry)
        (updateReloadAndAbort source entry username) username

/-- The step of a flow of the source. -/
def flowStep (source : FlowSource) : Option UserInput → Fl FlowResult :=
  match source with
  | .user => asyncStepUser str
  | .reauth entry => asyncRevalidationStep str source entry "reauth_confirm"
  | .reconfigure entry => asyncRevalidationStep str source entry "reconfigure"

/-- The flow manager runs a step; `AbortFlow` is a result too. -/
def handleStep (step : Fl FlowResult) : Fl Unit := do
  let result ← tryExcept step fun err =>
    match err.argument "AbortFlow" with
    | some reason => return .abort reason
    | none => raise err
  Fl.finish result

inductive FlowRequest where
  | init (source : FlowSource)
  | submit (input : UserInput)

def FlowRequest.prog : FlowRequest → Fl Unit
  | init source => do
    let started ← Fl.startFlow source
    if started then handleStep (flowStep str source none) else return ()
  | submit input => do
    let source ← Fl.source
    match source with
    | some source => handleStep (flowStep str source (some input))
    | none => raise (.other "UnknownFlow" "")

end

/-! ## The entries and the flows in progress -/

structure ConfigEntry where
  uniqueId : Option String
  title : String
  username : String

structure FlowContext where
  source : FlowSource
  uniqueId : Option String

structure FlowState where
  entries : List ConfigEntry
  flows : List (TaskId × FlowContext) := []
  pending : List (String × TokenData) := []

/-- The unique id of an entry. -/
def uniqueIdAt (entries : List ConfigEntry) (i : Nat) : Option String :=
  entries[i]?.bind (·.uniqueId)

namespace FlowState

variable (s : FlowState) (t : TaskId)

/-- Another flow in progress carries the id. -/
def carriedElsewhere (uniqueId : String) : Bool :=
  s.flows.any fun p => p.1 != t && p.2.uniqueId == some uniqueId

def context : Option FlowContext := s.flows.lookup t

/-- The flow carries the id. -/
def record (uniqueId : String) : FlowState :=
  { s with flows := s.flows.map fun p =>
      if p.1 = t then (p.1, { p.2 with uniqueId := some uniqueId }) else p }

/-- The flow has ended. -/
def remove : FlowState := { s with flows := s.flows.filter (·.1 ≠ t) }

/-- The context of a flow that starts: a reauth flow carries the id of its entry. -/
def startContext (source : FlowSource) : Option FlowContext :=
  match source with
  | .user => some ⟨source, none⟩
  | .reauth entry => s.entries[entry]?.map fun e => ⟨source, e.uniqueId⟩
  | .reconfigure entry => s.entries[entry]?.map fun _ => ⟨source, none⟩

def handle : FlowResult → FlowState
  | .form _ _ => s
  | .abort _ => s.remove t
  | .createEntry title username =>
    { s.remove t with
      entries := s.entries ++ [⟨(s.context t).bind (·.uniqueId), title, username⟩] }

/-- The operations that do not suspend. -/
def runOp : (o : FlowOp) → Option (o.Res × FlowState)
  | .startFlow source =>
    match s.context t, s.startContext source with
    | none, some context => some (true, { s with flows := (t, context) :: s.flows })
    | _, _ => some (false, s)
  | .source => some ((s.context t).map (·.source), s)
  | .setUniqueId uniqueId =>
    if s.carriedElsewhere t uniqueId then some (true, s) else some (false, s.record t uniqueId)
  | .uniqueIdConfigured =>
    match (s.context t).bind (·.uniqueId) with
    | some uniqueId => some (s.entries.any (·.uniqueId == some uniqueId), s)
    | none => some (false, s)
  | .stagePendingTokens uniqueId token =>
    some ((), { s with pending := dictSet s.pending uniqueId token })
  | .entryUniqueId entry => some (uniqueIdAt s.entries entry, s)
  | .updateEntry entry uniqueId username =>
    some ((), { s with entries := s.entries.modify entry fun e =>
      ⟨uniqueId.or e.uniqueId, username, username⟩ })
  | .finish result => some ((), s.handle t result)
  | _ => none

/-- The operations that wait; what they do is outside. -/
def suspends : FlowOp → Bool
  | .newCloudClient | .loginPassword _ _ | .devices | .aclose | .asyncSave _ _ => true
  | _ => false

end FlowState

@[reducible] def flowMachine : Machine flowSig where
  State := FlowState
  Env := Empty
  run t o s := s.runOp t o
  park _ _ s := s
  wake _ o _ s := if FlowState.suspends o then some s else none
  env e _ := nomatch e

abbrev FlowConfig := Config flowMachine PyErr Unit FlowRequest

abbrev FlowLabel := Label flowMachine FlowRequest

namespace FlowConfig

def init (entries : List ConfigEntry) : FlowConfig := ⟨{ entries := entries }, fun _ => none⟩

def run (str : StrMethods) (entries : List ConfigEntry) (ls : List FlowLabel) : FlowConfig :=
  Runs.exec (Config.step (FlowRequest.prog str)) (init entries) ls

end FlowConfig

end DanalockBle
