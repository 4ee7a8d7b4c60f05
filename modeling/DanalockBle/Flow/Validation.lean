import DanalockBle.Flow.Identity

/-!
# Validated logins

The flows together with the setups of the entries that they create: a setup that finds no stored
tokens takes the token pair that is staged under the unique id of its entry. A ledger records which
logins the cloud has accepted, with at least one device. The stages of a step say what the step
may do with a login (`flow_validating`). The removal of entries is left out, and so are the writes
of the clients of running setups.
-/

namespace DanalockBle

open Coroutine Coroutine.Coro

structure AccountState where
  flow : FlowState
  /-- the token pairs that setups have taken, with the unique ids of their entries -/
  delivered : List (String × TokenData) := []

/-- `_pop_pending_tokens`, in the setup of the entry. -/
def AccountState.popPendingTokens (s : AccountState) (entry : Nat) : AccountState :=
  match uniqueIdAt s.flow.entries entry with
  | none => s
  | some uniqueId =>
    match s.flow.pending.lookup uniqueId with
    | none => s
    | some token =>
      { flow := { s.flow with pending := s.flow.pending.filter (·.1 ≠ uniqueId) }
        delivered := s.delivered ++ [(uniqueId, token)] }

/-- The flows; the environment sets an entry up. -/
@[reducible] def accountMachine : Machine flowSig where
  State := AccountState
  Env := Nat
  run t o s := (s.flow.runOp t o).map fun p => (p.1, { s with flow := p.2 })
  park _ _ s := s
  wake _ o _ s := if FlowState.suspends o then some s else none
  env entry s := some (s.popPendingTokens entry)

/-! ## The ledger -/

structure Ledger where
  /-- the last login of a flow's client -/
  login : TaskId → Option (String × TokenData) := fun _ => none
  /-- the logins with a device -/
  accepted : List (String × TokenData) := []
  staged : List (String × TokenData) := []
  /-- the token pair that a revalidation last saved for an entry -/
  saved : Nat → Option TokenData := fun _ => none
  /-- the clients that a flow has received, and the calls that close them; the executor may finish
  a client for a `new_cloud_client` that was cancelled, which no flow receives or closes -/
  received : TaskId → Nat := fun _ => 0
  closed : TaskId → Nat := fun _ => 0

namespace Ledger

def see (t : TaskId) (o : FlowOp) (r : o.Res) (ledger : Ledger) : Ledger :=
  match o, r with
  | .newCloudClient, .ok _ =>
    { ledger with
      login := Function.update ledger.login t none
      received := Function.update ledger.received t (ledger.received t + 1) }
  | .loginPassword username _, .ok token =>
    { ledger with login := Function.update ledger.login t (some (username, token)) }
  | .devices, .ok (_ :: _) => { ledger with accepted := ledger.accepted ++ (ledger.login t).toList }
  | .aclose, _ => { ledger with closed := Function.update ledger.closed t (ledger.closed t + 1) }
  | .stagePendingTokens uniqueId token, _ =>
    { ledger with staged := ledger.staged ++ [(uniqueId, token)] }
  | .asyncSave entry token, .ok _ =>
    { ledger with saved := Function.update ledger.saved entry (some token) }
  | _, _ => ledger

/-- The cloud has issued the token pair in an accepted login to the account. -/
def Issued (str : StrMethods) (ledger : Ledger) (uniqueId : String) (token : TokenData) : Prop :=
  ∃ username, normalizedUsername str username = uniqueId ∧ (username, token) ∈ ledger.accepted

end Ledger

@[reducible] def ledgerMachine : Machine flowSig :=
  accountMachine.observed fun t o r _ => Ledger.see t o r

/-! ## The stages of a validation -/

/-- What a step knows of its flow: the source, and the id that the step has recorded. -/
structure StepData where
  source : FlowSource
  carried : Option String := none

inductive Validation where
  | ready
  | ended
  /-- no client is open -/
  | running (step : StepData)
  | opened (step : StepData) (login : Option (String × TokenData))
  /-- the account of the login has a device -/
  | listed (step : StepData) (login : String × TokenData)
  /-- and the client is closed -/
  | validated (step : StepData) (login : String × TokenData)
  | saved (step : StepData) (entry : Nat) (login : String × TokenData)
  /-- the unique id of the entry has been read -/
  | found (step : StepData) (entry : Nat) (login : String × TokenData) (current : Option String)

namespace Validation

def data : Validation → Option StepData
  | running step | opened step _ | listed step _ | validated step _ | saved step _ _
  | found step _ _ _ => some step
  | _ => none

/-- The token pair of the login is saved for the entry, whose unique id may be another account's. -/
def saving : Validation → Option (Nat × String × TokenData)
  | saved _ entry login | found _ entry login _ => some (entry, login)
  | _ => none

/-- The results that a step may have. -/
def mayFinish (str : StrMethods) : Validation → FlowResult → Prop
  | running _, .createEntry _ _ => False
  | running _, _ => True
  | validated step login, .createEntry _ username =>
    username = login.1 ∧ step.carried = some (normalizedUsername str login.1)
  | validated _ _, _ => True
  | _, _ => False

/-- A step may end in an exception. -/
def settled : Validation → Prop
  | running _ | validated _ _ | ended => True
  | _ => False

def may (str : StrMethods) : Validation → FlowOp → Prop
  | ready, .startFlow _ => True
  | ready, .source => True
  | running _, .setUniqueId _ => True
  | running _, .uniqueIdConfigured => True
  | running _, .entryUniqueId _ => True
  | running _, .newCloudClient => True
  | opened _ login, .loginPassword _ _ => login = none
  | opened _ login, .devices => login.isSome = true
  | opened _ _, .aclose => True
  | listed _ _, .aclose => True
  | validated _ login, .stagePendingTokens uniqueId token =>
    uniqueId = normalizedUsername str login.1 ∧ token = login.2
  | validated step login, .asyncSave entry token =>
    step.source.target = some entry ∧ token = login.2
  | saved _ entry _, .entryUniqueId entry' => entry' = entry
  | found _ entry login current, .updateEntry entry' uniqueId username =>
    entry' = entry ∧ username = login.1 ∧
      uniqueId.or current = some (normalizedUsername str login.1)
  | g, .finish result => g.mayFinish str result
  | _, _ => False

def next : Validation → (o : FlowOp) → o.Res → Validation
  | ready, .startFlow source, started => if started then running ⟨source, none⟩ else ended
  | ready, .source, some source => running ⟨source, none⟩
  | ready, .source, none => ended
  | running step, .setUniqueId uniqueId, inProgress =>
    if inProgress then running step else running { step with carried := some uniqueId }
  | running step, .newCloudClient, .ok _ => opened step none
  | opened step _, .loginPassword username _, .ok token => opened step (some (username, token))
  | opened step login, .devices, .ok (_ :: _) => login.elim (opened step none) (listed step)
  | opened step _, .aclose, _ => running step
  | listed step login, .aclose, .ok _ => validated step login
  | listed step _, .aclose, .error _ => running step
  | validated step login, .asyncSave entry _, .ok _ => saved step entry login
  | saved step entry login, .entryUniqueId _, current => found step entry login current
  | found step _ _ _, .updateEntry _ _ _, _ => running step
  | _, .finish _, _ => ended
  | g, _, _ => g

theorem may_finish {str : StrMethods} {g : Validation} {result : FlowResult} :
    g.may str (.finish result) ↔ g.mayFinish str result := by
  cases g <;> exact Iff.rfl

theorem next_finish (g : Validation) (result : FlowResult) (u : Unit) :
    g.next (.finish result) u = ended := by
  cases g <;> rfl

theorem settled_of_mayFinish {str : StrMethods} {g : Validation} {result : FlowResult}
    (h : g.mayFinish str result) : g.settled := by
  cases g <;> trivial

end Validation

@[reducible] def validating (str : StrMethods) : Protocol flowSig where
  Ghost := Validation
  may := Validation.may str
  after g o r := some (g.next o r)

section
variable {str : StrMethods} {step : StepData} {username password : String}

theorem login_meets : Meets (validating str) (.opened step none) (login username password)
    fun r g => match r with
      | .ok (token, summaries) =>
        g = if summaries.isEmpty then .opened step (some (username, token))
          else .listed step (username, token)
      | .error _ => ∃ login, g = .opened step login := by
  refine ⟨rfl, fun r g hg => ?_⟩
  obtain rfl := Option.some.inj hg
  cases r with
  | error err => exact ⟨none, rfl⟩
  | ok token =>
    refine ⟨rfl, fun r g hg => ?_⟩
    obtain rfl := Option.some.inj hg
    cases r with
    | error err => exact ⟨some (username, token), rfl⟩
    | ok summaries => cases summaries <;> rfl

theorem loginFailed_meets {α : Type} (err : PyErr) {login : Option (String × TokenData)}
    {Q : Except PyErr α → Validation → Prop}
    (hQ : ∀ err', Q (.error err') (.opened step login)) :
    Meets (validating str) (.opened step login) (loginFailed err : Fl α) Q := by
  unfold loginFailed
  split
  · exact hQ _
  · split
    · exact hQ _
    · split <;> exact hQ _

/-- The client is closed. -/
theorem aclose_meets {g : Validation} {Q : Except PyErr Unit → Validation → Prop}
    (hmay : g.may str .aclose) (hQ : ∀ r, Q r (g.next .aclose r)) :
    Meets (validating str) g Fl.aclose Q := by
  refine ⟨hmay, fun r g hg => ?_⟩
  obtain rfl := Option.some.inj hg
  cases r <;> exact hQ _

/-- A token pair comes with an accepted login of the username, and the client is closed. -/
theorem asyncValidate_meets :
    Meets (validating str) (.running step) (asyncValidate username password) fun r g =>
      match r with
      | .ok token => g = .validated step (username, token)
      | .error _ => g = .running step := by
  refine ⟨trivial, fun r g hg => ?_⟩
  obtain rfl := Option.some.inj hg
  cases r with
  | error err => rfl
  | ok u =>
    have hlogin : Meets (validating str) (.opened step none)
        (tryExcept (login username password) loginFailed) fun r g => match r with
          | .ok (token, summaries) =>
            g = if summaries.isEmpty then .opened step (some (username, token))
              else .listed step (username, token)
          | .error _ => ∃ login, g = .opened step login := by
      refine Meets.tryExcept (login_meets.mono fun r g hr => ?_)
      cases r with
      | ok found => exact hr
      | error err =>
        obtain ⟨login, rfl⟩ := hr
        exact loginFailed_meets err fun _ => ⟨login, rfl⟩
    refine Meets.tryFinally (Meets.bind (hlogin.mono fun r g hr => ?_))
    cases r with
    | error err =>
      obtain ⟨login, rfl⟩ := hr
      exact aclose_meets trivial fun r => by cases r <;> rfl
    | ok found =>
      obtain ⟨token, summaries⟩ := found
      subst hr
      cases summaries with
      | nil => exact aclose_meets trivial fun r => by cases r <;> rfl
      | cons summary summaries =>
        exact aclose_meets trivial fun r => by cases r <;> rfl

theorem orBase_meets : Meets (validating str) (.running step)
    (orBase (asyncValidate username password)) fun r g =>
      match r with
      | .ok (.ok token) => g = .validated step (username, token)
      | _ => g = .running step := by
  refine Meets.tryExcept (Meets.bind (asyncValidate_meets.mono fun r g hr => ?_))
  cases r with
  | ok token => exact hr
  | error err =>
    subst hr
    dsimp only
    split <;> rfl

/-- How a step ends. -/
def Validation.Stepped (str : StrMethods) (r : Except PyErr FlowResult) (g : Validation) : Prop :=
  match r with
  | .ok result => g.mayFinish str result
  | .error _ => ∀ reason, g.mayFinish str (.abort reason)

/-- A failed validation leads to the form. -/
theorem validation_meets {f : Except String TokenData → Fl FlowResult}
    (hform : ∀ base, ∃ stepId errors, f (.error base) = .ret (.form stepId errors))
    (hf : ∀ token, Meets (validating str) (.validated step (username, token)) (f (.ok token))
      (Validation.Stepped str)) :
    Meets (validating str) (.running step) ((orBase (asyncValidate username password)).bind f)
      (Validation.Stepped str) := by
  refine Meets.bind (orBase_meets.mono fun r g hr => ?_)
  cases r with
  | error err =>
    subst hr
    exact fun _ => trivial
  | ok validated =>
    cases validated with
    | ok token =>
      subst hr
      exact hf token
    | error base =>
      subst hr
      obtain ⟨stepId, errors, hform⟩ := hform base
      show Meets _ _ (f (.error base)) _
      rw [hform]
      trivial

/-- What comes after the duplicate check. -/
theorem recorded_meets {α : Type} {uniqueId : String} {c : Fl α}
    {Q : Except PyErr α → Validation → Prop}
    (hc : Meets (validating str) (.running { step with carried := some uniqueId }) c Q)
    (hQ : ∀ err carried, Q (.error err) (.running { step with carried := carried })) :
    Meets (validating str) (.running step)
      ((asyncSetUniqueId uniqueId).bind fun _ => abortIfUniqueIdConfigured.bind fun _ => c) Q := by
  refine ⟨trivial, fun inProgress g hg => ?_⟩
  obtain rfl := Option.some.inj hg
  cases inProgress with
  | true => exact hQ _ _
  | false =>
    refine ⟨trivial, fun configured g hg => ?_⟩
    obtain rfl := Option.some.inj hg
    cases configured with
    | true => exact hQ _ _
    | false => exact hc

theorem stepUser_meets (input : Option UserInput) :
    Meets (validating str) (.running step) (asyncStepUser str input)
      (Validation.Stepped str) := by
  cases input with
  | none => trivial
  | some input =>
    show Meets _ _ ((asyncSetUniqueId _).bind fun _ => abortIfUniqueIdConfigured.bind fun _ =>
      (orBase (asyncValidate (str.strip input.username) input.password)).bind _) _
    refine recorded_meets (validation_meets (fun base => ⟨_, _, rfl⟩) fun token => ?_)
      fun err carried reason => trivial
    refine ⟨⟨rfl, rfl⟩, fun u g hg => ?_⟩
    obtain rfl := Option.some.inj hg
    exact ⟨rfl, rfl⟩

theorem updated_meets {entry : Nat} {token : TokenData} {current : Option String}
    (source : FlowSource) {uniqueId : Option String}
    (hid : uniqueId.or current = some (normalizedUsername str username)) :
    Meets (validating str) (.found step entry (username, token) current)
      (updateReloadAndAbort source entry username uniqueId) (Validation.Stepped str) := by
  refine ⟨⟨rfl, rfl, hid⟩, fun u g hg => ?_⟩
  obtain rfl := Option.some.inj hg
  exact trivial

theorem afterRevalidation_meets {entry : Nat} (htarget : step.source.target = some entry)
    (token : TokenData) (source : FlowSource) :
    Meets (validating str) (.validated step (username, token))
      (asyncUpdateAfterRevalidation str (Fl.asyncSave entry token) (Fl.entryUniqueId entry)
        (updateReloadAndAbort source entry username) username) (Validation.Stepped str) := by
  refine ⟨⟨htarget, rfl⟩, fun r g hg => ?_⟩
  obtain rfl := Option.some.inj hg
  cases r with
  | error err => exact fun _ => trivial
  | ok u =>
    refine ⟨rfl, fun current g hg => ?_⟩
    obtain rfl := Option.some.inj hg
    show Meets _ _ (if _ then _ else _) _
    split
    · exact updated_meets source rfl
    · next hsame => exact updated_meets source (not_not.mp hsame).symm

theorem checked_meets (entry : Nat) (uniqueId : String) :
    Meets (validating str) (.running step) (checkUniqueId entry uniqueId) fun _ g =>
      ∃ step' : StepData, g = .running step' ∧ step'.source = step.source := by
  refine ⟨trivial, fun current g hg => ?_⟩
  obtain rfl := Option.some.inj hg
  show Meets _ _ (if _ then _ else _) _
  split
  · show Meets _ _ ((asyncSetUniqueId _).bind fun _ => abortIfUniqueIdConfigured) _
    rw [← bind_ret abortIfUniqueIdConfigured]
    exact recorded_meets (c := .ret ()) ⟨_, rfl, rfl⟩ fun err carried => ⟨_, rfl, rfl⟩
  · exact ⟨step, rfl, rfl⟩

theorem revalidation_meets {entry : Nat} (htarget : step.source.target = some entry)
    (source : FlowSource) (stepId : String) (input : Option UserInput) :
    Meets (validating str) (.running step) (asyncRevalidationStep str source entry stepId input)
      (Validation.Stepped str) := by
  cases input with
  | none => trivial
  | some input =>
    show Meets _ _ ((checkUniqueId entry _).bind fun _ =>
      (orBase (asyncValidate (str.strip input.username) input.password)).bind _) _
    refine Meets.bind ((checked_meets entry _).mono fun r g hr => ?_)
    obtain ⟨step', rfl, hsource⟩ := hr
    cases r with
    | error err => exact fun _ => trivial
    | ok u =>
      refine validation_meets (fun base => ⟨_, _, rfl⟩) fun token => ?_
      exact afterRevalidation_meets (hsource ▸ htarget) token source

theorem flowStep_validating (source : FlowSource) (input : Option UserInput) :
    Meets (validating str) (.running ⟨source, none⟩) (flowStep str source input)
      (Validation.Stepped str) := by
  cases source with
  | user => exact stepUser_meets input
  | reauth entry => exact revalidation_meets rfl _ _ input
  | reconfigure entry => exact revalidation_meets rfl _ _ input

theorem handleStep_validating {step : Fl FlowResult} {g : Validation}
    (hstep : Meets (validating str) g step (Validation.Stepped str)) :
    Meets (validating str) g (handleStep step) fun _ g => g.settled := by
  have hfinish : ∀ (g : Validation) result, g.mayFinish str result →
      Meets (validating str) g (Fl.finish result) fun _ g => g.settled := by
    intro g result hmay
    refine ⟨Validation.may_finish.mpr hmay, fun u g' hg => ?_⟩
    obtain rfl := Option.some.inj hg
    rw [Validation.next_finish]
    trivial
  refine Meets.bind (Meets.mono (Q := fun r (g : Validation) => match r with
    | .ok result => g.mayFinish str result
    | .error _ => g.settled) (fun r g hr => ?_) (Meets.tryExcept (hstep.mono fun r g hr => ?_)))
  · cases r with
    | ok result => exact hfinish g result hr
    | error err => exact hr
  · cases r with
    | ok result => exact hr
    | error err =>
      dsimp only
      split
      · exact hr _
      · exact Validation.settled_of_mayFinish (hr "")

theorem flow_validating (req : FlowRequest) :
    Meets (validating str) .ready (req.prog str) fun _ g => g.settled := by
  cases req with
  | init source =>
    refine ⟨trivial, fun started g hg => ?_⟩
    obtain rfl := Option.some.inj hg
    cases started with
    | false => trivial
    | true => exact handleStep_validating (flowStep_validating source none)
  | submit input =>
    refine ⟨trivial, fun found g hg => ?_⟩
    obtain rfl := Option.some.inj hg
    cases found with
    | none => trivial
    | some source => exact handleStep_validating (flowStep_validating source (some input))

end

end DanalockBle
