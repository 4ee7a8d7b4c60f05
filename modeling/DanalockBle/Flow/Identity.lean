import DanalockBle.Flow.System

/-!
# One entry per account

No two entries get the same unique id, as long as every id that a revalidation writes is carried by
its flow or would pass the duplicate check at that moment (`uniqueIds_run`). Between the check and
the write the id belongs to the flow: no entry but the flow's own has it, and no other flow but one
for the same entry carries it (`Identities`).
-/

namespace DanalockBle

open Coroutine Coroutine.Coro

/-! ## The stages of a step -/

/-- How far a step is. -/
inductive FlowStage where
  | ready
  | running (source : FlowSource)
  /-- the flow carries an id that has not been looked up among the entries -/
  | recorded (source : FlowSource)
  | ended

@[reducible] def flowProtocol : Protocol flowSig where
  Ghost := FlowStage
  may
    | .ready, .startFlow _ => True
    | .ready, .source => True
    | .running _, .setUniqueId _ => True
    | .running _, .entryUniqueId _ => True
    | .running source, .updateEntry entry _ _ => source.target = some entry
    | .running source, .finish (.createEntry _ _) => source = .user
    | .running _, .finish _ => True
    | .running _, .stagePendingTokens _ _ => True
    | .running _, o => FlowState.suspends o = true
    | .recorded _, .uniqueIdConfigured => True
    | .recorded _, .finish (.abort _) => True
    | _, _ => False
  after
    | .ready, .startFlow source, started => some (if started then .running source else .ended)
    | .ready, .source, found => some (match found with
      | some source => .running source
      | none => .ended)
    | .running source, .setUniqueId _, inProgress =>
      some (if inProgress then .running source else .recorded source)
    | .recorded source, .uniqueIdConfigured, configured =>
      some (if configured then .recorded source else .running source)
    | _, .finish _, _ => some .ended
    | g, _, _ => some g

/-- A step that ends has looked up the id it carries. -/
def FlowStage.settled : FlowStage → Prop
  | recorded _ => False
  | _ => True

/-- How the parts of a step end: an exception that leaves the id unchecked is `AbortFlow`. -/
def FlowStage.Ends {α : Type} (source : FlowSource) (r : Except PyErr α) (g : FlowStage) : Prop :=
  g = .running source ∨ g = .recorded source ∧ ∃ reason, r = .error (abortFlow reason)

section
variable {source : FlowSource}

/-- Operations that leave a running step where it is. -/
theorem running_meets {α : Type} {c : Fl α}
    (hc : Only (fun o => FlowState.suspends o = true) c) :
    Meets flowProtocol (.running source) c fun _ g => g = .running source := by
  refine hc.meets (P := flowProtocol) (J := fun g => g = .running source) (g := .running source)
    (fun g o hg ho => ?_) (fun g o r g' hg ho hr => ?_) rfl
  · subst hg
    cases o <;> first | exact ho | cases ho
  · subst hg
    cases o <;> first | exact (Option.some.inj hr).symm | cases ho

theorem asyncValidate_suspends (username password : String) :
    Only (fun o => FlowState.suspends o = true) (asyncValidate username password) := by
  have hlogin : Only (fun o => FlowState.suspends o = true) (login username password) :=
    Only.bind (.op rfl .ofResult) fun _ => Only.bind (.op rfl .ofResult) fun _ => trivial
  have hfailed : ∀ err, Only (fun o => FlowState.suspends o = true)
      (loginFailed err : Fl (TokenData × List DeviceSummary)) := by
    intro err
    cases err <;> trivial
  refine Only.bind (.op rfl .ofResult) fun _ => Only.tryFinally
    (Only.bind (Only.tryExcept hlogin hfailed) fun found => ?_) (.op rfl .ofResult)
  obtain ⟨token, summaries⟩ := found
  cases summaries <;> trivial

theorem orBase_suspends {c : Fl TokenData} (hc : Only (fun o => FlowState.suspends o = true) c) :
    Only (fun o => FlowState.suspends o = true) (orBase c) := by
  refine Only.tryExcept (Only.bind hc fun _ => trivial) fun err => ?_
  cases err.argument "_ValidationError" <;> trivial

theorem validated_meets (username password : String) :
    Meets flowProtocol (.running source) (orBase (asyncValidate username password))
      fun _ g => g = .running source :=
  running_meets (orBase_suspends (asyncValidate_suspends username password))

theorem asyncSetUniqueId_meets (uniqueId : String) :
    Meets flowProtocol (.running source) (asyncSetUniqueId uniqueId) fun r g =>
      match r with
      | .ok _ => g = .recorded source
      | .error _ => g = .running source := by
  refine ⟨trivial, fun inProgress g hg => ?_⟩
  obtain rfl := Option.some.inj hg
  cases inProgress <;> rfl

theorem abortIfUniqueIdConfigured_meets :
    Meets flowProtocol (.recorded source) abortIfUniqueIdConfigured fun r g =>
      match r with
      | .ok _ => g = .running source
      | .error err => g = .recorded source ∧ ∃ reason, err = abortFlow reason := by
  refine ⟨trivial, fun configured g hg => ?_⟩
  obtain rfl := Option.some.inj hg
  cases configured with
  | true => exact ⟨rfl, _, rfl⟩
  | false => rfl

/-- What comes after the duplicate check. -/
theorem check_meets {α : Type} {uniqueId : String} {c : Fl α}
    {Q : Except PyErr α → FlowStage → Prop} (hc : Meets flowProtocol (.running source) c Q)
    (hQ : ∀ r g, r.isOk = false → FlowStage.Ends source r g → Q r g) :
    Meets flowProtocol (.running source)
      ((asyncSetUniqueId uniqueId).bind fun _ => abortIfUniqueIdConfigured.bind fun _ => c) Q := by
  refine Meets.bind ((asyncSetUniqueId_meets uniqueId).mono fun r g hr => ?_)
  cases r with
  | error err => exact hQ _ _ rfl (.inl hr)
  | ok u =>
    subst hr
    refine Meets.bind (abortIfUniqueIdConfigured_meets.mono fun r g hr => ?_)
    cases r with
    | ok u =>
      subst hr
      exact hc
    | error err =>
      obtain ⟨rfl, reason, rfl⟩ := hr
      exact hQ _ _ rfl (.inr ⟨rfl, reason, rfl⟩)

/-- How a step ends; only a user step creates an entry. -/
def FlowStage.Stepped (source : FlowSource) (r : Except PyErr FlowResult) (g : FlowStage) : Prop :=
  FlowStage.Ends source r g ∧
    ∀ title username, r = .ok (.createEntry title username) → source = .user

/-- What comes after the validation. -/
theorem afterValidation_meets {username password : String}
    {f : Except String TokenData → Fl FlowResult}
    (hf : ∀ validated, Meets flowProtocol (.running source) (f validated)
      (FlowStage.Stepped source)) :
    Meets flowProtocol (.running source) ((orBase (asyncValidate username password)).bind f)
      (FlowStage.Stepped source) := by
  refine Meets.bind ((validated_meets username password).mono fun r g hr => ?_)
  subst hr
  cases r with
  | error err => exact ⟨.inl rfl, nofun⟩
  | ok validated => exact hf validated

theorem asyncStepUser_meets (str : StrMethods) (input : Option UserInput) :
    Meets flowProtocol (.running .user) (asyncStepUser str input) (FlowStage.Stepped .user) := by
  cases input with
  | none => exact ⟨.inl rfl, fun _ _ _ => rfl⟩
  | some input =>
    show Meets _ _ ((asyncSetUniqueId _).bind fun _ => abortIfUniqueIdConfigured.bind fun _ =>
      (orBase (asyncValidate (str.strip input.username) input.password)).bind _) _
    refine check_meets (afterValidation_meets fun validated => ?_)
      fun r g hr h => ⟨h, fun _ _ _ => rfl⟩
    cases validated with
    | error base => exact ⟨.inl rfl, fun _ _ _ => rfl⟩
    | ok token =>
      refine ⟨trivial, fun u g hg => ?_⟩
      obtain rfl : FlowStage.running .user = g := Option.some.inj hg
      exact ⟨.inl rfl, fun _ _ _ => rfl⟩

theorem updateReloadAndAbort_meets {entry : Nat} (htarget : source.target = some entry)
    (username : String) (uniqueId : Option String) :
    Meets flowProtocol (.running source) (updateReloadAndAbort source entry username uniqueId)
      (FlowStage.Stepped source) := by
  refine ⟨htarget, fun u g hg => ?_⟩
  obtain rfl : FlowStage.running source = g := Option.some.inj hg
  exact ⟨.inl rfl, nofun⟩

theorem asyncUpdateAfterRevalidation_meets (str : StrMethods) {entry : Nat}
    (htarget : source.target = some entry) (username : String) (token : TokenData) :
    Meets flowProtocol (.running source)
      (asyncUpdateAfterRevalidation str (Fl.asyncSave entry token) (Fl.entryUniqueId entry)
        (updateReloadAndAbort source entry username) username) (FlowStage.Stepped source) := by
  have hsave : Meets flowProtocol (.running source) (Fl.asyncSave entry token)
      fun _ g => g = .running source := running_meets (.op rfl .ofResult)
  refine Meets.bind (hsave.mono fun r g hr => ?_)
  subst hr
  cases r with
  | error err => exact ⟨.inl rfl, nofun⟩
  | ok u =>
    refine ⟨trivial, fun current g hg => ?_⟩
    obtain rfl : FlowStage.running source = g := Option.some.inj hg
    show Meets _ _ (if _ then _ else _) _
    split <;> exact updateReloadAndAbort_meets htarget username _

theorem checkUniqueId_meets (entry : Nat) (uniqueId : String) :
    Meets flowProtocol (.running source) (checkUniqueId entry uniqueId) fun r g =>
      match r with
      | .ok _ => g = .running source
      | .error err => FlowStage.Ends source (.error err : Except PyErr Unit) g := by
  refine ⟨trivial, fun current g hg => ?_⟩
  obtain rfl : FlowStage.running source = g := Option.some.inj hg
  show Meets _ _ (if _ then _ else _) _
  split
  · show Meets _ _ ((asyncSetUniqueId _).bind fun _ => abortIfUniqueIdConfigured) _
    rw [← bind_ret abortIfUniqueIdConfigured]
    refine check_meets (c := .ret ()) ?_ fun r g hr h => ?_
    · exact rfl
    · cases r with
      | ok u => cases hr
      | error err => exact h
  · exact rfl

theorem asyncRevalidationStep_meets (str : StrMethods) {entry : Nat} (stepId : String)
    (htarget : source.target = some entry) (input : Option UserInput) :
    Meets flowProtocol (.running source) (asyncRevalidationStep str source entry stepId input)
      (FlowStage.Stepped source) := by
  cases input with
  | none => exact ⟨.inl rfl, by rintro _ _ ⟨⟩⟩
  | some input =>
    show Meets _ _ ((checkUniqueId entry _).bind fun _ =>
      (orBase (asyncValidate (str.strip input.username) input.password)).bind _) _
    refine Meets.bind ((checkUniqueId_meets entry _).mono fun r g hr => ?_)
    cases r with
    | ok u =>
      subst hr
      refine afterValidation_meets fun validated => ?_
      cases validated with
      | error base => exact ⟨.inl rfl, by rintro _ _ ⟨⟩⟩
      | ok token => exact asyncUpdateAfterRevalidation_meets str htarget _ token
    | error err =>
      refine ⟨?_, by rintro _ _ ⟨⟩⟩
      rcases hr with rfl | ⟨rfl, reason, ⟨⟩⟩
      · exact .inl rfl
      · exact .inr ⟨rfl, reason, rfl⟩

theorem flowStep_meets (str : StrMethods) (source : FlowSource) (input : Option UserInput) :
    Meets flowProtocol (.running source) (flowStep str source input)
      (FlowStage.Stepped source) := by
  cases source with
  | user => exact asyncStepUser_meets str input
  | reauth entry => exact asyncRevalidationStep_meets str _ rfl input
  | reconfigure entry => exact asyncRevalidationStep_meets str _ rfl input

theorem handleStep_meets {step : Fl FlowResult}
    (hstep : Meets flowProtocol (.running source) step (FlowStage.Stepped source)) :
    Meets flowProtocol (.running source) (handleStep step) fun _ g => g.settled := by
  have hfinish : ∀ g result, flowProtocol.may g (.finish result) →
      Meets flowProtocol g (Fl.finish result) fun _ g => g.settled := by
    intro g result hmay
    refine ⟨hmay, fun u g' hg => ?_⟩
    cases g <;> first | cases hmay | cases Option.some.inj hg; trivial
  refine Meets.bind (Meets.mono (Q := fun r (g : FlowStage) => match r with
    | .ok result => flowProtocol.may g (.finish result)
    | .error _ => g.settled) (fun r g hr => ?_) (Meets.tryExcept (hstep.mono fun r g hr => ?_)))
  · cases r with
    | ok result => exact hfinish g result hr
    | error err => exact hr
  · obtain ⟨hends, huser⟩ := hr
    cases r with
    | ok result =>
      rcases hends with rfl | ⟨-, reason, hr⟩
      · cases result with
        | createEntry title username => exact huser title username rfl
        | _ => trivial
      · cases hr
    | error err =>
      rcases hends with rfl | ⟨rfl, reason, hr⟩
      · simp only
        split <;> trivial
      · cases hr
        trivial

theorem flow_meets (str : StrMethods) (req : FlowRequest) :
    Meets flowProtocol .ready (req.prog str) fun _ g => g.settled := by
  cases req with
  | init source =>
    refine ⟨trivial, fun started g hg => ?_⟩
    obtain rfl := Option.some.inj hg
    cases started with
    | false => trivial
    | true => exact handleStep_meets (flowStep_meets str source none)
  | submit input =>
    refine ⟨trivial, fun found g hg => ?_⟩
    obtain rfl := Option.some.inj hg
    cases found with
    | none => trivial
    | some source => exact handleStep_meets (flowStep_meets str source (some input))

end

/-! ## The flows in progress -/

namespace FlowState

variable {s : FlowState} {t t' : TaskId} {context : FlowContext} {uniqueId : String}

theorem mem_of_context (h : s.context t = some context) : (t, context) ∈ s.flows := by
  obtain ⟨l₁, l₂, hl, -⟩ := List.lookup_eq_some_iff.mp h
  rw [hl]
  exact List.mem_append_right _ List.mem_cons_self

theorem not_carried (h : s.carriedElsewhere t uniqueId = false)
    (ht' : s.context t' = some context) (hne : t' ≠ t) : context.uniqueId ≠ some uniqueId := by
  intro hcarried
  have hany := List.any_eq_false.mp h (t', context) (mem_of_context ht')
  simp [hne, hcarried] at hany

theorem lookup_cons_of_ne (h : t' ≠ t) (flows : List (TaskId × FlowContext)) :
    List.lookup t' ((t, context) :: flows) = flows.lookup t' := by
  rw [List.lookup_cons, beq_false_of_ne h]

theorem context_remove (s : FlowState) (t t' : TaskId) :
    (s.remove t).context t' = if t' = t then none else s.context t' := by
  obtain ⟨entries, flows, pending⟩ := s
  show List.lookup t' (flows.filter (·.1 ≠ t)) = if t' = t then none else flows.lookup t'
  induction flows with
  | nil => exact (ite_self _).symm
  | cons p flows ih =>
    obtain ⟨t₀, context⟩ := p
    by_cases ht₀ : t₀ = t
    · subst ht₀
      rw [List.filter_cons_of_neg (by simp), ih]
      by_cases ht' : t' = t₀
      · rw [if_pos ht', if_pos ht']
      · rw [if_neg ht', if_neg ht', lookup_cons_of_ne ht']
    · rw [List.filter_cons_of_pos (by simpa using ht₀)]
      by_cases ht' : t' = t₀
      · subst ht'
        rw [List.lookup_cons_self, List.lookup_cons_self, if_neg ht₀]
      · rw [lookup_cons_of_ne ht', lookup_cons_of_ne ht', ih]

theorem context_record (s : FlowState) (t t' : TaskId) (uniqueId : String) :
    (s.record t uniqueId).context t' = if t' = t then
      (s.context t).map fun context => { context with uniqueId := some uniqueId }
    else s.context t' := by
  obtain ⟨entries, flows, pending⟩ := s
  show List.lookup t' (flows.map fun p =>
      if p.1 = t then (p.1, { p.2 with uniqueId := some uniqueId }) else p) =
    if t' = t then
      (flows.lookup t).map fun context => { context with uniqueId := some uniqueId }
    else flows.lookup t'
  induction flows with
  | nil => exact (ite_self _).symm
  | cons p flows ih =>
    obtain ⟨t₀, context⟩ := p
    rw [List.map_cons]
    by_cases ht' : t' = t₀
    · subst ht'
      by_cases ht : t' = t
      · subst ht
        rw [if_pos rfl, if_pos rfl, List.lookup_cons_self, List.lookup_cons_self, Option.map_some]
      · rw [if_neg ht, if_neg ht, List.lookup_cons_self, List.lookup_cons_self]
    · have hhead : ∀ q : TaskId × FlowContext, q.1 = t₀ → ∀ l, List.lookup t' (q :: l) =
          List.lookup t' l := by
        rintro ⟨t₁, context⟩ rfl l
        exact lookup_cons_of_ne ht' l
      rw [hhead _ (by split <;> rfl), ih, hhead _ rfl]
      by_cases ht : t' = t
      · subst ht
        rw [if_pos rfl, if_pos rfl, hhead _ rfl]
      · rw [if_neg ht, if_neg ht]

end FlowState

/-! ## The entries -/

/-- No two entries have the same unique id. -/
def UniqueIds (entries : List ConfigEntry) : Prop :=
  ∀ i j uniqueId, uniqueIdAt entries i = some uniqueId → uniqueIdAt entries j = some uniqueId →
    i = j

theorem uniqueIdAt_append {entries : List ConfigEntry} {entry : ConfigEntry} {i : Nat}
    {uniqueId : String} (h : uniqueIdAt (entries ++ [entry]) i = some uniqueId) :
    uniqueIdAt entries i = some uniqueId ∨
      i = entries.length ∧ entry.uniqueId = some uniqueId := by
  rcases Nat.lt_trichotomy i entries.length with hi | rfl | hi
  · rw [uniqueIdAt, List.getElem?_append_left hi] at h
    exact .inl h
  · rw [uniqueIdAt, List.getElem?_concat_length] at h
    exact .inr ⟨rfl, h⟩
  · rw [uniqueIdAt, List.getElem?_eq_none (by rw [List.length_append]; simp; omega)] at h
    cases h

theorem uniqueIdAt_modify {entries : List ConfigEntry} {entry i : Nat} {new : Option String}
    {title username uniqueId : String}
    (h : uniqueIdAt (entries.modify entry fun e => ⟨new.or e.uniqueId, title, username⟩) i =
      some uniqueId) :
    uniqueIdAt entries i = some uniqueId ∨ i = entry ∧ new = some uniqueId := by
  rw [uniqueIdAt, List.getElem?_modify] at h
  by_cases hi : entry = i
  · subst hi
    cases he : entries[entry]? with
    | none =>
      rw [he] at h
      cases h
    | some e =>
      rw [he] at h
      have hor : new.or e.uniqueId = some uniqueId := by simpa using h
      cases new with
      | some new => exact .inr ⟨rfl, hor⟩
      | none => exact .inl (by rw [uniqueIdAt, he]; exact hor)
  · simp only [if_neg hi, id_map'] at h
    exact .inl h

/-- An entry other than the given one has the id. -/
def FlowState.configuredElsewhere (s : FlowState) (entry : Nat) (uniqueId : String) : Bool :=
  (List.range s.entries.length).any fun i => i != entry && uniqueIdAt s.entries i == some uniqueId

theorem FlowState.eq_of_not_configured {s : FlowState} {entry i : Nat} {uniqueId : String}
    (h : s.configuredElsewhere entry uniqueId = false)
    (hi : uniqueIdAt s.entries i = some uniqueId) : i = entry := by
  by_contra hne
  have hlt : i < s.entries.length := by
    by_contra hge
    rw [uniqueIdAt, List.getElem?_eq_none (Nat.le_of_not_lt hge)] at hi
    cases hi
  have hany := List.any_eq_false.mp h i (List.mem_range.mpr hlt)
  simp [hne, hi] at hany

/-- An id that a revalidation writes is carried by its flow, or would pass the duplicate check: no
other entry has it, and no other flow carries it. -/
def flowGuard : Guard flowMachine FlowRequest where
  spawn _ := true
  op t o _ s :=
    match o with
    | .updateEntry entry (some uniqueId) _ =>
      (s.context t).any (·.uniqueId == some uniqueId) ||
        !(s.carriedElsewhere t uniqueId || s.configuredElsewhere entry uniqueId)
    | _ => true

/-! ## The invariant -/

/-- The source of the flow whose step is at the stage. -/
def FlowStage.source : FlowStage → Option FlowSource
  | running source | recorded source => some source
  | _ => none

/-- The id that a flow carries is free for it. -/
structure Identities (s : FlowState) (Γ : View flowProtocol) : Prop where
  unique : UniqueIds s.entries
  owned : ∀ t context uniqueId i, s.context t = some context → context.uniqueId = some uniqueId →
    (∀ g w, Γ t = some (g, w) → g.settled) → uniqueIdAt s.entries i = some uniqueId →
    context.source.target = some i
  shared : ∀ t t' context context' uniqueId, t ≠ t' → s.context t = some context →
    s.context t' = some context' → context.uniqueId = some uniqueId →
    context'.uniqueId = some uniqueId →
    context.source.target = context'.source.target ∧ context.source.target ≠ none
  source : ∀ t g w context, Γ t = some (g, w) → s.context t = some context →
    ∀ source, g.source = some source → context.source = source
  settled : ∀ t g w, Γ t = some (g, some w) → g.settled

namespace Identities

variable {s s' : FlowState} {Γ : View flowProtocol} {t : TaskId} {g g' : FlowStage}
  {w : Option FlowOp}

/-- A task that goes to another stage. -/
theorem restage (h : Identities s Γ) (v : Option (FlowStage × Option FlowOp))
    (hown : ∀ context uniqueId i, s.context t = some context →
      context.uniqueId = some uniqueId → (∀ g w, v = some (g, w) → g.settled) →
      uniqueIdAt s.entries i = some uniqueId → context.source.target = some i)
    (hsource : ∀ g w context, v = some (g, w) → s.context t = some context →
      ∀ source, g.source = some source → context.source = source)
    (hsettled : ∀ g w, v = some (g, some w) → g.settled) :
    Identities s (Function.update Γ t v) where
  unique := h.unique
  owned t' context uniqueId i hcontext hcarried hstage hi := by
    by_cases hne : t' = t
    · subst hne
      rw [Function.update_self] at hstage
      exact hown context uniqueId i hcontext hcarried hstage hi
    · rw [Function.update_of_ne hne] at hstage
      exact h.owned t' context uniqueId i hcontext hcarried hstage hi
  shared := h.shared
  source t' g' w' context ht' hcontext := by
    by_cases hne : t' = t
    · subst hne
      rw [Function.update_self] at ht'
      exact hsource g' w' context ht' hcontext
    · rw [Function.update_of_ne hne] at ht'
      exact h.source t' g' w' context ht' hcontext
  settled t' g' w' ht' := by
    by_cases hne : t' = t
    · subst hne
      rw [Function.update_self] at ht'
      exact hsettled g' w' ht'
    · rw [Function.update_of_ne hne] at ht'
      exact h.settled t' g' w' ht'

/-- The id of a flow whose step is settled belongs to the flow's entry. -/
theorem owns (h : Identities s Γ) (ht : Γ t = some (g, w)) (hg : g.settled) {context : FlowContext}
    {uniqueId : String} {i : Nat} (hcontext : s.context t = some context)
    (hid : context.uniqueId = some uniqueId) (hi : uniqueIdAt s.entries i = some uniqueId) :
    context.source.target = some i := by
  refine h.owned t context uniqueId i hcontext hid (fun g' w' hg' => ?_) hi
  cases ht.symm.trans hg'
  exact hg

/-- A settled step that goes to a settled stage of the same flow, or ends. -/
theorem goOn (h : Identities s Γ) {w₀ : Option FlowOp} (ht : Γ t = some (g, w₀)) (hg : g.settled)
    (v : Option (FlowStage × Option FlowOp))
    (hv : ∀ g' w, v = some (g', w) → g'.settled ∧ (g'.source = none ∨ g'.source = g.source)) :
    Identities s (Function.update Γ t v) := by
  refine h.restage v (fun context uniqueId i hcontext hid _ hi => h.owns ht hg hcontext hid hi)
    (fun g' w context hg' hcontext source hsource => ?_) fun g' w hg' => (hv g' _ hg').1
  rcases (hv g' w hg').2 with hnone | hsame
  · rw [hnone] at hsource
    cases hsource
  · exact h.source t g w₀ context ht hcontext source (hsame ▸ hsource)

/-- The flow of a task changes. -/
theorem recontext (h : Identities s Γ) (hentries : s'.entries = s.entries)
    (hother : ∀ t', t' ≠ t → s'.context t' = s.context t')
    (hown : ∀ context uniqueId i, s'.context t = some context →
      context.uniqueId = some uniqueId → (∀ g w, Γ t = some (g, w) → g.settled) →
      uniqueIdAt s.entries i = some uniqueId → context.source.target = some i)
    (hshared : ∀ t' context context' uniqueId, t' ≠ t → s'.context t = some context →
      s.context t' = some context' → context.uniqueId = some uniqueId →
      context'.uniqueId = some uniqueId →
      context.source.target = context'.source.target ∧ context.source.target ≠ none)
    (hsource : ∀ g w context, Γ t = some (g, w) → s'.context t = some context →
      ∀ source, g.source = some source → context.source = source) :
    Identities s' Γ where
  unique := by
    rw [hentries]
    exact h.unique
  owned t' context uniqueId i hcontext hid hstage hi := by
    rw [hentries] at hi
    by_cases hne : t' = t
    · subst hne
      exact hown context uniqueId i hcontext hid hstage hi
    · rw [hother t' hne] at hcontext
      exact h.owned t' context uniqueId i hcontext hid hstage hi
  shared t₁ t₂ context₁ context₂ uniqueId hne h₁ h₂ hid₁ hid₂ := by
    by_cases hne₁ : t₁ = t
    · subst hne₁
      rw [hother t₂ hne.symm] at h₂
      exact hshared t₂ context₁ context₂ uniqueId hne.symm h₁ h₂ hid₁ hid₂
    · rw [hother t₁ hne₁] at h₁
      by_cases hne₂ : t₂ = t
      · subst hne₂
        obtain ⟨heq, hsome⟩ := hshared t₁ context₂ context₁ uniqueId hne₁ h₂ h₁ hid₂ hid₁
        exact ⟨heq.symm, heq ▸ hsome⟩
      · rw [hother t₂ hne₂] at h₂
        exact h.shared t₁ t₂ context₁ context₂ uniqueId hne h₁ h₂ hid₁ hid₂
  source t' g w context ht' hcontext := by
    by_cases hne : t' = t
    · subst hne
      exact hsource g w context ht' hcontext
    · rw [hother t' hne] at hcontext
      exact h.source t' g w context ht' hcontext
  settled := h.settled

/-- The entry `k` gets the id `new`, if it is an id. -/
theorem write (h : Identities s Γ) {entries : List ConfigEntry} {k : Nat} {new : Option String}
    (hentries : ∀ i uniqueId, uniqueIdAt entries i = some uniqueId →
      uniqueIdAt s.entries i = some uniqueId ∨ i = k ∧ new = some uniqueId)
    (hfree : ∀ i uniqueId, new = some uniqueId → uniqueIdAt s.entries i = some uniqueId → i = k)
    (hcarried : ∀ t context uniqueId, s.context t = some context → new = some uniqueId →
      context.uniqueId = some uniqueId → context.source.target = some k) :
    Identities { s with entries := entries } Γ where
  unique i j uniqueId hi hj := by
    rcases hentries i uniqueId hi with hi | ⟨hik, hnew⟩ <;>
      rcases hentries j uniqueId hj with hj | ⟨hjk, hnew'⟩
    · exact h.unique i j uniqueId hi hj
    · exact (hfree i uniqueId hnew' hi).trans hjk.symm
    · exact hik.trans (hfree j uniqueId hnew hj).symm
    · exact hik.trans hjk.symm
  owned t context uniqueId i hcontext hid hstage hi := by
    rcases hentries i uniqueId hi with hi | ⟨rfl, hnew⟩
    · exact h.owned t context uniqueId i hcontext hid hstage hi
    · exact hcarried t context uniqueId hcontext hnew hid
  shared := h.shared
  source := h.source
  settled := h.settled

/-- A flow that has ended. -/
theorem remove (h : Identities s Γ) (t : TaskId) : Identities (s.remove t) Γ := by
  have hgone : ∀ {P : Prop} {context : FlowContext}, (s.remove t).context t = some context → P := by
    intro P context hcontext
    rw [FlowState.context_remove, if_pos rfl] at hcontext
    cases hcontext
  exact h.recontext rfl (fun t' hne => by rw [FlowState.context_remove, if_neg hne])
    (fun _ _ _ hcontext => hgone hcontext) (fun _ _ _ _ _ hcontext => hgone hcontext)
    fun _ _ _ _ hcontext => hgone hcontext

/-- The flow carries an id that no other flow carries. -/
theorem record (h : Identities s Γ) {source : FlowSource}
    (ht : Γ t = some (.running source, none)) {uniqueId : String}
    (hfree : s.carriedElsewhere t uniqueId = false) :
    Identities (s.record t uniqueId)
      (Function.update Γ t (some (.recorded source, none))) := by
  have hrecorded : Identities s (Function.update Γ t (some (.recorded source, none))) := by
    refine h.restage _ (fun _ _ _ _ _ hstage _ => (hstage _ _ rfl).elim)
      (fun g w context hg hcontext source' hsource => ?_) fun g w hg => by cases hg
    cases hg
    exact h.source t (.running source) none context ht hcontext source' hsource
  have hself : ∀ context, (s.record t uniqueId).context t = some context →
      context.uniqueId = some uniqueId ∧
        ∃ context', s.context t = some context' ∧ context'.source = context.source := by
    intro context hcontext
    rw [FlowState.context_record, if_pos rfl, Option.map_eq_some_iff] at hcontext
    obtain ⟨context', hcontext', rfl⟩ := hcontext
    exact ⟨rfl, context', hcontext', rfl⟩
  refine hrecorded.recontext rfl (fun t' hne => by rw [FlowState.context_record, if_neg hne])
    (fun _ _ _ _ _ hstage _ => (hstage _ _ (Function.update_self ..)).elim)
    (fun t' context context' id hne hcontext hcontext' hid hid' => ?_)
    fun g w context hg hcontext source' hsource => ?_
  · -- no other flow carries the new id
    have hnew := hid.symm.trans (hself context hcontext).1
    exact absurd (hid'.trans hnew) (FlowState.not_carried hfree hcontext' hne)
  · obtain ⟨-, context', hcontext', hsame⟩ := hself context hcontext
    exact hsame.symm.trans (hrecorded.source t g w context' hg hcontext' source' hsource)

/-- A reauth flow starts with the id of its entry. -/
theorem startContext_carries {source : FlowSource} {context : FlowContext}
    (hcontext : s.startContext source = some context) :
    context.source = source ∧ ∀ uniqueId, context.uniqueId = some uniqueId →
      ∃ i, source.target = some i ∧ uniqueIdAt s.entries i = some uniqueId := by
  cases source with
  | user =>
    cases hcontext
    exact ⟨rfl, nofun⟩
  | reconfigure entry =>
    obtain ⟨e, -, rfl⟩ := Option.map_eq_some_iff.mp hcontext
    exact ⟨rfl, nofun⟩
  | reauth entry =>
    obtain ⟨e, he, rfl⟩ := Option.map_eq_some_iff.mp hcontext
    refine ⟨rfl, fun uniqueId hid => ⟨entry, rfl, ?_⟩⟩
    rw [uniqueIdAt, he]
    exact hid

/-- A flow starts while every other step waits. -/
theorem start (h : Identities s Γ)
    (hothers : ∀ t' g' w, t' ≠ t → Γ t' = some (g', w) → w.isSome = true)
    {source : FlowSource} {context : FlowContext} (hnone : s.context t = none)
    (hcontext : s.startContext source = some context) :
    Identities { s with flows := (t, context) :: s.flows }
      (Function.update Γ t (some (.running source, none))) := by
  obtain ⟨rfl, hcarries⟩ := startContext_carries hcontext
  have hrunning : Identities s (Function.update Γ t (some (.running context.source, none))) :=
    h.restage _ (fun _ _ _ hold => by rw [hnone] at hold; cases hold)
      (fun _ _ _ _ hold => by rw [hnone] at hold; cases hold) fun g w hg => by cases hg
  have hself : FlowState.context { s with flows := (t, context) :: s.flows } t = some context :=
    List.lookup_cons_self
  refine hrunning.recontext rfl (fun t' hne => FlowState.lookup_cons_of_ne hne _)
    (fun context' uniqueId i hcontext' hid _ hi => ?_)
    (fun t' context₁ context' uniqueId hne hcontext₁ hcontext' hid hid' => ?_)
    fun g w context' hg hcontext' source hsource => ?_
  · cases hself.symm.trans hcontext'
    obtain ⟨j, htarget, hj⟩ := hcarries uniqueId hid
    rw [htarget, h.unique i j uniqueId hi hj]
  · -- a flow that carries the id of the new one is for the same entry
    cases hself.symm.trans hcontext₁
    obtain ⟨i, htarget, hi⟩ := hcarries uniqueId hid
    have howned := h.owned t' context' uniqueId i hcontext' hid' (fun g w ht' => by
      obtain ⟨o, rfl⟩ := Option.isSome_iff_exists.mp (hothers t' g w hne ht')
      exact h.settled t' g o ht') hi
    exact ⟨htarget.trans howned.symm, htarget ▸ nofun⟩
  · cases hself.symm.trans hcontext'
    rw [Function.update_self] at hg
    cases hg
    exact Option.some.inj hsource

/-- A revalidation updates its entry. -/
theorem update (h : Identities s Γ) {source : FlowSource} {entry : Nat}
    (ht : Γ t = some (.running source, none)) (htarget : source.target = some entry)
    {new : Option String} {username : String}
    (hguard : flowGuard.op t (.updateEntry entry new username) () s = true) :
    Identities { s with entries := s.entries.modify entry fun e =>
      ⟨new.or e.uniqueId, username, username⟩ } Γ := by
  have hown : ∀ context, s.context t = some context → context.source.target = some entry := by
    intro context hcontext
    rw [h.source t _ none context ht hcontext source rfl, htarget]
  cases new with
  | none =>
    exact h.write (fun i uniqueId hi => uniqueIdAt_modify hi) nofun nofun
  | some uniqueId =>
    rcases Bool.or_eq_true_iff.mp hguard with hcarries | hcheck
    · -- the flow carries the id
      obtain ⟨context, hcontext, hid⟩ : ∃ context, s.context t = some context ∧
          context.uniqueId = some uniqueId := by
        cases hcontext : s.context t with
        | none =>
          rw [hcontext] at hcarries
          cases hcarries
        | some context =>
          rw [hcontext] at hcarries
          exact ⟨context, rfl, by simpa using hcarries⟩
      refine h.write (fun i uniqueId hi => uniqueIdAt_modify hi) (fun i uniqueId' hnew hi => ?_)
        fun t' context' uniqueId' hcontext' hnew hid' => ?_
      · cases hnew
        have howned := h.owns ht trivial hcontext hid hi
        exact Option.some.inj (howned.symm.trans (hown context hcontext))
      · cases hnew
        by_cases hne : t' = t
        · subst hne
          exact hown context' hcontext'
        · obtain ⟨heq, -⟩ :=
            h.shared t t' context context' uniqueId (Ne.symm hne) hcontext hcontext' hid hid'
          exact heq.symm.trans (hown context hcontext)
    · -- the id passes the check
      rw [Bool.not_eq_true', Bool.or_eq_false_iff] at hcheck
      obtain ⟨hcarried, hconfigured⟩ := hcheck
      refine h.write (fun i uniqueId hi => uniqueIdAt_modify hi) (fun i uniqueId' hnew hi => ?_)
        fun t' context' uniqueId' hcontext' hnew hid' => ?_
      · cases hnew
        exact FlowState.eq_of_not_configured hconfigured hi
      · cases hnew
        by_cases hne : t' = t
        · subst hne
          exact hown context' hcontext'
        · exact absurd hid' (FlowState.not_carried hcarried hcontext' hne)

/-- A user flow creates its entry. -/
theorem create (h : Identities s Γ) (ht : Γ t = some (.running .user, none))
    (title username : String) :
    Identities (s.handle t (.createEntry title username)) Γ := by
  have hown : ∀ uniqueId, (s.context t).bind (·.uniqueId) = some uniqueId →
      ∃ context, s.context t = some context ∧ context.uniqueId = some uniqueId ∧
        context.source = .user := by
    intro uniqueId hid
    obtain ⟨context, hcontext, hid⟩ := Option.bind_eq_some_iff.mp hid
    exact ⟨context, hcontext, hid, h.source t _ none context ht hcontext .user rfl⟩
  refine (h.remove t).write (fun i uniqueId hi => uniqueIdAt_append hi)
    (fun i uniqueId hnew hi => ?_) fun t' context' uniqueId hcontext' hnew hid' => ?_
  · obtain ⟨context, hcontext, hid, huser⟩ := hown uniqueId hnew
    have howned := h.owns ht trivial hcontext hid hi
    rw [huser] at howned
    cases howned
  · obtain ⟨context, hcontext, hid, huser⟩ := hown uniqueId hnew
    rw [FlowState.context_remove] at hcontext'
    split at hcontext'
    · cases hcontext'
    · next hne =>
      obtain ⟨-, hsome⟩ :=
        h.shared t t' context context' uniqueId (Ne.symm hne) hcontext hcontext' hid hid'
      rw [huser] at hsome
      exact absurd rfl hsome

/-- The flow manager handles a result. -/
theorem handle (h : Identities s Γ) (ht : Γ t = some (g, none)) {result : FlowResult}
    (hmay : flowProtocol.may g (.finish result)) :
    Identities (s.handle t result) (Function.update Γ t (some (.ended, none))) := by
  have hend : ∀ {s' : FlowState}, Identities s' Γ →
      (∀ context, s'.context t = some context → g.settled) →
      Identities s' (Function.update Γ t (some (.ended, none))) := by
    intro s' h' hsettled
    refine h'.restage _ (fun context uniqueId i hcontext hid _ hi =>
      h'.owns ht (hsettled context hcontext) hcontext hid hi)
      (fun g w context hg _ source hsource => ?_) fun g w hg => by cases hg
    cases hg
    cases hsource
  cases result with
  | form stepId base =>
    cases g with
    | running source => exact hend h fun _ _ => trivial
    | _ => exact hmay.elim
  | abort reason =>
    refine hend (h.remove t) fun context hcontext => ?_
    have hnone : (s.remove t).context t = none := by rw [FlowState.context_remove, if_pos rfl]
    rw [FlowState.handle, hnone] at hcontext
    cases hcontext
  | createEntry title username =>
    cases g with
    | running source =>
      obtain rfl : source = .user := hmay
      exact hend (h.create ht title username) fun _ _ => trivial
    | _ => exact hmay.elim

/-- A step reads its flow. -/
theorem found (h : Identities s Γ) (ht : Γ t = some (.ready, none))
    (hg : ∀ context source, s.context t = some context → g.source = some source →
      context.source = source) :
    Identities s (Function.update Γ t (some (g, none))) := by
  refine h.restage _
    (fun context uniqueId i hcontext hid _ hi => h.owns ht trivial hcontext hid hi)
    (fun g' w context hg' hcontext source hsource => ?_) fun g' w hg' => by cases hg'
  cases hg'
  exact hg context source hcontext hsource

/-- The id that the flow carries is looked up among the entries. -/
theorem lookUp (h : Identities s Γ) {source : FlowSource}
    (ht : Γ t = some (.recorded source, none)) {configured : Bool}
    (hr : s.runOp t .uniqueIdConfigured = some (configured, s)) :
    Identities s (Function.update Γ t
      (some (if configured then .recorded source else .running source, none))) := by
  refine h.restage _ (fun context uniqueId i hcontext hid hstage hi => ?_)
    (fun g' w context hg' hcontext source' hsource => ?_) fun g' w hg' => by cases hg'
  · cases configured with
    | true => exact (hstage (.recorded source) none rfl).elim
    | false =>
      simp only [FlowState.runOp, hcontext, Option.bind_some, hid] at hr
      have hnone := (Prod.mk.inj (Option.some.inj hr)).1
      obtain ⟨e, he, hei⟩ := Option.bind_eq_some_iff.mp hi
      have hfree := List.any_eq_false.mp hnone e (List.mem_of_getElem? he)
      simp [hei] at hfree
  · have hsource' : source' = source := by
      cases hg'
      cases configured <;> exact (Option.some.inj hsource).symm
    rw [hsource']
    exact h.source t _ none context ht hcontext source rfl

/-- An operation that does not suspend. -/
theorem run (h : Identities s Γ) (ht : Γ t = some (g, none))
    (hothers : ∀ t' g' w, t' ≠ t → Γ t' = some (g', w) → w.isSome = true) {o : FlowOp} {r : o.Res}
    (hmay : flowProtocol.may g o) (hr : s.runOp t o = some (r, s'))
    (hguard : flowGuard.op t o r s = true) :
    ∃ g', flowProtocol.after g o r = some g' ∧
      Identities s' (Function.update Γ t (some (g', none))) := by
  have hstay : ∀ {source}, g = .running source →
      Identities s (Function.update Γ t (some (.running source, none))) := by
    rintro source rfl
    refine h.goOn ht trivial _ fun g' w hg' => ?_
    cases hg'
    exact ⟨trivial, .inr rfl⟩
  cases o with
  | startFlow source =>
    cases g with
    | ready =>
      refine ⟨_, rfl, ?_⟩
      have hstopped : Identities s (Function.update Γ t (some (.ended, none))) := by
        refine h.goOn ht trivial _ fun g' w hg' => ?_
        cases hg'
        exact ⟨trivial, .inl rfl⟩
      simp only [FlowState.runOp] at hr
      split at hr
      · next context hnone hcontext =>
        cases hr
        exact h.start hothers hnone hcontext
      · cases hr
        exact hstopped
    | _ => cases hmay
  | source =>
    cases hr
    cases g with
    | ready =>
      refine ⟨_, rfl, ?_⟩
      refine h.found ht fun context source hcontext hsource => ?_
      rw [hcontext] at hsource
      exact Option.some.inj hsource
    | _ => cases hmay
  | setUniqueId uniqueId =>
    cases g with
    | running source =>
      refine ⟨_, rfl, ?_⟩
      simp only [FlowState.runOp] at hr
      split at hr
      · cases hr
        exact hstay rfl
      · next hfree =>
        cases hr
        exact h.record ht (Bool.not_eq_true _ ▸ hfree)
    | _ => cases hmay
  | uniqueIdConfigured =>
    cases g with
    | recorded source =>
      refine ⟨_, rfl, ?_⟩
      have hsame : s' = s := by
        simp only [FlowState.runOp] at hr
        split at hr <;> cases hr <;> rfl
      subst hsame
      exact h.lookUp ht hr
    | _ => cases hmay
  | stagePendingTokens uniqueId token =>
    cases hr
    cases g with
    | running source =>
      have hsame := hstay rfl
      exact ⟨_, rfl, hsame.unique, hsame.owned, hsame.shared, hsame.source, hsame.settled⟩
    | _ => cases hmay
  | entryUniqueId entry =>
    cases hr
    cases g with
    | running source => exact ⟨_, rfl, hstay rfl⟩
    | _ => cases hmay
  | updateEntry entry new username =>
    cases hr
    cases g with
    | running source =>
      have hwritten := h.update ht hmay hguard
      refine ⟨_, rfl, hwritten.goOn ht trivial _ fun g' w hg' => ?_⟩
      cases hg'
      exact ⟨trivial, .inr rfl⟩
    | _ => cases hmay
  | finish result =>
    cases hr
    have hend := h.handle ht hmay
    cases g <;> exact ⟨_, rfl, hend⟩
  | _ => cases hr

theorem keeps (str : StrMethods) :
    Keeps (FlowRequest.prog str) flowGuard flowProtocol (fun _ => .ready) (fun _ _ g => g.settled)
      Identities where
  meets req _ := flow_meets str req
  spawn s Γ t req h ht _ := by
    refine h.restage _ (fun context uniqueId i hcontext hid _ hi => ?_)
      (fun g w context hg _ source hsource => ?_) fun g w hg => by cases hg
    · refine h.owned t context uniqueId i hcontext hid (fun g w hg => ?_) hi
      cases ht.symm.trans hg
    · cases hg
      cases hsource
  run s Γ t g o r s' h ht hothers hmay hr hG := h.run ht hothers hmay hr hG
  park s Γ t g o h ht hmay hnone := by
    have hg : g.settled := by
      cases g with
      | recorded source =>
        cases o with
        | uniqueIdConfigured =>
          simp only [flowMachine, FlowState.runOp] at hnone
          split at hnone <;> cases hnone
        | finish result => cases hnone
        | _ => cases hmay
      | _ => trivial
    refine h.goOn ht hg _ fun g' w hg' => ?_
    cases hg'
    exact ⟨hg, .inr rfl⟩
  wake s Γ t g o r s' h ht hmay hw _ := by
    obtain ⟨hsuspends, rfl⟩ : FlowState.suspends o = true ∧ s = s' := by
      simp only [flowMachine] at hw
      split at hw
      · next hsuspends => exact ⟨hsuspends, Option.some.inj hw⟩
      · cases hw
    cases g with
    | running source =>
      have hafter : flowProtocol.after (.running source) o r = some (.running source) := by
        cases o <;> first | rfl | cases hsuspends
      refine ⟨_, hafter, h.goOn ht trivial _ fun g' w hg' => ?_⟩
      cases hg'
      exact ⟨trivial, .inr rfl⟩
    | recorded source => exact (h.settled t _ o ht).elim
    | ready =>
      cases o with
      | startFlow source => cases hsuspends
      | source => cases hsuspends
      | _ => cases hmay
    | ended => cases o <;> cases hmay
  finish s Γ t req r g h ht hg := h.goOn ht hg none fun g' w hg' => by cases hg'
  env s Γ e s' h he := nomatch e

end Identities

/-- **One config entry per account.** Whatever the order in which the flows submit, wait and end: if
every id that a revalidation writes is carried by its flow or would pass the duplicate check then,
entries with distinct ids keep distinct ids. -/
theorem uniqueIds_run (str : StrMethods) (entries : List ConfigEntry) (hentries : UniqueIds entries)
    (ls : List FlowLabel)
    (hls : Runs.Steps (Config.step (FlowRequest.prog str))
      (fun c l => Config.allowed (FlowRequest.prog str) flowGuard c l = true)
      (FlowConfig.init entries) ls) :
    UniqueIds (FlowConfig.run str entries ls).state.entries := by
  have hinit : Identities { entries := entries } fun _ => none := by
    refine ⟨hentries, ?_, ?_, ?_, ?_⟩
    · intro t context uniqueId i hcontext
      cases hcontext
    · intro t t' context context' uniqueId _ hcontext
      cases hcontext
    · intro t g w context ht
      cases ht
    · intro t g w ht
      cases ht
  obtain ⟨Γ, hI, -⟩ :=
    (Identities.keeps str).run_inv ⟨_, hinit, Tracks.of_none fun _ => rfl⟩ hls
  exact hI.unique

/-- A wait that ends without an exception; the account has one device. -/
def validates : (o : FlowOp) → Option o.Res
  | .loginPassword _ _ => some (.ok ⟨.str "access", .str "refresh", .finite 100⟩)
  | .devices => some (.ok [⟨"aabbcc", none, none⟩])
  | .newCloudClient | .aclose | .asyncSave _ _ => some (.ok ())
  | _ => none

/-- The waits of a validation. -/
def validation (t : TaskId) : List FlowLabel := List.replicate 4 (.resume t validates)

def entryA : List ConfigEntry := [⟨some "a", "a", "a"⟩]

theorem uniqueIds_entryA : UniqueIds entryA := by
  intro i j uniqueId hi hj
  have hzero : ∀ k, uniqueIdAt entryA k = some uniqueId → k = 0 := by
    intro k hk
    cases k with
    | zero => rfl
    | succ k => cases hk
  rw [hzero i hi, hzero j hj]

/-- A reauth flow moves entry 0 to `b`, then a user flow creates an entry for `a`. -/
def movedAway : List FlowLabel :=
  [.spawn 1 (.init (.reauth 0)), .spawn 1 (.submit ⟨"b", "pw"⟩)] ++ validation 1 ++
    [.resume 1 validates, .spawn 2 (.init .user), .spawn 2 (.submit ⟨"a", "pw"⟩)] ++ validation 2

theorem uniqueIds_movedAway :
    UniqueIds (FlowConfig.run ⟨id, id⟩ entryA movedAway).state.entries :=
  uniqueIds_run ⟨id, id⟩ entryA uniqueIds_entryA movedAway (by decide +kernel)

/-- A reconfigure flow that has submitted the entry's own username ends after that. -/
def movedBack : List FlowLabel :=
  [.spawn 0 (.init (.reconfigure 0)), .spawn 0 (.submit ⟨"a", "pw"⟩)] ++ movedAway ++
    validation 0 ++ [.resume 0 validates]

/-- Both entries have the id `a`. -/
theorem duplicate_movedBack :
    ¬ ∀ (str : StrMethods) (entries : List ConfigEntry) (_ : UniqueIds entries)
      (ls : List FlowLabel), UniqueIds (FlowConfig.run str entries ls).state.entries := by
  intro h
  have hunique := h ⟨id, id⟩ entryA uniqueIds_entryA movedBack
  have hids : ∀ i < 2, uniqueIdAt (FlowConfig.run ⟨id, id⟩ entryA movedBack).state.entries i =
      some "a" := by decide +kernel
  exact absurd (hunique 0 1 "a" (hids 0 (by decide)) (hids 1 (by decide))) (by decide)

end DanalockBle
