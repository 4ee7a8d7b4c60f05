import DanalockBle.Flow.Validation

/-!
# Steps and their flows

A step that validates a login belongs to a flow in progress: its source and the id that the step
has recorded are those of the flow, and the entry that the flow is for exists. Every operation of a
step keeps that (`InFlow.run`).
-/

namespace DanalockBle

open Coroutine Coroutine.Coro

/-- A step is part of its flow in progress, whose entry exists. -/
structure InFlow {str : StrMethods} (s : FlowState) (Γ : View (validating str)) : Prop where
  context : ∀ t g w step, Γ t = some (g, w) → g.data = some step → ∃ context,
    s.context t = some context ∧ context.source = step.source ∧
      ∀ uniqueId, step.carried = some uniqueId → context.uniqueId = some uniqueId
  target : ∀ t context entry, s.context t = some context → context.source.target = some entry →
    entry < s.entries.length

namespace InFlow

variable {str : StrMethods} {s s' : FlowState} {Γ : View (validating str)} {t : TaskId}
  {g : Validation} {w : Option FlowOp}

/-- A task that goes to another stage. -/
theorem restage (h : InFlow s Γ) (v : Option (Validation × Option FlowOp))
    (hv : ∀ g w step, v = some (g, w) → g.data = some step → ∃ context,
      s.context t = some context ∧ context.source = step.source ∧
        ∀ uniqueId, step.carried = some uniqueId → context.uniqueId = some uniqueId) :
    InFlow s (Function.update Γ t v) where
  context t' g' w' step ht' hdata := by
    by_cases hne : t' = t
    · subst hne
      rw [Function.update_self] at ht'
      exact hv g' w' step ht' hdata
    · rw [Function.update_of_ne hne] at ht'
      exact h.context t' g' w' step ht' hdata
  target := h.target

theorem drop (h : InFlow s Γ) (t : TaskId) : InFlow s (Function.update Γ t none) :=
  h.restage none fun _ _ _ hg => by cases hg

/-- The step stays in its flow, or ends. -/
theorem goOn (h : InFlow s Γ) (ht : Γ t = some (g, w)) (v : Option (Validation × Option FlowOp))
    (hv : ∀ g' w, v = some (g', w) → g'.data = none ∨ g'.data = g.data) :
    InFlow s (Function.update Γ t v) := by
  refine h.restage v fun g' w' step hg' hdata => ?_
  rcases hv g' w' hg' with hnone | hsame
  · rw [hnone] at hdata
    cases hdata
  · exact h.context t g w step ht (hsame ▸ hdata)

/-- The flow of a task changes. -/
theorem recontext (h : InFlow s Γ) (hentries : s.entries.length ≤ s'.entries.length)
    (hother : ∀ t', t' ≠ t → s'.context t' = s.context t')
    (hcontext : ∀ g w step, Γ t = some (g, w) → g.data = some step → ∃ context,
      s'.context t = some context ∧ context.source = step.source ∧
        ∀ uniqueId, step.carried = some uniqueId → context.uniqueId = some uniqueId)
    (htarget : ∀ context entry, s'.context t = some context →
      context.source.target = some entry → entry < s'.entries.length) : InFlow s' Γ where
  context t' g w step ht' hdata := by
    by_cases hne : t' = t
    · subst hne
      exact hcontext g w step ht' hdata
    · rw [hother t' hne]
      exact h.context t' g w step ht' hdata
  target t' context entry hc he := by
    by_cases hne : t' = t
    · subst hne
      exact htarget context entry hc he
    · rw [hother t' hne] at hc
      exact (h.target t' context entry hc he).trans_le hentries

/-- Entries are updated, or added at the end. -/
theorem entries (h : InFlow s Γ) (entries : List ConfigEntry)
    (hlength : s.entries.length ≤ entries.length) : InFlow { s with entries := entries } Γ :=
  ⟨h.context, fun t context entry hc he => (h.target t context entry hc he).trans_le hlength⟩

theorem congr (h : InFlow s Γ) (hflows : s'.flows = s.flows) (hentries : s'.entries = s.entries) :
    InFlow s' Γ := by
  obtain ⟨entries, flows, pending⟩ := s'
  subst hflows hentries
  exact ⟨h.context, h.target⟩

theorem record (h : InFlow s Γ) {step : StepData} (ht : Γ t = some (.running step, none))
    (uniqueId : String) :
    InFlow (s.record t uniqueId)
      (Function.update Γ t (some (.running { step with carried := some uniqueId }, none))) := by
  obtain ⟨context, hcontext, hsource, -⟩ := h.context t _ none step ht rfl
  have hself : (s.record t uniqueId).context t =
      some { context with uniqueId := some uniqueId } := by
    rw [FlowState.context_record, if_pos rfl, hcontext]
    rfl
  have hother : ∀ t', t' ≠ t → (s.record t uniqueId).context t' = s.context t' :=
    fun t' hne => by rw [FlowState.context_record, if_neg hne]
  have hentries : s.entries.length ≤ (s.record t uniqueId).entries.length := Nat.le_refl _
  have hidle : InFlow s (Function.update Γ t none) := h.drop t
  have hrecorded : InFlow (s.record t uniqueId) (Function.update Γ t none) := by
    refine hidle.recontext (t := t) hentries hother (fun g w step' hg => ?_)
      fun context' entry hc he => ?_
    · rw [Function.update_self] at hg
      cases hg
    · cases hself.symm.trans hc
      exact h.target t context entry hcontext he
  rw [← Function.update_idem]
  refine hrecorded.restage _ fun g w step' hg hdata => ?_
  cases hg
  cases hdata
  exact ⟨_, hself, hsource, fun _ hid => hid⟩

theorem remove (h : InFlow s Γ) (t : TaskId) :
    InFlow (s.remove t) (Function.update Γ t (some (.ended, none))) := by
  have hgone : (s.remove t).context t = none := by rw [FlowState.context_remove, if_pos rfl]
  have hended : InFlow s (Function.update Γ t (some (.ended, none))) :=
    h.restage _ fun g w step hg hdata => by
      cases hg
      cases hdata
  refine hended.recontext (t := t) (Nat.le_refl _)
    (fun t' hne => by rw [FlowState.context_remove, if_neg hne]) (fun g w step hg hdata => ?_)
    fun context entry hc => ?_
  · rw [Function.update_self] at hg
    cases hg
    cases hdata
  · rw [hgone] at hc
    cases hc

theorem startContext_target {source : FlowSource} {context : FlowContext} {entry : Nat}
    (hcontext : s.startContext source = some context) (htarget : source.target = some entry) :
    entry < s.entries.length := by
  cases source with
  | user => cases htarget
  | reauth e =>
    cases htarget
    obtain ⟨x, hx, -⟩ := Option.map_eq_some_iff.mp hcontext
    exact (List.getElem?_eq_some_iff.mp hx).1
  | reconfigure e =>
    cases htarget
    obtain ⟨x, hx, -⟩ := Option.map_eq_some_iff.mp hcontext
    exact (List.getElem?_eq_some_iff.mp hx).1

theorem start (h : InFlow s Γ) {source : FlowSource} {context : FlowContext}
    (hcontext : s.startContext source = some context) :
    InFlow { s with flows := (t, context) :: s.flows }
      (Function.update Γ t (some (.running ⟨source, none⟩, none))) := by
  obtain ⟨rfl, -⟩ := Identities.startContext_carries hcontext
  have hself : FlowState.context { s with flows := (t, context) :: s.flows } t = some context :=
    List.lookup_cons_self
  have hidle : InFlow s (Function.update Γ t none) := h.drop t
  have hstarted : InFlow { s with flows := (t, context) :: s.flows }
      (Function.update Γ t none) := by
    refine hidle.recontext (t := t) (Nat.le_refl _)
      (fun t' hne => FlowState.lookup_cons_of_ne hne _) (fun g w step hg => ?_)
      fun context' entry hc he => ?_
    · rw [Function.update_self] at hg
      cases hg
    · cases hself.symm.trans hc
      exact startContext_target hcontext he
  rw [← Function.update_idem]
  refine hstarted.restage _ fun g w step hg hdata => ?_
  cases hg
  cases hdata
  exact ⟨context, hself, rfl, nofun⟩

/-- An operation that does not suspend. -/
theorem run (h : InFlow s Γ) (ht : Γ t = some (g, none)) {o : FlowOp} {r : o.Res}
    (hmay : g.may str o) (hr : s.runOp t o = some (r, s')) :
    InFlow s' (Function.update Γ t (some (g.next o r, none))) := by
  have hsame : ∀ g' : Validation, g'.data = none ∨ g'.data = g.data →
      InFlow s (Function.update Γ t (some (g', none))) := by
    intro g' hg'
    refine h.goOn ht _ fun g'' w hg'' => ?_
    cases hg''
    exact hg'
  cases o with
  | startFlow source =>
    cases g with
    | ready =>
      simp only [FlowState.runOp] at hr
      split at hr
      · next context _ hcontext =>
        cases hr
        exact h.start hcontext
      · cases hr
        exact hsame _ (.inl rfl)
    | _ => cases hmay
  | source =>
    cases g with
    | ready =>
      cases hr
      cases hcontext : s.context t with
      | none => exact hsame _ (.inl rfl)
      | some context =>
        refine h.restage _ fun g' w step hg' hdata => ?_
        cases hg'
        cases hdata
        exact ⟨context, hcontext, rfl, fun _ hid => by cases hid⟩
    | _ => cases hmay
  | setUniqueId uniqueId =>
    cases g with
    | running step =>
      simp only [FlowState.runOp] at hr
      split at hr
      · cases hr
        exact hsame _ (.inr rfl)
      · cases hr
        exact h.record ht uniqueId
    | _ => cases hmay
  | uniqueIdConfigured =>
    cases g with
    | running step =>
      simp only [FlowState.runOp] at hr
      split at hr <;> cases hr <;> exact hsame _ (.inr rfl)
    | _ => cases hmay
  | stagePendingTokens uniqueId token =>
    cases g with
    | validated step login =>
      cases hr
      exact ⟨(hsame _ (.inr rfl)).context, (hsame _ (.inr rfl)).target⟩
    | _ => cases hmay
  | entryUniqueId entry =>
    cases hr
    cases g with
    | running step => exact hsame _ (.inr rfl)
    | saved step entry login => exact hsame _ (.inr rfl)
    | _ => cases hmay
  | updateEntry entry uniqueId username =>
    cases g with
    | found step entry' login current =>
      cases hr
      exact (hsame (.running step) (.inr rfl)).entries _ (List.length_modify ..).ge
    | _ => cases hmay
  | finish result =>
    rw [Validation.next_finish]
    cases hr
    cases result with
    | form stepId base => exact hsame _ (.inl rfl)
    | abort reason => exact h.remove t
    | createEntry title username =>
      exact (h.remove t).entries _ (by simp [FlowState.remove])
  | _ => cases hr

end InFlow

end DanalockBle
