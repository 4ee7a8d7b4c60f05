import DanalockBle.Flow.InFlow

/-!
# The accounts of the entries

Whatever the order of the steps and the setups, the unique id of an entry is that of an accepted
account, and a token pair that reaches an entry was issued for the account of the entry
(`accounts_run`). A client that a step receives is closed (`clients_closed`).
-/

namespace DanalockBle

open Coroutine Coroutine.Coro

/-! ## Dictionaries -/

section
variable {κ ν : Type} [DecidableEq κ] {d : List (κ × ν)} {key : κ} {value : ν}

theorem mem_dictSet {p : κ × ν} (h : p ∈ dictSet d key value) : p = (key, value) ∨ p ∈ d := by
  unfold dictSet at h
  split at h
  · obtain ⟨q, hq, rfl⟩ := List.mem_map.mp h
    split
    · exact .inl rfl
    · exact .inr hq
  · rcases List.mem_append.mp h with hd | hnew
    · exact .inr hd
    · exact .inl (List.mem_singleton.mp hnew)

/-- An item is replaced, or added at the end. -/
theorem dictSet_subperm (hd : (d.map Prod.fst).Nodup) (key : κ) (value : ν) :
    (dictSet d key value).Subperm (d ++ [(key, value)]) := by
  unfold dictSet
  split
  · next hany =>
    obtain ⟨p, hp, hkey⟩ := List.any_eq_true.mp hany
    obtain rfl := beq_iff_eq.mp hkey
    obtain ⟨l₁, l₂, rfl⟩ := List.append_of_mem hp
    have hrest : ∀ l : List (κ × ν), p.1 ∉ l.map Prod.fst →
        l.map (fun q => if q.1 == p.1 then (p.1, value) else q) = l := by
      intro l hl
      refine (List.map_congr_left fun q hq => ?_).trans (List.map_id l)
      exact if_neg fun heq => hl (List.mem_map.mpr ⟨q, hq, beq_iff_eq.mp heq⟩)
    have hmiddle : ((l₁ ++ p :: l₂).map Prod.fst).Perm (p.1 :: (l₁ ++ l₂).map Prod.fst) :=
      List.perm_middle.map Prod.fst
    have hkey := (List.nodup_cons.mp (hmiddle.nodup_iff.mp hd)).1
    rw [List.map_append, List.mem_append, not_or] at hkey
    rw [List.map_append, List.map_cons, hrest l₁ hkey.1, hrest l₂ hkey.2, beq_self_eq_true,
      if_pos rfl]
    have hreplaced : (l₁ ++ (p.1, value) :: l₂).Perm (l₁ ++ l₂ ++ [(p.1, value)]) :=
      List.perm_middle.trans (List.perm_append_singleton _ _).symm
    exact hreplaced.subperm.trans
      (((List.sublist_cons_self p l₂).append_left l₁).append_right _).subperm
  · exact List.Subperm.refl _

end

/-! ## What the cloud has issued -/

namespace Ledger

variable {str : StrMethods} {ledger ledger' : Ledger}

theorem Issued.mono {uniqueId : String} {token : TokenData}
    (h : ledger.Issued str uniqueId token) (haccepted : ledger.accepted ⊆ ledger'.accepted) :
    ledger'.Issued str uniqueId token := by
  obtain ⟨username, hname, hlogin⟩ := h
  exact ⟨username, hname, haccepted hlogin⟩

theorem see_accepted (t : TaskId) (o : FlowOp) (r : o.Res) (ledger : Ledger) :
    ledger.accepted ⊆ (ledger.see t o r).accepted := by
  unfold see
  split <;> first | exact List.subset_append_left .. | exact List.Subset.refl _

theorem see_login {t t' : TaskId} (h : t' ≠ t) (o : FlowOp) (r : o.Res) (ledger : Ledger) :
    (ledger.see t o r).login t' = ledger.login t' := by
  unfold see
  split <;> first | exact Function.update_of_ne h .. | rfl

theorem see_clients {t t' : TaskId} (h : t' ≠ t) (o : FlowOp) (r : o.Res) (ledger : Ledger) :
    (ledger.see t o r).received t' = ledger.received t' ∧
      (ledger.see t o r).closed t' = ledger.closed t' := by
  unfold see
  split <;> exact ⟨by first | exact Function.update_of_ne h .. | rfl,
    by first | exact Function.update_of_ne h .. | rfl⟩

theorem see_suspends {o : FlowOp} (ho : FlowState.suspends o = true) (t : TaskId) (r : o.Res)
    (ledger : Ledger) : (ledger.see t o r).staged = ledger.staged := by
  unfold see
  split <;> first | rfl | cases ho

end Ledger

namespace Validation

variable {str : StrMethods} {ledger : Ledger} {t t' : TaskId} {g : Validation} {o : FlowOp}

/-- The login of a stage is one of the flow's client, and accepted from `listed` on. -/
def Backed (ledger : Ledger) (t : TaskId) : Validation → Prop
  | opened _ login => ∀ l, login = some l → ledger.login t = some l
  | listed _ login | validated _ login => login ∈ ledger.accepted
  | saved step entry login | found step entry login _ =>
    login ∈ ledger.accepted ∧ step.source.target = some entry
  | _ => True

theorem Backed.next (h : g.Backed ledger t) (hmay : g.may str o) (r : o.Res) :
    (g.next o r).Backed (ledger.see t o r) t := by
  cases g with
  | ready =>
    cases o with
    | startFlow source => cases r <;> trivial
    | source => cases r <;> trivial
    | _ => cases hmay
  | ended => cases o <;> cases hmay
  | running step =>
    cases o with
    | setUniqueId uniqueId => cases r <;> trivial
    | newCloudClient =>
      cases r with
      | ok u => exact fun l hl => by cases hl
      | error err => trivial
    | _ => trivial
  | opened step login =>
    cases o with
    | loginPassword username password =>
      cases r with
      | ok token =>
        rintro l ⟨⟩
        exact Function.update_self ..
      | error err => exact h
    | devices =>
      cases r with
      | error err => exact h
      | ok summaries =>
        cases summaries with
        | nil => exact h
        | cons summary summaries =>
          obtain ⟨l, rfl⟩ := Option.isSome_iff_exists.mp hmay
          refine List.mem_append_right _ ?_
          rw [h l rfl]
          exact List.mem_cons_self
    | aclose => trivial
    | _ => cases hmay
  | listed step login =>
    cases o with
    | aclose =>
      cases r with
      | ok u => exact h
      | error err => trivial
    | _ => cases hmay
  | validated step login =>
    cases o with
    | stagePendingTokens uniqueId token => exact h
    | asyncSave entry token =>
      cases r with
      | ok u => exact ⟨h, hmay.1⟩
      | error err => exact h
    | finish result => trivial
    | _ => cases hmay
  | saved step entry login =>
    cases o with
    | entryUniqueId entry' => exact h
    | _ => cases hmay
  | found step entry login current =>
    cases o with
    | updateEntry entry' uniqueId username => trivial
    | _ => cases hmay

/-- A wait does not leave the flow. -/
theorem next_suspends (ho : FlowState.suspends o = true) (hmay : g.may str o) (r : o.Res) :
    (g.next o r).data = g.data := by
  cases o with
  | newCloudClient =>
    cases g with
    | running step => cases r <;> rfl
    | _ => cases hmay
  | loginPassword username password =>
    cases g with
    | opened step login => cases r <;> rfl
    | _ => cases hmay
  | devices =>
    cases g with
    | opened step login =>
      cases r with
      | error err => rfl
      | ok summaries => cases summaries <;> cases login <;> rfl
    | _ => cases hmay
  | aclose =>
    cases g with
    | opened step login => rfl
    | listed step login => cases r <;> rfl
    | _ => cases hmay
  | asyncSave entry token =>
    cases g with
    | validated step login => cases r <;> rfl
    | _ => cases hmay
  | _ => cases ho

theorem Backed.other (h : g.Backed ledger t') (hne : t' ≠ t) (o : FlowOp) (r : o.Res) :
    g.Backed (ledger.see t o r) t' := by
  have haccepted := ledger.see_accepted t o r
  cases g with
  | opened step login =>
    intro l hl
    rw [Ledger.see_login hne]
    exact h l hl
  | listed step login => exact haccepted h
  | validated step login => exact haccepted h
  | saved step entry login => exact ⟨haccepted h.1, h.2⟩
  | found step entry login current => exact ⟨haccepted h.1, h.2⟩
  | _ => trivial

end Validation

/-- The entries, and the token pairs on their way to a setup; `known` are the usernames of the
first entries. -/
structure Provenance (str : StrMethods) (known : List String) (s : AccountState)
    (ledger : Ledger) : Prop where
  entries : ∀ e ∈ s.flow.entries, e.uniqueId = some (normalizedUsername str e.username) ∧
    (e.username ∈ known ∨ ∃ token, (e.username, token) ∈ ledger.accepted)
  tokens : ∀ p ∈ s.delivered ++ s.flow.pending, ledger.Issued str p.1 p.2
  keys : (s.flow.pending.map Prod.fst).Nodup
  once : (s.delivered ++ s.flow.pending).Subperm ledger.staged

theorem AccountState.popPendingTokens_flow (s : AccountState) (entry : Nat) :
    (s.popPendingTokens entry).flow.flows = s.flow.flows ∧
      (s.popPendingTokens entry).flow.entries = s.flow.entries := by
  unfold popPendingTokens
  split
  · exact ⟨rfl, rfl⟩
  · split <;> exact ⟨rfl, rfl⟩

namespace Provenance

variable {str : StrMethods} {known : List String} {s : AccountState} {ledger ledger' : Ledger}
  {login : String × TokenData}

theorem grows (h : Provenance str known s ledger) (haccepted : ledger.accepted ⊆ ledger'.accepted)
    (hstaged : ledger'.staged = ledger.staged) : Provenance str known s ledger' where
  entries e he := by
    obtain ⟨hid, hname⟩ := h.entries e he
    exact ⟨hid, hname.imp_right fun ⟨token, htoken⟩ => ⟨token, haccepted htoken⟩⟩
  tokens p hp := (h.tokens p hp).mono haccepted
  keys := h.keys
  once := hstaged ▸ h.once

/-- The fields that a flow changes. -/
theorem frame (h : Provenance str known s ledger) {flow : FlowState}
    (hpending : flow.pending = s.flow.pending)
    (hentries : ∀ e ∈ flow.entries, e ∈ s.flow.entries ∨
      e.uniqueId = some (normalizedUsername str e.username) ∧
        ∃ token, (e.username, token) ∈ ledger.accepted) :
    Provenance str known { s with flow := flow } ledger where
  entries e he := by
    rcases hentries e he with hold | ⟨hid, hname⟩
    · exact h.entries e hold
    · exact ⟨hid, .inr hname⟩
  tokens := by
    show ∀ p ∈ s.delivered ++ flow.pending, _
    rw [hpending]
    exact h.tokens
  keys := by
    show (flow.pending.map Prod.fst).Nodup
    rw [hpending]
    exact h.keys
  once := by
    show (s.delivered ++ flow.pending).Subperm _
    rw [hpending]
    exact h.once

theorem stage (h : Provenance str known s ledger) (t : TaskId) (hlogin : login ∈ ledger.accepted) :
    Provenance str known
      { s with flow := { s.flow with
          pending := dictSet s.flow.pending (normalizedUsername str login.1) login.2 } }
      (ledger.see t (.stagePendingTokens (normalizedUsername str login.1) login.2) ()) where
  entries := h.entries
  tokens p hp := by
    rcases List.mem_append.mp hp with hdelivered | hpending
    · exact h.tokens p (List.mem_append_left _ hdelivered)
    · rcases mem_dictSet hpending with rfl | hold
      · exact ⟨login.1, rfl, hlogin⟩
      · exact h.tokens p (List.mem_append_right _ hold)
  keys := nodup_dictSet h.keys _ _
  once := by
    show (s.delivered ++ dictSet _ _ _).Subperm (ledger.staged ++ [_])
    refine ((List.subperm_append_left s.delivered).mpr (dictSet_subperm h.keys _ _)).trans ?_
    rw [← List.append_assoc]
    exact (List.subperm_append_right _).mpr h.once

theorem popPendingTokens (h : Provenance str known s ledger) (entry : Nat) :
    Provenance str known (s.popPendingTokens entry) ledger := by
  unfold AccountState.popPendingTokens
  split
  · exact h
  next uniqueId _ =>
  split
  · exact h
  next token htoken =>
  obtain ⟨l₁, l₂, hl, -⟩ := List.lookup_eq_some_iff.mp htoken
  have htaken : ((uniqueId, token) :: s.flow.pending.filter (·.1 ≠ uniqueId)).Subperm
      s.flow.pending := by
    rw [hl, List.filter_append, List.filter_cons_of_neg (by simp)]
    exact ((List.filter_sublist.append List.filter_sublist).cons_cons _).subperm.trans
      List.perm_middle.symm.subperm
  have hsplit : (s.delivered ++ [(uniqueId, token)] ++
      s.flow.pending.filter (·.1 ≠ uniqueId)).Subperm (s.delivered ++ s.flow.pending) := by
    rw [List.append_assoc]
    exact (List.subperm_append_left _).mpr htaken
  exact ⟨h.entries, fun p hp => h.tokens p (hsplit.subset hp),
    h.keys.sublist (List.filter_sublist.map _), hsplit.trans h.once⟩

end Provenance

/-- The operations that write neither the entries nor the stage. -/
def FlowState.Reads : FlowOp → Prop
  | .startFlow _ | .source | .setUniqueId _ | .uniqueIdConfigured | .entryUniqueId _ => True
  | _ => False

theorem FlowState.runOp_reads {s s' : FlowState} {t : TaskId} {o : FlowOp} {r : o.Res}
    (ho : Reads o) (hr : s.runOp t o = some (r, s')) :
    s'.entries = s.entries ∧ s'.pending = s.pending := by
  cases o with
  | startFlow source =>
    simp only [runOp] at hr
    split at hr <;> cases hr <;> exact ⟨rfl, rfl⟩
  | setUniqueId uniqueId =>
    simp only [runOp] at hr
    split at hr <;> cases hr <;> exact ⟨rfl, rfl⟩
  | uniqueIdConfigured =>
    simp only [runOp] at hr
    split at hr <;> cases hr <;> exact ⟨rfl, rfl⟩
  | source =>
    cases hr
    exact ⟨rfl, rfl⟩
  | entryUniqueId entry =>
    cases hr
    exact ⟨rfl, rfl⟩
  | _ => exact ho.elim

theorem Ledger.see_reads {o : FlowOp} (ho : FlowState.Reads o) (t : TaskId) (r : o.Res)
    (ledger : Ledger) : ledger.see t o r = ledger := by
  cases o <;> first | rfl | exact ho.elim

theorem Validation.next_reads {str : StrMethods} {g : Validation} {o : FlowOp}
    (ho : FlowState.Reads o) (hmay : g.may str o) (r : o.Res) :
    (g.next o r).saving = g.saving := by
  cases g with
  | ready =>
    cases o with
    | startFlow source => cases r <;> rfl
    | source => cases r <;> rfl
    | _ => cases hmay
  | running step =>
    cases o with
    | setUniqueId uniqueId => cases r <;> rfl
    | _ => first | rfl | exact ho.elim
  | saved step entry login =>
    cases o with
    | entryUniqueId entry' => rfl
    | _ => cases hmay
  | _ => cases o <;> first | exact ho.elim | cases hmay

/-- The entry with its new id. -/
theorem uniqueIdAt_modify_self {entries : List ConfigEntry} {entry : Nat}
    {new : Option String} {title username uniqueId : String} (hentry : entry < entries.length)
    (h : new.or (uniqueIdAt entries entry) = some uniqueId) :
    uniqueIdAt (entries.modify entry fun e => ⟨new.or e.uniqueId, title, username⟩) entry =
      some uniqueId := by
  rw [uniqueIdAt, List.getElem?_modify, List.getElem?_eq_getElem hentry]
  simpa [uniqueIdAt, List.getElem?_eq_getElem hentry] using h

theorem uniqueIdAt_modify_other {entries : List ConfigEntry} {entry i : Nat}
    {f : ConfigEntry → ConfigEntry} (h : i ≠ entry) :
    uniqueIdAt (entries.modify entry f) i = uniqueIdAt entries i := by
  simp only [uniqueIdAt, List.getElem?_modify, if_neg h.symm, id_map']

theorem uniqueIdAt_append_left {entries : List ConfigEntry} {entry : ConfigEntry} {i : Nat}
    {uniqueId : String} (h : uniqueIdAt entries i = some uniqueId) :
    uniqueIdAt (entries ++ [entry]) i = some uniqueId := by
  obtain ⟨e, he, hid⟩ := Option.bind_eq_some_iff.mp h
  rw [uniqueIdAt, List.getElem?_append_left (List.getElem?_eq_some_iff.mp he).1, he]
  exact hid

/-! ## What revalidations save -/

/-- The token pair was issued for the account of the entry. -/
def FlowState.Owns (s : FlowState) (str : StrMethods) (ledger : Ledger) (entry : Nat)
    (token : TokenData) : Prop :=
  ∃ uniqueId, uniqueIdAt s.entries entry = some uniqueId ∧ ledger.Issued str uniqueId token

/-- The token pair that a revalidation last saved for an entry is one of the entry's account, or
the step is about to update the entry. -/
structure Saves {str : StrMethods} (s : FlowState) (ledger : Ledger) (Γ : View (validating str)) :
    Prop where
  saved : ∀ entry token, ledger.saved entry = some token → s.Owns str ledger entry token ∨
    ∃ t g login, Γ t = some (g, none) ∧ g.saving = some (entry, login) ∧ login.2 = token
  last : ∀ t g w entry login, Γ t = some (g, w) → g.saving = some (entry, login) → w = none ∧
    (ledger.saved entry = some login.2 ∨
      ∃ t' g', t' ≠ t ∧ Γ t' = some (g', none) ∧ g'.saving.isSome = true)
  current : ∀ t step entry login current w, Γ t = some (.found step entry login current, w) →
    uniqueIdAt s.entries entry = current

namespace Saves

variable {str : StrMethods} {s s' : FlowState} {ledger ledger' : Ledger}
  {Γ : View (validating str)} {t : TaskId} {g g' : Validation} {o : FlowOp}

theorem nobodyElse (h : Saves s ledger Γ)
    (hothers : ∀ t' g' w, t' ≠ t → Γ t' = some (g', w) → w.isSome = true) {t' : TaskId}
    {g' : Validation} {w : Option FlowOp} (hne : t' ≠ t) (ht' : Γ t' = some (g', w)) :
    g'.saving = none := by
  cases hsaving : g'.saving with
  | none => rfl
  | some p =>
    obtain ⟨rfl, -⟩ := h.last t' g' w p.1 p.2 ht' hsaving
    exact absurd (hothers t' g' none hne ht') Bool.false_ne_true

theorem saved_alone (h : Saves s ledger Γ) (ht : Γ t = some (g, none))
    (hothers : ∀ t' g' w, t' ≠ t → Γ t' = some (g', w) → w.isSome = true) {entry : Nat}
    {token : TokenData} (hsaved : ledger.saved entry = some token) :
    s.Owns str ledger entry token ∨ ∃ login, g.saving = some (entry, login) ∧ login.2 = token := by
  refine (h.saved entry token hsaved).imp_right fun ⟨t', g', login, ht', hsaving, hlogin⟩ => ?_
  by_cases hne : t' = t
  · subst hne
    cases ht.symm.trans ht'
    exact ⟨login, hsaving, hlogin⟩
  · rw [h.nobodyElse hothers hne ht'] at hsaving
    cases hsaving

theorem last_alone (h : Saves s ledger Γ) (ht : Γ t = some (g, none))
    (hothers : ∀ t' g' w, t' ≠ t → Γ t' = some (g', w) → w.isSome = true) {entry : Nat}
    {login : String × TokenData} (hsaving : g.saving = some (entry, login)) :
    ledger.saved entry = some login.2 := by
  rcases (h.last t g none entry login ht hsaving).2 with hsaved | ⟨t', g', hne, ht', hsaving'⟩
  · exact hsaved
  · rw [h.nobodyElse hothers hne ht'] at hsaving'
    cases hsaving'

/-- A task that runs while the others wait. -/
theorem alone (h : Saves s ledger Γ)
    (hothers : ∀ t' g' w, t' ≠ t → Γ t' = some (g', w) → w.isSome = true)
    (hsaved : ∀ entry token, ledger'.saved entry = some token → s'.Owns str ledger' entry token ∨
      ∃ login, g'.saving = some (entry, login) ∧ login.2 = token)
    (hlast : ∀ entry login, g'.saving = some (entry, login) →
      ledger'.saved entry = some login.2)
    (hcurrent : ∀ step entry login current, g' = .found step entry login current →
      uniqueIdAt s'.entries entry = current) :
    Saves s' ledger' (Function.update Γ t (some (g', none))) where
  saved entry token htoken := (hsaved entry token htoken).imp_right fun ⟨login, hsaving, hlogin⟩ =>
    ⟨t, g', login, Function.update_self .., hsaving, hlogin⟩
  last t' g'' w entry login ht' hsaving := by
    by_cases hne : t' = t
    · subst hne
      rw [Function.update_self] at ht'
      cases ht'
      exact ⟨rfl, .inl (hlast entry login hsaving)⟩
    · rw [Function.update_of_ne hne] at ht'
      rw [h.nobodyElse hothers hne ht'] at hsaving
      cases hsaving
  current t' step entry login current w ht' := by
    by_cases hne : t' = t
    · subst hne
      rw [Function.update_self] at ht'
      cases ht'
      exact hcurrent step entry login current rfl
    · rw [Function.update_of_ne hne] at ht'
      have hsaving := h.nobodyElse hothers hne ht'
      cases hsaving

/-- The unique id that a step has read. -/
theorem found_current {r : o.Res} (ho : FlowState.Reads o) (hmay : g.may str o)
    (hr : s.runOp t o = some (r, s')) {step : StepData} {entry : Nat} {login : String × TokenData}
    {current : Option String} (hfound : g.next o r = .found step entry login current) :
    uniqueIdAt s'.entries entry = current := by
  have hsaving := Validation.next_reads ho hmay r
  rw [hfound] at hsaving
  cases g with
  | saved step' entry' login' =>
    cases o with
    | entryUniqueId entry'' =>
      obtain rfl : entry'' = entry' := hmay
      cases hr
      cases hfound
      rfl
    | _ => cases hmay
  | found step' entry' login' current' => cases o <;> first | exact ho.elim | cases hmay
  | _ => cases hsaving

/-- An operation that does not suspend. -/
theorem run (h : Saves s ledger Γ) (hflow : InFlow s Γ) (ht : Γ t = some (g, none))
    (hothers : ∀ t' g' w, t' ≠ t → Γ t' = some (g', w) → w.isSome = true)
    (hbacked : g.Backed ledger t) {r : o.Res} (hmay : g.may str o)
    (hr : s.runOp t o = some (r, s')) :
    Saves s' (ledger.see t o r) (Function.update Γ t (some (g.next o r, none))) := by
  by_cases hreads : FlowState.Reads o
  · rw [Ledger.see_reads hreads]
    refine h.alone hothers (fun entry token hsaved => ?_) (fun entry login hsaving => ?_)
      fun step entry login current hfound => found_current hreads hmay hr hfound
    · rw [Validation.next_reads hreads hmay, FlowState.Owns, (FlowState.runOp_reads hreads hr).1]
      exact h.saved_alone ht hothers hsaved
    · rw [Validation.next_reads hreads hmay] at hsaving
      exact h.last_alone ht hothers hsaving
  cases o with
  | stagePendingTokens uniqueId token =>
    cases g with
    | validated step login =>
      cases hr
      refine h.alone hothers (fun entry token' hsaved => ?_) (fun _ _ hsaving => by cases hsaving)
        fun _ _ _ _ hfound => by cases hfound
      exact h.saved_alone ht hothers hsaved
    | _ => cases hmay
  | updateEntry entry uniqueId username =>
    cases g with
    | found step entry' login current =>
      obtain ⟨rfl, rfl, hid⟩ := hmay
      cases hr
      obtain ⟨haccepted, htarget⟩ := hbacked
      obtain ⟨context, hcontext, hsource, -⟩ := hflow.context t _ none step ht rfl
      have hentry := hflow.target t context _ hcontext (hsource ▸ htarget)
      refine h.alone hothers (fun i token hsaved => .inl ?_)
        (fun _ _ hsaving => by cases hsaving) fun _ _ _ _ hfound => by cases hfound
      by_cases hi : i = entry
      · subst hi
        cases hsaved.symm.trans (h.last_alone ht hothers rfl)
        rw [← h.current t step i login current none ht] at hid
        exact ⟨_, uniqueIdAt_modify_self hentry hid, login.1, rfl, haccepted⟩
      · rcases h.saved_alone ht hothers hsaved with ⟨uniqueId', hold, hissued⟩ | ⟨_, hsaving, -⟩
        · exact ⟨uniqueId', (uniqueIdAt_modify_other hi).trans hold, hissued⟩
        · cases hsaving
          exact absurd rfl hi
    | _ => cases hmay
  | finish result =>
    rw [Validation.next_finish]
    cases hr
    refine h.alone hothers (fun entry token hsaved => .inl ?_)
      (fun _ _ hsaving => by cases hsaving) fun _ _ _ _ hfound => by cases hfound
    rcases h.saved_alone ht hothers hsaved with ⟨uniqueId, hid, hissued⟩ | ⟨login, hsaving, -⟩
    · refine ⟨uniqueId, ?_, hissued⟩
      cases result with
      | createEntry title username => exact uniqueIdAt_append_left hid
      | _ => exact hid
    · cases g <;> first | exact hmay.elim | cases hsaving
  | _ => first | exact absurd trivial hreads | cases hr

/-- A task that saves nothing goes to a stage in which it saves nothing. -/
theorem quiet (h : Saves s ledger Γ) (hold : ∀ g w, Γ t = some (g, w) → g.saving = none)
    (v : Option (Validation × Option FlowOp)) (hv : ∀ g w, v = some (g, w) → g.saving = none)
    (hsaved : ledger'.saved = ledger.saved) (haccepted : ledger.accepted ⊆ ledger'.accepted) :
    Saves s ledger' (Function.update Γ t v) := by
  have hne : ∀ {t' g w p}, Function.update Γ t v t' = some (g, w) → g.saving = some p → t' ≠ t := by
    rintro t' g w p ht' hsaving rfl
    rw [Function.update_self] at ht'
    rw [hv g w ht'] at hsaving
    cases hsaving
  have hkept : ∀ {t' g w p}, Γ t' = some (g, w) → g.saving = some p →
      Function.update Γ t v t' = some (g, w) := by
    intro t' g w p ht' hsaving
    rw [Function.update_of_ne, ht']
    rintro rfl
    rw [hold g w ht'] at hsaving
    cases hsaving
  refine ⟨fun entry token htoken => ?_, fun t' g' w entry login ht' hsaving => ?_,
    fun t' step entry login current w ht' => ?_⟩
  · rw [hsaved] at htoken
    rcases h.saved entry token htoken with ⟨uniqueId, hid, hissued⟩ | ⟨t', g', login, ht', hs, hl⟩
    · exact .inl ⟨uniqueId, hid, hissued.mono haccepted⟩
    · exact .inr ⟨t', g', login, hkept ht' hs, hs, hl⟩
  · have hne := hne ht' hsaving
    rw [Function.update_of_ne hne] at ht'
    obtain ⟨hw, hlast⟩ := h.last t' g' w entry login ht' hsaving
    rw [hsaved]
    refine ⟨hw, hlast.imp_right fun ⟨t'', g'', hne', ht'', hs⟩ => ?_⟩
    obtain ⟨p, hp⟩ := Option.isSome_iff_exists.mp hs
    exact ⟨t'', g'', hne', hkept ht'' hp, hs⟩
  · rw [Function.update_of_ne (hne ht' rfl)] at ht'
    exact h.current t' step entry login current w ht'

/-- A token pair is saved. -/
theorem save (h : Saves s ledger Γ) (hold : ∀ g w, Γ t = some (g, w) → g.saving = none)
    (step : StepData) (entry : Nat) (login : String × TokenData) :
    Saves s (ledger.see t (.asyncSave entry login.2) (.ok ()))
      (Function.update Γ t (some (.saved step entry login, none))) := by
  have hself : Function.update Γ t (some (.saved step entry login, none)) t =
      some (.saved step entry login, none) := Function.update_self ..
  have hne : ∀ {t' g w p}, Γ t' = some (g, w) → g.saving = some p → t' ≠ t := by
    rintro t' g w p ht' hsaving rfl
    rw [hold g w ht'] at hsaving
    cases hsaving
  refine ⟨fun i token htoken => ?_, fun t' g' w i login' ht' hsaving => ?_,
    fun t' step' i login' current w ht' => ?_⟩
  · by_cases hi : i = entry
    · subst hi
      have htoken : Function.update ledger.saved i (some login.2) i = some token := htoken
      rw [Function.update_self] at htoken
      exact .inr ⟨t, _, login, hself, rfl, Option.some.inj htoken⟩
    · have htoken : Function.update ledger.saved entry (some login.2) i = some token := htoken
      rw [Function.update_of_ne hi] at htoken
      refine (h.saved i token htoken).imp_right fun ⟨t', g', login', ht', hs, hl⟩ => ?_
      exact ⟨t', g', login', (Function.update_of_ne (hne ht' hs) ..).trans ht', hs, hl⟩
  · by_cases ht : t' = t
    · subst ht
      cases hself.symm.trans ht'
      cases hsaving
      exact ⟨rfl, .inl (Function.update_self ..)⟩
    · rw [Function.update_of_ne ht] at ht'
      exact ⟨(h.last t' g' w i login' ht' hsaving).1, .inr ⟨t, _, Ne.symm ht, hself, rfl⟩⟩
  · by_cases ht : t' = t
    · subst ht
      cases hself.symm.trans ht'
    · rw [Function.update_of_ne ht] at ht'
      exact h.current t' step' i login' current w ht'

theorem congr (h : Saves s ledger Γ) (hentries : s'.entries = s.entries) :
    Saves s' ledger Γ where
  saved entry token htoken := by
    rw [FlowState.Owns, hentries]
    exact h.saved entry token htoken
  last := h.last
  current := by
    rw [hentries]
    exact h.current

/-- A wait ends. -/
theorem wake (h : Saves s ledger Γ) (ht : Γ t = some (g, some o)) (hmay : g.may str o)
    (hsuspends : FlowState.suspends o = true) (r : o.Res) :
    Saves s (ledger.see t o r) (Function.update Γ t (some (g.next o r, none))) := by
  have hold : ∀ g' w, Γ t = some (g', w) → g'.saving = none := by
    intro g' w ht'
    cases hsaving : g'.saving with
    | none => rfl
    | some p =>
      obtain ⟨rfl, -⟩ := h.last t g' w p.1 p.2 ht' hsaving
      cases ht.symm.trans ht'
  have hquiet : (g.next o r).saving = none → (ledger.see t o r).saved = ledger.saved →
      Saves s (ledger.see t o r) (Function.update Γ t (some (g.next o r, none))) := by
    intro hsaving hsaved
    refine h.quiet hold _ (fun g' w hg' => ?_) hsaved (ledger.see_accepted t o r)
    cases hg'
    exact hsaving
  cases o with
  | newCloudClient =>
    cases g with
    | running step => cases r <;> exact hquiet rfl rfl
    | _ => cases hmay
  | loginPassword username password =>
    cases g with
    | opened step login => cases r <;> exact hquiet rfl rfl
    | _ => cases hmay
  | devices =>
    cases g with
    | opened step login =>
      cases r with
      | error err => exact hquiet rfl rfl
      | ok summaries => cases summaries <;> cases login <;> exact hquiet rfl rfl
    | _ => cases hmay
  | aclose =>
    cases g with
    | opened step login => exact hquiet rfl rfl
    | listed step login => cases r <;> exact hquiet rfl rfl
    | _ => cases hmay
  | asyncSave entry token =>
    cases g with
    | validated step login =>
      obtain ⟨-, rfl⟩ := hmay
      cases r with
      | ok u => exact h.save hold step entry login
      | error err => exact hquiet rfl rfl
    | _ => cases hmay
  | _ => cases hsuspends

end Saves

theorem Provenance.run {str : StrMethods} {known : List String} {s : AccountState}
    {flow : FlowState} {ledger : Ledger} {Γ : View (validating str)} {t : TaskId} {g : Validation}
    {o : FlowOp} {r : o.Res} (h : Provenance str known s ledger) (hflow : InFlow s.flow Γ)
    (hsaves : Saves s.flow ledger Γ) (ht : Γ t = some (g, none)) (hbacked : g.Backed ledger t)
    (hmay : g.may str o) (hr : s.flow.runOp t o = some (r, flow)) :
    Provenance str known { s with flow := flow } (ledger.see t o r) := by
  by_cases hreads : FlowState.Reads o
  · obtain ⟨hentries, hpending⟩ := FlowState.runOp_reads hreads hr
    rw [Ledger.see_reads hreads]
    exact h.frame hpending fun e he => .inl (hentries ▸ he)
  cases o with
  | stagePendingTokens uniqueId token =>
    cases g with
    | validated step login =>
      obtain ⟨rfl, rfl⟩ := hmay
      cases hr
      exact h.stage t hbacked
    | _ => cases hmay
  | updateEntry entry uniqueId username =>
    cases g with
    | found step entry' login current =>
      obtain ⟨rfl, rfl, hid⟩ := hmay
      cases hr
      refine h.frame rfl fun e he => ?_
      obtain ⟨i, hi⟩ := List.mem_iff_getElem?.mp he
      rw [List.getElem?_modify] at hi
      obtain ⟨e₀, he₀, rfl⟩ := Option.map_eq_some_iff.mp hi
      split
      · next heq =>
        subst heq
        rw [← hsaves.current t step entry login current none ht, uniqueIdAt, he₀] at hid
        exact .inr ⟨hid, login.2, hbacked.1⟩
      · exact .inl (List.mem_of_getElem? he₀)
    | _ => cases hmay
  | finish result =>
    cases hr
    cases result with
    | form stepId base => exact h.frame rfl fun e he => .inl he
    | abort reason => exact h.frame rfl fun e he => .inl he
    | createEntry title username =>
      refine h.frame rfl fun e he => ?_
      rcases List.mem_append.mp he with hold | hnew
      · exact .inl hold
      · obtain rfl := List.mem_singleton.mp hnew
        cases g with
        | validated step login =>
          obtain ⟨rfl, hid⟩ := hmay
          obtain ⟨context, hcontext, -, hcarried⟩ := hflow.context t _ none step ht rfl
          refine .inr ⟨?_, login.2, hbacked⟩
          rw [hcontext]
          exact hcarried _ hid
        | _ => exact hmay.elim
  | _ => first | exact absurd trivial hreads | cases hr

/-! ## Runs -/

structure Accounts (str : StrMethods) (known : List String) (s : AccountState × Ledger)
    (Γ : View (validating str)) : Prop where
  flow : InFlow s.1.flow Γ
  backed : ∀ t g w, Γ t = some (g, w) → g.Backed s.2 t
  provenance : Provenance str known s.1 s.2
  saves : Saves s.1.flow s.2 Γ

namespace Accounts

variable {str : StrMethods} {known : List String} {s : AccountState × Ledger}
  {Γ : View (validating str)} {t : TaskId} {g : Validation} {w : Option FlowOp}

/-- A step that saves nothing starts, waits or ends. -/
theorem goOn (h : Accounts str known s Γ) (hold : ∀ g w, Γ t = some (g, w) → g.saving = none)
    (v : Option (Validation × Option FlowOp))
    (hdata : ∀ g' w' step, v = some (g', w') → g'.data = some step →
      ∃ w, Γ t = some (g', w))
    (hbacked : ∀ g' w', v = some (g', w') → g'.Backed s.2 t)
    (hsaving : ∀ g' w', v = some (g', w') → g'.saving = none) :
    Accounts str known s (Function.update Γ t v) where
  flow := h.flow.restage v fun g' w' step hg' hd => by
    obtain ⟨w, ht⟩ := hdata g' w' step hg' hd
    exact h.flow.context t g' w step ht hd
  backed t' g' w' ht' := by
    by_cases hne : t' = t
    · subst hne
      rw [Function.update_self] at ht'
      exact hbacked g' w' ht'
    · rw [Function.update_of_ne hne] at ht'
      exact h.backed t' g' w' ht'
  provenance := h.provenance
  saves := h.saves.quiet hold v hsaving rfl (List.Subset.refl _)

/-- The stages after an operation. -/
theorem backed_next (h : Accounts str known s Γ) (ht : Γ t = some (g, w)) {o : FlowOp}
    (hmay : g.may str o) (r : o.Res) (t' : TaskId) (g' : Validation) (w' : Option FlowOp)
    (ht' : Function.update Γ t (some (g.next o r, none)) t' = some (g', w')) :
    g'.Backed (s.2.see t o r) t' := by
  by_cases hne : t' = t
  · subst hne
    rw [Function.update_self] at ht'
    cases ht'
    exact (h.backed t' g w ht).next hmay r
  · rw [Function.update_of_ne hne] at ht'
    exact (h.backed t' g' w' ht').other hne o r

theorem keeps (str : StrMethods) (known : List String) :
    Keeps (M := ledgerMachine) (FlowRequest.prog str) (Guard.any ledgerMachine FlowRequest)
      (validating str) (fun _ => .ready) (fun _ _ g => g.settled) (Accounts str known) where
  meets req _ := flow_validating req
  spawn s Γ t req h ht _ := by
    refine h.goOn (fun g w hg => ?_) _ (fun g' w' step hg' hdata => ?_) (fun g' w' hg' => ?_)
      fun g' w' hg' => ?_
    · cases ht.symm.trans hg
    · cases hg'
      cases hdata
    · cases hg'
      trivial
    · cases hg'
      rfl
  run s Γ t g o r s' h ht hothers hmay hr _ := by
    obtain ⟨⟨r', a⟩, hrun, heq⟩ := Option.map_eq_some_iff.mp hr
    obtain ⟨⟨r'', flow⟩, hflow, heq'⟩ := Option.map_eq_some_iff.mp hrun
    cases heq'
    cases heq
    exact ⟨_, rfl, h.flow.run ht hmay hflow, h.backed_next ht hmay _,
      h.provenance.run h.flow h.saves ht (h.backed t g none ht) hmay hflow,
      h.saves.run h.flow ht hothers (h.backed t g none ht) hmay hflow⟩
  park s Γ t g o h ht hmay hr := by
    have hnone : s.1.flow.runOp t o = none :=
      Option.map_eq_none_iff.mp (Option.map_eq_none_iff.mp hr)
    have hsaving : g.saving = none := by
      cases g with
      | saved step entry login =>
        cases o with
        | entryUniqueId entry' => cases hnone
        | _ => cases hmay
      | found step entry login current =>
        cases o with
        | updateEntry entry' uniqueId username => cases hnone
        | _ => cases hmay
      | _ => rfl
    refine h.goOn (fun g' w hg' => ?_) _ (fun g' w' step hg' _ => ?_) (fun g' w' hg' => ?_)
      fun g' w' hg' => ?_
    · cases ht.symm.trans hg'
      exact hsaving
    · cases hg'
      exact ⟨none, ht⟩
    · cases hg'
      exact h.backed t g none ht
    · cases hg'
      exact hsaving
  wake s Γ t g o r s' h ht hmay hw _ := by
    obtain ⟨a, ha, rfl⟩ := Option.map_eq_some_iff.mp hw
    obtain ⟨hsuspends, rfl⟩ : FlowState.suspends o = true ∧ s.1 = a := by
      simp only at ha
      split at ha
      · next hsuspends => exact ⟨hsuspends, Option.some.inj ha⟩
      · cases ha
    refine ⟨_, rfl, ?_, h.backed_next ht hmay r, ?_, h.saves.wake ht hmay hsuspends r⟩
    · refine h.flow.goOn ht _ fun g' w hg' => ?_
      cases hg'
      exact .inr (Validation.next_suspends hsuspends hmay r)
    · exact h.provenance.grows (s.2.see_accepted t o r) (s.2.see_suspends hsuspends t r)
  finish s Γ t req r g h ht hg := by
    refine h.goOn (fun g' w hg' => ?_) _ (fun _ _ _ hg' => by cases hg')
      (fun _ _ hg' => by cases hg') fun _ _ hg' => by cases hg'
    cases ht.symm.trans hg'
    cases g <;> first | rfl | cases hg
  env s Γ entry s' h he := by
    cases he
    obtain ⟨hflows, hentries⟩ := s.1.popPendingTokens_flow entry
    exact ⟨h.flow.congr hflows hentries, h.backed, h.provenance.popPendingTokens entry,
      h.saves.congr hentries⟩

end Accounts

/-- Clients that are open. -/
def Validation.clients : Validation → Nat
  | opened _ _ | listed _ _ => 1
  | _ => 0

theorem Validation.clients_next {str : StrMethods} {ledger : Ledger} {t : TaskId} {g : Validation}
    {o : FlowOp} (h : ledger.received t = ledger.closed t + g.clients) (hmay : g.may str o)
    (r : o.Res) :
    (ledger.see t o r).received t = (ledger.see t o r).closed t + (g.next o r).clients := by
  have hself : ∀ (f : TaskId → Nat), Function.update f t (f t + 1) t = f t + 1 :=
    fun f => Function.update_self ..
  cases o with
  | newCloudClient =>
    cases g with
    | running step =>
      cases r with
      | ok u =>
        show Function.update ledger.received t (ledger.received t + 1) t = ledger.closed t + 1
        rw [hself, h]
        rfl
      | error err => exact h
    | _ => cases hmay
  | loginPassword username password =>
    cases g with
    | opened step login => cases r <;> exact h
    | _ => cases hmay
  | devices =>
    cases g with
    | opened step login =>
      cases r with
      | error err => exact h
      | ok summaries => cases summaries <;> cases login <;> exact h
    | _ => cases hmay
  | aclose =>
    have hclosed : ledger.received t = ledger.closed t + 1 → ledger.received t =
        Function.update ledger.closed t (ledger.closed t + 1) t := fun h => by rw [hself, h]
    cases g with
    | opened step login => exact hclosed h
    | listed step login => cases r <;> exact hclosed h
    | _ => cases hmay
  | asyncSave entry token =>
    cases g with
    | validated step login => cases r <;> exact h
    | _ => cases hmay
  | startFlow source =>
    cases g with
    | ready => cases r <;> exact h
    | _ => cases hmay
  | source =>
    cases g with
    | ready => cases r <;> exact h
    | _ => cases hmay
  | setUniqueId uniqueId =>
    cases g with
    | running step => cases r <;> exact h
    | _ => cases hmay
  | finish result => cases g <;> first | exact h | exact hmay.elim
  | _ => cases g <;> exact h

def openClients : Option (Validation × Option FlowOp) → Nat
  | some (g, _) => g.clients
  | none => 0

/-- Each step has closed the clients that it has received, but for the open one. -/
def ReceivedClosed {str : StrMethods} (ledger : Ledger) (Γ : View (validating str)) : Prop :=
  ∀ t, ledger.received t = ledger.closed t + openClients (Γ t)

theorem ReceivedClosed.see {str : StrMethods} {ledger : Ledger} {Γ : View (validating str)}
    {t : TaskId} {g : Validation} {w : Option FlowOp} {o : FlowOp} (h : ReceivedClosed ledger Γ)
    (ht : Γ t = some (g, w)) (hmay : g.may str o) (r : o.Res) :
    ReceivedClosed (ledger.see t o r) (Function.update Γ t (some (g.next o r, none))) := by
  intro t'
  by_cases hne : t' = t
  · subst hne
    have ht' := h t'
    rw [ht] at ht'
    rw [Function.update_self]
    exact Validation.clients_next ht' hmay r
  · obtain ⟨hreceived, hclosed⟩ := Ledger.see_clients hne o r ledger
    rw [Function.update_of_ne hne, hreceived, hclosed]
    exact h t'

theorem ReceivedClosed.goOn {str : StrMethods} {ledger : Ledger} {Γ : View (validating str)}
    {t : TaskId} (h : ReceivedClosed ledger Γ) {v : Option (Validation × Option FlowOp)}
    (hv : ledger.received t = ledger.closed t + openClients v) :
    ReceivedClosed ledger (Function.update Γ t v) := by
  intro t'
  by_cases hne : t' = t
  · subst hne
    rw [Function.update_self]
    exact hv
  · rw [Function.update_of_ne hne]
    exact h t'

section
variable (str : StrMethods) (entries : List ConfigEntry)

abbrev AccountLabel := Label ledgerMachine FlowRequest

def accountInit : Config ledgerMachine PyErr Unit FlowRequest where
  state := ({ flow := { entries := entries } }, {})
  tasks _ := none

def accountRun (ls : List AccountLabel) : Config ledgerMachine PyErr Unit FlowRequest :=
  Runs.exec (Config.step (FlowRequest.prog str)) (accountInit entries) ls

/-- **Every entry and every token pair belongs to an accepted account**, whatever the order of the
flows' steps and of the setups. -/
theorem accounts_run
    (hentries : ∀ e ∈ entries, e.uniqueId = some (normalizedUsername str e.username))
    (ls : List AccountLabel) :
    let s := (accountRun str entries ls).state.1
    let ledger := (accountRun str entries ls).state.2
    (∀ e ∈ s.flow.entries, e.uniqueId = some (normalizedUsername str e.username) ∧
      (e.username ∈ entries.map (·.username) ∨
        ∃ token, (e.username, token) ∈ ledger.accepted)) ∧
    (∀ p ∈ s.delivered ++ s.flow.pending, ledger.Issued str p.1 p.2) ∧
    (s.delivered ++ s.flow.pending).Subperm ledger.staged ∧
    ∀ entry token, ledger.saved entry = some token → s.flow.Owns str ledger entry token := by
  have hinit : Accounts str (entries.map (·.username)) (accountInit entries).state
      fun _ => none := by
    refine ⟨⟨fun _ _ _ _ ht => ?_, fun _ _ _ hc => ?_⟩, fun _ _ _ ht => ?_,
      ⟨fun e he => ⟨hentries e he, .inl (List.mem_map_of_mem he)⟩, fun _ hp => ?_, List.nodup_nil,
        List.nil_subperm⟩, ⟨fun _ _ hs => ?_, fun _ _ _ _ _ ht => ?_, fun _ _ _ _ _ _ ht => ?_⟩⟩
    · cases ht
    · cases hc
    · cases ht
    · cases hp
    · cases hs
    · cases ht
    · cases ht
  obtain ⟨Γ, hI, hT⟩ := (Accounts.keeps str _).run_inv (c := accountInit entries)
    ⟨_, hinit, Tracks.of_none fun _ => rfl⟩
    (Runs.Steps.of_forall (fun c l => Config.allowed_any _ c l) ls _)
  refine ⟨hI.provenance.entries, hI.provenance.tokens, hI.provenance.once, fun entry token hs => ?_⟩
  rcases hI.saves.saved entry token hs with howns | ⟨t, g, login, ht, -, -⟩
  · exact howns
  · exact absurd (hT.waits ht) Bool.false_ne_true

theorem receivedClosed_keeps : Keeps (M := ledgerMachine) (FlowRequest.prog str)
    (Guard.any ledgerMachine FlowRequest) (validating str) (fun _ => .ready)
    (fun _ _ g => g.settled) (fun s Γ => ReceivedClosed s.2 Γ) where
  meets req _ := flow_validating req
  spawn s Γ t req h ht _ := by
    have ht' := h t
    rw [ht] at ht'
    exact h.goOn ht'
  run s Γ t g o r s' h ht _ hmay hr _ := by
    obtain ⟨⟨r', a⟩, -, heq⟩ := Option.map_eq_some_iff.mp hr
    cases heq
    exact ⟨_, rfl, h.see ht hmay _⟩
  park s Γ t g o h ht hmay hr := by
    have ht' := h t
    rw [ht] at ht'
    exact h.goOn ht'
  wake s Γ t g o r s' h ht hmay hw _ := by
    obtain ⟨a, -, rfl⟩ := Option.map_eq_some_iff.mp hw
    exact ⟨_, rfl, h.see ht hmay r⟩
  finish s Γ t req r g h ht hg := by
    have ht' := h t
    rw [ht] at ht'
    refine h.goOn (ht'.trans ?_)
    cases g <;> first | rfl | cases hg
  env s Γ entry s' h he := by
    cases he
    exact h

/-- **A client that a flow receives is always closed**: the flow has at most one open client, and
only while its step runs. -/
theorem clients_closed (ls : List AccountLabel) (t : TaskId) :
    let c := accountRun str entries ls
    c.state.2.closed t ≤ c.state.2.received t ∧ c.state.2.received t ≤ c.state.2.closed t + 1 ∧
      (c.tasks t = none → c.state.2.received t = c.state.2.closed t) := by
  have hinit : @ReceivedClosed str (accountInit entries).state.2 fun _ => none := fun _ => rfl
  obtain ⟨Γ, hI, hT⟩ := (receivedClosed_keeps str).run_inv (c := accountInit entries)
    ⟨_, hinit, Tracks.of_none fun _ => rfl⟩
    (Runs.Steps.of_forall (fun c l => Config.allowed_any _ c l) ls _)
  have hbalance := hI t
  have htask := hT t
  refine ⟨?_, ?_, fun hended => ?_⟩
  · exact (Nat.le_add_right _ _).trans hbalance.ge
  · refine hbalance.le.trans (Nat.add_le_add_left ?_ _)
    cases Γ t with
    | none => exact Nat.zero_le 1
    | some p =>
      obtain ⟨g, w⟩ := p
      cases g <;> first | exact Nat.zero_le 1 | exact Nat.le_refl 1
  · have hended : (accountRun str entries ls).tasks t = none := hended
    rw [show (Runs.exec _ (accountInit entries) ls).tasks t = none from hended] at htask
    rw [htask] at hbalance
    exact hbalance

end

/-- The reauthentication of the entry as `b`, the user flow for `a`, and the setup of its entry. -/
def accountMoved : List AccountLabel :=
  [.spawn 1 (.init (.reauth 0)), .spawn 1 (.submit ⟨"b", "pw"⟩)] ++
    List.replicate 5 (.resume 1 validates) ++
    [.spawn 2 (.init .user), .spawn 2 (.submit ⟨"a", "pw"⟩)] ++
    List.replicate 4 (.resume 2 validates) ++ [.env 1]

theorem accounts_moved :
    (accountRun ⟨id, id⟩ entryA accountMoved).state.2.Issued ⟨id, id⟩ "a"
      ⟨.str "access", .str "refresh", .finite 100⟩ := by
  obtain ⟨-, htokens, -, -⟩ := accounts_run ⟨id, id⟩ entryA (by decide) accountMoved
  have hdelivered : (accountRun ⟨id, id⟩ entryA accountMoved).state.1.delivered =
      [("a", ⟨.str "access", .str "refresh", .finite 100⟩)] := by rfl
  exact htokens _ (List.mem_append_left _ (hdelivered ▸ List.mem_cons_self))

end DanalockBle
