import DanalockBle.Broadcast.SettingCache
import DanalockBle.Entry.Queues
import DanalockBle.Entry.SettingAnswers

/-!
# The order of settings results

A settings read or write shows the settings it read back only after the disconnect that follows
its call, and that disconnect waits in the queue of the facade that `self._lock` is when the call
ends. Answers whose disconnects wait in one queue are shown in the order the lock gave them. A
key swap in between gives the next answer another queue, and an older answer can be shown last.
-/

namespace DanalockBle

open Coroutine DanalockDeviceState

/-! ## The answers in order -/

/-- The settings that a task in the stage owes to the cache. -/
def Stage.owedAt (p : Option (Stage × Option Op)) : Option LockSettings := p.bind (·.1.owed)

/-- The answers, newest first, by what their tasks wait for: `joining` reads `self._lock` next or
joins the queue of `facade`, `waiting` are in that queue, `ending` write the cache next, `ended`
have written it. -/
structure Groups where
  facade : FacadeRef
  joining : List Answer := []
  waiting : List Answer := []
  ending : List Answer := []
  ended : List Answer := []

/-- The answers whose tasks have not written the cache yet. -/
def Groups.unended (G : Groups) : List Answer := G.joining ++ (G.waiting ++ G.ending)

/-- The answers are in these groups, and those that wait are in the order of the queue. -/
structure Ordered (serial : Serial) (start : SettingName → Option Int) (e : Entry)
    (answers : List Answer) (Γ : View (answering serial)) (G : Groups) : Prop where
  answers_eq : answers = G.joining ++ (G.waiting ++ (G.ending ++ G.ended))
  joining_le : G.joining.length ≤ 1
  known : G.facade.serial = serial ∧ G.facade.gen ≤ (e.current serial).gen
  current : G.joining ≠ [] → e.current serial = G.facade
  joining : ∀ x ∈ G.joining, x.pending = true ∧ (Γ x.task = some (.answered x.settings, none) ∨
    Γ x.task = some (.closing x.settings G.facade, none))
  waiting : ∀ x ∈ G.waiting, x.pending = true ∧
    Γ x.task = some (.closing x.settings G.facade, some (.disconnect G.facade))
  ending : ∀ x ∈ G.ending, x.pending = false ∧ Γ x.task = some (.applying x.settings, none)
  ended : ∀ x ∈ G.ended, x.pending = false
  cover : ∀ t, Stage.owedAt (Γ t) ≠ none → ∃ x ∈ G.unended, x.task = t
  order : (G.waiting.reverse.map fun x => (x.task, false)).Sublist (e.facade G.facade).queue
  cached : (e.monitor.states serial).settingValues = Answer.shown start G.ended

section
variable {serial : Serial} {start : SettingName → Option Int} {e e' : Entry}
  {answers : List Answer} {Γ : View (answering serial)} {G : Groups} {t : TaskId}

theorem Groups.mem_unended {x : Answer} :
    x ∈ G.unended ↔ x ∈ G.joining ∨ x ∈ G.waiting ∨ x ∈ G.ending := by
  simp only [unended, List.mem_append]

/-- A task whose answer is not shown owes it. -/
theorem Ordered.owed (h : Ordered serial start e answers Γ G) {x : Answer} (hx : x ∈ G.unended) :
    Stage.owedAt (Γ x.task) = some x.settings := by
  rcases Groups.mem_unended.mp hx with hx | hx | hx
  · rcases (h.joining x hx).2 with hΓ | hΓ <;> rw [hΓ] <;> rfl
  · rw [(h.waiting x hx).2]
    rfl
  · rw [(h.ending x hx).2]
    rfl

theorem Ordered.task_ne (h : Ordered serial start e answers Γ G)
    (ht : Stage.owedAt (Γ t) = none) {x : Answer} (hx : x ∈ G.unended) : x.task ≠ t := by
  rintro rfl
  rw [h.owed hx] at ht
  cases ht

/-- A pending answer is that of a task which owes it. -/
theorem Ordered.pending (h : Ordered serial start e answers Γ G) {x : Answer}
    (hx : x ∈ answers) (hp : x.pending = true) : x ∈ G.joining ∨ x ∈ G.waiting := by
  rw [h.answers_eq] at hx
  simp only [List.mem_append] at hx
  rcases hx with hx | hx | hx | hx
  · exact .inl hx
  · exact .inr hx
  · rw [(h.ending x hx).1] at hp
    cases hp
  · rw [h.ended x hx] at hp
    cases hp

/-- A step that leaves the facade's queue, `self._lock` and the cache alone. -/
theorem Ordered.frame (h : Ordered serial start e answers Γ G)
    (hqueue : (e'.facade G.facade).queue = (e.facade G.facade).queue)
    (hcurrent : e'.current serial = e.current serial)
    (hcached : (e'.monitor.states serial).settingValues =
      (e.monitor.states serial).settingValues) : Ordered serial start e' answers Γ G :=
  { h with
    known := by rw [hcurrent]; exact h.known
    current := by rw [hcurrent]; exact h.current
    order := by rw [hqueue]; exact h.order
    cached := hcached.trans h.cached }

/-- Every task that owes an answer after a step of `t` has it among the new groups. -/
theorem Ordered.covers (h : Ordered serial start e answers Γ G) {p : Option (Stage × Option Op)}
    {G' : Groups} (hself : Stage.owedAt p ≠ none → ∃ x ∈ G'.unended, x.task = t)
    (hkept : ∀ x ∈ G.unended, x.task ≠ t → x ∈ G'.unended) {t' : TaskId}
    (ht' : Stage.owedAt (Function.update Γ t p t') ≠ none) : ∃ x ∈ G'.unended, x.task = t' := by
  by_cases hne : t' = t
  · subst hne
    rw [Function.update_self] at ht'
    exact hself ht'
  · rw [Function.update_of_ne hne] at ht'
    obtain ⟨x, hx, rfl⟩ := h.cover t' ht'
    exact ⟨x, hkept x hx hne, rfl⟩

/-- A task that owes nothing goes on to owe nothing. -/
theorem Ordered.idle (h : Ordered serial start e answers Γ G)
    (hbefore : Stage.owedAt (Γ t) = none) {p : Option (Stage × Option Op)}
    (hafter : Stage.owedAt p = none) :
    Ordered serial start e answers (Function.update Γ t p) G := by
  have hΓ : ∀ {x}, x ∈ G.unended → Function.update Γ t p x.task = Γ x.task := fun hx =>
    Function.update_of_ne (h.task_ne hbefore hx) ..
  refine { h with
    joining := fun x hx => ?_
    waiting := fun x hx => ?_
    ending := fun x hx => ?_
    cover := fun t' => h.covers (fun hp => absurd hafter hp) fun x hx _ => hx }
  · rw [hΓ (Groups.mem_unended.mpr (.inl hx))]
    exact h.joining x hx
  · rw [hΓ (Groups.mem_unended.mpr (.inr (.inl hx)))]
    exact h.waiting x hx
  · rw [hΓ (Groups.mem_unended.mpr (.inr (.inr hx)))]
    exact h.ending x hx

/-- A task that waits is none of those that join. -/
theorem Ordered.joining_ne (h : Ordered serial start e answers Γ G) {g : Stage} {o : Op}
    (ht : Γ t = some (g, some o)) {x : Answer} (hx : x ∈ G.joining) : x.task ≠ t := by
  rintro rfl
  rcases (h.joining x hx).2 with hΓ | hΓ <;> cases hΓ.symm.trans ht

/-- A task that runs is none of those in the queue. -/
theorem Ordered.waiting_ne (h : Ordered serial start e answers Γ G) {g : Stage}
    (ht : Γ t = some (g, none)) {x : Answer} (hx : x ∈ G.waiting) : x.task ≠ t := by
  rintro rfl
  cases (h.waiting x hx).2.symm.trans ht

theorem Ordered.ending_ne (h : Ordered serial start e answers Γ G) {g : Stage} {w : Option Op}
    (ht : Γ t = some (g, w)) (hg : ∀ settings, g ≠ .applying settings) {x : Answer}
    (hx : x ∈ G.ending) : x.task ≠ t := by
  rintro rfl
  have hΓ := (h.ending x hx).2
  rw [ht] at hΓ
  cases hΓ
  exact hg _ rfl

/-- Where the answer of a task that owes it stands. -/
theorem Ordered.locate (h : Ordered serial start e answers Γ G) {g : Stage} {w : Option Op}
    {settings : LockSettings} (ht : Γ t = some (g, w)) (hg : g.owed = some settings) :
    (∃ x, G.joining = [x] ∧ x.task = t ∧ x.settings = settings ∧ w = none ∧
        (g = .answered settings ∨ g = .closing settings G.facade)) ∨
      (∃ x ∈ G.waiting, x.task = t ∧ x.settings = settings ∧ g = .closing settings G.facade ∧
        w = some (.disconnect G.facade)) ∨
      ∃ x ∈ G.ending, x.task = t ∧ x.settings = settings ∧ g = .applying settings ∧ w = none := by
  have howed : Stage.owedAt (Γ t) = some settings := by
    rw [ht]
    exact hg
  obtain ⟨x, hx, rfl⟩ := h.cover t (by rw [howed]; exact nofun)
  obtain rfl : x.settings = settings := Option.some.inj ((h.owed hx).symm.trans howed)
  rcases Groups.mem_unended.mp hx with hx | hx | hx
  · have hone : G.joining = [x] := by
      obtain ⟨y, hy⟩ := List.length_eq_one_iff.mp
        (Nat.le_antisymm h.joining_le (List.length_pos_of_mem hx))
      rw [hy] at hx ⊢
      rw [List.mem_singleton.mp hx]
    rcases (h.joining x hx).2 with hΓ | hΓ
    · rw [ht] at hΓ
      cases hΓ
      exact .inl ⟨x, hone, rfl, rfl, rfl, .inl rfl⟩
    · rw [ht] at hΓ
      cases hΓ
      exact .inl ⟨x, hone, rfl, rfl, rfl, .inr rfl⟩
  · have hΓ := (h.waiting x hx).2
    rw [ht] at hΓ
    cases hΓ
    exact .inr (.inl ⟨x, hx, rfl, rfl, rfl, rfl⟩)
  · have hΓ := (h.ending x hx).2
    rw [ht] at hΓ
    cases hΓ
    exact .inr (.inr ⟨x, hx, rfl, rfl, rfl, rfl⟩)

/-- The answers that wait stay in order when a task none of them is of leaves the queue. -/
theorem order_leave {l : List Answer} {queue : List (TaskId × Bool)}
    (h : (l.reverse.map fun x => (x.task, false)).Sublist queue) (hne : ∀ x ∈ l, x.task ≠ t) :
    (l.reverse.map fun x => (x.task, false)).Sublist (queue.filter (·.1 != t)) := by
  have hfilter := h.filter (·.1 != t)
  rwa [List.filter_eq_self.mpr] at hfilter
  intro p hp
  obtain ⟨x, hx, rfl⟩ := List.mem_map.mp hp
  simpa using hne x (List.mem_reverse.mp hx)

/-! ## One step of a task that has an answer -/

/-- The cleanup reads `self._lock`. -/
theorem Ordered.readLock (h : Ordered serial start e answers Γ G) {settings : LockSettings}
    (ht : Γ t = some (.answered settings, none)) :
    Ordered serial start e answers
      (Function.update Γ t (some (.closing settings (e.current serial), none))) G := by
  obtain ⟨x, hone, hx, rfl, -, -⟩ | ⟨x, -, -, -, hg, -⟩ | ⟨x, -, -, -, hg, -⟩ := h.locate ht rfl
  · have hcurrent := h.current (by rw [hone]; exact List.cons_ne_nil _ _)
    refine { h with
      joining := fun y hy => ?_
      waiting := fun y hy => ?_
      ending := fun y hy => ?_
      cover := fun t' => h.covers (fun _ => ⟨x, Groups.mem_unended.mpr (.inl ?_), hx⟩)
        fun y hy _ => hy }
    · rw [hone] at hy
      obtain rfl := List.mem_singleton.mp hy
      refine ⟨(h.joining y (by rw [hone]; exact hy)).1, .inr ?_⟩
      rw [hx, Function.update_self, hcurrent]
    · rw [Function.update_of_ne (h.waiting_ne ht hy)]
      exact h.waiting y hy
    · rw [Function.update_of_ne (h.ending_ne ht nofun hy)]
      exact h.ending y hy
    · rw [hone]
      exact List.mem_singleton_self x
  · cases hg
  · cases hg

/-- The disconnect joins the queue. -/
theorem Ordered.join (h : Ordered serial start e answers Γ G) {settings : LockSettings}
    {f : FacadeRef} (ht : Γ t = some (.closing settings f, none)) :
    ∃ G', Ordered serial start (e.parkOp t (.disconnect f)) answers
      (Function.update Γ t (some (.closing settings f, some (.disconnect f)))) G' := by
  obtain ⟨x, hone, hx, rfl, -, hg⟩ | ⟨x, -, -, -, -, hw⟩ | ⟨x, -, -, -, hg, -⟩ := h.locate ht rfl
  · obtain rfl : f = G.facade := by
      rcases hg with hg | hg
      · cases hg
      · injection hg
    have hqueue : ((e.parkOp t (.disconnect G.facade)).facade G.facade).queue =
        (e.facade G.facade).queue ++ [(t, false)] := by
      rcases parkOp_queue e t (.disconnect G.facade) G.facade with ⟨-, hq⟩ | ⟨hw, -⟩
      · exact hq
      · exact absurd rfl hw
    have hunended : G.unended = x :: (G.waiting ++ G.ending) := by
      unfold Groups.unended
      rw [hone]
      rfl
    refine ⟨{ G with joining := [], waiting := x :: G.waiting }, ?_, Nat.zero_le _, ?_,
      fun hne => absurd rfl hne, fun _ hy => absurd hy List.not_mem_nil, fun y hy => ?_,
      fun y hy => ?_, h.ended,
      fun t' => h.covers (fun _ => ⟨x, List.mem_cons_self, hx⟩) fun y hy _ => ?_, ?_, ?_⟩
    · rw [h.answers_eq, hone]
      rfl
    · rw [Entry.parkOp_current]
      exact h.known
    · rcases List.mem_cons.mp hy with rfl | hy
      · refine ⟨(h.joining y (by rw [hone]; exact List.mem_singleton_self y)).1, ?_⟩
        rw [hx, Function.update_self]
      · rw [Function.update_of_ne (h.waiting_ne ht hy)]
        exact h.waiting y hy
    · rw [Function.update_of_ne (h.ending_ne ht nofun hy)]
      exact h.ending y hy
    · rw [hunended] at hy
      exact hy
    · rw [hqueue, List.reverse_cons, List.map_append]
      refine h.order.append ?_
      rw [← hx]
      exact List.Sublist.refl _
    · rw [Entry.parkOp_monitor]
      exact h.cached
  · cases hw
  · cases hg

theorem map_close {l : List Answer} (h : ∀ x ∈ l, x.task = t → x.pending = false) :
    l.map (Answer.close t) = l := by
  refine (List.map_congr_left fun x hx => ?_).trans (List.map_id l)
  unfold Answer.close
  split
  · next ht => rw [← h x hx ht]; rfl
  · rfl

theorem filter_survives {l : List Answer} (h : ∀ x ∈ l, x.task = t → x.pending = false) :
    l.filter (Answer.survives t) = l := by
  refine List.filter_eq_self.mpr fun x hx => ?_
  by_cases ht : x.task = t
  · simp [Answer.survives, h x hx ht]
  · simp [Answer.survives, ht]

/-- The oldest answer that waits is that of the task at the head of the queue. -/
theorem Ordered.oldest (h : Ordered serial start e answers Γ G)
    (hnodup : (e.facade G.facade).queue.Nodup)
    (hhead : (e.facade G.facade).queue.head? = some (t, false)) {x : Answer}
    (hx : x ∈ G.waiting) (ht : x.task = t) :
    ∃ l y, G.waiting = l ++ [y] ∧ y.task = t ∧ ∀ z ∈ l, z.task ≠ t := by
  have hmem : (t, false) ∈ G.waiting.reverse.map fun x => (x.task, false) :=
    List.mem_map.mpr ⟨x, List.mem_reverse.mpr hx, by rw [ht]⟩
  obtain ⟨rest, hrest⟩ := head_of_sublist h.order hnodup hhead hmem
  obtain ⟨y, l, hl, hy, rfl⟩ := List.map_eq_cons_iff.mp hrest
  have hwaiting : G.waiting = l.reverse ++ [y] := by
    rw [← List.reverse_reverse G.waiting, hl, List.reverse_cons]
  refine ⟨l.reverse, y, hwaiting, (Prod.mk.inj hy).1, fun z hz heq => ?_⟩
  have honce : ((t, false) :: l.map fun x => (x.task, false)).Nodup := by
    rw [← hrest]
    exact hnodup.sublist h.order
  refine (List.nodup_cons.mp honce).1 (List.mem_map.mpr ⟨z, List.mem_reverse.mp hz, ?_⟩)
  rw [heq]

/-- The disconnect ends, and the task goes on to write the cache. -/
theorem Ordered.closed (h : Ordered serial start e answers Γ G)
    (hnodup : ∀ f, (e.facade f).queue.Nodup) {settings : LockSettings} {f : FacadeRef}
    (ht : Γ t = some (.closing settings f, some (.disconnect f)))
    (hhead : (e.facade f).queue.head? = some (t, false))
    (hqueue : (e'.facade f).queue = (e.facade f).queue.filter (·.1 != t))
    (hcurrent : e'.current serial = e.current serial)
    (hmonitor : e'.monitor = e.monitor) :
    ∃ G', Ordered serial start e' (answers.map (Answer.close t))
      (Function.update Γ t (some (.applying settings, none))) G' := by
  obtain ⟨x, -, -, -, hw, -⟩ | ⟨x, hx, hxt, rfl, hg, -⟩ | ⟨x, -, -, -, hg, -⟩ := h.locate ht rfl
  · cases hw
  · obtain rfl : f = G.facade := by injection hg
    obtain ⟨l, y, hwaiting, hy, hl⟩ := h.oldest (hnodup _) hhead hx hxt
    have hyw : y ∈ G.waiting := by
      rw [hwaiting]
      exact List.mem_append.mpr (.inr (List.mem_singleton_self y))
    have hys : y.settings = x.settings := by
      have hΓ := (h.waiting y hyw).2
      rw [hy, ht] at hΓ
      injection (Prod.mk.inj (Option.some.inj hΓ)).1 with hs
      exact hs.symm
    have hlw : ∀ z ∈ l, z ∈ G.waiting := fun z hz => by
      rw [hwaiting]
      exact List.mem_append.mpr (.inl hz)
    refine ⟨{ G with waiting := l, ending := { y with pending := false } :: G.ending }, ?_,
      h.joining_le, by rw [hcurrent]; exact h.known, by rw [hcurrent]; exact h.current,
      fun z hz => ?_, fun z hz => ?_, fun z hz => ?_, h.ended,
      fun t' => h.covers (fun _ => ⟨{ y with pending := false }, ?_, hy⟩) fun z hz hne => ?_, ?_,
      ?_⟩
    · rw [h.answers_eq, hwaiting]
      simp only [List.map_append, List.map_cons, List.append_assoc, List.cons_append,
        List.nil_append]
      rw [map_close fun z hz heq => absurd heq (h.joining_ne ht hz),
        map_close fun z hz heq => absurd heq (hl z hz),
        map_close fun z hz _ => (h.ending z hz).1, map_close fun z hz _ => h.ended z hz]
      simp only [Answer.close, hy, if_true]
    · rw [Function.update_of_ne (h.joining_ne ht hz)]
      exact h.joining z hz
    · rw [Function.update_of_ne (hl z hz)]
      exact h.waiting z (hlw z hz)
    · rcases List.mem_cons.mp hz with rfl | hz
      · refine ⟨rfl, ?_⟩
        rw [hy, Function.update_self, hys]
      · rw [Function.update_of_ne (h.ending_ne ht nofun hz)]
        exact h.ending z hz
    · exact Groups.mem_unended.mpr (.inr (.inr List.mem_cons_self))
    · refine Groups.mem_unended.mpr ?_
      rcases Groups.mem_unended.mp hz with hz | hz | hz
      · exact .inl hz
      · rw [hwaiting] at hz
        rcases List.mem_append.mp hz with hz | hz
        · exact .inr (.inl hz)
        · rw [List.mem_singleton.mp hz] at hne
          exact absurd hy hne
      · exact .inr (.inr (List.mem_cons_of_mem _ hz))
    · rw [hqueue]
      refine order_leave (.trans ?_ h.order) hl
      rw [hwaiting]
      exact (List.Sublist.reverse (List.sublist_append_left l [y])).map _
    · rw [hmonitor]
      exact h.cached
  · cases hg

/-- The disconnect fails, and with it the attempt. -/
theorem Ordered.failed (h : Ordered serial start e answers Γ G) {settings : LockSettings}
    {f : FacadeRef} (ht : Γ t = some (.closing settings f, some (.disconnect f)))
    (hqueue : (e'.facade f).queue = (e.facade f).queue.filter (·.1 != t))
    (hcurrent : e'.current serial = e.current serial)
    (hmonitor : e'.monitor = e.monitor) :
    ∃ G', Ordered serial start e' (answers.filter (Answer.survives t))
      (Function.update Γ t (some (.free, none))) G' := by
  obtain ⟨x, -, -, -, hw, -⟩ | ⟨x, -, -, -, hg, -⟩ | ⟨x, -, -, -, hg, -⟩ := h.locate ht rfl
  · cases hw
  · obtain rfl : f = G.facade := by injection hg
    have hwaiting : ∀ z ∈ G.waiting.filter fun z => z.task != t, z ∈ G.waiting ∧ z.task ≠ t :=
      fun z hz => by simpa using List.mem_filter.mp hz
    refine ⟨{ G with waiting := G.waiting.filter fun z => z.task != t }, ?_,
      h.joining_le, by rw [hcurrent]; exact h.known, by rw [hcurrent]; exact h.current,
      fun z hz => ?_, fun z hz => ?_, fun z hz => ?_, h.ended,
      fun t' => h.covers (fun hp => absurd rfl hp) fun z hz hne => ?_, ?_, ?_⟩
    · rw [h.answers_eq]
      simp only [List.filter_append]
      rw [filter_survives fun z hz heq => absurd heq (h.joining_ne ht hz),
        filter_survives fun z hz _ => (h.ending z hz).1,
        filter_survives fun z hz _ => h.ended z hz]
      have hkept : G.waiting.filter (Answer.survives t) =
          G.waiting.filter fun z => z.task != t := by
        refine List.filter_congr fun z hz => ?_
        rw [Answer.survives, (h.waiting z hz).1, Bool.and_true]
        rfl
      rw [hkept]
    · rw [Function.update_of_ne (h.joining_ne ht hz)]
      exact h.joining z hz
    · rw [Function.update_of_ne (hwaiting z hz).2]
      exact h.waiting z (hwaiting z hz).1
    · rw [Function.update_of_ne (h.ending_ne ht nofun hz)]
      exact h.ending z hz
    · refine Groups.mem_unended.mpr ?_
      rcases Groups.mem_unended.mp hz with hz | hz | hz
      · exact .inl hz
      · exact .inr (.inl (List.mem_filter.mpr ⟨hz, by simpa using hne⟩))
      · exact .inr (.inr hz)
    · rw [hqueue]
      refine order_leave (.trans ?_ h.order) fun z hz => (hwaiting z hz).2
      exact List.filter_sublist.reverse.map _
    · rw [hmonitor]
      exact h.cached
  · cases hg

/-- The cache is written while every other task waits. -/
theorem Ordered.apply (h : Ordered serial start e answers Γ G) {settings : LockSettings}
    (ht : Γ t = some (.applying settings, none))
    (hothers : ∀ t' g' w, t' ≠ t → Γ t' = some (g', w) → w.isSome = true)
    (hqueue : (e'.facade G.facade).queue = (e.facade G.facade).queue)
    (hcurrent : e'.current serial = e.current serial)
    (hcached : (e'.monitor.states serial).settingValues =
      fun name => some (settingOf settings name)) :
    ∃ G', Ordered serial start e' answers (Function.update Γ t (some (.free, none))) G' := by
  obtain ⟨x, -, -, -, -, hg⟩ | ⟨x, -, -, -, hg, -⟩ | ⟨x, hx, -, -, -, -⟩ := h.locate ht rfl
  · rcases hg with hg | hg <;> cases hg
  · cases hg
  · have hending : ∀ z ∈ G.ending, z.task = t ∧ z.settings = settings := by
      intro z hz
      have hΓ := (h.ending z hz).2
      have hzt : z.task = t := by
        by_contra hne
        exact Bool.false_ne_true (hothers z.task _ _ hne hΓ)
      rw [hzt, ht] at hΓ
      injection (Prod.mk.inj (Option.some.inj hΓ)).1 with hs
      exact ⟨hzt, hs.symm⟩
    have hjoining : ∀ z ∈ G.joining, z.task ≠ t := by
      rintro z hz rfl
      rcases (h.joining z hz).2 with hΓ | hΓ <;> cases hΓ.symm.trans ht
    refine ⟨{ G with ending := [], ended := G.ending ++ G.ended }, ?_, h.joining_le,
      by rw [hcurrent]; exact h.known, by rw [hcurrent]; exact h.current, fun z hz => ?_,
      fun z hz => ?_, fun z hz => absurd hz List.not_mem_nil, fun z hz => ?_,
      fun t' => h.covers (fun hp => absurd rfl hp) fun z hz hne => ?_,
      by rw [hqueue]; exact h.order, ?_⟩
    · rw [h.answers_eq]
      rfl
    · rw [Function.update_of_ne (hjoining z hz)]
      exact h.joining z hz
    · rw [Function.update_of_ne (h.waiting_ne ht hz)]
      exact h.waiting z hz
    · rcases List.mem_append.mp hz with hz | hz
      · exact (h.ending z hz).1
      · exact h.ended z hz
    · refine Groups.mem_unended.mpr ?_
      rcases Groups.mem_unended.mp hz with hz | hz | hz
      · exact .inl hz
      · exact .inr (.inl hz)
      · exact absurd (hending z hz).1 hne
    · rw [hcached]
      cases hcase : G.ending with
      | nil =>
        rw [hcase] at hx
        cases hx
      | cons y rest =>
        rw [← (hending y (by rw [hcase]; exact List.mem_cons_self)).2]
        rfl

/-! Answers that are not shown and wait for a facade are neither joining nor bound for another. -/

theorem Ordered.joining_nil (h : Ordered serial start e answers Γ G) {f : FacadeRef}
    (hwaits : ∀ x ∈ answers, x.pending = true →
      ∃ g o, Γ x.task = some (g, some o) ∧ o.waitsFor = some f) : G.joining = [] := by
  refine List.eq_nil_iff_forall_not_mem.mpr fun x hx => ?_
  have hmem : x ∈ answers := by
    rw [h.answers_eq]
    exact List.mem_append.mpr (.inl hx)
  obtain ⟨g, o', hΓ, -⟩ := hwaits x hmem (h.joining x hx).1
  rcases (h.joining x hx).2 with hΓ' | hΓ' <;> rw [hΓ] at hΓ' <;> cases hΓ'

theorem Ordered.waiting_facade (h : Ordered serial start e answers Γ G) {f : FacadeRef}
    (hwaits : ∀ x ∈ answers, x.pending = true →
      ∃ g o, Γ x.task = some (g, some o) ∧ o.waitsFor = some f) {x : Answer}
    (hx : x ∈ G.waiting) : G.facade = f := by
  have hmem : x ∈ answers := by
    rw [h.answers_eq]
    exact List.mem_append.mpr (.inr (List.mem_append.mpr (.inl hx)))
  obtain ⟨g, o', hΓ, hw⟩ := hwaits x hmem (h.waiting x hx).1
  rw [(h.waiting x hx).2] at hΓ
  cases hΓ
  exact Option.some.inj hw

/-- The lock answers while every earlier answer has been shown or waits in the current queue. -/
theorem Ordered.answer (h : Ordered serial start e answers Γ G) (hq : Queues e Γ)
    {settings : LockSettings} {o : Op} (ht : Γ t = some (.free, some o))
    (hqueued : e.queuedAnswers serial answers = true)
    (hqueue : ∀ f, (e'.facade f).queue = if o.waitsFor = some f then
      (e.facade f).queue.filter (·.1 != t) else (e.facade f).queue)
    (hcurrent : e'.current serial = e.current serial)
    (hmonitor : e'.monitor = e.monitor) :
    ∃ G', Ordered serial start e' (⟨t, settings, true⟩ :: answers)
      (Function.update Γ t (some (.answered settings, none))) G' := by
  have hfree : Stage.owedAt (Γ t) = none := by
    rw [ht]
    rfl
  -- an answer that is not shown waits for the current facade
  have hwaits : ∀ x ∈ answers, x.pending = true →
      ∃ g o, Γ x.task = some (g, some o) ∧ o.waitsFor = some (e.current serial) := by
    intro x hx hp
    have hmem := List.all_eq_true.mp hqueued x hx
    rw [hp] at hmem
    exact hq.waits _ _ _ (of_decide_eq_true hmem)
  have hnone := h.joining_nil hwaits
  have hfacade : ∀ x ∈ G.waiting, G.facade = e.current serial := fun _ => h.waiting_facade hwaits
  have hne : ∀ {x}, x ∈ G.unended → x.task ≠ t := fun hx => h.task_ne hfree hx
  refine ⟨{ G with facade := e.current serial, joining := [⟨t, settings, true⟩] }, ?_,
    Nat.le_refl 1, ?_, fun _ => hcurrent, fun x hx => ?_, fun x hx => ?_, fun x hx => ?_,
    h.ended, fun t' => h.covers (fun _ => ⟨⟨t, settings, true⟩, Groups.mem_unended.mpr
      (.inl (List.mem_singleton_self _)), rfl⟩) fun z hz _ => Groups.mem_unended.mpr (.inr ?_),
    ?_, ?_⟩
  · rw [h.answers_eq, hnone]
    rfl
  · rw [hcurrent]
    exact ⟨rfl, Nat.le_refl _⟩
  · rw [List.mem_singleton.mp hx]
    exact ⟨rfl, .inl (Function.update_self ..)⟩
  · rw [Function.update_of_ne (hne (Groups.mem_unended.mpr (.inr (.inl hx)))), ← hfacade x hx]
    exact h.waiting x hx
  · rw [Function.update_of_ne (hne (Groups.mem_unended.mpr (.inr (.inr hx))))]
    exact h.ending x hx
  · have hz := Groups.mem_unended.mp hz
    rw [hnone] at hz
    exact hz.resolve_left List.not_mem_nil
  · cases hcase : G.waiting with
    | nil => exact List.nil_sublist _
    | cons y rest =>
      have hy : y ∈ G.waiting := by rw [hcase]; exact List.mem_cons_self
      rw [← hcase, ← hfacade y hy, hqueue]
      split
      · exact order_leave h.order fun x hx => hne (Groups.mem_unended.mpr (.inr (.inl hx)))
      · exact h.order
  · rw [hmonitor]
    exact h.cached

/-- A task without an answer leaves a queue. -/
theorem Ordered.leave (h : Ordered serial start e answers Γ G)
    (hfree : Stage.owedAt (Γ t) = none) {o : Op}
    (hqueue : ∀ f, (e'.facade f).queue = if o.waitsFor = some f then
      (e.facade f).queue.filter (·.1 != t) else (e.facade f).queue)
    (hcurrent : e'.current serial = e.current serial)
    (hmonitor : e'.monitor = e.monitor) : Ordered serial start e' answers Γ G := by
  refine { h with
    known := by rw [hcurrent]; exact h.known
    current := by rw [hcurrent]; exact h.current
    order := ?_
    cached := by rw [hmonitor]; exact h.cached }
  rw [hqueue]
  split
  · exact order_leave h.order fun x hx =>
      h.task_ne hfree (Groups.mem_unended.mpr (.inr (.inl hx)))
  · exact h.order

/-- A new facade, while every task whose answer has not joined the queue waits. -/
theorem Ordered.buildFacade (h : Ordered serial start e answers Γ G)
    (ht : Γ t = some (.free, none))
    (hothers : ∀ t' g' w, t' ≠ t → Γ t' = some (g', w) → w.isSome = true) (s : Serial)
    (token : Bytes) : Ordered serial start (e.buildFacade s token) answers Γ G := by
  have hnone : G.joining = [] := by
    refine List.eq_nil_iff_forall_not_mem.mpr fun x hx => ?_
    have hne : x.task ≠ t := h.task_ne (by rw [ht]; rfl) (Groups.mem_unended.mpr (.inl hx))
    rcases (h.joining x hx).2 with hΓ | hΓ <;> exact Bool.false_ne_true (hothers _ _ _ hne hΓ)
  have hgen : (e.current serial).gen ≤ ((e.buildFacade s token).current serial).gen := by
    rw [Entry.current_buildFacade]
    split
    · next hs =>
      rw [← hs]
      exact Nat.le_succ _
    · exact Nat.le_refl _
  have hne : G.facade ≠ ⟨s, (e.current s).gen + 1⟩ := by
    intro heq
    have hs := h.known.1
    have hle := h.known.2
    rw [heq] at hs hle
    simp only at hs hle
    subst hs
    omega
  refine { h with
    known := ⟨h.known.1, Nat.le_trans h.known.2 hgen⟩
    current := fun hj => absurd hnone hj
    order := ?_
    cached := h.cached }
  rw [Entry.facade_buildFacade, if_neg hne]
  exact h.order

/-- Only a write of the cache changes it. -/
theorem runOp_settingValues {o : Op} {r : o.Res} (hr : e.runOp t o = some (r, e'))
    (ho : ∀ settings, o ≠ .applySettings serial settings) :
    (e'.monitor.states serial).settingValues = (e.monitor.states serial).settingValues := by
  rw [Entry.runOp_states serial 0 hr]
  funext name
  rw [step_settingValues]
  cases o with
  | setPending s locked =>
    simp only [Op.deviceEvent]
    split <;> rfl
  | applySettings s settings =>
    have hs : serial ≠ s := fun hs => ho settings (by rw [hs])
    simp only [Op.deviceEvent, if_neg hs]
    rfl
  | _ => rfl

/-- What a task does that has no answer. -/
theorem Ordered.runFree (h : Ordered serial start e answers Γ G) (ht : Γ t = some (.free, none))
    (hothers : ∀ t' g' w, t' ≠ t → Γ t' = some (g', w) → w.isSome = true) {o : Op} {r : o.Res}
    (hmay : (answering serial).may .free o) (hr : e.runOp t o = some (r, e')) :
    Ordered serial start e' answers Γ G := by
  have happly : ∀ settings, o ≠ .applySettings serial settings := by
    rintro settings rfl
    exact hmay rfl
  have hcached := runOp_settingValues hr happly
  have hfacade := Entry.runOp_facade G.facade hr
  have hcurrent := Entry.runOp_current serial hr
  cases o with
  | buildFacade s token =>
    cases hr
    exact h.buildFacade ht hothers s token
  | _ => exact h.frame (by rw [hfacade]) hcurrent hcached

end

/-! ## Runs -/

/-- The answers of the lock are shown in the order they were given. -/
structure InOrder (serial : Serial) (start : SettingName → Option Int) (s : Entry × List Answer)
    (Γ : View (answering serial)) : Prop where
  queues : Queues s.1 Γ
  ordered : ∃ G, Ordered serial start s.1 s.2 Γ G

section
variable {parse : ParseBroadcast} {serial : Serial} {start : SettingName → Option Int}
  {e e' : Entry} {answers : List Answer} {Γ : View (answering serial)} {t : TaskId}

theorem runOp_queue {o : Op} {r : o.Res} (hr : e.runOp t o = some (r, e')) (f : FacadeRef) :
    (e'.facade f).queue.Sublist (e.facade f).queue := by
  rw [Entry.runOp_facade f hr]
  cases o with
  | buildFacade s token =>
    simp only
    split
    · exact List.nil_sublist _
    · exact List.Sublist.refl _
  | _ => exact List.Sublist.refl _

/-- The observer sees the ends of waits only. -/
theorem Answer.see_run {o : Op} {r : o.Res} (hr : e.runOp t o = some (r, e')) (s : Entry)
    (a : List Answer) : Answer.see serial t o r s a = a := by
  cases o with
  | call f m => cases hr
  | disconnect f => cases hr
  | _ => rfl

theorem InOrder.run (h : InOrder serial start (e, answers) Γ) {g : Stage}
    (ht : Γ t = some (g, none))
    (hothers : ∀ t' g' w, t' ≠ t → Γ t' = some (g', w) → w.isSome = true) {o : Op} {r : o.Res}
    (hmay : (answering serial).may g o) (hr : e.runOp t o = some (r, e')) :
    ∃ g', (answering serial).after g o r = some g' ∧
      InOrder serial start (e', answers) (Function.update Γ t (some (g', none))) := by
  obtain ⟨hq, G, hG⟩ := h
  have hqueues : ∀ p, Queues e' (Function.update Γ t p) :=
    (hq.frame (runOp_queue hr)).update fun g' o' hΓ => by rw [ht] at hΓ; cases hΓ
  cases g with
  | free =>
    have hself : Function.update Γ t (some (.free, none)) = Γ := by
      rw [← ht, Function.update_eq_self]
    have hafter : (answering serial).after .free o r = some .free := by
      cases o with
      | lockRef s => cases hr; exact if_pos rfl
      | call f m => cases hr
      | _ => rfl
    refine ⟨.free, hafter, hqueues _, G, ?_⟩
    rw [hself]
    exact hG.runFree ht hothers hmay hr
  | answered settings =>
    cases o with
    | lockRef s =>
      obtain rfl : s = serial := hmay
      cases hr
      exact ⟨_, rfl, hqueues _, G, hG.readLock ht⟩
    | _ => cases hmay
  | closing settings f => cases o <;> first | (cases hmay; done) | cases hr
  | applying settings =>
    cases o with
    | applySettings s settings' =>
      obtain ⟨rfl, rfl⟩ := hmay
      have hcached := Entry.runOp_states s 0 hr
      obtain ⟨G', hG'⟩ := hG.apply ht hothers (by rw [Entry.runOp_facade _ hr])
        (Entry.runOp_current s hr) (by rw [hcached, Op.deviceEvent, if_pos rfl]; rfl)
      exact ⟨.free, rfl, hqueues _, G', hG'⟩
    | _ => cases hmay

theorem InOrder.park (h : InOrder serial start (e, answers) Γ) {g : Stage}
    (ht : Γ t = some (g, none)) {o : Op} (hmay : (answering serial).may g o)
    (hr : e.runOp t o = none) :
    InOrder serial start (e.parkOp t o, answers) (Function.update Γ t (some (g, some o))) := by
  obtain ⟨hq, G, hG⟩ := h
  refine ⟨hq.park ht, ?_⟩
  cases g with
  | free =>
    refine ⟨G, Ordered.idle ?_ (by rw [ht]; rfl) rfl⟩
    refine { hG with
      known := by rw [Entry.parkOp_current]; exact hG.known
      current := by rw [Entry.parkOp_current]; exact hG.current
      order := ?_
      cached := by rw [Entry.parkOp_monitor]; exact hG.cached }
    rcases parkOp_queue e t o G.facade with ⟨-, hqueue⟩ | ⟨-, hqueue⟩
    · rw [hqueue]
      exact hG.order.trans (List.sublist_append_left _ _)
    · rw [hqueue]
      exact hG.order
  | answered settings => cases o <;> first | (cases hmay; done) | cases hr
  | closing settings f =>
    cases o with
    | disconnect f' =>
      obtain rfl : f' = f := hmay
      exact hG.join ht
    | _ => cases hmay
  | applying settings => cases o <;> first | (cases hmay; done) | cases hr

/-- The disconnect after an answer ends. -/
theorem InOrder.wakeClosing (h : InOrder serial start (e, answers) Γ) {settings : LockSettings}
    {f : FacadeRef} (ht : Γ t = some (.closing settings f, some (.disconnect f)))
    {r : Except PyErr Unit} (hr : e.wakeOp t (.disconnect f) r = some e') :
    ∃ g', (answering serial).after (.closing settings f) (.disconnect f) r = some g' ∧
      InOrder serial start (e', Answer.see serial t (.disconnect f) r e answers)
        (Function.update Γ t (some (g', none))) := by
  obtain ⟨hq, G, hG⟩ := h
  have hqueue := (Entry.wakeOp_queue hr f).trans (if_pos rfl)
  have hcurrent := Entry.wakeOp_current hr serial
  have hmonitor := Entry.wakeOp_monitor hr
  cases r with
  | ok u =>
    have hend : e.endDisconnect t f (.ok u) = some e' := hr
    obtain ⟨err, hr', -, -⟩ | ⟨-, hhead, -⟩ := Entry.endDisconnect_some hend
    · cases hr'
    · exact ⟨_, rfl, hq.wake ht hr _, hG.closed hq.nodup ht hhead hqueue hcurrent hmonitor⟩
  | error err => exact ⟨_, rfl, hq.wake ht hr _, hG.failed ht hqueue hcurrent hmonitor⟩

/-- A wait ends of a task that has no answer. -/
theorem InOrder.wakeFree (h : InOrder serial start (e, answers) Γ) {o : Op}
    (ht : Γ t = some (.free, some o)) {r : o.Res} (hr : e.wakeOp t o r = some e')
    (hop : ((o.answer serial r).isNone || e.queuedAnswers serial answers) = true) :
    ∃ g', (answering serial).after .free o r = some g' ∧
      InOrder serial start (e', Answer.see serial t o r e answers)
        (Function.update Γ t (some (g', none))) := by
  obtain ⟨hq, G, hG⟩ := h
  have hqueue := Entry.wakeOp_queue hr
  have hcurrent := Entry.wakeOp_current hr serial
  have hmonitor := Entry.wakeOp_monitor hr
  have hfree : Stage.owedAt (Γ t) = none := by rw [ht]; rfl
  have hrest : Ordered serial start e' answers (Function.update Γ t (some (.free, none))) G :=
    (hG.leave hfree hqueue hcurrent hmonitor).idle hfree rfl
  have hnone : ∀ x ∈ answers, x.task = t → x.pending = false := by
    intro x hx hxt
    by_contra hp
    have hx := hG.pending hx (Bool.not_eq_false _ ▸ hp)
    refine hG.task_ne hfree (Groups.mem_unended.mpr ?_) hxt
    exact hx.imp_right .inl
  cases o with
  | call f m =>
    simp only [Answer.see]
    cases ha : m.answer serial f.serial r with
    | none => exact ⟨.free, rfl, hq.wake ht hr _, G, hrest⟩
    | some settings =>
      have hqueued : e.queuedAnswers serial answers = true := by
        rw [show (Op.call f m).answer serial r = some settings from ha] at hop
        exact hop
      exact ⟨.answered settings, rfl, hq.wake ht hr _,
        hG.answer hq ht hqueued hqueue hcurrent hmonitor⟩
  | disconnect f =>
    refine ⟨.free, rfl, hq.wake ht hr _, G, ?_⟩
    cases r with
    | ok u =>
      simp only [Answer.see]
      rw [map_close hnone]
      exact hrest
    | error err =>
      simp only [Answer.see]
      rw [filter_survives hnone]
      exact hrest
  | acquireRefresh s => exact ⟨.free, rfl, hq.wake ht hr _, G, hrest⟩
  | getKey s force => exact ⟨.free, rfl, hq.wake ht hr _, G, hrest⟩
  | _ => cases hr

/-- What the environment does while the counter does not advance leaves the cache alone. -/
theorem envStep_settingValues {ev : EnvEvent} (h : e.envStep parse ev = some e')
    (hquiet : ev.advances parse serial e = false) :
    (e'.monitor.states serial).settingValues = (e.monitor.states serial).settingValues := by
  cases ev with
  | monitor ev =>
    simp only [Entry.envStep] at h
    split at h
    · next hown =>
      cases h
      simp only [Monitor.states_step]
      have hdevice := e.monitor.deviceEvent_isOwn parse hown serial
      simp only [EnvEvent.advances] at hquiet
      funext name
      rw [step_settingValues]
      cases hev : e.monitor.deviceEvent parse ev.event serial with
      | applySettings settings => rw [hev] at hdevice; cases hdevice
      | accept report info =>
        rw [hev] at hquiet
        have hno : ¬ report.Ahead (e.monitor.states serial).report := of_decide_eq_false hquiet
        simp only [settingEvent, hno, if_false, Option.getD_none]
      | _ => rfl
    · cases h
  | connect f deviceFor =>
    simp only [Entry.envStep] at h
    split at h
    · cases h; rfl
    · cases h
  | drop f => cases h; rfl
  | expire x => cases h; rfl

theorem InOrder.env (h : InOrder serial start (e, answers) Γ) {ev : EnvEvent}
    (hr : e.envStep parse ev = some e') (hquiet : ev.advances parse serial e = false) :
    InOrder serial start (e', answers) Γ := by
  obtain ⟨hq, G, hG⟩ := h
  have hqueue := Entry.envStep_queue hr
  refine ⟨hq.frame fun f => (hqueue f) ▸ List.Sublist.refl _, G, ?_⟩
  exact hG.frame (hqueue G.facade) (Entry.envStep_current hr serial)
    (envStep_settingValues hr hquiet)

theorem inOrder_keeps (parse : ParseBroadcast) (serial : Serial)
    (start : SettingName → Option Int) :
    Keeps (M := answerMachine parse serial) Request.prog (orderGuard parse serial)
      (answering serial) (fun _ => .free) (fun _ _ g => g = .free) (InOrder serial start) where
  meets req hreq := prog_clear hreq
  spawn s Γ t req hI ht _ := by
    obtain ⟨hq, G, hG⟩ := hI
    refine ⟨hq.update (fun g o hΓ => by rw [ht] at hΓ; cases hΓ) _, G, hG.idle ?_ rfl⟩
    rw [ht]
    rfl
  run s Γ t g o r s' hI ht hothers hmay hr _ := by
    obtain ⟨e, a⟩ := s
    obtain ⟨⟨r', e'⟩, hrun, heq⟩ := Option.map_eq_some_iff.mp hr
    cases heq
    rw [Answer.see_run hrun]
    exact hI.run ht hothers hmay hrun
  park s Γ t g o hI ht hmay hr := by
    obtain ⟨e, a⟩ := s
    exact hI.park ht hmay (Option.map_eq_none_iff.mp hr)
  wake s Γ t g o r s' hI ht hmay hr hop := by
    obtain ⟨e, a⟩ := s
    obtain ⟨e', hwake, rfl⟩ := Option.map_eq_some_iff.mp hr
    cases g with
    | free => exact hI.wakeFree ht hwake hop
    | closing settings f =>
      cases o with
      | disconnect f' =>
        obtain rfl : f' = f := hmay
        exact hI.wakeClosing ht hwake
      | _ => cases hmay
    | _ => cases o <;> first | (cases hmay; done) | cases hwake
  finish s Γ t req r g hI ht hg := by
    subst hg
    obtain ⟨hq, G, hG⟩ := hI
    refine ⟨hq.update (fun g o hΓ => by rw [ht] at hΓ; cases hΓ) _, G, hG.idle ?_ rfl⟩
    rw [ht]
    rfl
  env s Γ ev s' hI hr := by
    obtain ⟨e, a⟩ := s
    obtain ⟨e', henv, rfl⟩ := Option.map_eq_some_iff.mp hr
    by_cases hquiet : ev.advances parse serial e = true
    · rw [show (quietMachine parse serial).env ev e = none from if_pos hquiet] at henv
      cases henv
    · rw [show (quietMachine parse serial).env ev e = e.envStep parse ev from
        if_neg hquiet] at henv
      exact hI.env henv (Bool.eq_false_iff.mpr hquiet)

end

/-- A configuration of an entry with the answers of the lock. -/
abbrev AnswerConfig (parse : ParseBroadcast) (serial : Serial) :=
  Config (answerMachine parse serial) PyErr Unit Request

/-- No task has been spawned, and nobody has answered. -/
def AnswerConfig.start (parse : ParseBroadcast) (serial : Serial) (e : Entry) :
    AnswerConfig parse serial where
  state := (e, [])
  tasks _ := none

def AnswerConfig.run (parse : ParseBroadcast) (serial : Serial) (e : Entry)
    (ls : List (Label (answerMachine parse serial) Request)) : AnswerConfig parse serial :=
  Runs.exec (Config.step Request.prog) (start parse serial e) ls

/-- All tasks have ended when the first `n` have and the run spawns no other. -/
theorem AnswerConfig.run_ended {parse : ParseBroadcast} {serial : Serial} {e : Entry}
    {ls : List (Label (answerMachine parse serial) Request)} (n : Nat)
    (hls : ls.all (·.spawnsBelow n) = true)
    (hn : ∀ t < n, ((run parse serial e ls).tasks t).isNone = true) (t : TaskId) :
    (run parse serial e ls).tasks t = none :=
  Config.exec_ended Request.prog (fun _ => rfl) n hls hn t

/-- **The cache shows the last answer of the lock** once all operations have ended, in a run in
which the lock answers only when every earlier answer is shown or waits for the disconnect of the
current facade. -/
theorem settings_inOrder (parse : ParseBroadcast) (serial : Serial) (e : Entry)
    (hidle : ∀ f, (e.facade f).queue = [])
    (ls : List (Label (answerMachine parse serial) Request))
    (horder : Runs.Steps (Config.step Request.prog)
      (fun c l => Config.allowed Request.prog (orderGuard parse serial) c l = true)
      (AnswerConfig.start parse serial e) ls)
    (hended : ∀ t, (AnswerConfig.run parse serial e ls).tasks t = none) :
    ((AnswerConfig.run parse serial e ls).state.1.monitor.states serial).settingValues =
      Answer.shown (e.monitor.states serial).settingValues
        (AnswerConfig.run parse serial e ls).state.2 := by
  have hqueues : Queues (P := answering serial) e fun _ => none := by
    refine ⟨fun f t b hmem => ?_, fun f => ?_⟩
    · rw [hidle f] at hmem
      cases hmem
    · rw [hidle f]
      exact List.nodup_nil
  have hordered : Ordered serial (e.monitor.states serial).settingValues e [] (fun _ => none)
      { facade := e.current serial } :=
    { answers_eq := rfl
      joining_le := Nat.zero_le _
      known := ⟨rfl, Nat.le_refl _⟩
      current := fun h => absurd rfl h
      joining := fun _ hx => absurd hx List.not_mem_nil
      waiting := fun _ hx => absurd hx List.not_mem_nil
      ending := fun _ hx => absurd hx List.not_mem_nil
      ended := fun _ hx => absurd hx List.not_mem_nil
      cover := fun _ ht => absurd rfl ht
      order := List.nil_sublist _
      cached := rfl }
  obtain ⟨Γ, ⟨-, G, hG⟩, hT⟩ := (inOrder_keeps parse serial _).run_inv
    ⟨_, ⟨hqueues, _, hordered⟩, Tracks.of_none fun _ => rfl⟩ horder
  have hnone := hT.view_none hended
  have hunended : G.unended = [] := by
    refine List.eq_nil_iff_forall_not_mem.mpr fun x hx => ?_
    have howed := hG.owed hx
    rw [hnone] at howed
    cases howed
  obtain ⟨hjoining, hrest⟩ := List.append_eq_nil_iff.mp hunended
  obtain ⟨hwaiting, hending⟩ := List.append_eq_nil_iff.mp hrest
  have hall := hG.answers_eq
  rw [hjoining, hwaiting, hending] at hall
  exact hG.cached.trans (congrArg (Answer.shown _) hall.symm)

/-- The entry of one device that has been seen. -/
def seenEntry : Entry :=
  { Entry.init ["L1"] (by decide) exampleKeys with
    monitor := (Monitor.init ["L1"] (by decide) exampleKeys).step exampleParse
      (atSecond 1 (.advertisement (exampleInfo 0))) }

def atDevice : FacadeRef → Label (answerMachine exampleParse "L1") Request := fun f =>
  .env (.connect f fun _ _ => some ())

/-- A read and a write at once, a key that is swapped in behind them, and a read on the new
facade. -/
def swappedReads : List (Label (answerMachine exampleParse "L1") Request) :=
  [.spawn 0 (.readSettings "L1"), atDevice ⟨"L1", 0⟩, .spawn 1 (.selectOption "L1" .autoLock "5_s"),
    .resume 0 (settingsReply ⟨1, 10, 0, 0⟩), .spawn 2 (.setKey "L1" ⟨[1], []⟩),
    .resume 1 (settingsReply ⟨1, 5, 0, 0⟩), .resume 0 done, .resume 2 done, .resume 1 done,
    .spawn 3 (.readSettings "L1"), atDevice ⟨"L1", 1⟩, .resume 3 (settingsReply ⟨1, 7, 0, 0⟩),
    .resume 3 done]

theorem settings_inOrder_swappedReads :
    ((AnswerConfig.run exampleParse "L1" seenEntry swappedReads).state.2.map fun x =>
        x.settings.autoLockTime) = [7, 5, 10] ∧
      ((AnswerConfig.run exampleParse "L1" seenEntry swappedReads).state.1.monitor.states
          "L1").settingValues =
        Answer.shown (seenEntry.monitor.states "L1").settingValues
          (AnswerConfig.run exampleParse "L1" seenEntry swappedReads).state.2 :=
  ⟨by decide +kernel,
    settings_inOrder exampleParse "L1" seenEntry (fun _ => rfl) swappedReads (by decide +kernel)
      (AnswerConfig.run_ended 4 (by decide) (by decide +kernel))⟩

/-- A key swap and a button press wait while the lock answers a settings read, whose disconnect
stands behind the press. A select writes on the new facade in the meantime. -/
def overtakenRead : List (Label (answerMachine exampleParse "L1") Request) :=
  [.spawn 0 (.readSettings "L1"), atDevice ⟨"L1", 0⟩, .spawn 1 (.setKey "L1" ⟨[1], []⟩),
    .spawn 2 (.press "L1" "set_point_closed" 1), .resume 0 (settingsReply ⟨1, 10, 0, 0⟩),
    .resume 1 done, .spawn 3 (.selectOption "L1" .autoLock "5_s"), atDevice ⟨"L1", 1⟩,
    .resume 3 (settingsReply ⟨1, 5, 0, 0⟩), .resume 3 done, atDevice ⟨"L1", 0⟩, .resume 2 done,
    .resume 2 done, .resume 0 done]

/-- The select's verified value is overwritten by the older one of the read. -/
theorem settings_overtaken :
    ¬ ∀ ls : List (Label (answerMachine exampleParse "L1") Request),
      Runs.Steps (Config.step Request.prog)
        (fun c l => Config.allowed Request.prog (operationGuard exampleParse "L1") c l = true)
        (AnswerConfig.start exampleParse "L1" seenEntry) ls →
      (∀ t, (AnswerConfig.run exampleParse "L1" seenEntry ls).tasks t = none) →
      ((AnswerConfig.run exampleParse "L1" seenEntry ls).state.1.monitor.states
          "L1").settingValues =
        Answer.shown (seenEntry.monitor.states "L1").settingValues
          (AnswerConfig.run exampleParse "L1" seenEntry ls).state.2 := by
  intro h
  have hended : ∀ t, (AnswerConfig.run exampleParse "L1" seenEntry overtakenRead).tasks t = none :=
    AnswerConfig.run_ended 4 (by decide) (by decide +kernel)
  have hshown := congrFun (h overtakenRead (by decide +kernel) hended) .autoLock
  have hread : ((AnswerConfig.run exampleParse "L1" seenEntry overtakenRead).state.1.monitor.states
      "L1").settingValues .autoLock = some 10 := by decide +kernel
  have hwritten : Answer.shown (seenEntry.monitor.states "L1").settingValues
      (AnswerConfig.run exampleParse "L1" seenEntry overtakenRead).state.2 .autoLock = some 5 := by
    decide +kernel
  rw [hread, hwritten] at hshown
  cases hshown

end DanalockBle
