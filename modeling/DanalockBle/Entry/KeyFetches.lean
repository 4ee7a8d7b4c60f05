import DanalockBle.Entry.KeyDrift
import DanalockBle.Lib.Locks

/-!
# Where keys and login tokens come from

However the requests of an entry interleave and however their calls end, the keys of a device are
fetched one at a time, the cache holds the one that came last, and every facade that a control has
built logs in with a token that the cloud returned for that very device. A refresh whose key swap is
interrupted is no exception: it leaves an older facade, not another's token.
-/

namespace DanalockBle

open Coroutine Coroutine.Coro

/-- Where a task is between a fetch of the device's key and the use of it. -/
inductive FetchPhase where
  | out
  | holding
  | fetched (key : DeviceKey)
  | stored (key : DeviceKey)
  deriving DecidableEq, Repr

/-- The device's key is fetched and stored under its refresh lock, a fetched key is stored at once,
and a facade is built with a stored one. -/
@[reducible] def fetching (serial : Serial) : Protocol sig where
  Ghost := FetchPhase
  may
    | .out, .getKey s _ => s ≠ serial
    | .out, .storeKey s _ => s ≠ serial
    | .out, .buildFacade s _ => s ≠ serial
    | .out, .releaseRefresh s => s ≠ serial
    | .out, _ => True
    | .holding, .getKey s _ => s = serial
    | .holding, .releaseRefresh s => s = serial
    | .fetched key, .storeKey s key' => s = serial ∧ key' = key
    | .stored _, .boundControl _ => True
    | .stored _, .lockRef _ => True
    | .stored _, .disconnect _ => True
    | .stored _, .notifyKey _ => True
    | .stored key, .buildFacade s token => s = serial ∧ token = key.loginBlob
    | .stored _, .releaseRefresh s => s = serial
    | _, _ => False
  after
    | .out, .acquireRefresh s, .ok _ => some (if s = serial then .holding else .out)
    | .out, _, _ => some .out
    | .holding, .getKey _ _, .ok key => some (.fetched key)
    | .holding, .releaseRefresh _, _ => some .out
    | .fetched _, .storeKey _ key, _ => some (.stored key)
    | .stored _, .releaseRefresh _, _ => some .out
    | g, _, _ => some g

section
variable {serial : Serial} {α : Type}

/-- Before and after the coroutine its task neither fetches nor stores a key of the device. -/
abbrev NoFetch {α : Type} (serial : Serial) (c : Py α) : Prop := Restores (fetching serial) .out c

theorem NoFetch.op {o : Op} {k : o.Res → Py α} (hmay : (fetching serial).may .out o)
    (hafter : ∀ r, (fetching serial).after .out o r = some .out)
    (hk : ∀ r, NoFetch serial (k r)) : NoFetch serial (.op o k : Py α) :=
  Restores.op hmay (fun r g hg => by rw [hafter] at hg; exact (Option.some.inj hg).symm) hk

theorem disconnect_noFetch (s : Serial) : NoFetch serial (DanalockControl.disconnect s) :=
  NoFetch.op trivial (fun _ => rfl) fun _ => NoFetch.op trivial (fun _ => rfl) Restores.ofResult

/-- A refresh of another device. -/
theorem refresh_noFetch {s : Serial} (hs : s ≠ serial) (force : Bool) :
    NoFetch serial (DanalockKeyManager.refresh s force) := by
  have hX := Restores.compositional (ε := PyErr) (fetching serial) .out
  have hset : ∀ key, NoFetch serial (DanalockControl.setKey s key) :=
    setKey_of_parts s hX (disconnect_noFetch s) fun _ =>
      NoFetch.op hs (fun _ => rfl) Restores.ret
  refine refresh_of_parts s hX ?_ ?_ ?_ ?_ hset ?_ ?_ force
  · refine Restores.op trivial (fun r g hg => ?_) Restores.ofResult
    cases r with
    | ok u => exact ((Option.some.inj hg).symm).trans (if_neg hs)
    | error e => exact (Option.some.inj hg).symm
  · exact fun _ => NoFetch.op hs (fun _ => rfl) Restores.ofResult
  · exact fun _ => NoFetch.op hs (fun _ => rfl) Restores.ret
  · exact NoFetch.op trivial (fun _ => rfl) Restores.ret
  · exact NoFetch.op trivial (fun _ => rfl) Restores.ret
  · exact NoFetch.op hs (fun _ => rfl) Restores.ret

/-- The key swap of a refresh builds a facade with the stored key, or ends before. -/
theorem setKey_fetching (key : DeviceKey) :
    Restores (fetching serial) (.stored key) (DanalockControl.setKey serial key) := by
  rw [setKey_eq]
  refine Restores.bind ?_ fun _ => Restores.op ⟨rfl, rfl⟩ (fun _ _ hg => by cases hg; rfl) .ret
  exact Restores.op trivial (fun _ _ hg => by cases hg; rfl) fun _ =>
    Restores.op trivial (fun _ _ hg => by cases hg; rfl) Restores.ofResult

/-- What a refresh does under its lock. -/
theorem refresh_fetching (force : Bool) :
    Meets (fetching serial) .holding (do
      let key ← Py.getKey serial force
      Py.storeKey serial key
      let bound ← Py.boundControl serial
      if bound then DanalockControl.setKey serial key
      Py.notifyKey serial
      return key : Py DeviceKey) fun _ g => g = .holding ∨ ∃ key, g = .stored key := by
  refine ⟨rfl, fun r g hg => ?_⟩
  cases r with
  | error e =>
    cases hg
    exact .inl rfl
  | ok key =>
    cases hg
    refine ⟨⟨rfl, rfl⟩, fun _ g hg => ?_⟩
    cases hg
    have hlast : Restores (fetching serial) (.stored key) (do
        Py.notifyKey serial
        return key : Py DeviceKey) :=
      Restores.op trivial (fun _ _ hg => by cases hg; rfl) fun _ => Restores.ret key
    refine Meets.mono (P := fetching serial) (Q := fun _ g => g = .stored key)
      (fun _ g hg => .inr ⟨key, hg⟩) ?_
    have hbound : Restores (fetching serial) (.stored key) (Py.boundControl serial) :=
      Restores.op trivial (fun _ _ hg => by cases hg; rfl) Restores.ret
    show Restores (fetching serial) (.stored key) (Coro.bind (Py.boundControl serial) _)
    refine Restores.bind hbound fun bound => ?_
    cases bound with
    | false => exact hlast
    | true => exact Restores.bind (setKey_fetching key) fun _ => hlast

theorem refresh_noFetch_self (force : Bool) :
    NoFetch serial (DanalockKeyManager.refresh serial force) := by
  refine ⟨trivial, fun r g hg => ?_⟩
  cases r with
  | error e =>
    cases hg
    rfl
  | ok u =>
    obtain rfl : g = .holding := ((Option.some.inj hg).symm).trans (if_pos rfl)
    refine Meets.tryFinally ((refresh_fetching force).mono fun r g h => ?_)
    rcases h with rfl | ⟨key, rfl⟩
    · exact ⟨rfl, fun _ g hg => by cases hg; rfl⟩
    · exact ⟨rfl, fun _ g hg => by cases hg; rfl⟩

theorem fetching_parts : Parts (fetching serial) .out where
  may o ho := by cases o <;> first | exact trivial | cases ho
  after o r g' ho hr := by cases o <;> first | (cases hr; rfl) | cases ho
  refresh s force := by
    by_cases hs : s = serial
    · subst hs
      exact refresh_noFetch_self force
    · exact refresh_noFetch hs force
  attempt s m := by
    refine attemptCall_of_parts s (Restores.compositional (fetching serial) .out) (fun m => ?_)
      (disconnect_noFetch s) m
    exact NoFetch.op trivial (fun _ => rfl) fun _ =>
      NoFetch.op trivial (fun _ => rfl) Restores.ofResult
  disconnect s := disconnect_noFetch s

end

/-! ## The fetched keys -/

/-- The keys that the cloud returned for the device, in the order of their arrival. -/
def seeFetch (serial : Serial) (_ : TaskId) : (o : Op) → o.Res → Entry → List DeviceKey →
    List DeviceKey
  | .getKey s _, .ok key, _, fetched => if s = serial then fetched ++ [key] else fetched
  | _, _, _, fetched => fetched

/-- The event loop of a config entry with the fetched keys of one device. -/
@[reducible] def fetchMachine (parse : ParseBroadcast) (serial : Serial) : Machine sig :=
  (entryMachine parse).observed (seeFetch serial)

/-- Any end of any call; the facade is not swapped but by refreshes. -/
def fetchGuard (parse : ParseBroadcast) (serial : Serial) :
    Guard (fetchMachine parse serial) Request where
  spawn := Request.refreshesKeys
  op _ _ _ _ := true

/-- What holds when the task is in the phase and no other task in a refresh of the device;
`initial` is the key that the entry was set up with. -/
structure AtPhase (serial : Serial) (initial : DeviceKey) (s : Entry × List DeviceKey)
    (t : TaskId) (g : FetchPhase) : Prop where
  holder : g ≠ .out → (s.1.refreshQueue serial).head? = some t
  cached : (∀ key, g ≠ .fetched key) → s.1.monitor.keys serial = s.2.getLast?.getD initial
  fetched : ∀ key, g = .fetched key → s.2.getLast? = some key
  stored : ∀ key, g = .stored key → key ∈ s.2
  tokens : ∀ gen, (s.1.facade ⟨serial, gen⟩).loginToken ∈ (initial :: s.2).map (·.loginBlob)

/-- The section under the device's refresh lock. -/
@[reducible] def fetchSection (serial : Serial) (initial : DeviceKey) :
    CriticalSection (Entry × List DeviceKey) TaskId FetchPhase where
  out := .out
  owner s := (s.1.refreshQueue serial).head?
  In := AtPhase serial initial
  owned h hg := h.holder hg

section
variable {serial : Serial} {initial : DeviceKey} {e e' : Entry} {fetched : List DeviceKey}
  {phases : TaskId → FetchPhase} {t : TaskId}

/-- A step that touches neither the device's key nor a login token of its facades. -/
theorem AtPhase.frame {g : FetchPhase} (h : AtPhase serial initial (e, fetched) t g)
    (hkeys : e'.monitor.keys serial = e.monitor.keys serial)
    (htokens : ∀ gen, (e'.facade ⟨serial, gen⟩).loginToken = (e.facade ⟨serial, gen⟩).loginToken)
    (hhead : g ≠ .out → (e.refreshQueue serial).head? = some t →
      (e'.refreshQueue serial).head? = some t) :
    AtPhase serial initial (e', fetched) t g where
  holder hg := hhead hg (h.holder hg)
  cached hg := hkeys.trans (h.cached hg)
  fetched := h.fetched
  stored := h.stored
  tokens gen := (htokens gen).symm ▸ h.tokens gen

/-- A task that neither has fetched a key nor stored one. -/
theorem AtPhase.plain {g g' : FetchPhase} {t' : TaskId}
    (h : AtPhase serial initial (e, fetched) t' g') (hfrom : ∀ key, g' ≠ .fetched key)
    (hholder : g ≠ .out → (e'.refreshQueue serial).head? = some t)
    (hto : g = .out ∨ g = .holding)
    (hkeys : e'.monitor.keys serial = e.monitor.keys serial)
    (htokens : ∀ gen,
      (e'.facade ⟨serial, gen⟩).loginToken = (e.facade ⟨serial, gen⟩).loginToken) :
    AtPhase serial initial (e', fetched) t g where
  holder := hholder
  cached _ := hkeys.trans (h.cached hfrom)
  fetched key hg := by rcases hto with rfl | rfl <;> cases hg
  stored key hg := by rcases hto with rfl | rfl <;> cases hg
  tokens gen := (htokens gen).symm ▸ h.tokens gen

/-- The task goes on as its protocol says, with the invariant kept. -/
abbrev FetchGoesOn (serial : Serial) (initial : DeviceKey) (phases : TaskId → FetchPhase)
    (t : TaskId) (o : Op) (r : o.Res) (e e' : Entry) (fetched : List DeviceKey) : Prop :=
  ∃ g, (fetching serial).after (phases t) o r = some g ∧
    (fetchSection serial initial).Alone (e', seeFetch serial t o r e fetched)
      (Function.update phases t g)

theorem update_same (phases : TaskId → FetchPhase) {t : TaskId} {g : FetchPhase}
    (hg : phases t = g) : Function.update phases t g = phases := by
  rw [← hg, Function.update_eq_self]

/-! ### Operations that do not suspend -/

/-- Only a refresh of the device writes its key. -/
theorem Entry.runOp_keys {o : Op} {r : o.Res} (h : e.runOp t o = some (r, e'))
    (ho : ∀ key, o ≠ .storeKey serial key) : e'.monitor.keys serial = e.monitor.keys serial := by
  rw [Entry.runOp_monitor h]
  cases o with
  | storeKey s key =>
    have hs : serial ≠ s := fun hs => ho key (by rw [hs])
    exact Function.update_of_ne hs _ _
  | _ => rfl

/-- The refresh lock is free, so nobody is in the section. -/
theorem fetch_runAcquire (h : (fetchSection serial initial).Alone (e, fetched) phases)
    (hg : phases t = .out) {r : Except PyErr Unit}
    (hr : e.runOp t (.acquireRefresh serial) = some (r, e')) :
    FetchGoesOn serial initial phases t (.acquireRefresh serial) r e e' fetched := by
  obtain ⟨rfl, hempty⟩ := Entry.runOp_acquire hr
  obtain ⟨hothers, t', hin⟩ := h.nobody hg fun t' ht' => by
    simp only [hempty] at ht'
    cases ht'
  refine ⟨.holding, by simp [hg], CriticalSection.Alone.move (fun t' _ => hothers t') ?_⟩
  refine hin.plain nofun (fun _ => ?_) (.inr rfl) ?_ fun gen => ?_
  · have hqueue := Entry.runOp_refreshQueue serial hr
    simp only [if_true] at hqueue
    rw [hqueue]
    rfl
  · rw [Entry.runOp_monitor hr]
  · rw [Entry.runOp_facade _ hr]

/-- Outside, a task does not touch the device's key, tokens or refresh lock otherwise. -/
theorem fetch_runOut (h : (fetchSection serial initial).Alone (e, fetched) phases)
    (hg : phases t = .out) {o : Op} {r : o.Res} (hmay : (fetching serial).may .out o)
    (hr : e.runOp t o = some (r, e')) : FetchGoesOn serial initial phases t o r e e' fetched := by
  by_cases hacquire : o = .acquireRefresh serial
  · subst hacquire
    exact fetch_runAcquire h hg hr
  have hkeys : e'.monitor.keys serial = e.monitor.keys serial :=
    Entry.runOp_keys hr fun key ho => by
      subst ho
      exact absurd rfl hmay
  have htokens : ∀ gen, (e'.facade ⟨serial, gen⟩).loginToken =
      (e.facade ⟨serial, gen⟩).loginToken := by
    intro gen
    rw [Entry.runOp_facade _ hr]
    cases o with
    | buildFacade s token =>
      have hs : s ≠ serial := hmay
      exact congrArg Facade.loginToken
        (if_neg fun heq => hs (congrArg FacadeRef.serial heq).symm)
    | _ => rfl
  have hqueue : e'.refreshQueue serial = e.refreshQueue serial := by
    rw [Entry.runOp_refreshQueue serial hr]
    cases o with
    | acquireRefresh s => exact if_neg fun hs : serial = s => hacquire (by rw [hs])
    | releaseRefresh s =>
      have hs : s ≠ serial := hmay
      exact if_neg hs.symm
    | _ => rfl
  have hafter : (fetching serial).after .out o r = some .out := by
    cases o with
    | acquireRefresh s =>
      have hs : s ≠ serial := fun hs => hacquire (by rw [hs])
      cases r with
      | ok u => exact congrArg some (if_neg hs)
      | error err => rfl
    | _ => rfl
  have hsee : seeFetch serial t o r e fetched = fetched := by
    cases o with
    | getKey s force => cases hr
    | _ => rfl
  refine ⟨.out, by rw [hg]; exact hafter, ?_⟩
  rw [update_same _ hg, hsee]
  exact h.frame fun t' hin => hin.frame hkeys htokens fun _ ht' => by rw [hqueue]; exact ht'

/-- A key that was fetched is stored; a stored one becomes the facade's. -/
theorem fetch_runIn (h : (fetchSection serial initial).Alone (e, fetched) phases)
    (hg : phases t ≠ .out) {o : Op} {r : o.Res} (hmay : (fetching serial).may (phases t) o)
    (hr : e.runOp t o = some (r, e')) : FetchGoesOn serial initial phases t o r e e' fetched := by
  obtain ⟨hothers, hin⟩ := h.only hg
  have hrelease : ∀ {s}, s = serial → e'.monitor = e.monitor →
      (∀ f, e'.facade f = e.facade f) → (∀ key, phases t ≠ .fetched key) →
      (fetchSection serial initial).Alone (e', fetched) (Function.update phases t .out) := by
    rintro s rfl hmonitor hfacade hplain
    exact CriticalSection.Alone.move hothers
      (hin.plain hplain (fun hne => absurd rfl hne) (.inl rfl) (by rw [hmonitor]) fun gen => by
        rw [hfacade])
  unfold FetchGoesOn
  cases hp : phases t with
  | out => exact absurd hp hg
  | holding =>
    rw [hp] at hmay
    cases o with
    | releaseRefresh s =>
      exact ⟨.out, rfl, hrelease hmay (Entry.runOp_monitor hr) (Entry.runOp_facade · hr)
        (by rw [hp]; exact nofun)⟩
    | getKey s force => cases hr
    | _ => cases hmay
  | fetched key =>
    rw [hp] at hmay
    cases o with
    | storeKey s key' =>
      obtain ⟨rfl, rfl⟩ := hmay
      have hlast := hin.fetched key' hp
      have hmonitor := Entry.runOp_monitor hr
      refine ⟨.stored key', rfl, CriticalSection.Alone.move hothers
        ⟨fun _ => ?_, fun _ => ?_, nofun, fun key hkey => ?_, fun gen => ?_⟩⟩
      · rw [Entry.runOp_refreshQueue s hr]
        exact hin.holder hg
      · show e'.monitor.keys s = fetched.getLast?.getD initial
        rw [hmonitor, show fetched.getLast? = some key' from hlast]
        exact Function.update_self ..
      · cases hkey
        exact List.mem_of_getLast? hlast
      · rw [Entry.runOp_facade _ hr]
        exact hin.tokens gen
    | _ => cases hmay
  | stored key =>
    rw [hp] at hmay
    have hstored := hin.stored key hp
    have hsame : e' = e → (fetchSection serial initial).Alone (e', fetched)
        (Function.update phases t (.stored key)) := by
      rintro rfl
      rw [update_same _ hp]
      exact h
    cases o with
    | boundControl s => exact ⟨.stored key, rfl, hsame (by cases hr; rfl)⟩
    | lockRef s => exact ⟨.stored key, rfl, hsame (by cases hr; rfl)⟩
    | notifyKey s => exact ⟨.stored key, rfl, hsame (by cases hr; rfl)⟩
    | disconnect f => cases hr
    | buildFacade s token =>
      obtain ⟨rfl, rfl⟩ := hmay
      refine ⟨.stored key, rfl, CriticalSection.Alone.move hothers
        ⟨fun _ => ?_, fun _ => ?_, nofun, fun key' hkey => ?_, fun gen => ?_⟩⟩
      · rw [Entry.runOp_refreshQueue s hr]
        exact hin.holder hg
      · rw [Entry.runOp_monitor hr]
        exact hin.cached (by rw [hp]; exact nofun)
      · cases hkey
        exact hstored
      · have hfacade := Entry.runOp_facade ⟨s, gen⟩ hr
        simp only at hfacade
        rw [hfacade]
        split
        · exact List.mem_map.mpr ⟨key, List.mem_cons_of_mem _ hstored, rfl⟩
        · exact hin.tokens gen
    | releaseRefresh s =>
      exact ⟨.out, rfl, hrelease hmay (Entry.runOp_monitor hr) (Entry.runOp_facade · hr)
        (by rw [hp]; exact nofun)⟩
    | _ => cases hmay

/-! ### Waits -/

theorem fetch_park (h : (fetchSection serial initial).Alone (e, fetched) phases) (o : Op) :
    (fetchSection serial initial).Alone (e.parkOp t o, fetched) phases := by
  refine h.frame fun t' hin => hin.frame (by rw [Entry.parkOp_monitor])
    (fun gen => Entry.loginToken_parkOp ..) fun _ ht' => ?_
  rw [Entry.parkOp_refreshQueue]
  cases o with
  | acquireRefresh s =>
    simp only
    split
    · rw [List.head?_append, ht']
      rfl
    · exact ht'
  | _ => exact ht'

/-- The wait for the refresh lock ends with the lock, or in a cancellation. -/
theorem fetch_wakeAcquire (h : (fetchSection serial initial).Alone (e, fetched) phases)
    (hg : phases t = .out) {r : Except PyErr Unit}
    (hw : e.wakeOp t (.acquireRefresh serial) r = some e') :
    FetchGoesOn serial initial phases t (.acquireRefresh serial) r e e' fetched := by
  unfold FetchGoesOn
  rw [hg]
  rcases Entry.wakeOp_acquire hw with ⟨rfl, hhead, rfl⟩ | ⟨rfl, rfl⟩
  · obtain ⟨hothers, t', hin⟩ := h.nobody hg fun t' ht' =>
      Option.some.inj (ht'.symm.trans hhead)
    exact ⟨.holding, by simp, CriticalSection.Alone.move (fun t' _ => hothers t')
      (hin.plain nofun (fun _ => hhead) (.inr rfl) rfl fun _ => rfl)⟩
  · refine ⟨.out, rfl, ?_⟩
    rw [update_same _ hg]
    refine h.frame fun t' hin => ?_
    by_cases hp : phases t' = .out
    · exact hin.frame rfl (fun gen => by rw [Entry.facade_setRefreshQueue]) fun hne =>
        absurd hp hne
    · have hne : t' ≠ t := fun hne => hp (hne ▸ hg)
      refine hin.frame rfl (fun gen => by rw [Entry.facade_setRefreshQueue]) fun _ hhead => ?_
      rw [Entry.refreshQueue_setRefreshQueue, if_pos rfl]
      exact head?_erase hhead hne

/-- A key arrives: it is the last one. -/
theorem fetch_arrives (h : (fetchSection serial initial).Alone (e, fetched) phases)
    (hg : phases t = .holding) (key : DeviceKey) :
    (fetchSection serial initial).Alone (e, fetched ++ [key])
      (Function.update phases t (.fetched key)) := by
  obtain ⟨hothers, hin⟩ := h.only (by rw [hg]; exact nofun)
  refine CriticalSection.Alone.move hothers
    ⟨fun _ => hin.holder (by rw [hg]; exact nofun), fun hne => absurd rfl (hne key),
      fun key' hkey => ?_, nofun, fun gen => ?_⟩
  · cases hkey
    exact List.getLast?_concat
  · have htoken := hin.tokens gen
    simp only [List.map_cons, List.map_append, List.mem_cons, List.mem_append] at htoken ⊢
    rcases htoken with htoken | htoken
    · exact .inl htoken
    · exact .inr (.inl htoken)

theorem fetch_wake (h : (fetchSection serial initial).Alone (e, fetched) phases) {o : Op}
    {r : o.Res} (hmay : (fetching serial).may (phases t) o)
    (hwaits : ∀ key, phases t ≠ .fetched key) (hw : e.wakeOp t o r = some e') :
    FetchGoesOn serial initial phases t o r e e' fetched := by
  by_cases hacquire : o = .acquireRefresh serial
  · subst hacquire
    have hg : phases t = .out := by
      cases hg : phases t with
      | out => rfl
      | _ => rw [hg] at hmay; cases hmay
    exact fetch_wakeAcquire h hg hw
  have hquiet : (fetchSection serial initial).Alone (e', fetched) phases :=
    h.frame fun t' hin => hin.frame (by rw [Entry.wakeOp_monitor hw])
      (fun gen => Entry.wakeOp_loginToken hw _) fun _ ht' => by
        rw [Entry.wakeOp_refreshQueue hw serial hacquire]
        exact ht'
  unfold FetchGoesOn
  cases hp : phases t with
  | fetched key => exact absurd hp (hwaits key)
  | out =>
    rw [hp] at hmay
    refine ⟨.out, ?_, ?_⟩
    · cases o with
      | acquireRefresh s =>
        have hs : s ≠ serial := fun hs => hacquire (by rw [hs])
        cases r with
        | ok u => exact congrArg some (if_neg hs)
        | error err => rfl
      | _ => rfl
    · have hsee : seeFetch serial t o r e fetched = fetched := by
        cases o with
        | getKey s force =>
          have hs : s ≠ serial := hmay
          cases r with
          | ok key => exact if_neg hs
          | error err => rfl
        | _ => rfl
      rw [update_same _ hp, hsee]
      exact hquiet
  | holding =>
    rw [hp] at hmay
    cases o with
    | getKey s force =>
      obtain rfl : s = serial := hmay
      cases r with
      | ok key =>
        cases hw
        refine ⟨.fetched key, rfl, ?_⟩
        rw [show seeFetch s t (.getKey s force) (.ok key) e fetched = fetched ++ [key] from
          if_pos rfl]
        exact fetch_arrives h hp key
      | error err =>
        refine ⟨.holding, rfl, ?_⟩
        rw [update_same _ hp]
        exact hquiet
    | releaseRefresh s => cases hw
    | _ => cases hmay
  | stored key =>
    rw [hp] at hmay
    cases o with
    | disconnect f =>
      refine ⟨.stored key, rfl, ?_⟩
      rw [update_same _ hp]
      exact hquiet
    | boundControl s => cases hw
    | lockRef s => cases hw
    | notifyKey s => cases hw
    | buildFacade s token => cases hw
    | releaseRefresh s => cases hw
    | _ => cases hmay

/-- What happens outside the tasks stores no key. -/
theorem Entry.envStep_keys {parse : ParseBroadcast} {ev : EnvEvent}
    (h : e.envStep parse ev = some e') (serial : Serial) :
    e'.monitor.keys serial = e.monitor.keys serial := by
  rcases Entry.envStep_monitor h with hm | ⟨ev, hown, hm⟩
  · rw [hm]
  · have hconfig := Monitor.config_step e.monitor parse ev
    rw [hm]
    cases hev : ev.event with
    | storeKey s key => rw [hev] at hown; cases hown
    | _ =>
      rw [hev] at hconfig
      exact congrFun (congrArg Prod.snd hconfig) serial

theorem fetch_env {parse : ParseBroadcast}
    (h : (fetchSection serial initial).Alone (e, fetched) phases) {ev : EnvEvent}
    (he : e.envStep parse ev = some e') :
    (fetchSection serial initial).Alone (e', fetched) phases :=
  h.frame fun t' hin => hin.frame (Entry.envStep_keys he serial)
    (fun gen => Entry.envStep_loginToken he _) fun _ ht' => by
      rw [Entry.envStep_refreshQueue he]
      exact ht'

end

/-! ## Runs -/

/-- The phase of a task; a task that is not there is in none. -/
def fetchPhase (p : Option (FetchPhase × Option Op)) : FetchPhase :=
  match p with
  | some (g, _) => g
  | none => .out

theorem fetchPhase_update (Γ : TaskId → Option (FetchPhase × Option Op)) (t : TaskId)
    (p : Option (FetchPhase × Option Op)) :
    (fun t' => fetchPhase (Function.update Γ t p t')) =
      Function.update (fun t' => fetchPhase (Γ t')) t (fetchPhase p) :=
  Function.comp_update fetchPhase Γ t p

/-- The section, and that nobody waits between a fetch and the store. -/
structure FetchInv (serial : Serial) (initial : DeviceKey) (s : Entry × List DeviceKey)
    (Γ : View (fetching serial)) : Prop where
  alone : (fetchSection serial initial).Alone s fun t => fetchPhase (Γ t)
  atOnce : ∀ t key o, Γ t ≠ some (.fetched key, some o)

theorem FetchInv.update {serial : Serial} {initial : DeviceKey} {s s' : Entry × List DeviceKey}
    {Γ : View (fetching serial)} (h : FetchInv serial initial s Γ) {t : TaskId}
    {p : Option (FetchPhase × Option Op)}
    (halone : (fetchSection serial initial).Alone s'
      (Function.update (fun t' => fetchPhase (Γ t')) t (fetchPhase p)))
    (hp : ∀ key o, p ≠ some (.fetched key, some o)) :
    FetchInv serial initial s' (Function.update Γ t p) where
  alone := by
    rw [fetchPhase_update]
    exact halone
  atOnce t' key o := by
    by_cases ht : t' = t
    · rw [ht, Function.update_self]
      exact hp key o
    · rw [Function.update_of_ne ht]
      exact h.atOnce t' key o

theorem fetchInv_keeps (parse : ParseBroadcast) (serial : Serial) (initial : DeviceKey) :
    Keeps Request.prog (fetchGuard parse serial) (fetching serial) (fun _ => .out)
      (fun _ _ g => g = .out) (FetchInv serial initial) where
  meets req hspawn := fetching_parts.prog req fun s key hreq => by
    rw [hreq] at hspawn
    cases hspawn
  spawn s Γ t req hI hΓ _ := by
    refine hI.update ?_ nofun
    have hg : fetchPhase (Γ t) = .out := by rw [hΓ]; rfl
    exact (update_same (fun t' => fetchPhase (Γ t')) hg).symm ▸ hI.alone
  run s Γ t g o r s' hI hΓ _ hmay hr _ := by
    obtain ⟨⟨r', e'⟩, hrun, heq⟩ := Option.map_eq_some_iff.mp hr
    obtain ⟨rfl, rfl⟩ := Prod.mk.inj heq
    have hg : fetchPhase (Γ t) = g := by rw [hΓ]; rfl
    rw [← hg] at hmay ⊢
    have hgo : FetchGoesOn serial initial (fun t' => fetchPhase (Γ t')) t o r' s.1 e' s.2 := by
      by_cases hout : fetchPhase (Γ t) = .out
      · exact fetch_runOut hI.alone hout (hout ▸ hmay) hrun
      · exact fetch_runIn hI.alone hout hmay hrun
    obtain ⟨g', hafter, halone⟩ := hgo
    exact ⟨g', hafter, hI.update halone nofun⟩
  park s Γ t g o hI hΓ hmay hr := by
    have hr : s.1.runOp t o = none := Option.map_eq_none_iff.mp hr
    have hg : fetchPhase (Γ t) = g := by rw [hΓ]; rfl
    refine hI.update ?_ fun key o' hp => ?_
    · rw [show fetchPhase (some (g, some o)) = g from rfl,
        update_same (fun t' => fetchPhase (Γ t')) hg]
      exact fetch_park hI.alone o
    · -- a store does not suspend
      cases hp
      cases o with
      | storeKey s key => cases hr
      | _ => cases hmay
  wake s Γ t g o r s' hI hΓ hmay hw _ := by
    obtain ⟨e', hwake, rfl⟩ := Option.map_eq_some_iff.mp hw
    have hg : fetchPhase (Γ t) = g := by rw [hΓ]; rfl
    rw [← hg] at hmay ⊢
    obtain ⟨g', hafter, halone⟩ := fetch_wake hI.alone hmay (fun key hkey =>
      hI.atOnce t key o (by rw [hΓ, ← hg, hkey])) hwake
    exact ⟨g', hafter, hI.update halone nofun⟩
  finish s Γ t req r g hI hΓ hg := by
    refine hI.update ?_ nofun
    have hg : fetchPhase (Γ t) = .out := by rw [hΓ, hg]; rfl
    exact (update_same (fun t' => fetchPhase (Γ t')) hg).symm ▸ hI.alone
  env s Γ ev s' hI he := by
    obtain ⟨e', henv, rfl⟩ := Option.map_eq_some_iff.mp he
    exact ⟨fetch_env hI.alone henv, hI.atOnce⟩

section
variable (parse : ParseBroadcast) (serials : List Serial) (nodup : serials.Nodup)
  (keys : Serial → DeviceKey) (serial : Serial)

def fetchInit : Config (fetchMachine parse serial) PyErr Unit Request where
  state := (.init serials nodup keys, [])
  tasks _ := none

/-- The keys that the cloud has returned for the device in a run of a new entry. -/
def fetchedKeys (ls : List (Label (fetchMachine parse serial) Request)) : List DeviceKey :=
  (Runs.exec (Config.step Request.prog) (fetchInit parse serials nodup keys serial) ls).state.2

/-- The task waits for the device's key. -/
def FetchesKey {parse : ParseBroadcast} (c : EntryConfig parse) (t : TaskId) : Prop :=
  ∃ req force k, c.tasks t = some (req, .op (.getKey serial force) k)

/-- **One fetch at a time, the last fetched key in the cache, and no foreign login token**, in
every run in which the facades are swapped by refreshes only. -/
theorem fetches_run (ls : List (Label (fetchMachine parse serial) Request))
    (hspawn : Runs.Steps (Config.step Request.prog)
      (fun c l => Config.allowed Request.prog (fetchGuard parse serial) c l = true)
      (fetchInit parse serials nodup keys serial) ls) :
    let c := EntryConfig.run parse serials nodup keys (ls.map Label.unobserved)
    let fetched := fetchedKeys parse serials nodup keys serial ls
    (∀ t t', FetchesKey serial c t → FetchesKey serial c t' → t = t') ∧
      c.state.monitor.keys serial = fetched.getLast?.getD (keys serial) ∧
      ∀ gen, (c.state.facade ⟨serial, gen⟩).loginToken ∈
        (keys serial :: fetched).map (·.loginBlob) := by
  have hinit : FetchInv serial (keys serial) (Entry.init serials nodup keys, [])
      (fun _ => none) :=
    ⟨⟨0, fun _ _ => rfl, ⟨fun hne => absurd rfl hne, fun _ => rfl, nofun, nofun,
      fun _ => List.mem_cons_self⟩⟩, nofun⟩
  obtain ⟨Γ, hI, hT⟩ := (fetchInv_keeps parse serial (keys serial)).run_inv
    (c := fetchInit parse serials nodup keys serial)
    ⟨fun _ => none, hinit, Tracks.of_none fun _ => rfl⟩ hspawn
  have hobserved := Config.exec_unobserved Request.prog
    (fetchInit parse serials nodup keys serial) ls
  obtain ⟨t₀, -, hin⟩ := hI.alone
  simp only [fetchedKeys]
  rw [show EntryConfig.run parse serials nodup keys (ls.map Label.unobserved) = _ from
    hobserved.symm]
  refine ⟨fun t t' ht ht' => ?_, hin.cached fun key hkey => ?_, hin.tokens⟩
  · have hfetching : ∀ t, FetchesKey serial (Config.unobserved (Runs.exec
        (Config.step Request.prog) (fetchInit parse serials nodup keys serial) ls)) t →
        fetchPhase (Γ t) ≠ .out := by
      rintro t ⟨req, force, k, ht⟩ hout
      obtain ⟨g, hΓ, hmay⟩ := hT.waiting ht
      rw [hΓ] at hout
      obtain rfl : g = .out := hout
      exact hmay rfl
    exact hI.alone.unique (hfetching t ht) (hfetching t' ht')
  · have hkey : fetchPhase (Γ t₀) = .fetched key := hkey
    cases hΓ : Γ t₀ with
    | none => rw [hΓ] at hkey; cases hkey
    | some p =>
      obtain ⟨g, w⟩ := p
      rw [hΓ] at hkey
      obtain rfl : g = .fetched key := hkey
      obtain ⟨o, rfl⟩ := Option.isSome_iff_exists.mp (hT.waits hΓ)
      exact hI.atOnce t₀ key o hΓ

end

/-- The refresh lock is free. -/
def lockArrives : (o : Op) → Option o.Res
  | .acquireRefresh _ => some (.ok ())
  | _ => none

/-- A refresh whose key swap is interrupted, and another one that waits for the cloud. -/
def refreshedTwice : List (Label (fetchMachine exampleParse "L1") Request) :=
  [.spawn 0 (.refresh "L1" true), .spawn 1 (.refresh "L1" true), .resume 0 fetched,
    .resume 0 broken, .resume 1 lockArrives]

theorem fetches_refreshedTwice :
    (EntryConfig.run exampleParse ["L1"] (by decide) exampleKeys
      (refreshedTwice.map Label.unobserved)).state.monitor.keys "L1" = ⟨[1], []⟩ := by
  obtain ⟨-, hcached, -⟩ := fetches_run exampleParse ["L1"] (by decide) exampleKeys "L1"
    refreshedTwice (by decide)
  exact hcached.trans (by decide)

end DanalockBle
