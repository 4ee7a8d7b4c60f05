import DanalockBle.Broadcast.Availability

/-!
# The counter gate

The lock numbers its broadcasts with a counter that never wraps and transmits it modulo
`counterModulus`. `_accept` keeps the report of the largest true counter delivered, as long as
every delivery is within half the modulus of it: the stored report follows
`SerialNumber.gate`.
-/

namespace DanalockBle

/-- An advertisement handed to `_accept`, with the true counter of its report. -/
structure Delivery where
  now : Instant
  counter : Nat
  info : ServiceInfo

/-- The advertisements handed to `_accept` for one device, in order; `reports n` is the report
that the lock numbers `n`. -/
def Monitor.deliver (m : Monitor) (reports : Nat → BroadcastReport) (serial : Serial)
    (ds : List Delivery) : Monitor :=
  Runs.exec (fun m d => m.accept d.now serial (reports d.counter) d.info) m ds

namespace CounterGate

variable {reports : Nat → BroadcastReport}

theorem accept_report (m : Monitor) (now : Instant) (serial : Serial) (report : BroadcastReport)
    (info : ServiceInfo) :
    ((m.accept now serial report info).states serial).report =
      if (m.states serial).reportChanged report then some report
      else (m.states serial).report := by
  have hd := Monitor.device_accept m now serial serial report info
  rw [if_pos rfl] at hd
  have hstate := congrArg Device.state hd
  rw [Device.accept_state, Monitor.device_state] at hstate
  rw [hstate, DanalockDeviceState.accepted_report]
  rfl

/-- The gate compares the transmitted residues. -/
theorem reportChanged_residue (hr : ∀ n, (reports n).counter = n % counterModulus)
    {state : DanalockDeviceState} {best : Option Nat} (hs : state.report = best.map reports)
    (n : Nat) :
    state.reportChanged (reports n) =
      best.all fun a => SerialNumber.advances (2 * 32768) (a % (2 * 32768)) (n % (2 * 32768)) := by
  unfold DanalockDeviceState.reportChanged
  rw [hs]
  cases best with
  | none => rfl
  | some a => simp only [Option.map_some, counterIncreased_eq, hr]; rfl

/-- The stored report is the report the receiver of serial numbers holds. -/
theorem accept_gate (hr : ∀ n, (reports n).counter = n % counterModulus) (m : Monitor)
    (serial : Serial) {best : Option Nat} (hs : (m.states serial).report = best.map reports)
    (now : Instant) (n : Nat) (info : ServiceInfo) :
    ((m.accept now serial (reports n) info).states serial).report =
      (SerialNumber.gate (2 * 32768) best n).map reports := by
  rw [accept_report, reportChanged_residue hr hs, hs]
  cases best with
  | none => rfl
  | some a =>
    simp only [Option.all_some, SerialNumber.gate]
    split <;> rfl

theorem deliver_gate (hr : ∀ n, (reports n).counter = n % counterModulus) (m : Monitor)
    (serial : Serial) (hm : (m.states serial).report = none) (ds : List Delivery) :
    ((m.deliver reports serial ds).states serial).report =
      ((ds.map Delivery.counter).foldl (SerialNumber.gate (2 * 32768)) none).map reports := by
  induction ds using List.reverseRecOn with
  | nil => exact hm
  | append_singleton ds d ih =>
    rw [Monitor.deliver, Runs.exec_snoc, List.map_append, List.foldl_append]
    exact accept_gate hr _ serial ih d.now d.counter d.info

/-- Against the largest counter so far, the gate opens for a strictly larger one. -/
theorem all_advances {best : Option Nat} {n : Nat}
    (hw : ∀ a, best = some a → n < a + 32768 ∧ a ≤ n + 32768) :
    (best.all fun a => SerialNumber.advances (2 * 32768) (a % (2 * 32768)) (n % (2 * 32768)))
      = true ↔ ∀ a, best = some a → a < n := by
  cases best with
  | none => simp
  | some a =>
    obtain ⟨h1, h2⟩ := hw a rfl
    rw [Option.all_some, SerialNumber.advances_mod (by omega) h1 h2]
    simp

theorem max?_lt {ns : List Nat} {n : Nat} :
    (∀ a, ns.max? = some a → a < n) ↔ ∀ a ∈ ns, a < n := by
  constructor
  · intro h a ha
    cases hm : ns.max? with
    | none =>
      rw [List.max?_eq_none_iff.mp hm] at ha
      cases ha
    | some b =>
      have hb := h b hm
      have hab : a ≤ b := (List.max?_eq_some_iff.mp hm).2 a ha
      omega
  · intro h a ha
    exact h a (List.max?_eq_some_iff.mp ha).1

/-- **The gate on residues is the order of the true counters.** After every prefix of the
deliveries the stored report is the one with the largest counter, and the next delivery replaces
it exactly if its counter is strictly larger than all before. -/
theorem deliver_largest (reports : Nat → BroadcastReport)
    (hr : ∀ n, (reports n).counter = n % counterModulus) (m : Monitor) (serial : Serial)
    (hm : (m.states serial).report = none) (ds : List Delivery)
    (hw : SerialNumber.InWindow 32768 (ds.map Delivery.counter)) (pre post : List Delivery)
    (hds : ds = pre ++ post) :
    ((m.deliver reports serial pre).states serial).report =
        (pre.map Delivery.counter).max?.map reports ∧
      ∀ d rest, post = d :: rest →
        (((m.deliver reports serial pre).states serial).reportChanged (reports d.counter) = true ↔
          ∀ d' ∈ pre, d'.counter < d.counter) := by
  subst hds
  rw [List.map_append] at hw
  have hreport := deliver_gate hr m serial hm pre
  rw [SerialNumber.foldl_gate (by omega) hw.of_append] at hreport
  refine ⟨hreport, ?_⟩
  rintro d rest rfl
  have hwin := hw (pre.map Delivery.counter) d.counter (rest.map Delivery.counter) rfl
  rw [reportChanged_residue hr hreport, all_advances hwin, max?_lt]
  simp

def wrapReports (n : Nat) : BroadcastReport := ⟨"L1", n % counterModulus, n % 2 == 0, []⟩

/-- Ahead across the wrap, late, repeated. -/
def wrapDeliveries : List Delivery :=
  [⟨0, 65535, exampleInfo 0⟩, ⟨1, 65538, exampleInfo 1⟩, ⟨2, 65536, exampleInfo 2⟩,
    ⟨3, 65538, exampleInfo 3⟩]

theorem deliver_wrapDeliveries :
    (((Monitor.init ["L1"] (by decide) exampleKeys).deliver wrapReports "L1"
      wrapDeliveries).states "L1").report = some (wrapReports 65538) := by
  have hw : SerialNumber.InWindow 32768 (wrapDeliveries.map Delivery.counter) :=
    (((SerialNumber.InWindow.nil.snoc (n := 65535) (by simp)).snoc (n := 65538) (by decide)).snoc
      (n := 65536) (by decide)).snoc (n := 65538) (by decide)
  exact (deliver_largest wrapReports (fun _ => rfl) (Monitor.init ["L1"] (by decide) exampleKeys)
    "L1" rfl wrapDeliveries hw wrapDeliveries [] (by simp)).1.trans (by decide)

end CounterGate

end DanalockBle
