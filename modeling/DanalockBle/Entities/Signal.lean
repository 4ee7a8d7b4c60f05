import DanalockBle.Lib.BinaryRounding
import DanalockBle.Setup.PyFloat

/-!
# The signal strength in percent

`_rssi_to_percent` of `sensor.py` computes with floats. The quotient is off by half a unit in the
last place, and no exact quotient of an integer by 7 is that close to a half-integer, so the result
is the exact one (`rssiToPercent_eq`).
-/

namespace DanalockBle

/-- `a / b` of two integers: the nearest double, `none` for an `OverflowError`. -/
def Python.trueDiv (a b : Int) : Option ℚ := Python.nearestDouble ((a : ℚ) / b)

/-- RSSI→percent mapping with clamping. -/
def rssiToPercent (rssi : Int) : Option Int :=
  (Python.trueDiv ((rssi + 100) * 100) 70).map fun percent =>
    roundHalfEven (max 0 (min 100 percent))

/-! ## Sevenths -/

/-- The nearest integer of a number of tenths of sevenths; there are no ties. -/
theorem roundHalfEven_sevenths (k : Int) :
    roundHalfEven ((k * 100 : Int) / (70 : Int) : ℚ) = (20 * k + 7) / 14 := by
  obtain ⟨n, hn⟩ : ∃ n, n = (20 * k + 7) / 14 := ⟨_, rfl⟩
  have hlow : 14 * n - 6 ≤ 20 * k := by omega
  have hhigh : 20 * k ≤ 14 * n + 6 := by omega
  have hlow' : (14 : ℚ) * n - 6 ≤ 20 * k := by exact_mod_cast hlow
  have hhigh' : (20 : ℚ) * k ≤ 14 * n + 6 := by exact_mod_cast hhigh
  have hdist : |((k * 100 : Int) / (70 : Int) : ℚ) - n| < 1 / 2 := by
    push_cast
    rw [abs_lt]
    constructor <;> linarith
  rw [← hn]
  exact (nearestInt_roundHalfEven _).unique ⟨hdist.le, fun htie => absurd htie hdist.ne⟩

/-- Sevenths keep a distance from the half-integers. -/
theorem sevenths_from_half (k n : Int) :
    (1 : ℚ) / 14 ≤ |((k * 100 : Int) / (70 : Int) : ℚ) - (n + 1 / 2)| := by
  have hodd : 20 * k - 14 * n - 7 ≠ 0 := by omega
  have hone : (1 : ℚ) ≤ |20 * (k : ℚ) - 14 * n - 7| := by
    exact_mod_cast Int.one_le_abs hodd
  have hsplit : ((k * 100 : Int) / (70 : Int) : ℚ) - (n + 1 / 2) =
      (20 * (k : ℚ) - 14 * n - 7) / 14 := by
    push_cast
    ring
  rw [hsplit, abs_div, abs_of_pos (by norm_num : (0 : ℚ) < 14)]
  linarith

/-- Up to 100, half a unit in the last place is less than that. -/
theorem half_unit_lt {x : ℚ} (hx : |x| ≤ 100) :
    (2 : ℚ) ^ Python.binary64.exponent x / 2 < 1 / 14 := by
  have hlog : Int.log 2 |x| ≤ 6 := by
    rcases (abs_nonneg x).eq_or_lt with hzero | hpos
    · rw [← hzero, Int.log_zero_right]
      norm_num
    · have hlt : |x| < ((2 : ℕ) : ℚ) ^ (7 : ℤ) := hx.trans_lt (by norm_num)
      have := (Int.lt_zpow_iff_log_lt (by norm_num) hpos).mp hlt
      omega
  have hexponent : Python.binary64.exponent x ≤ -4 := by
    rw [BinaryFormat.exponent]
    simp only [Python.binary64]
    omega
  calc (2 : ℚ) ^ Python.binary64.exponent x / 2 ≤ 2 ^ (-4 : ℤ) / 2 :=
        div_le_div_of_nonneg_right (zpow_le_zpow_right₀ (by norm_num) hexponent) (by norm_num)
    _ < 1 / 14 := by norm_num

/-- The clamped quotient has the nearest integer of the exact one. -/
theorem roundHalfEven_quotient (k : Int) :
    roundHalfEven (max 0 (min 100
      (Python.binary64.round ((k * 100 : Int) / (70 : Int) : ℚ)))) =
      max 0 (min 100 ((20 * k + 7) / 14)) := by
  have hclamp := roundHalfEven_clamp 0 100
  push_cast at hclamp
  rw [hclamp, ← roundHalfEven_sevenths]
  obtain ⟨x, hx⟩ : ∃ x : ℚ, x = (k * 100 : Int) / (70 : Int) := ⟨_, rfl⟩
  rw [← hx]
  rcases le_total x 0 with hneg | hpos
  · -- below the range both are clamped to 0
    have hround : Python.binary64.round x ≤ 0 := by
      rw [← BinaryFormat.round_zero (F := Python.binary64)]
      exact BinaryFormat.round_mono _ hneg
    have hrounded : roundHalfEven (Python.binary64.round x) ≤ 0 := roundHalfEven_le (by simpa)
    have hexact : roundHalfEven x ≤ 0 := roundHalfEven_le (by simpa)
    omega
  rcases le_total x 100 with hlow | hhigh
  · have hx' : |x| ≤ 100 := by rwa [abs_of_nonneg hpos]
    rw [BinaryFormat.roundHalfEven_round fun n => (half_unit_lt hx').trans_le ?_]
    rw [hx]
    exact sevenths_from_half k n
  · -- above it both are clamped to 100
    have hhundred : Python.binary64.round 100 = 100 :=
      Python.round_intCast (n := 100) (by norm_num)
    have hround : 100 ≤ Python.binary64.round x := by
      rw [← hhundred]
      exact BinaryFormat.round_mono _ hhigh
    have hrounded : 100 ≤ roundHalfEven (Python.binary64.round x) := le_roundHalfEven (by simpa)
    have hexact : 100 ≤ roundHalfEven x := le_roundHalfEven (by simpa)
    omega

/-! ## The percentage -/

/-- **The float computation is exact**: it clamps and rounds the exact quotient, and raises for a
quotient beyond the doubles only. -/
theorem rssiToPercent_eq (rssi : Int) :
    rssiToPercent rssi =
      if Python.binary64.overflowBound ≤ |((rssi + 100) * 100 / 70 : ℚ)| then none
      else some (max 0 (min 100 ((20 * (rssi + 100) + 7) / 14))) := by
  have hcast : (((rssi + 100) * 100 : Int) / (70 : Int) : ℚ) = (rssi + 100) * 100 / 70 := by
    push_cast
    rfl
  rw [rssiToPercent, Python.trueDiv, Python.nearestDouble_eq]
  split
  · next h =>
    rw [BinaryFormat.nearest_eq_none_iff.mpr (by rwa [hcast])]
    rfl
  · next h =>
    rw [BinaryFormat.nearest]
    split
    · rw [Option.map_some, roundHalfEven_quotient]
    · next hfinite =>
      refine absurd (BinaryFormat.nearest_eq_none_iff.mp ?_) (by rwa [← hcast] at h)
      rw [BinaryFormat.nearest, if_neg hfinite]

end DanalockBle
