import DanalockBle.Lib.BinaryFormat
import Mathlib.Data.Int.ConditionallyCompleteOrder

/-!
# Rounding twice

Rounding to a binary format is monotone and moves a number by half a unit in the last place at
most. So a number that is farther than that from every half-integer has the same nearest integer
before and after (`roundHalfEven_round`).
-/

/-- Rounding to an integer is monotone. -/
theorem roundHalfEven_mono : Monotone roundHalfEven := by
  intro p q h
  rcases (Int.floor_mono h).lt_or_eq with hlt | heq
  · have hup : p ≤ (⌊p⌋ + 1 : ℤ) := by
      push_cast
      exact (Int.lt_floor_add_one p).le
    calc roundHalfEven p ≤ ⌊p⌋ + 1 := roundHalfEven_le hup
      _ ≤ ⌊q⌋ := hlt
      _ ≤ roundHalfEven q := le_roundHalfEven (Int.floor_le q)
  · -- the same integer part: the greater fraction goes up if the other does
    unfold roundHalfEven
    rw [heq]
    split_ifs <;> first | omega | (exfalso; linarith)

/-- Integer bounds may be applied before or after. -/
theorem roundHalfEven_clamp (a b : ℤ) (q : ℚ) :
    roundHalfEven (max (a : ℚ) (min (b : ℚ) q)) = max a (min b (roundHalfEven q)) := by
  rw [roundHalfEven_mono.map_max, roundHalfEven_mono.map_min, roundHalfEven_intCast,
    roundHalfEven_intCast]

namespace BinaryFormat

variable {F : BinaryFormat} {x y : ℚ}

theorem abs_round_sub_le (x : ℚ) : |F.round x - x| ≤ 2 ^ F.exponent x / 2 := by
  have hunit := F.unit_pos x
  have hnear := (nearestInt_roundHalfEven (x / 2 ^ F.exponent x)).near
  have hsplit : F.round x - x = -(x / 2 ^ F.exponent x - F.units x) * 2 ^ F.exponent x := by
    rw [round]
    field_simp
    ring
  calc |F.round x - x| = |x / 2 ^ F.exponent x - F.units x| * 2 ^ F.exponent x := by
        rw [hsplit, abs_mul, abs_neg, abs_of_pos hunit]
    _ ≤ 1 / 2 * 2 ^ F.exponent x := mul_le_mul_of_nonneg_right hnear hunit.le
    _ = 2 ^ F.exponent x / 2 := by ring

/-! ### Monotonicity -/

/-- Rounding stays in the binade or goes to its end. -/
theorem round_le_binade (hx : 0 ≤ x) : F.round x ≤ 2 ^ (F.exponent x + F.precision) := by
  have hlt := F.abs_lt_two_zpow x
  rw [abs_of_nonneg hx, zpow_add₀ (by norm_num), zpow_natCast, mul_comm] at hlt
  have hunits : F.units x ≤ (2 ^ F.precision : ℤ) := units_le (by push_cast; exact hlt.le)
  have hunits' : (F.units x : ℚ) ≤ 2 ^ F.precision := by exact_mod_cast hunits
  calc F.round x ≤ 2 ^ F.precision * 2 ^ F.exponent x :=
        mul_le_mul_of_nonneg_right hunits' (unit_pos x).le
    _ = 2 ^ (F.exponent x + F.precision) := by
        rw [zpow_add₀ (by norm_num), zpow_natCast, mul_comm]

/-- It does not fall below the beginning of the binade. -/
theorem binade_le_round (hx : 0 < x) (hexponent : F.exponent x = Int.log 2 x + 1 - F.precision) :
    2 ^ Int.log 2 x ≤ F.round x := by
  have hbegin : (2 : ℚ) ^ Int.log 2 x ≤ x := by
    exact_mod_cast Int.zpow_log_le_self (b := 2) (by norm_num) hx
  have hsplit : (2 : ℚ) ^ Int.log 2 x = ((2 ^ (F.precision - 1) : ℤ) : ℚ) * 2 ^ F.exponent x := by
    push_cast
    rw [← zpow_natCast, ← zpow_add₀ (by norm_num)]
    congr 1
    have := F.precision_pos
    omega
  rw [hsplit]
  exact le_round_of_le_units (le_units (hsplit ▸ hbegin))

theorem exponent_mono (hx : 0 < x) (h : x ≤ y) : F.exponent x ≤ F.exponent y := by
  have hlog := Int.log_mono_right (b := 2) hx h
  rw [exponent, exponent, abs_of_pos hx, abs_of_pos (hx.trans_le h)]
  omega

theorem round_mono_of_pos (hx : 0 < x) (h : x ≤ y) : F.round x ≤ F.round y := by
  have hy := hx.trans_le h
  rcases (exponent_mono (F := F) hx h).lt_or_eq with hlt | heq
  · have hexponent : F.exponent y = Int.log 2 y + 1 - F.precision := by
      rw [exponent, exponent, abs_of_pos hx, abs_of_pos hy] at hlt
      rw [exponent, abs_of_pos hy]
      omega
    calc F.round x ≤ 2 ^ (F.exponent x + F.precision) := round_le_binade hx.le
      _ ≤ 2 ^ Int.log 2 y := zpow_le_zpow_right₀ (by norm_num) (by omega)
      _ ≤ F.round y := binade_le_round hy hexponent
  · have hunits : F.units x ≤ F.units y := by
      rw [units, units, heq]
      exact roundHalfEven_mono (div_le_div_of_nonneg_right h (unit_pos y).le)
    rw [round, round, heq]
    exact mul_le_mul_of_nonneg_right (Int.cast_le.mpr hunits) (unit_pos y).le

variable (F) in
/-- **Rounding to a format is monotone.** -/
theorem round_mono : Monotone F.round := by
  intro x y h
  rcases lt_trichotomy 0 x with hx | rfl | hx
  · exact round_mono_of_pos hx h
  · rw [round_zero]
    exact round_nonneg h
  · rcases lt_or_ge y 0 with hy | hy
    · have hneg := round_mono_of_pos (F := F) (neg_pos.mpr hy) (neg_le_neg h)
      rw [round_neg, round_neg] at hneg
      exact neg_le_neg_iff.mp hneg
    · have hneg := round_nonneg (F := F) (neg_pos.mpr hx).le
      rw [round_neg] at hneg
      exact (neg_nonneg.mp hneg).trans (round_nonneg hy)

/-! ### An integer from a rounded number -/

/-- **Rounding to the format first does not change the nearest integer** of a number that is
farther than half a unit from every half-integer. -/
theorem roundHalfEven_round
    (h : ∀ n : ℤ, (2 : ℚ) ^ F.exponent x / 2 < |x - (n + 1 / 2)|) :
    roundHalfEven (F.round x) = roundHalfEven x := by
  obtain ⟨hlow, hhigh⟩ := abs_le.mp (abs_round_sub_le (F := F) x)
  obtain ⟨hleft, hright⟩ := abs_le.mp (nearestInt_roundHalfEven x).near
  have habove := h (roundHalfEven x)
  have hbelow := h (roundHalfEven x - 1)
  rw [abs_sub_comm, abs_of_nonneg (by linarith)] at habove
  rw [abs_of_nonneg (by push_cast; linarith)] at hbelow
  push_cast at hbelow
  have hdist : |F.round x - roundHalfEven x| < 1 / 2 := by
    rw [abs_lt]
    constructor <;> linarith
  exact (nearestInt_roundHalfEven _).unique ⟨hdist.le, fun htie => absurd htie hdist.ne⟩

end BinaryFormat
