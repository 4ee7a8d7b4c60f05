import Mathlib.Data.Int.Log
import Mathlib.Data.Rat.Floor
import Mathlib.Tactic.FieldSimp
import Mathlib.Tactic.Linarith
import Mathlib.Tactic.Positivity
import Mathlib.Tactic.Ring

/-!
# Rounding to a binary floating-point format

A format has a number of significant bits, a least exponent and a power of two that bounds its
finite values. A rational is rounded to the nearest multiple of its unit in the last place, a tie to
the even one. It overflows from half a unit below the bound on, and it is kept as it is when it is a
value of the format.
-/

/-! ### Rounding to an integer -/

/-- The nearest integer; a tie goes to the even one. -/
def roundHalfEven (q : ℚ) : ℤ :=
  if q - ⌊q⌋ < 1 / 2 then ⌊q⌋
  else if 1 / 2 < q - ⌊q⌋ then ⌊q⌋ + 1
  else if 2 ∣ ⌊q⌋ then ⌊q⌋ else ⌊q⌋ + 1

theorem roundHalfEven_intCast (n : ℤ) : roundHalfEven n = n := by
  unfold roundHalfEven
  rw [Int.floor_intCast, sub_self, if_pos (by norm_num)]

theorem le_roundHalfEven {q : ℚ} {m : ℤ} (h : (m : ℚ) ≤ q) : m ≤ roundHalfEven q := by
  have hm : m ≤ ⌊q⌋ := Int.le_floor.mpr h
  unfold roundHalfEven
  split_ifs <;> omega

theorem roundHalfEven_le {q : ℚ} {n : ℤ} (h : q ≤ n) : roundHalfEven q ≤ n := by
  rcases h.lt_or_eq with hlt | rfl
  · have hn : ⌊q⌋ < n := Int.floor_lt.mpr hlt
    unfold roundHalfEven
    split_ifs <;> omega
  · exact (roundHalfEven_intCast n).le

/-- The integer is a nearest one, and even in a tie. -/
structure NearestInt (q : ℚ) (n : ℤ) : Prop where
  near : |q - n| ≤ 1 / 2
  tie : |q - n| = 1 / 2 → 2 ∣ n

theorem nearestInt_roundHalfEven (q : ℚ) : NearestInt q (roundHalfEven q) := by
  have hlow := Int.floor_le q
  have hhigh := Int.lt_floor_add_one q
  unfold roundHalfEven
  split_ifs with hbelow habove heven
  · rw [← abs_of_nonneg (sub_nonneg.mpr hlow)] at hbelow
    exact ⟨hbelow.le, fun h => absurd h hbelow.ne⟩
  · have hdist : |q - ((⌊q⌋ + 1 : ℤ) : ℚ)| < 1 / 2 := by
      push_cast
      rw [abs_lt]
      constructor <;> linarith
    exact ⟨hdist.le, fun h => absurd h hdist.ne⟩
  · refine ⟨?_, fun _ => heven⟩
    rw [abs_le]
    constructor <;> linarith
  · refine ⟨?_, fun _ => by omega⟩
    push_cast
    rw [abs_le]
    constructor <;> linarith

namespace NearestInt

variable {q : ℚ} {m n : ℤ}

theorem unique (hm : NearestInt q m) (hn : NearestInt q n) : m = n := by
  have key : ∀ {m n : ℤ}, NearestInt q m → NearestInt q n → ¬ m < n := by
    intro m n hm hn hlt
    have hlt' : (m : ℚ) + 1 ≤ n := by exact_mod_cast hlt
    obtain ⟨-, hm'⟩ := abs_le.mp hm.near
    obtain ⟨hn', -⟩ := abs_le.mp hn.near
    -- both are at distance one half, so both would be even
    have hsucc : n = m + 1 := by
      have : (n : ℚ) ≤ m + 1 := by linarith
      exact le_antisymm (by exact_mod_cast this) hlt
    have hmid : q - m = 1 / 2 := by linarith
    have hmid' : q - n = -(1 / 2) := by
      rw [hsucc]
      push_cast
      linarith
    have hevenm := hm.tie (by rw [hmid]; norm_num)
    have hevenn := hn.tie (by rw [hmid']; norm_num)
    omega
  exact le_antisymm (not_lt.mp (key hn hm)) (not_lt.mp (key hm hn))

theorem neg (h : NearestInt q n) : NearestInt (-q) (-n) := by
  have hdist : |-q - ((-n : ℤ) : ℚ)| = |q - n| := by
    rw [abs_sub_comm]
    push_cast
    ring_nf
  exact ⟨hdist.le.trans h.near, fun htie => (Int.dvd_neg).mpr (h.tie (hdist.symm.trans htie))⟩

end NearestInt

theorem roundHalfEven_neg (q : ℚ) : roundHalfEven (-q) = -roundHalfEven q :=
  (nearestInt_roundHalfEven (-q)).unique (nearestInt_roundHalfEven q).neg

theorem roundHalfEven_lt {q : ℚ} {n : ℤ} (h : q < n - 1 / 2) : roundHalfEven q < n := by
  obtain ⟨hnear, -⟩ := abs_le.mp (nearestInt_roundHalfEven q).near
  have : (roundHalfEven q : ℚ) < n := by linarith
  exact_mod_cast this

/-- A tie below an even integer goes up to it. -/
theorem le_roundHalfEven_of_even {q : ℚ} {n : ℤ} (hn : 2 ∣ n) (h : (n : ℚ) - 1 / 2 ≤ q) :
    n ≤ roundHalfEven q := by
  by_contra hlt
  rw [not_le] at hlt
  have hlt' : (roundHalfEven q : ℚ) + 1 ≤ n := by exact_mod_cast hlt
  obtain ⟨-, hnear⟩ := abs_le.mp (nearestInt_roundHalfEven q).near
  have hmid : q - roundHalfEven q = 1 / 2 := by linarith
  have heven := (nearestInt_roundHalfEven q).tie (by rw [hmid]; norm_num)
  have hsucc : n = roundHalfEven q + 1 := by
    have : (n : ℚ) ≤ roundHalfEven q + 1 := by linarith
    exact le_antisymm (by exact_mod_cast this) hlt
  omega

/-! ### Formats -/

structure BinaryFormat where
  precision : ℕ
  /-- the exponent of the least unit in the last place -/
  emin : ℤ
  /-- the finite values are below this power of two -/
  top : ℤ
  precision_pos : 0 < precision
  range : emin + precision < top

namespace BinaryFormat

variable (F : BinaryFormat)

/-- The exponent of the unit in the last place. -/
def exponent (x : ℚ) : ℤ := max (Int.log 2 |x| + 1 - F.precision) F.emin

/-- The nearest number of units in the last place. -/
def units (x : ℚ) : ℤ := roundHalfEven (x / 2 ^ F.exponent x)

/-- The nearest multiple of the unit in the last place. -/
def round (x : ℚ) : ℚ := F.units x * 2 ^ F.exponent x

/-- The nearest value, or an overflow (`none`). -/
def nearest (x : ℚ) : Option ℚ := if |F.round x| < 2 ^ F.top then some (F.round x) else none

/-- The finite values of the format. -/
def Value (x : ℚ) : Prop :=
  ∃ m e : ℤ, |m| < 2 ^ F.precision ∧ F.emin ≤ e ∧ e + F.precision ≤ F.top ∧ x = m * 2 ^ e

/-- Half a unit below the first power of two that is no finite value. -/
def overflowBound : ℚ := 2 ^ F.top - 2 ^ (F.top - F.precision - 1)

variable {F}

theorem exponent_abs (x : ℚ) : F.exponent |x| = F.exponent x := by
  rw [exponent, exponent, abs_abs]

theorem abs_lt_two_zpow (x : ℚ) : |x| < 2 ^ (F.exponent x + F.precision) := by
  have hlog := Int.lt_zpow_succ_log_self (b := 2) (by norm_num) |x|
  rw [Nat.cast_ofNat] at hlog
  refine hlog.trans_le (zpow_le_zpow_right₀ (by norm_num) ?_)
  rw [exponent]
  omega

theorem unit_pos (x : ℚ) : (0 : ℚ) < 2 ^ F.exponent x := zpow_pos (by norm_num) _

/-! Bounds on a number bound its units. -/

theorem units_le {x : ℚ} {n : ℤ} (h : x ≤ n * 2 ^ F.exponent x) : F.units x ≤ n :=
  roundHalfEven_le ((div_le_iff₀ (unit_pos x)).mpr h)

theorem le_units {x : ℚ} {n : ℤ} (h : n * 2 ^ F.exponent x ≤ x) : n ≤ F.units x :=
  le_roundHalfEven ((le_div_iff₀ (unit_pos x)).mpr h)

theorem units_lt {x : ℚ} {n : ℤ} (h : x < (n - 1 / 2) * 2 ^ F.exponent x) : F.units x < n :=
  roundHalfEven_lt ((div_lt_iff₀ (unit_pos x)).mpr h)

theorem le_units_of_even {x : ℚ} {n : ℤ} (hn : 2 ∣ n)
    (h : ((n : ℚ) - 1 / 2) * 2 ^ F.exponent x ≤ x) : n ≤ F.units x :=
  le_roundHalfEven_of_even hn ((le_div_iff₀ (unit_pos x)).mpr h)

theorem le_round_of_le_units {x : ℚ} {n : ℤ} (h : n ≤ F.units x) :
    n * 2 ^ F.exponent x ≤ F.round x :=
  mul_le_mul_of_nonneg_right (Int.cast_le.mpr h) (unit_pos x).le

theorem round_nonneg {x : ℚ} (hx : 0 ≤ x) : 0 ≤ F.round x := by
  have hunits : 0 ≤ F.units x := le_units (by rwa [Int.cast_zero, zero_mul])
  simpa using le_round_of_le_units hunits

theorem round_neg (x : ℚ) : F.round (-x) = -F.round x := by
  have hexponent : F.exponent (-x) = F.exponent x := by
    rw [← exponent_abs, abs_neg, exponent_abs]
  rw [round, round, units, units, hexponent, neg_div, roundHalfEven_neg]
  push_cast
  ring

theorem round_zero : F.round 0 = 0 := by
  have hunits : F.units 0 = 0 := by
    rw [units, zero_div]
    exact_mod_cast roundHalfEven_intCast 0
  rw [round, hunits, Int.cast_zero, zero_mul]

theorem abs_round (x : ℚ) : |F.round x| = F.round |x| := by
  rcases le_total 0 x with hx | hx
  · rw [abs_of_nonneg hx, abs_of_nonneg (round_nonneg hx)]
  · have hround : 0 ≤ F.round (-x) := round_nonneg (neg_nonneg.mpr hx)
    rw [abs_of_nonpos hx, round_neg]
    rw [round_neg] at hround
    exact abs_of_nonpos (neg_nonneg.mp hround)

/-! The bound is half a unit below `2 ^ precision` units of the greatest binade. -/

theorem two_zpow_top : (2 : ℚ) ^ F.top = 2 ^ F.precision * 2 ^ (F.top - F.precision) := by
  rw [← zpow_natCast, ← zpow_add₀ (by norm_num)]
  congr 1
  omega

theorem overflowBound_eq :
    F.overflowBound = (2 ^ F.precision - 1 / 2) * 2 ^ (F.top - F.precision) := by
  rw [overflowBound, two_zpow_top, zpow_sub_one₀ (by norm_num)]
  ring

theorem overflowBound_lt : F.overflowBound < 2 ^ F.top :=
  sub_lt_self _ (zpow_pos (by norm_num) _)

theorem le_overflowBound : 2 ^ (F.top - 1) ≤ F.overflowBound := by
  have hone : (1 : ℚ) ≤ 2 ^ F.precision := one_le_pow₀ (by norm_num)
  rw [overflowBound_eq, zpow_sub_one₀ (by norm_num), two_zpow_top]
  have hunit : (0 : ℚ) < 2 ^ (F.top - F.precision) := zpow_pos (by norm_num) _
  nlinarith

/-- The greatest binade has its own unit. -/
theorem exponent_of_log {x : ℚ} (hx : F.top - F.precision ≤ F.exponent x) :
    F.exponent x = Int.log 2 |x| + 1 - F.precision := by
  have := F.range
  rw [exponent] at hx ⊢
  omega

/-- Below the bound the nearest value is finite. -/
theorem round_lt {x : ℚ} (hx : 0 ≤ x) (h : x < F.overflowBound) : F.round x < 2 ^ F.top := by
  rcases hx.eq_or_lt with rfl | hpos
  · rw [round_zero]
    exact zpow_pos (by norm_num) _
  rcases lt_or_ge (F.exponent x) (F.top - F.precision) with hlow | hhigh
  · -- a smaller binade: rounding stays in it or goes to its end
    have hunits : F.units x ≤ (2 ^ F.precision : ℤ) := by
      have hlt := F.abs_lt_two_zpow x
      rw [abs_of_pos hpos, zpow_add₀ (by norm_num), zpow_natCast, mul_comm] at hlt
      exact units_le (by push_cast; exact hlt.le)
    have hunits' : (F.units x : ℚ) ≤ 2 ^ F.precision := by exact_mod_cast hunits
    calc F.round x ≤ 2 ^ F.precision * 2 ^ F.exponent x :=
          mul_le_mul_of_nonneg_right hunits' (unit_pos x).le
      _ = 2 ^ (F.precision + F.exponent x) := by rw [zpow_add₀ (by norm_num), zpow_natCast]
      _ < 2 ^ F.top := zpow_lt_zpow_right₀ (by norm_num) (by omega)
  · -- the greatest binade: half a unit is missing to its end
    have hlog : Int.log 2 x < F.top :=
      (Int.lt_zpow_iff_log_lt (by norm_num) hpos).mp (h.trans overflowBound_lt)
    have htop : F.exponent x = F.top - F.precision := by
      have hexponent := exponent_of_log hhigh
      rw [abs_of_pos hpos] at hexponent
      omega
    have hunits : F.units x < (2 ^ F.precision : ℤ) := by
      rw [overflowBound_eq, ← htop] at h
      exact units_lt (by push_cast; exact h)
    have hunits' : (F.units x : ℚ) < 2 ^ F.precision := by exact_mod_cast hunits
    calc F.round x < 2 ^ F.precision * 2 ^ F.exponent x :=
          mul_lt_mul_of_pos_right hunits' (unit_pos x)
      _ = 2 ^ F.top := by rw [htop, two_zpow_top]

/-- From the bound on it is not. -/
theorem le_round {x : ℚ} (h : F.overflowBound ≤ x) : 2 ^ F.top ≤ F.round x := by
  have hbinade : 2 ^ (F.top - 1) ≤ x := le_overflowBound.trans h
  have hpos : 0 < x := (zpow_pos (by norm_num) _).trans_le hbinade
  have hlog : F.top - 1 ≤ Int.log 2 x :=
    (Int.zpow_le_iff_le_log (by norm_num) hpos).mp (by exact_mod_cast hbinade)
  have hexponent : F.exponent x = Int.log 2 x + 1 - F.precision := by
    have hhigh : F.top - F.precision ≤ F.exponent x := by
      rw [exponent, abs_of_pos hpos]
      omega
    rw [exponent_of_log hhigh, abs_of_pos hpos]
  rcases hlog.eq_or_lt with heq | hlt
  · -- the greatest binade: a tie goes up, since its end is even
    have htop : F.exponent x = F.top - F.precision := by omega
    have hunits : (2 ^ F.precision : ℤ) ≤ F.units x := by
      rw [overflowBound_eq, ← htop] at h
      exact le_units_of_even (dvd_pow_self 2 F.precision_pos.ne') (by push_cast; exact h)
    calc (2 : ℚ) ^ F.top = ((2 ^ F.precision : ℤ) : ℚ) * 2 ^ F.exponent x := by
          rw [two_zpow_top, htop]
          push_cast
          rfl
      _ ≤ F.round x := le_round_of_le_units hunits
  · -- a greater binade: rounding stays in it
    have hbegin : (2 : ℚ) ^ Int.log 2 x ≤ x := by
      exact_mod_cast Int.zpow_log_le_self (b := 2) (by norm_num) hpos
    have hsplit : (2 : ℚ) ^ Int.log 2 x =
        ((2 ^ (F.precision - 1) : ℤ) : ℚ) * 2 ^ F.exponent x := by
      push_cast
      rw [← zpow_natCast, ← zpow_add₀ (by norm_num)]
      congr 1
      have := F.precision_pos
      omega
    calc (2 : ℚ) ^ F.top ≤ 2 ^ Int.log 2 x := zpow_le_zpow_right₀ (by norm_num) (by omega)
      _ = ((2 ^ (F.precision - 1) : ℤ) : ℚ) * 2 ^ F.exponent x := hsplit
      _ ≤ F.round x := le_round_of_le_units (le_units (hsplit ▸ hbegin))

/-- **Overflow**: half a unit below the bound, and above. -/
theorem nearest_eq_none_iff {x : ℚ} : F.nearest x = none ↔ F.overflowBound ≤ |x| := by
  unfold nearest
  rw [abs_round]
  constructor
  · intro h
    by_contra hlt
    rw [if_pos (round_lt (abs_nonneg x) (not_le.mp hlt))] at h
    cases h
  · intro h
    rw [if_neg (not_lt.mpr (le_round h))]

/-- A value of the format is a multiple of its unit. -/
theorem exponent_le_of_value {m e : ℤ} (hm : |m| < 2 ^ F.precision) (he : F.emin ≤ e)
    (hne : (m : ℚ) * 2 ^ e ≠ 0) : F.exponent (m * 2 ^ e) ≤ e := by
  have hlt : |(m : ℚ) * 2 ^ e| < ((2 : ℕ) : ℚ) ^ (F.precision + e) := by
    have hm' : |(m : ℚ)| < 2 ^ F.precision := by exact_mod_cast hm
    rw [Nat.cast_ofNat, zpow_add₀ (by norm_num), zpow_natCast, abs_mul,
      abs_of_pos (zpow_pos (by norm_num : (0 : ℚ) < 2) e)]
    exact mul_lt_mul_of_pos_right hm' (zpow_pos (by norm_num) _)
  have hlog := (Int.lt_zpow_iff_log_lt (by norm_num) (abs_pos.mpr hne)).mp hlt
  rw [exponent]
  omega

theorem round_of_value {x : ℚ} (hx : F.Value x) : F.round x = x := by
  obtain ⟨m, e, hm, he, -, rfl⟩ := hx
  by_cases hne : (m : ℚ) * 2 ^ e = 0
  · rw [hne, round_zero]
  · have hle := exponent_le_of_value hm he hne
    rw [round, units]
    generalize F.exponent (m * 2 ^ e) = u at hle ⊢
    obtain ⟨k, rfl⟩ := Int.le.dest hle
    have hunit : (2 : ℚ) ^ u ≠ 0 := (zpow_pos (by norm_num) u).ne'
    have hint : (m : ℚ) * 2 ^ (u + (k : ℤ)) / 2 ^ u = ((m * 2 ^ k : ℤ) : ℚ) := by
      rw [zpow_add₀ (by norm_num), zpow_natCast, div_eq_iff hunit]
      push_cast
      ring
    rw [hint, roundHalfEven_intCast, ← hint, div_mul_cancel₀ _ hunit]

/-- The integers up to `2 ^ precision` are values. -/
theorem round_intCast {n : ℤ} (hn : |n| < 2 ^ F.precision) (hemin : F.emin ≤ 0)
    (htop : F.precision ≤ F.top) : F.round n = n :=
  round_of_value ⟨n, 0, hn, hemin, by rwa [zero_add], by rw [zpow_zero, mul_one]⟩

theorem Value.abs_lt {x : ℚ} (hx : F.Value x) : |x| < 2 ^ F.top := by
  obtain ⟨m, e, hm, -, he, rfl⟩ := hx
  have hm' : |(m : ℚ)| < 2 ^ F.precision := by exact_mod_cast hm
  have hunit : (0 : ℚ) < 2 ^ e := zpow_pos (by norm_num) e
  calc |(m : ℚ) * 2 ^ e| = |(m : ℚ)| * 2 ^ e := by rw [abs_mul, abs_of_pos hunit]
    _ < 2 ^ F.precision * 2 ^ e := mul_lt_mul_of_pos_right hm' hunit
    _ = 2 ^ (e + F.precision) := by rw [zpow_add₀ (by norm_num), zpow_natCast, mul_comm]
    _ ≤ 2 ^ F.top := zpow_le_zpow_right₀ (by norm_num) he

/-- A multiple of the unit that is below the bound is a value. -/
theorem value_of_round {x : ℚ} (hx : F.round x = x) (hlt : |x| < 2 ^ F.top) : F.Value x := by
  by_cases hzero : x = 0
  · refine ⟨0, F.emin, ?_, le_rfl, F.range.le, by rw [hzero, Int.cast_zero, zero_mul]⟩
    rw [abs_zero]
    exact pow_pos (by norm_num) _
  refine ⟨F.units x, F.exponent x, ?_, le_max_right .., ?_, hx.symm⟩
  · have habs := F.abs_lt_two_zpow x
    nth_rewrite 1 [← hx] at habs
    rw [round, abs_mul, abs_of_pos (unit_pos x), zpow_add₀ (by norm_num), mul_comm,
      zpow_natCast] at habs
    exact_mod_cast lt_of_mul_lt_mul_left habs (unit_pos x).le
  · have hlog := (Int.lt_zpow_iff_log_lt (b := 2) (by norm_num) (abs_pos.mpr hzero)).mp
      (by exact_mod_cast hlt)
    have := F.range
    rw [exponent]
    omega

/-- **The values of the format are those that rounding keeps.** -/
theorem nearest_eq_self_iff {x : ℚ} : F.nearest x = some x ↔ F.Value x := by
  unfold nearest
  constructor
  · intro h
    split at h
    · next hlt =>
      have hround : F.round x = x := Option.some.inj h
      exact value_of_round hround (hround ▸ hlt)
    · cases h
  · intro hx
    rw [round_of_value hx, if_pos hx.abs_lt]

end BinaryFormat
