import DanalockBle.Lib.BinaryRounding

/-!
# Durations and local times

Python's `timedelta` and the `datetime` of a time zone, in microseconds, without their bounds.

A `timedelta` of a floating-point number of seconds takes the whole seconds exactly; the fraction is
multiplied in the format of the number and then rounded half to even. Both roundings keep whole
bounds, so a number of seconds up to a duration is a duration up to it (`ofSeconds_le`).

A `datetime` shows the wall clock of its zone and is moved on the wall clock, whatever the zone does
in between. So the instant moves by the duration less the change of the UTC offset (`asUtc_add`).
-/

/-! ### Durations -/

/-- A duration, in microseconds. -/
abbrev Timedelta := Int

namespace Timedelta

def hours (h : Int) : Timedelta := h * 3600000000

/-- The whole seconds of a number of seconds. -/
def whole (x : ℚ) : Int := if 0 ≤ x then ⌊x⌋ else ⌈x⌉

/-- `timedelta(seconds=x)`; the fraction is multiplied in the format `F`. -/
def ofSeconds (F : BinaryFormat) (x : ℚ) : Timedelta :=
  whole x * 1000000 + roundHalfEven (F.round (1000000 * (x - whole x)))

/-- `total_seconds()`. -/
def totalSeconds (d : Timedelta) : ℚ := d / 1000000

section
variable {F : BinaryFormat} {x : ℚ}

theorem whole_of_nonneg (h : 0 ≤ x) : whole x = ⌊x⌋ := if_pos h

theorem ofSeconds_nonneg (h : 0 ≤ x) : 0 ≤ ofSeconds F x := by
  have hwhole : 0 ≤ whole x := by
    rw [whole_of_nonneg h]
    exact Int.floor_nonneg.mpr h
  have hfraction : 0 ≤ x - whole x := by
    rw [whole_of_nonneg h]
    exact sub_nonneg.mpr (Int.floor_le x)
  have hrounded : 0 ≤ roundHalfEven (F.round (1000000 * (x - whole x))) :=
    le_roundHalfEven (by
      rw [Int.cast_zero]
      exact BinaryFormat.round_nonneg (by positivity))
  unfold ofSeconds
  positivity

/-- A format with the integers up to a million keeps the bound. -/
theorem ofSeconds_le (hF : ∀ n : ℤ, |n| ≤ 1000000 → F.round n = n) (hx : 0 ≤ x) {d : Timedelta}
    (h : x ≤ totalSeconds d) : ofSeconds F x ≤ d := by
  have hmicros : 1000000 * x ≤ d := by
    rw [totalSeconds, le_div_iff₀ (by norm_num)] at h
    linarith
  have hfloor := Int.floor_le x
  have hlt := Int.lt_floor_add_one x
  rw [ofSeconds, whole_of_nonneg hx]
  -- the fraction is below the rest of the bound, or below a second
  obtain ⟨rest, hrest⟩ : ∃ rest : ℤ, rest = min (d - ⌊x⌋ * 1000000) 1000000 := ⟨_, rfl⟩
  have hle : 1000000 * (x - ⌊x⌋) ≤ rest := by
    rw [hrest, Int.cast_min, le_min_iff]
    push_cast
    constructor <;> linarith
  have hnonneg : (0 : ℚ) ≤ rest := le_trans (by linarith) hle
  have hnonneg' : 0 ≤ rest := by exact_mod_cast hnonneg
  have hrounded : F.round (1000000 * (x - ⌊x⌋)) ≤ rest := by
    rw [← hF rest (by rw [abs_of_nonneg hnonneg']; omega)]
    exact BinaryFormat.round_mono F hle
  have hfraction : roundHalfEven (F.round (1000000 * (x - ⌊x⌋))) ≤ rest := roundHalfEven_le hrounded
  have hbound : rest ≤ d - ⌊x⌋ * 1000000 := hrest ▸ min_le_left _ _
  linarith

theorem ofSeconds_zero : ofSeconds F 0 = 0 := by
  have hwhole : whole 0 = 0 := by
    rw [whole_of_nonneg le_rfl]
    exact Int.floor_zero
  have hzero : roundHalfEven 0 = 0 := roundHalfEven_intCast 0
  rw [ofSeconds, hwhole, Int.cast_zero, sub_self, mul_zero, BinaryFormat.round_zero, hzero,
    zero_mul, add_zero]

end

end Timedelta

/-! ### Local times -/

/-- A `datetime` of a time zone; `fold` tells the second of two equal readings of its wall clock. -/
structure Datetime where
  wall : Int
  fold : Bool := false
  deriving DecidableEq

instance : HAdd Datetime Timedelta Datetime where
  hAdd d delta := { wall := d.wall + delta }

/-- A time zone: the UTC offset of its local times, and the local time of an instant. -/
structure TimeZone where
  utcoffset : Datetime → Timedelta
  asLocal : Int → Datetime
  /-- a local time and its offset give the instant back -/
  asLocal_wall : ∀ u, (asLocal u).wall = u + utcoffset (asLocal u)

namespace TimeZone

variable (zone : TimeZone)

def asUtc (d : Datetime) : Int := d.wall - zone.utcoffset d

/-- **A duration later on the wall clock** is the duration less the change of the offset later. -/
theorem asUtc_add (u : Int) (delta : Timedelta) :
    zone.asUtc (zone.asLocal u + delta) - u =
      delta - (zone.utcoffset (zone.asLocal u + delta) - zone.utcoffset (zone.asLocal u)) := by
  have hwall : (zone.asLocal u + delta).wall = (zone.asLocal u).wall + delta := rfl
  rw [asUtc, hwall, zone.asLocal_wall]
  ring

/-- A zone whose offset changes once, at an instant; what the wall clock skips still has the offset
before it, and what it repeats has either, by `fold`. -/
def switch (instant : Int) (before after : Timedelta) : TimeZone where
  utcoffset d :=
    if d.wall < instant + (if d.fold then min before after else max before after) then before
    else after
  asLocal u :=
    if u < instant then ⟨u + before, false⟩ else ⟨u + after, decide (u + after < instant + before)⟩
  asLocal_wall u := by
    by_cases hu : u < instant
    · simp only [hu, if_true, Bool.false_eq_true, if_false]
      rw [if_pos (by omega)]
    · simp only [hu, if_false, decide_eq_true_eq]
      split_ifs <;> omega

end TimeZone
