import DanalockBle.Firmware.Version
import DanalockBle.Lib.KeyedOrder
import Mathlib.Algebra.Group.Nat.Defs
import Mathlib.Data.Prod.Lex

/-!
# The order of firmware versions

A version's key is its three components in lexicographic order. `versionIsNewer` compares the
keys and `versionsEqual` tells whether two versions have the same one, so both follow the order of
the keys whatever the spelling of a component is.
-/

namespace DanalockBle

open KeyedOrder

/-! ### `int` of a decimal rendering -/

namespace Python

theorem digitOf_of_isDigit {c : Char} (hc : c.isDigit = true) :
    digitOf c = some (c.toNat - 48) := by
  obtain ⟨hlow, hhigh⟩ : 48 ≤ c.toNat ∧ c.toNat ≤ 57 := Char.isDigit_iff_toNat.mp hc
  have hfirst : (decide (48 ≤ c.toNat) && decide (c.toNat < 48 + 10)) = true := by
    simp only [Bool.and_eq_true, decide_eq_true_eq]
    omega
  rw [digitOf, show digitZeros = 48 :: digitZeros.tail from rfl, List.find?_cons]
  simp only [hfirst, Option.map_some]

theorem isSpace_of_isDigit {c : Char} (hc : c.isDigit = true) : isSpace c = false := by
  obtain ⟨hlow, hhigh⟩ : 48 ≤ c.toNat ∧ c.toNat ≤ 57 := Char.isDigit_iff_toNat.mp hc
  simp only [isSpace, spaces, List.contains_eq_mem, decide_eq_false_iff_not, List.mem_cons,
    List.not_mem_nil, or_false]
  omega

/-- ASCII digits without an underscore. -/
theorem digits_of_isDigit {text : List Char} (htext : ∀ c ∈ text, c.isDigit = true) (more : Bool)
    (hne : text = [] → more = true) :
    digits more text = some (text.map fun c => c.toNat - 48) := by
  induction text generalizing more with
  | nil => rw [digits, hne rfl]; rfl
  | cons c rest ih =>
    have hc := htext c (List.mem_cons_self ..)
    have hunderscore : c ≠ '_' := by
      rintro rfl
      cases hc
    have hrest := ih (fun c' h => htext c' (List.mem_cons_of_mem _ h)) true fun _ => rfl
    rw [digits, if_neg hunderscore, digitOf_of_isDigit hc]
    simp only [hrest, Option.map_some, List.map_cons]

theorem strip_of_isDigit {text : List Char} (htext : ∀ c ∈ text, c.isDigit = true) :
    strip text = text := by
  have hdrop : ∀ cs : List Char, (∀ c ∈ cs, c.isDigit = true) → cs.dropWhile isSpace = cs := by
    intro cs hcs
    cases cs with
    | nil => rfl
    | cons c rest =>
      have hc := isSpace_of_isDigit (hcs c (List.mem_cons_self ..))
      rw [List.dropWhile_cons_of_neg (by rw [hc]; exact Bool.false_ne_true)]
  unfold strip
  rw [hdrop text htext, hdrop _ fun c h => htext c (List.mem_reverse.mp h), List.reverse_reverse]

theorem isDigit_toDigits (n : Nat) : ∀ c ∈ Nat.toDigits 10 n, c.isDigit = true :=
  fun _ hc => Nat.isDigit_of_mem_toDigits (by decide) (by decide) hc

theorem natOf_toDigits (n : Nat) :
    natOf (Nat.toDigits 10 n) = if n < 10 ^ maxStrDigits then some n else none := by
  have hvalue : ((Nat.toDigits 10 n).map fun c => c.toNat - 48).foldl (fun n d => 10 * n + d) 0 =
      n := by
    rw [List.foldl_map]
    exact Nat.ofDigitChars_ten_toDigits
  have hlength : (Nat.toDigits 10 n).length ≤ maxStrDigits ↔ n < 10 ^ maxStrDigits :=
    Nat.length_toDigits_le_iff (by decide) (by decide)
  unfold natOf
  rw [digits_of_isDigit (isDigit_toDigits n) false fun h => absurd h Nat.toDigits_ne_nil]
  simp only [List.length_map, hlength, hvalue]

/-- `int` reads a natural number back unless it has too many digits. -/
theorem int_toDigits (n : Nat) :
    int (Nat.toDigits 10 n) = if n < 10 ^ maxStrDigits then some (n : Int) else none := by
  have hnat : (natOf (Nat.toDigits 10 n)).map (fun n => (n : Int)) =
      if n < 10 ^ maxStrDigits then some (n : Int) else none := by
    rw [natOf_toDigits]
    split <;> rfl
  unfold int
  rw [strip_of_isDigit (isDigit_toDigits n)]
  split
  · next rest hsign =>
    have hplus := isDigit_toDigits n '+' (by rw [hsign]; exact List.mem_cons_self ..)
    cases hplus
  · next rest hsign =>
    have hminus := isDigit_toDigits n '-' (by rw [hsign]; exact List.mem_cons_self ..)
    cases hminus
  · exact hnat

theorem isSome_int_toDigits {n : Nat} :
    (int (Nat.toDigits 10 n)).isSome = true ↔ n < 10 ^ maxStrDigits := by
  rw [int_toDigits]
  split <;> simp [*]

end Python

/-! ### Keys -/

/-- Three parts between dots, each accepted by `int`. -/
def WellFormed (version : String) : Prop :=
  ∃ major minor revision, version.toList.splitOn '.' = [major, minor, revision] ∧
    (Python.int major).isSome = true ∧ (Python.int minor).isSome = true ∧
    (Python.int revision).isSome = true

theorem isSome_versionTuple {version : String} :
    (versionTuple version).isSome = true ↔ WellFormed version := by
  unfold versionTuple
  constructor
  · intro h
    split at h
    · next major minor revision hparts =>
      refine ⟨major, minor, revision, hparts, ?_⟩
      split at h
      · next hmajor hminor hrevision => rw [hmajor, hminor, hrevision]; exact ⟨rfl, rfl, rfl⟩
      · cases h
    · cases h
  · rintro ⟨major, minor, revision, hparts, hmajor, hminor, hrevision⟩
    obtain ⟨x, hx⟩ := Option.isSome_iff_exists.mp hmajor
    obtain ⟨y, hy⟩ := Option.isSome_iff_exists.mp hminor
    obtain ⟨z, hz⟩ := Option.isSome_iff_exists.mp hrevision
    simp only [hparts, hx, hy, hz, Option.isSome_some]

/-- The components, compared one after the other. -/
def versionKey (version : String) : Option (ℤ ×ₗ ℤ ×ₗ ℤ) :=
  (versionTuple version).map fun v => toLex (v.1, toLex v.2)

theorem isSome_versionKey {version : String} :
    (versionKey version).isSome = true ↔ WellFormed version := by
  rw [versionKey, Option.isSome_map, isSome_versionTuple]

theorem tupleGreater_iff (a b : Int × Int × Int) :
    tupleGreater a b = true ↔ toLex (b.1, toLex b.2) < toLex (a.1, toLex a.2) := by
  simp only [tupleGreater, Prod.Lex.toLex_lt_toLex, Bool.or_eq_true, Bool.and_eq_true,
    decide_eq_true_eq, beq_iff_eq, eq_comm (a := a.1), eq_comm (a := a.2.1)]

theorem versionIsNewer_iff {a b : String} :
    versionIsNewer a b = true ↔ Above versionKey a b := by
  unfold versionIsNewer Above versionKey
  cases versionTuple a with
  | none => simp
  | some versionA =>
    cases versionTuple b with
    | none => simp
    | some versionB => simp [tupleGreater_iff]

theorem versionsEqual_iff {a b : String} :
    versionsEqual (some a) (some b) = true ↔ Alike versionKey a b := by
  simp only [versionsEqual, Alike, versionKey]
  cases versionTuple a with
  | none => simp
  | some versionA =>
    cases versionTuple b with
    | none => simp
    | some versionB =>
      simp only [Option.map_some, Option.some.injEq, beq_iff_eq]
      constructor
      · rintro rfl
        exact ⟨_, rfl, rfl⟩
      · rintro ⟨x, rfl, h⟩
        simp only [EmbeddingLike.apply_eq_iff_eq, Prod.mk.injEq] at h
        exact Prod.ext h.1.symm h.2.symm

/-! ### Decimal renderings -/

/-- The decimal rendering of three numbers. -/
def decimalVersion : ℕ × ℕ × ℕ → String
  | (major, minor, revision) => s!"{major}.{minor}.{revision}"

/-- No component has more digits than `int` reads. -/
def Readable (v : ℕ × ℕ × ℕ) : Prop :=
  v.1 < 10 ^ Python.maxStrDigits ∧ v.2.1 < 10 ^ Python.maxStrDigits ∧
    v.2.2 < 10 ^ Python.maxStrDigits

theorem splitOn_decimalVersion (v : ℕ × ℕ × ℕ) :
    (decimalVersion v).toList.splitOn '.' =
      [Nat.toDigits 10 v.1, Nat.toDigits 10 v.2.1, Nat.toDigits 10 v.2.2] := by
  have hdot : ∀ n, '.' ∉ Nat.toDigits 10 n := by
    intro n h
    have hdigit := Python.isDigit_toDigits n '.' h
    cases hdigit
  obtain ⟨major, minor, revision⟩ := v
  have hlist : (decimalVersion (major, minor, revision)).toList = Nat.toDigits 10 major ++
      '.' :: (Nat.toDigits 10 minor ++ '.' :: Nat.toDigits 10 revision) := by
    simp [decimalVersion, ToString.toString]
  rw [hlist, List.splitOn_append_cons_self_of_not_mem (hdot major),
    List.splitOn_append_cons_self_of_not_mem (hdot minor),
    List.splitOn_eq_singleton (hdot revision)]

/-- A rendering that `int` reads is all that it takes. -/
theorem wellFormed_decimalVersion {v : ℕ × ℕ × ℕ} : WellFormed (decimalVersion v) ↔ Readable v := by
  simp [WellFormed, splitOn_decimalVersion, Python.isSome_int_toDigits, Readable]

/-- The lexicographic order of triples. -/
def LexLess : ℕ × ℕ × ℕ → ℕ × ℕ × ℕ → Prop := Prod.Lex (· < ·) (Prod.Lex (· < ·) (· < ·))

/-- The key of a decimal rendering. -/
def tripleKey (v : ℕ × ℕ × ℕ) : ℤ ×ₗ ℤ ×ₗ ℤ := toLex ((v.1 : ℤ), toLex ((v.2.1 : ℤ), (v.2.2 : ℤ)))

theorem tripleKey_lt {x y : ℕ × ℕ × ℕ} : tripleKey y < tripleKey x ↔ LexLess y x := by
  simp only [tripleKey, LexLess, Prod.Lex.toLex_lt_toLex, Prod.lex_def, Int.ofNat_lt, Int.ofNat_inj]

theorem versionKey_decimalVersion {v : ℕ × ℕ × ℕ} (hv : Readable v) :
    versionKey (decimalVersion v) = some (tripleKey v) := by
  obtain ⟨hmajor, hminor, hrevision⟩ := hv
  simp only [versionKey, versionTuple, splitOn_decimalVersion, Python.int_toDigits, hmajor, hminor,
    hrevision, if_true, Option.map_some, tripleKey]

theorem versionIsNewer_decimalVersion {x y : ℕ × ℕ × ℕ} (hx : Readable x) (hy : Readable y) :
    versionIsNewer (decimalVersion x) (decimalVersion y) = true ↔ LexLess y x := by
  rw [versionIsNewer_iff, ← tripleKey_lt]
  constructor
  · rintro ⟨x', y', hx', hy', hlt⟩
    rw [versionKey_decimalVersion hx] at hx'
    rw [versionKey_decimalVersion hy] at hy'
    cases hx'
    cases hy'
    exact hlt
  · intro hlt
    exact ⟨_, _, versionKey_decimalVersion hx, versionKey_decimalVersion hy, hlt⟩

/-! ### The order -/

/-- **The comparison of firmware versions is an order that agrees with equality.** It sees the
values of the components only, and a version that is not well formed compares with nothing. -/
structure ComparesVersions (isNewer : String → String → Bool)
    (equal : Option String → Option String → Bool) : Prop where
  irrefl : ∀ a, isNewer a a = false
  asymm : ∀ a b, isNewer a b = true → isNewer b a = false
  trans : ∀ a b c, isNewer a b = true → isNewer b c = true → isNewer a c = true
  exactly_one : ∀ a b, WellFormed a → WellFormed b →
    [isNewer a b, isNewer b a, equal (some a) (some b)].count true = 1
  equivalence : Equivalence fun a b : {version : String // WellFormed version} =>
    equal (some a.1) (some b.1) = true
  compatible : ∀ a a' b b', equal (some a) (some a') = true → equal (some b) (some b') = true →
    isNewer a b = isNewer a' b'
  malformed : ∀ a b, ¬ WellFormed a ∨ ¬ WellFormed b →
    isNewer a b = false ∧ isNewer b a = false ∧ equal (some a) (some b) = false
  unknown : ∀ a, equal none a = false ∧ equal a none = false
  not_both : ∀ a b, isNewer a b = true → equal (some a) (some b) = false
  /-- the renderings that can be read are in the order of their triples -/
  decimal : ∀ x y, Readable x → Readable y →
    (isNewer (decimalVersion x) (decimalVersion y) = true ↔ LexLess y x)
  decimal_wellFormed : ∀ x, WellFormed (decimalVersion x) ↔ Readable x

theorem not_versionIsNewer_iff {a b : String} :
    versionIsNewer a b = false ↔ ¬ Above versionKey a b := by
  rw [← versionIsNewer_iff, Bool.not_eq_true]

theorem not_versionsEqual_iff {a b : String} :
    versionsEqual (some a) (some b) = false ↔ ¬ Alike versionKey a b := by
  rw [← versionsEqual_iff, Bool.not_eq_true]

theorem versions_exactly_one {a b : String} (ha : WellFormed a) (hb : WellFormed b) :
    [versionIsNewer a b, versionIsNewer b a, versionsEqual (some a) (some b)].count true = 1 := by
  rcases above_or_alike (isSome_versionKey.mpr ha) (isSome_versionKey.mpr hb) with h | h | h
  · rw [versionIsNewer_iff.mpr h, not_versionIsNewer_iff.mpr h.asymm,
      not_versionsEqual_iff.mpr h.not_alike]
    rfl
  · rw [versionIsNewer_iff.mpr h, not_versionIsNewer_iff.mpr h.asymm,
      not_versionsEqual_iff.mpr fun h' => h.not_alike h'.symm]
    rfl
  · rw [versionsEqual_iff.mpr h, not_versionIsNewer_iff.mpr fun h' => h'.not_alike h,
      not_versionIsNewer_iff.mpr fun h' => h'.not_alike h.symm]
    rfl

theorem versions_malformed {a b : String} (h : ¬ WellFormed a ∨ ¬ WellFormed b) :
    versionIsNewer a b = false ∧ versionIsNewer b a = false ∧
      versionsEqual (some a) (some b) = false := by
  have hkeys : ¬ ((versionKey a).isSome = true ∧ (versionKey b).isSome = true) := by
    rw [isSome_versionKey, isSome_versionKey]
    rintro ⟨ha, hb⟩
    exact h.elim (· ha) (· hb)
  exact ⟨not_versionIsNewer_iff.mpr fun h => hkeys h.isSome,
    not_versionIsNewer_iff.mpr fun h => hkeys h.isSome.symm,
    not_versionsEqual_iff.mpr fun h => hkeys h.isSome⟩

theorem versionsEqual_equivalence :
    Equivalence fun a b : {version : String // WellFormed version} =>
      versionsEqual (some a.1) (some b.1) = true where
  refl a := versionsEqual_iff.mpr (alike_self_iff.mpr (isSome_versionKey.mpr a.2))
  symm h := versionsEqual_iff.mpr (versionsEqual_iff.mp h).symm
  trans h h' := versionsEqual_iff.mpr ((versionsEqual_iff.mp h).trans (versionsEqual_iff.mp h'))

theorem versionIsNewer_congr {a a' b b' : String} (ha : versionsEqual (some a) (some a') = true)
    (hb : versionsEqual (some b) (some b') = true) : versionIsNewer a b = versionIsNewer a' b' := by
  rw [Bool.eq_iff_iff, versionIsNewer_iff, versionIsNewer_iff]
  exact above_congr (versionsEqual_iff.mp ha) (versionsEqual_iff.mp hb)

/-- `version_is_newer` and `_versions_equal`. -/
theorem compares_versions : ComparesVersions versionIsNewer versionsEqual where
  irrefl _ := not_versionIsNewer_iff.mpr not_above_self
  asymm _ _ h := not_versionIsNewer_iff.mpr (versionIsNewer_iff.mp h).asymm
  trans _ _ _ h h' :=
    versionIsNewer_iff.mpr ((versionIsNewer_iff.mp h).trans (versionIsNewer_iff.mp h'))
  exactly_one _ _ := versions_exactly_one
  equivalence := versionsEqual_equivalence
  compatible _ _ _ _ := versionIsNewer_congr
  malformed _ _ := versions_malformed
  unknown a := ⟨rfl, by cases a <;> rfl⟩
  not_both _ _ h := not_versionsEqual_iff.mpr (versionIsNewer_iff.mp h).not_alike
  decimal _ _ := versionIsNewer_decimalVersion
  decimal_wellFormed _ := wellFormed_decimalVersion

/-- The spelling of a component does not matter. -/
example : versionsEqual (some "1.2.3") (some "01.+2. 3") = true := by decide

/-- A component of one digit more than `int` reads: the rendering is not well formed, so the
greater version is not newer. -/
theorem longVersion_not_newer :
    LexLess (0, 0, 0) (10 ^ Python.maxStrDigits, 0, 0) ∧
      versionIsNewer (decimalVersion (10 ^ Python.maxStrDigits, 0, 0)) (decimalVersion (0, 0, 0)) =
        false := by
  refine ⟨.left _ _ (Nat.pow_pos (by decide)), (versions_malformed (.inl ?_)).1⟩
  rw [wellFormed_decimalVersion]
  exact fun h => Nat.lt_irrefl _ h.1

end DanalockBle
