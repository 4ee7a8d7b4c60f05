import DanalockBle.Setup.Storage

/-!
# What the token decoder accepts

`_token_from_dict` converts the expiry with `float` and takes the tokens as they are. What comes out
depends on how `float` ends: it refuses the expiry (the data reads as empty), it converts it (the
data reads as a token pair, whatever the tokens are), or the number is too large (the conversion's
exception escapes).
-/

namespace DanalockBle

namespace Json

def isStr : Json → Bool
  | str _ => true
  | _ => false

def isNumber : Json → Bool
  | int _ | float _ => true
  | _ => false

/-- An object whose tokens are strings and whose expiry is a number. -/
def isTokenPair : Json → Bool
  | obj members =>
    match members.lookup "access_token", members.lookup "refresh_token",
        members.lookup "expires_at" with
    | some accessToken, some refreshToken, some expiresAt =>
      accessToken.isStr && refreshToken.isStr && expiresAt.isNumber
    | _, _, _ => false
  | _ => false

/-- No number, and no text of one. -/
def isRefused : Json → Bool
  | null | arr _ | obj _ => true
  | str text => (Python.floatOfString text).isNone
  | _ => false

/-- A number that a `float` can be nearest to. -/
def InRange : Json → Prop
  | int n => |(n : ℚ)| < Python.binary64.overflowBound
  | float _ => True
  | _ => False

theorem InRange.isNumber {value : Json} (h : value.InRange) : value.isNumber = true := by
  cases value with
  | int n => rfl
  | float x => rfl
  | _ => cases h

theorem isNumber_of_isRefused {value : Json} (h : value.isRefused = true) :
    value.isNumber = false := by
  cases value with
  | int n => cases h
  | float x => cases h
  | _ => rfl

end Json

namespace Python

theorem float_str (text : String) :
    float (.str text) = match floatOfString text with
      | some x => .ok x
      | none => .error (.valueError ("could not convert string to float: " ++ text.quote)) := rfl

theorem float_refused {value : Json} (h : value.isRefused = true) :
    ∃ err, float value = .error err ∧ isMalformed err = true := by
  cases value with
  | null => exact ⟨_, rfl, rfl⟩
  | arr items => exact ⟨_, rfl, rfl⟩
  | obj members => exact ⟨_, rfl, rfl⟩
  | str text =>
    rw [float_str, Option.isNone_iff_eq_none.mp h]
    exact ⟨_, rfl, rfl⟩
  | bool b => cases h
  | int n => cases h
  | float x => cases h

theorem float_int (n : ℤ) :
    float (.int n) = match binary64.nearest n with
      | some x => .ok (.finite x)
      | none => .error (.other "OverflowError" "int too large to convert to float") := by
  rw [← nearestDouble_eq]
  rfl

theorem float_tooLarge {n : ℤ} (h : binary64.overflowBound ≤ |(n : ℚ)|) :
    ∃ err, float (.int n) = .error err ∧ isMalformed err = false := by
  rw [float_int, BinaryFormat.nearest_eq_none_iff.mpr h]
  exact ⟨_, rfl, rfl⟩

theorem float_inRange {value : Json} (h : value.InRange) : ∃ x, float value = .ok x := by
  cases value with
  | float x => exact ⟨_, rfl⟩
  | int n =>
    rw [float_int]
    cases hn : binary64.nearest n with
    | none => exact absurd (BinaryFormat.nearest_eq_none_iff.mp hn) (not_le.mpr h)
    | some x => exact ⟨_, rfl⟩
  | _ => cases h

/-- What is neither refused nor a number is converted as well: a truth value, or the text of a
number. -/
theorem float_other {value : Json} (href : value.isRefused = false)
    (hnum : value.isNumber = false) : ∃ x, float value = .ok x := by
  cases value with
  | bool b => exact ⟨_, rfl⟩
  | str text =>
    obtain ⟨x, hx⟩ := Option.isSome_iff_exists.mp (Option.isNone_eq_false_iff.mp href)
    rw [float_str, hx]
    exact ⟨x, rfl⟩
  | null => cases href
  | arr items => cases href
  | obj members => cases href
  | int n => cases hnum
  | float x => cases hnum

end Python

/-! ### The decoder -/

/-- The object has the three keys of a token pair. -/
structure HasFields (members : List (String × Json)) (accessToken refreshToken expiresAt : Json) :
    Prop where
  accessToken : members.lookup "access_token" = some accessToken
  refreshToken : members.lookup "refresh_token" = some refreshToken
  expiresAt : members.lookup "expires_at" = some expiresAt

namespace HasFields

variable {members : List (String × Json)} {accessToken refreshToken expiresAt : Json}

/-- With the three keys, all depends on how `float` ends. -/
theorem tokenFromDict (h : HasFields members accessToken refreshToken expiresAt) :
    tokenFromDict (.obj members) = match Python.float expiresAt with
      | .ok x => .ok (some ⟨accessToken, refreshToken, x⟩)
      | .error err => if isMalformed err then .ok none else .error err := by
  simp only [DanalockBle.tokenFromDict, item, h.accessToken, h.refreshToken, h.expiresAt, bind,
    Except.bind, pure, Except.pure]
  cases Python.float expiresAt <;> rfl

theorem isTokenPair (h : HasFields members accessToken refreshToken expiresAt) :
    (Json.obj members).isTokenPair =
      (accessToken.isStr && refreshToken.isStr && expiresAt.isNumber) := by
  simp only [Json.isTokenPair, h.accessToken, h.refreshToken, h.expiresAt]

end HasFields

/-- A missing key reads as empty. -/
theorem tokenFromDict_missing {members : List (String × Json)}
    (h : ∀ accessToken refreshToken expiresAt,
      ¬ HasFields members accessToken refreshToken expiresAt) :
    tokenFromDict (.obj members) = .ok none := by
  cases haccess : members.lookup "access_token" with
  | none =>
    simp only [tokenFromDict, item, haccess]
    rfl
  | some accessToken =>
    cases hrefresh : members.lookup "refresh_token" with
    | none =>
      simp only [tokenFromDict, item, haccess, hrefresh]
      rfl
    | some refreshToken =>
      cases hexpires : members.lookup "expires_at" with
      | none =>
        simp only [tokenFromDict, item, haccess, hrefresh, hexpires]
        rfl
      | some expiresAt => exact absurd ⟨haccess, hrefresh, hexpires⟩ (h _ _ _)

/-- The data reads as what it is: nothing is raised, and a token pair comes out of a token pair and
of nothing else. -/
structure ReadsRight (data : Json) : Prop where
  never_raises : ∃ found, tokenFromDict data = .ok found
  only_pairs : ∀ token, tokenFromDict data = .ok (some token) → data.isTokenPair = true
  every_pair : data.isTokenPair = true → ∃ token, tokenFromDict data = .ok (some token)

/-- `float` tells what the data is: it refuses the expiry, or the data is a token pair with an
expiry in range. -/
def ToldByFloat : Json → Prop
  | .obj members => ∀ accessToken refreshToken expiresAt,
      HasFields members accessToken refreshToken expiresAt →
        expiresAt.isRefused = true ∨
          accessToken.isStr = true ∧ refreshToken.isStr = true ∧ expiresAt.InRange
  | _ => True

/-- Data that is no token pair and reads as empty. -/
theorem ReadsRight.of_none {data : Json} (hpair : data.isTokenPair = false)
    (hread : tokenFromDict data = .ok none) : ReadsRight data where
  never_raises := ⟨none, hread⟩
  only_pairs token h := by
    rw [hread] at h
    cases h
  every_pair h := by
    rw [hpair] at h
    cases h

namespace HasFields

variable {members : List (String × Json)} {accessToken refreshToken expiresAt : Json}

theorem inRange (h : HasFields members accessToken refreshToken expiresAt)
    (hright : ReadsRight (.obj members)) (href : expiresAt.isRefused = false) :
    expiresAt.InRange := by
  have hread := h.tokenFromDict
  cases hnum : expiresAt.isNumber with
  | false =>
    -- a truth value or a text: `float` converts it, so a token pair comes out
    obtain ⟨x, hx⟩ := Python.float_other href hnum
    rw [hx] at hread
    have hpair := hright.only_pairs _ hread
    rw [h.isTokenPair, hnum, Bool.and_false] at hpair
    cases hpair
  | true =>
    cases expiresAt with
    | float x => trivial
    | int n =>
      by_contra hout
      obtain ⟨err, herr, hmalformed⟩ := Python.float_tooLarge (not_lt.mp hout)
      obtain ⟨found, hfound⟩ := hright.never_raises
      rw [herr] at hread
      simp only [hmalformed, Bool.false_eq_true, if_false] at hread
      rw [hread] at hfound
      cases hfound
    | _ => cases hnum

theorem readsRight_iff (h : HasFields members accessToken refreshToken expiresAt) :
    ReadsRight (.obj members) ↔ expiresAt.isRefused = true ∨
      accessToken.isStr = true ∧ refreshToken.isStr = true ∧ expiresAt.InRange := by
  have hread := h.tokenFromDict
  constructor
  · intro hright
    cases href : expiresAt.isRefused with
    | true => exact .inl rfl
    | false =>
      have hrange := h.inRange hright href
      obtain ⟨x, hx⟩ := Python.float_inRange hrange
      rw [hx] at hread
      have hpair := hright.only_pairs _ hread
      rw [h.isTokenPair, Bool.and_eq_true, Bool.and_eq_true] at hpair
      exact .inr ⟨hpair.1.1, hpair.1.2, hrange⟩
  · rintro (href | ⟨haccess, hrefresh, hrange⟩)
    · obtain ⟨err, herr, hmalformed⟩ := Python.float_refused href
      rw [herr] at hread
      simp only [hmalformed, if_true] at hread
      refine .of_none ?_ hread
      rw [h.isTokenPair, Json.isNumber_of_isRefused href, Bool.and_false]
    · obtain ⟨x, hx⟩ := Python.float_inRange hrange
      rw [hx] at hread
      have hpair : (Json.obj members).isTokenPair = true := by
        rw [h.isTokenPair, haccess, hrefresh, hrange.isNumber]
        rfl
      exact ⟨⟨_, hread⟩, fun _ _ => hpair, fun _ => ⟨_, hread⟩⟩

end HasFields

theorem Json.exists_fields {members : List (String × Json)}
    (h : (Json.obj members).isTokenPair = true) :
    ∃ accessToken refreshToken expiresAt, HasFields members accessToken refreshToken expiresAt := by
  simp only [Json.isTokenPair] at h
  split at h
  · next accessToken refreshToken expiresAt haccess hrefresh hexpires =>
    exact ⟨accessToken, refreshToken, expiresAt, haccess, hrefresh, hexpires⟩
  · cases h

/-- The data that reads as what it is. -/
theorem readsRight_iff (data : Json) : ReadsRight data ↔ ToldByFloat data := by
  cases data with
  | obj members =>
    by_cases hfields : ∃ accessToken refreshToken expiresAt,
        HasFields members accessToken refreshToken expiresAt
    · obtain ⟨accessToken, refreshToken, expiresAt, h⟩ := hfields
      rw [h.readsRight_iff]
      refine ⟨fun hcond a r e h' => ?_, fun htold => htold _ _ _ h⟩
      cases h.accessToken.symm.trans h'.accessToken
      cases h.refreshToken.symm.trans h'.refreshToken
      cases h.expiresAt.symm.trans h'.expiresAt
      exact hcond
    · have hmissing : ∀ accessToken refreshToken expiresAt,
          ¬ HasFields members accessToken refreshToken expiresAt :=
        fun a r e h => hfields ⟨a, r, e, h⟩
      refine ⟨fun _ a r e h => absurd h (hmissing a r e), fun _ => .of_none ?_
        (tokenFromDict_missing hmissing)⟩
      rw [← Bool.not_eq_true]
      exact fun hpair => hfields (Json.exists_fields hpair)
  | _ => exact ⟨fun _ => trivial, fun _ => .of_none rfl rfl⟩

/-! ### What the encoder writes -/

namespace PyNumber

def isFinite : PyNumber → Bool
  | int _ | float (.finite _) => true
  | _ => false

/-- `==` of the number and a `float`. -/
def equals : PyNumber → PyFloat → Bool
  | int n, .finite x => (n : ℚ) == x
  | float (.finite x), .finite y => x == y
  | float (.inf negative), .inf negative' => negative == negative'
  | _, _ => false

/-- A `float`, or an integer that is the value of one. -/
def IsFloat : PyNumber → Prop
  | int n => Python.binary64.Value n
  | float _ => True

end PyNumber

namespace RawToken

/-- The decoded pair equals the encoded one. -/
def RoundTrips (token : RawToken) : Prop :=
  ∃ found, tokenFromDict token.toDict = .ok (some found) ∧
    found.accessToken = token.accessToken ∧ found.refreshToken = token.refreshToken ∧
    token.expiresAt.equals found.expiresAt = true

theorem hasFields (token : RawToken) :
    HasFields [("access_token", token.accessToken), ("refresh_token", token.refreshToken),
      ("expires_at", token.expiresAt.toJson)] token.accessToken token.refreshToken
      token.expiresAt.toJson := ⟨rfl, rfl, rfl⟩

/-- A token pair is read back when `float` keeps its expiry. -/
theorem roundTrips_iff {token : RawToken} :
    token.RoundTrips ↔
      ∃ x, Python.float token.expiresAt.toJson = .ok x ∧ token.expiresAt.equals x = true := by
  rw [RoundTrips, toDict, token.hasFields.tokenFromDict]
  cases Python.float token.expiresAt.toJson with
  | ok x =>
    constructor
    · rintro ⟨found, hfound, -, -, hequals⟩
      cases hfound
      exact ⟨x, rfl, hequals⟩
    · rintro ⟨y, hy, hequals⟩
      cases hy
      exact ⟨_, rfl, rfl, rfl, hequals⟩
  | error err =>
    constructor
    · rintro ⟨found, hfound, -⟩
      simp only at hfound
      split at hfound <;> cases hfound
    · rintro ⟨y, hy, -⟩
      cases hy

end RawToken

theorem PyNumber.float_keeps_iff {number : PyNumber} (h : number.isFinite = true) :
    (∃ x, Python.float number.toJson = .ok x ∧ number.equals x = true) ↔ number.IsFloat := by
  cases number with
  | float x =>
    cases x with
    | finite x => exact ⟨fun _ => trivial, fun _ => ⟨_, rfl, beq_self_eq_true x⟩⟩
    | _ => cases h
  | int n =>
    rw [toJson, Python.float_int, IsFloat, ← BinaryFormat.nearest_eq_self_iff]
    cases hn : Python.binary64.nearest n with
    | none =>
      constructor
      · rintro ⟨x, hx, -⟩
        cases hx
      · intro hx
        cases hx
    | some x =>
      simp only [Except.ok.injEq, exists_eq_left', equals, beq_iff_eq, Option.some.injEq]
      exact eq_comm

/-- The decoder gives a token pair with string tokens and a finite expiry back when the expiry is a
`float` or the value of one, and it reads the data right that `float` tells. -/
theorem storedTokens_iff (accessToken refreshToken : String) (expiresAt : PyNumber)
    (hfinite : expiresAt.isFinite = true) (data : Json) :
    (RawToken.RoundTrips ⟨.str accessToken, .str refreshToken, expiresAt⟩ ↔ expiresAt.IsFloat) ∧
      (ReadsRight data ↔ ToldByFloat data) :=
  ⟨RawToken.roundTrips_iff.trans (PyNumber.float_keeps_iff hfinite), readsRight_iff data⟩

/-- A stored pair whose expiry was written as an integer. -/
def issuedTokens : Json :=
  .obj [("access_token", .str "access"), ("refresh_token", .str "refresh"),
    ("expires_at", .int 1700000000)]

/-- A pair with such an expiry comes back, and its data reads as the pair that it is. -/
theorem storedTokens_issued :
    RawToken.RoundTrips ⟨.str "access", .str "refresh", .int 1700000000⟩ ∧
      ReadsRight issuedTokens := by
  have hfields : HasFields [("access_token", .str "access"), ("refresh_token", .str "refresh"),
      ("expires_at", .int 1700000000)] (.str "access") (.str "refresh") (.int 1700000000) :=
    ⟨rfl, rfl, rfl⟩
  have hrange : (Json.int 1700000000).InRange := by
    calc |((1700000000 : ℤ) : ℚ)| < 2 ^ (31 : ℤ) := by norm_num
      _ ≤ 2 ^ (Python.binary64.top - 1) :=
        zpow_le_zpow_right₀ (by norm_num) (by norm_num [Python.binary64])
      _ ≤ Python.binary64.overflowBound := BinaryFormat.le_overflowBound
  have h := storedTokens_iff "access" "refresh" (.int 1700000000) rfl issuedTokens
  refine ⟨h.1.mpr ⟨1700000000, 0, ?_⟩, h.2.mpr fun accessToken refreshToken expiresAt hread => ?_⟩
  · norm_num [Python.binary64]
  · cases hfields.accessToken.symm.trans hread.accessToken
    cases hfields.refreshToken.symm.trans hread.refreshToken
    cases hfields.expiresAt.symm.trans hread.expiresAt
    exact .inr ⟨rfl, rfl, hrange⟩

/-- A number and a null where the tokens stand. -/
def untypedTokens : Json :=
  .obj [("access_token", .int 42), ("refresh_token", .null), ("expires_at", .float 0)]

/-- An expiry that is too large for a `float`. -/
def hugeExpiry : Json :=
  .obj [("access_token", .str "access"), ("refresh_token", .str "refresh"),
    ("expires_at", .int (2 ^ 1024))]

/-- Data that is no token pair reads as one, and an expiry that is too large is raised. -/
theorem untypedTokens_accepted :
    tokenFromDict untypedTokens = .ok (some ⟨.int 42, .null, .finite 0⟩) ∧
      untypedTokens.isTokenPair = false ∧ ∃ err, tokenFromDict hugeExpiry = .error err := by
  refine ⟨rfl, rfl, ?_⟩
  have hfields : HasFields [("access_token", .str "access"), ("refresh_token", .str "refresh"),
      ("expires_at", .int (2 ^ 1024))] (.str "access") (.str "refresh") (.int (2 ^ 1024)) :=
    ⟨rfl, rfl, rfl⟩
  have hlarge : Python.binary64.overflowBound ≤ |((2 ^ 1024 : ℤ) : ℚ)| := by
    rw [Int.cast_pow, Int.cast_ofNat, abs_of_pos (pow_pos (by norm_num) _), ← zpow_natCast]
    exact BinaryFormat.overflowBound_lt.le
  obtain ⟨err, herr, hmalformed⟩ := Python.float_tooLarge hlarge
  refine ⟨err, ?_⟩
  rw [hugeExpiry, hfields.tokenFromDict, herr]
  simp only [hmalformed, Bool.false_eq_true, if_false]

end DanalockBle
