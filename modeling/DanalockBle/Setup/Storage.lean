import DanalockBle.Setup.PyFloat

/-!
# Stored tokens

The JSON form of a token pair in its entry's store (`storage.py`). `TokenData` of the cloud library
is a record that does not check its fields; the store writes `null` for a number that JSON cannot
express.
-/

namespace DanalockBle

structure TokenData where
  accessToken : Json
  refreshToken : Json
  expiresAt : PyFloat

/-- A number as an unchecked field holds it. -/
inductive PyNumber where
  | int (n : ℤ)
  | float (x : PyFloat)

/-- As the store writes it. -/
def PyNumber.toJson : PyNumber → Json
  | int n => .int n
  | float (.finite x) => .float x
  | float _ => .null

/-- A token pair as the library hands it over: nothing makes its expiry a `float`. -/
structure RawToken where
  accessToken : Json
  refreshToken : Json
  expiresAt : PyNumber

/-- `_token_to_dict`, as the store writes it. -/
def RawToken.toDict (token : RawToken) : Json :=
  .obj [("access_token", token.accessToken), ("refresh_token", token.refreshToken),
    ("expires_at", token.expiresAt.toJson)]

/-- `_token_to_dict` of a pair with a `float` expiry, as a login leaves it. -/
def tokenToDict (token : TokenData) : Json :=
  RawToken.toDict ⟨token.accessToken, token.refreshToken, .float token.expiresAt⟩

/-- `data[key]`. -/
def item (members : List (String × Json)) (key : String) : Except PyErr Json :=
  match members.lookup key with
  | some value => .ok value
  | none => .error (.other "KeyError" key)

/-- `except (KeyError, TypeError, ValueError)`. -/
def isMalformed : PyErr → Bool
  | .other cls _ => cls == "KeyError" || cls == "TypeError"
  | .valueError _ => true
  | _ => false

/-- `_token_from_dict`: malformed data reads as empty. -/
def tokenFromDict : Json → Except PyErr (Option TokenData)
  | .obj members =>
    match (do
      let accessToken ← item members "access_token"
      let refreshToken ← item members "refresh_token"
      let expiresAt ← Python.float (← item members "expires_at")
      return ⟨accessToken, refreshToken, expiresAt⟩ : Except PyErr TokenData) with
    | .ok token => .ok (some token)
    | .error err => if isMalformed err then .ok none else .error err
  | _ => .ok none

/-- A token pair with a finite expiry is read back as it was stored. -/
theorem tokenFromDict_toDict (accessToken refreshToken : Json) (expiresAt : ℚ) :
    tokenFromDict (tokenToDict ⟨accessToken, refreshToken, .finite expiresAt⟩) =
      .ok (some ⟨accessToken, refreshToken, .finite expiresAt⟩) := rfl

end DanalockBle
