import DanalockBle.Control.Errors
import DanalockBle.Firmware.Version
import DanalockBle.Lib.BinaryFormat

/-!
# JSON values and `float`

The values that a store reads back, and Python's `float` of one. A finite `float` is its value (a
negative zero is not told from zero); an integer or a decimal is rounded to the nearest double.
-/

namespace DanalockBle

/-- A JSON value; a number is written with a point or an exponent (`float`) or without. -/
inductive Json where
  | null
  | bool (b : Bool)
  | int (n : Int)
  | float (x : ℚ)
  | str (text : String)
  | arr (items : List Json)
  | obj (members : List (String × Json))

/-- A Python `float`. -/
inductive PyFloat where
  | finite (x : ℚ)
  | inf (negative : Bool)
  | nan
  deriving DecidableEq, Repr

namespace Python

/-- The nearest double, or an overflow (`none`). -/
def nearestDouble (x : ℚ) : Option ℚ :=
  let ulp : ℚ := 2 ^ max (Int.log 2 |x| - 52) (-1074)
  let rounded := roundHalfEven (x / ulp) * ulp
  if |rounded| < 2 ^ (1024 : ℤ) then some rounded else none

/-- Double precision. -/
def binary64 : BinaryFormat := ⟨53, -1074, 1024, by norm_num, by norm_num⟩

theorem nearestDouble_eq (x : ℚ) : nearestDouble x = binary64.nearest x := by
  have hexponent : binary64.exponent x = max (Int.log 2 |x| - 52) (-1074) := by
    simp only [BinaryFormat.exponent, binary64]
    omega
  rw [BinaryFormat.nearest, BinaryFormat.round, BinaryFormat.units, hexponent]
  rfl

/-- The small integers are doubles. -/
theorem round_intCast {n : ℤ} (hn : |n| ≤ 1000000) : binary64.round n = n :=
  BinaryFormat.round_intCast (hn.trans_lt (by norm_num [binary64])) (by norm_num [binary64])
    (by norm_num [binary64])

/-! ### `float` of a string -/

/-- The decimal digits and the white space of Unicode as ASCII. -/
def toAscii (c : Char) : Char :=
  match digitOf c with
  | some d => Char.ofNat (0x30 + d)
  | none => if isSpace c then ' ' else c

/-- Underscores stand between digits only. -/
def dropUnderscores (prev : Char) : List Char → Option (List Char)
  | [] => if prev = '_' then none else some []
  | c :: rest =>
    if c = '_' then if prev.isDigit then dropUnderscores c rest else none
    else if prev = '_' && !c.isDigit then none
    else (dropUnderscores c rest).map (c :: ·)

/-- An optional sign: whether it is a minus. -/
def signOf : List Char → Bool × List Char
  | '-' :: rest => (true, rest)
  | '+' :: rest => (false, rest)
  | text => (false, text)

def decimal (digits : List Char) : Nat :=
  digits.foldl (fun n c => 10 * n + (c.toNat - 0x30)) 0

/-- The exponent at the end of a number; nothing may follow it. -/
def exponentOf : List Char → Option Int
  | [] => some 0
  | e :: rest =>
    if e.toLower = 'e' then
      let (negative, digits) := signOf rest
      if !digits.isEmpty && digits.all Char.isDigit then
        some (if negative then -(decimal digits : Int) else decimal digits)
      else none
    else none

/-- The digits and the point at the start of a number: its digits, how many of them follow the
point, and the rest. -/
def mantissaOf (text : List Char) : List Char × Nat × List Char :=
  let whole := text.takeWhile Char.isDigit
  match text.dropWhile Char.isDigit with
  | '.' :: rest =>
    let fraction := rest.takeWhile Char.isDigit
    (whole ++ fraction, fraction.length, rest.dropWhile Char.isDigit)
  | rest => (whole, 0, rest)

/-- An unsigned number. -/
def numberOf (text : List Char) : Option PyFloat :=
  let word := String.ofList (text.map Char.toLower)
  if word = "inf" || word = "infinity" then some (.inf false)
  else if word = "nan" then some .nan
  else
    let (digits, places, rest) := mantissaOf text
    if digits.isEmpty then none
    else (exponentOf rest).map fun exponent =>
      match nearestDouble (decimal digits * (10 : ℚ) ^ (exponent - (places : Int))) with
      | some x => .finite x
      | none => .inf false

def PyFloat.neg : PyFloat → PyFloat
  | .finite x => .finite (-x)
  | .inf negative => .inf !negative
  | .nan => .nan

/-- `float(text)`, or `ValueError` (`none`). -/
def floatOfString (text : String) : Option PyFloat :=
  match dropUnderscores ' ' (strip (text.toList.map toAscii)) with
  | some number =>
    let (negative, number) := signOf number
    (numberOf number).map fun x => if negative then PyFloat.neg x else x
  | none => none

/-- `float` of a JSON value. -/
def float : Json → Except PyErr PyFloat
  | .float x => .ok (.finite x)
  | .bool b => .ok (.finite (if b then 1 else 0))
  | .int n =>
    match nearestDouble n with
    | some x => .ok (.finite x)
    | none => .error (.other "OverflowError" "int too large to convert to float")
  | .str text =>
    match floatOfString text with
    | some x => .ok x
    | none => .error (.valueError ("could not convert string to float: " ++ text.quote))
  | .null | .arr _ | .obj _ =>
    .error (.other "TypeError" "float() argument must be a string or a real number")

end Python

end DanalockBle
