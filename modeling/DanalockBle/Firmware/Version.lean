import DanalockBle.Basic

/-!
# Firmware versions

`int` of a string and the comparison of dotted versions. Python's `int` takes the decimal digits
of Unicode with single underscores between them, a sign before them and white space around them,
and refuses more digits than the interpreter's limit.
-/

namespace DanalockBle

namespace Python

/-- The code points of the zeros of Unicode's decimal digits; each is followed by the other
nine. -/
def digitZeros : List Nat :=
  [0x30, 0x660, 0x6F0, 0x7C0, 0x966, 0x9E6, 0xA66, 0xAE6, 0xB66, 0xBE6, 0xC66, 0xCE6, 0xD66, 0xDE6,
    0xE50, 0xED0, 0xF20, 0x1040, 0x1090, 0x17E0, 0x1810, 0x1946, 0x19D0, 0x1A80, 0x1A90, 0x1B50,
    0x1BB0, 0x1C40, 0x1C50, 0xA620, 0xA8D0, 0xA900, 0xA9D0, 0xA9F0, 0xAA50, 0xABF0, 0xFF10, 0x104A0,
    0x10D30, 0x11066, 0x110F0, 0x11136, 0x111D0, 0x112F0, 0x11450, 0x114D0, 0x11650, 0x116C0,
    0x11730, 0x118E0, 0x11950, 0x11C50, 0x11D50, 0x11DA0, 0x11F50, 0x16A60, 0x16AC0, 0x16B50,
    0x1D7CE, 0x1D7D8, 0x1D7E2, 0x1D7EC, 0x1D7F6, 0x1E140, 0x1E2F0, 0x1E4F0, 0x1E950, 0x1FBF0]

/-- The white space that `int` skips. -/
def spaces : List Nat :=
  [0x09, 0x0A, 0x0B, 0x0C, 0x0D, 0x20, 0x85, 0xA0, 0x1680, 0x2000, 0x2001, 0x2002, 0x2003, 0x2004,
    0x2005, 0x2006, 0x2007, 0x2008, 0x2009, 0x200A, 0x2028, 0x2029, 0x202F, 0x205F, 0x3000]

def digitOf (c : Char) : Option Nat :=
  (digitZeros.find? fun z => z ≤ c.toNat && c.toNat < z + 10).map (c.toNat - ·)

def isSpace (c : Char) : Bool := spaces.contains c.toNat

/-- Digits with single underscores between them; `more` after a digit. -/
def digits (more : Bool) : List Char → Option (List Nat)
  | [] => if more then some [] else none
  | c :: rest =>
    if c = '_' then if more then digits false rest else none
    else
      match digitOf c with
      | some d => (digits true rest).map (d :: ·)
      | none => none

/-- `sys.int_info.default_max_str_digits`. -/
def maxStrDigits : Nat := 4300

def natOf (text : List Char) : Option Nat :=
  match digits false text with
  | some ds =>
    if ds.length ≤ maxStrDigits then some (ds.foldl (fun n d => 10 * n + d) 0) else none
  | none => none

def strip (text : List Char) : List Char :=
  ((text.dropWhile isSpace).reverse.dropWhile isSpace).reverse

/-- `int(text)`, or `ValueError` (`none`). -/
def int (text : List Char) : Option Int :=
  match strip text with
  | '+' :: rest => (natOf rest).map fun n => (n : Int)
  | '-' :: rest => (natOf rest).map fun n => -(n : Int)
  | rest => (natOf rest).map fun n => (n : Int)

end Python

/-- Exactly three dot-separated integer components, else `none`. -/
def versionTuple (version : String) : Option (Int × Int × Int) :=
  match version.toList.splitOn '.' with
  | [major, minor, revision] =>
    match Python.int major, Python.int minor, Python.int revision with
    | some major, some minor, some revision => some (major, minor, revision)
    | _, _, _ => none
  | _ => none

/-- `a > b` of two tuples. -/
def tupleGreater (a b : Int × Int × Int) : Bool :=
  b.1 < a.1 || (a.1 == b.1 && (b.2.1 < a.2.1 || (a.2.1 == b.2.1 && b.2.2 < a.2.2)))

/-- Numeric comparison; a malformed version never claims an update. -/
def versionIsNewer (latestVersion installedVersion : String) : Bool :=
  match versionTuple latestVersion, versionTuple installedVersion with
  | some latest, some installed => tupleGreater latest installed
  | _, _ => false

/-- Numeric equality; unknown or malformed versions are not equal. -/
def versionsEqual (a b : Option String) : Bool :=
  match a, b with
  | some a, some b =>
    match versionTuple a, versionTuple b with
    | some versionA, some versionB => versionA == versionB
    | _, _ => false
  | _, _ => false

example : versionTuple "0.9.10" = some (0, 9, 10) := by decide

end DanalockBle
