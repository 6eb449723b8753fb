import Mathlib.Data.List.ReduceOption
import Mathlib.Data.Rat.Defs
import AeroComply.Core.Base

/-!
# Text — the string and JSON operations the services use

Python's `str.upper`, `str.strip` and the regular expression class `\d` are
table lookups in the Unicode character database, one character at a time.  The
tables are a parameter: what is proved of the services holds for every version
of the database.  `UnicodeTables.ascii` is the part of it needed to evaluate
examples.
-/

namespace AeroComply

/-- The character tables behind `str.upper`, `str.strip` and `\d`. -/
structure UnicodeTables where
  /-- Full upper-case mapping; one character can become several. -/
  upper : Char → List Char
  /-- White space, as `str.strip` removes it. -/
  isSpace : Char → Bool
  /-- The value of a decimal digit. -/
  digit? : Char → Option Nat

namespace UnicodeTables

/-- The tables restricted to ASCII. -/
def ascii : UnicodeTables where
  upper c := [c.toUpper]
  isSpace c := c.isWhitespace
  digit? c := if c.isDigit then some (c.toNat - '0'.toNat) else none

variable (u : UnicodeTables)

/-- `s.upper()`. -/
def upperText (s : List Char) : List Char := s.flatMap u.upper

/-- `s.strip()`. -/
def stripText (s : List Char) : List Char :=
  ((s.dropWhile u.isSpace).reverse.dropWhile u.isSpace).reverse

/-- `s.strip().upper()`. -/
def normalize (s : String) : List Char := u.upperText (u.stripText s.toList)

/-- `s.strip()` of a text. -/
def strip (s : String) : String := String.ofList (u.stripText s.toList)

/-- `s.strip() if s else None`. -/
def stripOrNone (s : Option String) : Option String :=
  match s with
  | none => none
  | some s => if s = "" then none else some (u.strip s)

/-- `re.findall(r"\d+", s)`, each match as its digits. -/
def findDigits (s : List Char) : List (List Nat) :=
  (((s.map u.digit?).splitOnP Option.isNone).map List.reduceOption).filter (fun g => !g.isEmpty)

end UnicodeTables

/-- A character inside `repr(s)`: quotes, backslashes and control characters are escaped. -/
def reprChar (quote : Char) (c : Char) : List Char :=
  let backslash := Char.ofNat 92
  if c = quote ∨ c = backslash then [backslash, c]
  else if c.toNat = 10 then [backslash, 'n']
  else if c.toNat = 13 then [backslash, 'r']
  else if c.toNat = 9 then [backslash, 't']
  else if c.toNat < 32 ∨ c.toNat = 127 then
    [backslash, 'x', Nat.digitChar (c.toNat / 16), Nat.digitChar (c.toNat % 16)]
  else [c]

/-- `repr(s)`: in single quotes, unless `s` has a single quote and no double quote. -/
def pyRepr (s : String) : String :=
  let single := Char.ofNat 39
  let double := Char.ofNat 34
  let quote := if s.toList.contains single && !s.toList.contains double then double else single
  String.ofList ([quote] ++ s.toList.flatMap (reprChar quote) ++ [quote])

theorem append_ne {first raw s : String} {c : Char} (hfirst : first.toList.head? = some c)
    (hs : s.toList.head? ≠ some c) : first ++ raw ≠ s := by
  rintro rfl
  refine hs ?_
  rw [String.toList_append, List.head?_append, hfirst]
  rfl

/-- A text column holds every character but NUL. -/
def storesText (s : String) : Bool := !s.toList.contains (Char.ofNat 0)

/-- `int(digits)`. -/
def intOfDigits (digits : List Nat) : Nat := digits.foldl (fun n d => 10 * n + d) 0

/-- A value of a JSONB column. -/
inductive Json
  | null
  | bool (b : Bool)
  | num (q : ℚ)
  | str (s : String)
  | arr (items : List Json)
  | obj (fields : List (String × Json))

namespace Json

/-- Python's truth value of a decoded JSON value. -/
def truthy : Json → Bool
  | null => false
  | bool b => b
  | num q => q ≠ 0
  | str s => s ≠ ""
  | arr items => !items.isEmpty
  | obj fields => !fields.isEmpty

/-- `a or b`. -/
def or (a b : Json) : Json := if a.truthy then a else b

/-- `value is None`. -/
def isNone : Json → Bool
  | null => true
  | _ => false

end Json

/-- One piece of a formatted text; how an identifier, a day, an instant or a JSON value is written
out is left to the formatter. -/
inductive TextPart
  | str (s : String)
  | uuid (id : UUID)
  | date (d : Date)
  | instant (t : DateTime)
  | json (value : Json)
  | count (n : Nat)

/-- A formatted text, as its pieces. -/
abbrev Message := List TextPart

/-- `params.get(key)`. -/
def paramsGet (params : List (String × Json)) (key : String) : Json :=
  (params.lookup key).getD .null

end AeroComply
