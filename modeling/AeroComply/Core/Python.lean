import Mathlib.Data.List.Induction
import AeroComply.Lib.Table
import AeroComply.Core.Text

/-!
# Python — dictionaries, decoded JSON and the library functions the import uses

A dictionary is a table keyed by text, in insertion order.  What reads a text as a
number or as a date, and what writes a date out, is the interpreter's: it is a
parameter, and what is proved of the import holds for all of it.
-/

namespace AeroComply

open Relational (Keyed Table)

/-- An item of a dictionary. -/
structure Entry (β : Type) where
  key : String
  value : β
  deriving DecidableEq

instance {β : Type} : Keyed (Entry β) String := ⟨Entry.key⟩

/-- A dictionary with text keys. -/
abbrev Dict (β : Type) := Table (Entry β)

namespace Dict

variable {β : Type}

/-- `d.get(key)`. -/
def get (d : Dict β) (key : String) : Option β := (d.find? key).map Entry.value

/-- The dictionary that assigns the items in their order. -/
def ofEntries (entries : List (Entry β)) : Dict β :=
  entries.foldl Table.upsert Table.empty

theorem mem_of_mem_ofEntries {entries : List (Entry β)} {e : Entry β}
    (h : e ∈ (ofEntries entries).rows) : e ∈ entries :=
  (Table.mem_of_mem_foldl_upsert h).resolve_right List.not_mem_nil

section Lookup

variable {entries : List (Entry β)} {key : String}

theorem get_ofEntries (entries : List (Entry β)) (key : String) :
    (ofEntries entries).get key =
      (entries.reverse.find? fun e => e.key = key).map Entry.value := by
  rw [get, ofEntries, Table.find?_foldl_upsert]
  exact congrArg (Option.map _) Option.or_none

theorem get_ofEntries_of_forall {value : β} (hsome : ∃ e ∈ entries, e.key = key)
    (hall : ∀ e ∈ entries, e.key = key → e.value = value) :
    (ofEntries entries).get key = some value := by
  rw [get_ofEntries]
  cases hfound : entries.reverse.find? fun e => e.key = key with
  | none =>
    obtain ⟨e, he, hkey⟩ := hsome
    have hnot := List.find?_eq_none.1 hfound e (List.mem_reverse.2 he)
    exact absurd (decide_eq_true hkey) hnot
  | some e =>
    have hmem := List.mem_reverse.1 (List.mem_of_find?_eq_some hfound)
    have hkey : e.key = key := by simpa using List.find?_some hfound
    exact congrArg some (hall e hmem hkey)

theorem get_ofEntries_of_none (hnone : ∀ e ∈ entries, e.key ≠ key) :
    (ofEntries entries).get key = none := by
  rw [get_ofEntries, Option.map_eq_none_iff, List.find?_eq_none]
  intro e he
  simpa using hnone e (List.mem_reverse.1 he)

theorem rows_ofEntries (h : (entries.map Entry.key).Nodup) :
    (ofEntries entries).rows = entries := by
  induction entries using List.reverseRecOn with
  | nil => rfl
  | append_singleton entries e ih =>
    rw [List.map_append, List.nodup_append] at h
    obtain ⟨hentries, -, hnew⟩ := h
    have hrows := ih hentries
    rw [ofEntries, List.foldl_append, List.foldl_cons, List.foldl_nil]
    rw [ofEntries] at hrows
    rw [Table.rows_upsert_of_fresh, hrows]
    intro x hx
    rw [hrows] at hx
    exact hnew _ (List.mem_map_of_mem hx) _ (List.mem_singleton_self _)

theorem get_eq_some {d : Dict β} {value : β} :
    d.get key = some value ↔ ⟨key, value⟩ ∈ d.rows := by
  rw [get, Option.map_eq_some_iff]
  constructor
  · rintro ⟨e, he, rfl⟩
    obtain ⟨hmem, rfl⟩ := Table.find?_eq_some.1 he
    exact hmem
  · intro hmem
    exact ⟨_, Table.find?_eq_some.2 ⟨hmem, rfl⟩, rfl⟩

end Lookup

/-- `dict(d) | other`, the items of `other` assigned last. -/
def update (d other : Dict β) : Dict β := other.rows.foldl Table.upsert d

end Dict

/-- `d.get(key)` where an empty text counts as missing. -/
def getNonempty (d : Dict String) (key : String) : Option String :=
  (d.get key).filter (· ≠ "")

/-- A value in a row: a cell of a file is a text, a stored row may hold `null` or a number. -/
inductive Cell
  | null
  | text (s : String)
  | number (n : Int)
  deriving DecidableEq, Repr

namespace Cell

/-- `bool(value)`. -/
def truthy : Cell → Bool
  | null => false
  | text s => s ≠ ""
  | number n => n ≠ 0

/-- `str(value)`. -/
def str : Cell → String
  | null => "None"
  | text s => s
  | number n => toString n

/-- `repr(value)`. -/
def repr : Cell → String
  | null => "None"
  | text s => pyRepr s
  | number n => toString n

end Cell

/-- `repr(row.get(key))`. -/
def reprGiven : Option Cell → String
  | none => "None"
  | some c => c.repr

/-- `a or b`. -/
def firstTruthy (a b : Option Cell) : Option Cell := if a.any Cell.truthy then a else b

/-- `s or None`. -/
def orNone (s : String) : Option String := if s = "" then none else some s

/-- A `datetime`: what the clock shows, in microseconds, and its offset from UTC, if it has
one. -/
structure PyDateTime where
  wall : Int
  utcOffset : Option Int
  deriving DecidableEq, Repr

namespace PyDateTime

/-- `dt if dt.tzinfo else dt.replace(tzinfo=UTC)`. -/
def aware (dt : PyDateTime) : PyDateTime := { dt with utcOffset := some (dt.utcOffset.getD 0) }

/-- The instant a `timestamptz` column stores. -/
def instant (dt : PyDateTime) : DateTime := dt.wall - dt.utcOffset.getD 0

end PyDateTime

/-- What comes of reading a text as a float and rounding it to an integer. -/
inductive FloatRead
  | value (n : Int)
  | valueError
  | overflowError
  deriving DecidableEq, Repr

/-- The library functions behind the import. -/
structure Interpreter where
  unicode : UnicodeTables
  /-- `s.lower()`. -/
  lower : String → String
  /-- `int(s)`; `none` is a `ValueError`. -/
  int? : String → Option Int
  /-- `int(float(s))`. -/
  floatInt : String → FloatRead
  /-- `int(round(float(s) * 60))`. -/
  floatMinutes : String → FloatRead
  /-- `f"{round(n / 60, 1)}"`; `none` is an `OverflowError`. -/
  hours? : Int → Option String
  /-- `datetime.fromisoformat(s)`; `none` is a `ValueError`. -/
  fromisoformat? : String → Option PyDateTime
  /-- `datetime.strptime(s, format)`; `none` is a `ValueError`. -/
  strptime? : String → String → Option PyDateTime
  /-- `dt.isoformat()`. -/
  isoformat : PyDateTime → String
  /-- `str(dt)`. -/
  strDateTime : PyDateTime → String
  /-- `str(id)` of a UUID. -/
  uuidText : UUID → String

namespace Interpreter

variable (py : Interpreter)

/-- `s.upper()`. -/
def upper (s : String) : String := String.ofList (py.unicode.upperText s.toList)

/-- `(value or "").strip()`: a number has no `strip`. -/
def stripped : Option Cell → Except Error String
  | some (.text s) => .ok (py.unicode.strip s)
  | some (.number n) => if n = 0 then .ok "" else .error .attributeError
  | some .null | none => .ok ""

/-- `str(value).strip()`, unless the value is `None` or that is empty. -/
def given : Option Cell → Option String
  | some (.text s) => orNone (py.unicode.strip s)
  | some (.number n) => orNone (py.unicode.strip (toString n))
  | some .null | none => none

/-- The number that a text of ASCII digits stands for. -/
def digits? (s : String) : Option Int :=
  if s ≠ "" ∧ s.toList.all Char.isDigit = true then
    some (intOfDigits (s.toList.map fun c => c.toNat - '0'.toNat))
  else none

/-- Midnight UTC on the first of January 2026. -/
def newYear : PyDateTime := ⟨1767225600000000, some 0⟩

/-- The part of the interpreter needed to evaluate examples: ASCII texts, whole numbers and hours,
and `newYear`. -/
def ascii : Interpreter where
  unicode := .ascii
  lower s := s.map Char.toLower
  int? := digits?
  floatInt s := ((digits? s).map .value).getD .valueError
  floatMinutes s := ((digits? s).map fun n => .value (60 * n)).getD .valueError
  hours? n := some s!"{n / 60}.0"
  fromisoformat? s :=
    if s = "2026-01-01" then some { newYear with utcOffset := none }
    else if s = "2026-01-01T00:00:00+00:00" then some newYear
    else none
  strptime? _ _ := none
  isoformat _ := "2026-01-01T00:00:00+00:00"
  strDateTime _ := "2026-01-01 00:00:00+00:00"
  uuidText _ := "00000000-0000-0000-0000-000000000000"

end Interpreter

end AeroComply
