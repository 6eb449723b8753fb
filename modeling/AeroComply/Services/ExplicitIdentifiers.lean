import AeroComply.Lib.RegexFind
import AeroComply.Lib.Strings
import AeroComply.Services.Safety

/-!
# ExplicitIdentifiers — order numbers and registrations in a message

`extract_explicit_identifiers` of `app/services/lisa/reference_resolution_service.py` searches a
message for a work order number and for a purchase order number, puts a blank in the place of the
two texts that it has found, and searches what is left for a registration.

`orders_apart_iff` says for which messages a registration that is no part of an order number comes
out, and nothing else does.
-/

namespace AeroComply

open Regex (Pattern find Reads FirstIn InPieces PartAt ReadsParts wordAt)

/-- The character classes of the patterns. -/
inductive IdentifierClass
  | caseless (c : Char)
  | orderChar
  | exactly (c : Char)
  | letter
  | letterOrDigit
  | digit

namespace ExplicitIdentifiers

/-! ## The patterns -/

/-- `[A-Za-z0-9-]` -/
def orderChars : List Char :=
  "ABCDEFGHIJKLMNOPQRSTUVWXYZabcdefghijklmnopqrstuvwxyz0123456789-".toList

/-- The order patterns ignore case, the registration pattern does not. -/
def has (t : RegexTables) : IdentifierClass → Char → Bool
  | .caseless a, c => t.ignoreCase a c
  | .orderChar, c => orderChars.any fun a => t.ignoreCase a c
  | .exactly a, c => c == a
  | .letter, c => c.isUpper
  | .letterOrDigit, c => c.isUpper || c.isDigit
  | .digit, c => c.isDigit

/-- `\b…-[A-Za-z0-9-]+\b` -/
def orderPattern (first second : Char) : Pattern IdentifierClass :=
  .cat [.boundary, .one (.caseless first), .one (.caseless second), .one (.caseless '-'),
    .one .orderChar, .many .orderChar, .boundary]

def workOrderPattern : Pattern IdentifierClass := orderPattern 'W' 'O'

def purchaseOrderPattern : Pattern IdentifierClass := orderPattern 'P' 'O'

/-- `[A-Z]{1,2}-[A-Z0-9]{2,6}` -/
def dashedPattern : Pattern IdentifierClass :=
  .cat [.between (.one .letter) 1 1, .one (.exactly '-'), .between (.one .letterOrDigit) 2 4]

/-- `N[0-9]{1,5}[A-Z]{0,3}` -/
def nNumberPattern : Pattern IdentifierClass :=
  .cat [.one (.exactly 'N'), .between (.one .digit) 1 4, .between (.one .letter) 0 3]

def aircraftRegistrationPattern : Pattern IdentifierClass :=
  .cat [.boundary, .alt dashedPattern nNumberPattern, .boundary]

/-! ## The extraction -/

/-- `found`. -/
structure Identifiers where
  workOrder : Option String := none
  purchaseOrder : Option String := none
  aircraft : Option String := none
  deriving DecidableEq, Repr

/-- `re.search(…).group(0)`. -/
def search (t : RegexTables) (r : Pattern IdentifierClass) (text : List Char) :
    Option (List Char) :=
  find (has t) t.word r text

/-- `remainder.replace(match.group(0), " ")`, if there is a match. -/
def blank (found : Option (List Char)) (text : List Char) : List Char :=
  match found with
  | some piece => Strings.replaceAll piece [' '] text
  | none => text

/-- `match.group(0).upper()`. -/
def upper (t : RegexTables) (w : List Char) : String := String.ofList (t.upperText w)

def extractExplicitIdentifiers (t : RegexTables) (question : String) : Identifiers :=
  let text := question.toList
  let woMatch := search t workOrderPattern text
  let poMatch := search t purchaseOrderPattern text
  let remainder := blank poMatch (blank woMatch text)
  let acMatch := search t aircraftRegistrationPattern remainder
  { workOrder := woMatch.map (upper t)
    purchaseOrder := poMatch.map (upper t)
    aircraft := acMatch.map (upper t) }

/-! ## Registrations -/

/-- One or two letters, a dash, and two to six letters or digits. -/
def IsDashed (w : List Char) : Prop :=
  ∃ u v, w = u ++ '-' :: v ∧ (1 ≤ u.length ∧ u.length ≤ 2 ∧ ∀ c ∈ u, c.isUpper = true) ∧
    2 ≤ v.length ∧ v.length ≤ 6 ∧ ∀ c ∈ v, (c.isUpper || c.isDigit) = true

/-- An `N`, one to five digits, and up to three letters. -/
def IsNNumber (w : List Char) : Prop :=
  ∃ u v, w = 'N' :: (u ++ v) ∧ (1 ≤ u.length ∧ u.length ≤ 5 ∧ ∀ c ∈ u, c.isDigit = true) ∧
    v.length ≤ 3 ∧ ∀ c ∈ v, c.isUpper = true

/-- The text has the shape of a registration. -/
def IsRegistration (w : List Char) : Prop := IsDashed w ∨ IsNNumber w

section Shapes

variable {t : RegexTables} {prev : Option Char} {w after : List Char}

theorem reads_dashed : Reads (has t) t.word dashedPattern prev w after ↔ IsDashed w := by
  constructor
  · rintro ⟨u, _, rfl, hu, _, v, rfl, ⟨c, rfl, hc⟩, hv⟩
    obtain rfl : c = '-' := beq_iff_eq.1 hc
    exact ⟨u, v, rfl, Regex.reads_between_one.1 hu, Regex.reads_between_one.1 hv⟩
  · rintro ⟨u, v, rfl, hu, hv⟩
    exact ⟨u, '-' :: v, rfl, Regex.reads_between_one.2 hu, ['-'], v, rfl, ⟨'-', rfl, rfl⟩,
      Regex.reads_between_one.2 hv⟩

theorem reads_nNumber : Reads (has t) t.word nNumberPattern prev w after ↔ IsNNumber w := by
  constructor
  · rintro ⟨_, _, rfl, ⟨c, rfl, hc⟩, u, v, rfl, hu, hv⟩
    obtain rfl : c = 'N' := beq_iff_eq.1 hc
    exact ⟨u, v, rfl, Regex.reads_between_one.1 hu, (Regex.reads_between_one.1 hv).2⟩
  · rintro ⟨u, v, rfl, hu, hv⟩
    exact ⟨['N'], u ++ v, rfl, ⟨'N', rfl, rfl⟩, u, v, rfl, Regex.reads_between_one.2 hu,
      Regex.reads_between_one.2 ⟨Nat.zero_le _, hv⟩⟩

variable {c : Char} {rest : List Char}

theorem isUpper_iff : c.isUpper = true ↔ 65 ≤ c.toNat ∧ c.toNat ≤ 90 := by
  show decide ('A'.val ≤ c.val ∧ c.val ≤ 'Z'.val) = true ↔ _
  rw [decide_eq_true_eq, UInt32.le_iff_toNat_le, UInt32.le_iff_toNat_le]
  exact Iff.rfl

theorem isDigit_iff : c.isDigit = true ↔ 48 ≤ c.toNat ∧ c.toNat ≤ 57 :=
  Char.isDigit_iff_toNat

theorem toNat_letterOrDigit (h : (c.isUpper || c.isDigit) = true) :
    48 ≤ c.toNat ∧ c.toNat ≤ 90 := by
  rw [Bool.or_eq_true, isUpper_iff, isDigit_iff] at h
  omega

theorem word_of_letterOrDigit (h : (c.isUpper || c.isDigit) = true) :
    t.word c = true := by
  have hrange := toNat_letterOrDigit h
  have hprintable : printable c = true := by
    rw [printable, Bool.and_eq_true, decide_eq_true_eq, decide_eq_true_eq]
    omega
  rw [t.word_printable c hprintable]
  show (c.isUpper || c.isLower || c.isDigit || c == '_') = true
  rw [Bool.or_eq_true] at h
  rcases h with h | h <;> simp [h]

theorem not_letterOrDigit_dash : ('-'.isUpper || '-'.isDigit) = false := by decide

theorem word_blank : t.word ' ' = false := by
  rw [t.word_printable ' ' (by decide)]
  decide

theorem IsRegistration.chars (h : IsRegistration w) :
    ∀ c ∈ w, c = '-' ∨ (c.isUpper || c.isDigit) = true := by
  intro c hc
  rcases h with ⟨u, v, rfl, ⟨-, -, hu⟩, -, -, hv⟩ | ⟨u, v, rfl, ⟨-, -, hu⟩, -, hv⟩
  · rcases List.mem_append.1 hc with hc | hc
    · exact Or.inr (by rw [hu c hc, Bool.true_or])
    · rcases List.mem_cons.1 hc with rfl | hc
      · exact Or.inl rfl
      · exact Or.inr (hv c hc)
  · rcases List.mem_cons.1 hc with rfl | hc
    · exact Or.inr rfl
    · rcases List.mem_append.1 hc with hc | hc
      · exact Or.inr (by rw [hu c hc, Bool.or_true])
      · exact Or.inr (by rw [hv c hc, Bool.true_or])

theorem IsRegistration.blank_notMem (h : IsRegistration w) : ' ' ∉ w := by
  intro hmem
  rcases h.chars ' ' hmem with hblank | hblank
  · exact absurd hblank (by decide)
  · exact absurd hblank (by decide)

theorem IsRegistration.ends (h : IsRegistration w) :
    ∃ a b, w.head? = some a ∧ w.getLast? = some b ∧ (a.isUpper || a.isDigit) = true ∧
      (b.isUpper || b.isDigit) = true := by
  rcases h with ⟨u, v, rfl, ⟨hlength, -, hu⟩, htwo, -, hv⟩ | ⟨u, v, rfl, ⟨hlength, -, hu⟩, -, hv⟩
  · obtain ⟨a, u, rfl⟩ := List.exists_cons_of_length_pos hlength
    have hne : v ≠ [] := List.length_pos_iff.1 (by omega)
    refine ⟨a, v.getLast hne, rfl, ?_, ?_, hv _ (List.getLast_mem hne)⟩
    · rw [List.getLast?_append_of_ne_nil _ (List.cons_ne_nil '-' v),
        List.getLast?_cons_of_ne_nil hne, List.getLast?_eq_some_getLast hne]
    · rw [hu a List.mem_cons_self, Bool.true_or]
  · have hne : u ++ v ≠ [] := by
      intro hnil
      rw [(List.append_eq_nil_iff.1 hnil).1] at hlength
      exact absurd hlength (by decide)
    refine ⟨'N', (u ++ v).getLast hne, rfl, ?_, rfl, ?_⟩
    · rw [List.getLast?_cons_of_ne_nil hne, List.getLast?_eq_some_getLast hne]
    · rcases List.mem_append.1 (List.getLast_mem hne) with hmem | hmem
      · rw [hu _ hmem, Bool.or_true]
      · rw [hv _ hmem, Bool.true_or]

theorem notMem_dash (h : ∀ c ∈ w, (c.isUpper || c.isDigit) = true) : '-' ∉ w := by
  intro hmem
  have hdash := h '-' hmem
  rw [not_letterOrDigit_dash] at hdash
  cases hdash

theorem not_isRegistration_of_letters (hw : ∀ c ∈ w, c.isUpper = true) : ¬IsRegistration w := by
  rintro (⟨u, v, rfl, -⟩ | ⟨u, v, rfl, ⟨hlength, -, hu⟩, -⟩)
  · have hdash := hw '-' (List.mem_append_right u List.mem_cons_self)
    exact absurd hdash (by decide)
  · obtain ⟨a, u, rfl⟩ := List.exists_cons_of_length_pos hlength
    have hdigit := hu a List.mem_cons_self
    have hletter := hw a (List.mem_cons_of_mem 'N' (List.mem_append_left v List.mem_cons_self))
    rw [isDigit_iff] at hdigit
    rw [isUpper_iff] at hletter
    omega

theorem not_isRegistration_append_dash (hw : IsRegistration w) :
    ¬IsRegistration (w ++ '-' :: rest) := by
  rintro (⟨u, v, heq, ⟨-, -, hu⟩, -, -, hv⟩ | ⟨u, v, heq, ⟨-, -, hu⟩, -, hv⟩)
  · have hdashu : '-' ∉ u := notMem_dash fun c hc => by rw [hu c hc, Bool.true_or]
    have hdashv : '-' ∉ v := notMem_dash hv
    have hsame : w = u := by
      rcases List.append_eq_append_iff.1 heq with ⟨mid, rfl, hmid⟩ | ⟨mid, rfl, hmid⟩
      · cases mid with
        | nil => exact (List.append_nil w).symm
        | cons c mid =>
          obtain ⟨rfl, -⟩ := List.cons.inj hmid
          exact absurd (List.mem_append_right w List.mem_cons_self) hdashu
      · cases mid with
        | nil => exact List.append_nil u
        | cons c mid =>
          obtain ⟨-, rfl⟩ := List.cons.inj hmid
          exact absurd (List.mem_append_right mid List.mem_cons_self) hdashv
    exact not_isRegistration_of_letters (hsame ▸ hu) hw
  · have hdash : '-' ∉ 'N' :: (u ++ v) := by
      refine notMem_dash fun c hc => ?_
      rcases List.mem_cons.1 hc with rfl | hc
      · rfl
      · rcases List.mem_append.1 hc with hc | hc
        · rw [hu c hc, Bool.or_true]
        · rw [hv c hc, Bool.true_or]
    exact hdash (heq ▸ List.mem_append_right w List.mem_cons_self)

theorem eq_nil_of_isRegistration_append (hw : IsRegistration w)
    (hlong : IsRegistration (w ++ rest)) (hnext : wordAt t.word (rest ++ after).head? = false) :
    rest = [] := by
  cases rest with
  | nil => rfl
  | cons c rest =>
    rcases hlong.chars c (List.mem_append_right w List.mem_cons_self) with rfl | hc
    · exact absurd hlong (not_isRegistration_append_dash hw)
    · have hword : t.word c = true := word_of_letterOrDigit hc
      rw [List.cons_append, List.head?_cons, wordAt, Option.any_some, hword] at hnext
      cases hnext

theorem readsParts_aircraft (t : RegexTables) :
    ReadsParts (has t) t.word aircraftRegistrationPattern IsRegistration where
  reads := by
    intro prev w after
    have hshape : Reads (has t) t.word (.alt dashedPattern nNumberPattern) prev w after ↔
        IsRegistration w := or_congr reads_dashed reads_nNumber
    rw [aircraftRegistrationPattern, Regex.reads_bounded, hshape]
    constructor
    · rintro ⟨hleft, hw, hright⟩
      obtain ⟨a, b, hhead, hlast, ha, hb⟩ := hw.ends
      rw [List.head?_append, hhead, Option.some_or, wordAt, wordAt, Option.any_some,
        word_of_letterOrDigit ha] at hleft
      rw [hlast, Option.some_or, wordAt, Option.any_some, word_of_letterOrDigit hb] at hright
      exact ⟨hw, Bool.eq_false_iff.2 hleft, Bool.eq_false_iff.2 hright.symm⟩
    · rintro ⟨hw, hleft, hright⟩
      obtain ⟨a, b, hhead, hlast, ha, hb⟩ := hw.ends
      refine ⟨?_, hw, ?_⟩
      · rw [hleft, List.head?_append, hhead, Option.some_or, wordAt, Option.any_some,
          word_of_letterOrDigit ha]
        exact Bool.false_ne_true
      · rw [hright, hlast, Option.some_or, wordAt, Option.any_some, word_of_letterOrDigit hb]
        exact Bool.false_ne_true.symm
  unique := by
    intro w w' after after' heq hw hw' hafter hafter'
    rcases List.append_eq_append_iff.1 heq with ⟨rest, rfl, rfl⟩ | ⟨rest, rfl, rfl⟩
    · rw [eq_nil_of_isRegistration_append hw hw' hafter, List.append_nil]
    · rw [eq_nil_of_isRegistration_append hw' hw hafter', List.append_nil]

end Shapes

/-! ## Order numbers, and what belongs to none -/

section Orders

variable (t : RegexTables)

/-- A work order number or a purchase order number stands there in the text. -/
structure OrderAt (text before number after : List Char) : Prop where
  eq : text = before ++ number ++ after
  reads : Reads (has t) t.word workOrderPattern before.getLast? number after ∨
    Reads (has t) t.word purchaseOrderPattern before.getLast? number after

/-- The registration that stands there is no part of an order number. -/
structure FreeAt (text before w after : List Char) : Prop where
  part : PartAt t.word IsRegistration text before w after
  free : ∀ before' number after', OrderAt t text before' number after' →
    ¬(before'.length ≤ before.length ∧
      before.length + w.length ≤ before'.length + number.length)

/-- The message has the registration somewhere where it is no part of an order number. -/
def Free (text w : List Char) : Prop := ∃ before after, FreeAt t text before w after

/-- The aircraft is a registration that is no part of an order number, and there is one where the
message has such a registration. -/
structure OrdersApart (question : String) : Prop where
  sound : ∀ identifier, (extractExplicitIdentifiers t question).aircraft = some identifier →
    ∃ w, Free t question.toList w ∧ identifier = String.ofList w
  complete : (∃ w, Free t question.toList w) →
    ∃ identifier, (extractExplicitIdentifiers t question).aircraft = some identifier

/-- The message cut at a text that was found. -/
def cut (found : Option (List Char)) (text : List Char) : List (List Char) :=
  match found with
  | some piece => Strings.splitText piece text
  | none => [text]

/-- The message cut at the text of its first work order number, and what is left cut at the text of
its first purchase order number. -/
def pieces (text : List Char) : List (List Char) :=
  (cut (search t workOrderPattern text) text).flatMap (cut (search t purchaseOrderPattern text))

/-- A registration in one of the pieces: the number of the piece, and the place in it. -/
def Left (text : List Char) (k i : Nat) (w : List Char) : Prop :=
  InPieces t.word IsRegistration (pieces t text) k i w

/-- The cuts leave the registrations of the message, and others only behind them. -/
structure CutsClean (text : List Char) : Prop where
  /-- Before a part of another order number, or of a word that was cut, a free registration is
  left. -/
  foreign : ∀ k i w, Left t text k i w → ¬Free t text w →
    ∃ k' i' w', Left t text k' i' w' ∧ Free t text w' ∧ (k' < k ∨ (k' = k ∧ i' < i))
  kept : (∃ w, Free t text w) → ∃ k i w, Left t text k i w

/-- `str.upper` leaves the characters of a registration alone. -/
def UpperStays : Prop :=
  ∀ c : Char, (c = '-' ∨ (c.isUpper || c.isDigit) = true) → t.upper c = [c]

end Orders

/-! ## What is left for the registration pattern -/

section Search

variable {t : RegexTables} {text : List Char} {question : String}

theorem upper_of_isRegistration (hupper : UpperStays t) {w : List Char} (hw : IsRegistration w) :
    upper t w = String.ofList w := by
  have hsame : w.flatMap t.upper = w.flatMap fun c => [c] := by
    rw [List.flatMap_def, List.flatMap_def,
      List.map_congr_left fun c hc => hupper c (hw.chars c hc)]
  rw [upper, UnicodeTables.upperText, hsame, List.flatMap_singleton']

theorem cut_ne_nil (found : Option (List Char)) (text : List Char) : cut found text ≠ [] := by
  cases found with
  | none => exact List.cons_ne_nil _ _
  | some piece => exact Strings.splitFrom_ne_nil piece text 0

theorem blank_eq (found : Option (List Char)) (text : List Char) :
    blank found text = [' '].intercalate (cut found text) := by
  cases found with
  | none => exact List.intercalate_singleton.symm
  | some piece => exact Strings.replaceAll_eq_intercalate piece [' '] text

theorem blank_intercalate {found : Option (List Char)} (hfound : ∀ piece ∈ found, ' ' ∉ piece)
    (parts : List (List Char)) :
    blank found ([' '].intercalate parts) = [' '].intercalate (parts.map (blank found)) := by
  cases found with
  | none =>
    have hsame : (blank none : List Char → List Char) = id := rfl
    rw [hsame, List.map_id]
    rfl
  | some piece => exact Strings.replaceAll_intercalate (hfound piece rfl) parts

theorem not_has_blank {first second : Char} (hfirst : first ∈ orderChars)
    (hsecond : second ∈ orderChars) :
    ∀ k ∈ (orderPattern first second).classes, has t k ' ' = false := by
  have hchars : ∀ a ∈ orderChars, printable a = true ∧ (a.toLower == ' '.toLower) = false := by
    have hall : orderChars.all (fun a => printable a && a.toLower != ' '.toLower) = true := by
      decide
    intro a ha
    simpa [bne] using List.all_eq_true.1 hall a ha
  have hcaseless : ∀ a ∈ orderChars, t.ignoreCase a ' ' = false := by
    intro a ha
    rw [t.ignoreCase_printable a ' ' (hchars a ha).1 (by decide)]
    exact (hchars a ha).2
  have horder : has t .orderChar ' ' = false :=
    List.any_eq_false.2 fun a ha => Bool.eq_false_iff.1 (hcaseless a ha)
  intro k hk
  have hclasses : (orderPattern first second).classes = [.caseless first, .caseless second,
    .caseless '-', .orderChar, .orderChar] := rfl
  rw [hclasses] at hk
  simp only [List.mem_cons, List.not_mem_nil, or_false] at hk
  rcases hk with rfl | rfl | rfl | rfl | rfl
  · exact hcaseless first hfirst
  · exact hcaseless second hsecond
  · exact hcaseless '-' (by decide)
  · exact horder
  · exact horder

theorem blank_notMem_of_search {piece : List Char}
    (h : search t purchaseOrderPattern text = some piece) : ' ' ∉ piece := by
  intro hmem
  obtain ⟨before, after, -, hreads, -⟩ := Regex.findFrom_eq_some h
  obtain ⟨k, hk, hmatch⟩ := Regex.class_of_reads _ hreads ' ' hmem
  rw [not_has_blank (by decide) (by decide) k hk] at hmatch
  cases hmatch

theorem remainder_eq (t : RegexTables) (text : List Char) :
    blank (search t purchaseOrderPattern text) (blank (search t workOrderPattern text) text) =
      [' '].intercalate (pieces t text) := by
  have hfound : ∀ piece ∈ search t purchaseOrderPattern text, ' ' ∉ piece :=
    fun piece hpiece => blank_notMem_of_search hpiece
  rw [blank_eq (search t workOrderPattern text), blank_intercalate hfound,
    List.map_congr_left fun part _ => blank_eq _ part,
    Strings.intercalate_flatMap _ (cut_ne_nil _), pieces]

theorem aircraft_eq_some {identifier : String} :
    (extractExplicitIdentifiers t question).aircraft = some identifier ↔
      ∃ w, FirstIn t.word IsRegistration (pieces t question.toList) w ∧ upper t w = identifier := by
  have hne : pieces t question.toList ≠ [] := by
    obtain ⟨part, parts, hcut⟩ := List.exists_cons_of_ne_nil
      (cut_ne_nil (search t workOrderPattern question.toList) question.toList)
    rw [pieces, hcut, List.flatMap_cons]
    exact List.append_ne_nil_of_left_ne_nil (cut_ne_nil _ part) _
  rw [extractExplicitIdentifiers]
  dsimp only
  rw [Option.map_eq_some_iff, remainder_eq]
  refine exists_congr fun w => and_congr_left fun _ => ?_
  rw [search, (readsParts_aircraft t).find_eq_some,
    Regex.firstPart_intercalate word_blank (fun w hw => hw.blank_notMem) hne]

end Search

/-! ## Where the aircraft is right -/

/-- **ORDER NUMBERS ARE NO AIRCRAFT** exactly where the cuts are clean. -/
theorem orders_apart_iff (t : RegexTables) (hupper : UpperStays t) (question : String) :
    OrdersApart t question ↔ CutsClean t question.toList := by
  have hreads := readsParts_aircraft t
  constructor
  · rintro ⟨sound, complete⟩
    constructor
    · intro k i w hleft hforeign
      obtain ⟨first, hfirst⟩ := hreads.exists_firstIn hleft
      obtain ⟨w', hfree, hsame⟩ := sound _ (aircraft_eq_some.2 ⟨first, hfirst, rfl⟩)
      obtain ⟨k', i', hin, hleast⟩ := hfirst.least
      rw [upper_of_isRegistration hupper (Regex.good_of_inPieces hin), String.ofList_inj] at hsame
      subst hsame
      refine ⟨k', i', first, hin, hfree, ?_⟩
      rcases hleast k i w hleft with hlt | ⟨rfl, hle⟩
      · exact Or.inl hlt
      · rcases Nat.eq_or_lt_of_le hle with rfl | hlt
        · exact absurd (hreads.inPieces_unique hin hleft ▸ hfree) hforeign
        · exact Or.inr ⟨rfl, hlt⟩
    · intro hfree
      obtain ⟨identifier, hidentifier⟩ := complete hfree
      obtain ⟨w, hfirst, -⟩ := aircraft_eq_some.1 hidentifier
      obtain ⟨k, i, hin, -⟩ := hfirst.least
      exact ⟨k, i, w, hin⟩
  · intro h
    constructor
    · intro identifier hidentifier
      obtain ⟨w, hfirst, rfl⟩ := aircraft_eq_some.1 hidentifier
      obtain ⟨k, i, hin, hleast⟩ := hfirst.least
      refine ⟨w, ?_, upper_of_isRegistration hupper (Regex.good_of_inPieces hin)⟩
      by_contra hforeign
      obtain ⟨k', i', w', hleft, -, hbefore⟩ := h.foreign k i w hin hforeign
      have hafter := hleast k' i' w' hleft
      omega
    · intro hfree
      obtain ⟨k, i, w, hleft⟩ := h.kept hfree
      obtain ⟨first, hfirst⟩ := hreads.exists_firstIn hleft
      exact ⟨_, aircraft_eq_some.2 ⟨first, hfirst, rfl⟩⟩

theorem cutsClean_of_no_order {t : RegexTables} {text : List Char}
    (hwo : search t workOrderPattern text = none)
    (hpo : search t purchaseOrderPattern text = none) : CutsClean t text := by
  have hpieces : pieces t text = [text] := by
    rw [pieces, hwo, hpo]
    rfl
  have hfree : ∀ before w after, PartAt t.word IsRegistration text before w after →
      FreeAt t text before w after := by
    intro before w after hpart
    refine ⟨hpart, fun before' number after' horder _ => ?_⟩
    have hreads := horder.reads
    rw [← Option.or_none (o := before'.getLast?)] at hreads
    rcases hreads with hreads | hreads
    · exact Regex.findFrom_eq_none hwo before' number after' horder.eq hreads
    · exact Regex.findFrom_eq_none hpo before' number after' horder.eq hreads
  constructor
  · rintro k i w ⟨piece, before, after, hpiece, hpart, -⟩ hforeign
    rw [hpieces] at hpiece
    have hsame : piece = text := List.mem_singleton.1 (List.mem_of_getElem? hpiece)
    subst hsame
    exact absurd ⟨before, after, hfree before w after hpart⟩ hforeign
  · rintro ⟨w, before, after, hpart⟩
    refine ⟨0, before.length, w, text, before, after, ?_, hpart.part, rfl⟩
    rw [hpieces]
    rfl

theorem upperStays_ascii : UpperStays .ascii := by
  rintro c (rfl | hc)
  · decide
  · have hnot : ¬('a'.val ≤ c.val ∧ c.val ≤ 'z'.val) := by
      rintro ⟨hle, -⟩
      have hrange : c.val.toNat ≤ 90 := (toNat_letterOrDigit hc).2
      have hvalue : 'a'.val.toNat = 97 := by decide
      rw [UInt32.le_iff_toNat_le] at hle
      omega
    exact congrArg (fun a => [a]) (dif_neg hnot)

/-- A message with a registration and no order number. -/
theorem registration_alone : OrdersApart .ascii "Why is VT-XYZ late" :=
  (orders_apart_iff .ascii upperStays_ascii _).2
    (cutsClean_of_no_order (by decide) (by decide))

/-- The second work order number is taken for an aircraft. -/
theorem second_order_number : ¬OrdersApart .ascii "WO-1042 and WO-1043" := by
  intro h
  have haircraft : (extractExplicitIdentifiers .ascii "WO-1042 and WO-1043").aircraft
      = some "WO-1043" := by
    decide
  obtain ⟨w, ⟨before, after, hpart, hfree⟩, hsame⟩ := h.sound _ haircraft
  have hw : w = ['W', 'O', '-', '1', '0', '4', '3'] := by
    rw [← String.toList_ofList (l := w), ← hsame]
    decide
  subst hw
  have hdigits : ∀ c ∈ ['0', '4', '3'], has .ascii .orderChar c = true :=
    List.all_eq_true.1 (by decide)
  have hreads : Reads (has .ascii) RegexTables.ascii.word workOrderPattern before.getLast?
      ['W', 'O', '-', '1', '0', '4', '3'] after := by
    refine ⟨[], _, rfl, ⟨rfl, ?_⟩, ['W'], _, rfl, ⟨'W', rfl, by decide⟩, ['O'], _, rfl,
      ⟨'O', rfl, by decide⟩, ['-'], _, rfl, ⟨'-', rfl, by decide⟩, ['1'], ['0', '4', '3'], rfl,
      ⟨'1', rfl, by decide⟩, ['0', '4', '3'], [], rfl, hdigits, rfl, ?_⟩
    · rw [hpart.left]
      exact Bool.false_ne_true
    · rw [hpart.right]
      exact Bool.false_ne_true.symm
  exact hfree before _ after ⟨hpart.eq, Or.inl hreads⟩ ⟨Nat.le_refl _, Nat.le_refl _⟩

end ExplicitIdentifiers
end AeroComply
