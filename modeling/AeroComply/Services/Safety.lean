import AeroComply.Core.Text
import AeroComply.Lib.Regex

/-!
# Safety — the deterministic safety layer of the agent

`app/services/ai/safety.py`: a text is restricted if one of the guard patterns is found in it.  The
patterns ignore case, and `\b`, `\s` and the case rules are lookups in the Unicode database;
`RegexTables` says what is needed of it.

`restricted_of_delimited`: a line of a text, or what is left when white space is stripped from it, is
restricted only if the text is.
-/

namespace AeroComply

open Regex (Pattern search Delimited)

/-- Printable ASCII. -/
def printable (c : Char) : Bool := decide (32 ≤ c.toNat) && decide (c.toNat ≤ 126)

/-- Where `str.splitlines` splits. -/
def isLineBreak (c : Char) : Bool :=
  [0x0a, 0x0b, 0x0c, 0x0d, 0x1c, 0x1d, 0x1e, 0x85, 0x2028, 0x2029].contains c.toNat

/-- The character tables behind the module `re`.  White space and line breaks are no word
characters, and on printable ASCII the tables are those of ASCII. -/
structure RegexTables extends UnicodeTables where
  /-- `\w`. -/
  word : Char → Bool
  /-- Two characters are the same under `re.IGNORECASE`. -/
  ignoreCase : Char → Char → Bool
  space_not_word : ∀ c, isSpace c = true → word c = false
  break_not_word : ∀ c, isLineBreak c = true → word c = false
  word_printable : ∀ c, printable c = true → word c = (c.isAlphanum || c == '_')
  ignoreCase_printable : ∀ a c, printable a = true → printable c = true →
    ignoreCase a c = (a.toLower == c.toLower)
  space_printable : ∀ c, printable c = true → isSpace c = (c == ' ')

/-- The tables restricted to ASCII. -/
def RegexTables.ascii : RegexTables where
  toUnicodeTables := .ascii
  word c := c.isAlphanum || c == '_'
  ignoreCase a c := a.toLower == c.toLower
  space_not_word := by
    intro c hc
    simp only [UnicodeTables.ascii, Char.isWhitespace, Bool.or_eq_true, decide_eq_true_eq] at hc
    rcases hc with ((rfl | rfl) | rfl) | rfl <;> decide
  break_not_word := by
    intro c hc
    have hvalues : ∀ n ∈ [0x0a, 0x0b, 0x0c, 0x0d, 0x1c, 0x1d, 0x1e, 0x85, 0x2028, 0x2029],
        ((Char.ofNat n).isAlphanum || Char.ofNat n == '_') = false := by decide
    have hc' := hvalues c.toNat (List.contains_iff_mem.1 hc)
    rw [Char.ofNat_toNat] at hc'
    exact hc'
  word_printable _ _ := rfl
  ignoreCase_printable _ _ _ _ := rfl
  space_printable := by
    intro c hc
    simp only [printable, Bool.and_eq_true, decide_eq_true_eq] at hc
    rw [Bool.eq_iff_iff]
    simp only [UnicodeTables.ascii, Char.isWhitespace, Bool.or_eq_true, decide_eq_true_eq,
      beq_iff_eq]
    constructor
    · rintro (((h | rfl) | rfl) | rfl)
      · exact h
      · exact absurd hc.1 (by decide)
      · exact absurd hc.1 (by decide)
      · exact absurd hc.1 (by decide)
    · exact fun h => Or.inl (Or.inl (Or.inl h))

/-- The character classes of the guard patterns. -/
inductive CharClass
  | letter (c : Char)
  | noneOf (cs : List Char)
  | spaceOr (c : Char)

def RegexTables.char (t : RegexTables) : CharClass → Char → Bool
  | .letter a, c => t.ignoreCase a c
  | .noneOf cs, c => !cs.contains c
  | .spaceOr a, c => t.isSpace c || c == a

/-- `LisaAskResponse`: what the agent answers. -/
structure LisaAskResponse where
  id : String
  question : String
  headline : String
  narrative : List String := []
  priority : Option String := none
  whatIFound : List String := []
  whyItMatters : Option String := none
  recommendedNextStep : Option String := none
  dependencies : List String := []
  whoShouldAct : Option String := none
  /-- The label and the link of each. -/
  relatedRecords : List (String × String) := []
  confidenceState : String := "PARTIAL_DATA"
  actionCategory : String := "INFORMATION"
  source : String := "AI_AGENT"
  missing : List Json := []
  grounding : Option Json := none

namespace Safety

/-! ## The patterns -/

/-- The characters of a text, in any case. -/
def lit (s : String) : Pattern CharClass := .cat (s.toList.map fun c => .one (.letter c))

/-- `(a|b|…)` -/
def anyOf : List String → Pattern CharClass
  | [] => .empty
  | [s] => lit s
  | s :: ss => .alt (lit s) (anyOf ss)

/-- `\b…\b` -/
def bounded (r : Pattern CharClass) : Pattern CharClass := .cat [.boundary, r, .boundary]

/-- `[^.?!]{0,n}` -/
def gap (n : Nat) : Pattern CharClass := .upTo (.one (.noneOf ['.', '?', '!'])) n

/-- `sign[\s-]?off` -/
def signOff : Pattern CharClass := .cat [lit "sign", .opt (.one (.spaceOr '-')), lit "off"]

/-- `(inspection|rii|independent inspection|evidence|safety gate|checklist|sign[\s-]?off|signoff)` -/
def gate : Pattern CharClass :=
  .alt (anyOf ["inspection", "rii", "independent inspection", "evidence", "safety gate", "checklist"])
    (.alt signOff (lit "signoff"))

def airworthinessGuardPatterns : List (Pattern CharClass) :=
  [.seq .boundary (lit "airworth"),
    bounded (lit "safe to dispatch"),
    bounded (lit "safe to fly"),
    bounded (lit "approved substitute"),
    bounded (.seq (lit "legally ") (anyOf ["complete", "compliant", "authorized"])),
    bounded (lit "certificate of release"),
    bounded (lit "crs"),
    bounded (.cat [lit "release", .opt (anyOf [" it", " the aircraft"]), lit " to service"]),
    bounded (.cat [anyOf ["can", "could", "should", "may"], lit " we release ",
      anyOf ["this", "the", "that"], lit " aircraft"]),
    bounded (.cat [lit "release ", anyOf ["this", "the", "that"], lit " aircraft"]),
    bounded (.cat [anyOf ["this", "the", "that"], lit " aircraft ", anyOf ["be", "get"],
      lit " released"]),
    bounded (lit "aircraft be released"),
    .cat [bounded (anyOf ["skip", "bypass", "override", "waive", "get around"]), gap 40,
      bounded gate],
    .cat [bounded gate, gap 40, bounded (anyOf ["skip", "bypass", "override", "waive"])],
    .cat [bounded (lit "release"), gap 40, bounded (lit "without"), gap 20,
      bounded (.alt (anyOf ["rii", "inspection", "independent inspection", "evidence"])
        (.alt signOff (lit "signoff")))],
    .cat [bounded (lit "release"), gap 40, bounded (lit "despite")],
    .cat [bounded (lit "mark"), gap 40, bounded (lit "complete"), gap 20, bounded (lit "anyway")],
    .cat [bounded (lit "override"), gap 40, bounded (lit "authorization")],
    .cat [bounded (anyOf ["ignore", "override", "bypass"]), gap 40,
      bounded (anyOf ["mel", "deferred item", "deferral"])],
    .cat [bounded (anyOf ["use", "install", "fit"]), gap 40,
      bounded (anyOf ["unapproved", "uncertified", "unauthorized"]), gap 20, bounded (lit "part")],
    .cat [bounded (lit "release"), gap 60, bounded (lit "while"), gap 60,
      bounded (anyOf ["open", "unresolved"])]]

def isSafetyRestricted (t : RegexTables) (text : String) : Bool :=
  text ≠ "" && airworthinessGuardPatterns.any fun r => search t.char t.word r text.toList

/-! ## The refusal -/

def safetyRefusalHeadline : String :=
  "SAFETY_REFUSAL — this requires authorized maintenance personnel"

def safetyRefusalNarrative : List String :=
  ["SAFETY_REFUSAL: I cannot determine airworthiness, legal compliance, or certification of " ++
      "release — those are determinations for authorized maintenance personnel using applicable " ++
      "approved data and procedures, not this system.",
    "The system can summarize recorded facts: aircraft/work order status, open safety gates, " ++
      "and open discrepancies.",
    "Ask about a specific aircraft or work order's recorded execution state, safety gates, or " ++
      "open discrepancies, and I can summarize what the current data shows."]

/-- `safety_refusal_response`, under the caller's id and question. -/
def safetyRefusalResponse (id question : String) : LisaAskResponse where
  id := id
  question := question
  headline := safetyRefusalHeadline
  narrative := safetyRefusalNarrative
  priority := some "CRITICAL"
  whatIFound :=
    ["This question asks Lisa to make or imply an airworthiness, release, or " ++
      "legal-compliance determination."]
  whyItMatters := some
    ("Airworthiness and release-to-service decisions carry direct flight-safety and " ++
      "regulatory consequences — they must be made by authorized maintenance personnel " ++
      "applying approved data, not inferred by this system.")
  recommendedNextStep := some
    ("Ask about the recorded execution state, open safety gates, or open discrepancies " ++
      "for a specific aircraft or work order instead — Lisa can summarize those facts.")
  whoShouldAct := some
    "Authorized maintenance personnel (Quality / Airworthiness Release Signatory)"
  confidenceState := "CONFIRMED"
  actionCategory := "SAFETY_RESTRICTED"

/-! ## Lines -/

/-- The lines of a text that goes on with `rest`: `line` has been read of the current one, and
`afterReturn` says that the last character was a carriage return. -/
def splitLinesFrom (line : List Char) (afterReturn : Bool) : List Char → List (List Char)
  | [] => if line = [] then [] else [line]
  | c :: rest =>
    -- a line feed after a carriage return belongs to the same line break
    if afterReturn && c.toNat == 0x0a then splitLinesFrom line false rest
    else if isLineBreak c then line :: splitLinesFrom [] (c.toNat == 0x0d) rest
    else splitLinesFrom (line ++ [c]) false rest

/-- `str.splitlines`. -/
def splitLines (text : List Char) : List (List Char) := splitLinesFrom [] false text

section Restricted

variable {t : RegexTables}

theorem restricted_of_delimited {text part : List Char}
    (hpart : Delimited (fun c => t.word c = false) text part)
    (h : isSafetyRestricted t (String.ofList part) = true) :
    isSafetyRestricted t (String.ofList text) = true := by
  rw [isSafetyRestricted, Bool.and_eq_true, List.any_eq_true] at h ⊢
  obtain ⟨hne, r, hr, hfound⟩ := h
  rw [String.toList_ofList] at hfound
  refine ⟨decide_eq_true ?_, r, hr, ?_⟩
  · intro hempty
    have htext : text = [] := by
      rw [← String.toList_ofList (l := text), hempty]
      rfl
    obtain ⟨before, after, heq, _⟩ := hpart.around
    rw [htext] at heq
    have hnil : part = [] :=
      (List.append_eq_nil_iff.1 (List.append_eq_nil_iff.1 heq.symm).1).2
    rw [hnil] at hne
    exact absurd hne (by decide)
  · rw [String.toList_ofList]
    exact Regex.search_of_delimited hpart hfound

theorem delimited_strip (text : List Char) :
    Delimited (fun c => t.word c = false) text (t.stripText text) := by
  have hleft : ∀ l : List Char, Delimited (fun c => t.word c = false) l (l.dropWhile t.isSpace) := by
    intro l
    refine ⟨l.takeWhile t.isSpace, [], ?_, fun a ha => ?_, fun a ha => ?_⟩
    · rw [List.append_nil, List.takeWhile_append_dropWhile]
    · exact t.space_not_word a (List.mem_takeWhile_imp (List.mem_of_getLast? ha))
    · cases ha
  have hright : ∀ l : List Char, Delimited (fun c => t.word c = false) l
      (l.reverse.dropWhile t.isSpace).reverse := by
    intro l
    refine ⟨[], (l.reverse.takeWhile t.isSpace).reverse, ?_, fun a ha => ?_, fun a ha => ?_⟩
    · rw [List.nil_append, ← List.reverse_append, List.takeWhile_append_dropWhile,
        List.reverse_reverse]
    · cases ha
    · rw [List.head?_reverse] at ha
      exact t.space_not_word a (List.mem_takeWhile_imp (List.mem_of_getLast? ha))
  exact (hleft text).trans (hright _)

theorem delimited_splitLinesFrom {p : Char → Prop} (hbreak : ∀ c, isLineBreak c = true → p c) :
    ∀ {rest line before l : List Char} {afterReturn : Bool},
      (∀ a, before.getLast? = some a → p a) → (afterReturn = true → line = []) →
      l ∈ splitLinesFrom line afterReturn rest → Delimited p (before ++ line ++ rest) l := by
  intro rest
  induction rest with
  | nil =>
    intro line before l afterReturn hbefore _ hl
    rw [splitLinesFrom] at hl
    split at hl
    · cases hl
    · rw [List.mem_singleton.1 hl]
      refine ⟨before, [], rfl, hbefore, fun a ha => ?_⟩
      cases ha
  | cons c rest ih =>
    intro line before l afterReturn hbefore hreturn hl
    have hlast : ∀ l' : List Char, isLineBreak c = true → ∀ a, (l' ++ [c]).getLast? = some a → p a := by
      intro l' hc a ha
      rw [List.getLast?_append_of_ne_nil _ (List.cons_ne_nil c [])] at ha
      cases ha
      exact hbreak c hc
    rw [splitLinesFrom] at hl
    split at hl
    · next hcond =>
      rw [Bool.and_eq_true, beq_iff_eq] at hcond
      have hfeed : isLineBreak c = true := by
        rw [isLineBreak, hcond.2]
        decide
      have hline := hreturn hcond.1
      subst hline
      have hrest := ih (hlast before hfeed) (fun _ => rfl) hl
      rw [List.append_nil] at hrest ⊢
      rw [List.append_assoc] at hrest
      exact hrest
    · split at hl
      · next hc =>
        rcases List.mem_cons.1 hl with rfl | hl
        · refine ⟨before, c :: rest, rfl, hbefore, fun a ha => ?_⟩
          cases ha
          exact hbreak c hc
        · have hrest := ih (hlast (before ++ line) hc) (fun _ => rfl) hl
          rw [List.append_nil, List.append_assoc] at hrest
          exact hrest
      · have hrest := ih hbefore (fun h => by cases h) hl
        rw [← List.append_assoc before, List.append_assoc _ [c]] at hrest
        exact hrest

theorem delimited_splitLines {text line : List Char} (hline : line ∈ splitLines text) :
    Delimited (fun c => t.word c = false) text line := by
  have hnone : ∀ a : Char, ([] : List Char).getLast? = some a → t.word a = false := by
    intro a ha
    cases ha
  exact delimited_splitLinesFrom t.break_not_word hnone (fun _ => rfl) hline

theorem patterns_printable : ∀ r ∈ airworthinessGuardPatterns, ∀ k ∈ r.classes,
    ∀ a, k = .letter a → printable a = true := by
  have hall : airworthinessGuardPatterns.all (fun r => r.classes.all fun k => match k with
      | .letter a => printable a
      | .noneOf _ => true
      | .spaceOr _ => true) = true := by decide
  intro r hr k hk a ha
  have hletter := List.all_eq_true.1 (List.all_eq_true.1 hall r hr) k hk
  rw [ha] at hletter
  exact hletter

theorem unrestricted_of_printable (t : RegexTables) {text : String}
    (hprintable : text.toList.all printable = true)
    (h : isSafetyRestricted .ascii text = false) : isSafetyRestricted t text = false := by
  have hchars : ∀ c ∈ text.toList, printable c = true := List.all_eq_true.1 hprintable
  rw [isSafetyRestricted, Bool.and_eq_false_iff] at h ⊢
  refine h.imp_right fun h => List.any_eq_false.2 fun r hr => ?_
  have hsame : search t.char t.word r text.toList
      = search RegexTables.ascii.char RegexTables.ascii.word r text.toList := by
    refine Regex.search_congr (fun c hc => t.word_printable c (hchars c hc)) ?_
    intro k hk c hc
    cases k with
    | letter a =>
      exact t.ignoreCase_printable a c (patterns_printable r hr _ hk a rfl) (hchars c hc)
    | noneOf cs => rfl
    | spaceOr a =>
      show (t.isSpace c || c == a) = (RegexTables.ascii.isSpace c || c == a)
      rw [t.space_printable c (hchars c hc), RegexTables.ascii.space_printable c (hchars c hc)]
  rw [hsame]
  exact List.any_eq_false.1 h r hr

end Restricted

end Safety
end AeroComply
