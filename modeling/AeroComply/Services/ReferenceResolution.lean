import Mathlib.Data.List.Infix
import AeroComply.Core.Python
import AeroComply.Lib.Regex

/-!
# ReferenceResolution — "it", "that aircraft", "the previous one"

`app/services/lisa/reference_resolution_service.py`: a phrase of the message is resolved against the
records that the conversation has been about.  The phrases are found as parts of the text, the bare
pronouns among the runs of lower-case letters and apostrophes.

`resolves_whole_words_iff` says when the answer is one that the words of the message give.
-/

namespace AeroComply

open Regex (Delimited runs)

/-- The records that a typed phrase is about. -/
inductive ReferenceType
  | aircraft
  | workOrder
  | task
  | part
  | vendor
  | purchaseOrder
  | technician
  | aogEvent
  deriving DecidableEq, Repr

def ReferenceType.value : ReferenceType → String
  | aircraft => "aircraft"
  | workOrder => "work_order"
  | task => "task"
  | part => "part"
  | vendor => "vendor"
  | purchaseOrder => "purchase_order"
  | technician => "technician"
  | aogEvent => "aog_event"

/-- An entry of `recent_entities`. -/
structure RecentEntity where
  entityType : String
  entityId : String
  deriving DecidableEq, Repr

/-- `LisaConversationContext`; the list of entities is decoded, the most recent is its last. -/
structure LisaConversationContext where
  currentAircraftId : Option UUID := none
  currentWorkOrderId : Option UUID := none
  currentTaskId : Option UUID := none
  currentPartId : Option UUID := none
  currentVendorId : Option UUID := none
  currentPurchaseOrderId : Option UUID := none
  currentTechnicianUserId : Option UUID := none
  currentAogEventId : Option UUID := none
  recentEntities : List RecentEntity := []

/-- The field that `_CONTEXT_FIELD_BY_TYPE` names. -/
def LisaConversationContext.current (context : LisaConversationContext) :
    ReferenceType → Option UUID
  | .aircraft => context.currentAircraftId
  | .workOrder => context.currentWorkOrderId
  | .task => context.currentTaskId
  | .part => context.currentPartId
  | .vendor => context.currentVendorId
  | .purchaseOrder => context.currentPurchaseOrderId
  | .technician => context.currentTechnicianUserId
  | .aogEvent => context.currentAogEventId

namespace ReferenceResolution

/-! ## The phrases -/

def typedReferencePhrases : List (String × ReferenceType) :=
  [("this aircraft", .aircraft), ("that aircraft", .aircraft), ("same aircraft", .aircraft),
    ("the aircraft", .aircraft),
    ("this work order", .workOrder), ("that work order", .workOrder),
    ("same work order", .workOrder), ("the work order", .workOrder),
    ("this task", .task), ("that task", .task), ("the task", .task),
    ("the part", .part), ("that part", .part),
    ("the vendor", .vendor), ("that vendor", .vendor),
    ("this po", .purchaseOrder), ("that po", .purchaseOrder), ("the po", .purchaseOrder),
    ("the purchase order", .purchaseOrder), ("that purchase order", .purchaseOrder),
    ("the technician", .technician), ("that technician", .technician),
    ("this aog", .aogEvent), ("that aog", .aogEvent), ("the aog", .aogEvent)]

def barePronouns : List String := ["it", "this", "that", "this one", "that one"]

def previousPhrases : List String := ["the previous one", "the other one", "previous one"]

def nextPhrases : List String := ["next one", "the next one"]

/-! ## The resolution -/

/-- `phrase in text`. -/
def occurs (text phrase : String) : Bool := decide (phrase.toList <:+: text.toList)

/-- `[a-z']`. -/
def tokenChar (c : Char) : Bool := c.isLower || c == Char.ofNat 39

/-- `re.findall(r"[a-z']+", text)`. -/
def tokens (text : String) : List String := (runs tokenChar text.toList).map String.ofList

/-- The type of the first typed phrase that is found in the text. -/
def firstTyped (text : String) : Option ReferenceType :=
  (typedReferencePhrases.find? fun p => occurs text p.1).map Prod.snd

def resolveReference (py : Interpreter) (question : String) (context : LisaConversationContext) :
    Option (String × String) :=
  let lowered := py.lower question
  let entities := context.recentEntities
  match firstTyped lowered with
  | some entityType => (context.current entityType).map fun id => (entityType.value, py.uuidText id)
  | none =>
    if previousPhrases.any (occurs lowered) then
      -- the last but one, if there are two
      entities.reverse[1]?.map fun e => (e.entityType, e.entityId)
    else if nextPhrases.any (occurs lowered) then none
    else if barePronouns.any (tokens lowered).contains then
      entities.getLast?.map fun e => (e.entityType, e.entityId)
    else none

/-! ## Whole words -/

/-- The phrase is in the text, with no word character before or after it. -/
def WholeWords (word : Char → Bool) (text phrase : String) : Prop :=
  Delimited (fun c => word c = false) text.toList phrase.toList

instance {word : Char → Bool} {text phrase : String} : Decidable (WholeWords word text phrase) :=
  inferInstanceAs (Decidable (Delimited _ _ _))

def AnyWhole (word : Char → Bool) (phrases : List String) (text : String) : Prop :=
  ∃ phrase ∈ phrases, WholeWords word text phrase

instance {word : Char → Bool} {phrases : List String} {text : String} :
    Decidable (AnyWhole word phrases text) :=
  inferInstanceAs (Decidable (∃ phrase ∈ phrases, WholeWords word text phrase))

def phrasesOf (entityType : String) : List String :=
  (typedReferencePhrases.filter fun p => p.2.value = entityType).map Prod.fst

def typedPhrases : List String := typedReferencePhrases.map Prod.fst

section Words

variable {word : Char → Bool} {text : String}

theorem occurs_of_wholeWords {phrase : String} (h : WholeWords word text phrase) :
    occurs text phrase = true := by
  obtain ⟨before, after, htext, -, -⟩ := h.around
  exact decide_eq_true ⟨before, after, htext.symm⟩

theorem any_occurs_of_anyWhole {phrases : List String} (h : AnyWhole word phrases text) :
    phrases.any (occurs text) = true := by
  obtain ⟨phrase, hmem, hwhole⟩ := h
  exact List.any_eq_true.2 ⟨phrase, hmem, occurs_of_wholeWords hwhole⟩

theorem firstTyped_eq_none : firstTyped text = none ↔ typedPhrases.any (occurs text) = false := by
  rw [firstTyped, Option.map_eq_none_iff, List.find?_eq_none, typedPhrases, List.any_map,
    List.any_eq_false]
  rfl

theorem not_anyWhole_typed (h : firstTyped text = none) : ¬AnyWhole word typedPhrases text := by
  intro hany
  rw [firstTyped_eq_none, any_occurs_of_anyWhole hany] at h
  cases h

theorem anyWhole_typed_of_phrasesOf {entityType : String}
    (h : AnyWhole word (phrasesOf entityType) text) : AnyWhole word typedPhrases text := by
  obtain ⟨phrase, hmem, hwhole⟩ := h
  obtain ⟨p, hp, rfl⟩ := List.mem_map.1 hmem
  exact ⟨p.1, List.mem_map_of_mem (List.mem_of_mem_filter hp), hwhole⟩

/-- The pronouns that are one word. -/
def singlePronouns : List String := ["it", "this", "that"]

/-- A run of letters and apostrophes is never two words. -/
theorem any_tokens_iff : barePronouns.any (tokens text).contains = true ↔
    AnyWhole tokenChar singlePronouns text := by
  have hsingle : ∀ phrase ∈ barePronouns, phrase.toList.all tokenChar = true →
      phrase ∈ singlePronouns := by
    decide
  have hback : ∀ phrase ∈ singlePronouns, phrase ∈ barePronouns ∧ phrase.toList ≠ [] ∧
      phrase.toList.all tokenChar = true := by
    decide
  rw [List.any_eq_true]
  constructor
  · rintro ⟨phrase, hmem, htoken⟩
    obtain ⟨run, hrun, rfl⟩ := List.mem_map.1 (List.contains_iff_mem.1 htoken)
    obtain ⟨-, hall, hpart⟩ := Regex.mem_runs_iff.1 hrun
    refine ⟨String.ofList run, hsingle _ hmem ?_, ?_⟩
    · rw [String.toList_ofList]
      exact List.all_eq_true.2 hall
    · rwa [WholeWords, String.toList_ofList]
  · rintro ⟨phrase, hmem, hwhole⟩
    obtain ⟨hbare, hne, hall⟩ := hback phrase hmem
    refine ⟨phrase, hbare, List.contains_iff_mem.2 (List.mem_map.2 ⟨phrase.toList, ?_, ?_⟩)⟩
    · exact Regex.mem_runs_iff.2 ⟨hne, List.all_eq_true.1 hall, hwhole⟩
    · exact String.ofList_toList

end Words

/-! ## When there is an answer -/

/-- The message is read as a bare pronoun: nothing else is found in it. -/
structure FindsPronoun (text : String) : Prop where
  typed : firstTyped text = none
  previous : previousPhrases.any (occurs text) = false
  next : nextPhrases.any (occurs text) = false
  pronoun : AnyWhole tokenChar singlePronouns text

/-- The answers, by what is found in the message. -/
inductive Answers (py : Interpreter) (text : String) (context : LisaConversationContext) :
    String × String → Prop
  | typed (entityType : ReferenceType) (id : UUID) (hfound : firstTyped text = some entityType)
      (hcurrent : context.current entityType = some id) :
      Answers py text context (entityType.value, py.uuidText id)
  | previous (e : RecentEntity) (hnone : firstTyped text = none)
      (hfound : previousPhrases.any (occurs text) = true)
      (hbefore : context.recentEntities.reverse[1]? = some e) :
      Answers py text context (e.entityType, e.entityId)
  | pronoun (e : RecentEntity) (hfound : FindsPronoun text)
      (hlast : context.recentEntities.getLast? = some e) :
      Answers py text context (e.entityType, e.entityId)

theorem resolveReference_eq_some {py : Interpreter} {question : String}
    {context : LisaConversationContext} {answer : String × String} :
    resolveReference py question context = some answer ↔
      Answers py (py.lower question) context answer := by
  rw [resolveReference]
  cases htyped : firstTyped (py.lower question) with
  | some entityType =>
    dsimp only
    rw [Option.map_eq_some_iff]
    constructor
    · rintro ⟨id, hcurrent, rfl⟩
      exact .typed entityType id htyped hcurrent
    · intro h
      cases h with
      | typed entityType' id hfound hcurrent =>
        cases htyped.symm.trans hfound
        exact ⟨id, hcurrent, rfl⟩
      | previous e hnone => cases htyped.symm.trans hnone
      | pronoun e hfound => cases htyped.symm.trans hfound.typed
  | none =>
    dsimp only
    cases hprevious : previousPhrases.any (occurs (py.lower question)) with
    | true =>
      rw [if_pos rfl, Option.map_eq_some_iff]
      constructor
      · rintro ⟨e, hbefore, rfl⟩
        exact .previous e htyped hprevious hbefore
      · intro h
        cases h with
        | typed entityType id hfound => cases htyped.symm.trans hfound
        | previous e _ _ hbefore => exact ⟨e, hbefore, rfl⟩
        | pronoun e hfound => cases hprevious.symm.trans hfound.previous
    | false =>
      rw [if_neg Bool.false_ne_true]
      constructor
      · intro h
        split at h
        · cases h
        · next hnext =>
          split at h
          · next hpronoun =>
            obtain ⟨e, hlast, rfl⟩ := Option.map_eq_some_iff.1 h
            exact .pronoun e ⟨htyped, hprevious, Bool.eq_false_iff.2 hnext,
              any_tokens_iff.1 hpronoun⟩ hlast
          · cases h
      · intro h
        cases h with
        | typed entityType id hfound => cases htyped.symm.trans hfound
        | previous e _ hfound => cases hprevious.symm.trans hfound
        | pronoun e hfound hlast =>
          rw [if_neg (Bool.eq_false_iff.1 hfound.next), if_pos (any_tokens_iff.2 hfound.pronoun),
            hlast]
          rfl

/-! ## What is claimed, and where it holds -/

/-- The answer is one that the words of the message give, and a pronoun alone gets one. -/
structure ResolvesWholeWords (py : Interpreter) (word : Char → Bool) (question : String)
    (context : LisaConversationContext) : Prop where
  sound : ∀ entityType entityId,
    resolveReference py question context = some (entityType, entityId) →
      AnyWhole word (phrasesOf entityType) (py.lower question) ∨
      (¬AnyWhole word typedPhrases (py.lower question) ∧
        (AnyWhole word previousPhrases (py.lower question) ∨
          AnyWhole word barePronouns (py.lower question)))
  complete : AnyWhole word barePronouns (py.lower question) →
    ¬AnyWhole word typedPhrases (py.lower question) →
    ¬AnyWhole word previousPhrases (py.lower question) →
    ¬AnyWhole word nextPhrases (py.lower question) →
    context.recentEntities ≠ [] → ∃ answer, resolveReference py question context = some answer

/-- What is found in the text is there as whole words, as far as an answer depends on it. -/
structure FindsWholeWords (word : Char → Bool) (text : String)
    (context : LisaConversationContext) : Prop where
  /-- A typed phrase is not a part of other words, unless another reference is there. -/
  typed : ∀ entityType, firstTyped text = some entityType → context.current entityType ≠ none →
    AnyWhole word (phrasesOf entityType.value) text ∨
      (¬AnyWhole word typedPhrases text ∧
        (AnyWhole word previousPhrases text ∨ AnyWhole word barePronouns text))
  previous : firstTyped text = none → previousPhrases.any (occurs text) = true →
    2 ≤ context.recentEntities.length →
      AnyWhole word previousPhrases text ∨ AnyWhole word barePronouns text
  /-- What stands around a pronoun is neither a letter or an apostrophe nor a word character. -/
  pronoun : FindsPronoun text → context.recentEntities ≠ [] → AnyWhole word barePronouns text
  /-- A pronoun alone is not hidden by parts of other words, or by an apostrophe. -/
  alone : AnyWhole word barePronouns text → ¬AnyWhole word typedPhrases text →
    ¬AnyWhole word previousPhrases text → ¬AnyWhole word nextPhrases text →
    context.recentEntities ≠ [] →
      (∃ entityType, firstTyped text = some entityType ∧ context.current entityType ≠ none) ∨
      (firstTyped text = none ∧ previousPhrases.any (occurs text) = true ∧
        2 ≤ context.recentEntities.length) ∨
      FindsPronoun text

section Result

variable {py : Interpreter} {word : Char → Bool} {text : String}
  {context : LisaConversationContext}

theorem exists_getLast {entities : List RecentEntity} :
    (∃ e, entities.getLast? = some e) ↔ entities ≠ [] := by
  cases entities with
  | nil => simp
  | cons e rest => exact iff_of_true ⟨_, List.getLast?_cons⟩ (List.cons_ne_nil e rest)

theorem exists_before {entities : List RecentEntity} :
    (∃ e, entities.reverse[1]? = some e) ↔ 2 ≤ entities.length := by
  rw [← List.length_reverse]
  constructor
  · rintro ⟨e, hbefore⟩
    exact (List.getElem?_eq_some_iff.1 hbefore).1
  · intro htwo
    exact ⟨_, List.getElem?_eq_getElem htwo⟩

theorem exists_answers_iff : (∃ answer, Answers py text context answer) ↔
    (∃ entityType, firstTyped text = some entityType ∧ context.current entityType ≠ none) ∨
    (firstTyped text = none ∧ previousPhrases.any (occurs text) = true ∧
      2 ≤ context.recentEntities.length) ∨
    (FindsPronoun text ∧ context.recentEntities ≠ []) := by
  constructor
  · rintro ⟨answer, h⟩
    cases h with
    | typed entityType id hfound hcurrent =>
      exact Or.inl ⟨entityType, hfound, hcurrent ▸ Option.some_ne_none id⟩
    | previous e hnone hfound hbefore =>
      exact Or.inr (Or.inl ⟨hnone, hfound, exists_before.1 ⟨e, hbefore⟩⟩)
    | pronoun e hfound hlast => exact Or.inr (Or.inr ⟨hfound, exists_getLast.1 ⟨e, hlast⟩⟩)
  · rintro (⟨entityType, hfound, hcurrent⟩ | ⟨hnone, hfound, htwo⟩ | ⟨hfound, hne⟩)
    · obtain ⟨id, hid⟩ := Option.ne_none_iff_exists'.1 hcurrent
      exact ⟨_, .typed entityType id hfound hid⟩
    · obtain ⟨e, hbefore⟩ := exists_before.2 htwo
      exact ⟨_, .previous e hnone hfound hbefore⟩
    · obtain ⟨e, hlast⟩ := exists_getLast.2 hne
      exact ⟨_, .pronoun e hfound hlast⟩

end Result

/-- **WHOLE WORDS**: the answers are those that the words give exactly where what the code finds as
a part of the text, and as a run of letters and apostrophes, is there as whole words. -/
theorem resolves_whole_words_iff (py : Interpreter) (word : Char → Bool) (question : String)
    (context : LisaConversationContext) :
    ResolvesWholeWords py word question context ↔
      FindsWholeWords word (py.lower question) context := by
  constructor
  · rintro ⟨sound, complete⟩
    constructor
    · intro entityType hfound hcurrent
      obtain ⟨id, hid⟩ := Option.ne_none_iff_exists'.1 hcurrent
      exact sound _ _ (resolveReference_eq_some.2 (.typed entityType id hfound hid))
    · intro hnone hfound htwo
      obtain ⟨e, hbefore⟩ := exists_before.2 htwo
      have hanswer := sound _ _ (resolveReference_eq_some.2 (.previous e hnone hfound hbefore))
      rcases hanswer with htyped | ⟨-, hreference⟩
      · exact absurd (anyWhole_typed_of_phrasesOf htyped) (not_anyWhole_typed hnone)
      · exact hreference
    · intro hfound hne
      obtain ⟨e, hlast⟩ := exists_getLast.2 hne
      have hanswer := sound _ _ (resolveReference_eq_some.2 (.pronoun e hfound hlast))
      rcases hanswer with htyped | ⟨-, hprevious | hpronoun⟩
      · exact absurd (anyWhole_typed_of_phrasesOf htyped) (not_anyWhole_typed hfound.typed)
      · have hany := any_occurs_of_anyWhole hprevious
        rw [hfound.previous] at hany
        cases hany
      · exact hpronoun
    · intro hpronoun htyped hprevious hnext hne
      obtain ⟨answer, hanswer⟩ := complete hpronoun htyped hprevious hnext hne
      rcases exists_answers_iff.1 ⟨answer, resolveReference_eq_some.1 hanswer⟩ with h | h | h
      · exact Or.inl h
      · exact Or.inr (Or.inl h)
      · exact Or.inr (Or.inr h.1)
  · intro h
    constructor
    · intro entityType entityId hanswer
      cases resolveReference_eq_some.1 hanswer with
      | typed entityType id hfound hcurrent =>
        exact h.typed entityType hfound (hcurrent ▸ Option.some_ne_none id)
      | previous e hnone hfound hbefore =>
        exact Or.inr ⟨not_anyWhole_typed hnone,
          h.previous hnone hfound (exists_before.1 ⟨e, hbefore⟩)⟩
      | pronoun e hfound hlast =>
        exact Or.inr ⟨not_anyWhole_typed hfound.typed,
          Or.inr (h.pronoun hfound (exists_getLast.1 ⟨e, hlast⟩))⟩
    · intro hpronoun htyped hprevious hnext hne
      refine (exists_answers_iff.2 ?_).imp fun _ => resolveReference_eq_some.2
      rcases h.alone hpronoun htyped hprevious hnext hne with hcurrent | htwo | hfound
      · exact Or.inl hcurrent
      · exact Or.inr (Or.inl htwo)
      · exact Or.inr (Or.inr ⟨hfound, hne⟩)

/-- `\w`, of ASCII. -/
def wordChar (c : Char) : Bool := c.isAlphanum || c == '_'

/-- "the port" has "the po" in it, and a pronoun in quotes is no token. -/
theorem port_and_quotes :
    ¬ResolvesWholeWords .ascii wordChar "check the port" { currentPurchaseOrderId := some 7 } ∧
    ¬ResolvesWholeWords .ascii wordChar "why is 'it' late"
      { recentEntities := [⟨"aircraft", "7"⟩] } := by
  constructor
  · intro h
    have hanswer : ∃ id, resolveReference .ascii "check the port"
        { currentPurchaseOrderId := some 7 } = some ("purchase_order", id) :=
      ⟨_, by rw [resolveReference_eq_some]; exact .typed .purchaseOrder 7 (by decide +kernel) rfl⟩
    obtain ⟨id, hanswer⟩ := hanswer
    have hwhole := h.sound _ _ hanswer
    revert hwhole
    decide +kernel
  · intro h
    obtain ⟨answer, hanswer⟩ := h.complete (by decide +kernel) (by decide +kernel)
      (by decide +kernel) (by decide +kernel) (by decide +kernel)
    have hnone : resolveReference .ascii "why is 'it' late"
        { recentEntities := [⟨"aircraft", "7"⟩] } = none := by decide +kernel
    rw [hnone] at hanswer
    cases hanswer

end ReferenceResolution
end AeroComply
