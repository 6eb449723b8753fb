import AeroComply.Applicability.Completion
import AeroComply.Applicability.Creation

/-!
# Evaluable — which stored trees the evaluator answers on

The parameters of a stored condition are JSON of any shape.  A leaf raises when a
parameter it reads has the wrong one: a target that is neither a text nor a list
of texts is stripped all the same, and an MSN bound that is no number is compared
all the same.  Whether the parameter is read at all depends on the snapshot.

AND and OR evaluate every child and NOT its first, so the trees that are answered
on are described by recursion over the tree.
-/

namespace AeroComply

namespace ApplicabilityService

variable (u : UnicodeTables)

/-! ## The parameters each leaf can read -/

/-- Nothing, a number, or a truth value, which Python compares as one. -/
def Comparable (j : Json) : Prop := j = .null ∨ (∃ b, j = .bool b) ∨ ∃ q, j = .num q

/-- There is no aircraft type on record, no target, or a target that can be read. -/
def VariantEvaluable (params : List (String × Json)) (s : ConfigurationSnapshot) : Prop :=
  presentText s.aircraftType ≠ none → (targetVariant params).truthy = true →
    TextOrTexts (targetVariant params)

/-- There is no MSN with a number on record, or both bounds can be compared with it. -/
def MsnEvaluable (params : List (String × Json)) (s : ConfigurationSnapshot) : Prop :=
  ∀ actualMsn ∈ s.msn, u.findDigits actualMsn.toList ≠ [] →
    Comparable (msnBound params "min_msn" "min") ∧ Comparable (msnBound params "max_msn" "max")

/-- There are no engines on record, no target, or a target that can be read. -/
def EngineEvaluable (params : List (String × Json)) (s : ConfigurationSnapshot) : Prop :=
  s.installedEngines ≠ [] → (targetEngine params).truthy = true →
    TextOrTexts (targetEngine params)

mutual

/-- Every leaf that the evaluation of the tree reaches can read its parameters. -/
def Evaluable (s : ConfigurationSnapshot) : ApplicabilityCondition → Prop
  | .mk _ _ conditionType _ parameters children =>
    let condType := u.upperText conditionType.toList
    let params := parameters.getD []
    if condType = "AND".toList then EvaluableAll s children
    else if condType = "OR".toList then EvaluableAll s children
    else if condType = "NOT".toList then
      -- children after the first are never evaluated
      match children with
      | [] => True
      | child :: _ => Evaluable s child
    else if condType = "AIRCRAFT_VARIANT".toList then VariantEvaluable params s
    else if condType = "MSN_RANGE".toList then MsnEvaluable u params s
    else if condType = "ENGINE_TYPE".toList then EngineEvaluable params s
    else True

def EvaluableAll (s : ConfigurationSnapshot) : List ApplicabilityCondition → Prop
  | [] => True
  | child :: children => Evaluable s child ∧ EvaluableAll s children

end

/-! ## Answering, step by step -/

theorem answers_ok {α : Type} (x : α) : Answers (.ok x : Except Error α) := ⟨x, rfl⟩

theorem answers_bind_iff {α β : Type} {r : Except Error α} {f : α → Except Error β}
    (hf : ∀ x, Answers (f x)) : Answers (r >>= f) ↔ Answers r := by
  constructor
  · rintro ⟨y, hy⟩
    obtain ⟨x, hx, -⟩ := bind_eq_ok.1 hy
    exact ⟨x, hx⟩
  · intro hr
    exact hr.bind hf

/-- Two computations whose results are only combined answer when both do. -/
theorem answers_bind_and {α β γ : Type} {r : Except Error α} {r' : Except Error β}
    {f : α → β → Except Error γ} (hf : ∀ x y, Answers (f x y)) :
    Answers (r >>= fun x => r' >>= fun y => f x y) ↔ Answers r ∧ Answers r' := by
  constructor
  · rintro ⟨z, hz⟩
    obtain ⟨x, hx, hz⟩ := bind_eq_ok.1 hz
    obtain ⟨y, hy, -⟩ := bind_eq_ok.1 hz
    exact ⟨⟨x, hx⟩, ⟨y, hy⟩⟩
  · rintro ⟨hr, hr'⟩
    exact hr.bind fun x => hr'.bind fun y => hf x y

/-! ## The leaves -/

theorem texts_of_targetTexts (items : List Json) :
    Answers (targetTexts u (.arr items)) → ∃ ts : List String, items = ts.map .str := by
  show Answers (List.mapM _ items) → _
  induction items with
  | nil => exact fun _ => ⟨[], rfl⟩
  | cons j items ih =>
    rintro ⟨targets, h⟩
    rw [List.mapM_cons] at h
    obtain ⟨t, ht, h⟩ := bind_eq_ok.1 h
    obtain ⟨rest, hrest, -⟩ := bind_eq_ok.1 h
    obtain ⟨ts, rfl⟩ := ih ⟨rest, hrest⟩
    cases j with
    | str t => exact ⟨t :: ts, rfl⟩
    | null | bool | num | arr | obj => cases ht

theorem targetTexts_answers_iff {j : Json} (ht : j.truthy = true) :
    Answers (targetTexts u j) ↔ TextOrTexts j := by
  constructor
  · rintro ⟨targets, h⟩
    cases j with
    | str t => exact Or.inr (Or.inl ⟨t, rfl⟩)
    | arr items =>
      obtain ⟨ts, rfl⟩ := texts_of_targetTexts u items ⟨targets, h⟩
      exact Or.inr (Or.inr ⟨ts, rfl⟩)
    | null | bool | num | obj => cases h
  · intro hj
    exact targetTexts_ok u hj (by rw [ht]; decide)

theorem evaluateAircraftVariant_answers_iff (params : List (String × Json))
    (s : ConfigurationSnapshot) :
    Answers (evaluateAircraftVariant u params s) ↔ VariantEvaluable params s := by
  rw [evaluateAircraftVariant, VariantEvaluable]
  cases presentText s.aircraftType with
  | none => exact ⟨fun _ hne => absurd rfl hne, fun _ => answers_ok _⟩
  | some actualType =>
    cases ht : (targetVariant params).truthy with
    | false => exact ⟨fun _ _ htrue => absurd htrue (by decide), fun _ => answers_ok _⟩
    | true =>
      have hrest : ∀ targets : List (List Char), Answers
          (if targets.any (variantMatches (u.normalize actualType)) then
            pure (f := Except Error) (⟨.true, .variantMatches actualType (targetVariant params),
              .json (targetVariant params), .text (some actualType)⟩ : LeafResult)
          else
            pure ⟨.false, .variantDoesNotMatch actualType (targetVariant params),
              .json (targetVariant params), .text (some actualType)⟩) := by
        intro targets
        split
        · exact answers_ok _
        · exact answers_ok _
      refine (answers_bind_iff hrest).trans ((targetTexts_answers_iff u ht).trans ?_)
      exact ⟨fun h _ _ => h, fun h => h (by simp) rfl⟩

theorem asNumber_answers_iff {j : Json} (hj : ¬j.isNone = true) :
    Answers (asNumber j) ↔ Comparable j := by
  cases j with
  | null => exact absurd rfl hj
  | bool b => exact ⟨fun _ => Or.inr (Or.inl ⟨b, rfl⟩), fun _ => answers_ok _⟩
  | num q => exact ⟨fun _ => Or.inr (Or.inr ⟨q, rfl⟩), fun _ => answers_ok _⟩
  | str | arr | obj =>
    constructor
    · rintro ⟨q, hq⟩
      cases hq
    · rintro (h | ⟨b, h⟩ | ⟨q, h⟩)
      · cases h
      · cases h
      · cases h

theorem compared_answers_iff {β : Type} {j : Json} {x : β} {f : ℚ → Except Error β}
    (hf : ∀ q, Answers (f q)) :
    Answers (if j.isNone then .ok x else asNumber j >>= f) ↔ Comparable j := by
  by_cases hj : j.isNone = true
  · rw [if_pos hj]
    cases j with
    | null => exact ⟨fun _ => Or.inl rfl, fun _ => answers_ok _⟩
    | bool | num | str | arr | obj => cases hj
  · rw [if_neg hj]
    exact (answers_bind_iff hf).trans (asNumber_answers_iff hj)

theorem isBelow_answers_iff (n : Nat) (j : Json) : Answers (isBelow n j) ↔ Comparable j :=
  compared_answers_iff fun _ => answers_ok _

theorem isAbove_answers_iff (n : Nat) (j : Json) : Answers (isAbove n j) ↔ Comparable j :=
  compared_answers_iff fun _ => answers_ok _

theorem comparable_of_isNone {j : Json} (hj : j.isNone = true) : Comparable j := by
  cases j with
  | null => exact Or.inl rfl
  | bool | num | str | arr | obj => cases hj

theorem evaluateMsnRange_answers_iff (params : List (String × Json)) (s : ConfigurationSnapshot) :
    Answers (evaluateMsnRange u params s) ↔ MsnEvaluable u params s := by
  rw [evaluateMsnRange, MsnEvaluable]
  cases s.msn with
  | none => exact ⟨fun _ _ hmem => absurd hmem (by simp), fun _ => answers_ok _⟩
  | some actualMsn =>
    dsimp only
    split
    · next hnone =>
      rw [Bool.and_eq_true] at hnone
      exact ⟨fun _ _ _ _ => ⟨comparable_of_isNone hnone.1, comparable_of_isNone hnone.2⟩,
        fun _ => answers_ok _⟩
    · cases hdigits : (u.findDigits actualMsn.toList).getLast? with
      | none =>
        have hnil : u.findDigits actualMsn.toList = [] := List.getLast?_eq_none_iff.1 hdigits
        refine ⟨fun _ msn hmsn hne => ?_, fun _ => answers_ok _⟩
        cases hmsn
        exact absurd hnil hne
      | some digits =>
        have hne : u.findDigits actualMsn.toList ≠ [] := by
          intro hnil
          rw [hnil] at hdigits
          cases hdigits
        refine (answers_bind_and fun below above => ?_).trans ?_
        · split
          · exact answers_ok _
          · exact answers_ok _
        · rw [isBelow_answers_iff, isAbove_answers_iff]
          refine ⟨fun h msn hmsn _ => ?_, fun h => h _ rfl hne⟩
          exact h

theorem evaluateEngineType_answers_iff (params : List (String × Json)) (s : ConfigurationSnapshot) :
    Answers (evaluateEngineType u params s) ↔ EngineEvaluable params s := by
  rw [EngineEvaluable]
  cases ht : (targetEngine params).truthy with
  | false =>
    exact ⟨fun _ _ htrue => absurd htrue (by decide),
      fun _ => ⟨_, evaluateEngineType_of_falsy u ht s⟩⟩
  | true =>
    have htf : ¬(targetEngine params).truthy = false := by
      rw [ht]
      decide
    by_cases hne : s.installedEngines = []
    · exact ⟨fun _ h => absurd hne h, fun _ => ⟨_, evaluateEngineType_of_noRecords u htf hne⟩⟩
    · refine Iff.trans ?_
        ((targetTexts_answers_iff u ht).trans ⟨fun h _ _ => h, fun h => h hne rfl⟩)
      constructor
      · rintro ⟨leaf, hleaf⟩
        dsimp only [evaluateEngineType] at hleaf
        rw [if_neg htf, if_neg hne] at hleaf
        obtain ⟨targets, hts, -⟩ := bind_eq_ok.1 hleaf
        exact ⟨targets, hts⟩
      · rintro ⟨targets, hts⟩
        obtain ⟨leaf, hleaf, -⟩ := evaluateEngineType_eq_scan u htf hts hne
        exact ⟨leaf, hleaf⟩

/-! ## The tree -/

mutual

/-- **ANSWERED TREES**: over the tree, one case for each condition type. -/
theorem evaluateNode_answers_iff (s : ConfigurationSnapshot) : ∀ node,
    Answers (evaluateNode u s node) ↔ Evaluable u s node
  | .mk id org conditionType label parameters children => by
    unfold evaluateNode Evaluable
    dsimp only
    split
    · exact (answers_bind_iff fun _ => answers_ok _).trans (evaluateChildren_answers_iff s children)
    split
    · exact (answers_bind_iff fun _ => answers_ok _).trans (evaluateChildren_answers_iff s children)
    split
    · match children with
      | [] => exact ⟨fun _ => trivial, fun _ => answers_ok _⟩
      | child :: _ =>
        exact (answers_bind_iff fun _ => answers_ok _).trans (evaluateNode_answers_iff s child)
    split
    · exact (answers_bind_iff fun _ => answers_ok _).trans
        (evaluateAircraftVariant_answers_iff u _ s)
    split
    · exact (answers_bind_iff fun _ => answers_ok _).trans (evaluateMsnRange_answers_iff u _ s)
    split
    · exact (answers_bind_iff fun _ => answers_ok _).trans (evaluateEngineType_answers_iff u _ s)
    · exact ⟨fun _ => trivial, fun _ => answers_ok _⟩

theorem evaluateChildren_answers_iff (s : ConfigurationSnapshot) : ∀ children,
    Answers (evaluateChildren u s children) ↔ EvaluableAll u s children
  | [] => ⟨fun _ => trivial, fun _ => answers_ok _⟩
  | child :: children => by
    rw [evaluateChildren, EvaluableAll, ← evaluateNode_answers_iff s child,
      ← evaluateChildren_answers_iff s children]
    exact answers_bind_and fun _ _ => answers_ok _

end

/-- **STORED RULES ANSWER**: the tree that `create_rule` stored is answered on, against the
snapshot of any aircraft or asset of any later database, exactly when it is evaluable there. -/
theorem storedRule_answers_iff (db db' db'' : Database) (newRuleId org : UUID)
    (newId : List Nat → UUID) (actor : Option UUID) (payload : ApplicabilityRuleCreateRequest)
    (rule : ApplicabilityRule) (now : DateTime) (aircraft : Option Aircraft) (asset : Option Asset)
    (hcreate : createRule db newRuleId newId org actor payload = .ok (db', rule)) :
    ∃ root, rootCondition db' org rule = .ok root ∧
      (Answers (evaluateRoot u (captureConfigurationSnapshot db'' now org aircraft asset) root) ↔
        ∀ condition ∈ root,
          Evaluable u (captureConfigurationSnapshot db'' now org aircraft asset) condition) := by
  obtain ⟨root, hroot, -⟩ := rootCondition_of_createRule hcreate
  refine ⟨root, hroot, ?_⟩
  cases root with
  | none => exact ⟨fun _ _ hmem => absurd hmem (by simp), fun _ => answers_ok _⟩
  | some condition =>
    refine (answers_bind_iff fun _ => answers_ok _).trans
      ((evaluateNode_answers_iff u _ condition).trans ⟨fun h c hc => ?_, fun h => h condition rfl⟩)
    cases hc
    exact h

/-- An MSN range from `minMsn` on, below a NOT. -/
def rangeFrom (minMsn : Json) : ApplicabilityRuleCreateRequest where
  ruleCode := "AD-2024-07"
  rootCondition := some (.mk "NOT" "not affected" none 0
    [.mk "msn_range" "affected" (some [("min_msn", minMsn)]) 0 []])
  ruleCode_length := by decide
  rootCondition_accepted := by cases minMsn with | _ => rfl

def msn2210 : Aircraft :=
  { id := 7, organizationId := 1, registration := "VT-AXH", msn := "2210", aircraftType := "A320" }

/-- With a number for the bound, the stored rule is answered on. -/
theorem storedRule_answers_iff_number :
    ∃ db' rule root, createRule {} 1 List.length 1 none (rangeFrom (.num 100)) = .ok (db', rule) ∧
      rootCondition db' 1 rule = .ok root ∧ root.isSome = true ∧
      Answers (evaluateRoot .ascii (captureConfigurationSnapshot {} 0 1 (some msn2210) none)
        root) := by
  obtain ⟨db', rule, hcreate⟩ : ∃ db' rule,
      createRule {} 1 List.length 1 none (rangeFrom (.num 100)) = .ok (db', rule) := ⟨_, _, rfl⟩
  obtain ⟨root, hroot, hiff⟩ := storedRule_answers_iff .ascii {} db' {} 1 1 List.length none
    (rangeFrom (.num 100)) rule 0 (some msn2210) none hcreate
  have hstored : root = some (.mk 0 1 "NOT" "not affected" none
      [.mk 1 1 "msn_range" "affected" (some [("min_msn", .num 100)]) []]) := by
    cases hcreate
    cases hroot
    rfl
  refine ⟨db', rule, root, hcreate, hroot, by rw [hstored]; rfl, hiff.2 ?_⟩
  rintro condition hcondition
  rw [hstored] at hcondition
  cases hcondition
  exact fun _ _ _ => ⟨Or.inr (Or.inr ⟨100, rfl⟩), Or.inl rfl⟩

/-- With a text for the bound, the rule is stored all the same, and evaluating it compares a
number with a text. -/
theorem textBound_unanswered :
    ∃ db' rule root, createRule {} 1 List.length 1 none (rangeFrom (.str "100"))
        = .ok (db', rule) ∧
      rootCondition db' 1 rule = .ok root ∧
      evaluateRoot .ascii (captureConfigurationSnapshot {} 0 1 (some msn2210) none) root
        = .error .typeError :=
  ⟨_, _, _, rfl, rfl, rfl⟩

end ApplicabilityService
end AeroComply
