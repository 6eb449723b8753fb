import AeroComply.Applicability.Evaluation

/-!
# Completion — verdicts survive the filling-in of missing data

`Completes s s'` says that `s'` is `s` with missing data filled in.  On a tree
with well-typed parameters the evaluator always answers, and its answer on `s'`
refines its answer on `s`: UNKNOWN may become anything, TRUE and FALSE stay.

Each leaf gets its own argument; AND, OR and NOT inherit it from the
monotonicity of the Kleene operations, by induction over the tree.
-/

namespace AeroComply

namespace ApplicabilityService

open FlatOrder (Le)

variable (u : UnicodeTables)

/-! ## Completing a snapshot -/

/-- A missing text (NULL or empty) may become any text; a present one stays. -/
def FillsText (a b : Option String) : Prop := presentText a = none ∨ a = b

/-- The engine record is the same but for a missing model. -/
def FillsEngine (e e' : InstalledEngine) : Prop :=
  FillsText e.model e'.model ∧ { e with model := e'.model } = e'

/-- **COMPLETION OF A SNAPSHOT**: `s'` agrees with `s` except that a missing aircraft
type, MSN or engine model is filled in, and an empty engine list may be any list. -/
structure Completes (s s' : ConfigurationSnapshot) : Prop where
  aircraftType : FillsText s.aircraftType s'.aircraftType
  msn : FillsText s.msn s'.msn
  installedEngines : s.installedEngines = [] ∨
    List.Forall₂ FillsEngine s.installedEngines s'.installedEngines
  rest : { s with aircraftType := s'.aircraftType, msn := s'.msn,
                  installedEngines := s'.installedEngines } = s'

/-! ## Well-typed parameters -/

def TextOrTexts (j : Json) : Prop :=
  j = .null ∨ (∃ t, j = .str t) ∨ ∃ ts : List String, j = .arr (ts.map .str)

def NumberOrNone (j : Json) : Prop := j = .null ∨ ∃ q, j = .num q

def VariantTyped (params : List (String × Json)) : Prop :=
  ∀ key ∈ ["variant", "variants", "model"], TextOrTexts (paramsGet params key)

def MsnTyped (params : List (String × Json)) : Prop :=
  ∀ key ∈ ["min_msn", "min", "max_msn", "max"], NumberOrNone (paramsGet params key)

def EngineTyped (params : List (String × Json)) : Prop :=
  ∀ key ∈ ["engine_type", "model", "engine_types"], TextOrTexts (paramsGet params key)

/-- The parameters a node of this condition type reads have the types they are read at. -/
structure WellTypedParams (condType : List Char) (params : List (String × Json)) : Prop where
  variant : condType = "AIRCRAFT_VARIANT".toList → VariantTyped params
  msn : condType = "MSN_RANGE".toList → MsnTyped params
  engine : condType = "ENGINE_TYPE".toList → EngineTyped params

mutual

/-- Every node of the tree has well-typed parameters. -/
def WellTyped : ApplicabilityCondition → Prop
  | .mk _ _ conditionType _ parameters children =>
    WellTypedParams (u.upperText conditionType.toList) (parameters.getD []) ∧
      WellTypedAll children

def WellTypedAll : List ApplicabilityCondition → Prop
  | [] => True
  | child :: children => WellTyped child ∧ WellTypedAll children

end

/-! ## Present texts -/

theorem FillsText.eq_of_present {a b : Option String} (h : FillsText a b)
    (hp : presentText a ≠ none) : a = b := by
  rcases h with h | h
  · exact absurd h hp
  · exact h

/-! ## Targets of well-typed parameters -/

theorem TextOrTexts.or {j k : Json} (hj : TextOrTexts j) (hk : TextOrTexts k) :
    TextOrTexts (j.or k) := by
  rw [Json.or]
  split
  · exact hj
  · exact hk

theorem mapM_targetTexts (ts : List String) :
    targetTexts u (.arr (ts.map .str)) = .ok (ts.map u.normalize) := by
  show List.mapM _ (ts.map Json.str) = _
  induction ts with
  | nil => rfl
  | cons t ts ih =>
    rw [List.map_cons, List.mapM_cons, ih]
    rfl

theorem targetTexts_ok {j : Json} (hj : TextOrTexts j) (ht : ¬j.truthy = false) :
    ∃ targets, targetTexts u j = .ok targets := by
  rcases hj with rfl | ⟨t, rfl⟩ | ⟨ts, rfl⟩
  · exact absurd rfl ht
  · exact ⟨_, rfl⟩
  · exact ⟨_, mapM_targetTexts u ts⟩

variable {params : List (String × Json)}

theorem VariantTyped.target (hw : VariantTyped params) :
    TextOrTexts (targetVariant params) :=
  ((hw _ (by simp)).or (hw _ (by simp))).or (hw _ (by simp))

theorem EngineTyped.target (hw : EngineTyped params) :
    TextOrTexts (targetEngine params) :=
  ((hw _ (by simp)).or (hw _ (by simp))).or (hw _ (by simp))

theorem NumberOrNone.msnBound {key fallback : String} (hk : NumberOrNone (paramsGet params key))
    (hf : NumberOrNone (paramsGet params fallback)) :
    NumberOrNone (msnBound params key fallback) := by
  show NumberOrNone (if _ then _ else _)
  split
  · exact hf
  · exact hk

/-! ## The leaves -/

/-- The evaluation answers instead of raising. -/
def Answers {α : Type} (r : Except Error α) : Prop := ∃ x, r = .ok x

theorem Answers.bind {α β : Type} {r : Except Error α} {f : α → Except Error β}
    (hr : Answers r) (hf : ∀ x, Answers (f x)) : Answers (r >>= f) := by
  obtain ⟨x, rfl⟩ := hr
  exact hf x

/-- Both evaluations answer, and the second answer refines the first. -/
def Refines {α : Type} (val : α → KleeneValue) (r r' : Except Error α) : Prop :=
  ∃ x x', r = .ok x ∧ r' = .ok x' ∧ Le .unknown (val x) (val x')

theorem Refines.of_eq {α : Type} {val : α → KleeneValue} {r r' : Except Error α}
    (hr : Answers r) (heq : r' = r) : Refines val r r' := by
  obtain ⟨x, hx⟩ := hr
  exact ⟨x, x, hx, heq.trans hx, Le.refl _ _⟩

theorem Refines.of_unknown {α : Type} {val : α → KleeneValue} {r r' : Except Error α} {x : α}
    (hr : r = .ok x) (hx : val x = .unknown) (hr' : Answers r') : Refines val r r' := by
  obtain ⟨x', hx'⟩ := hr'
  exact ⟨x, x', hr, hx', Or.inl hx⟩

section Leaves

variable {params : List (String × Json)} {s s' : ConfigurationSnapshot}

-- ── AIRCRAFT_VARIANT ────────────────────────────────────────────────────────

theorem evaluateAircraftVariant_answers (hw : VariantTyped params)
    (s : ConfigurationSnapshot) : Answers (evaluateAircraftVariant u params s) := by
  rw [evaluateAircraftVariant]
  cases presentText s.aircraftType with
  | none => exact ⟨_, rfl⟩
  | some actualType =>
    by_cases ht : (targetVariant params).truthy = false
    · simp only [ht, if_true]
      exact ⟨_, rfl⟩
    · simp only [ht]
      refine Answers.bind (targetTexts_ok u hw.target ht) (fun targets => ?_)
      split
      · exact ⟨_, rfl⟩
      · exact ⟨_, rfl⟩

theorem evaluateAircraftVariant_refines (hw : VariantTyped params) (hc : Completes s s') :
    Refines LeafResult.val (evaluateAircraftVariant u params s)
      (evaluateAircraftVariant u params s') := by
  by_cases hp : presentText s.aircraftType = none
  · have hr : evaluateAircraftVariant u params s = .ok ⟨.unknown, .missingAircraftType,
        .json (targetVariant params), .text s.aircraftType⟩ := by
      rw [evaluateAircraftVariant]
      rw [hp]
    exact Refines.of_unknown hr rfl (evaluateAircraftVariant_answers u hw s')
  · refine Refines.of_eq (evaluateAircraftVariant_answers u hw s) ?_
    rw [evaluateAircraftVariant, evaluateAircraftVariant]
    rw [hc.aircraftType.eq_of_present hp]

-- ── MSN_RANGE ───────────────────────────────────────────────────────────────

theorem isBelow_answers {j : Json} (hj : NumberOrNone j) (n : Nat) : Answers (isBelow n j) := by
  rcases hj with rfl | ⟨q, rfl⟩
  · exact ⟨_, rfl⟩
  · exact ⟨_, rfl⟩

theorem isAbove_answers {j : Json} (hj : NumberOrNone j) (n : Nat) : Answers (isAbove n j) := by
  rcases hj with rfl | ⟨q, rfl⟩
  · exact ⟨_, rfl⟩
  · exact ⟨_, rfl⟩

theorem evaluateMsnRange_answers (hw : MsnTyped params) (s : ConfigurationSnapshot) :
    Answers (evaluateMsnRange u params s) := by
  have hmin : NumberOrNone (msnBound params "min_msn" "min") :=
    NumberOrNone.msnBound (hw _ (by simp)) (hw _ (by simp))
  have hmax : NumberOrNone (msnBound params "max_msn" "max") :=
    NumberOrNone.msnBound (hw _ (by simp)) (hw _ (by simp))
  rw [evaluateMsnRange]
  cases s.msn with
  | none => exact ⟨_, rfl⟩
  | some actualMsn =>
    dsimp only
    split
    · exact ⟨_, rfl⟩
    · cases (u.findDigits actualMsn.toList).getLast? with
      | none => exact ⟨_, rfl⟩
      | some digits =>
        refine Answers.bind (isBelow_answers hmin _) (fun below => ?_)
        refine Answers.bind (isAbove_answers hmax _) (fun above => ?_)
        split
        · exact ⟨_, rfl⟩
        · exact ⟨_, rfl⟩

theorem evaluateMsnRange_of_missing (params : List (String × Json)) (h : presentText s.msn = none) :
    ∃ leaf, evaluateMsnRange u params s = .ok leaf ∧ leaf.val = .unknown := by
  rw [evaluateMsnRange]
  cases hm : s.msn with
  | none => exact ⟨_, rfl, rfl⟩
  | some actualMsn =>
    have hempty : actualMsn = "" := by
      by_contra hne
      rw [hm] at h
      exact absurd (h.symm.trans (if_neg hne)) (by simp)
    subst hempty
    have hdigits : (u.findDigits "".toList).getLast? = none := rfl
    dsimp only
    rw [hdigits]
    split
    · exact ⟨_, rfl, rfl⟩
    · exact ⟨_, rfl, rfl⟩

theorem evaluateMsnRange_refines (hw : MsnTyped params) (hc : Completes s s') :
    Refines LeafResult.val (evaluateMsnRange u params s) (evaluateMsnRange u params s') := by
  by_cases hp : presentText s.msn = none
  · obtain ⟨leaf, hr, hval⟩ := evaluateMsnRange_of_missing u params hp
    exact Refines.of_unknown hr hval (evaluateMsnRange_answers u hw s')
  · refine Refines.of_eq (evaluateMsnRange_answers u hw s) ?_
    rw [evaluateMsnRange, evaluateMsnRange]
    rw [hc.msn.eq_of_present hp]

-- ── ENGINE_TYPE ─────────────────────────────────────────────────────────────

/-- The verdict after the loop over the engines. -/
def scanVerdict : Bool × Bool × List (Option String) → KleeneValue
  | (true, _, _) => .true
  | (false, true, _) => .unknown
  | (false, false, _) => .false

theorem scanVerdict_of_unknown (targets : List (List Char)) (engines : List InstalledEngine) :
    ∀ ms, Le .unknown (scanVerdict (scanEngines u targets engines true ms)) .true := by
  induction engines with
  | nil => exact fun _ => Or.inl rfl
  | cons eng engines ih =>
    intro ms
    rw [scanEngines]
    cases presentText eng.model with
    | none => exact ih _
    | some m =>
      dsimp only
      by_cases hm : engineMatches u targets m = true
      · rw [if_pos hm]
        exact Or.inr rfl
      · rw [if_neg hm]
        exact ih _

/-- Filling in models refines the verdict of the loop; the second loop has seen
an unknown model only if the first one has. -/
theorem scanEngines_le (targets : List (List Char)) {engines engines' : List InstalledEngine}
    (h : List.Forall₂ FillsEngine engines engines') :
    ∀ unk unk' ms ms', (unk' = true → unk = true) →
      Le .unknown (scanVerdict (scanEngines u targets engines unk ms))
        (scanVerdict (scanEngines u targets engines' unk' ms')) := by
  induction h with
  | nil =>
    intro unk unk' ms ms' himp
    cases unk with
    | true => exact Or.inl rfl
    | false =>
      cases unk' with
      | true => cases himp rfl
      | false => exact Or.inr rfl
  | @cons eng eng' engines engines' heng _ ih =>
    intro unk unk' ms ms' himp
    by_cases hp : presentText eng.model = none
    · -- the first loop passes an unknown model here, whatever the second one meets
      have hleft : scanEngines u targets (eng :: engines) unk ms
          = scanEngines u targets engines true (ms ++ [eng.model]) := by
        rw [scanEngines, hp]
      rw [hleft, scanEngines]
      cases presentText eng'.model with
      | none => exact ih _ _ _ _ (fun _ => rfl)
      | some m =>
        dsimp only
        by_cases hm : engineMatches u targets m = true
        · rw [if_pos hm]
          exact scanVerdict_of_unknown u targets engines _
        · rw [if_neg hm]
          exact ih _ _ _ _ (fun _ => rfl)
    · have hmodel : eng.model = eng'.model := heng.1.eq_of_present hp
      rw [scanEngines, scanEngines, ← hmodel]
      cases hpe : presentText eng.model with
      | none => exact absurd hpe hp
      | some m =>
        dsimp only
        by_cases hm : engineMatches u targets m = true
        · rw [if_pos hm, if_pos hm]
          exact Or.inr rfl
        · rw [if_neg hm, if_neg hm]
          exact ih _ _ _ _ himp

theorem evaluateEngineType_eq_scan {targets : List (List Char)}
    (ht : ¬(targetEngine params).truthy = false)
    (hts : targetTexts u (targetEngine params) = .ok targets) (hne : s.installedEngines ≠ []) :
    ∃ leaf, evaluateEngineType u params s = .ok leaf ∧
      leaf.val = scanVerdict (scanEngines u targets s.installedEngines false []) := by
  dsimp only [evaluateEngineType]
  rw [if_neg ht, if_neg hne, hts, ok_bind]
  rcases scanEngines u targets s.installedEngines false [] with ⟨_ | _, _ | _, ms⟩
  · exact ⟨_, rfl, rfl⟩
  · exact ⟨_, rfl, rfl⟩
  · exact ⟨_, rfl, rfl⟩
  · exact ⟨_, rfl, rfl⟩

theorem evaluateEngineType_of_falsy (ht : (targetEngine params).truthy = false)
    (s : ConfigurationSnapshot) :
    evaluateEngineType u params s = .ok ⟨.unknown, .engineSpecificationMissing,
      .json (targetEngine params), .text none⟩ := by
  rw [evaluateEngineType]
  exact if_pos ht

theorem evaluateEngineType_of_noRecords (ht : ¬(targetEngine params).truthy = false)
    (hne : s.installedEngines = []) :
    evaluateEngineType u params s = .ok ⟨.unknown, .noEngineRecords,
      .json (targetEngine params), .noRecords⟩ := by
  dsimp only [evaluateEngineType]
  rw [if_neg ht, if_pos hne]

theorem evaluateEngineType_answers (hw : EngineTyped params) (s : ConfigurationSnapshot) :
    Answers (evaluateEngineType u params s) := by
  by_cases ht : (targetEngine params).truthy = false
  · exact ⟨_, evaluateEngineType_of_falsy u ht s⟩
  · by_cases hne : s.installedEngines = []
    · exact ⟨_, evaluateEngineType_of_noRecords u ht hne⟩
    · obtain ⟨targets, hts⟩ := targetTexts_ok u hw.target ht
      obtain ⟨leaf, hleaf, -⟩ := evaluateEngineType_eq_scan u ht hts hne
      exact ⟨leaf, hleaf⟩

theorem evaluateEngineType_refines (hw : EngineTyped params) (hc : Completes s s') :
    Refines LeafResult.val (evaluateEngineType u params s) (evaluateEngineType u params s') := by
  by_cases ht : (targetEngine params).truthy = false
  · exact ⟨_, _, evaluateEngineType_of_falsy u ht s, evaluateEngineType_of_falsy u ht s',
      Le.refl _ _⟩
  · by_cases hne : s.installedEngines = []
    · exact Refines.of_unknown (evaluateEngineType_of_noRecords u ht hne) rfl
        (evaluateEngineType_answers u hw s')
    · have hall : List.Forall₂ FillsEngine s.installedEngines s'.installedEngines :=
        hc.installedEngines.resolve_left hne
      have hne' : s'.installedEngines ≠ [] := by
        intro hnil
        rw [hnil] at hall
        exact hne (List.forall₂_nil_right_iff.1 hall)
      obtain ⟨targets, hts⟩ := targetTexts_ok u hw.target ht
      obtain ⟨leaf, hleaf, hval⟩ := evaluateEngineType_eq_scan u ht hts hne
      obtain ⟨leaf', hleaf', hval'⟩ := evaluateEngineType_eq_scan u ht hts hne'
      refine ⟨leaf, leaf', hleaf, hleaf', ?_⟩
      rw [hval, hval']
      exact scanEngines_le u targets hall false false [] [] id

end Leaves

/-! ## The tree -/

theorem Refines.toNode {r r' : Except Error LeafResult} (h : Refines LeafResult.val r r')
    (id : UUID) (condType : List Char) (label : String) :
    Refines Prod.fst (r >>= fun leaf => pure (leaf.toNode id condType label))
      (r' >>= fun leaf => pure (leaf.toNode id condType label)) := by
  obtain ⟨leaf, leaf', rfl, rfl, hle⟩ := h
  exact ⟨_, _, rfl, rfl, hle⟩

/-- All children answer twice, verdict by verdict refined. -/
def RefinesAll (r r' : Except Error (List (KleeneValue × Trace))) : Prop :=
  ∃ xs xs', r = .ok xs ∧ r' = .ok xs' ∧
    List.Forall₂ (Le .unknown) (xs.map Prod.fst) (xs'.map Prod.fst)

section Tree

variable {s s' : ConfigurationSnapshot}

mutual

/-- **MONOTONE EVALUATION**: over the tree, one case for each condition type. -/
theorem evaluateNode_refines (hc : Completes s s') : ∀ node, WellTyped u node →
    Refines Prod.fst (evaluateNode u s node) (evaluateNode u s' node)
  | .mk id org conditionType label parameters children, hw => by
    obtain ⟨hparams, hchildren⟩ := hw
    unfold evaluateNode
    dsimp only
    split
    · obtain ⟨xs, xs', hxs, hxs', hle⟩ := evaluateChildren_refines hc children hchildren
      rw [hxs, hxs']
      exact ⟨_, _, rfl, rfl, kleeneAndAll_le hle⟩
    split
    · obtain ⟨xs, xs', hxs, hxs', hle⟩ := evaluateChildren_refines hc children hchildren
      rw [hxs, hxs']
      exact ⟨_, _, rfl, rfl, kleeneOrAll_le hle⟩
    split
    · match children, hchildren with
      | [], _ => exact ⟨_, _, rfl, rfl, Le.refl _ _⟩
      | child :: _, hchildren =>
        obtain ⟨x, x', hx, hx', hle⟩ := evaluateNode_refines hc child hchildren.1
        dsimp only
        rw [hx, hx']
        exact ⟨_, _, rfl, rfl, kleeneNot_le hle⟩
    split
    · next h => exact (evaluateAircraftVariant_refines u (hparams.variant h) hc).toNode id _ label
    split
    · next h => exact (evaluateMsnRange_refines u (hparams.msn h) hc).toNode id _ label
    split
    · next h => exact (evaluateEngineType_refines u (hparams.engine h) hc).toNode id _ label
    · exact ⟨_, _, rfl, rfl, Le.refl _ _⟩

theorem evaluateChildren_refines (hc : Completes s s') : ∀ children, WellTypedAll u children →
    RefinesAll (evaluateChildren u s children) (evaluateChildren u s' children)
  | [], _ => ⟨[], [], rfl, rfl, List.Forall₂.nil⟩
  | child :: children, hw => by
    obtain ⟨x, x', hx, hx', hle⟩ := evaluateNode_refines hc child hw.1
    obtain ⟨xs, xs', hxs, hxs', hall⟩ := evaluateChildren_refines hc children hw.2
    refine ⟨x :: xs, x' :: xs', ?_, ?_, List.Forall₂.cons hle hall⟩
    · rw [evaluateChildren, hx, hxs]
      rfl
    · rw [evaluateChildren, hx', hxs']
      rfl

end

/-- **STABLE VERDICTS**: on a well-typed tree both evaluations answer; a verdict TRUE or
FALSE is the same after missing data is filled in, so that no completion turns
APPLICABLE into NOT_APPLICABLE or back. -/
theorem verdict_stable (s s' : ConfigurationSnapshot) (hc : Completes s s')
    (node : ApplicabilityCondition) (hw : WellTyped u node) :
    ∃ x x', evaluateNode u s node = .ok x ∧ evaluateNode u s' node = .ok x' ∧
      (x.1 ≠ .unknown → x'.1 = x.1) ∧
      ∀ forceReview,
        ¬(systemResult forceReview x.1 = .applicable ∧
          systemResult forceReview x'.1 = .notApplicable) ∧
        ¬(systemResult forceReview x.1 = .notApplicable ∧
          systemResult forceReview x'.1 = .applicable) := by
  obtain ⟨x, x', hx, hx', hle⟩ := evaluateNode_refines u hc node hw
  refine ⟨x, x', hx, hx', hle.eq_of_ne, ?_⟩
  intro forceReview
  rcases hle with hunk | heq
  · -- an unknown verdict is neither APPLICABLE nor NOT_APPLICABLE
    rw [hunk]
    cases forceReview with
    | true => exact ⟨fun h => (nomatch h.1), fun h => (nomatch h.1)⟩
    | false => exact ⟨fun h => (nomatch h.1), fun h => (nomatch h.1)⟩
  · rw [heq]
    exact ⟨fun h => (nomatch h.1.symm.trans h.2), fun h => (nomatch h.1.symm.trans h.2)⟩

/-- An aircraft with an unrecorded engine model, under the rule "CFM56 and not an A320". -/
def partialSnapshot : ConfigurationSnapshot where
  aircraftId := some 7
  assetId := some 3
  registration := some "VT-AXH"
  msn := none
  aircraftType := some "A320-200"
  status := some "ACTIVE"
  installedEngines := [⟨21, "ENG 1", none, none, none⟩]
  snapshotTimestamp := 0

def engineAndNotVariant : ApplicabilityCondition :=
  .mk 1 1 "AND" "root" none
    [ .mk 2 1 "engine_type" "engine" (some [("engine_type", .str "CFM56")]) [],
      .mk 3 1 "NOT" "not A320" none
        [.mk 4 1 "AIRCRAFT_VARIANT" "A320" (some [("variants", .arr [.str "A320"])]) []] ]

/-- The same aircraft after its records were completed. -/
def completedSnapshot : ConfigurationSnapshot :=
  { partialSnapshot with
    msn := some "2210"
    installedEngines := [⟨21, "ENG 1", some "CFM56-5B", none, none⟩] }

theorem partialSnapshot_completes : Completes partialSnapshot completedSnapshot where
  aircraftType := Or.inr rfl
  msn := Or.inl rfl
  installedEngines := Or.inr (.cons ⟨Or.inl rfl, rfl⟩ .nil)
  rest := rfl

theorem engineAndNotVariant_wellTyped : WellTyped .ascii engineAndNotVariant := by
  have hnone : ∀ j : Json, j = .null → TextOrTexts j := fun _ h => Or.inl h
  refine ⟨⟨?_, ?_, ?_⟩, ⟨⟨?_, ?_, ?_⟩, trivial⟩, ⟨⟨?_, ?_, ?_⟩, ⟨⟨?_, ?_, ?_⟩, trivial⟩, trivial⟩,
    trivial⟩
  all_goals intro h
  -- a node is asked only for the parameters of its own condition type
  all_goals try exact absurd h (by decide)
  · intro key hkey
    rcases List.mem_cons.1 hkey with rfl | hkey
    · exact Or.inr (Or.inl ⟨_, rfl⟩)
    · rcases List.mem_cons.1 hkey with rfl | hkey
      · exact hnone _ rfl
      · rw [List.mem_singleton.1 hkey]
        exact hnone _ rfl
  · intro key hkey
    rcases List.mem_cons.1 hkey with rfl | hkey
    · exact hnone _ rfl
    · rcases List.mem_cons.1 hkey with rfl | hkey
      · exact Or.inr (Or.inr ⟨["A320"], rfl⟩)
      · rw [List.mem_singleton.1 hkey]
        exact hnone _ rfl

theorem verdict_stable_partialSnapshot :
    ∃ x', evaluateNode .ascii completedSnapshot engineAndNotVariant = .ok x' ∧
      x'.1 = .false := by
  obtain ⟨x, x', hx, hx', hstable, -⟩ := verdict_stable .ascii partialSnapshot completedSnapshot
    partialSnapshot_completes engineAndNotVariant engineAndNotVariant_wellTyped
  have hfalse : ((evaluateNode .ascii partialSnapshot engineAndNotVariant).toOption.map Prod.fst)
      = some .false := by decide
  rw [hx] at hfalse
  have hval : x.1 = .false := Option.some.inj hfalse
  exact ⟨x', hx', (hstable (by rw [hval]; decide)).trans hval⟩

end Tree

end ApplicabilityService
end AeroComply
