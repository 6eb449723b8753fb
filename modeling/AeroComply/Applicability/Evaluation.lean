import Mathlib.Data.List.Infix
import AeroComply.Models.Applicability

/-!
# Evaluation — a condition tree against a configuration snapshot

`_evaluate_node` of `app/services/applicability/evaluation_service.py`.  A leaf
reads one part of the snapshot and reports UNKNOWN when that part, or the rule's
own parameter, is missing; AND, OR and NOT combine the verdicts of the children.
-/

namespace AeroComply

namespace ApplicabilityService

variable (u : UnicodeTables)

/-- A leaf's verdict and what its trace node says of it. -/
structure LeafResult where
  val : KleeneValue
  reason : TraceReason
  expected : TraceValue
  actual : TraceValue

/-- The text in a column that may be NULL or empty. -/
def presentText : Option String → Option String
  | some text => if text = "" then none else some text
  | none => none

/-- One target, or each target of a list, stripped and in upper case. -/
def targetTexts : Json → Except Error (List (List Char))
  | .arr items => items.mapM fun
    | .str t => .ok (u.normalize t)
    | _ => .error .attributeError
  | .str t => .ok [u.normalize t]
  | _ => .error .attributeError

/-! ## AIRCRAFT_VARIANT -/

/-- Exact match, prefix or family match, or one of the dash-separated parts. -/
def variantMatches (actualNorm t : List Char) : Bool :=
  actualNorm = t || (t ++ ['-']).isPrefixOf actualNorm || (t ++ [' ']).isPrefixOf actualNorm
    || (actualNorm.splitOn '-').contains t

def targetVariant (params : List (String × Json)) : Json :=
  ((paramsGet params "variant").or (paramsGet params "variants")).or (paramsGet params "model")

def evaluateAircraftVariant (params : List (String × Json)) (snapshot : ConfigurationSnapshot) :
    Except Error LeafResult :=
  let target := targetVariant params
  match presentText snapshot.aircraftType with
  | none => .ok ⟨.unknown, .missingAircraftType, .json target, .text snapshot.aircraftType⟩
  | some actualType =>
    if target.truthy = false then
      .ok ⟨.unknown, .missingVariant, .json target, .text (some actualType)⟩
    else do
      let targets ← targetTexts u target
      if targets.any (variantMatches (u.normalize actualType)) then
        pure ⟨.true, .variantMatches actualType target, .json target, .text (some actualType)⟩
      else
        pure ⟨.false, .variantDoesNotMatch actualType target, .json target,
          .text (some actualType)⟩

/-! ## MSN_RANGE -/

/-- The number a bound is compared as; Python compares `True` and `False` as 1 and 0. -/
def asNumber : Json → Except Error ℚ
  | .num q => .ok q
  | .bool b => .ok (if b then 1 else 0)
  | _ => .error .typeError

/-- `min_msn is not None and msn_num < min_msn`. -/
def isBelow (msnNum : Nat) (minMsn : Json) : Except Error Bool :=
  if minMsn.isNone then .ok false
  else do
    let bound ← asNumber minMsn
    pure ((msnNum : ℚ) < bound)

/-- `max_msn is not None and msn_num > max_msn`. -/
def isAbove (msnNum : Nat) (maxMsn : Json) : Except Error Bool :=
  if maxMsn.isNone then .ok false
  else do
    let bound ← asNumber maxMsn
    pure (bound < (msnNum : ℚ))

/-- `params.get(key) if params.get(key) is not None else params.get(fallback)`. -/
def msnBound (params : List (String × Json)) (key fallback : String) : Json :=
  if (paramsGet params key).isNone then paramsGet params fallback else paramsGet params key

def evaluateMsnRange (params : List (String × Json)) (snapshot : ConfigurationSnapshot) :
    Except Error LeafResult :=
  let minMsn := msnBound params "min_msn" "min"
  let maxMsn := msnBound params "max_msn" "max"
  match snapshot.msn with
  | none => .ok ⟨.unknown, .msnMissing, .range minMsn maxMsn, .text none⟩
  | some actualMsn =>
    if minMsn.isNone && maxMsn.isNone then
      .ok ⟨.unknown, .msnRangeUnspecified, .range minMsn maxMsn, .text (some actualMsn)⟩
    else
      match (u.findDigits actualMsn.toList).getLast? with
      | none =>
        .ok ⟨.unknown, .msnNotNumeric actualMsn, .range minMsn maxMsn, .text (some actualMsn)⟩
      | some digits => do
        let msnNum := intOfDigits digits
        let below ← isBelow msnNum minMsn
        let above ← isAbove msnNum maxMsn
        if below || above then
          pure ⟨.false, .msnOutside msnNum minMsn maxMsn, .range minMsn maxMsn, .int msnNum⟩
        else
          pure ⟨.true, .msnWithin msnNum minMsn maxMsn, .range minMsn maxMsn, .int msnNum⟩

/-! ## ENGINE_TYPE -/

/-- The model names a target when either text contains the other. -/
def engineMatches (targets : List (List Char)) (model : String) : Bool :=
  targets.any fun t =>
    decide (t <:+: u.normalize model) || decide (u.normalize model <:+: t)

/-- The loop over the engines: `matched`, `has_unknown_model` and `engine_models`. -/
def scanEngines (targets : List (List Char)) :
    List InstalledEngine → Bool → List (Option String) → Bool × Bool × List (Option String)
  | [], hasUnknownModel, engineModels => (false, hasUnknownModel, engineModels)
  | eng :: engines, hasUnknownModel, engineModels =>
    match presentText eng.model with
    | none => scanEngines targets engines true (engineModels ++ [eng.model])
    | some m =>
      -- the loop breaks at the first match, so later models are neither read nor reported
      if engineMatches u targets m then (true, hasUnknownModel, engineModels ++ [eng.model])
      else scanEngines targets engines hasUnknownModel (engineModels ++ [eng.model])

def targetEngine (params : List (String × Json)) : Json :=
  ((paramsGet params "engine_type").or (paramsGet params "model")).or
    (paramsGet params "engine_types")

def evaluateEngineType (params : List (String × Json)) (snapshot : ConfigurationSnapshot) :
    Except Error LeafResult :=
  let target := targetEngine params
  if target.truthy = false then
    .ok ⟨.unknown, .engineSpecificationMissing, .json target, .text none⟩
  else if snapshot.installedEngines = [] then
    .ok ⟨.unknown, .noEngineRecords, .json target, .noRecords⟩
  else do
    let targets ← targetTexts u target
    match scanEngines u targets snapshot.installedEngines false [] with
    | (true, _, engineModels) =>
      pure ⟨.true, .engineMatches target, .json target, .models engineModels⟩
    | (false, true, engineModels) =>
      pure ⟨.unknown, .engineModelsIncomplete, .json target, .models engineModels⟩
    | (false, false, engineModels) =>
      pure ⟨.false, .enginesDoNotMatch engineModels target, .json target, .models engineModels⟩

/-! ## The tree -/

def LeafResult.toNode (leaf : LeafResult) (id : UUID) (condType : List Char) (label : String) :
    KleeneValue × Trace :=
  (leaf.val, .node id condType label leaf.val leaf.reason (some (leaf.expected, leaf.actual)) [])

mutual

def evaluateNode (snapshot : ConfigurationSnapshot) :
    ApplicabilityCondition → Except Error (KleeneValue × Trace)
  | .mk id _ conditionType label parameters children =>
    let condType := u.upperText conditionType.toList
    let params := parameters.getD []
    if condType = "AND".toList then do
      let childResults ← evaluateChildren snapshot children
      let val := kleeneAndAll (childResults.map Prod.fst)
      pure (val, .node id condType label val (.kleeneAnd childResults.length val) none
        (childResults.map Prod.snd))
    else if condType = "OR".toList then do
      let childResults ← evaluateChildren snapshot children
      let val := kleeneOrAll (childResults.map Prod.fst)
      pure (val, .node id condType label val (.kleeneOr childResults.length val) none
        (childResults.map Prod.snd))
    else if condType = "NOT".toList then
      match children with
      | [] => .ok (.unknown, .node id condType label .unknown .notWithoutChild none [])
      | child :: _ => do
        let (childVal, childTrace) ← evaluateNode snapshot child
        let val := kleeneNot childVal
        pure (val, .node id condType label val (.kleeneNot childVal val) none [childTrace])
    else if condType = "AIRCRAFT_VARIANT".toList then do
      let leaf ← evaluateAircraftVariant u params snapshot
      pure (leaf.toNode id condType label)
    else if condType = "MSN_RANGE".toList then do
      let leaf ← evaluateMsnRange u params snapshot
      pure (leaf.toNode id condType label)
    else if condType = "ENGINE_TYPE".toList then do
      let leaf ← evaluateEngineType u params snapshot
      pure (leaf.toNode id condType label)
    else
      .ok (.unknown, .node id condType label .unknown (.unsupported condType) none [])

/-- `[_evaluate_node(child, snapshot) for child in node.children]`. -/
def evaluateChildren (snapshot : ConfigurationSnapshot) :
    List ApplicabilityCondition → Except Error (List (KleeneValue × Trace))
  | [] => .ok []
  | child :: children => do
    let result ← evaluateNode snapshot child
    let results ← evaluateChildren snapshot children
    pure (result :: results)

end

/-- The `system_result` of an evaluation. -/
def systemResult (forceReview : Bool) (overallKleene : KleeneValue) : EvaluationResult :=
  if forceReview then .reviewRequired
  else if overallKleene = .true then .applicable
  else if overallKleene = .false then .notApplicable
  else .insufficientData

end ApplicabilityService
end AeroComply
