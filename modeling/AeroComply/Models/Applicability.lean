import AeroComply.Lib.Table
import AeroComply.Core.Text
import AeroComply.Applicability.Kleene

/-!
# Applicability — rules, condition trees and evaluation records

`app/models/applicability.py`.  A condition carries its `children` relationship,
in `sequence` order, so a root condition is a whole tree.  `configuration_snapshot`
and `reasoning_trace` are the dictionaries the evaluator builds, with one field
for each key.
-/

namespace AeroComply

open Relational (Keyed)

inductive EvaluationResult
  | applicable
  | notApplicable
  | insufficientData
  | reviewRequired
  deriving DecidableEq, Repr

structure ApplicabilityRule where
  id : UUID
  organizationId : UUID
  ruleCode : String
  regulatoryRequirementId : Option UUID := none
  isActive : Bool := true
  rootConditionId : Option UUID := none

instance : Keyed ApplicabilityRule UUID := ⟨ApplicabilityRule.id⟩

/-- A node of a condition tree with its `children`. -/
inductive ApplicabilityCondition
  | mk (id organizationId : UUID) (conditionType label : String)
      (parameters : Option (List (String × Json))) (children : List ApplicabilityCondition)

namespace ApplicabilityCondition

def id : ApplicabilityCondition → UUID
  | mk id _ _ _ _ _ => id

def organizationId : ApplicabilityCondition → UUID
  | mk _ organizationId _ _ _ _ => organizationId

end ApplicabilityCondition

instance : Keyed ApplicabilityCondition UUID := ⟨ApplicabilityCondition.id⟩

structure InstalledEngine where
  componentId : UUID
  name : String
  model : Option String
  manufacturer : Option String
  serialNumber : Option String

structure ConfigurationSnapshot where
  aircraftId : Option UUID
  assetId : Option UUID
  registration : Option String
  msn : Option String
  aircraftType : Option String
  status : Option String
  installedEngines : List InstalledEngine
  snapshotTimestamp : DateTime

/-- An `expected` or `actual` entry of a trace node. -/
inductive TraceValue
  | json (value : Json)
  | text (value : Option String)
  | range (min max : Json)
  | int (value : Nat)
  | models (values : List (Option String))
  | noRecords

/-- The `reason` of a trace node, with the values its text shows. -/
inductive TraceReason
  | kleeneAnd (count : Nat) (val : KleeneValue)
  | kleeneOr (count : Nat) (val : KleeneValue)
  | notWithoutChild
  | kleeneNot (child val : KleeneValue)
  | missingAircraftType
  | missingVariant
  | variantMatches (actual : String) (target : Json)
  | variantDoesNotMatch (actual : String) (target : Json)
  | msnMissing
  | msnRangeUnspecified
  | msnNotNumeric (actual : String)
  | msnOutside (msn : Nat) (min max : Json)
  | msnWithin (msn : Nat) (min max : Json)
  | engineSpecificationMissing
  | noEngineRecords
  | engineMatches (target : Json)
  | engineModelsIncomplete
  | enginesDoNotMatch (models : List (Option String)) (target : Json)
  | unsupported (conditionType : List Char)

inductive Trace
  | node (conditionId : UUID) (conditionType : List Char) (label : String) (result : KleeneValue)
      (reason : TraceReason) (compared : Option (TraceValue × TraceValue)) (children : List Trace)

structure ReasoningTrace where
  ruleId : UUID
  ruleCode : String
  result : KleeneValue
  rootNode : Option Trace

structure ApplicabilityEvaluation where
  id : UUID
  organizationId : UUID
  ruleId : UUID
  aircraftId : Option UUID
  assetId : Option UUID
  evaluatedByUserId : Option UUID
  systemResult : EvaluationResult
  configurationSnapshot : ConfigurationSnapshot
  reasoningTrace : ReasoningTrace
  notes : Option String

instance : Keyed ApplicabilityEvaluation UUID := ⟨ApplicabilityEvaluation.id⟩

end AeroComply
