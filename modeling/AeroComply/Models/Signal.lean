import AeroComply.Lib.Table
import AeroComply.Core.Base

/-!
# Signal — the stored signals of the proactive engine

`app/models/proactive_signal.py` and the lists of `app/schemas/intelligence_signal.py`.
Type, severity and priority are text columns, which a response checks against the
lists; the status is one of the five.
-/

namespace AeroComply

open Relational (Keyed)

/-- `SignalType`. -/
def signalTypes : List String :=
  ["MAINTENANCE_THRESHOLD", "INSPECTION_THRESHOLD", "COMPONENT_LIFE_LIMIT", "RECURRING_FINDING",
    "UTILIZATION_TREND", "COMPLIANCE_RISK", "EVIDENCE_GAP", "READINESS_DEGRADATION",
    "FLEET_PATTERN"]

/-- `SignalSeverity`, and `SignalPriority`. -/
def signalSeverities : List String := ["CRITICAL", "HIGH", "MEDIUM", "LOW"]

inductive SignalStatus
  | open
  | acknowledged
  | inReview
  | resolved
  | dismissed
  deriving DecidableEq, Repr

namespace SignalStatus

def value : SignalStatus → String
  | .open => "OPEN"
  | .acknowledged => "ACKNOWLEDGED"
  | .inReview => "IN_REVIEW"
  | .resolved => "RESOLVED"
  | .dismissed => "DISMISSED"

/-- `status not in ("RESOLVED", "DISMISSED")`. -/
def isActive : SignalStatus → Bool
  | .open | .acknowledged | .inReview => true
  | .resolved | .dismissed => false

end SignalStatus

structure ProactiveSignalRecord where
  id : UUID
  organizationId : UUID
  signalKey : String
  signalType : String
  severity : String
  priority : String
  status : SignalStatus := .open
  assetId : Option UUID := none
  detectedAt : DateTime
  acknowledgedByUserId : Option UUID := none
  acknowledgedAt : Option DateTime := none
  resolvedByUserId : Option UUID := none
  resolvedAt : Option DateTime := none
  resolutionNotes : Option String := none
  dismissedByUserId : Option UUID := none
  dismissedAt : Option DateTime := none
  dismissalReason : Option String := none
  deriving DecidableEq

instance : Keyed ProactiveSignalRecord UUID := ⟨ProactiveSignalRecord.id⟩

end AeroComply
