import AeroComply.Lib.Table
import AeroComply.Core.Text

/-!
# Compliance — obligations, evidence, inspections, findings and the work they hang on

`app/models/compliance.py`, `evidence.py`, `inspection_requirement.py`,
`finding.py`, `task.py` and `work_order.py`.

`ComplianceObligation.status` is a text column that `update_obligation` writes
unchecked, so it is a `String` with the lifecycle states as constants.
`evidence_requirements` is a JSONB column: `none` is SQL NULL, which a filter
`IS NOT NULL` sees, and `some .null` is the JSON null an insert of `None` stores.
-/

namespace AeroComply

open Relational (Keyed)

structure RegulatoryRequirement where
  id : UUID
  organizationId : UUID
  requirementNumber : String
  title : String
  description : String

namespace ComplianceState

def notEvaluated : String := "NOT_EVALUATED"
def notApplicable : String := "NOT_APPLICABLE"
def pending : String := "PENDING"
def due : String := "DUE"
def overdue : String := "OVERDUE"
def inProgress : String := "IN_PROGRESS"
def compliant : String := "COMPLIANT"
def nonCompliant : String := "NON_COMPLIANT"
def blocked : String := "BLOCKED"
def reviewRequired : String := "REVIEW_REQUIRED"

end ComplianceState

structure ComplianceObligation where
  id : UUID
  organizationId : UUID
  requirementId : UUID
  ruleId : Option UUID := none
  assetId : Option UUID := none
  aircraftId : Option UUID := none
  applicabilityEvaluationId : Option UUID := none
  status : String := ComplianceState.notEvaluated
  priority : String := "MEDIUM"
  dueDate : Option Date := none
  recurrence : Option String := none
  responsibleRole : Option String := none
  assignedUserId : Option UUID := none
  requiredAction : Option String := none
  evidenceRequirements : Option Json := none
  completedAt : Option DateTime := none
  verifiedAt : Option DateTime := none
  notes : Option String := none

inductive EvidenceStatus
  | required
  | uploaded
  | submitted
  | awaitingReview
  | accepted
  | rejected
  deriving DecidableEq, Repr

def EvidenceStatus.value : EvidenceStatus → String
  | .required => "REQUIRED"
  | .uploaded => "UPLOADED"
  | .submitted => "SUBMITTED"
  | .awaitingReview => "AWAITING_REVIEW"
  | .accepted => "ACCEPTED"
  | .rejected => "REJECTED"

inductive VerificationStatus
  | unverified
  | verified
  | rejected
  deriving DecidableEq, Repr

structure Evidence where
  id : UUID
  organizationId : UUID
  taskId : Option UUID := none
  complianceObligationId : Option UUID := none
  regulatoryRequirementId : Option UUID := none
  assetId : Option UUID := none
  aircraftId : Option UUID := none
  componentId : Option UUID := none
  inspectionRequirementId : Option UUID := none
  findingId : Option UUID := none
  workOrderId : Option UUID := none
  title : Option String := none
  description : Option String := none
  evidenceType : String := "INSPECTION_RECORD"
  source : Option String := none
  capturedAt : Option DateTime := none
  uploadedByUserId : Option UUID := none
  status : EvidenceStatus := .required
  reviewerUserId : Option UUID := none
  rejectionReason : Option String := none
  verificationStatus : VerificationStatus := .unverified
  verifiedAt : Option DateTime := none
  verifierUserId : Option UUID := none
  verificationNotes : Option String := none
  provenance : Option Json := none

/-- What has become of the object behind an evidence file. -/
inductive EvidenceFileStatus
  | pending
  | stored
  | failed
  | deleted
  deriving DecidableEq, Repr

def EvidenceFileStatus.value : EvidenceFileStatus → String
  | .pending => "PENDING"
  | .stored => "STORED"
  | .failed => "FAILED"
  | .deleted => "DELETED"

/-- A row of `evidence_files`. -/
structure EvidenceFile where
  id : UUID
  organizationId : UUID
  evidenceId : UUID
  uploadedByUserId : UUID
  originalFilename : String
  contentType : String
  sizeBytes : Int
  storageKey : String
  checksumSha256 : Option String := none
  status : EvidenceFileStatus := .pending
  deletedAt : Option DateTime := none

inductive InspectionRequirementStatus
  | pending
  | notRequired
  | completed
  | rejected
  deriving DecidableEq, Repr

def InspectionRequirementStatus.value : InspectionRequirementStatus → String
  | .pending => "PENDING"
  | .notRequired => "NOT_REQUIRED"
  | .completed => "COMPLETED"
  | .rejected => "REJECTED"

structure InspectionRequirement where
  id : UUID
  organizationId : UUID
  taskId : Option UUID := none
  workOrderId : Option UUID := none
  complianceObligationId : Option UUID := none
  regulatoryRequirementId : Option UUID := none
  required : Bool := true
  inspectorUserId : Option UUID := none
  status : InspectionRequirementStatus := .pending
  rejectionReason : Option String := none

inductive FindingSeverity
  | critical
  | major
  | minor
  | observation
  | informational
  deriving DecidableEq, Repr

def FindingSeverity.value : FindingSeverity → String
  | .critical => "CRITICAL"
  | .major => "MAJOR"
  | .minor => "MINOR"
  | .observation => "OBSERVATION"
  | .informational => "INFORMATIONAL"

inductive FindingStatus
  | open
  | inProgress
  | closed
  deriving DecidableEq, Repr

def FindingStatus.value : FindingStatus → String
  | .open => "OPEN"
  | .inProgress => "IN_PROGRESS"
  | .closed => "CLOSED"

structure Finding where
  id : UUID
  organizationId : UUID
  aircraftId : Option UUID := none
  assetId : Option UUID := none
  componentId : Option UUID := none
  inspectionRequirementId : Option UUID := none
  workOrderId : Option UUID := none
  taskId : Option UUID := none
  complianceObligationId : Option UUID := none
  regulatoryRequirementId : Option UUID := none
  safetySignificance : Option String := none
  complianceRelevance : Option String := none
  title : String
  description : String
  severity : FindingSeverity
  status : FindingStatus := .open
  createdAt : DateTime := 0

namespace TaskExecutionState

def pending : String := "PENDING"
def inProgress : String := "IN_PROGRESS"
def completed : String := "COMPLETED"

end TaskExecutionState

/-- `execution_state` is a text column that `create_task` writes unchecked. -/
structure Task where
  id : UUID
  organizationId : UUID
  workOrderId : UUID
  taskNumber : Option String := none
  title : Option String := none
  description : String := ""
  executionState : String := TaskExecutionState.pending
  assignedTechnicianUserId : Option UUID := none
  evidenceRequired : Bool := false
  estimatedHours : Option ℚ := none
  actualHours : Option ℚ := none
  completedAt : Option DateTime := none
  sequence : Int := 1
  notes : Option String := none
  createdAt : DateTime := 0

/-- The ten statuses, and any other text: the column is free text, and `create_work_order`
writes what the payload says. -/
inductive WorkOrderStatus
  | draft
  | open
  | planned
  | assigned
  | inProgress
  | onHold
  | inspection
  | completed
  | closed
  | cancelled
  | other (text : String)
  deriving DecidableEq, Repr

namespace WorkOrderStatus

/-- What a text stands for. -/
def ofText (text : String) : WorkOrderStatus :=
  match text with
  | "DRAFT" => .draft
  | "OPEN" => .open
  | "PLANNED" => .planned
  | "ASSIGNED" => .assigned
  | "IN_PROGRESS" => .inProgress
  | "ON_HOLD" => .onHold
  | "INSPECTION" => .inspection
  | "COMPLETED" => .completed
  | "CLOSED" => .closed
  | "CANCELLED" => .cancelled
  | text => .other text

def value : WorkOrderStatus → String
  | .draft => "DRAFT"
  | .open => "OPEN"
  | .planned => "PLANNED"
  | .assigned => "ASSIGNED"
  | .inProgress => "IN_PROGRESS"
  | .onHold => "ON_HOLD"
  | .inspection => "INSPECTION"
  | .completed => "COMPLETED"
  | .closed => "CLOSED"
  | .cancelled => "CANCELLED"
  | .other text => text

end WorkOrderStatus

structure WorkOrder where
  id : UUID
  organizationId : UUID
  aircraftId : Option UUID := none
  assetId : Option UUID := none
  workOrderNumber : String := ""
  title : String := "Untitled Work Order"
  description : Option String := none
  workOrderType : String := "CORRECTIVE"
  maintenanceCategory : Option String := none
  status : WorkOrderStatus := .open
  priority : String := "NORMAL"
  scheduledStart : Option DateTime := none
  scheduledEnd : Option DateTime := none
  actualStart : Option DateTime := none
  actualEnd : Option DateTime := none
  dueAt : Option DateTime := none
  estimatedHours : Option ℚ := none
  actualHours : Option ℚ := none
  estimatedCost : Option ℚ := none
  actualCost : Option ℚ := none
  assignedToUserId : Option UUID := none
  location : Option String := none
  sourceType : Option String := none
  sourceReference : Option String := none
  complianceRequired : Bool := false
  complianceReference : Option String := none
  createdByUserId : Option UUID := none
  createdAt : DateTime := 0
  completedAt : Option DateTime := none
  closedAt : Option DateTime := none
  cancelledAt : Option DateTime := none
  cancellationReason : Option String := none
  deletedAt : Option DateTime := none
  deletedBy : Option UUID := none
  deletionReason : Option String := none

/-- `ComplianceAssessmentStatus`: only NON_COMPLIANT is looked for. -/
inductive ComplianceAssessmentStatus
  | compliant
  | nonCompliant
  | reviewRequired
  | unknown
  deriving DecidableEq, Repr

structure ComplianceAssessment where
  id : UUID
  organizationId : UUID
  aircraftId : Option UUID := none
  assetId : Option UUID := none
  requirementId : UUID
  status : ComplianceAssessmentStatus := .unknown
  evaluatedAt : Date
  notes : Option String := none
  createdAt : DateTime := 0

instance : Keyed RegulatoryRequirement UUID := ⟨RegulatoryRequirement.id⟩
instance : Keyed ComplianceObligation UUID := ⟨ComplianceObligation.id⟩
instance : Keyed Evidence UUID := ⟨Evidence.id⟩
instance : Keyed EvidenceFile UUID := ⟨EvidenceFile.id⟩
instance : Keyed InspectionRequirement UUID := ⟨InspectionRequirement.id⟩
instance : Keyed Finding UUID := ⟨Finding.id⟩
instance : Keyed Task UUID := ⟨Task.id⟩
instance : Keyed WorkOrder UUID := ⟨WorkOrder.id⟩
instance : Keyed ComplianceAssessment UUID := ⟨ComplianceAssessment.id⟩

end AeroComply
