import AeroComply.Services.Evidence
import AeroComply.Services.Inspection
import AeroComply.Services.PartRequirement

/-!
# ReleaseReadiness — what blocks the release of a work order

`app/services/release_readiness_service.py`: an aggregation over the rows that
hang on a work order, one list of blockers for each category.
-/

namespace AeroComply

namespace ReleaseReadinessService

inductive BlockerCategory
  | taskExecution
  | evidence
  | inspection
  | material
  | compliance
  | finding
  deriving DecidableEq, Repr

structure Blocker where
  category : BlockerCategory
  description : Message
  relatedRecordId : Option UUID

inductive ReadinessStatus
  | ready
  | blocked
  deriving DecidableEq, Repr

structure ReleaseReadiness where
  workOrderId : UUID
  status : ReadinessStatus
  blockers : List Blocker

def tasksOf (db : Database) (organizationId workOrderId : UUID) : List Task :=
  db.tasks.select fun t => t.organizationId = organizationId && t.workOrderId = workOrderId

/-- The `TASK_EXECUTION` blockers. -/
def taskExecutionBlockers (tasks : List Task) : List Blocker :=
  (tasks.filter fun t => t.executionState ≠ TaskExecutionState.completed).map fun t =>
    { category := .taskExecution
      description := [.str ("Task is in execution_state=" ++ pyRepr t.executionState
        ++ ", not 'COMPLETED'")]
      relatedRecordId := some t.id }

def evidenceOf (db : Database) (organizationId : UUID) (tasks : List Task) : List Evidence :=
  db.evidence.select fun e =>
    e.organizationId = organizationId && tasks.any (fun t => e.taskId = some t.id)

/-- The `EVIDENCE` blockers: what is recorded and not accepted, and what is missing. -/
def evidenceBlockers (tasks : List Task) (rows : List Evidence) : List Blocker :=
  ((rows.filter fun e => !EvidenceService.satisfiesCompletionGate e.status).map fun e =>
    { category := .evidence
      description := [.str ("Evidence is in status=" ++ pyRepr e.status.value
        ++ ", not ACCEPTED")]
      relatedRecordId := some e.id }) ++
  ((tasks.filter fun t => t.evidenceRequired && rows.all (fun e => e.taskId ≠ some t.id)).map
    fun t =>
      { category := .evidence
        description := [.str "Task requires evidence but none has been submitted yet"]
        relatedRecordId := some t.id })

def inspectionsOf (db : Database) (organizationId workOrderId : UUID) (tasks : List Task) :
    List InspectionRequirement :=
  db.inspections.select fun r =>
    r.organizationId = organizationId &&
      (r.workOrderId = some workOrderId || tasks.any (fun t => r.taskId = some t.id))

/-- The `INSPECTION` blockers. -/
def inspectionBlockers (rows : List InspectionRequirement) : List Blocker :=
  (rows.filter fun r => !InspectionService.satisfiesCompletionGate r.status).map fun r =>
    { category := .inspection
      description := [.str ("Inspection requirement is in status=" ++ pyRepr r.status.value
        ++ ", not COMPLETED/NOT_REQUIRED")]
      relatedRecordId := some r.id }

/-- The material the work order needs. -/
def materialOf (db : Database) (organizationId workOrderId : UUID) : List PartRequirement :=
  db.partRequirements.select fun r =>
    r.organizationId = organizationId && r.workOrderId = workOrderId

/-- A requirement that is not settled and not covered. -/
def isShort (r : PartRequirement) : Bool :=
  !PartRequirementService.isSettled r.status && r.fulfilledQuantity < r.requiredQuantity

/-- The `MATERIAL` blocker of a requirement. -/
def materialBlocker (r : PartRequirement) : Blocker where
  category := .material
  description := [.str ("Part requirement is short: fulfilled_quantity="
    ++ toString r.fulfilledQuantity ++ " of required_quantity=" ++ toString r.requiredQuantity
    ++ " (status=" ++ pyRepr r.status ++ ")")]
  relatedRecordId := some r.id

def materialBlockers (rows : List PartRequirement) : List Blocker :=
  (rows.filter isShort).map materialBlocker

/-- The later of two assessments comes later by evaluation day, then by creation. -/
def isLater (candidate current : ComplianceAssessment) : Bool :=
  current.evaluatedAt < candidate.evaluatedAt ||
    (current.evaluatedAt = candidate.evaluatedAt && current.createdAt < candidate.createdAt)

/-- `latest_by_requirement`, one assessment further. -/
def noteAssessment (latest : List ComplianceAssessment) (a : ComplianceAssessment) :
    List ComplianceAssessment :=
  match latest.find? (fun current => current.requirementId = a.requirementId) with
  | none => latest ++ [a]
  | some current =>
    if isLater a current then
      latest.map (fun x => if x.requirementId = a.requirementId then a else x)
    else latest

/-- The `COMPLIANCE` blockers: the latest assessment of each requirement. -/
def complianceBlockers (db : Database) (organizationId : UUID) : Option UUID → List Blocker
  | none => []
  | some assetId =>
    let assessments := db.assessments.select fun a =>
      a.organizationId = organizationId && a.assetId = some assetId
    ((assessments.foldl noteAssessment []).filter fun a => a.status = .nonCompliant).map fun a =>
      { category := .compliance
        description := [.str ("Latest compliance assessment for this asset is "
          ++ "NON_COMPLIANT (requirement_id="), .uuid a.requirementId, .str ")"]
        relatedRecordId := some a.id }

/-- The `FINDING` blockers: not closed, on the work order or on what it is for. -/
def findingBlockers (db : Database) (organizationId : UUID) (workOrder : WorkOrder) :
    List Blocker :=
  (db.findings.select fun f =>
    f.organizationId = organizationId && f.status ≠ .closed &&
      (f.workOrderId = some workOrder.id ||
        (workOrder.assetId.isSome && f.assetId = workOrder.assetId) ||
        (workOrder.aircraftId.isSome && f.aircraftId = workOrder.aircraftId))).map fun f =>
    { category := .finding
      description := [.str ("Unresolved finding (" ++ f.severity.value ++ "): "
        ++ pyRepr f.title ++ " (status=" ++ pyRepr f.status.value ++ ")")]
      relatedRecordId := some f.id }

/-- All blockers, in the order of the categories. -/
def blockersOf (db : Database) (organizationId : UUID) (workOrder : WorkOrder) : List Blocker :=
  let tasks := tasksOf db organizationId workOrder.id
  taskExecutionBlockers tasks ++
    evidenceBlockers tasks (evidenceOf db organizationId tasks) ++
    inspectionBlockers (inspectionsOf db organizationId workOrder.id tasks) ++
    materialBlockers (materialOf db organizationId workOrder.id) ++
    complianceBlockers db organizationId workOrder.assetId ++
    findingBlockers db organizationId workOrder

/-- `get_release_readiness_for_work_order`. -/
def getReleaseReadiness (db : Database) (organizationId workOrderId : UUID) :
    Except Error ReleaseReadiness := do
  let workOrder ← db.getWorkOrder organizationId workOrderId
  let blockers := blockersOf db organizationId workOrder
  pure { workOrderId := workOrder.id
         status := if blockers.isEmpty then .ready else .blocked
         blockers }

end ReleaseReadinessService
end AeroComply
