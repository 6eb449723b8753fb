import AeroComply.Lib.Latest
import AeroComply.Services.WorkOrder

/-!
# ProactiveAlerts — the alerts of a tenant

`app/services/proactive_service.py`: one pass over the AOG events, the work orders, the deferred items
and the compliance assessments, sorted by severity.  The work orders are the first page of their
listing, and the assessments are all there ever were.
-/

namespace AeroComply

namespace ReleaseReadinessService

def BlockerCategory.value : BlockerCategory → String
  | .taskExecution => "TASK_EXECUTION"
  | .evidence => "EVIDENCE"
  | .inspection => "INSPECTION"
  | .material => "MATERIAL"
  | .compliance => "COMPLIANCE"
  | .finding => "FINDING"

end ReleaseReadinessService

namespace ComplianceService

def listAllAssessments (db : Database) (organizationId : UUID) : List ComplianceAssessment :=
  db.assessments.select fun a => a.organizationId = organizationId

end ComplianceService

namespace ProactiveService

open ReleaseReadinessService (Blocker BlockerCategory getReleaseReadiness)
open WorkOrderService (listWorkOrders)

inductive AlertCategory
  | aog
  | partShortage
  | releaseBlocker
  | deferredMel
  | compliance
  deriving DecidableEq, Repr

inductive AlertSeverity
  | critical
  | high
  | medium
  deriving DecidableEq, Repr

/-- `_SEVERITY_ORDER`. -/
def AlertSeverity.order : AlertSeverity → Nat
  | .critical => 0
  | .high => 1
  | .medium => 2

structure ProactiveAlert where
  id : Message
  category : AlertCategory
  severity : AlertSeverity
  title : Message
  message : Message
  sourceType : String
  sourceId : UUID
  aircraftId : Option UUID
  workOrderId : Option UUID := none

/-! ## The alerts of each source -/

/-- The alert of an AOG event; an aircraft that cannot be resolved is skipped. -/
def aogAlert (db : Database) (organizationId : UUID) (event : AogEvent) :
    Except Error (Option ProactiveAlert) :=
  match db.getAircraft organizationId event.aircraftId with
  | .ok aircraft => .ok (some
      { id := [.str "aog-", .uuid event.id]
        category := .aog
        severity := .critical
        title := [.str aircraft.registration, .str " is AOG"]
        message := [.str (ObligationService.textOr "AOG event declared, no root cause on file."
          event.rootCause)]
        sourceType := "AogEvent"
        sourceId := event.id
        aircraftId := some event.aircraftId })
  | .error (.notFound _) => .ok none
  | .error e => .error e

def openAogEvents (db : Database) (organizationId : UUID) : List AogEvent :=
  (db.aogEvents.select fun e => e.organizationId = organizationId).filter fun e =>
    e.status = .declared || e.status = .inRecovery

def shortageAlert (workOrder : WorkOrder) (requirement : PartRequirement) : ProactiveAlert where
  id := [.str "shortage-", .uuid requirement.id]
  category := .partShortage
  severity := .high
  title := [.str "Part shortage on ", .str workOrder.workOrderNumber]
  message := [.str ("Requires " ++ toString requirement.requiredQuantity ++ ", "
    ++ toString requirement.fulfilledQuantity ++ " fulfilled — SHORT.")]
  sourceType := "PartRequirement"
  sourceId := requirement.id
  aircraftId := workOrder.aircraftId
  workOrderId := some workOrder.id

/-- `sorted({b.category for b in blockers})`. -/
def sortedCategories (blockers : List Blocker) : List BlockerCategory :=
  [.compliance, .evidence, .finding, .inspection, .material, .taskExecution].filter fun category =>
    blockers.any fun b => b.category = category

def releaseBlockerAlert (workOrder : WorkOrder) (blockers : List Blocker) : ProactiveAlert where
  id := [.str "release-blocker-", .uuid workOrder.id]
  category := .releaseBlocker
  severity := .high
  title := [.str workOrder.workOrderNumber, .str " is BLOCKED for release"]
  message := [.count blockers.length, .str (" blocker(s): "
    ++ ", ".intercalate ((sortedCategories blockers).map BlockerCategory.value) ++ ".")]
  sourceType := "WorkOrder"
  sourceId := workOrder.id
  aircraftId := workOrder.aircraftId
  workOrderId := some workOrder.id

/-- The alerts of a work order: its shortages, and its blocked release. -/
def workOrderAlerts (db : Database) (organizationId : UUID) (workOrder : WorkOrder) :
    Except Error (List ProactiveAlert) := do
  let requirements := PartRequirementService.listPartRequirementsForWorkOrder db organizationId
    workOrder.id
  let shortages := (requirements.filter fun r => r.status = PartRequirementStatus.short).map
    (shortageAlert workOrder)
  let readiness ← getReleaseReadiness db organizationId workOrder.id
  if readiness.status = .blocked then
    pure (shortages ++ [releaseBlockerAlert workOrder readiness.blockers])
  else pure shortages

/-- The work orders that are looked at. -/
def openWorkOrders (db : Database) (organizationId : UUID) : List WorkOrder :=
  (listWorkOrders db organizationId).1.filter fun w => w.status ≠ .completed

/-- The alert of a deferred item that is overdue, or due within 30 days. -/
def deferredAlert (today : Date) (item : DeferredItem) : Option ProactiveAlert :=
  match item.dueAt with
  | none => none
  | some dueAt =>
    let alert (severity : AlertSeverity) (title : String) (message : Message) : ProactiveAlert :=
      { id := [.str "deferred-", .uuid item.id]
        category := .deferredMel
        severity
        title := [.str "Deferred item ", .str title]
        message
        sourceType := "DeferredItem"
        sourceId := item.id
        aircraftId := some item.aircraftId }
    if dueAt - today < 0 then
      some (alert .critical "overdue" [.str "Due date ", .date dueAt, .str " has passed."])
    else if dueAt - today ≤ 30 then
      some (alert .medium "due soon" [.str "Due date ", .date dueAt, .str " is within 30 days."])
    else none

/-- `list_fleet_deferred_items`, of the open ones. -/
def openDeferredItems (db : Database) (organizationId : UUID) : List DeferredItem :=
  db.deferredItems.select fun i => i.organizationId = organizationId && i.status = .open

def complianceAlert (assessment : ComplianceAssessment) : ProactiveAlert where
  id := [.str "compliance-", .uuid assessment.id]
  category := .compliance
  severity := .high
  title := [.str "Non-compliant assessment"]
  message := [.str (ObligationService.textOr "Assessment marked NON_COMPLIANT." assessment.notes)]
  sourceType := "ComplianceAssessment"
  sourceId := assessment.id
  aircraftId := assessment.aircraftId

/-- The alerts of the assessments, superseded or not. -/
def complianceAlerts (db : Database) (organizationId : UUID) : List ProactiveAlert :=
  ((ComplianceService.listAllAssessments db organizationId).filter fun a =>
    a.status = .nonCompliant).map complianceAlert

def getProactiveAlerts (db : Database) (organizationId : UUID) (today : Date) :
    Except Error (List ProactiveAlert) := do
  let aog ← (openAogEvents db organizationId).mapM (aogAlert db organizationId)
  let workOrders ← (openWorkOrders db organizationId).mapM (workOrderAlerts db organizationId)
  let alerts := aog.reduceOption ++ workOrders.flatten
    ++ (openDeferredItems db organizationId).filterMap (deferredAlert today)
    ++ complianceAlerts db organizationId
  pure (alerts.insertionSort fun a a' => a.severity.order ≤ a'.severity.order)

end ProactiveService
end AeroComply
