import AeroComply.Services.ProactiveAlerts
import AeroComply.Services.Procurement
import AeroComply.Services.Tat
import AeroComply.Services.Technician

/-!
# AogRecovery — what keeps an aircraft on the ground

`app/services/aog_recovery_service.py`: the status of the active AOG event of an
aircraft, put together from the services that own the facts.  It reads only.
-/

namespace AeroComply

namespace AogRecoveryService

open ReleaseReadinessService (Blocker BlockerCategory ReadinessStatus ReleaseReadiness
  getReleaseReadiness)
open TechnicianService (checkAuthorization)

/-- The categories of a recovery blocker: those of the release, and its own. -/
inductive RecoveryCategory
  | release (category : BlockerCategory)
  | materialNotRequested
  | materialAwaitingApproval
  | materialPoNotSent
  | materialAwaitingReceipt
  | materialShort
  | technician
  | eventBlocker
  deriving DecidableEq, Repr

namespace RecoveryCategory

def value : RecoveryCategory → String
  | release category => category.value
  | materialNotRequested => "MATERIAL_NOT_REQUESTED"
  | materialAwaitingApproval => "MATERIAL_AWAITING_APPROVAL"
  | materialPoNotSent => "MATERIAL_PO_NOT_SENT"
  | materialAwaitingReceipt => "MATERIAL_AWAITING_RECEIPT"
  | materialShort => "MATERIAL_SHORT"
  | technician => "TECHNICIAN"
  | eventBlocker => "EVENT_BLOCKER"

/-- `_CATEGORY_PRIORITY.get(category, 99)`. -/
def priority : RecoveryCategory → Nat
  | materialNotRequested => 0
  | materialAwaitingApproval => 1
  | materialPoNotSent => 2
  | materialAwaitingReceipt => 3
  | materialShort => 4
  | release .inspection => 5
  | release .evidence => 6
  | release .taskExecution => 7
  | technician => 8
  | eventBlocker => 9
  | release .material | release .compliance | release .finding => 99

end RecoveryCategory

structure RecoveryBlocker where
  category : RecoveryCategory
  description : Message
  recordType : String
  recordId : Option Message
  whoShouldAct : String
  dependency : String

inductive StageName
  | part
  | procurement
  | purchaseOrder
  | receiving
  | execution
  | evidence
  | inspectionRii
  | technician
  | releaseReadiness
  deriving DecidableEq, Repr

def StageName.value : StageName → String
  | .part => "PART"
  | .procurement => "PROCUREMENT"
  | .purchaseOrder => "PURCHASE_ORDER"
  | .receiving => "RECEIVING"
  | .execution => "EXECUTION"
  | .evidence => "EVIDENCE"
  | .inspectionRii => "INSPECTION_RII"
  | .technician => "TECHNICIAN"
  | .releaseReadiness => "RELEASE_READINESS"

inductive StageStatus
  | complete
  | blocked
  | waiting
  | unknown
  deriving DecidableEq, Repr

structure CriticalPathStage where
  stage : StageName
  status : StageStatus
  reason : Message
  recordType : Option String := none
  recordId : Option Message := none
  nextAction : Option String := none

structure AogRecoveryStatus where
  aircraftId : UUID
  registration : String
  isAog : Bool
  aogEventId : Option UUID := none
  aogStatus : Option AogEventStatus := none
  severity : Option String := none
  workOrderId : Option UUID := none
  releaseReadinessStatus : Option ReadinessStatus := none
  tatStatus : Option TatService.TatStatusLiteral := none
  tatReason : Option String := none
  blockers : List RecoveryBlocker := []
  nextBestAction : Option RecoveryBlocker := none
  criticalPath : List CriticalPathStage := []
  technicianAuthorization : Message :=
    [.str "UNKNOWN — no task on this work order has an assigned technician yet"]
  eta : String :=
    "UNKNOWN — no vendor lead-time or delivery-date field is tracked; never inferred"
  complianceStatus : String :=
    "NOT_EVALUATED — this analysis does not query regulatory/compliance assessments"
  dataCompleteness : String := ""

/-! ## The event -/

/-- `list_aog_events` of an aircraft. -/
def listAogEvents (db : Database) (organizationId aircraftId : UUID) : List AogEvent :=
  db.aogEvents.select fun e => e.organizationId = organizationId && e.aircraftId = aircraftId

/-- DECLARED or IN_RECOVERY. -/
def isActive (event : AogEvent) : Bool :=
  event.status = .declared || event.status = .inRecovery

def activeEvent (events : List AogEvent) : Option AogEvent := events.find? isActive

/-- `event.blockers`. -/
def blockersOfEvent (db : Database) (event : AogEvent) : List AogBlocker :=
  db.aogBlockers.select fun b => b.aogEventId = event.id

def eventBlocker (blocker : AogBlocker) : RecoveryBlocker where
  category := .eventBlocker
  description := [.str blocker.description]
  recordType := blocker.blockerType
  recordId := blocker.sourceReference.map fun text => [.str text]
  whoShouldAct := "AOG recovery owner"
  dependency := "Recorded directly against the AOG event."

def eventBlockers (db : Database) (event : AogEvent) : List RecoveryBlocker :=
  ((blockersOfEvent db event).filter fun b => !b.resolved).map eventBlocker

/-! ## The release -/

def actorForCategory : BlockerCategory → String
  | .taskExecution | .evidence => "Assigned technician"
  | .inspection => "Authorized inspector (independent of the executing technician)"
  | .material | .compliance | .finding => "Maintenance"

def dependencyForCategory : BlockerCategory → String
  | .taskExecution => "Complete task execution."
  | .evidence => "Submit and have evidence accepted."
  | .inspection => "Complete the required inspection (RII requires an independent inspector)."
  | .material | .compliance | .finding => "Resolve the underlying record."

/-- The text of an identifier. -/
def idText (id : UUID) : Message := [.uuid id]

def releaseBlocker (b : Blocker) : RecoveryBlocker where
  category := .release b.category
  description := b.description
  recordType := b.category.value
  recordId := b.relatedRecordId.map idText
  whoShouldAct := actorForCategory b.category
  dependency := dependencyForCategory b.category

/-! ## The material -/

def latestRequest (workOrderId : UUID) (allRequests : List ProcurementRequest)
    (requirement : PartRequirement) : Option ProcurementRequest :=
  newestBy ProcurementRequest.createdAt (allRequests.filter fun r =>
    r.partId = some requirement.partId && r.workOrderId = some workOrderId)

/-- The newest purchase order with a line for the request. -/
def orderFor (db : Database) (allPos : List PurchaseOrder) (request : ProcurementRequest) :
    Option PurchaseOrder :=
  newestBy PurchaseOrder.createdAt (allPos.filter fun po =>
    (PurchaseOrderService.linesOf db po.id).any fun line =>
      line.procurementRequestId = some request.id)

/-- The purchase order has been found. -/
def orderBlocker (requirement : PartRequirement) (po : PurchaseOrder) : RecoveryBlocker :=
  match po.status with
  | .draft | .pendingApproval | .approved =>
    { category := .materialPoNotSent
      description := [.str ("Purchase order " ++ po.poNumber ++ " is " ++ po.status.value
        ++ ", not yet sent to the vendor.")]
      recordType := "PurchaseOrder", recordId := some (idText po.id)
      whoShouldAct := "Procurement approver"
      dependency := "Advance the purchase order to SENT." }
  | .sent | .acknowledged | .partiallyReceived =>
    { category := .materialAwaitingReceipt
      description := [.str ("Purchase order " ++ po.poNumber ++ " is " ++ po.status.value
        ++ " — part has not been fully received.")]
      recordType := "PurchaseOrder", recordId := some (idText po.id)
      whoShouldAct := "Receiving"
      dependency := "Record receipt of the outstanding quantity." }
  -- whatever is left is taken to be received, a cancelled order too
  | .received | .cancelled =>
    { category := .materialShort
      description := [.str "Part requirement ", .uuid requirement.id,
        .str (" is still SHORT even though purchase order " ++ po.poNumber
          ++ " shows RECEIVED — inventory may have been consumed or reserved elsewhere.")]
      recordType := "PartRequirement", recordId := some (idText requirement.id)
      whoShouldAct := "Inventory / Procurement"
      dependency := "Investigate current available_quantity against this requirement." }

/-- The request has been found. -/
def requestBlocker (db : Database) (allPos : List PurchaseOrder) (requirement : PartRequirement)
    (request : ProcurementRequest) : RecoveryBlocker :=
  match request.status with
  | .submitted | .underReview | .clarificationRequired =>
    { category := .materialAwaitingApproval
      description := [.str "Procurement request ", .uuid request.id,
        .str (" is " ++ request.status.value ++ ", awaiting approval.")]
      recordType := "ProcurementRequest", recordId := some (idText request.id)
      whoShouldAct := "Procurement approver"
      dependency := "Approve (or clarify/resolve) the procurement request." }
  | .rejected =>
    { category := .materialAwaitingApproval
      description := [.str "Procurement request ", .uuid request.id,
        .str (" was REJECTED: "
          ++ ObligationService.textOr "no reason recorded" request.rejectionReason ++ ".")]
      recordType := "ProcurementRequest", recordId := some (idText request.id)
      whoShouldAct := "Procurement"
      dependency := "Submit a new procurement request for this shortage." }
  | .approved =>
    { category := .materialPoNotSent
      description := [.str "Procurement request ", .uuid request.id,
        .str " is APPROVED but no purchase order has been created for it yet."]
      recordType := "ProcurementRequest", recordId := some (idText request.id)
      whoShouldAct := "Procurement"
      dependency := "Create a purchase order from this approved request." }
  | .draft | .ordered | .received | .closed =>
    match orderFor db allPos request with
    | none =>
      { category := .materialPoNotSent
        description := [.str "Procurement request ", .uuid request.id,
          .str (" is " ++ request.status.value
            ++ " but its purchase order could not be found.")]
        recordType := "ProcurementRequest", recordId := some (idText request.id)
        whoShouldAct := "Procurement"
        dependency := "Verify the purchase order linked to this request." }
    | some po => orderBlocker requirement po

def materialBlocker (db : Database) (workOrderId : UUID) (allRequests : List ProcurementRequest)
    (allPos : List PurchaseOrder) (requirement : PartRequirement) : RecoveryBlocker :=
  match latestRequest workOrderId allRequests requirement with
  | none =>
    { category := .materialNotRequested
      description := [.str "Part requirement ", .uuid requirement.id,
        .str (" is SHORT (required " ++ toString requirement.requiredQuantity ++ ", fulfilled "
          ++ toString requirement.fulfilledQuantity
          ++ ") and no procurement request has been created for it yet.")]
      recordType := "PartRequirement", recordId := some (idText requirement.id)
      whoShouldAct := "Procurement"
      dependency := "Create a procurement request for this shortage." }
  | some request => requestBlocker db allPos requirement request

def listRequests (db : Database) (organizationId : UUID) : List ProcurementRequest :=
  db.procurementRequests.select fun r => r.organizationId = organizationId

def listPurchaseOrders (db : Database) (organizationId : UUID) : List PurchaseOrder :=
  db.purchaseOrders.select fun po => po.organizationId = organizationId

/-- The requirements of the work order that are SHORT. -/
def shortagesOf (requirements : List PartRequirement) : List PartRequirement :=
  requirements.filter fun r => r.status = PartRequirementStatus.short

def materialBlockers (db : Database) (organizationId workOrderId : UUID)
    (shortages : List PartRequirement) : List RecoveryBlocker :=
  shortages.map (materialBlocker db workOrderId (listRequests db organizationId)
    (listPurchaseOrders db organizationId))

/-! ## The technician -/

/-- `ORDER BY sequence, created_at`. -/
def runsBefore (t t' : Task) : Prop :=
  t.sequence < t'.sequence ∨ t.sequence = t'.sequence ∧ t.createdAt ≤ t'.createdAt

instance (t t' : Task) : Decidable (runsBefore t t') :=
  inferInstanceAs
    (Decidable (t.sequence < t'.sequence ∨ t.sequence = t'.sequence ∧ t.createdAt ≤ t'.createdAt))

/-- `list_tasks_for_work_order`: none of a soft-deleted work order. -/
def listTasksForWorkOrder (db : Database) (organizationId workOrderId : UUID) : List Task :=
  (db.tasks.select fun t =>
    t.organizationId = organizationId && t.workOrderId = workOrderId &&
      db.workOrders.rows.any fun w => w.id = t.workOrderId && w.deletedAt.isNone).insertionSort
    runsBefore

def assignedTasks (tasks : List Task) : List (Task × UUID) :=
  tasks.filterMap fun t => t.assignedTechnicianUserId.map fun technician => (t, technician)

/-- `_technician_stage`: only the first task with a technician is looked at. -/
def technicianStage (db : Database) (now : DateTime) (organizationId : UUID) (tasks : List Task) :
    Except Error (Option CriticalPathStage) :=
  match assignedTasks tasks with
  | [] =>
    if tasks.isEmpty then .ok none
    else .ok (some
      { stage := .technician, status := .unknown
        reason := [.str "No task on this work order has an assigned technician yet."] })
  | (task, technician) :: _ => do
    let result ← checkAuthorization db now organizationId task.id technician
    let authorized := result.status = .authorized
    pure (some
      { stage := .technician
        status := if authorized then .complete else .blocked
        reason := .str (result.status.value ++ ": ") :: result.reason
        recordType := some "Task", recordId := some (idText task.id)
        nextAction := if authorized then none else some "Assign an authorized technician." })

def technicianBlockers : Option CriticalPathStage → List RecoveryBlocker
  | none => []
  | some stage =>
    if stage.status = .blocked then
      [{ category := .technician
         description := stage.reason
         recordType := "Task", recordId := stage.recordId
         whoShouldAct := "Maintenance Manager"
         dependency := "Assign an authorized technician or resolve the qualification gap." }]
    else []

/-! ## The critical path -/

def materialStageOrder : List StageName := [.part, .procurement, .purchaseOrder, .receiving]

/-- `_MATERIAL_STAGE_ORDER.index(_MATERIAL_CATEGORY_TO_BLOCKED_STAGE[category])`. -/
def blockedStage : RecoveryCategory → Option Nat
  | .materialNotRequested | .materialShort => some 0
  | .materialAwaitingApproval => some 1
  | .materialPoNotSent => some 2
  | .materialAwaitingReceipt => some 3
  | .release _ | .technician | .eventBlocker => none

def firstBlockedIndex (blockers : List RecoveryBlocker) : Nat :=
  ((blockers.filterMap fun b => blockedStage b.category).min?).getD 0

/-- A stage of the chain, from its place. -/
def materialStage (first : Nat) (representative : RecoveryBlocker) (i : Nat) (stage : StageName) :
    CriticalPathStage :=
  if i < first then { stage, status := .complete, reason := [.str "Resolved."] }
  else if i = first then
    { stage, status := .blocked
      reason := representative.description
      recordType := some representative.recordType, recordId := representative.recordId
      nextAction := some representative.dependency }
  else
    { stage, status := .waiting
      reason := [.str ("Waiting on the "
        ++ ((materialStageOrder[first]?).map StageName.value).getD "" ++ " stage above.")] }

/-- The material chain of a work order with part requirements. -/
def materialChain : List RecoveryBlocker → List CriticalPathStage
  | [] => materialStageOrder.map fun stage =>
      { stage, status := .complete
        reason := [.str "No part shortage is blocking this work order."] }
  | b :: bs =>
    let first := firstBlockedIndex (b :: bs)
    let representative :=
      ((b :: bs).find? fun x => blockedStage x.category = some first).getD b
    materialStageOrder.mapIdx (materialStage first representative)

def releaseStage (readiness : ReleaseReadiness) (stage : StageName) (category : BlockerCategory) :
    CriticalPathStage :=
  match readiness.blockers.find? fun b => b.category = category with
  | some b =>
    { stage, status := .blocked
      reason := b.description
      recordType := some category.value
      recordId := b.relatedRecordId.map idText
      nextAction := some (dependencyForCategory category) }
  | none => { stage, status := .complete, reason := [.str "No blocker recorded."] }

def buildCriticalPath (readiness : ReleaseReadiness) (requirements : List PartRequirement)
    (materialBlockers : List RecoveryBlocker) (technicianStage : Option CriticalPathStage) :
    List CriticalPathStage :=
  (if requirements.isEmpty then [] else materialChain materialBlockers) ++
    [releaseStage readiness .execution .taskExecution,
      releaseStage readiness .evidence .evidence,
      releaseStage readiness .inspectionRii .inspection] ++
    technicianStage.toList ++
    [{ stage := .releaseReadiness
       status := if readiness.status = .ready then .complete else .blocked
       reason :=
        if readiness.status = .ready then [.str "Release readiness is READY."]
        else [.str "Release readiness is BLOCKED by ", .count readiness.blockers.length,
          .str " blocker(s)."] }]

/-! ## The status -/

def setNextBestAction (status : AogRecoveryStatus) : AogRecoveryStatus :=
  { status with
    nextBestAction :=
      (status.blockers.insertionSort fun b b' => b.category.priority ≤ b'.category.priority).head? }

/-- The status of an aircraft on the ground, before anything is looked up. -/
def opened (db : Database) (aircraft : Aircraft) (event : AogEvent) : AogRecoveryStatus where
  aircraftId := aircraft.id
  registration := aircraft.registration
  isAog := true
  aogEventId := some event.id
  aogStatus := some event.status
  severity := some event.severity
  workOrderId := event.workOrderId
  blockers := eventBlockers db event

/-- The status with what the linked work order adds. -/
def withWorkOrder (db : Database) (now : DateTime) (organizationId workOrderId : UUID)
    (status : AogRecoveryStatus) : Except Error AogRecoveryStatus := do
  let readiness ← getReleaseReadiness db organizationId workOrderId
  let tat ← TatService.getWorkOrderTatStatus db now organizationId workOrderId
  let requirements := PartRequirementService.listPartRequirementsForWorkOrder db organizationId
    workOrderId
  let material := materialBlockers db organizationId workOrderId (shortagesOf requirements)
  let stage ← technicianStage db now organizationId
    (listTasksForWorkOrder db organizationId workOrderId)
  pure (setNextBestAction
    { status with
      releaseReadinessStatus := some readiness.status
      tatStatus := some tat.status
      tatReason := some tat.reason
      blockers := status.blockers ++ readiness.blockers.map releaseBlocker ++ material ++
        technicianBlockers stage
      technicianAuthorization := (stage.map CriticalPathStage.reason).getD
        status.technicianAuthorization
      criticalPath := buildCriticalPath readiness requirements material stage
      dataCompleteness := "Covers AOG event blockers, release readiness (task execution / "
        ++ "evidence / inspection), TAT, material shortages with their procurement/PO/receiving "
        ++ "state, and technician authorization for any assigned task. Part lead-time/ETA and "
        ++ "compliance sync are not backend-tracked and are reported as such rather than "
        ++ "fabricated." })

def getRecoveryStatus (db : Database) (now : DateTime) (organizationId aircraftId : UUID) :
    Except Error AogRecoveryStatus := do
  let aircraft ← db.getAircraft organizationId aircraftId
  match activeEvent (listAogEvents db organizationId aircraftId) with
  | none =>
    pure { aircraftId := aircraft.id, registration := aircraft.registration, isAog := false
           dataCompleteness := "No DECLARED or IN_RECOVERY AogEvent exists for this aircraft." }
  | some event =>
    match event.workOrderId with
    | none =>
      pure (setNextBestAction
        { opened db aircraft event with
          dataCompleteness := "AOG event has no linked work order — release readiness, TAT, and "
            ++ "part-shortage analysis require one and cannot be evaluated." })
    | some workOrderId => withWorkOrder db now organizationId workOrderId (opened db aircraft event)

/-! ## What a status says -/

section Spec

variable {db : Database} {now : DateTime} {organizationId aircraftId workOrderId : UUID}
variable {status status' : AogRecoveryStatus} {event : AogEvent}

@[simp] theorem setNextBestAction_blockers :
    (setNextBestAction status).blockers = status.blockers := rfl

theorem activeEvent_eq_some
    (h : activeEvent (listAogEvents db organizationId aircraftId) = some event) :
    event ∈ db.aogEvents.rows ∧ event.organizationId = organizationId ∧
      event.aircraftId = aircraftId ∧ isActive event = true := by
  have hlisted := Relational.Table.mem_select.1 (List.mem_of_find?_eq_some h)
  simp only [Bool.and_eq_true, decide_eq_true_eq] at hlisted
  exact ⟨hlisted.1, hlisted.2.1, hlisted.2.2, List.find?_some h⟩

theorem withWorkOrder_eq_ok
    (h : withWorkOrder db now organizationId workOrderId status = .ok status') :
    status'.aircraftId = status.aircraftId ∧ status'.isAog = status.isAog ∧
      status'.aogEventId = status.aogEventId ∧ status'.workOrderId = status.workOrderId ∧
      ∃ readiness, getReleaseReadiness db organizationId workOrderId = .ok readiness ∧
        ∀ b ∈ readiness.blockers, releaseBlocker b ∈ status'.blockers := by
  obtain ⟨readiness, hreadiness, h⟩ := bind_eq_ok.1 h
  obtain ⟨tat, _, h⟩ := bind_eq_ok.1 h
  obtain ⟨stage, _, h⟩ := bind_eq_ok.1 h
  cases h
  refine ⟨rfl, rfl, rfl, rfl, readiness, hreadiness, fun b hb => ?_⟩
  rw [setNextBestAction_blockers]
  exact List.mem_append_left _ (List.mem_append_left _
    (List.mem_append_right _ (List.mem_map_of_mem hb)))

theorem getRecoveryStatus_eq_ok
    (h : getRecoveryStatus db now organizationId aircraftId = .ok status) :
    status.aircraftId = aircraftId ∧
      (activeEvent (listAogEvents db organizationId aircraftId) = none ∧ status.isAog = false ∧
          status.workOrderId = none ∧ status.blockers = [] ∨
        ∃ event, activeEvent (listAogEvents db organizationId aircraftId) = some event ∧
          status.isAog = true ∧ status.aogEventId = some event.id ∧
          status.workOrderId = event.workOrderId ∧
          ∀ workOrderId, event.workOrderId = some workOrderId →
            ∃ readiness, getReleaseReadiness db organizationId workOrderId = .ok readiness ∧
              ∀ b ∈ readiness.blockers, releaseBlocker b ∈ status.blockers) := by
  obtain ⟨aircraft, haircraft, h⟩ := bind_eq_ok.1 h
  have hid : aircraft.id = aircraftId := by
    have hfound := (mem_of_oneOrRaise haircraft).2
    simp only [Bool.and_eq_true, decide_eq_true_eq] at hfound
    exact hfound.1.1
  cases hevent : activeEvent (listAogEvents db organizationId aircraftId) with
  | none =>
    simp only [hevent] at h
    cases h
    exact ⟨hid, Or.inl ⟨rfl, rfl, rfl, rfl⟩⟩
  | some event =>
    simp only [hevent] at h
    cases hlinked : event.workOrderId with
    | none =>
      simp only [hlinked] at h
      cases h
      refine ⟨hid, Or.inr ⟨event, rfl, rfl, rfl, rfl, fun workOrderId hsome => ?_⟩⟩
      rw [hlinked] at hsome
      cases hsome
    | some workOrderId =>
      simp only [hlinked] at h
      obtain ⟨haid, haog, heid, hwid, readiness, hreadiness, hblockers⟩ := withWorkOrder_eq_ok h
      refine ⟨haid.trans hid, Or.inr ⟨event, rfl, haog, heid, hwid, fun workOrderId' hsome => ?_⟩⟩
      rw [hlinked] at hsome
      cases hsome
      exact ⟨readiness, hreadiness, hblockers⟩

end Spec

end AogRecoveryService
end AeroComply
