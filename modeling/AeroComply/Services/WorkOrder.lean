import AeroComply.Services.LimitEnforcement
import AeroComply.Services.ReleaseReadiness

/-!
# WorkOrder — work orders and their tasks

`app/services/work_order_service.py`.  A status moves along
`_ALLOWED_TRANSITIONS`, each target with its own gate and side effects; an
assignment moves it too.  The gate on the tasks stands at INSPECTION, the gate on
the inspections at COMPLETED, and the release readiness at CLOSED.
-/

namespace AeroComply

namespace WorkOrderService

open Database (getTask_eq_ok getWorkOrder_eq_ok)
open InspectionService (satisfiesCompletionGate)
open ReleaseReadinessService (Blocker getReleaseReadiness inspectionsOf tasksOf)

def allowedTransitions : WorkOrderStatus → List WorkOrderStatus
  | .draft => [.open, .cancelled]
  | .open => [.planned, .assigned, .cancelled]
  | .planned => [.assigned, .cancelled]
  | .assigned => [.inProgress, .planned, .cancelled]
  | .inProgress => [.onHold, .inspection, .cancelled]
  | .onHold => [.inProgress, .cancelled]
  | .inspection => [.completed, .inProgress, .cancelled]
  | .completed => [.closed]
  | .closed | .cancelled | .other _ => []

/-- The work order accepts no more changes. -/
def isFinal (status : WorkOrderStatus) : Bool := status = .closed || status = .cancelled

def assertUserInOrganization (db : Database) (organizationId userId : UUID) :
    Except Error User :=
  oneOrRaise (db.users.select fun u => u.id = userId && u.organizationId = organizationId)
    (.notFound "User does not belong to this organization")

/-- `if user_id is not None`: the user is the tenant's. -/
def checkUser (db : Database) (organizationId : UUID) : Option UUID → Except Error Unit
  | none => .ok ()
  | some userId => do
    let _ ← assertUserInOrganization db organizationId userId
    pure ()

/-! ## Creation and changes -/

structure WorkOrderCreateRequest where
  aircraftId : Option UUID := none
  assetId : Option UUID := none
  workOrderNumber : String
  title : String := "Untitled Work Order"
  description : Option String := none
  workOrderType : String := "CORRECTIVE"
  maintenanceCategory : Option String := none
  status : String := "DRAFT"
  priority : String := "NORMAL"
  scheduledStart : Option DateTime := none
  scheduledEnd : Option DateTime := none
  dueAt : Option DateTime := none
  estimatedHours : Option ℚ := none
  estimatedCost : Option ℚ := none
  assignedToUserId : Option UUID := none
  location : Option String := none
  sourceType : Option String := none
  sourceReference : Option String := none
  complianceRequired : Bool := false
  complianceReference : Option String := none
  one_primary_asset : aircraftId.isNone ≠ assetId.isNone := by decide

/-- The aircraft and the asset of a new work order. -/
def primaryAsset (db : Database) (organizationId : UUID) (payload : WorkOrderCreateRequest) :
    Except Error (Option UUID × Option UUID) :=
  match payload.aircraftId, payload.assetId with
  | some aircraftId, _ => do
    let aircraft ← db.getAircraft organizationId aircraftId
    pure (some aircraftId, aircraft.assetId)
  | none, none => .error (.notFound "Asset not found")
  | none, some assetId => do
    let asset ← db.getAsset organizationId assetId
    if asset.assetType = AssetType.aircraft then do
      let aircraft ← oneOrRaise
        (db.aircraft.select fun a =>
          a.organizationId = organizationId && a.assetId = some asset.id)
        (.notFound "Aircraft not found for asset")
      pure (some aircraft.id, some assetId)
    else pure (none, some assetId)

/-- The row of a new work order. -/
def newWorkOrder (newId : UUID) (now : DateTime) (organizationId : UUID)
    (createdByUserId : Option UUID) (payload : WorkOrderCreateRequest)
    (primary : Option UUID × Option UUID) : WorkOrder :=
  { id := newId, organizationId, aircraftId := primary.1, assetId := primary.2
    workOrderNumber := payload.workOrderNumber, title := payload.title
    description := payload.description, workOrderType := payload.workOrderType
    maintenanceCategory := payload.maintenanceCategory
    status := WorkOrderStatus.ofText payload.status, priority := payload.priority
    scheduledStart := payload.scheduledStart, scheduledEnd := payload.scheduledEnd
    dueAt := payload.dueAt, estimatedHours := payload.estimatedHours
    estimatedCost := payload.estimatedCost, assignedToUserId := payload.assignedToUserId
    location := payload.location, sourceType := payload.sourceType
    sourceReference := payload.sourceReference
    complianceRequired := payload.complianceRequired
    complianceReference := payload.complianceReference, createdByUserId, createdAt := now }

/-- `create_work_order`: any status can be the first one. -/
def createWorkOrder (db : Database) (newId : UUID) (now : DateTime) (organizationId : UUID)
    (createdByUserId : Option UUID) (payload : WorkOrderCreateRequest) :
    Except Error Database := do
  LimitEnforcementService.checkWorkOrderCreationLimit db organizationId now
  let primary ← primaryAsset db organizationId payload
  checkUser db organizationId payload.assignedToUserId
  -- no other status has a check here
  raiseIf
    (WorkOrderStatus.ofText payload.status = .assigned ∧ payload.assignedToUserId.isNone)
    (.conflict "Work order in ASSIGNED status requires an assigned technician.")
  let workOrders ← addRow db.workOrders
    (newWorkOrder newId now organizationId createdByUserId payload primary)
  pure (({ db with workOrders }).recordAuditEvent organizationId createdByUserId
    "work_order.created" "WorkOrder" (some newId))

/-- `WorkOrderUpdateRequest`: neither the status nor the assignee is among its fields. -/
structure WorkOrderUpdateRequest where
  title : Patch String := .unset
  description : Patch String := .unset
  workOrderType : Patch String := .unset
  maintenanceCategory : Patch String := .unset
  priority : Patch String := .unset
  scheduledStart : Patch DateTime := .unset
  scheduledEnd : Patch DateTime := .unset
  actualStart : Patch DateTime := .unset
  actualEnd : Patch DateTime := .unset
  dueAt : Patch DateTime := .unset
  estimatedHours : Patch ℚ := .unset
  actualHours : Patch ℚ := .unset
  estimatedCost : Patch ℚ := .unset
  actualCost : Patch ℚ := .unset
  location : Patch String := .unset
  sourceType : Patch String := .unset
  sourceReference : Patch String := .unset
  complianceRequired : Patch Bool := .unset
  complianceReference : Patch String := .unset

/-- The row with the fields of the payload. -/
def WorkOrderUpdateRequest.apply (payload : WorkOrderUpdateRequest) (w : WorkOrder) :
    Except Error WorkOrder := do
  let title ← payload.title.notNull w.title
  let workOrderType ← payload.workOrderType.notNull w.workOrderType
  let priority ← payload.priority.notNull w.priority
  let complianceRequired ← payload.complianceRequired.notNull w.complianceRequired
  pure { w with
    title, workOrderType, priority, complianceRequired
    description := payload.description.nullable w.description
    maintenanceCategory := payload.maintenanceCategory.nullable w.maintenanceCategory
    scheduledStart := payload.scheduledStart.nullable w.scheduledStart
    scheduledEnd := payload.scheduledEnd.nullable w.scheduledEnd
    actualStart := payload.actualStart.nullable w.actualStart
    actualEnd := payload.actualEnd.nullable w.actualEnd
    dueAt := payload.dueAt.nullable w.dueAt
    estimatedHours := payload.estimatedHours.nullable w.estimatedHours
    actualHours := payload.actualHours.nullable w.actualHours
    estimatedCost := payload.estimatedCost.nullable w.estimatedCost
    actualCost := payload.actualCost.nullable w.actualCost
    location := payload.location.nullable w.location
    sourceType := payload.sourceType.nullable w.sourceType
    sourceReference := payload.sourceReference.nullable w.sourceReference
    complianceReference := payload.complianceReference.nullable w.complianceReference }

def updateWorkOrder (db : Database) (organizationId workOrderId : UUID)
    (actorUserId : Option UUID) (payload : WorkOrderUpdateRequest) : Except Error Database := do
  let workOrder ← db.getWorkOrder organizationId workOrderId
  raiseIf (isFinal workOrder.status)
    (.conflict ("Cannot update a " ++ workOrder.status.value ++ " work order."))
  let updated ← payload.apply workOrder
  pure (({ db with workOrders := db.workOrders.save updated }).recordAuditEvent organizationId
    actorUserId "work_order.updated" "WorkOrder" (some workOrderId))

/-- The row after an assignment. -/
def assigned (w : WorkOrder) (technicianId : UUID) : WorkOrder :=
  { w with
    assignedToUserId := some technicianId
    status := if w.status = .open ∨ w.status = .planned then .assigned else w.status }

def assignWorkOrder (db : Database) (organizationId workOrderId : UUID)
    (actorUserId : Option UUID) (assignedToUserId : UUID) : Except Error Database := do
  let workOrder ← db.getWorkOrder organizationId workOrderId
  -- a COMPLETED work order can be assigned
  raiseIf (isFinal workOrder.status)
    (.conflict ("Cannot assign a " ++ workOrder.status.value ++ " work order."))
  let technician ← assertUserInOrganization db organizationId assignedToUserId
  pure (({ db with workOrders := db.workOrders.save (assigned workOrder technician.id)
          }).recordAuditEvent organizationId actorUserId "work_order.assigned" "WorkOrder"
    (some workOrderId))

/-! ## Transitions -/

/-- A piece of a blocker's description; it has no others. -/
def partText : TextPart → String
  | .str s => s
  | .uuid id => toString id
  | .date _ | .instant _ | .json _ | .count _ => ""

/-- `"; ".join(b.description for b in readiness.blockers)`. -/
def reasonsText (blockers : List Blocker) : String :=
  "; ".intercalate (blockers.map fun b => String.join (b.description.map partText))

/-- `sorted(allowed_targets) or 'None (terminal)'`. -/
def allowedText (targets : List WorkOrderStatus) : String :=
  if targets.isEmpty then "None (terminal)"
  else "[" ++ ", ".intercalate (((targets.map WorkOrderStatus.value).insertionSort
    (· ≤ ·)).map pyRepr) ++ "]"

/-- The gate of the target and its side effects on the row. -/
def gated (u : UnicodeTables) (db : Database) (now : DateTime) (organizationId : UUID)
    (w : WorkOrder) (reason : Option String) : WorkOrderStatus → Except Error WorkOrder
  | .assigned => do
    raiseIf (w.assignedToUserId.isNone)
      (.conflict "Cannot transition to ASSIGNED: Work order must have an assigned technician.")
    pure w
  | .inProgress => do
    raiseIf (w.assignedToUserId.isNone)
      (.conflict ("Cannot start work (IN_PROGRESS): Work order must have an assigned "
        ++ "technician."))
    pure { w with actualStart := w.actualStart.or (some now) }
  | .inspection => do
    let incomplete := (tasksOf db organizationId w.id).filter fun t =>
      t.executionState ≠ TaskExecutionState.completed
    let n := incomplete.length
    raiseIf (incomplete.isEmpty = false)
      (.conflict s!"Cannot transition to INSPECTION: {n} task(s) remain uncompleted.")
    pure w
  | .completed => do
    -- the tasks are not looked at
    let inspections := inspectionsOf db organizationId w.id (tasksOf db organizationId w.id)
    let unsatisfied := inspections.filter fun i => !satisfiesCompletionGate i.status
    let n := unsatisfied.length
    raiseIf (unsatisfied.isEmpty = false)
      (.conflict
        s!"Cannot complete work order: {n} inspection requirement(s) are unsatisfied.")
    pure { w with completedAt := some now, actualEnd := w.actualEnd.or (some now) }
  | .closed => do
    raiseIf (w.status ≠ .completed)
      (.conflict "Work order must be COMPLETED before it can be CLOSED.")
    let readiness ← getReleaseReadiness db organizationId w.id
    raiseIf (readiness.status = .blocked)
      (.conflict ("Cannot close work order: Release readiness is BLOCKED ("
        ++ reasonsText readiness.blockers ++ ")."))
    pure { w with closedAt := some now }
  | .cancelled => do
    let text := reason.getD ""
    raiseIf (text = "" ∨ (u.strip text).length < 3)
      (.conflict ("A cancellation reason (at least 3 characters) is required to cancel a work "
        ++ "order."))
    pure { w with cancelledAt := some now, cancellationReason := some (u.strip text) }
  | .draft | .open | .planned | .onHold | .other _ => pure w

def transitionWorkOrder (u : UnicodeTables) (db : Database) (now : DateTime)
    (organizationId workOrderId : UUID) (actorUserId : Option UUID) (targetStatus : String)
    (reason : Option String) : Except Error Database := do
  let workOrder ← db.getWorkOrder organizationId workOrderId
  let target := WorkOrderStatus.ofText targetStatus
  -- returned as it is, not logged
  if workOrder.status = target then pure db
  else do
    let allowed := allowedTransitions workOrder.status
    raiseIf (target ∉ allowed)
      (.conflict ("Invalid state transition from " ++ workOrder.status.value ++ " to "
        ++ targetStatus ++ ". Allowed transitions from " ++ workOrder.status.value ++ ": "
        ++ allowedText allowed ++ "."))
    let moved ← gated u db now organizationId workOrder reason target
    pure (({ db with workOrders := db.workOrders.save { moved with status := target }
            }).recordAuditEvent organizationId actorUserId "work_order.transitioned" "WorkOrder"
      (some workOrderId))

/-- `ORDER BY created_at DESC, id DESC`. -/
def newestFirst (w w' : WorkOrder) : Prop :=
  w'.createdAt < w.createdAt ∨ w'.createdAt = w.createdAt ∧ w'.id ≤ w.id

instance (w w' : WorkOrder) : Decidable (newestFirst w w') :=
  inferInstanceAs
    (Decidable (w'.createdAt < w.createdAt ∨ w'.createdAt = w.createdAt ∧ w'.id ≤ w.id))

/-- The work orders of the tenant that are not soft-deleted and that the optional filters, here one
predicate, let through. -/
def matchingWorkOrders (db : Database) (organizationId : UUID) (chosen : WorkOrder → Bool) :
    List WorkOrder :=
  db.workOrders.select fun w => w.organizationId = organizationId && w.deletedAt.isNone && chosen w

/-- `list_work_orders`: one page, newest first, and the number of all that match. -/
def listWorkOrders (db : Database) (organizationId : UUID)
    (chosen : WorkOrder → Bool := fun _ => true) (limit : Int := 50) (offset : Int := 0) :
    List WorkOrder × Nat :=
  let limit := max 1 (min limit 100)
  let offset := max 0 offset
  let rows := matchingWorkOrders db organizationId chosen
  (((rows.insertionSort newestFirst).drop offset.toNat).take limit.toNat, rows.length)

/-- `cancellation_reason or reason`. -/
def givenReason (cancellationReason reason : Option String) : String :=
  match cancellationReason with
  | some text => if text = "" then reason.getD "" else text
  | none => reason.getD ""

structure WorkOrderCancelRequest (u : UnicodeTables) where
  cancellationReason : Option String := none
  reason : Option String := none
  reason_valid : 3 ≤ (u.strip (givenReason cancellationReason reason)).length

def cancelWorkOrder (u : UnicodeTables) (db : Database) (now : DateTime)
    (organizationId workOrderId : UUID) (actorUserId : Option UUID)
    (payload : WorkOrderCancelRequest u) : Except Error Database :=
  transitionWorkOrder u db now organizationId workOrderId actorUserId "CANCELLED"
    (some (u.strip (givenReason payload.cancellationReason payload.reason)))

def closeWorkOrder (u : UnicodeTables) (db : Database) (now : DateTime)
    (organizationId workOrderId : UUID) (actorUserId : Option UUID) : Except Error Database :=
  transitionWorkOrder u db now organizationId workOrderId actorUserId "CLOSED" none

def completeWorkOrder (u : UnicodeTables) (db : Database) (now : DateTime)
    (organizationId workOrderId : UUID) (actorUserId : Option UUID) : Except Error Database :=
  transitionWorkOrder u db now organizationId workOrderId actorUserId "COMPLETED" none

/-! ## Tasks -/

structure TaskCreateRequest where
  workOrderId : Option UUID := none
  taskNumber : Option String := none
  title : Option String := none
  description : String
  executionState : String := TaskExecutionState.pending
  assignedTechnicianUserId : Option UUID := none
  estimatedHours : Option ℚ := none
  sequence : Int := 1
  evidenceRequired : Bool := false
  notes : Option String := none
  description_ne : description ≠ "" := by decide

def createTask (db : Database) (newId organizationId : UUID) (actorUserId : Option UUID)
    (payload : TaskCreateRequest) : Except Error Database :=
  match payload.workOrderId with
  | none => .error (.conflict "work_order_id is required to create a task")
  | some workOrderId => do
    let workOrder ← db.getWorkOrder organizationId workOrderId
    raiseIf (isFinal workOrder.status)
      (.conflict ("Cannot add tasks to a " ++ workOrder.status.value ++ " work order."))
    checkUser db organizationId payload.assignedTechnicianUserId
    -- in whatever execution state the payload says
    let tasks ← addRow db.tasks
      { id := newId, organizationId, workOrderId, taskNumber := payload.taskNumber
        title := payload.title, description := payload.description
        executionState := payload.executionState
        assignedTechnicianUserId := payload.assignedTechnicianUserId
        sequence := payload.sequence, estimatedHours := payload.estimatedHours
        evidenceRequired := payload.evidenceRequired, notes := payload.notes }
    pure (({ db with tasks }).recordAuditEvent organizationId actorUserId "task.created" "Task"
      (some newId))

/-- `TaskUpdateRequest`: the execution state is not among its fields. -/
structure TaskUpdateRequest where
  title : Patch String := .unset
  description : Patch String := .unset
  assignedTechnicianUserId : Patch UUID := .unset
  estimatedHours : Patch ℚ := .unset
  actualHours : Patch ℚ := .unset
  sequence : Patch Int := .unset
  evidenceRequired : Patch Bool := .unset
  notes : Patch String := .unset

/-- The row with the fields of the payload. -/
def TaskUpdateRequest.apply (payload : TaskUpdateRequest) (t : Task) : Except Error Task := do
  let description ← payload.description.notNull t.description
  let sequence ← payload.sequence.notNull t.sequence
  let evidenceRequired ← payload.evidenceRequired.notNull t.evidenceRequired
  pure { t with
    description, sequence, evidenceRequired
    title := payload.title.nullable t.title
    assignedTechnicianUserId :=
      payload.assignedTechnicianUserId.nullable t.assignedTechnicianUserId
    estimatedHours := payload.estimatedHours.nullable t.estimatedHours
    actualHours := payload.actualHours.nullable t.actualHours
    notes := payload.notes.nullable t.notes }

def updateTask (db : Database) (organizationId taskId : UUID) (actorUserId : Option UUID)
    (payload : TaskUpdateRequest) : Except Error Database := do
  let task ← db.getTask organizationId taskId
  let workOrder ← db.getWorkOrder organizationId task.workOrderId
  raiseIf (isFinal workOrder.status)
    (.conflict ("Cannot update tasks on a " ++ workOrder.status.value ++ " work order."))
  checkUser db organizationId (payload.assignedTechnicianUserId.nullable none)
  let updated ← payload.apply task
  pure (({ db with tasks := db.tasks.save updated }).recordAuditEvent organizationId actorUserId
    "task.updated" "Task" (some taskId))

/-- The row of a completed task. -/
def completed (now : DateTime) (t : Task) : Task :=
  { t with executionState := TaskExecutionState.completed, completedAt := some now }

def completeTask (db : Database) (now : DateTime) (task : Task) (actorUserId : Option UUID) :
    Except Error Database := do
  raiseIf (task.executionState = TaskExecutionState.completed)
    (.conflict "Task is already completed")
  raiseIf (task.executionState ∉ [TaskExecutionState.pending, TaskExecutionState.inProgress])
    (.conflict ("Cannot complete task from execution_state=" ++ pyRepr task.executionState))
  pure (({ db with tasks := db.tasks.save (completed now task) }).recordAuditEvent
    task.organizationId actorUserId "task.completed" "Task" (some task.id))

/-! ## What the operations write -/

variable {db db' : Database} {org workOrderId taskId newId : UUID} {now : DateTime}
  {actor : Option UUID} {w w' : WorkOrder}

/-- Tasks and inspections are as they were. -/
structure SameGates (db db' : Database) : Prop where
  tasks : db'.tasks = db.tasks
  inspections : db'.inspections = db.inspections

theorem createWorkOrder_eq_ok {createdBy : Option UUID} {payload : WorkOrderCreateRequest}
    (h : createWorkOrder db newId now org createdBy payload = .ok db') :
    ∃ primary, db.workOrders.insert? (newWorkOrder newId now org createdBy payload primary)
        = some db'.workOrders ∧ SameGates db db' := by
  obtain ⟨_, _, h⟩ := bind_eq_ok.1 h
  obtain ⟨primary, _, h⟩ := bind_eq_ok.1 h
  obtain ⟨_, _, h⟩ := bind_eq_ok.1 h
  obtain ⟨_, _, h⟩ := bind_eq_ok.1 h
  obtain ⟨workOrders, hadd, h⟩ := bind_eq_ok.1 h
  rw [pure_eq_ok] at h
  subst h
  exact ⟨primary, addRowOrRaise_eq_ok.1 hadd, rfl, rfl⟩

/-- What an update cannot change. -/
structure Edited (w w' : WorkOrder) : Prop where
  id : w'.id = w.id
  organization : w'.organizationId = w.organizationId
  status : w'.status = w.status
  assignee : w'.assignedToUserId = w.assignedToUserId
  completedAt : w'.completedAt = w.completedAt
  closedAt : w'.closedAt = w.closedAt
  reason : w'.cancellationReason = w.cancellationReason

variable {payload : WorkOrderUpdateRequest} {reason : Option String} {u : UnicodeTables}

theorem edited_of_apply (h : payload.apply w = .ok w') :
    Edited w w' := by
  obtain ⟨_, _, h⟩ := bind_eq_ok.1 h
  obtain ⟨_, _, h⟩ := bind_eq_ok.1 h
  obtain ⟨_, _, h⟩ := bind_eq_ok.1 h
  obtain ⟨_, _, h⟩ := bind_eq_ok.1 h
  rw [pure_eq_ok] at h
  subst h
  exact ⟨rfl, rfl, rfl, rfl, rfl, rfl, rfl⟩

theorem updateWorkOrder_eq_ok (h : updateWorkOrder db org workOrderId actor payload = .ok db') :
    ∃ w ∈ db.workOrders.rows, ∃ w', isFinal w.status = false ∧ Edited w w' ∧
      db'.workOrders = db.workOrders.save w' ∧ SameGates db db' := by
  obtain ⟨w, hget, h⟩ := bind_eq_ok.1 h
  obtain ⟨_, hopen, h⟩ := bind_eq_ok.1 h
  obtain ⟨w', happly, h⟩ := bind_eq_ok.1 h
  rw [pure_eq_ok] at h
  subst h
  exact ⟨w, (getWorkOrder_eq_ok hget).1, w', by simpa using raiseIf_eq_ok.1 hopen,
    edited_of_apply happly, rfl, rfl, rfl⟩

theorem status_assigned (w : WorkOrder) (technicianId : UUID) :
    ((w.status = .open ∨ w.status = .planned) ∧ (assigned w technicianId).status = .assigned) ∨
    (assigned w technicianId).status = w.status := by
  by_cases hmoves : w.status = .open ∨ w.status = .planned
  · exact Or.inl ⟨hmoves, if_pos hmoves⟩
  · exact Or.inr (if_neg hmoves)

theorem assignWorkOrder_eq_ok {assignedTo : UUID}
    (h : assignWorkOrder db org workOrderId actor assignedTo = .ok db') :
    ∃ w ∈ db.workOrders.rows, ∃ technicianId, isFinal w.status = false ∧
      db'.workOrders = db.workOrders.save (assigned w technicianId) ∧ SameGates db db' := by
  obtain ⟨w, hget, h⟩ := bind_eq_ok.1 h
  obtain ⟨_, hopen, h⟩ := bind_eq_ok.1 h
  obtain ⟨technician, _, h⟩ := bind_eq_ok.1 h
  rw [pure_eq_ok] at h
  subst h
  exact ⟨w, (getWorkOrder_eq_ok hget).1, technician.id, by simpa using raiseIf_eq_ok.1 hopen,
    rfl, rfl, rfl⟩

theorem transitionWorkOrder_eq_ok {target : String}
    (h : transitionWorkOrder u db now org workOrderId actor target reason = .ok db') :
    (db' = db ∧ ∃ w ∈ db.workOrders.rows, w.id = workOrderId ∧
      w.status = WorkOrderStatus.ofText target) ∨
    ∃ w ∈ db.workOrders.rows, ∃ w', w.id = workOrderId ∧ w.organizationId = org ∧
      WorkOrderStatus.ofText target ∈ allowedTransitions w.status ∧
      gated u db now org w reason (WorkOrderStatus.ofText target) = .ok w' ∧
      db'.workOrders = db.workOrders.save { w' with status := WorkOrderStatus.ofText target } ∧
      SameGates db db' := by
  obtain ⟨w, hget, h⟩ := bind_eq_ok.1 h
  obtain ⟨hmem, hid, horg⟩ := getWorkOrder_eq_ok hget
  by_cases hsame : w.status = WorkOrderStatus.ofText target
  · simp only [if_pos hsame] at h
    rw [pure_eq_ok] at h
    exact Or.inl ⟨h.symm, w, hmem, hid, hsame⟩
  · simp only [if_neg hsame] at h
    obtain ⟨_, hallowed, h⟩ := bind_eq_ok.1 h
    obtain ⟨w', hgated, h⟩ := bind_eq_ok.1 h
    rw [pure_eq_ok] at h
    subst h
    refine Or.inr ⟨w, hmem, w', hid, horg, ?_, hgated, rfl, rfl, rfl⟩
    have hnot := raiseIf_eq_ok.1 hallowed
    rwa [not_not] at hnot

/-- What a transition has checked, and what it has written. -/
structure Gated (u : UnicodeTables) (db : Database) (org : UUID) (target : WorkOrderStatus)
    (w w' : WorkOrder) : Prop where
  id : w'.id = w.id
  organization : w'.organizationId = w.organizationId
  assignee : w'.assignedToUserId = w.assignedToUserId
  assigned : target = .assigned ∨ target = .inProgress → w.assignedToUserId.isSome = true
  completedAt : target = .completed → w'.completedAt.isSome = true
  closedAt : target = .closed → w'.closedAt.isSome = true ∧ w'.completedAt = w.completedAt
  reason : target = .cancelled →
    ∃ text, w'.cancellationReason = some (u.strip text) ∧ 3 ≤ (u.strip text).length
  inspections : target = .completed →
    ∀ i ∈ inspectionsOf db org w.id (tasksOf db org w.id), satisfiesCompletionGate i.status = true

theorem gated_eq_ok {target : WorkOrderStatus} (h : gated u db now org w reason target = .ok w') :
    Gated u db org target w w' := by
  cases target with
  | assigned =>
    obtain ⟨_, hcheck, h⟩ := bind_eq_ok.1 h
    rw [pure_eq_ok] at h
    subst h
    have hassignee : w.assignedToUserId.isSome = true :=
      Option.isSome_iff_ne_none.2 (by simpa using raiseIf_eq_ok.1 hcheck)
    exact ⟨rfl, rfl, rfl, fun _ => hassignee, by simp, by simp, by simp, by simp⟩
  | inProgress =>
    obtain ⟨_, hcheck, h⟩ := bind_eq_ok.1 h
    rw [pure_eq_ok] at h
    subst h
    have hassignee : w.assignedToUserId.isSome = true :=
      Option.isSome_iff_ne_none.2 (by simpa using raiseIf_eq_ok.1 hcheck)
    exact ⟨rfl, rfl, rfl, fun _ => hassignee, by simp, by simp, by simp, by simp⟩
  | inspection =>
    obtain ⟨_, _, h⟩ := bind_eq_ok.1 h
    rw [pure_eq_ok] at h
    subst h
    exact ⟨rfl, rfl, rfl, by simp, by simp, by simp, by simp, by simp⟩
  | completed =>
    obtain ⟨_, hcheck, h⟩ := bind_eq_ok.1 h
    rw [pure_eq_ok] at h
    subst h
    refine ⟨rfl, rfl, rfl, by simp, fun _ => rfl, by simp, by simp, ?_⟩
    intro _ i hi
    have hnone := raiseIf_eq_ok.1 hcheck
    simp only [Bool.not_eq_false, List.isEmpty_iff, List.filter_eq_nil_iff] at hnone
    simpa using hnone i hi
  | closed =>
    obtain ⟨_, _, h⟩ := bind_eq_ok.1 h
    obtain ⟨_, _, h⟩ := bind_eq_ok.1 h
    obtain ⟨_, _, h⟩ := bind_eq_ok.1 h
    rw [pure_eq_ok] at h
    subst h
    exact ⟨rfl, rfl, rfl, by simp, by simp, fun _ => ⟨rfl, rfl⟩, by simp, by simp⟩
  | cancelled =>
    obtain ⟨_, hcheck, h⟩ := bind_eq_ok.1 h
    rw [pure_eq_ok] at h
    subst h
    refine ⟨rfl, rfl, rfl, by simp, by simp, by simp, ?_, by simp⟩
    intro _
    have hlong := raiseIf_eq_ok.1 hcheck
    rw [not_or] at hlong
    exact ⟨reason.getD "", rfl, by omega⟩
  | draft | «open» | planned | onHold | other text =>
    obtain rfl := pure_eq_ok.1 h
    exact ⟨rfl, rfl, rfl, by simp, by simp, by simp, by simp, by simp⟩

/-! ## What the operations on tasks write -/

/-- What `create_task` has found, and the row it has added. -/
structure TaskAdded (db db' : Database) (organizationId : UUID) (payload : TaskCreateRequest)
    (w : WorkOrder) (t : Task) : Prop where
  found : w ∈ db.workOrders.rows
  given : payload.workOrderId = some w.id
  inOrganization : w.organizationId = organizationId
  notFinal : isFinal w.status = false
  workOrder : t.workOrderId = w.id
  organization : t.organizationId = organizationId
  state : t.executionState = payload.executionState
  inserted : db.tasks.insert? t = some db'.tasks
  workOrders : db'.workOrders = db.workOrders
  inspections : db'.inspections = db.inspections

theorem createTask_eq_ok {payload : TaskCreateRequest}
    (h : createTask db newId org actor payload = .ok db') :
    ∃ t w, TaskAdded db db' org payload w t := by
  rw [createTask] at h
  cases hid : payload.workOrderId with
  | none =>
    rw [hid] at h
    cases h
  | some workOrderId =>
    rw [hid] at h
    obtain ⟨w, hget, h⟩ := bind_eq_ok.1 h
    obtain ⟨_, hopen, h⟩ := bind_eq_ok.1 h
    obtain ⟨_, _, h⟩ := bind_eq_ok.1 h
    obtain ⟨tasks, hadd, h⟩ := bind_eq_ok.1 h
    rw [pure_eq_ok] at h
    subst h
    obtain ⟨hmem, rfl, horg⟩ := getWorkOrder_eq_ok hget
    exact ⟨_, w, hmem, hid, horg, by simpa using raiseIf_eq_ok.1 hopen, rfl, rfl, rfl,
      addRowOrRaise_eq_ok.1 hadd, rfl, rfl⟩

/-- What an update or a completion cannot change of a task. -/
structure TaskKept (t t' : Task) : Prop where
  id : t'.id = t.id
  organization : t'.organizationId = t.organizationId
  workOrder : t'.workOrderId = t.workOrderId
  state : t'.executionState = t.executionState ∨ t'.executionState = TaskExecutionState.completed

theorem taskKept_of_apply {payload : TaskUpdateRequest} {t t' : Task}
    (h : payload.apply t = .ok t') : TaskKept t t' := by
  obtain ⟨_, _, h⟩ := bind_eq_ok.1 h
  obtain ⟨_, _, h⟩ := bind_eq_ok.1 h
  obtain ⟨_, _, h⟩ := bind_eq_ok.1 h
  rw [pure_eq_ok] at h
  subst h
  exact ⟨rfl, rfl, rfl, Or.inl rfl⟩

theorem updateTask_eq_ok {payload : TaskUpdateRequest}
    (h : updateTask db org taskId actor payload = .ok db') :
    ∃ t ∈ db.tasks.rows, ∃ t', TaskKept t t' ∧ db'.tasks = db.tasks.save t' ∧
      db'.workOrders = db.workOrders ∧ db'.inspections = db.inspections := by
  obtain ⟨t, hget, h⟩ := bind_eq_ok.1 h
  obtain ⟨_, _, h⟩ := bind_eq_ok.1 h
  obtain ⟨_, _, h⟩ := bind_eq_ok.1 h
  obtain ⟨_, _, h⟩ := bind_eq_ok.1 h
  obtain ⟨t', happly, h⟩ := bind_eq_ok.1 h
  rw [pure_eq_ok] at h
  subst h
  exact ⟨t, (getTask_eq_ok hget).1, t', taskKept_of_apply happly, rfl, rfl, rfl⟩

theorem completeTask_eq_ok {t : Task} (h : completeTask db now t actor = .ok db') :
    db'.tasks = db.tasks.save (completed now t) ∧ db'.workOrders = db.workOrders ∧
      db'.inspections = db.inspections := by
  obtain ⟨_, _, h⟩ := bind_eq_ok.1 h
  obtain ⟨_, _, h⟩ := bind_eq_ok.1 h
  rw [pure_eq_ok] at h
  subst h
  exact ⟨rfl, rfl, rfl⟩

theorem taskKept_completed (now : DateTime) (t : Task) : TaskKept t (completed now t) :=
  ⟨rfl, rfl, rfl, Or.inr rfl⟩

end WorkOrderService
end AeroComply
