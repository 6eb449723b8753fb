import AeroComply.Services.AogStatus
import AeroComply.Services.DeletedWorkOrders
import AeroComply.Services.PartRequirementRuns
import AeroComply.Services.ProcurementRuns
import AeroComply.Services.WorkOrderRuns

/-!
# AogAvailability — the recovery status over the life of its records

Histories of what happens to an aircraft on the ground: an event is declared, its work order, tasks,
part requirements and requests go their ways, and work orders are soft-deleted and restored.  There
is a status as long as the active event links a live work order, or none (`LinkLive`).

`declare_aog` does not look at the work order it links, and `soft_delete_work_order` does not look
for events.  `available_along_iff` says which histories have a status all along.
-/

namespace AeroComply

open Relational (Keyed Table)
open Sessions (Call Keeps left query update each transaction)

namespace AogService

structure AogEventCreateRequest where
  aircraftId : UUID
  workOrderId : Option UUID := none
  severity : String := "CRITICAL"
  rootCause : Option String := none
  severity_length : severity.length ≤ 16 := by decide

/-- The event of a declaration. -/
def newEvent (newId organizationId : UUID) (aircraft : Aircraft)
    (payload : AogEventCreateRequest) : AogEvent where
  id := newId
  organizationId := organizationId
  aircraftId := payload.aircraftId
  -- `resolve_asset_id`
  assetId := aircraft.assetId
  workOrderId := payload.workOrderId
  status := .declared
  severity := payload.severity
  rootCause := payload.rootCause

/-- `declare_aog`: of the work order the table asks only that the row exists, whoever's it is. -/
def declareAog (db : Database) (newId organizationId : UUID) (actorUserId : Option UUID)
    (payload : AogEventCreateRequest) : Except Error Database := do
  let aircraft ← db.getAircraft organizationId payload.aircraftId
  raiseIf ((payload.workOrderId.all fun id => (db.workOrders.find? id).isSome) = false) .integrity
  let aogEvents ← addRow db.aogEvents (newEvent newId organizationId aircraft payload)
  pure (({ db with aogEvents }).recordAuditEvent organizationId actorUserId "aog_event.declared"
    "AogEvent" (some newId))

end AogService

namespace RestorationService

/-- The work order without its deletion; the stamp of the restoration is read by nothing. -/
def restored (w : WorkOrder) : WorkOrder :=
  { w with deletedAt := none, deletedBy := none, deletionReason := none }

/-- `restore_work_order`: for the platform, of any organization. -/
def restoreWorkOrder (db : Database) (actorUserId : Option UUID) (workOrderId : UUID) :
    Except Error Database := do
  let workOrder ← oneOrRaise (db.workOrders.select fun w => w.id = workOrderId)
    (.notFound "Work order not found")
  raiseIf (workOrder.deletedAt.isNone = true)
    (.conflict "Work order is not currently deleted" "not_deleted")
  pure (({ db with workOrders := db.workOrders.save (restored workOrder) }).recordAuditEvent
    workOrder.organizationId actorUserId "work_order.restored" "WorkOrder" (some workOrder.id))

end RestorationService

namespace TechnicianService

def assignTechnician (db : Database) (organizationId : UUID) (actorUserId : Option UUID)
    (taskId technicianUserId : UUID) : Except Error Database := do
  let task ← db.getTask organizationId taskId
  let _ ← oneOrRaise
    (db.users.select fun u => u.id = technicianUserId && u.organizationId = organizationId)
    (.notFound "Technician not found in this organization")
  let assigned := { task with assignedTechnicianUserId := some technicianUserId }
  pure (({ db with tasks := db.tasks.save assigned }).recordAuditEvent organizationId actorUserId
    "task.technician_assigned" "Task" (some task.id))

end TechnicianService

namespace AogAvailability

open AogRecoveryService AogService DeletionService ProcurementService PurchaseOrderService
open RestorationService TechnicianService

/-! ## The operations as actions -/

inductive Action (u : UnicodeTables)
  | declareAog (newId organizationId : UUID) (actor : Option UUID)
      (payload : AogEventCreateRequest)
  /-- Work orders, their tasks and their inspection requirements. -/
  | workOrder (a : WorkOrderRuns.Action u)
  | assignTechnician (organizationId : UUID) (actor : Option UUID)
      (taskId technicianUserId : UUID)
  | softDeleteWorkOrder (now : DateTime) (organizationId : UUID) (actor : Option UUID)
      (workOrderId : UUID) (reason : Option String)
  | restoreWorkOrder (actor : Option UUID) (workOrderId : UUID)
  | partRequirement (a : PartRequirementRuns.Action)
  | updatePartRequirement (organizationId : UUID) (actor : Option UUID) (requirementId : UUID)
      (payload : PartRequirementService.PartRequirementUpdateRequest)
  /-- Requests and approvals, purchase orders and deliveries. -/
  | procurement (c : ProcurementRuns.ProcurementCall)
  | submitForReview (organizationId : UUID) (actor : Option UUID) (requestId : UUID)
  | rejectRequest (organizationId : UUID) (actor : Option UUID) (requestId : UUID)
      (rejectionReason : String)
  | requestClarification (organizationId : UUID) (actor : Option UUID) (requestId : UUID)
      (clarificationNote : String)
  | resubmitRequest (organizationId : UUID) (actor : Option UUID) (requestId : UUID)
  | markOrdered (organizationId : UUID) (actor : Option UUID) (requestId : UUID)
  | markReceived (organizationId : UUID) (actor : Option UUID) (requestId : UUID)
  | closeRequest (organizationId : UUID) (actor : Option UUID) (requestId : UUID)

variable {u : UnicodeTables}

/-- A call is a step that leaves what it has committed. -/
def step (db : Database) : Action u → Except Error Database
  | .declareAog newId org actor payload => AogService.declareAog db newId org actor payload
  | .workOrder a => WorkOrderRuns.step db a
  | .assignTechnician org actor taskId technicianUserId =>
    TechnicianService.assignTechnician db org actor taskId technicianUserId
  | .softDeleteWorkOrder now org actor workOrderId reason =>
    (DeletionService.softDeleteWorkOrder u db now org actor workOrderId reason).map Prod.fst
  | .restoreWorkOrder actor workOrderId =>
    RestorationService.restoreWorkOrder db actor workOrderId
  | .partRequirement a => .ok (left (PartRequirementRuns.call a) db)
  | .updatePartRequirement org actor requirementId payload =>
    .ok (left (PartRequirementService.updatePartRequirement org actor requirementId payload) db)
  | .procurement c => .ok (left (ProcurementRuns.call c) db)
  | .submitForReview org actor requestId =>
    .ok (left (ProcurementService.submitForReview org actor requestId) db)
  | .rejectRequest org actor requestId reason =>
    .ok (left (ProcurementService.rejectRequest org actor requestId reason) db)
  | .requestClarification org actor requestId note =>
    .ok (left (ProcurementService.requestClarification org actor requestId note) db)
  | .resubmitRequest org actor requestId =>
    .ok (left (ProcurementService.resubmitRequest org actor requestId) db)
  | .markOrdered org actor requestId =>
    .ok (left (ProcurementService.markOrdered org actor requestId) db)
  | .markReceived org actor requestId =>
    .ok (left (ProcurementService.markReceived org actor requestId) db)
  | .closeRequest org actor requestId =>
    .ok (left (ProcurementService.closeRequest org actor requestId) db)

/-! ## What the operations leave alone -/

/-- The events and the aircraft are as they were, and what was live still is. -/
structure Kept (db db' : Database) : Prop where
  aogEvents : db'.aogEvents = db.aogEvents
  aircraft : db'.aircraft = db.aircraft
  assets : db'.assets = db.assets
  live : ∀ org id, IsLive db org id → IsLive db' org id

variable {db db' db'' w : Database}

theorem Kept.refl (db : Database) : Kept db db := ⟨rfl, rfl, rfl, fun _ _ h => h⟩

theorem Kept.trans (h : Kept db db') (h' : Kept db' db'') : Kept db db'' where
  aogEvents := h'.aogEvents.trans h.aogEvents
  aircraft := h'.aircraft.trans h.aircraft
  assets := h'.assets.trans h.assets
  live org id hlive := h'.live org id (h.live org id hlive)

theorem Kept.of_tables (haogEvents : db'.aogEvents = db.aogEvents)
    (haircraft : db'.aircraft = db.aircraft) (hassets : db'.assets = db.assets)
    (hworkOrders : db'.workOrders = db.workOrders) : Kept db db' := by
  refine ⟨haogEvents, haircraft, hassets, fun org id h => ?_⟩
  rw [IsLive, hworkOrders]
  exact h

theorem Kept.of_save {old new : WorkOrder} (haogEvents : db'.aogEvents = db.aogEvents)
    (haircraft : db'.aircraft = db.aircraft) (hassets : db'.assets = db.assets)
    (hworkOrders : db'.workOrders = db.workOrders.save new) (hold : old ∈ db.workOrders.rows)
    (hid : new.id = old.id) (horg : new.organizationId = old.organizationId)
    (hlive : old.deletedAt = none → new.deletedAt = none) : Kept db db' := by
  refine ⟨haogEvents, haircraft, hassets, ?_⟩
  rintro org id ⟨x, hx, hxid, hxorg, hxlive⟩
  have hkey : Keyed.key old = Keyed.key new := hid.symm
  rw [IsLive, hworkOrders]
  rcases Table.kept_or_replaced hold hkey hx with hx | ⟨rfl, hnew⟩
  · exact ⟨x, hx, hxid, hxorg, hxlive⟩
  · exact ⟨new, hnew, hid.trans hxid, horg.trans hxorg, hlive hxlive⟩

section WorkOrders

open WorkOrderService (gated transitionWorkOrder WorkOrderUpdateRequest)

variable {now : DateTime} {org id : UUID} {actor : Option UUID}

theorem deletedAt_of_apply {payload : WorkOrderUpdateRequest} {row row' : WorkOrder}
    (h : payload.apply row = .ok row') : row'.deletedAt = row.deletedAt := by
  obtain ⟨_, _, h⟩ := bind_eq_ok.1 h
  obtain ⟨_, _, h⟩ := bind_eq_ok.1 h
  obtain ⟨_, _, h⟩ := bind_eq_ok.1 h
  obtain ⟨_, _, h⟩ := bind_eq_ok.1 h
  cases h
  rfl

theorem deletedAt_of_gated {reason : Option String} {target : WorkOrderStatus}
    {row row' : WorkOrder} (h : gated u db now org row reason target = .ok row') :
    row'.deletedAt = row.deletedAt := by
  cases target with
  | assigned | inProgress | inspection | completed | cancelled =>
    obtain ⟨_, _, h⟩ := bind_eq_ok.1 h
    cases h
    rfl
  | closed =>
    obtain ⟨_, _, h⟩ := bind_eq_ok.1 h
    obtain ⟨_, _, h⟩ := bind_eq_ok.1 h
    obtain ⟨_, _, h⟩ := bind_eq_ok.1 h
    cases h
    rfl
  | draft | «open» | planned | onHold | other text =>
    cases h
    rfl

theorem transitionWorkOrder_kept {target : String} {reason : Option String} :
    Leaves (Kept db) (transitionWorkOrder u db now org id actor target reason) := by
  refine .bind fun row hrow => ?_
  dsimp only
  split
  · exact .ok (.refl db)
  · refine .bind fun _ _ => .bind fun moved hmoved => .ok ?_
    have hgated := WorkOrderService.gated_eq_ok hmoved
    have hdeleted := deletedAt_of_gated hmoved
    exact .of_save rfl rfl rfl rfl (Database.getWorkOrder_eq_ok hrow).1 hgated.id
      hgated.organization hdeleted.trans

/-- **THE LIFE OF A WORK ORDER** does not delete it. -/
theorem workOrder_kept (a : WorkOrderRuns.Action u) :
    Leaves (Kept db) (WorkOrderRuns.step db a) := by
  cases a with
  | createWorkOrder now newId org createdBy payload =>
    refine .bind fun _ _ => .bind fun _ _ => .bind fun _ _ => .bind fun _ _ =>
      .bind fun rows hrows => .ok ⟨rfl, rfl, rfl, ?_⟩
    rintro org id ⟨x, hx, hlive⟩
    exact ⟨x, (Table.mem_insert? (addRowOrRaise_eq_ok.1 hrows)).2 (Or.inl hx), hlive⟩
  | updateWorkOrder org id actor payload =>
    refine .bind fun row hrow => .bind fun _ _ => .bind fun updated hupdated => .ok ?_
    have hedited := WorkOrderService.edited_of_apply hupdated
    exact .of_save rfl rfl rfl rfl (Database.getWorkOrder_eq_ok hrow).1 hedited.id
      hedited.organization (deletedAt_of_apply hupdated).trans
  | assignWorkOrder org id actor technician =>
    refine .bind fun row hrow => .bind fun _ _ => .bind fun _ _ => .ok ?_
    exact .of_save rfl rfl rfl rfl (Database.getWorkOrder_eq_ok hrow).1 rfl rfl fun hlive => hlive
  | transitionWorkOrder now org id actor target reason => exact transitionWorkOrder_kept
  | cancelWorkOrder now org id actor payload => exact transitionWorkOrder_kept
  | completeWorkOrder now org id actor => exact transitionWorkOrder_kept
  | closeWorkOrder now org id actor => exact transitionWorkOrder_kept
  | createTask newId org actor payload =>
    rw [WorkOrderRuns.step, WorkOrderService.createTask]
    cases payload.workOrderId with
    | none => exact .error _
    | some workOrderId =>
      exact .bind fun _ _ => .bind fun _ _ => .bind fun _ _ => .bind fun _ _ =>
        .ok (.of_tables rfl rfl rfl rfl)
  | updateTask org taskId actor payload =>
    exact .bind fun _ _ => .bind fun _ _ => .bind fun _ _ => .bind fun _ _ => .bind fun _ _ =>
      .ok (.of_tables rfl rfl rfl rfl)
  | completeTask now org taskId actor =>
    exact .bind fun _ _ => .bind fun _ _ => .bind fun _ _ => .ok (.of_tables rfl rfl rfl rfl)
  | createInspectionRequirement newId org args =>
    intro db' h
    obtain ⟨_, h⟩ := map_fst_eq_ok h
    rw [(InspectionService.createInspectionRequirement_eq_ok h).others]
    exact .of_tables rfl rfl rfl rfl
  | transitionInspectionRequirement org requirementId target actor inspector reason =>
    refine .bind fun _ _ => fun db' h => ?_
    obtain ⟨_, h⟩ := map_fst_eq_ok h
    obtain ⟨_, _, _, _, rfl⟩ := InspectionService.transitionInspectionRequirement_eq_ok h
    exact .of_tables rfl rfl rfl rfl

theorem assignTechnician_kept {taskId technicianUserId : UUID} :
    Leaves (Kept db) (TechnicianService.assignTechnician db org actor taskId technicianUserId) :=
  .bind fun _ _ => .bind fun _ _ => .ok (.of_tables rfl rfl rfl rfl)

theorem restoreWorkOrder_kept :
    Leaves (Kept db) (RestorationService.restoreWorkOrder db actor id) := by
  refine .bind fun row hrow => .bind fun _ _ => .ok ?_
  exact .of_save rfl rfl rfl rfl (mem_of_oneOrRaise hrow).1 rfl rfl fun _ => rfl

end WorkOrders

/-! ## Calls that write neither events nor work orders -/

section Calls

variable {org : UUID} {actor : Option UUID}

variable {f : Database → Except Error Database} {target : ProcurementRequestStatus}
  {action : String} {partId : UUID} {newId : UUID} {poId : UUID}

theorem keeps_transaction (h : ∀ w, Leaves (Kept w) (f w)) : Keeps (Kept db) (transaction f) :=
  Keeps.transaction fun w w' hw hf => hw.trans (h w w' hf)

theorem keeps_update (h : ∀ w, Leaves (Kept w) (f w)) :
    Keeps (Kept db) (update f) := Keeps.update fun w w' hw hf => hw.trans (h w w' hf)

theorem transitionRequest_kept {request : ProcurementRequest} :
    Leaves (Kept w) (transitionRequest w org actor request target action) :=
  .bind fun _ _ => .ok (.of_tables rfl rfl rfl rfl)

theorem moveRequest_keeps {requestId : UUID} {extra : ProcurementRequest → ProcurementRequest} :
    Keeps (Kept db) (moveRequest org actor requestId extra target action) :=
  keeps_transaction fun _ => .bind fun _ _ => transitionRequest_kept

theorem markOrdered_keeps (requestId : UUID) :
    Keeps (Kept db) (markOrdered org actor requestId) :=
  keeps_transaction fun _ => .bind fun _ _ => transitionRequest_kept

theorem markReceived_keeps (requestId : UUID) :
    Keeps (Kept db) (markReceived org actor requestId) :=
  keeps_transaction fun _ => .bind fun _ _ => transitionRequest_kept

theorem moveOrder_keeps {extra : PurchaseOrder → PurchaseOrder} {target : PurchaseOrderStatus} :
    Keeps (Kept db) (moveOrder org actor poId extra target action) :=
  keeps_transaction fun _ => .bind fun _ _ => .bind fun _ _ => .ok (.of_tables rfl rfl rfl rfl)

theorem createPurchaseOrder_keeps {newLineId : Nat → UUID} {payload : PurchaseOrderCreateRequest} :
    Keeps (Kept db) (createPurchaseOrder newId newLineId org actor payload) := by
  refine Keeps.bind (keeps_update fun w => ?_) fun _ =>
    Keeps.bind (Keeps.each markOrdered_keeps _) fun _ =>
      keeps_transaction fun w => .ok (.of_tables rfl rfl rfl rfl)
  exact .bind fun _ _ => .bind fun _ _ => .bind fun _ _ => .bind fun _ _ => .bind fun _ _ =>
    .bind fun _ _ => .ok (.of_tables rfl rfl rfl rfl)

theorem recomputeStatusForPart_keeps :
    Keeps (Kept db) (PartRequirementService.recomputeStatusForPart org partId) :=
  keeps_transaction fun _ => .bind fun _ _ => .ok (.of_tables rfl rfl rfl rfl)

theorem fulfillFromReceipt_keeps {workOrderId taskId : Option UUID} {quantity : Int} :
    Keeps (Kept db)
      (PartRequirementService.fulfillFromReceipt org partId workOrderId taskId quantity) := by
  cases workOrderId with
  | none => exact Keeps.pure ()
  | some workOrderId =>
    rw [PartRequirementService.fulfillFromReceipt]
    split
    · exact Keeps.pure ()
    · refine keeps_transaction fun w => ?_
      dsimp only
      split
      · exact .ok (.refl w)
      · exact .bind fun _ _ => .ok (.of_tables rfl rfl rfl rfl)

theorem updatePartRequirement_keeps {requirementId : UUID}
    {payload : PartRequirementService.PartRequirementUpdateRequest} :
    Keeps (Kept db)
      (PartRequirementService.updatePartRequirement org actor requirementId payload) := by
  refine keeps_transaction fun w => .bind fun _ _ => .bind fun _ _ => .bind fun _ _ =>
    .bind fun _ _ => .bind fun _ _ => .bind fun _ _ => .ok ?_
  split
  · exact .of_tables rfl rfl rfl rfl
  · exact .of_tables rfl rfl rfl rfl

theorem partRequirement_keeps (a : PartRequirementRuns.Action) :
    Keeps (Kept db) (PartRequirementRuns.call a) := by
  cases a with
  | create newId now org actor payload =>
    exact keeps_transaction fun _ => .bind fun _ _ => .bind fun _ _ => .bind fun _ _ =>
      .bind fun _ _ => .bind fun _ _ => .ok (.of_tables rfl rfl rfl rfl)
  | update org actor requirementId payload noStatus => exact updatePartRequirement_keeps
  | recompute org partId => exact recomputeStatusForPart_keeps
  | fulfill org partId workOrderId taskId q => exact fulfillFromReceipt_keeps

theorem receivePart_keeps {newId partId : UUID}
    {payload : InventoryTransactionService.InventoryQuantityRequest} :
    Keeps (Kept db) (InventoryTransactionService.receivePart newId org actor partId payload) :=
  Keeps.bind (keeps_update fun _ => .bind fun _ _ => .bind fun _ _ => .bind fun _ _ =>
    .bind fun _ _ => .ok (.of_tables rfl rfl rfl rfl)) fun _ =>
    Keeps.commit.bind fun _ => recomputeStatusForPart_keeps

open ReceivingService

theorem postReceipt_keeps {notes : Option String} {receipt : ReceiveLineRequest}
    {line : PurchaseOrderLine} :
    Keeps (Kept db) (postReceipt newId org actor notes receipt line) := by
  refine (Keeps.query _).bind fun request => ?_
  cases request with
  | none => exact Keeps.pure ()
  | some request =>
    cases hpart : request.partId with
    | none =>
      simp only [hpart]
      exact Keeps.pure ()
    | some partId =>
      simp only [hpart]
      exact receivePart_keeps.bind fun _ => fulfillFromReceipt_keeps

theorem closeRequests_keeps {po : PurchaseOrder} {lines : List PurchaseOrderLine} :
    Keeps (Kept db) (closeRequests org actor po lines) := by
  rw [closeRequests]
  split
  · refine Keeps.each (fun line => (Keeps.query _).bind fun request => ?_) lines
    cases request with
    | none => exact Keeps.pure ()
    | some request =>
      show Keeps _ (if request.status = .ordered then _ else _)
      split
      · exact markReceived_keeps request.id
      · exact Keeps.pure ()
  · exact Keeps.pure ()

theorem receivePurchaseOrder_keeps {newId : Nat → UUID} {payload : ReceivePurchaseOrderRequest} :
    Keeps (Kept db) (receivePurchaseOrder newId org actor poId payload) := by
  refine (Keeps.query _).bind fun po => Keeps.bind (Keeps.each (fun item => ?_) _) fun _ =>
    Keeps.bind (keeps_update fun _ => .ok (.of_tables rfl rfl rfl rfl)) fun _ =>
      (Keeps.query _).bind fun lines => closeRequests_keeps.bind fun _ => Keeps.commit
  refine (Keeps.query _).bind fun line => (Keeps.update ?_).bind fun _ => postReceipt_keeps
  intro w w' hw h
  cases h
  exact hw.trans (.of_tables rfl rfl rfl rfl)

/-- **PROCUREMENT** leaves the events and the work orders alone. -/
theorem procurement_keeps (c : ProcurementRuns.ProcurementCall) :
    Keeps (Kept db) (ProcurementRuns.call c) := by
  cases c with
  | createRequest newId org actor payload =>
    exact keeps_transaction fun _ => .bind fun _ _ => .bind fun _ _ => .bind fun _ _ =>
      .bind fun _ _ => .bind fun _ _ => .bind fun _ _ => .bind fun _ _ =>
      .ok (.of_tables rfl rfl rfl rfl)
  | approveRequest org actor requestId vendorId =>
    exact keeps_transaction fun _ => .bind fun _ _ => .bind fun _ _ => .bind fun _ _ =>
      transitionRequest_kept
  | createPurchaseOrder newId newLineId org actor payload => exact createPurchaseOrder_keeps
  | submitForApproval org actor poId => exact moveOrder_keeps
  | approvePurchaseOrder org actor poId => exact moveOrder_keeps
  | sendPurchaseOrder org actor poId => exact moveOrder_keeps
  | acknowledgePurchaseOrder org actor poId day => exact moveOrder_keeps
  | cancelPurchaseOrder org actor poId => exact moveOrder_keeps
  | receivePurchaseOrder newId org actor poId payload => exact receivePurchaseOrder_keeps

end Calls

/-! ## Where there is a status -/

/-- There is a status for every aircraft of every organization, at every time. -/
def Available (db : Database) : Prop :=
  ∀ now org aircraftId aircraft, db.getAircraft org aircraftId = .ok aircraft →
    ∃ status, getRecoveryStatus db now org aircraftId = .ok status

def Links (db : Database) (org aircraftId workOrderId : UUID) : Prop :=
  ∃ event, activeEvent (listAogEvents db org aircraftId) = some event ∧
    event.workOrderId = some workOrderId

/-- A declaration that goes through, for an aircraft without an active event, links a live work
order of the organization or none; and a work order that is soft-deleted is not linked by the
active event of an aircraft. -/
def KeepsAvailable (db : Database) : Action u → Prop
  | .declareAog newId org actor payload =>
    (AogService.declareAog db newId org actor payload).isOk = true →
      activeEvent (listAogEvents db org payload.aircraftId) = none →
      ∀ workOrderId, payload.workOrderId = some workOrderId → IsLive db org workOrderId
  | .softDeleteWorkOrder now org actor workOrderId reason =>
    (DeletionService.softDeleteWorkOrder u db now org actor workOrderId reason).isOk = true →
      ∀ aircraftId aircraft, db.getAircraft org aircraftId = .ok aircraft →
        ¬Links db org aircraftId workOrderId
  | _ => True

theorem available_iff : Available db ↔
    ∀ org aircraftId aircraft, db.getAircraft org aircraftId = .ok aircraft →
      ∀ workOrderId, Links db org aircraftId workOrderId → IsLive db org workOrderId := by
  constructor
  · rintro h org aircraftId aircraft haircraft workOrderId ⟨event, hevent, hlinked⟩
    exact (getRecoveryStatus_isOk_iff 0 haircraft).1 (h 0 org aircraftId aircraft haircraft)
      event hevent workOrderId hlinked
  · intro h now org aircraftId aircraft haircraft
    exact (getRecoveryStatus_isOk_iff now haircraft).2 fun event hevent workOrderId hlinked =>
      h org aircraftId aircraft haircraft workOrderId ⟨event, hevent, hlinked⟩

theorem getAircraft_congr (haircraft : db'.aircraft = db.aircraft)
    (hassets : db'.assets = db.assets) (org aircraftId : UUID) :
    db'.getAircraft org aircraftId = db.getAircraft org aircraftId := by
  have hjoined : db'.notSoftDeleted = db.notSoftDeleted := by
    funext a
    rw [Database.notSoftDeleted, Database.notSoftDeleted, hassets]
  rw [Database.getAircraft, Database.getAircraft, haircraft, hjoined]

theorem Available.of_kept (h : Available db) (hkept : Kept db db') : Available db' := by
  rw [available_iff] at h ⊢
  intro org aircraftId aircraft haircraft workOrderId hlinks
  rw [getAircraft_congr hkept.aircraft hkept.assets] at haircraft
  rw [Links, listAogEvents, hkept.aogEvents] at hlinks
  exact hkept.live org workOrderId (h org aircraftId aircraft haircraft workOrderId hlinks)

/-! ## A declaration -/

section Declaration

variable {newId org : UUID} {actor : Option UUID} {payload : AogEventCreateRequest}

theorem declareAog_eq_ok (h : AogService.declareAog db newId org actor payload = .ok db') :
    (∃ aircraft event, db.getAircraft org payload.aircraftId = .ok aircraft ∧
      event = newEvent newId org aircraft payload ∧ ∀ org' aircraftId,
        listAogEvents db' org' aircraftId = listAogEvents db org' aircraftId ++
          if org = org' ∧ payload.aircraftId = aircraftId then [event] else []) ∧
      db'.aircraft = db.aircraft ∧ db'.assets = db.assets ∧ db'.workOrders = db.workOrders := by
  obtain ⟨aircraft, haircraft, h⟩ := bind_eq_ok.1 h
  obtain ⟨_, _, h⟩ := bind_eq_ok.1 h
  obtain ⟨rows, hrows, h⟩ := bind_eq_ok.1 h
  cases h
  refine ⟨⟨aircraft, _, haircraft, rfl, fun org' aircraftId => ?_⟩, rfl, rfl, rfl⟩
  refine (Table.select_insert? (addRowOrRaise_eq_ok.1 hrows) _).trans ?_
  congr 1
  simp only [List.filter_cons, List.filter_nil, newEvent, Bool.and_eq_true, decide_eq_true_eq]

theorem declareAog_iff (hdb : Available db)
    (h : AogService.declareAog db newId org actor payload = .ok db') :
    Available db' ↔ (activeEvent (listAogEvents db org payload.aircraftId) = none →
      ∀ workOrderId, payload.workOrderId = some workOrderId → IsLive db org workOrderId) := by
  obtain ⟨⟨aircraft, event, haircraft, hevent, hlisted⟩, haircrafts, hassets, hworkOrders⟩ :=
    declareAog_eq_ok h
  have hlive : ∀ org' id, IsLive db' org' id ↔ IsLive db org' id := fun org' id => by
    rw [IsLive, IsLive, hworkOrders]
  -- the event is active, and comes after those that were there
  have hactive : activeEvent (listAogEvents db' org payload.aircraftId)
      = (activeEvent (listAogEvents db org payload.aircraftId)).or (some event) := by
    rw [hlisted, if_pos ⟨rfl, rfl⟩, activeEvent, List.find?_append, hevent]
    rfl
  have hother : ∀ org' aircraftId, ¬(org = org' ∧ payload.aircraftId = aircraftId) →
      listAogEvents db' org' aircraftId = listAogEvents db org' aircraftId :=
    fun org' aircraftId hne => by rw [hlisted, if_neg hne, List.append_nil]
  rw [available_iff] at hdb ⊢
  constructor
  · intro hall hnone workOrderId hgiven
    refine (hlive org workOrderId).1
      (hall org payload.aircraftId aircraft ?_ workOrderId ⟨event, ?_, ?_⟩)
    · rw [getAircraft_congr haircrafts hassets]
      exact haircraft
    · rw [hactive, hnone]
      rfl
    · rw [hevent]
      exact hgiven
  · rintro hok org' aircraftId found hfound workOrderId ⟨shown, hshown, hlinked⟩
    rw [getAircraft_congr haircrafts hassets] at hfound
    rw [hlive]
    by_cases hsame : org = org' ∧ payload.aircraftId = aircraftId
    · obtain ⟨rfl, rfl⟩ := hsame
      rw [hactive] at hshown
      cases hbefore : activeEvent (listAogEvents db org payload.aircraftId) with
      | none =>
        rw [hbefore] at hshown
        cases hshown
        rw [hevent] at hlinked
        exact hok hbefore workOrderId hlinked
      | some old =>
        rw [hbefore] at hshown
        obtain rfl : old = shown := Option.some.inj hshown
        exact hdb org _ found hfound workOrderId ⟨_, hbefore, hlinked⟩
    · rw [hother org' aircraftId hsame] at hshown
      exact hdb org' aircraftId found hfound workOrderId ⟨shown, hshown, hlinked⟩

end Declaration

/-! ## A deletion -/

section Deletion

variable {now : DateTime} {org workOrderId : UUID} {actor : Option UUID} {reason : Option String}
  {row : WorkOrder}

theorem isLive_softDeleted
    (h : DeletionService.softDeleteWorkOrder u db now org actor workOrderId reason
      = .ok (db', row)) (org' id : UUID) :
    IsLive db' org' id ↔ IsLive db org' id ∧ id ≠ workOrderId := by
  obtain ⟨old, hfound, h⟩ := bind_eq_ok.1 h
  obtain ⟨_, _, h⟩ := bind_eq_ok.1 h
  cases h
  have hid := (mem_of_oneOrRaise hfound).2
  simp only [Bool.and_eq_true, decide_eq_true_eq] at hid
  obtain ⟨rfl, -⟩ := hid
  constructor
  · rintro ⟨x, hx, rfl, rfl, hlive⟩
    rcases Table.mem_save.1 hx with ⟨hx, hne⟩ | ⟨rfl, -⟩
    · exact ⟨⟨x, hx, rfl, rfl, hlive⟩, hne⟩
    · cases hlive
  · rintro ⟨⟨x, hx, rfl, rfl, hlive⟩, hne⟩
    exact ⟨x, Table.mem_save.2 (Or.inl ⟨hx, hne⟩), rfl, rfl, hlive⟩

theorem softDeleteWorkOrder_iff (hdb : Available db)
    (h : DeletionService.softDeleteWorkOrder u db now org actor workOrderId reason
      = .ok (db', row)) :
    Available db' ↔ ∀ aircraftId aircraft, db.getAircraft org aircraftId = .ok aircraft →
      ¬Links db org aircraftId workOrderId := by
  have hlive := isLive_softDeleted h
  obtain ⟨old, hread, h⟩ := bind_eq_ok.1 h
  obtain ⟨_, _, h⟩ := bind_eq_ok.1 h
  obtain ⟨hold, hfound⟩ := mem_of_oneOrRaise hread
  simp only [Bool.and_eq_true, decide_eq_true_eq] at hfound
  have haircraft : ∀ org' aircraftId, db'.getAircraft org' aircraftId
      = db.getAircraft org' aircraftId := by
    cases h
    exact getAircraft_congr rfl rfl
  have hlinks : ∀ org' aircraftId id, Links db' org' aircraftId id ↔ Links db org' aircraftId id := by
    cases h
    exact fun _ _ _ => Iff.rfl
  rw [available_iff] at hdb ⊢
  constructor
  · intro hall aircraftId aircraft hget hlink
    rw [← haircraft] at hget
    exact ((hlive org workOrderId).1 (hall org aircraftId aircraft hget workOrderId
      ((hlinks _ _ _).2 hlink))).2 rfl
  · intro hnone org' aircraftId aircraft hget id hlink
    rw [haircraft] at hget
    rw [hlinks] at hlink
    have hwas := hdb org' aircraftId aircraft hget id hlink
    refine (hlive org' id).2 ⟨hwas, ?_⟩
    rintro rfl
    -- the row is one of the organization that deletes it
    obtain ⟨x, hx, hid, hxorg, -⟩ := hwas
    obtain rfl : x = old := Table.eq_of_key_eq hx hold (hid.trans hfound.1.symm)
    obtain rfl : org' = org := hxorg.symm.trans hfound.2
    exact hnone aircraftId aircraft hget hlink

end Deletion

/-! ## Histories -/

open Runs (StepsMeet attempt forall_visited_iff visited)

theorem available_attempt {a : Action u} (hdb : Available db)
    (h : Leaves (Kept db) (step db a)) : Available (attempt step db a) := by
  rcases Runs.attempt_cases step db a with hsame | hok
  · rw [hsame]
    exact hdb
  · exact hdb.of_kept (h _ hok)

theorem leaves_left {c : Call Database Error Unit} (h : Keeps (Kept db) c) :
    Leaves (Kept db) (.ok (left c db)) := .ok (h.left (.refl db))

/-- **ONE OPERATION** keeps the status available exactly when it meets the condition. -/
theorem available_step_iff (hdb : Available db) (a : Action u) :
    Available (attempt step db a) ↔ KeepsAvailable db a := by
  cases a with
  | declareAog newId org actor payload =>
    cases h : AogService.declareAog db newId org actor payload with
    | error e =>
      have hsame : attempt step db (.declareAog newId org actor payload : Action u) = db := by
        rw [attempt, step, h]
      rw [hsame, KeepsAvailable, h]
      refine iff_of_true hdb fun hfalse => ?_
      cases hfalse
    | ok db' =>
      have hafter : attempt step db (.declareAog newId org actor payload : Action u) = db' := by
        rw [attempt, step, h]
      rw [hafter, KeepsAvailable, h, declareAog_iff hdb h]
      exact ⟨fun hok _ => hok, fun hok => hok rfl⟩
  | softDeleteWorkOrder now org actor workOrderId reason =>
    cases h : DeletionService.softDeleteWorkOrder u db now org actor workOrderId reason with
    | error e =>
      have hsame : attempt step db
          (.softDeleteWorkOrder now org actor workOrderId reason : Action u) = db := by
        rw [attempt, step, h]
        rfl
      rw [hsame, KeepsAvailable, h]
      refine iff_of_true hdb fun hfalse => ?_
      cases hfalse
    | ok x =>
      have hafter : attempt step db
          (.softDeleteWorkOrder now org actor workOrderId reason : Action u) = x.1 := by
        rw [attempt, step, h]
        rfl
      rw [hafter, KeepsAvailable, h, softDeleteWorkOrder_iff hdb h]
      exact ⟨fun hok _ => hok, fun hok => hok rfl⟩
  | workOrder a => exact iff_of_true (available_attempt hdb (workOrder_kept a)) trivial
  | assignTechnician org actor taskId technicianUserId =>
    exact iff_of_true (available_attempt hdb assignTechnician_kept) trivial
  | restoreWorkOrder actor workOrderId =>
    exact iff_of_true (available_attempt hdb restoreWorkOrder_kept) trivial
  | partRequirement a =>
    exact iff_of_true (available_attempt hdb (leaves_left (partRequirement_keeps a))) trivial
  | updatePartRequirement org actor requirementId payload =>
    exact iff_of_true (available_attempt hdb (leaves_left updatePartRequirement_keeps)) trivial
  | procurement c =>
    exact iff_of_true (available_attempt hdb (leaves_left (procurement_keeps c))) trivial
  | markOrdered org actor requestId =>
    exact iff_of_true (available_attempt hdb (leaves_left (markOrdered_keeps requestId))) trivial
  | markReceived org actor requestId =>
    exact iff_of_true (available_attempt hdb (leaves_left (markReceived_keeps requestId))) trivial
  | submitForReview | rejectRequest | requestClarification | resubmitRequest | closeRequest =>
    exact iff_of_true (available_attempt hdb (leaves_left moveRequest_keeps)) trivial

/-- **ALWAYS AVAILABLE**: along a history there is a recovery status for every aircraft, exactly
when no declaration gives an aircraft its active event with a work order that is not live, and no
work order is soft-deleted that the active event of an aircraft links. -/
theorem available_along_iff (hdb : Available db) (actions : List (Action u)) :
    (∀ db' ∈ visited step db actions, Available db') ↔
      StepsMeet step KeepsAvailable db actions :=
  forall_visited_iff (P := Available) (fun _ _ (_ : True) => trivial) actions db trivial hdb
    fun _ _ hdb a _ => available_step_iff hdb a

/-! ## A work order that is deleted under its event -/

/-- An aircraft, and an open work order on it. -/
def hangar : Database where
  aircraft := .single
    { id := 3, organizationId := 1, registration := "VT-A", msn := "1", aircraftType := "A320" }
  workOrders := .single { id := 4, organizationId := 1, aircraftId := some 3 }

/-- The aircraft is declared to be on the ground, with the work order that is to bring it back. -/
def grounding : Action .ascii :=
  .declareAog 7 1 none { aircraftId := 3, workOrderId := some 4 }

theorem available_hangar : Available hangar :=
  available_iff.2 fun _ _ _ _ _ h => by
    obtain ⟨_, h, -⟩ := h
    cases h

/-- The work order goes its way. -/
def planning : List (Action .ascii) :=
  [grounding, .workOrder (.transitionWorkOrder 1 1 4 none "PLANNED" none)]

theorem planning_available :
    StepsMeet step KeepsAvailable hangar planning ∧
      ∀ db' ∈ visited step hangar planning, Available db' := by
  have hkeeps : StepsMeet step KeepsAvailable hangar planning := by
    refine ⟨fun _ _ workOrderId h => ?_, trivial, trivial⟩
    cases h
    exact ⟨_, List.mem_singleton_self _, rfl, rfl, rfl⟩
  exact ⟨hkeeps, (available_along_iff available_hangar planning).2 hkeeps⟩

/-- **THE WORK ORDER IS GONE**, and with it the status of the aircraft. -/
theorem deletion_unavailable :
    ¬∀ db' ∈ visited step hangar [grounding, .softDeleteWorkOrder 1 1 none 4 none],
      Available db' := by
  intro h
  have hlast := h _ (List.mem_cons_of_mem _ (List.mem_cons_of_mem _ (List.mem_singleton_self _)))
  obtain ⟨status, hstatus⟩ := hlast 0 1 3 _ rfl
  cases hstatus

end AogAvailability
end AeroComply
