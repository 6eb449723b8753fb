import AeroComply.Lib.StaleChecks
import AeroComply.Services.Procurement

/-!
# ProcurementRace — decisions on one request, or one order, at the same time

Any number of calls of `procurement_service` on one request, or of
`purchase_order_service` on one order, interleaved in any order.  Each reads the row
without a lock, checks `_ALLOWED_TRANSITIONS` against the status it has read, and writes
the columns it has changed by key.

A call that has checked before another commits writes over what the other has committed:
an approval over a rejection.  `decisions_follow_tables` says when the committed statuses
are a path in the table.
-/

namespace AeroComply

open Relational (Keyed Table)

namespace ProcurementRace

open Sessions (Call transaction)
open StaleChecks (Move System Event Machine Path StillAllowed)

/-- `UPDATE … SET column = …`, where the session leaves out a column that it sets to the value
it has read. -/
def changed {α : Type} [DecidableEq α] (seen assigned stored : α) : α :=
  if assigned = seen then stored else assigned

/-- A move that the table has, from one committed status to the next; a record that is not there
has no status. -/
def Follows {St : Type} (allowed : St → List St) : Option St → Option St → Prop
  | some current, some target => target ∈ allowed current
  | _, _ => False

instance {St : Type} [DecidableEq St] (allowed : St → List St) :
    DecidableRel (Follows allowed)
  | some current, some target => inferInstanceAs (Decidable (target ∈ allowed current))
  | none, _ => isFalse id
  | some _, none => isFalse id

@[simp] theorem changed_self {α : Type} [DecidableEq α] (seen assigned : α) :
    changed seen assigned seen = assigned := by
  rw [changed]
  split
  · next h => exact h.symm
  · rfl

/-! ## Requests -/

section Requests

open ProcurementService

/-- The calls on a request, with what each writes. -/
inductive RequestMove
  | submitForReview
  | approve (selectedVendorId : Option UUID)
  | reject (rejectionReason : String)
  | requestClarification (clarificationNote : String)
  | resubmit
  | markOrdered
  | markReceived
  | close

structure RequestCall where
  organizationId : UUID
  actorUserId : Option UUID
  move : RequestMove

namespace RequestMove

def target : RequestMove → ProcurementRequestStatus
  | .submitForReview => .underReview
  | .approve _ => .approved
  | .reject _ => .rejected
  | .requestClarification _ => .clarificationRequired
  | .resubmit => .submitted
  | .markOrdered => .ordered
  | .markReceived => .received
  | .close => .closed

def action : RequestMove → String
  | .submitForReview => "procurement_request.under_review"
  | .approve _ => "procurement_request.approved"
  | .reject _ => "procurement_request.rejected"
  | .requestClarification _ => "procurement_request.clarification_requested"
  | .resubmit => "procurement_request.resubmitted"
  | .markOrdered => "procurement_request.ordered"
  | .markReceived => "procurement_request.received"
  | .close => "procurement_request.closed"

/-- The row as the call assigns it. -/
def assigned (actorUserId : Option UUID) (request : ProcurementRequest) :
    RequestMove → ProcurementRequest
  | .approve selectedVendorId =>
    { request with
      approvedByUserId := actorUserId
      selectedVendorId := selectedVendorId.or request.preferredVendorId }
  | .reject reason => { request with rejectionReason := some reason }
  | .requestClarification note => { request with clarificationNote := some note }
  | .resubmit => { request with clarificationNote := none }
  | .submitForReview | .markOrdered | .markReceived | .close => request

/-- What is checked before the table; only an approval checks anything. -/
def guard (db : Database) (organizationId : UUID) (actorUserId : Option UUID)
    (request : ProcurementRequest) : RequestMove → Except Error Unit
  | .approve selectedVendorId => do
    raiseIf (actorUserId.isSome ∧ actorUserId = request.requestedByUserId)
      (.forbidden "A procurement request cannot be approved by its own requester"
        "self_approval_forbidden")
    checkGiven (VendorService.getVendor db organizationId)
      (selectedVendorId.or request.preferredVendorId)
  | .submitForReview | .reject _ | .requestClarification _ | .resubmit | .markOrdered
  | .markReceived | .close => .ok ()

end RequestMove

/-- The call as the service has it. -/
def RequestCall.run (requestId : UUID) (call : RequestCall) : Call Database Error Unit :=
  let organizationId := call.organizationId
  let actor := call.actorUserId
  match call.move with
  | .submitForReview => submitForReview organizationId actor requestId
  | .approve vendorId => approveRequest organizationId actor requestId vendorId
  | .reject reason => rejectRequest organizationId actor requestId reason
  | .requestClarification note => requestClarification organizationId actor requestId note
  | .resubmit => resubmitRequest organizationId actor requestId
  | .markOrdered => markOrdered organizationId actor requestId
  | .markReceived => markReceived organizationId actor requestId
  | .close => closeRequest organizationId actor requestId

/-- `UPDATE procurement_requests SET … WHERE id = …`. -/
def RequestCall.set (call : RequestCall) (seen stored : ProcurementRequest) : ProcurementRequest :=
  let assigned := call.move.assigned call.actorUserId seen
  { stored with
    status := call.move.target
    approvedByUserId :=
      changed seen.approvedByUserId assigned.approvedByUserId stored.approvedByUserId
    selectedVendorId :=
      changed seen.selectedVendorId assigned.selectedVendorId stored.selectedVendorId
    rejectionReason := changed seen.rejectionReason assigned.rejectionReason stored.rejectionReason
    clarificationNote :=
      changed seen.clarificationNote assigned.clarificationNote stored.clarificationNote }

theorem RequestCall.set_key (call : RequestCall) (seen stored : ProcurementRequest) :
    Keyed.key (call.set seen stored) = Keyed.key stored := rfl

/-- The call as the steps it takes. -/
def RequestCall.steps (requestId : UUID) (call : RequestCall) :
    Move Database ProcurementRequest Error where
  read db := getRequest db call.organizationId requestId
  check request db := do
    call.move.guard db call.organizationId call.actorUserId request
    requireTransition request.status call.move.target
  write request db :=
    ({ db with
        procurementRequests :=
          db.procurementRequests.updateWhere (Table.hasKey requestId) (call.set request)
            (call.set_key request) }).recordAuditEvent
      call.organizationId call.actorUserId call.move.action "ProcurementRequest" (some requestId)

/-- The request's status, and the table. -/
def requestMachine (requestId : UUID) :
    Machine Database ProcurementRequest (Option ProcurementRequestStatus) where
  status db := (db.procurementRequests.find? requestId).map ProcurementRequest.status
  seenStatus request := some request.status
  Allowed := Follows allowedTransitions

theorem RequestCall.set_self (call : RequestCall) (request : ProcurementRequest) :
    call.set request request
      = { call.move.assigned call.actorUserId request with status := call.move.target } := by
  rw [RequestCall.set]
  cases call.move <;> simp [RequestMove.assigned]

/-- With nobody else around the steps are the service function. -/
theorem RequestCall.run_eq (requestId : UUID) (call : RequestCall) :
    call.run requestId = transaction (call.steps requestId).alone := by
  have halone : (call.steps requestId).alone = fun db =>
      getRequest db call.organizationId requestId >>= fun request =>
        call.move.guard db call.organizationId call.actorUserId request >>= fun _ =>
          transitionRequest db call.organizationId call.actorUserId
            (call.move.assigned call.actorUserId request) call.move.target call.move.action := by
    funext db
    rw [Move.alone]
    show (getRequest db call.organizationId requestId >>= _) = _
    cases hget : getRequest db call.organizationId requestId with
    | error e => rfl
    | ok request =>
      obtain ⟨hmem, rfl, _⟩ := getRequest_eq_ok hget
      have hfind : db.procurementRequests.find? request.id = some request :=
        Table.find?_eq_some.2 ⟨hmem, rfl⟩
      have hsave : db.procurementRequests.updateWhere (Table.hasKey request.id)
          (call.set request) (call.set_key request)
          = db.procurementRequests.save (call.set request request) :=
        Table.updateWhere_hasKey hfind
      have hassigned : (call.move.assigned call.actorUserId request).status = request.status ∧
          (call.move.assigned call.actorUserId request).id = request.id := by
        cases call.move <;> exact ⟨rfl, rfl⟩
      simp only [ok_bind, RequestCall.steps, hsave, call.set_self, transitionRequest, bind_assoc,
        hassigned.1, hassigned.2]
  rw [halone]
  cases call with
  | mk organizationId actor move =>
    cases move with
    | approve vendorId =>
      simp only [RequestCall.run, approveRequest, RequestMove.guard, bind_assoc]
      rfl
    | submitForReview => rfl
    | reject reason => rfl
    | requestClarification note => rfl
    | resubmit => rfl
    | markOrdered => rfl
    | markReceived => rfl
    | close => rfl

theorem requestMachine_status_write (requestId : UUID) (call : RequestCall)
    (seen : ProcurementRequest) (db : Database) :
    (requestMachine requestId).status ((call.steps requestId).write seen db)
      = ((requestMachine requestId).status db).map fun _ => call.move.target := by
  show ((db.procurementRequests.updateWhere (Table.hasKey requestId) (call.set seen)
    (call.set_key seen)).find? requestId).map _ = _
  rw [Table.find?_updateWhere_hasKey, if_pos rfl, Option.map_map]
  show _ = ((db.procurementRequests.find? requestId).map _).map _
  rw [Option.map_map]
  rfl

theorem request_checks (requestId : UUID) (calls : Nat → RequestCall) :
    StaleChecks.Checks (fun i => (calls i).steps requestId) (requestMachine requestId) := by
  intro i seen db hcheck db' hsame
  obtain ⟨_, _, hmove⟩ := bind_eq_ok.1 hcheck
  rw [requireTransition, raiseIf_eq_ok, not_not] at hmove
  rw [Machine.Step, requestMachine_status_write, hsame]
  exact hmove

/-- Every state the interleaving `es` of the calls on one request passes through. -/
def requestStates (requestId : UUID) (calls : Nat → RequestCall) (db : Database)
    (es : List (Event Error)) : List (System Database ProcurementRequest Error) :=
  Runs.visited (StaleChecks.step fun i => (calls i).steps requestId) { committed := db } es

/-- The committed statuses are a path, and what was overwritten is neither a rejection nor a
closed request. -/
structure RequestExclusive (requestId : UUID) (r : System Database ProcurementRequest Error) :
    Prop where
  path : Path (requestMachine requestId) r
  rejected : ∀ db ∈ r.past, (requestMachine requestId).status db ≠ some .rejected
  closed : ∀ db ∈ r.past, (requestMachine requestId).status db ≠ some .closed

theorem not_follows {St : Type} {allowed : St → List St} {current : St} {target : Option St}
    (h : allowed current = []) : ¬ Follows allowed (some current) target := by
  cases target with
  | none => exact id
  | some target =>
    show target ∉ allowed current
    rw [h]
    exact List.not_mem_nil

theorem requestExclusive_iff {requestId : UUID} {r : System Database ProcurementRequest Error} :
    RequestExclusive requestId r ↔ Path (requestMachine requestId) r := by
  refine ⟨RequestExclusive.path, fun h => ⟨h, ?_, ?_⟩⟩
  · intro db hdb hstatus
    obtain ⟨db', _, hstep⟩ := h.exists_allowed hdb
    rw [Machine.Step, hstatus] at hstep
    exact not_follows rfl hstep
  · intro db hdb hstatus
    obtain ⟨db', _, hstep⟩ := h.exists_allowed hdb
    rw [Machine.Step, hstatus] at hstep
    exact not_follows rfl hstep

end Requests

/-! ## Orders -/

section Orders

open PurchaseOrderService

/-- The calls on an order, with what each writes. -/
inductive OrderMove
  | submit
  | approve
  | send
  | acknowledge (expectedDelivery : Option Date)
  | cancel

structure OrderCall where
  organizationId : UUID
  actorUserId : Option UUID
  move : OrderMove

namespace OrderMove

def target : OrderMove → PurchaseOrderStatus
  | .submit => .pendingApproval
  | .approve => .approved
  | .send => .sent
  | .acknowledge _ => .acknowledged
  | .cancel => .cancelled

def action : OrderMove → String
  | .submit => "purchase_order.submitted_for_approval"
  | .approve => "purchase_order.approved"
  | .send => "purchase_order.sent"
  | .acknowledge _ => "purchase_order.acknowledged"
  | .cancel => "purchase_order.cancelled"

/-- The row as the call assigns it. -/
def assigned (actorUserId : Option UUID) (po : PurchaseOrder) : OrderMove → PurchaseOrder
  | .approve => { po with approvedByUserId := actorUserId }
  | .acknowledge expectedDelivery => { po with expectedDelivery }
  | .submit | .send | .cancel => po

end OrderMove

/-- The call as the service has it. -/
def OrderCall.run (purchaseOrderId : UUID) (call : OrderCall) : Call Database Error Unit :=
  let organizationId := call.organizationId
  let actor := call.actorUserId
  match call.move with
  | .submit => submitForApproval organizationId actor purchaseOrderId
  | .approve => approvePurchaseOrder organizationId actor purchaseOrderId
  | .send => sendPurchaseOrder organizationId actor purchaseOrderId
  | .acknowledge expected => acknowledgePurchaseOrder organizationId actor purchaseOrderId expected
  | .cancel => cancelPurchaseOrder organizationId actor purchaseOrderId

/-- `UPDATE purchase_orders SET … WHERE id = …`. -/
def OrderCall.set (call : OrderCall) (seen stored : PurchaseOrder) : PurchaseOrder :=
  let assigned := call.move.assigned call.actorUserId seen
  { stored with
    status := call.move.target
    approvedByUserId :=
      changed seen.approvedByUserId assigned.approvedByUserId stored.approvedByUserId
    expectedDelivery :=
      changed seen.expectedDelivery assigned.expectedDelivery stored.expectedDelivery }

theorem OrderCall.set_key (call : OrderCall) (seen stored : PurchaseOrder) :
    Keyed.key (call.set seen stored) = Keyed.key stored := rfl

/-- The call as the steps it takes. -/
def OrderCall.steps (purchaseOrderId : UUID) (call : OrderCall) :
    Move Database PurchaseOrder Error where
  read db := getPurchaseOrder db call.organizationId purchaseOrderId
  check po _ := requireTransition po.status call.move.target
  write po db :=
    ({ db with
        purchaseOrders :=
          db.purchaseOrders.updateWhere (Table.hasKey purchaseOrderId) (call.set po)
            (call.set_key po) }).recordAuditEvent
      call.organizationId call.actorUserId call.move.action "PurchaseOrder" (some purchaseOrderId)

/-- The order's status, and the table. -/
def orderMachine (purchaseOrderId : UUID) :
    Machine Database PurchaseOrder (Option PurchaseOrderStatus) where
  status db := (db.purchaseOrders.find? purchaseOrderId).map PurchaseOrder.status
  seenStatus po := some po.status
  Allowed := Follows allowedTransitions

theorem OrderCall.set_self (call : OrderCall) (po : PurchaseOrder) :
    call.set po po
      = { call.move.assigned call.actorUserId po with status := call.move.target } := by
  rw [OrderCall.set]
  cases call.move <;> simp [OrderMove.assigned]

/-- With nobody else around the steps are the service function. -/
theorem OrderCall.run_eq (purchaseOrderId : UUID) (call : OrderCall) :
    call.run purchaseOrderId = transaction (call.steps purchaseOrderId).alone := by
  have halone : (call.steps purchaseOrderId).alone = fun db =>
      getPurchaseOrder db call.organizationId purchaseOrderId >>= fun po =>
        transitionOrder db call.organizationId call.actorUserId
          (call.move.assigned call.actorUserId po) call.move.target call.move.action := by
    funext db
    rw [Move.alone]
    show (getPurchaseOrder db call.organizationId purchaseOrderId >>= _) = _
    cases hget : getPurchaseOrder db call.organizationId purchaseOrderId with
    | error e => rfl
    | ok po =>
      obtain ⟨hmem, rfl, _⟩ := getPurchaseOrder_eq_ok hget
      have hfind : db.purchaseOrders.find? po.id = some po :=
        Table.find?_eq_some.2 ⟨hmem, rfl⟩
      have hsave : db.purchaseOrders.updateWhere (Table.hasKey po.id) (call.set po)
          (call.set_key po) = db.purchaseOrders.save (call.set po po) :=
        Table.updateWhere_hasKey hfind
      have hassigned : (call.move.assigned call.actorUserId po).status = po.status ∧
          (call.move.assigned call.actorUserId po).id = po.id := by
        cases call.move <;> exact ⟨rfl, rfl⟩
      simp only [ok_bind, OrderCall.steps, hsave, call.set_self, transitionOrder, hassigned.1,
        hassigned.2]
  rw [halone]
  cases call with
  | mk organizationId actor move => cases move <;> rfl

theorem orderMachine_status_write (purchaseOrderId : UUID) (call : OrderCall)
    (seen : PurchaseOrder) (db : Database) :
    (orderMachine purchaseOrderId).status ((call.steps purchaseOrderId).write seen db)
      = ((orderMachine purchaseOrderId).status db).map fun _ => call.move.target := by
  show ((db.purchaseOrders.updateWhere (Table.hasKey purchaseOrderId) (call.set seen)
    (call.set_key seen)).find? purchaseOrderId).map _ = _
  rw [Table.find?_updateWhere_hasKey, if_pos rfl, Option.map_map]
  show _ = ((db.purchaseOrders.find? purchaseOrderId).map _).map _
  rw [Option.map_map]
  rfl

theorem order_checks (purchaseOrderId : UUID) (calls : Nat → OrderCall) :
    StaleChecks.Checks (fun i => (calls i).steps purchaseOrderId)
      (orderMachine purchaseOrderId) := by
  intro i seen db hcheck db' hsame
  have hmove : requireTransition seen.status (calls i).move.target = .ok () := hcheck
  rw [requireTransition, raiseIf_eq_ok, not_not] at hmove
  rw [Machine.Step, orderMachine_status_write, hsame]
  exact hmove

/-- Every state the interleaving `es` of the calls on one order passes through. -/
def orderStates (purchaseOrderId : UUID) (calls : Nat → OrderCall) (db : Database)
    (es : List (Event Error)) : List (System Database PurchaseOrder Error) :=
  Runs.visited (StaleChecks.step fun i => (calls i).steps purchaseOrderId) { committed := db } es

/-- The committed statuses are a path, and what was overwritten is neither a cancellation nor an
acknowledgement. -/
structure OrderExclusive (purchaseOrderId : UUID) (r : System Database PurchaseOrder Error) :
    Prop where
  path : Path (orderMachine purchaseOrderId) r
  cancelled : ∀ db ∈ r.past, (orderMachine purchaseOrderId).status db ≠ some .cancelled
  acknowledged : ∀ db ∈ r.past, (orderMachine purchaseOrderId).status db ≠ some .acknowledged

theorem orderExclusive_iff {purchaseOrderId : UUID} {r : System Database PurchaseOrder Error} :
    OrderExclusive purchaseOrderId r ↔ Path (orderMachine purchaseOrderId) r := by
  refine ⟨OrderExclusive.path, fun h => ⟨h, ?_, ?_⟩⟩
  · intro db hdb hstatus
    obtain ⟨db', _, hstep⟩ := h.exists_allowed hdb
    rw [Machine.Step, hstatus] at hstep
    exact not_follows rfl hstep
  · intro db hdb hstatus
    obtain ⟨db', _, hstep⟩ := h.exists_allowed hdb
    rw [Machine.Step, hstatus] at hstep
    exact not_follows rfl hstep

end Orders

/-- **DECISIONS FOLLOW THE TABLES**, all along an interleaving, exactly when every call that commits
finds the status it has read, or another one that the table lets it leave for its target. -/
theorem decisions_follow_tables (requestId purchaseOrderId : UUID) (requests : Nat → RequestCall)
    (orders : Nat → OrderCall) (db : Database) (es : List (Event Error)) :
    ((∀ r ∈ requestStates requestId requests db es, RequestExclusive requestId r) ↔
      Runs.StepsMeet (StaleChecks.step fun i => (requests i).steps requestId)
        (StillAllowed (requestMachine requestId)) { committed := db } es) ∧
    ((∀ r ∈ orderStates purchaseOrderId orders db es, OrderExclusive purchaseOrderId r) ↔
      Runs.StepsMeet (StaleChecks.step fun i => (orders i).steps purchaseOrderId)
        (StillAllowed (orderMachine purchaseOrderId)) { committed := db } es) := by
  constructor
  · simp only [requestExclusive_iff]
    exact StaleChecks.forall_visited_path_iff (request_checks requestId requests) db es
  · simp only [orderExclusive_iff]
    exact StaleChecks.forall_visited_path_iff (order_checks purchaseOrderId orders) db es

/-- A submitted request, and an order that has been sent. -/
def undecided : Database where
  procurementRequests := Table.single { id := 5, organizationId := 1, status := .submitted }
  purchaseOrders := Table.single { id := 6, organizationId := 1, status := .sent }

/-- One rejects, the others approve. -/
def rejectAndApprove : Nat → RequestCall
  | 0 => ⟨1, some 7, .reject "Not needed"⟩
  | _ => ⟨1, some 8, .approve none⟩

/-- One cancels, the others acknowledge. -/
def cancelAndAcknowledge : Nat → OrderCall
  | 0 => ⟨1, some 7, .cancel⟩
  | _ => ⟨1, some 8, .acknowledge none⟩

/-- Both check before either writes. -/
def bothCheckFirst : List (Event Error) :=
  [.go 0, .go 0, .go 1, .go 1, .go 0, .go 0, .go 1, .go 1]

/-- The rejection is approved, and the cancelled order acknowledged. -/
theorem final_decisions_overwritten :
    (∃ r ∈ requestStates 5 rejectAndApprove undecided bothCheckFirst,
      r.history.map (requestMachine 5).status
          = [some .submitted, some .rejected, some .approved] ∧ ¬ RequestExclusive 5 r) ∧
    ∃ r ∈ orderStates 6 cancelAndAcknowledge undecided bothCheckFirst,
      r.history.map (orderMachine 6).status = [some .sent, some .cancelled, some .acknowledged] ∧
        ¬ OrderExclusive 6 r := by
  constructor
  · refine ⟨_, List.getLast_mem (List.cons_ne_nil _ _), rfl, ?_⟩
    intro h
    exact h.rejected _ (List.mem_cons_of_mem _ List.mem_cons_self) rfl
  · refine ⟨_, List.getLast_mem (List.cons_ne_nil _ _), rfl, ?_⟩
    intro h
    exact h.cancelled _ (List.mem_cons_of_mem _ List.mem_cons_self) rfl

end ProcurementRace
end AeroComply
