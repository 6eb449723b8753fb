import AeroComply.Services.Part

/-!
# Procurement — requests for parts and the orders they end in

`app/services/procurement_service.py` and `app/services/purchase_order_service.py`.
A status moves along the `_ALLOWED_TRANSITIONS` of its service only; the two tables
do not know of each other.  An order marks the requests it is created for, each mark
commits, and no other operation on an order writes a request.
-/

namespace AeroComply

open Sessions (Call update transaction each)

namespace VendorService

def getVendor (db : Database) (organizationId vendorId : UUID) : Except Error Vendor :=
  oneOrRaise
    (db.vendors.select fun v => v.id = vendorId && v.organizationId = organizationId)
    (.notFound "Vendor not found")

end VendorService

/-- `if key is not None: lookup(key)`. -/
def checkGiven {α : Type} (lookup : UUID → Except Error α) : Option UUID → Except Error Unit
  | none => .ok ()
  | some key => do
    let _ ← lookup key
    pure ()

namespace ProcurementService

open VendorService (getVendor)

def allowedTransitions : ProcurementRequestStatus → List ProcurementRequestStatus
  | .submitted => [.underReview, .approved, .rejected, .clarificationRequired]
  | .underReview => [.approved, .rejected, .clarificationRequired]
  | .clarificationRequired => [.submitted]
  | .approved => [.ordered]
  | .ordered => [.received]
  | .received => [.closed]
  | .draft | .rejected | .closed => []

def requireTransition (current target : ProcurementRequestStatus) : Except Error Unit :=
  raiseIf (target ∉ allowedTransitions current)
    (.conflict ("Cannot transition procurement request from " ++ current.value ++ " to " ++
      target.value) "invalid_transition")

def getRequest (db : Database) (organizationId requestId : UUID) :
    Except Error ProcurementRequest :=
  oneOrRaise
    (db.procurementRequests.select fun r =>
      r.id = requestId && r.organizationId = organizationId)
    (.notFound "Procurement request not found")

theorem getRequest_eq_ok {db : Database} {organizationId requestId : UUID}
    {request : ProcurementRequest} (h : getRequest db organizationId requestId = .ok request) :
    request ∈ db.procurementRequests.rows ∧ request.id = requestId ∧
      request.organizationId = organizationId := by
  simpa using mem_of_oneOrRaise h

/-- `_transition`, up to its commit. -/
def transitionRequest (db : Database) (organizationId : UUID) (actorUserId : Option UUID)
    (request : ProcurementRequest) (target : ProcurementRequestStatus) (action : String) :
    Except Error Database := do
  requireTransition request.status target
  let request := { request with status := target }
  pure (({ db with procurementRequests := db.procurementRequests.save request
          }).recordAuditEvent organizationId actorUserId action "ProcurementRequest"
    (some request.id))

structure ProcurementRequestCreateRequest where
  aircraftId : UUID
  workOrderId : Option UUID := none
  taskId : Option UUID := none
  partId : Option UUID := none
  partNumber : String
  description : String
  quantity : Int := 1
  priority : String := "ROUTINE"
  reason : String
  preferredVendorId : Option UUID := none
  estimatedCostCents : Option Int := none
  partNumber_length : 1 ≤ partNumber.length ∧ partNumber.length ≤ 128 := by decide
  description_length : 1 ≤ description.length := by decide
  quantity_pos : 0 < quantity := by decide
  priority_length : priority.length ≤ 16 := by decide
  reason_length : 1 ≤ reason.length := by decide
  estimatedCost_nonneg : ∀ c, estimatedCostCents = some c → 0 ≤ c := by rintro _ ⟨⟩ <;> decide

/-- The row of a new request. -/
def newRequest (newId organizationId : UUID) (actorUserId : Option UUID) (aircraft : Aircraft)
    (payload : ProcurementRequestCreateRequest) : ProcurementRequest where
  id := newId
  organizationId := organizationId
  aircraftId := payload.aircraftId
  -- `resolve_asset_id`
  assetId := aircraft.assetId
  workOrderId := payload.workOrderId
  taskId := payload.taskId
  partId := payload.partId
  partNumber := payload.partNumber
  description := payload.description
  quantity := payload.quantity
  priority := payload.priority
  reason := payload.reason
  requestedByUserId := actorUserId
  preferredVendorId := payload.preferredVendorId
  estimatedCostCents := payload.estimatedCostCents
  status := .submitted

def createRequest (newId organizationId : UUID) (actorUserId : Option UUID)
    (payload : ProcurementRequestCreateRequest) : Call Database Error Unit :=
  transaction fun db => do
    let aircraft ← db.getAircraft organizationId payload.aircraftId
    checkGiven (getVendor db organizationId) payload.preferredVendorId
    checkGiven (db.getWorkOrder organizationId) payload.workOrderId
    checkGiven (db.getTask organizationId) payload.taskId
    checkGiven (PartService.getPart db organizationId) payload.partId
    let request := newRequest newId organizationId actorUserId aircraft payload
    raiseIf ((fitsInteger request.quantity && request.estimatedCostCents.all fitsInteger) = false)
      .dataError
    let procurementRequests ← addRow db.procurementRequests request
    pure (({ db with procurementRequests }).recordAuditEvent organizationId actorUserId
      "procurement_request.created" "ProcurementRequest" (some newId))

/-- `approve_request`; the payload is the selected vendor. -/
def approveRequest (organizationId : UUID) (actorUserId : Option UUID) (requestId : UUID)
    (selectedVendorId : Option UUID) : Call Database Error Unit :=
  transaction fun db => do
    let request ← getRequest db organizationId requestId
    raiseIf (actorUserId.isSome ∧ actorUserId = request.requestedByUserId)
      (.forbidden "A procurement request cannot be approved by its own requester"
        "self_approval_forbidden")
    let selectedVendorId := selectedVendorId.or request.preferredVendorId
    checkGiven (getVendor db organizationId) selectedVendorId
    transitionRequest db organizationId actorUserId
      { request with approvedByUserId := actorUserId, selectedVendorId } .approved
      "procurement_request.approved"

def markOrdered (organizationId : UUID) (actorUserId : Option UUID) (requestId : UUID) :
    Call Database Error Unit :=
  transaction fun db => do
    let request ← getRequest db organizationId requestId
    transitionRequest db organizationId actorUserId request .ordered
      "procurement_request.ordered"

def markReceived (organizationId : UUID) (actorUserId : Option UUID) (requestId : UUID) :
    Call Database Error Unit :=
  transaction fun db => do
    let request ← getRequest db organizationId requestId
    transitionRequest db organizationId actorUserId request .received
      "procurement_request.received"

/-- One of the calls that move a request and check nothing but the table; `extra` is what else
it writes. -/
def moveRequest (organizationId : UUID) (actorUserId : Option UUID) (requestId : UUID)
    (extra : ProcurementRequest → ProcurementRequest) (target : ProcurementRequestStatus)
    (action : String) : Call Database Error Unit :=
  transaction fun db => do
    let request ← getRequest db organizationId requestId
    transitionRequest db organizationId actorUserId (extra request) target action

def submitForReview (organizationId : UUID) (actorUserId : Option UUID) (requestId : UUID) :
    Call Database Error Unit :=
  moveRequest organizationId actorUserId requestId id .underReview
    "procurement_request.under_review"

def rejectRequest (organizationId : UUID) (actorUserId : Option UUID) (requestId : UUID)
    (rejectionReason : String) : Call Database Error Unit :=
  moveRequest organizationId actorUserId requestId
    (fun r => { r with rejectionReason := some rejectionReason }) .rejected
    "procurement_request.rejected"

def requestClarification (organizationId : UUID) (actorUserId : Option UUID) (requestId : UUID)
    (clarificationNote : String) : Call Database Error Unit :=
  moveRequest organizationId actorUserId requestId
    (fun r => { r with clarificationNote := some clarificationNote }) .clarificationRequired
    "procurement_request.clarification_requested"

def resubmitRequest (organizationId : UUID) (actorUserId : Option UUID) (requestId : UUID) :
    Call Database Error Unit :=
  moveRequest organizationId actorUserId requestId
    (fun r => { r with clarificationNote := none }) .submitted "procurement_request.resubmitted"

def closeRequest (organizationId : UUID) (actorUserId : Option UUID) (requestId : UUID) :
    Call Database Error Unit :=
  moveRequest organizationId actorUserId requestId id .closed "procurement_request.closed"

end ProcurementService

namespace PurchaseOrderService

def getPurchaseOrder (db : Database) (organizationId purchaseOrderId : UUID) :
    Except Error PurchaseOrder :=
  oneOrRaise
    (db.purchaseOrders.select fun po =>
      po.id = purchaseOrderId && po.organizationId = organizationId)
    (.notFound "Purchase order not found")

theorem getPurchaseOrder_eq_ok {db : Database} {organizationId purchaseOrderId : UUID}
    {po : PurchaseOrder} (h : getPurchaseOrder db organizationId purchaseOrderId = .ok po) :
    po ∈ db.purchaseOrders.rows ∧ po.id = purchaseOrderId ∧
      po.organizationId = organizationId := by
  simpa using mem_of_oneOrRaise h

/-- `purchase_order.lines`. -/
def linesOf (db : Database) (purchaseOrderId : UUID) : List PurchaseOrderLine :=
  db.purchaseOrderLines.select fun l => l.purchaseOrderId = purchaseOrderId

def allowedTransitions : PurchaseOrderStatus → List PurchaseOrderStatus
  | .draft => [.pendingApproval, .cancelled]
  | .pendingApproval => [.approved, .cancelled]
  | .approved => [.sent, .cancelled]
  | .sent => [.acknowledged, .cancelled]
  | .acknowledged | .partiallyReceived | .received | .cancelled => []

def requireTransition (current target : PurchaseOrderStatus) : Except Error Unit :=
  raiseIf (target ∉ allowedTransitions current)
    (.conflict ("Cannot transition purchase order from " ++ current.value ++ " to " ++
      target.value) "invalid_transition")

structure PurchaseOrderLineCreateRequest where
  procurementRequestId : Option UUID := none
  partNumber : String
  description : String
  quantity : Int
  unitPriceCents : Option Int := none
  partNumber_length : 1 ≤ partNumber.length ∧ partNumber.length ≤ 128 := by decide
  description_length : 1 ≤ description.length := by decide
  quantity_pos : 0 < quantity := by decide
  unitPrice_nonneg : ∀ c, unitPriceCents = some c → 0 ≤ c := by rintro _ ⟨⟩ <;> decide

structure PurchaseOrderCreateRequest where
  poNumber : String
  vendorId : UUID
  aircraftId : Option UUID := none
  currency : String := "USD"
  taxCents : Option Int := none
  shippingCents : Option Int := none
  requiredBy : Option Date := none
  notes : Option String := none
  lines : List PurchaseOrderLineCreateRequest
  poNumber_length : 1 ≤ poNumber.length ∧ poNumber.length ≤ 64 := by decide
  currency_length : currency.length ≤ 8 := by decide
  tax_nonneg : ∀ c, taxCents = some c → 0 ≤ c := by rintro _ ⟨⟩ <;> decide
  shipping_nonneg : ∀ c, shippingCents = some c → 0 ≤ c := by rintro _ ⟨⟩ <;> decide
  lines_ne_nil : lines ≠ [] := by simp

/-- The requests that the lines name, in their order. -/
def PurchaseOrderCreateRequest.requestIds (payload : PurchaseOrderCreateRequest) : List UUID :=
  payload.lines.filterMap PurchaseOrderLineCreateRequest.procurementRequestId

/-- `sum(line.quantity * line.unit_price_cents …)` of `_compute_totals`. -/
def subtotalOf (lines : List PurchaseOrderLine) : Int :=
  (lines.filterMap fun l => l.unitPriceCents.map (l.quantity * ·)).sum

/-- The total of `_compute_totals`. -/
def totalOf (lines : List PurchaseOrderLine) (taxCents shippingCents : Option Int) : Int :=
  subtotalOf lines + taxCents.getD 0 + shippingCents.getD 0

/-- Every request that the lines name is the tenant's, and approved. -/
def checkLinked (db : Database) (organizationId : UUID) : List UUID → Except Error Unit
  | [] => .ok ()
  | requestId :: requestIds => do
    let request ← ProcurementService.getRequest db organizationId requestId
    raiseIf (request.status ≠ .approved)
      (.conflict "Only an APPROVED procurement request can be added to a purchase order"
        "request_not_approved")
    checkLinked db organizationId requestIds

/-- The lines of a new order; `newLineId` are the identifiers of the rows. -/
def newLines (newId : UUID) (newLineId : Nat → UUID) (organizationId : UUID)
    (lines : List PurchaseOrderLineCreateRequest) : List PurchaseOrderLine :=
  lines.zipIdx.map fun (l, n) =>
    { id := newLineId n, organizationId, purchaseOrderId := newId
      procurementRequestId := l.procurementRequestId, partNumber := l.partNumber
      description := l.description, quantity := l.quantity, unitPriceCents := l.unitPriceCents }

/-- The row of a new order. -/
def newOrder (newId organizationId : UUID) (actorUserId assetId : Option UUID)
    (payload : PurchaseOrderCreateRequest) (lines : List PurchaseOrderLine) : PurchaseOrder where
  id := newId
  organizationId := organizationId
  poNumber := payload.poNumber
  vendorId := payload.vendorId
  aircraftId := payload.aircraftId
  assetId := assetId
  status := .draft
  currency := payload.currency
  subtotalCents := subtotalOf lines
  taxCents := payload.taxCents
  shippingCents := payload.shippingCents
  totalCents := totalOf lines payload.taxCents payload.shippingCents
  requiredBy := payload.requiredBy
  notes := payload.notes
  createdByUserId := actorUserId

/-- The numbers and the texts of an order and of its lines fit their columns. -/
def columnsFit (po : PurchaseOrder) (lines : List PurchaseOrderLine) : Bool :=
  fitsInteger po.subtotalCents && po.taxCents.all fitsInteger && po.shippingCents.all fitsInteger &&
    fitsInteger po.totalCents &&
    storesText po.poNumber && storesText po.currency && po.notes.all storesText &&
    lines.all fun l => fitsInteger l.quantity && l.unitPriceCents.all fitsInteger &&
      storesText l.partNumber && storesText l.description

/-- The aircraft an order is for, if there is one. -/
def assetOf (db : Database) (organizationId : UUID) : Option UUID → Except Error (Option UUID)
  | none => .ok none
  | some aircraftId => do
    let aircraft ← db.getAircraft organizationId aircraftId
    pure aircraft.assetId

/-- The checks of `create_purchase_order`, and the order flushed with its lines. -/
def placeOrder (newId : UUID) (newLineId : Nat → UUID) (organizationId : UUID)
    (actorUserId : Option UUID) (payload : PurchaseOrderCreateRequest) (db : Database) :
    Except Error Database := do
  let _ ← VendorService.getVendor db organizationId payload.vendorId
  let assetId ← assetOf db organizationId payload.aircraftId
  checkLinked db organizationId payload.requestIds
  let lines := newLines newId newLineId organizationId payload.lines
  let po := newOrder newId organizationId actorUserId assetId payload lines
  raiseIf (columnsFit po lines = false) .dataError
  let purchaseOrders ← addRow db.purchaseOrders po
  let purchaseOrderLines ← lines.foldlM addRow db.purchaseOrderLines
  pure { db with purchaseOrders, purchaseOrderLines }

def createPurchaseOrder (newId : UUID) (newLineId : Nat → UUID) (organizationId : UUID)
    (actorUserId : Option UUID) (payload : PurchaseOrderCreateRequest) :
    Call Database Error Unit := do
  update (placeOrder newId newLineId organizationId actorUserId payload)
  -- each commits; a request that is named twice is refused the second time
  each (ProcurementService.markOrdered organizationId actorUserId) payload.requestIds
  transaction fun db => .ok (db.recordAuditEvent organizationId actorUserId
    "purchase_order.created" "PurchaseOrder" (some newId))

/-- `_transition`. -/
def transitionOrder (db : Database) (organizationId : UUID) (actorUserId : Option UUID)
    (po : PurchaseOrder) (target : PurchaseOrderStatus) (action : String) :
    Except Error Database := do
  requireTransition po.status target
  pure (({ db with purchaseOrders := db.purchaseOrders.save { po with status := target }
          }).recordAuditEvent organizationId actorUserId action "PurchaseOrder" (some po.id))

/-- One of the five calls that move an order; `extra` is what else it writes. -/
def moveOrder (organizationId : UUID) (actorUserId : Option UUID) (poId : UUID)
    (extra : PurchaseOrder → PurchaseOrder) (target : PurchaseOrderStatus) (action : String) :
    Call Database Error Unit :=
  transaction fun db => do
    let po ← getPurchaseOrder db organizationId poId
    transitionOrder db organizationId actorUserId (extra po) target action

def submitForApproval (organizationId : UUID) (actorUserId : Option UUID) (poId : UUID) :
    Call Database Error Unit :=
  moveOrder organizationId actorUserId poId id .pendingApproval
    "purchase_order.submitted_for_approval"

def approvePurchaseOrder (organizationId : UUID) (actorUserId : Option UUID) (poId : UUID) :
    Call Database Error Unit :=
  moveOrder organizationId actorUserId poId
    (fun po => { po with approvedByUserId := actorUserId }) .approved "purchase_order.approved"

def sendPurchaseOrder (organizationId : UUID) (actorUserId : Option UUID) (poId : UUID) :
    Call Database Error Unit :=
  moveOrder organizationId actorUserId poId id .sent "purchase_order.sent"

/-- `acknowledge_purchase_order`; the payload is the expected day of delivery. -/
def acknowledgePurchaseOrder (organizationId : UUID) (actorUserId : Option UUID) (poId : UUID)
    (expectedDelivery : Option Date) : Call Database Error Unit :=
  moveOrder organizationId actorUserId poId (fun po => { po with expectedDelivery })
    .acknowledged "purchase_order.acknowledged"

/-- `cancel_purchase_order`; the requests of the order stay as they are. -/
def cancelPurchaseOrder (organizationId : UUID) (actorUserId : Option UUID) (poId : UUID) :
    Call Database Error Unit :=
  moveOrder organizationId actorUserId poId id .cancelled "purchase_order.cancelled"

end PurchaseOrderService
end AeroComply
