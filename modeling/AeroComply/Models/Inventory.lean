import Mathlib.Algebra.Order.Ring.Int
import AeroComply.Lib.Table
import AeroComply.Core.Base

/-!
# Inventory — parts, the stock ledger, material requirements and purchase orders

`app/models/part.py`, `inventory_transaction.py`, `part_requirement.py`,
`procurement_request.py` and `purchase_order.py`.  The tables carry the CHECK
constraints of the migrations: a row that breaks one is refused when it is
flushed.  `PartRequirement.status` is a text column that an update can write.
-/

namespace AeroComply

open Relational (Keyed)

namespace PartServiceabilityStatus

def serviceable : String := "SERVICEABLE"
def unserviceable : String := "UNSERVICEABLE"
def quarantined : String := "QUARANTINED"
def scrapped : String := "SCRAPPED"

end PartServiceabilityStatus

structure Part where
  id : UUID
  organizationId : UUID
  partNumber : String
  description : String
  manufacturer : Option String := none
  condition : Option String := none
  serialNumber : Option String := none
  batchOrLot : Option String := none
  location : Option String := none
  serviceabilityStatus : String := PartServiceabilityStatus.serviceable
  quarantineReason : Option String := none
  quantityOnHand : Int := 0
  quantityReserved : Int := 0
  quantityQuarantined : Int := 0

namespace Part

/-- `available_quantity`, derived and never stored. -/
def availableQuantity (p : Part) : Int :=
  p.quantityOnHand - p.quantityReserved - p.quantityQuarantined

/-- `ck_parts_quantity_quarantined_non_negative` and `ck_parts_quantities_within_on_hand`. -/
def Admitted (p : Part) : Prop :=
  0 ≤ p.quantityQuarantined ∧ p.quantityReserved + p.quantityQuarantined ≤ p.quantityOnHand

instance (p : Part) : Decidable p.Admitted :=
  inferInstanceAs (Decidable (0 ≤ p.quantityQuarantined ∧
    p.quantityReserved + p.quantityQuarantined ≤ p.quantityOnHand))

end Part

inductive InventoryTransactionType
  | receive
  | reserve
  | release
  | consume
  | adjust
  | quarantine
  | releaseQuarantine
  deriving DecidableEq, Repr

/-- The log entry of a movement: `f"inventory.{transaction_type.lower()}"`. -/
def InventoryTransactionType.action : InventoryTransactionType → String
  | .receive => "inventory.receive"
  | .reserve => "inventory.reserve"
  | .release => "inventory.release"
  | .consume => "inventory.consume"
  | .adjust => "inventory.adjust"
  | .quarantine => "inventory.quarantine"
  | .releaseQuarantine => "inventory.release_quarantine"

/-- A row of the stock ledger: what one movement added to each quantity of the part. -/
structure InventoryTransaction where
  id : UUID
  organizationId : UUID
  partId : UUID
  transactionType : InventoryTransactionType
  onHandDelta : Int := 0
  reservedDelta : Int := 0
  quarantinedDelta : Int := 0
  referenceType : Option String := none
  referenceId : Option UUID := none
  notes : Option String := none
  actorUserId : Option UUID := none

namespace PartRequirementStatus

def required : String := "REQUIRED"
def short : String := "SHORT"
def available : String := "AVAILABLE"
def reserved : String := "RESERVED"
def ordered : String := "ORDERED"
def received : String := "RECEIVED"
def fulfilled : String := "FULFILLED"
def cancelled : String := "CANCELLED"

end PartRequirementStatus

structure PartRequirement where
  id : UUID
  organizationId : UUID
  workOrderId : UUID
  taskId : Option UUID := none
  partId : UUID
  requiredQuantity : Int := 1
  fulfilledQuantity : Int := 0
  status : String := PartRequirementStatus.required
  priority : String := "NORMAL"
  createdByUserId : Option UUID := none
  createdAt : DateTime := 0

namespace PartRequirement

/-- `ck_part_requirements_quantities_non_negative`. -/
def Admitted (r : PartRequirement) : Prop := 0 ≤ r.requiredQuantity ∧ 0 ≤ r.fulfilledQuantity

instance (r : PartRequirement) : Decidable r.Admitted :=
  inferInstanceAs (Decidable (0 ≤ r.requiredQuantity ∧ 0 ≤ r.fulfilledQuantity))

end PartRequirement

inductive ProcurementRequestStatus
  | draft
  | submitted
  | underReview
  | approved
  | rejected
  | clarificationRequired
  | ordered
  | received
  | closed
  deriving DecidableEq, Repr

def ProcurementRequestStatus.value : ProcurementRequestStatus → String
  | .draft => "DRAFT"
  | .submitted => "SUBMITTED"
  | .underReview => "UNDER_REVIEW"
  | .approved => "APPROVED"
  | .rejected => "REJECTED"
  | .clarificationRequired => "CLARIFICATION_REQUIRED"
  | .ordered => "ORDERED"
  | .received => "RECEIVED"
  | .closed => "CLOSED"

structure Vendor where
  id : UUID
  organizationId : UUID
  name : String := ""
  reliabilityScore : Option Int := none

inductive PartAvailabilityStatus
  | inStock | limited | outOfStock | onOrder | unknown
  deriving DecidableEq

def PartAvailabilityStatus.value : PartAvailabilityStatus → String
  | .inStock => "IN_STOCK"
  | .limited => "LIMITED"
  | .outOfStock => "OUT_OF_STOCK"
  | .onOrder => "ON_ORDER"
  | .unknown => "UNKNOWN"

inductive PartCertificationStatus
  | verified | referenceUnknown | notVerified | unknown
  deriving DecidableEq

def PartCertificationStatus.value : PartCertificationStatus → String
  | .verified => "VERIFIED"
  | .referenceUnknown => "REFERENCE_UNKNOWN"
  | .notVerified => "NOT_VERIFIED"
  | .unknown => "UNKNOWN"

/-- A vendor's quoted line for a part.  The status columns are texts; these are the recognised
ones. -/
structure VendorPartAvailability where
  id : UUID
  organizationId : UUID
  vendorId : UUID
  partId : UUID
  availabilityStatus : PartAvailabilityStatus := .unknown
  quantityAvailable : Option Int := none
  leadTimeDays : Option Int := none
  unitPriceCents : Option Int := none
  currency : Option String := none
  aogAvailability : Option Bool := none
  certificationStatus : PartCertificationStatus := .unknown
  createdAt : DateTime := 0

/-- A row of `procurement_requests`.  The texts and the aircraft have no default in the table;
the service that inserts a row names them all. -/
structure ProcurementRequest where
  id : UUID
  organizationId : UUID
  aircraftId : UUID := 0
  assetId : Option UUID := none
  workOrderId : Option UUID := none
  taskId : Option UUID := none
  partId : Option UUID := none
  partNumber : String := ""
  description : String := ""
  quantity : Int := 1
  priority : String := "ROUTINE"
  reason : String := ""
  requestedByUserId : Option UUID := none
  preferredVendorId : Option UUID := none
  selectedVendorId : Option UUID := none
  status : ProcurementRequestStatus := .draft
  estimatedCostCents : Option Int := none
  approvedByUserId : Option UUID := none
  rejectionReason : Option String := none
  clarificationNote : Option String := none
  createdAt : DateTime := 0

inductive PurchaseOrderStatus
  | draft
  | pendingApproval
  | approved
  | sent
  | acknowledged
  | partiallyReceived
  | received
  | cancelled
  deriving DecidableEq, Repr

def PurchaseOrderStatus.value : PurchaseOrderStatus → String
  | .draft => "DRAFT"
  | .pendingApproval => "PENDING_APPROVAL"
  | .approved => "APPROVED"
  | .sent => "SENT"
  | .acknowledged => "ACKNOWLEDGED"
  | .partiallyReceived => "PARTIALLY_RECEIVED"
  | .received => "RECEIVED"
  | .cancelled => "CANCELLED"

/-- A row of `purchase_orders`; number and vendor have no default in the table. -/
structure PurchaseOrder where
  id : UUID
  organizationId : UUID
  poNumber : String := ""
  vendorId : UUID := 0
  aircraftId : Option UUID := none
  assetId : Option UUID := none
  status : PurchaseOrderStatus := .draft
  currency : String := "USD"
  subtotalCents : Int := 0
  taxCents : Option Int := none
  shippingCents : Option Int := none
  totalCents : Int := 0
  requiredBy : Option Date := none
  expectedDelivery : Option Date := none
  notes : Option String := none
  createdByUserId : Option UUID := none
  approvedByUserId : Option UUID := none
  createdAt : DateTime := 0

/-- A row of `purchase_order_lines`; the two texts have no default in the table. -/
structure PurchaseOrderLine where
  id : UUID
  organizationId : UUID
  purchaseOrderId : UUID
  procurementRequestId : Option UUID := none
  partNumber : String := ""
  description : String := ""
  quantity : Int := 1
  unitPriceCents : Option Int := none
  receivedQuantity : Int := 0

instance : Keyed Part UUID := ⟨Part.id⟩
instance : Keyed InventoryTransaction UUID := ⟨InventoryTransaction.id⟩
instance : Keyed PartRequirement UUID := ⟨PartRequirement.id⟩
instance : Keyed Vendor UUID := ⟨Vendor.id⟩
instance : Keyed VendorPartAvailability UUID := ⟨VendorPartAvailability.id⟩
instance : Keyed ProcurementRequest UUID := ⟨ProcurementRequest.id⟩
instance : Keyed PurchaseOrder UUID := ⟨PurchaseOrder.id⟩
instance : Keyed PurchaseOrderLine UUID := ⟨PurchaseOrderLine.id⟩

end AeroComply
