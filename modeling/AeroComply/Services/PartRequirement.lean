import Mathlib.Data.List.Sort
import AeroComply.Services.Part

/-!
# PartRequirement — what a work order needs, and what has been received for it

`app/services/part_requirement_service.py`.  A status is partly derived from the
quantities and partly kept: ORDERED, RECEIVED, FULFILLED and CANCELLED are never
derived away.  Rows created at one instant are read in table order.
-/

namespace AeroComply

open Relational (Table)
open Sessions (Call transaction)

namespace PartRequirementService

open PartService (getPart)

/-- The statuses that `_derive_status` returns as they are. -/
def isKept (status : String) : Bool :=
  status = PartRequirementStatus.ordered || status = PartRequirementStatus.received ||
    status = PartRequirementStatus.fulfilled || status = PartRequirementStatus.cancelled

/-- `_SETTLED_STATUSES`. -/
def isSettled (status : String) : Bool :=
  status = PartRequirementStatus.fulfilled || status = PartRequirementStatus.cancelled

/-- `required_quantity - fulfilled_quantity`. -/
def outstanding (r : PartRequirement) : Int := r.requiredQuantity - r.fulfilledQuantity

def deriveStatus (r : PartRequirement) (availableQuantity : Int) : String :=
  if isKept r.status then r.status
  else if outstanding r ≤ 0 then PartRequirementStatus.fulfilled
  else if outstanding r ≤ availableQuantity then PartRequirementStatus.available
  else PartRequirementStatus.short

/-- The row with its status derived. -/
def derived (availableQuantity : Int) (r : PartRequirement) : PartRequirement :=
  { r with status := deriveStatus r availableQuantity }

structure PartRequirementCreateRequest where
  workOrderId : UUID
  taskId : Option UUID := none
  partId : UUID
  requiredQuantity : Int := 1
  priority : String := "NORMAL"
  required_pos : 1 ≤ requiredQuantity := by decide

/-- The task, if one is given, is the tenant's. -/
def checkTask (db : Database) (organizationId : UUID) : Option UUID → Except Error Unit
  | none => .ok ()
  | some taskId => do
    let _ ← db.getTask organizationId taskId
    pure ()

def createPartRequirement (newId : UUID) (now : DateTime) (organizationId : UUID)
    (actorUserId : Option UUID) (payload : PartRequirementCreateRequest) :
    Call Database Error Unit :=
  transaction fun db => do
    let part ← getPart db organizationId payload.partId
    let _ ← db.getWorkOrder organizationId payload.workOrderId
    checkTask db organizationId payload.taskId
    let requirement := derived part.availableQuantity
      { id := newId, organizationId, workOrderId := payload.workOrderId
        taskId := payload.taskId, partId := payload.partId
        requiredQuantity := payload.requiredQuantity, priority := payload.priority
        createdByUserId := actorUserId, createdAt := now }
    raiseIf (¬requirement.Admitted) .integrity
    let partRequirements ← addRow db.partRequirements requirement
    pure (({ db with partRequirements }).recordAuditEvent organizationId actorUserId
      "part_requirement.created" "PartRequirement" (some newId))

def getPartRequirement (db : Database) (organizationId requirementId : UUID) :
    Except Error PartRequirement :=
  oneOrRaise
    (db.partRequirements.select fun r =>
      r.id = requirementId && r.organizationId = organizationId)
    (.notFound "Part requirement not found")

structure PartRequirementUpdateRequest where
  requiredQuantity : Patch Int := .unset
  fulfilledQuantity : Patch Int := .unset
  status : Patch String := .unset
  priority : Patch String := .unset
  required_pos : ∀ q, requiredQuantity = .value q → 1 ≤ q := by rintro _ ⟨⟩ <;> decide
  fulfilled_nonneg : ∀ q, fulfilledQuantity = .value q → 0 ≤ q := by rintro _ ⟨⟩ <;> decide

/-- `bool(updates)`. -/
def PartRequirementUpdateRequest.given (payload : PartRequirementUpdateRequest) : Bool :=
  payload.requiredQuantity.isGiven || payload.fulfilledQuantity.isGiven ||
    payload.status.isGiven || payload.priority.isGiven

/-- The row with the quantities of the payload, where they are not `None`. -/
def PartRequirementUpdateRequest.quantities (payload : PartRequirementUpdateRequest)
    (r : PartRequirement) : PartRequirement :=
  { r with
    requiredQuantity := payload.requiredQuantity.newValue r.requiredQuantity
    fulfilledQuantity := payload.fulfilledQuantity.newValue r.fulfilledQuantity }

/-- The status an update leaves: derived, unless the payload gives one. -/
def PartRequirementUpdateRequest.newStatus (payload : PartRequirementUpdateRequest)
    (db : Database) (organizationId : UUID) (r : PartRequirement) : Except Error String :=
  match payload.status with
  | .unset => do
    let part ← getPart db organizationId r.partId
    -- `None` in the subtraction
    raiseIf (isKept r.status = false ∧
      (payload.requiredQuantity = .null ∨ payload.fulfilledQuantity = .null)) .typeError
    pure (deriveStatus (payload.quantities r) part.availableQuantity)
  | given => given.notNull r.status

def updatePartRequirement (organizationId : UUID) (actorUserId : Option UUID)
    (requirementId : UUID) (payload : PartRequirementUpdateRequest) : Call Database Error Unit :=
  transaction fun db => do
    let requirement ← getPartRequirement db organizationId requirementId
    let status ← payload.newStatus db organizationId requirement
    let requiredQuantity ← payload.requiredQuantity.notNull requirement.requiredQuantity
    let fulfilledQuantity ← payload.fulfilledQuantity.notNull requirement.fulfilledQuantity
    let priority ← payload.priority.notNull requirement.priority
    -- the two quantities are not compared with each other
    let updated := { requirement with requiredQuantity, fulfilledQuantity, status, priority }
    raiseIf (¬updated.Admitted) .integrity
    let db := { db with partRequirements := db.partRequirements.save updated }
    pure (if payload.given then
      db.recordAuditEvent organizationId actorUserId "part_requirement.updated"
        "PartRequirement" (some requirementId)
    else db)

/-- `recompute_status_for_part`: the quantities stay. -/
def recomputeStatusForPart (organizationId partId : UUID) : Call Database Error Unit :=
  transaction fun db => do
    let part ← getPart db organizationId partId
    pure { db with
      partRequirements := db.partRequirements.updateWhere
        (fun r => r.organizationId = organizationId && r.partId = partId)
        (derived part.availableQuantity) (fun _ => rfl) }

/-- `list_part_requirements_for_work_order`: none of a soft-deleted work order. -/
def listPartRequirementsForWorkOrder (db : Database) (organizationId workOrderId : UUID) :
    List PartRequirement :=
  db.partRequirements.select fun r =>
    r.organizationId = organizationId && r.workOrderId = workOrderId &&
      db.workOrders.rows.any fun w => w.id = r.workOrderId && w.deletedAt.isNone

/-- The rows a receipt is matched against, oldest first. -/
def matching (db : Database) (organizationId partId workOrderId : UUID) (taskId : Option UUID) :
    List PartRequirement :=
  (db.partRequirements.select fun r =>
    r.organizationId = organizationId && r.partId = partId && r.workOrderId = workOrderId &&
      (taskId.isNone || r.taskId = taskId)).insertionSort
    (fun r r' => r.createdAt ≤ r'.createdAt)

/-- The allocation loop: which rows get how much of what remains. -/
def allocations : List PartRequirement → Int → List (UUID × Int)
  | [], _ => []
  | r :: rs, remaining =>
    -- `break`; the next two are `continue`
    if remaining ≤ 0 then []
    else if isSettled r.status then allocations rs remaining
    else if outstanding r ≤ 0 then allocations rs remaining
    else
      let delta := min (outstanding r) remaining
      (r.id, delta) :: allocations rs (remaining - delta)

/-- `LEAST(required_quantity, fulfilled_quantity + delta)`. -/
def credited (delta : Int) (r : PartRequirement) : PartRequirement :=
  { r with fulfilledQuantity := min r.requiredQuantity (r.fulfilledQuantity + delta) }

/-- One `UPDATE` of the loop. -/
def creditRow (organizationId : UUID) (rows : Table PartRequirement) (allocation : UUID × Int) :
    Table PartRequirement :=
  rows.updateWhere (fun r => r.id = allocation.1 && r.organizationId = organizationId)
    (credited allocation.2) (fun _ => rfl)

def fulfillFromReceipt (organizationId partId : UUID) (workOrderId taskId : Option UUID)
    (receivedQuantity : Int) : Call Database Error Unit :=
  match workOrderId with
  | none => pure ()
  | some workOrderId =>
    if receivedQuantity ≤ 0 then pure ()
    else transaction fun db => do
      let touched :=
        allocations (matching db organizationId partId workOrderId taskId) receivedQuantity
      if touched = [] then pure db
      else do
        -- the amounts were planned before the first `UPDATE`
        let credited := touched.foldl (creditRow organizationId) db.partRequirements
        let part ← getPart db organizationId partId
        pure { db with
          partRequirements := credited.updateWhere
            (fun r => (touched.map Prod.fst).contains r.id) (derived part.availableQuantity)
            (fun _ => rfl) }

/-- The loop plans positive amounts, for rows it has read. -/
theorem mem_allocations {l : List PartRequirement} :
    ∀ {q : Int}, ∀ a ∈ allocations l q, 0 < a.2 ∧ ∃ r ∈ l, r.id = a.1 := by
  induction l with
  | nil =>
    intro q a ha
    cases ha
  | cons r l ih =>
    have htail : ∀ {q : Int}, ∀ a ∈ allocations l q, 0 < a.2 ∧ ∃ x ∈ r :: l, x.id = a.1 := by
      intro q a ha
      obtain ⟨hpos, x, hx, hid⟩ := ih a ha
      exact ⟨hpos, x, List.mem_cons_of_mem _ hx, hid⟩
    intro q a ha
    rw [allocations] at ha
    split at ha
    · cases ha
    · next hq =>
      split at ha
      · exact htail a ha
      · split at ha
        · exact htail a ha
        · next hout =>
          rcases List.mem_cons.1 ha with rfl | ha
          · refine ⟨?_, r, List.mem_cons_self, rfl⟩
            show 0 < min (outstanding r) q
            omega
          · exact htail a ha

/-! ## What the two loops over requirements write -/

variable {db : Database} {organizationId partId : UUID} {part : Part}

theorem recomputeStatusForPart_of_ok (h : getPart db organizationId partId = .ok part) :
    ∃ rows, recomputeStatusForPart organizationId partId ⟨db, db⟩
      = (.ok (), ⟨{ db with partRequirements := rows }, { db with partRequirements := rows }⟩) := by
  refine ⟨db.partRequirements.updateWhere
    (fun r => r.organizationId = organizationId && r.partId = partId)
    (derived part.availableQuantity) (fun _ => rfl), Sessions.transaction_of_ok ?_⟩
  rw [h]
  rfl

theorem fulfillFromReceipt_of_ok (h : getPart db organizationId partId = .ok part)
    (workOrderId taskId : Option UUID) (quantity : Int) :
    ∃ rows, fulfillFromReceipt organizationId partId workOrderId taskId quantity ⟨db, db⟩
      = (.ok (), ⟨{ db with partRequirements := rows }, { db with partRequirements := rows }⟩) := by
  cases workOrderId with
  | none => exact ⟨db.partRequirements, rfl⟩
  | some workOrderId =>
    rw [fulfillFromReceipt]
    by_cases hq : quantity ≤ 0
    · exact ⟨db.partRequirements, by rw [if_pos hq]; rfl⟩
    · rw [if_neg hq]
      let touched := allocations (matching db organizationId partId workOrderId taskId) quantity
      by_cases htouched : touched = []
      · refine ⟨db.partRequirements, Sessions.transaction_of_ok ?_⟩
        show (if touched = [] then _ else _) = _
        rw [if_pos htouched]
        rfl
      · let rows := touched.foldl (creditRow organizationId) db.partRequirements
        refine ⟨rows.updateWhere (fun r => (touched.map Prod.fst).contains r.id)
          (derived part.availableQuantity) (fun _ => rfl), Sessions.transaction_of_ok ?_⟩
        show (if touched = [] then _ else _) = _
        rw [if_neg htouched, h]
        rfl

end PartRequirementService
end AeroComply
