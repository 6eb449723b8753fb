import AeroComply.Services.PartRequirement

/-!
# InventoryTransaction — the movements of stock

`app/services/inventory_transaction_service.py`.  Seven operations share
`_apply_transaction`: it checks the resulting quantities, writes them with a
ledger row, commits, and then derives the requirement statuses of the part in a
transaction of its own.
-/

namespace AeroComply

open Relational (Table)
open Sessions (Call update commit transaction)

namespace InventoryTransactionService

open PartService (getPart)
open PartRequirementService (recomputeStatusForPart)

/-- The arguments of `_apply_transaction` that say what moves. -/
structure Movement where
  transactionType : InventoryTransactionType
  onHandDelta : Int := 0
  reservedDelta : Int := 0
  quarantinedDelta : Int := 0
  referenceType : Option String := none
  referenceId : Option UUID := none
  notes : Option String := none

/-- The part with the deltas added. -/
def Movement.apply (m : Movement) (part : Part) : Part :=
  { part with
    quantityOnHand := part.quantityOnHand + m.onHandDelta
    quantityReserved := part.quantityReserved + m.reservedDelta
    quantityQuarantined := part.quantityQuarantined + m.quarantinedDelta }

/-- The ledger row of a movement. -/
def Movement.row (m : Movement) (newId organizationId : UUID) (actorUserId : Option UUID)
    (partId : UUID) : InventoryTransaction :=
  { id := newId, organizationId, partId, transactionType := m.transactionType
    onHandDelta := m.onHandDelta, reservedDelta := m.reservedDelta
    quarantinedDelta := m.quarantinedDelta, referenceType := m.referenceType
    referenceId := m.referenceId, notes := m.notes, actorUserId }

/-- The checks of `_apply_transaction` on the resulting quantities. -/
def checkQuantities (part : Part) : Except Error Unit := do
  raiseIf (part.quantityOnHand < 0)
    (.conflict "Transaction would drive on-hand quantity negative" "negative_on_hand")
  raiseIf (part.quantityReserved < 0)
    (.conflict "Transaction would drive reserved quantity negative" "negative_reserved")
  raiseIf (part.quantityQuarantined < 0)
    (.conflict "Transaction would drive quarantined quantity negative" "negative_quarantined")
  raiseIf (part.quantityOnHand < part.quantityReserved + part.quantityQuarantined)
    (.conflict "Reserved plus quarantined quantity cannot exceed on-hand quantity"
      "reserved_exceeds_on_hand")

/-- The part and the ledger row, flushed together. -/
def post (db : Database) (newId organizationId : UUID) (actorUserId : Option UUID) (part : Part)
    (m : Movement) : Except Error Database := do
  checkQuantities (m.apply part)
  let inventoryTransactions ← addRow db.inventoryTransactions
    (m.row newId organizationId actorUserId part.id)
  pure (({ db with parts := db.parts.save (m.apply part), inventoryTransactions
          }).recordAuditEvent organizationId actorUserId m.transactionType.action "Part"
    (some part.id))

/-- A part is read, the request is checked and `_apply_transaction` is run. -/
def moveStock (newId organizationId : UUID) (actorUserId : Option UUID) (partId : UUID)
    (check : Except Error Unit) (m : Movement) : Call Database Error Unit := do
  update fun db => do
    let part ← getPart db organizationId partId
    check
    post db newId organizationId actorUserId part m
  commit
  recomputeStatusForPart organizationId partId

/-- `InventoryReceiveRequest`, `InventoryReserveRequest`, `InventoryReleaseRequest` and
`InventoryConsumeRequest`. -/
structure InventoryQuantityRequest where
  quantity : Int
  referenceType : Option String := none
  referenceId : Option UUID := none
  notes : Option String := none
  quantity_pos : 0 < quantity := by decide

def receivePart (newId organizationId : UUID) (actorUserId : Option UUID) (partId : UUID)
    (payload : InventoryQuantityRequest) : Call Database Error Unit :=
  moveStock newId organizationId actorUserId partId (.ok ())
    { transactionType := .receive, onHandDelta := payload.quantity
      referenceType := payload.referenceType, referenceId := payload.referenceId
      notes := payload.notes }

def reservePart (newId organizationId : UUID) (actorUserId : Option UUID) (partId : UUID)
    (payload : InventoryQuantityRequest) : Call Database Error Unit :=
  moveStock newId organizationId actorUserId partId (.ok ())
    { transactionType := .reserve, reservedDelta := payload.quantity
      referenceType := payload.referenceType, referenceId := payload.referenceId
      notes := payload.notes }

def releaseReservation (newId organizationId : UUID) (actorUserId : Option UUID) (partId : UUID)
    (payload : InventoryQuantityRequest) : Call Database Error Unit :=
  moveStock newId organizationId actorUserId partId (.ok ())
    { transactionType := .release, reservedDelta := -payload.quantity
      referenceType := payload.referenceType, referenceId := payload.referenceId
      notes := payload.notes }

def consumePart (newId organizationId : UUID) (actorUserId : Option UUID) (partId : UUID)
    (payload : InventoryQuantityRequest) : Call Database Error Unit :=
  moveStock newId organizationId actorUserId partId (.ok ())
    { transactionType := .consume, onHandDelta := -payload.quantity
      reservedDelta := -payload.quantity, referenceType := payload.referenceType
      referenceId := payload.referenceId, notes := payload.notes }

structure InventoryAdjustRequest where
  onHandDelta : Int
  notes : Option String := none
  delta_ne : onHandDelta ≠ 0 := by decide

def adjustPart (newId organizationId : UUID) (actorUserId : Option UUID) (partId : UUID)
    (payload : InventoryAdjustRequest) : Call Database Error Unit :=
  moveStock newId organizationId actorUserId partId (.ok ())
    { transactionType := .adjust, onHandDelta := payload.onHandDelta, notes := payload.notes }

/-- The status and reason columns of a part, written in a transaction of their own. -/
def setServiceability (organizationId partId : UUID) (status : String)
    (reason : Option String → Option String) : Call Database Error Unit :=
  transaction fun db => do
    let part ← getPart db organizationId partId
    let quarantineReason := reason part.quarantineReason
    let part := { part with serviceabilityStatus := status, quarantineReason }
    pure { db with parts := db.parts.save part }

structure InventoryQuarantineRequest where
  quantity : Int
  reason : String
  referenceType : Option String := none
  referenceId : Option UUID := none
  quantity_pos : 0 < quantity := by decide

def quarantinePart (newId organizationId : UUID) (actorUserId : Option UUID) (partId : UUID)
    (payload : InventoryQuarantineRequest) : Call Database Error Unit := do
  moveStock newId organizationId actorUserId partId (.ok ())
    { transactionType := .quarantine, quarantinedDelta := payload.quantity
      referenceType := payload.referenceType, referenceId := payload.referenceId
      notes := some payload.reason }
  setServiceability organizationId partId PartServiceabilityStatus.quarantined
    (fun _ => some payload.reason)

structure InventoryReleaseQuarantineRequest where
  quantity : Int
  newStatus : String
  notes : Option String := none
  quantity_pos : 0 < quantity := by decide

/-- `release_quarantine`: scrapped stock leaves the on-hand quantity too. -/
def releaseQuarantine (newId organizationId : UUID) (actorUserId : Option UUID) (partId : UUID)
    (payload : InventoryReleaseQuarantineRequest) : Call Database Error Unit := do
  let scrapped := payload.newStatus = PartServiceabilityStatus.scrapped
  moveStock newId organizationId actorUserId partId
    (raiseIf
      (payload.newStatus ∉ [PartServiceabilityStatus.serviceable,
        PartServiceabilityStatus.unserviceable, PartServiceabilityStatus.scrapped])
      (.conflict "new_status must be SERVICEABLE, UNSERVICEABLE, or SCRAPPED"
        "invalid_release_status"))
    { transactionType := .releaseQuarantine
      onHandDelta := if scrapped then -payload.quantity else 0
      quarantinedDelta := -payload.quantity, notes := payload.notes }
  setServiceability organizationId partId payload.newStatus
    (fun reason => if scrapped then reason else none)

/-! ## What a movement does -/

variable {db db' : Database}

/-- What holds of the quantities of every stored part. -/
structure StockValid (p : Part) : Prop where
  reserved : 0 ≤ p.quantityReserved
  quarantined : 0 ≤ p.quantityQuarantined
  within : p.quantityReserved + p.quantityQuarantined ≤ p.quantityOnHand

theorem StockValid.available {p : Part} (h : StockValid p) : 0 ≤ p.availableQuantity := by
  have := h.within
  rw [Part.availableQuantity]
  omega

theorem checkQuantities_eq_ok {part : Part} {x : Unit} :
    checkQuantities part = .ok x ↔ StockValid part := by
  rw [checkQuantities]
  simp only [bind_eq_ok, raiseIf_eq_ok]
  constructor
  · rintro ⟨_, _, _, hres, _, hquar, hwithin⟩
    exact ⟨not_lt.1 hres, not_lt.1 hquar, not_lt.1 hwithin⟩
  · rintro ⟨hres, hquar, hwithin⟩
    exact ⟨(), by omega, (), by omega, (), by omega, by omega⟩

theorem post_eq_ok {newId org : UUID} {actor : Option UUID} {part : Part} {m : Movement}
    (h : post db newId org actor part m = .ok db') :
    StockValid (m.apply part) ∧ db'.parts = db.parts.save (m.apply part) ∧
      db.inventoryTransactions.insert? (m.row newId org actor part.id)
        = some db'.inventoryTransactions := by
  obtain ⟨_, hcheck, h⟩ := bind_eq_ok.1 h
  obtain ⟨ledger, hadd, h⟩ := bind_eq_ok.1 h
  rw [pure_eq_ok] at h
  subst h
  exact ⟨checkQuantities_eq_ok.1 hcheck, rfl, addRowOrRaise_eq_ok.1 hadd⟩

/-- A movement that can be posted: the part is known, the quantities that result are valid
and the identifier of the ledger row is free. -/
def Postable (db : Database) (newId org partId : UUID) (m : Movement) : Prop :=
  ∃ part, getPart db org partId = .ok part ∧ StockValid (m.apply part) ∧
    newId ∉ db.inventoryTransactions.rows.map InventoryTransaction.id

/-- What a posting leaves alone. -/
structure SameOrders (db db' : Database) : Prop where
  orders : db'.purchaseOrders = db.purchaseOrders
  lines : db'.purchaseOrderLines = db.purchaseOrderLines
  requests : db'.procurementRequests = db.procurementRequests

section MoveStock

variable {newId org partId : UUID} {m : Movement} {s : Sessions.Session Database}

theorem moveStock_of_postable (actor : Option UUID) (h : Postable s.working newId org partId m) :
    ∃ db' part, moveStock newId org actor partId (.ok ()) m s = (.ok (), ⟨db', db'⟩) ∧
      getPart s.working org partId = .ok part ∧
      db'.parts = s.working.parts.save (m.apply part) ∧
      db'.inventoryTransactions.rows
        = s.working.inventoryTransactions.rows ++ [m.row newId org actor part.id] ∧
      SameOrders s.working db' := by
  obtain ⟨part, hpart, hvalid, hfree⟩ := h
  obtain ⟨hmem, hid, horg⟩ := PartService.getPart_eq_ok hpart
  have hcheck : checkQuantities (m.apply part) = .ok () := checkQuantities_eq_ok.2 hvalid
  cases hadd : s.working.inventoryTransactions.insert? (m.row newId org actor part.id) with
  | none =>
    obtain ⟨row, hrow, hid⟩ := Table.insert?_eq_none.1 hadd
    exact absurd (List.mem_map.2 ⟨row, hrow, hid⟩) hfree
  | some ledger =>
    let w : Database := ({ s.working with
      parts := s.working.parts.save (m.apply part)
      inventoryTransactions := ledger }).recordAuditEvent org actor m.transactionType.action
        "Part" (some part.id)
    have hpost : post s.working newId org actor part m = .ok w := by
      rw [post, hcheck]
      show (addRow _ _ >>= _) = _
      rw [addRow, addRowOrRaise_eq_ok.2 hadd]
      rfl
    -- the recomputation finds the part again
    have hagain : getPart w org partId = .ok (m.apply part) := by
      have hsaved : m.apply part ∈ (s.working.parts.save (m.apply part)).rows :=
        Table.mem_save.2 (Or.inr ⟨rfl, part, hmem, rfl⟩)
      exact PartService.getPart_of_mem hsaved hid horg
    obtain ⟨rows, hrows⟩ := PartRequirementService.recomputeStatusForPart_of_ok hagain
    refine ⟨{ w with partRequirements := rows }, part, ?_, hpart, rfl,
      (Table.insert?_eq_some hadd).2, ⟨rfl, rfl, rfl⟩⟩
    have hupdate : update (fun db => do
        let part ← getPart db org partId
        Except.ok ()
        post db newId org actor part m) s = (.ok (), ⟨s.committed, w⟩) := by
      refine Sessions.update_of_ok ?_
      rw [hpart]
      exact hpost
    rw [moveStock, Sessions.bind_of_ok hupdate]
    exact hrows

theorem moveStock_of_not_postable (actor : Option UUID)
    (h : ¬Postable s.working newId org partId m) :
    ∃ e, moveStock newId org actor partId (.ok ()) m s = (.error e, s) := by
  cases hpost : (do
      let part ← getPart s.working org partId
      Except.ok ()
      post s.working newId org actor part m) with
  | error e => exact ⟨e, Sessions.bind_of_error (Sessions.update_of_error hpost)⟩
  | ok w =>
    obtain ⟨part, hpart, hpost⟩ := bind_eq_ok.1 hpost
    obtain ⟨_, _, hpost⟩ := bind_eq_ok.1 hpost
    obtain ⟨hvalid, _, hadd⟩ := post_eq_ok hpost
    exact absurd ⟨part, hpart, hvalid, (Table.insert?_eq_some hadd).1⟩ h

end MoveStock

end InventoryTransactionService
end AeroComply
