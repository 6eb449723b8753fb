import AeroComply.Lib.Sessions
import AeroComply.Models.Database

/-!
# Part — the rows of the stock

`app/services/part_service.py`.  The CHECK constraints on the quantities are
evaluated when a row is flushed.  `int`-typed columns are unbounded here, and the
length limits of the text columns are left out.
-/

namespace AeroComply

open Sessions (Call transaction)

namespace PartService

/-- `get_part`; a lock does not change what is read. -/
def getPart (db : Database) (organizationId partId : UUID) : Except Error Part :=
  oneOrRaise
    (db.parts.select fun p => p.id = partId && p.organizationId = organizationId)
    (.notFound "Part not found")

structure PartCreateRequest where
  partNumber : String
  description : String
  manufacturer : Option String := none
  condition : Option String := none
  serialNumber : Option String := none
  batchOrLot : Option String := none
  location : Option String := none
  quantityOnHand : Int := 0
  quantityReserved : Int := 0
  onHand_nonneg : 0 ≤ quantityOnHand := by decide
  reserved_nonneg : 0 ≤ quantityReserved := by decide

def createPart (newId organizationId : UUID) (actorUserId : Option UUID)
    (payload : PartCreateRequest) : Call Database Error Unit :=
  transaction fun db => do
    let part : Part :=
      { id := newId, organizationId, partNumber := payload.partNumber
        description := payload.description, manufacturer := payload.manufacturer
        condition := payload.condition, serialNumber := payload.serialNumber
        batchOrLot := payload.batchOrLot, location := payload.location
        quantityOnHand := payload.quantityOnHand
        quantityReserved := payload.quantityReserved }
    raiseIf (¬part.Admitted) .integrity
    let parts ← addRow db.parts part
    pure (({ db with parts }).recordAuditEvent organizationId actorUserId "part.created"
      "Part" (some newId))

/-- `PartUpdateRequest`: a quantity that is given is not negative. -/
structure PartUpdateRequest where
  partNumber : Patch String := .unset
  description : Patch String := .unset
  manufacturer : Patch String := .unset
  condition : Patch String := .unset
  serialNumber : Patch String := .unset
  batchOrLot : Patch String := .unset
  location : Patch String := .unset
  quantityOnHand : Patch Int := .unset
  quantityReserved : Patch Int := .unset
  onHand_nonneg : ∀ q, quantityOnHand = .value q → 0 ≤ q := by rintro _ ⟨⟩ <;> decide
  reserved_nonneg : ∀ q, quantityReserved = .value q → 0 ≤ q := by rintro _ ⟨⟩ <;> decide

/-- `bool(updates)`: some field is given. -/
def PartUpdateRequest.given (payload : PartUpdateRequest) : Bool :=
  payload.partNumber.isGiven || payload.description.isGiven || payload.manufacturer.isGiven ||
    payload.condition.isGiven || payload.serialNumber.isGiven || payload.batchOrLot.isGiven ||
    payload.location.isGiven || payload.quantityOnHand.isGiven ||
    payload.quantityReserved.isGiven

/-- The attributes set on the row, flushed. -/
def PartUpdateRequest.apply (payload : PartUpdateRequest) (part : Part) : Except Error Part := do
  let partNumber ← payload.partNumber.notNull part.partNumber
  let description ← payload.description.notNull part.description
  let quantityOnHand ← payload.quantityOnHand.notNull part.quantityOnHand
  let quantityReserved ← payload.quantityReserved.notNull part.quantityReserved
  let part' : Part :=
    { part with
      partNumber, description, quantityOnHand, quantityReserved
      manufacturer := payload.manufacturer.nullable part.manufacturer
      condition := payload.condition.nullable part.condition
      serialNumber := payload.serialNumber.nullable part.serialNumber
      batchOrLot := payload.batchOrLot.nullable part.batchOrLot
      location := payload.location.nullable part.location }
  -- no ledger row is written for the quantities
  raiseIf (¬part'.Admitted) .integrity
  pure part'

def updatePart (organizationId : UUID) (actorUserId : Option UUID) (partId : UUID)
    (payload : PartUpdateRequest) : Call Database Error Unit :=
  transaction fun db => do
    let part ← getPart db organizationId partId
    let part' ← payload.apply part
    let db := { db with parts := db.parts.save part' }
    pure (if payload.given then
      db.recordAuditEvent organizationId actorUserId "part.updated" "Part" (some partId)
    else db)

/-! ## What is read and written -/

theorem getPart_eq_ok {db : Database} {org partId : UUID} {part : Part}
    (h : getPart db org partId = .ok part) :
    part ∈ db.parts.rows ∧ part.id = partId ∧ part.organizationId = org := by
  simpa using mem_of_oneOrRaise h

theorem getPart_of_mem {db : Database} {org partId : UUID} {part : Part}
    (hmem : part ∈ db.parts.rows) (hid : part.id = partId) (horg : part.organizationId = org) :
    getPart db org partId = .ok part := by
  refine oneOrRaise_of_key hmem (by simp [hid, horg]) ?_
  intro x _ hx
  simp only [Bool.and_eq_true, decide_eq_true_eq] at hx
  exact hx.1.trans hid.symm

theorem PartUpdateRequest.apply_eq_ok {payload : PartUpdateRequest} {part part' : Part}
    (h : payload.apply part = .ok part') :
    part'.Admitted ∧ part'.id = part.id ∧ part'.organizationId = part.organizationId ∧
      part'.quantityOnHand = payload.quantityOnHand.newValue part.quantityOnHand ∧
      part'.quantityReserved = payload.quantityReserved.newValue part.quantityReserved ∧
      part'.quantityQuarantined = part.quantityQuarantined := by
  obtain ⟨_, _, h⟩ := bind_eq_ok.1 h
  obtain ⟨_, _, h⟩ := bind_eq_ok.1 h
  obtain ⟨onHand, hon, h⟩ := bind_eq_ok.1 h
  obtain ⟨reserved, hres, h⟩ := bind_eq_ok.1 h
  obtain ⟨_, hadmitted, h⟩ := bind_eq_ok.1 h
  rw [pure_eq_ok] at h
  subst h
  exact ⟨not_not.1 (raiseIf_eq_ok.1 hadmitted), rfl, rfl, Patch.notNull_eq_ok hon,
    Patch.notNull_eq_ok hres, rfl⟩

end PartService
end AeroComply
