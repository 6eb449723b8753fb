import AeroComply.Services.AssetRecords

/-!
# DeletedWorkOrders — what a soft-deleted work order still does to its asset

`soft_delete_work_order` of `app/services/deletion_service.py` marks the work
order and leaves its tasks and inspection requirements as they are.
`compute_operational_state` passes over the marked work orders where it looks for
open ones, and not where it looks for pending inspections.

`operationalState_without_deleted_iff` says when the marked work orders, with all
that hangs off them, make no difference.
-/

namespace AeroComply

open Relational (Table)

namespace DeletionService

def softDeleteWorkOrder (u : UnicodeTables) (db : Database) (now : DateTime)
    (organizationId : UUID) (actorUserId : Option UUID) (workOrderId : UUID)
    (reason : Option String) : Except Error (Database × WorkOrder) := do
  let workOrder ← oneOrRaise
    (db.workOrders.select fun w => w.id = workOrderId && w.organizationId = organizationId)
    (.notFound "Work order not found")
  raiseIf (workOrder.deletedAt.isSome = true)
    (.conflict "Work order is already deleted" "already_deleted")
  let deleted := { workOrder with
    deletedAt := some now
    deletedBy := actorUserId
    deletionReason := u.stripOrNone reason }
  pure (({ db with workOrders := db.workOrders.save deleted }).recordAuditEvent organizationId
    actorUserId "work_order.deleted" "WorkOrder" (some workOrder.id), deleted)

end DeletionService

namespace AssetRecords

/-- A soft-deleted work order of the asset. -/
def isDeletedOrderOf (assetId : UUID) (w : WorkOrder) : Bool :=
  w.assetId = some assetId && w.deletedAt.isSome

/-- The task hangs off a soft-deleted work order of the asset. -/
def isDeletedTask (db : Database) (assetId : UUID) (t : Task) : Bool :=
  db.workOrders.rows.any fun w => isDeletedOrderOf assetId w && t.workOrderId = w.id

/-- The inspection hangs off a soft-deleted work order of the asset, or off a task of one. -/
def isDeletedInspection (db : Database) (assetId : UUID) (i : InspectionRequirement) : Bool :=
  (db.workOrders.rows.any fun w => isDeletedOrderOf assetId w && i.workOrderId = some w.id) ||
    db.tasks.rows.any fun t => isDeletedTask db assetId t && i.taskId = some t.id

/-- The database without the soft-deleted work orders of the asset, and without the tasks and
inspections that hang off them. -/
def withoutDeleted (db : Database) (assetId : UUID) : Database :=
  { db with
    workOrders := db.workOrders.deleteWhere (isDeletedOrderOf assetId)
    tasks := db.tasks.deleteWhere (isDeletedTask db assetId)
    inspections := db.inspections.deleteWhere (isDeletedInspection db assetId) }

/-- The inspection is pending, on a work order of the asset. -/
def isPendingOf (db : Database) (organizationId assetId : UUID) (i : InspectionRequirement) :
    Bool :=
  i.organizationId = organizationId && i.status = .pending &&
    db.workOrders.rows.any fun w => i.workOrderId = some w.id && w.assetId = some assetId

/-- One of the facts that come before the pending inspections settles the state. -/
def SettledBefore (db : Database) (organizationId : UUID) (asset : Asset) : Prop :=
  asset.status ∈ [AssetLifecycleStatus.retired, AssetLifecycleStatus.archived,
    AssetLifecycleStatus.grounded, AssetLifecycleStatus.maintenance,
    AssetLifecycleStatus.inspection] ∨
  hasActiveAog db organizationId asset.id = true ∨ hasOpenWorkOrder db organizationId asset.id = true

section

variable {db : Database} {org assetId : UUID} {asset : Asset}

theorem hasOpenWorkOrder_withoutDeleted :
    hasOpenWorkOrder (withoutDeleted db assetId) org assetId = hasOpenWorkOrder db org assetId := by
  show (db.workOrders.deleteWhere _).rows.any _ = _
  rw [Table.any_deleteWhere, hasOpenWorkOrder]
  congr 1
  funext w
  rw [isDeletedOrderOf]
  cases w.deletedAt with
  | none => simp
  | some deletedAt => simp

theorem isPendingOf_withoutDeleted {i : InspectionRequirement}
    (h : isDeletedInspection db assetId i = false) :
    isPendingOf (withoutDeleted db assetId) org assetId i = isPendingOf db org assetId i := by
  rw [isPendingOf, isPendingOf]
  congr 1
  show (db.workOrders.deleteWhere _).rows.any _ = _
  rw [Table.any_deleteWhere, Bool.eq_iff_iff, List.any_eq_true, List.any_eq_true]
  rw [isDeletedInspection, Bool.or_eq_false_iff, List.any_eq_false] at h
  constructor
  · rintro ⟨w, hw, hon⟩
    exact ⟨w, hw, (Bool.and_eq_true _ _ ▸ hon).2⟩
  · rintro ⟨w, hw, hon⟩
    refine ⟨w, hw, ?_⟩
    have hid : i.workOrderId = some w.id := of_decide_eq_true (Bool.and_eq_true _ _ ▸ hon).1
    have hout := h.1 w hw
    rw [hid, decide_eq_true rfl, Bool.and_true, Bool.not_eq_true] at hout
    rw [hout, hon]
    rfl

theorem hasPendingInspection_withoutDeleted :
    hasPendingInspection (withoutDeleted db assetId) org assetId
      = db.inspections.rows.any fun i =>
          !isDeletedInspection db assetId i && isPendingOf db org assetId i := by
  show (db.inspections.deleteWhere _).rows.any (isPendingOf (withoutDeleted db assetId) org assetId)
    = _
  rw [Table.any_deleteWhere]
  congr 1
  funext i
  cases h : isDeletedInspection db assetId i with
  | true => rfl
  | false => rw [isPendingOf_withoutDeleted h]

/-- The state of an asset without a pending inspection, the earlier facts aside. -/
def stateAfterInspections (db : Database) (organizationId : UUID) (asset : Asset) :
    OperationalState :=
  if hasActiveMission db organizationId asset.id then .inMission
  else if asset.status = AssetLifecycleStatus.planned then .inactive
  else .available

theorem stateAfterInspections_ne (db : Database) (org : UUID) (asset : Asset) :
    stateAfterInspections db org asset ≠ .underInspection := by
  rw [stateAfterInspections]
  split
  · exact fun h => nomatch h
  · split
    · exact fun h => nomatch h
    · exact fun h => nomatch h

theorem operationalState_of_not_settled (h : ¬SettledBefore db org asset) :
    computeOperationalState db org asset
      = if hasPendingInspection db org asset.id then .underInspection
        else stateAfterInspections db org asset := by
  simp only [SettledBefore, List.mem_cons, List.not_mem_nil, or_false, not_or] at h
  obtain ⟨⟨hretired, harchived, hgrounded, hmaintenance, hinspection⟩, haog, hopen⟩ := h
  rw [computeOperationalState, if_neg hretired, if_neg harchived, if_neg haog, if_neg hgrounded,
    if_neg hmaintenance, if_neg hopen, if_neg hinspection]
  rfl

theorem operationalState_of_settled {db' : Database}
    (haog : hasActiveAog db' org asset.id = hasActiveAog db org asset.id)
    (hopen : hasOpenWorkOrder db' org asset.id = hasOpenWorkOrder db org asset.id)
    (h : SettledBefore db org asset) :
    computeOperationalState db' org asset = computeOperationalState db org asset := by
  rw [computeOperationalState, computeOperationalState, haog, hopen]
  rcases h with hstatus | hactive | hopened
  · simp only [List.mem_cons, List.not_mem_nil, or_false] at hstatus
    rcases hstatus with hs | hs | hs | hs | hs
    · rw [if_pos hs, if_pos hs]
    · simp only [hs, if_true]
    · simp only [hs, if_true]
    · simp only [hs, if_true]
    · simp only [hs, if_true]
  · simp only [hactive, if_true]
  · simp only [hopened, if_true]

/-- **SOFT-DELETED WORK ORDERS**: they make no difference to the operational state exactly when
it is settled before the pending inspections are looked at, or an asset with a pending
inspection has one that hangs off live work orders only. -/
theorem operationalState_without_deleted_iff :
    computeOperationalState (withoutDeleted db asset.id) org asset
        = computeOperationalState db org asset ↔
      SettledBefore db org asset ∨
        ∀ i ∈ db.inspections.rows, isPendingOf db org asset.id i = true →
          ∃ j ∈ db.inspections.rows, isPendingOf db org asset.id j = true ∧
            isDeletedInspection db asset.id j = false := by
  have hopen : hasOpenWorkOrder (withoutDeleted db asset.id) org asset.id
      = hasOpenWorkOrder db org asset.id := hasOpenWorkOrder_withoutDeleted
  by_cases hsettled : SettledBefore db org asset
  · exact iff_of_true (operationalState_of_settled rfl hopen hsettled) (Or.inl hsettled)
  have hsettled' : ¬SettledBefore (withoutDeleted db asset.id) org asset := by
    intro h
    rw [SettledBefore, hopen] at h
    exact hsettled h
  have hafter : stateAfterInspections (withoutDeleted db asset.id) org asset
      = stateAfterInspections db org asset := rfl
  rw [operationalState_of_not_settled hsettled, operationalState_of_not_settled hsettled', hafter]
  -- the two states differ only in whether a pending inspection is found
  have hstate : ∀ b b' : Bool,
      (if b then OperationalState.underInspection else stateAfterInspections db org asset)
        = (if b' then .underInspection else stateAfterInspections db org asset) ↔ b = b' := by
    intro b b'
    have hne := stateAfterInspections_ne db org asset
    cases b <;> cases b' <;> simp [hne, hne.symm]
  rw [hstate, hasPendingInspection_withoutDeleted, Bool.eq_iff_iff, List.any_eq_true,
    hasPendingInspection, List.any_eq_true]
  constructor
  · intro h
    refine Or.inr fun i hi hpending => ?_
    obtain ⟨j, hj, hkept⟩ := h.2 ⟨i, hi, hpending⟩
    rw [Bool.and_eq_true, Bool.not_eq_true'] at hkept
    exact ⟨j, hj, hkept.2, hkept.1⟩
  · rintro (h | h)
    · exact absurd h hsettled
    constructor
    · rintro ⟨i, hi, hkept⟩
      exact ⟨i, hi, (Bool.and_eq_true _ _ ▸ hkept).2⟩
    · rintro ⟨i, hi, hpending⟩
      obtain ⟨j, hj, hpending', hkept⟩ := h i hi hpending
      exact ⟨j, hj, by rw [hkept, hpending']; rfl⟩

end

/-- An active asset with one open work order, and on it an inspection that is still pending. -/
def awaitingInspection : Database where
  assets := .single { id := 3, organizationId := 1 }
  workOrders := .single { id := 7, organizationId := 1, assetId := some 3 }
  inspections := .single { id := 9, organizationId := 1, workOrderId := some 7 }

/-- The work order is soft-deleted: the asset stays under inspection, until the row goes. -/
theorem deleted_order_still_inspected :
    ∃ db deleted, DeletionService.softDeleteWorkOrder .ascii awaitingInspection 0 1 none 7 none
        = .ok (db, deleted) ∧
      ¬∀ (org : UUID) (asset : Asset),
        computeOperationalState (withoutDeleted db asset.id) org asset
          = computeOperationalState db org asset := by
  refine ⟨_, _, rfl, fun h => ?_⟩
  have hstate := h 1 { id := 3, organizationId := 1 }
  revert hstate
  decide

end AssetRecords
end AeroComply
