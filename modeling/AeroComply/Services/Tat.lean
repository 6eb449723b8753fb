import AeroComply.Services.ProactiveIntelligence

/-!
# Tat — the turnaround status of a work order

`app/services/tat_service.py`: the due day of a work order against today, and the counts
over the work orders of an organization.
-/

namespace AeroComply

namespace TatService

open ProactiveIntelligenceService (day)

inductive TatStatusLiteral
  | onTrack
  | atRisk
  | delayed
  | unknown
  deriving DecidableEq, Repr

structure TatStatus where
  workOrderId : UUID
  status : TatStatusLiteral
  dueDate : Option Date := none
  daysRemaining : Option Int := none
  daysOverdue : Option Int := none
  reason : String

def noDueDateReason : String :=
  "No due date is recorded for this work order yet. WorkOrder has no "
    ++ "due_at field populated, so TAT status is reported as UNKNOWN."

def fleetReason : String :=
  "No work orders carry a due date, so every work order is reported as "
    ++ "UNKNOWN rather than fabricating a TAT status."

def calculateTatForWorkOrder (now : DateTime) (workOrder : WorkOrder) : TatStatus :=
  match workOrder.dueAt with
  | none => { workOrderId := workOrder.id, status := .unknown, reason := noDueDateReason }
  | some dueAt =>
    let deltaDays := day dueAt - day now
    if workOrder.status = .completed ∨ workOrder.status = .closed then
      { workOrderId := workOrder.id, status := .onTrack, dueDate := some (day dueAt)
        daysRemaining := some (max 0 deltaDays), reason := "Work order is completed." }
    else if deltaDays < 0 then
      { workOrderId := workOrder.id, status := .delayed, dueDate := some (day dueAt)
        daysRemaining := some 0, daysOverdue := some (-deltaDays)
        reason := "Work order is " ++ toString (-deltaDays) ++ " day(s) overdue." }
    else if deltaDays ≤ 3 then
      { workOrderId := workOrder.id, status := .atRisk, dueDate := some (day dueAt)
        daysRemaining := some deltaDays
        reason := "Work order is due within " ++ toString deltaDays ++ " day(s)." }
    else
      { workOrderId := workOrder.id, status := .onTrack, dueDate := some (day dueAt)
        daysRemaining := some deltaDays
        reason := "Work order is on track, due in " ++ toString deltaDays ++ " day(s)." }

def getWorkOrderTatStatus (db : Database) (now : DateTime) (organizationId workOrderId : UUID) :
    Except Error TatStatus := do
  let workOrder ← db.getWorkOrder organizationId workOrderId
  pure (calculateTatForWorkOrder now workOrder)

structure FleetTatSummary where
  organizationId : UUID
  onTrackCount : Nat
  atRiskCount : Nat
  delayedCount : Nat
  unknownCount : Nat
  totalWorkOrders : Nat
  reason : String

def fleetTats (db : Database) (now : DateTime) (organizationId : UUID) : List TatStatus :=
  (db.workOrders.select fun w => w.organizationId = organizationId && w.deletedAt.isNone).map
    (calculateTatForWorkOrder now)

def getFleetTatStatus (db : Database) (now : DateTime) (organizationId : UUID) :
    FleetTatSummary :=
  let tats := fleetTats db now organizationId
  let count := fun status => (tats.filter fun tat => tat.status = status).length
  { organizationId
    onTrackCount := count .onTrack
    atRiskCount := count .atRisk
    delayedCount := count .delayed
    unknownCount := count .unknown
    totalWorkOrders := tats.length
    reason :=
      if tats.length = 0 then "No active work orders found for organization."
      else if count .unknown < tats.length then
        "Fleet TAT: " ++ toString (count .onTrack) ++ " on track, " ++ toString (count .atRisk)
          ++ " at risk, " ++ toString (count .delayed) ++ " delayed, "
          ++ toString (count .unknown) ++ " unknown."
      else fleetReason }

theorem calculateTatForWorkOrder_workOrderId (now : DateTime) (workOrder : WorkOrder) :
    (calculateTatForWorkOrder now workOrder).workOrderId = workOrder.id := by
  rw [calculateTatForWorkOrder]
  split
  · rfl
  · simp only
    split_ifs <;> rfl

theorem status_eq_delayed_iff {now : DateTime} {workOrder : WorkOrder} :
    (calculateTatForWorkOrder now workOrder).status = .delayed ↔
      (∃ dueAt, workOrder.dueAt = some dueAt ∧ day dueAt < day now) ∧
        workOrder.status ≠ .completed ∧ workOrder.status ≠ .closed := by
  rw [calculateTatForWorkOrder]
  cases workOrder.dueAt with
  | none => simp
  | some dueAt =>
    simp only [Option.some.injEq, exists_eq_left', ← not_or]
    split_ifs with hdone hlate hsoon
    · simp [hdone]
    · simp [hdone, sub_neg.1 hlate]
    · simp [not_lt.1 (mt sub_neg.2 hlate)]
    · simp [not_lt.1 (mt sub_neg.2 hlate)]

end TatService
end AeroComply
