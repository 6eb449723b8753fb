import AeroComply.Services.ProactiveIntelligence

/-!
# ControlCenter — the fleet at a glance

Two parts of `get_summary` of `app/services/control_center_service.py`: the hours and
cycles of the whole fleet, and the open work orders that need attention.  The summary
shows the first twenty of the attention items, most urgent first.
-/

namespace AeroComply

namespace ControlCenterService

open ProactiveIntelligenceService (day roundTo)

section Summary

variable (db : Database) (now : DateTime) (organizationId : UUID)

/-! ## Operational activity -/

def flightsAll : List Flight := db.flights.select fun f => f.organizationId = organizationId

/-- `baselines`. -/
def activeBaselines : List AssetHistoricalBaseline :=
  db.baselines.select fun b => b.organizationId = organizationId && b.isActive

def totalFlightMinutesRaw : Int := ((flightsAll db organizationId).map Flight.durationMinutes).sum

def totalFlightCyclesRaw : Int := ((flightsAll db organizationId).map Flight.cycles).sum

/-- `baseline_hours_sum`: a sum of floats, one after the other. -/
def baselineHoursSum (fl : ℚ → ℚ) : ℚ :=
  (activeBaselines db organizationId).foldl (fun hours b => fl (hours + b.flightHours)) 0

def baselineCyclesSum : Int :=
  ((activeBaselines db organizationId).map AssetHistoricalBaseline.flightCycles).sum

def totalFlightHours (fl : ℚ → ℚ) : ℚ :=
  roundTo fl 1 (fl (baselineHoursSum db organizationId fl
    + fl (totalFlightMinutesRaw db organizationId / 60)))

def totalCycles : Int := baselineCyclesSum db organizationId + totalFlightCyclesRaw db organizationId

/-! ## Open work orders -/

/-- Of a `ControlCenterAttentionItem` the fixed texts are left out. -/
structure AttentionItem where
  id : Message
  assetId : Option UUID
  registration : Option String
  assetType : Option String
  priority : String
  category : String
  title : String
  reason : Message

/-- `assets`: those of the organization that are not deleted. -/
def liveAssets : List Asset :=
  db.assets.select fun a => a.organizationId = organizationId && a.deletedAt.isNone

def openWorkOrderStatusesExcluded : List WorkOrderStatus := [.completed, .closed, .cancelled]

def openWorkOrders : List WorkOrder :=
  db.workOrders.select fun w =>
    w.organizationId = organizationId && w.deletedAt.isNone &&
      !openWorkOrderStatusesExcluded.contains w.status

/-- `is_overdue`, with the due date it goes by. -/
def overdueSince (now : DateTime) (wo : WorkOrder) : Option Date :=
  match wo.dueAt with
  | none => none
  | some dueAt => if day dueAt < day now then some (day dueAt) else none

/-- The reason that an item gives. -/
def workOrderReason (now : DateTime) (wo : WorkOrder) : Message :=
  match overdueSince now wo with
  | some due => [.str ("Work order is " ++ wo.status.value), .str ", overdue since ", .date due]
  | none => [.str ("Work order is " ++ wo.status.value), .str "."]

/-- The item of an open work order, if it needs attention. -/
def workOrderItem (wo : WorkOrder) : Option AttentionItem :=
  let isOverdue := (overdueSince now wo).isSome
  let isCriticalPriority := decide (wo.priority = "CRITICAL")
  let prio :=
    if isOverdue || isCriticalPriority then "CRITICAL"
    else if wo.priority = "HIGH" then "HIGH" else "MEDIUM"
  let asset := wo.assetId.bind fun assetId =>
    (liveAssets db organizationId).find? fun a => a.id = assetId
  if isOverdue || isCriticalPriority || ["CRITICAL", "HIGH"].contains prio then
    some { id := [.str "wo-", .uuid wo.id]
           assetId := wo.assetId
           registration := asset.bind Asset.registration
           assetType := asset.map Asset.assetType
           priority := prio
           category := "MAINTENANCE"
           title := "Maintenance Task: "
             ++ (if wo.workOrderNumber = "" then wo.title else wo.workOrderNumber)
           reason := workOrderReason now wo }
  else none

def workOrderItems : List AttentionItem :=
  (openWorkOrders db organizationId).filterMap (workOrderItem db now organizationId)

end Summary

section Items

variable {db : Database} {now : DateTime} {organizationId : UUID} {wo : WorkOrder}

theorem mem_openWorkOrders : wo ∈ openWorkOrders db organizationId ↔
    wo ∈ db.workOrders.rows ∧ wo.organizationId = organizationId ∧ wo.deletedAt = none ∧
      wo.status ≠ .completed ∧ wo.status ≠ .closed ∧ wo.status ≠ .cancelled := by
  simp [openWorkOrders, Relational.Table.mem_select, openWorkOrderStatusesExcluded, and_assoc]

theorem overdueSince_eq_some {due : Date} : overdueSince now wo = some due ↔
    ∃ dueAt, wo.dueAt = some dueAt ∧ day dueAt < day now ∧ day dueAt = due := by
  rw [overdueSince]
  cases wo.dueAt with
  | none => simp
  | some dueAt => simp

theorem workOrderReason_eq_iff {due : Date} :
    workOrderReason now wo
        = [.str ("Work order is " ++ wo.status.value), .str ", overdue since ", .date due] ↔
      overdueSince now wo = some due := by
  rw [workOrderReason]
  cases overdueSince now wo with
  | none => simp
  | some due' => simp

theorem workOrderItem_of_overdue (db : Database) (organizationId : UUID) {due : Date}
    (h : overdueSince now wo = some due) :
    ∃ item, workOrderItem db now organizationId wo = some item := by
  simp only [workOrderItem, h, Option.isSome_some, Bool.true_or, if_true]
  exact ⟨_, rfl⟩

theorem workOrderItem_eq_some {item : AttentionItem}
    (h : workOrderItem db now organizationId wo = some item) :
    item.id = [.str "wo-", .uuid wo.id] ∧ item.reason = workOrderReason now wo := by
  obtain ⟨_, h⟩ := Option.ite_none_right_eq_some.1 h
  cases h
  exact ⟨rfl, rfl⟩

end Items

end ControlCenterService
end AeroComply
