import AeroComply.Lib.Timeline
import AeroComply.Models.Timeline
import AeroComply.Services.Obligation

/-!
# AssetHistory — the lifecycle timeline of one asset

`get_asset_history` of `app/services/asset_service.py`.  Seven queries read at
most `limit` rows each, every one in its own order; a row gives one event or
more, with times of their own, and the events are filtered, sorted and cut.

`completeHistory` is the timeline that the view is cut from: the events of all
the rows.
-/

namespace AeroComply

open Timeline (Source latest)

namespace AssetService

open ObligationService (textOr)

structure AssetHistoryEventResponse where
  eventId : Message
  eventType : String
  occurredAt : DateTime
  title : Message
  description : Message
  actor : Option UUID
  entityType : String
  entityId : UUID
  metadata : List (String × Json) := []

structure AssetHistoryResponse where
  assetId : UUID
  events : List AssetHistoryEventResponse
  total : Nat

/-- `asset.registration or asset.id`. -/
def assetLabel (asset : Asset) : TextPart :=
  match asset.registration with
  | some registration => if registration = "" then .uuid asset.id else .str registration
  | none => .uuid asset.id

section Events

variable (store : TimelineStore) (asset : Asset)

/-- 1. Administrative audit events. -/
def auditEvents (a : AuditRow) : List AssetHistoryEventResponse :=
  [{ eventId := [.str "audit-", .uuid a.id]
     eventType := "AUDIT_EVENT"
     occurredAt := a.createdAt
     title := [.str "Administrative Action: ", .str a.event.action]
     description := [.str "Action '", .str a.event.action, .str "' performed on asset ",
       assetLabel asset, .str "."]
     actor := a.event.userId
     entityType := "Asset"
     entityId := asset.id
     metadata := a.eventMetadata.getD [] }]

/-- 1b. Mission events. -/
def missionEvents (m : Mission) : List AssetHistoryEventResponse :=
  let created : AssetHistoryEventResponse :=
    { eventId := [.str "mission-created-", .uuid m.id]
      eventType := "MISSION_CREATED"
      occurredAt := store.missionCreatedAt m
      title := [.str "Mission Created: ", .str m.purpose]
      description := [.str (textOr "No operating area recorded." m.operatingArea)]
      actor := m.pilotUserId
      entityType := "Mission"
      entityId := m.id
      metadata := [("status", .str m.status.value)] }
  if m.status = .completed then
    [created,
      { created with
        eventId := [.str "mission-completed-", .uuid m.id]
        eventType := "MISSION_COMPLETED"
        occurredAt := store.missionUpdatedAt m
        title := [.str "Mission Completed: ", .str m.purpose] }]
  else [created]

/-- `wo.work_order_number or str(wo.id)`. -/
def workOrderLabel (wo : WorkOrder) : TextPart :=
  if wo.workOrderNumber = "" then .uuid wo.id else .str wo.workOrderNumber

/-- 1c. Work order events. -/
def workOrderEvents (wo : WorkOrder) : List AssetHistoryEventResponse :=
  let status : List (String × Json) := [("status", .str wo.status.value)]
  [{ eventId := [.str "wo-created-", .uuid wo.id]
     eventType := "WORK_ORDER_CREATED"
     occurredAt := wo.createdAt
     title := [.str "Work Order Created: ", workOrderLabel wo]
     description := [.str (textOr (textOr "No description recorded." wo.description)
       (some wo.title))]
     actor := wo.createdByUserId
     entityType := "WorkOrder"
     entityId := wo.id
     metadata := status ++ [("work_order_type", .str wo.workOrderType)] }]
    ++ wo.completedAt.toList.map (fun completedAt =>
      { eventId := [.str "wo-completed-", .uuid wo.id]
        eventType := "WORK_ORDER_COMPLETED"
        occurredAt := completedAt
        title := [.str "Work Order Completed: ", workOrderLabel wo]
        description := [.str (textOr "No description recorded." (some wo.title))]
        actor := none
        entityType := "WorkOrder"
        entityId := wo.id
        metadata := status })
    ++ wo.closedAt.toList.map (fun closedAt =>
      { eventId := [.str "wo-closed-", .uuid wo.id]
        eventType := "WORK_ORDER_CLOSED"
        occurredAt := closedAt
        title := [.str "Work Order Closed: ", workOrderLabel wo]
        description := [.str "Maintenance cycle closed."]
        actor := none
        entityType := "WorkOrder"
        entityId := wo.id
        metadata := status })

/-- 1d. Finding events. -/
def findingEvents (fnd : Finding) : List AssetHistoryEventResponse :=
  let created : AssetHistoryEventResponse :=
    { eventId := [.str "finding-created-", .uuid fnd.id]
      eventType := "FINDING_CREATED"
      occurredAt := store.discoveredAt fnd
      title := [.str "Finding Recorded: ", .str fnd.title]
      description := [.str fnd.description]
      actor := (store.findingColumns fnd.id).discoveredByUserId
      entityType := "Finding"
      entityId := fnd.id
      metadata := [("severity", .str fnd.severity.value), ("status", .str fnd.status.value)] }
  if fnd.status = .closed then
    [created,
      { created with
        eventId := [.str "finding-closed-", .uuid fnd.id]
        eventType := "FINDING_CLOSED"
        occurredAt := (store.findingColumns fnd.id).updatedAt
        title := [.str "Finding Closed: ", .str fnd.title]
        actor := none
        metadata := [("severity", .str fnd.severity.value)] }]
  else [created]

/-- 1e. Inspection events, one for each completion that the log has. -/
def inspectionEvents (row : AuditRow × InspectionRequirement) : List AssetHistoryEventResponse :=
  let (a, insp) := row
  [{ eventId := [.str "inspection-completed-", .uuid a.id]
     eventType := "INSPECTION_COMPLETED"
     occurredAt := a.createdAt
     title := [.str "Inspection Completed"]
     description := [.str "Inspection requirement ", .uuid insp.id, .str " completed."]
     actor := a.event.userId
     entityType := "InspectionRequirement"
     entityId := insp.id
     metadata := [("work_order_id", .str ((insp.workOrderId.map toString).getD "None"))] }]

def flightEvents (f : Flight) : List AssetHistoryEventResponse :=
  [{ eventId := [.str "flight-", .uuid f.id]
     eventType := "FLIGHT_SORTIE"
     occurredAt := f.flownAt
     title := [.str "Flight Executed (", .str (toString f.durationMinutes), .str " min, ",
       .str (toString f.cycles), .str " cyc)"]
     description := [.str (textOr "Operational sector logged." f.notes)]
     actor := f.pilotUserId
     entityType := "Flight"
     entityId := f.id
     metadata := [("duration_minutes", .num f.durationMinutes), ("cycles", .num f.cycles)] }]

def installationEvents (row : Installation × Component) : List AssetHistoryEventResponse :=
  let (ci, c) := row
  [{ eventId := [.str "comp-inst-", .uuid ci.id]
     eventType := "COMPONENT_INSTALLATION"
     occurredAt := ci.installedAt
     title := [.str "Component Installed: ", .str c.name, .str " (", .str c.componentType,
       .str ")"]
     description := [.str "Serial: ", .str (textOr "N/A" c.serialNumber)]
     actor := ci.installedBy
     entityType := "Component"
     entityId := c.id
     metadata := [("component_type", .str c.componentType), ("status", .str c.status)] }]
    ++ ci.removedAt.toList.map (fun removedAt =>
      { eventId := [.str "comp-rem-", .uuid ci.id]
        eventType := "COMPONENT_REMOVAL"
        occurredAt := removedAt
        title := [.str "Component Removed: ", .str c.name]
        description := [.str "Removed from asset ", assetLabel asset, .str "."]
        actor := ci.removedBy
        entityType := "Component"
        entityId := c.id
        metadata := [("component_type", .str c.componentType)] })

end Events

section History

variable (store : TimelineStore) (organizationId : UUID) (asset : Asset)

/-- The work orders of the asset, deleted ones too. -/
def assetWorkOrders : List WorkOrder :=
  store.db.workOrders.select fun wo =>
    wo.assetId = some asset.id && wo.organizationId = organizationId

/-- The completed inspections with the rows of the log that completed them. -/
def inspectionCompletions : List (AuditRow × InspectionRequirement) :=
  (store.auditLog.select fun a =>
    a.event.organizationId = organizationId && a.event.entityType = "InspectionRequirement" &&
      a.event.action = "inspection.completed").filterMap fun a =>
    ((store.db.inspections.select fun insp =>
      insp.organizationId = organizationId && insp.status = .completed).find? fun insp =>
        a.event.entityId = some insp.id).map (a, ·)

/-- `InspectionRequirement.work_order_id.in_(wo_ids)`. -/
def inspects (workOrders : List WorkOrder) (row : AuditRow × InspectionRequirement) : Bool :=
  workOrders.any fun wo => row.2.workOrderId = some wo.id

/-- The queries, in the order of the source; the inspections are those of the work orders that
were read. -/
def historySources (workOrderRows : List WorkOrder) :
    List (Source DateTime AssetHistoryEventResponse) :=
  let db := store.db
  [ (store.auditLog.select fun a =>
      a.event.organizationId = organizationId && a.event.entityType = "Asset" &&
        a.event.entityId = some asset.id).map fun a => ⟨a.createdAt, auditEvents asset a⟩,
    (db.missions.select fun m =>
      m.assetId = asset.id && m.organizationId = organizationId).map fun m =>
        ⟨store.missionUpdatedAt m, missionEvents store m⟩,
    (assetWorkOrders store organizationId asset).map fun wo =>
      ⟨wo.createdAt, workOrderEvents wo⟩,
    (db.findings.select fun fnd =>
      fnd.assetId = some asset.id && fnd.organizationId = organizationId).map fun fnd =>
        ⟨store.discoveredAt fnd, findingEvents store fnd⟩,
    ((inspectionCompletions store organizationId).filter (inspects workOrderRows)).map fun row =>
      ⟨row.1.createdAt, inspectionEvents row⟩,
    (db.flights.select fun f =>
      f.assetId = asset.id && f.organizationId = organizationId).map fun f =>
        ⟨f.flownAt, flightEvents f⟩,
    (store.installedComponents fun ci =>
      ci.assetId = asset.id && ci.organizationId = organizationId).map fun row =>
        ⟨row.1.installedAt, installationEvents asset row⟩ ]

def workOrderRows (limit : Nat) : List WorkOrder :=
  latest WorkOrder.createdAt limit (assetWorkOrders store organizationId asset)

/-- The events of the rows that were read, `events` before the filters. -/
def collectedHistory (limit : Nat) : List AssetHistoryEventResponse :=
  (historySources store organizationId asset
    (workOrderRows store organizationId asset limit)).flatMap (Source.read limit)

/-- The two filters on the events. -/
def matchesHistory (eventType : Option String) (dateFrom dateTo : Option DateTime)
    (e : AssetHistoryEventResponse) : Bool :=
  eventType.all (fun t => e.eventType = t) && inRange dateFrom dateTo e.occurredAt

def getAssetHistory (assetId : UUID) (limit : Nat) (eventType : Option String)
    (dateFrom dateTo : Option DateTime) : Except Error AssetHistoryResponse := do
  let asset ← store.db.getAsset organizationId assetId
  let events := (collectedHistory store organizationId asset limit).filter
    (matchesHistory eventType dateFrom dateTo)
  let slicedEvents := latest AssetHistoryEventResponse.occurredAt limit events
  pure { assetId := asset.id, events := slicedEvents, total := slicedEvents.length }

/-! ## The whole timeline -/

/-- The lifecycle timeline of the asset: the events of all its rows. -/
def completeHistory : List AssetHistoryEventResponse :=
  (historySources store organizationId asset
    (assetWorkOrders store organizationId asset)).flatMap Source.all

/-- The events that the view does not read: those of the rows past the `limit` of their query, and
the completions of inspections of work orders past it. -/
def unreadHistory (limit : Nat) : List AssetHistoryEventResponse :=
  (historySources store organizationId asset
      (workOrderRows store organizationId asset limit)).flatMap (Source.unread limit)
    ++ ((inspectionCompletions store organizationId).filter fun row =>
      inspects (assetWorkOrders store organizationId asset) row &&
        !inspects (workOrderRows store organizationId asset limit) row).flatMap inspectionEvents

end History

end AssetService
end AeroComply
