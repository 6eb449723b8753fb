import AeroComply.Lib.Timeline
import AeroComply.Models.Timeline
import AeroComply.Services.Obligation
import AeroComply.Services.Plan
import AeroComply.Services.ProactiveIntelligence

/-!
# FleetTimeline — the operational timeline of a fleet, and the audit trail of a plan

`get_fleet_timeline` of `app/services/control_center_service.py`, over six
queries of at most `limit` rows each, and `list_plan_audit_events` of
`app/services/plan_service.py`, which reads three times as many rows of the log
as it shows and keeps those about the plan.
-/

namespace AeroComply

open Timeline (Source latest)

namespace ControlCenterService

open ObligationService (textOr)
open ProactiveIntelligenceService (day)

structure OperationalTimelineEvent where
  eventId : Message
  eventType : String
  occurredAt : DateTime
  title : Message
  description : Message
  actor : Option UUID
  entityType : String
  entityId : UUID
  assetId : Option UUID := none
  assetRegistration : Option String := none
  assetType : Option String := none
  metadata : List (String × Json) := []

section Events

variable (store : TimelineStore) (organizationId : UUID)

/-- The fields of an event that say which asset it is of; a deleted asset is not in `asset_map`. -/
def onAsset (assetId : Option UUID) (e : OperationalTimelineEvent) : OperationalTimelineEvent :=
  let a := assetId.bind fun id => (store.db.assets.select fun a =>
    a.organizationId = organizationId && a.deletedAt.isNone).find? fun a => a.id = id
  { e with
    assetId
    assetRegistration := a.bind Asset.registration
    assetType := a.map Asset.assetType }

def flightEvents (f : Flight) : List OperationalTimelineEvent :=
  [onAsset store organizationId (some f.assetId)
    { eventId := [.str "flight-", .uuid f.id]
      eventType := "FLIGHT_SORTIE"
      occurredAt := f.flownAt
      title := [.str "Flight Flown: ", .str (textOr "Sortie" f.flightNumber), .str " (",
        .str (toString f.durationMinutes), .str " min, ", .str (toString f.cycles), .str " cyc)"]
      description := match f.notes with
        | some notes =>
          if notes = "" then
            [.str "Operational flight from ", .str (textOr "—" f.origin), .str " to ",
              .str (textOr "—" f.destination), .str "."]
          else [.str notes]
        | none => [.str "Operational flight from ", .str (textOr "—" f.origin), .str " to ",
            .str (textOr "—" f.destination), .str "."]
      actor := f.pilotUserId
      entityType := "Flight"
      entityId := f.id
      metadata := [("duration_minutes", .num f.durationMinutes), ("cycles", .num f.cycles),
        ("source", .str f.source)] }]

def missionEvents (m : Mission) : List OperationalTimelineEvent :=
  [onAsset store organizationId (some m.assetId)
    { eventId := [.str "mission-", .uuid m.id]
      eventType := "MISSION_CREATED"
      occurredAt := store.missionCreatedAt m
      title := [.str "Mission Created: ", .str m.purpose]
      description := [.str (textOr "Mission operating area planned." m.operatingArea)]
      actor := m.pilotUserId
      entityType := "Mission"
      entityId := m.id
      metadata := [("status", .str m.status.value)] }]

/-- 3. Work orders. -/
def workOrderEvents (wo : WorkOrder) : List OperationalTimelineEvent :=
  let label : TextPart := .str (textOr wo.title (some wo.workOrderNumber))
  [onAsset store organizationId wo.assetId
    { eventId := [.str "wo-", .uuid wo.id]
      eventType := "WORK_ORDER_CREATED"
      occurredAt := wo.createdAt
      title := [.str "Work Order Created: ", label]
      description := [.str (textOr "Maintenance work order initiated." wo.description)]
      actor := wo.createdByUserId
      entityType := "WorkOrder"
      entityId := wo.id
      metadata := [("status", .str wo.status.value), ("priority", .str wo.priority)] }]
    ++ wo.completedAt.toList.map (fun completedAt => onAsset store organizationId wo.assetId
      { eventId := [.str "wo-completed-", .uuid wo.id]
        eventType := "WORK_ORDER_COMPLETED"
        occurredAt := completedAt
        title := [.str "Work Order Completed: ", label]
        description := [.str "Maintenance task execution completed."]
        actor := none
        entityType := "WorkOrder"
        entityId := wo.id
        metadata := [("status", .str wo.status.value)] })

def findingEvents (f : Finding) : List OperationalTimelineEvent :=
  [onAsset store organizationId f.assetId
    { eventId := [.str "fnd-", .uuid f.id]
      eventType := "FINDING_CREATED"
      occurredAt := store.discoveredAt f
      title := [.str "Finding Recorded: ", .str f.title]
      description := [.str (textOr "Discrepancy identified during operational inspection."
        (some f.description))]
      actor := (store.findingColumns f.id).discoveredByUserId
      entityType := "Finding"
      entityId := f.id
      metadata := [("severity", .str f.severity.value), ("status", .str f.status.value)] }]

def installationEvents (row : Installation × Component) : List OperationalTimelineEvent :=
  let (ci, c) := row
  [onAsset store organizationId (some ci.assetId)
    { eventId := [.str "comp-inst-", .uuid ci.id]
      eventType := "COMPONENT_INSTALLATION"
      occurredAt := ci.installedAt
      title := [.str "Component Installed: ", .str c.name, .str " (", .str c.componentType,
        .str ")"]
      description := [.str "Serial: ", .str (textOr "N/A" c.serialNumber), .str ", Mfr: ",
        .str (textOr "N/A" c.manufacturer)]
      actor := ci.installedBy
      entityType := "Component"
      entityId := c.id
      metadata := [("component_type", .str c.componentType)] }]

def baselineEvents (b : AssetHistoricalBaseline) : List OperationalTimelineEvent :=
  let columns := store.baselineColumns b.id
  [onAsset store organizationId (some b.assetId)
    { eventId := [.str "base-", .uuid b.id]
      eventType := "HISTORICAL_BASELINE_SET"
      occurredAt := store.baselineCreatedAt b
      title := [.str "Historical Baseline Established: ", .json (.num b.flightHours),
        .str " FH / ", .str (toString b.flightCycles), .str " Cyc"]
      description := [.str "Baseline accounting source: ", .str columns.source,
        .str ". Effective as of ", .date (day b.effectiveAt), .str "."]
      actor := columns.createdByUserId
      entityType := "AssetHistoricalBaseline"
      entityId := b.id
      metadata := [("flight_hours", .num b.flightHours), ("flight_cycles", .num b.flightCycles),
        ("source", .str columns.source)] }]

/-- `if asset_id is not None: stmt = stmt.where(...)`. -/
def ofAsset (assetId rowAssetId : Option UUID) : Bool :=
  match assetId with
  | some id => rowAssetId = some id
  | none => true

/-- The queries, in the order of the source. -/
def fleetSources (assetId : Option UUID) : List (Source DateTime OperationalTimelineEvent) :=
  let db := store.db
  [ (db.flights.select fun f =>
      f.organizationId = organizationId && ofAsset assetId (some f.assetId)).map fun f =>
        ⟨f.flownAt, flightEvents store organizationId f⟩,
    (db.missions.select fun m =>
      m.organizationId = organizationId && ofAsset assetId (some m.assetId)).map fun m =>
        ⟨store.missionCreatedAt m, missionEvents store organizationId m⟩,
    (db.workOrders.select fun wo =>
      wo.organizationId = organizationId && wo.deletedAt.isNone &&
        ofAsset assetId wo.assetId).map fun wo =>
          ⟨wo.createdAt, workOrderEvents store organizationId wo⟩,
    (db.findings.select fun f =>
      f.organizationId = organizationId && ofAsset assetId f.assetId).map fun f =>
        ⟨store.discoveredAt f, findingEvents store organizationId f⟩,
    (store.installedComponents fun ci =>
      ci.organizationId = organizationId && ofAsset assetId (some ci.assetId)).map fun row =>
        ⟨row.1.installedAt, installationEvents store organizationId row⟩,
    (db.baselines.select fun b =>
      b.organizationId = organizationId && ofAsset assetId (some b.assetId)).map fun b =>
        ⟨store.baselineCreatedAt b, baselineEvents store organizationId b⟩ ]

/-- The events of the rows that were read, `events` before the filters. -/
def collectedFleet (assetId : Option UUID) (limit : Nat) : List OperationalTimelineEvent :=
  (fleetSources store organizationId assetId).flatMap (Source.read limit)

/-- The two filters on the events; an empty `event_type` is none. -/
def matchesFleet (eventType : Option String) (dateFrom dateTo : Option DateTime)
    (e : OperationalTimelineEvent) : Bool :=
  eventType.all (fun t => t = "" || e.eventType = t) && inRange dateFrom dateTo e.occurredAt

def getFleetTimeline (assetId : Option UUID) (eventType : Option String) (limit : Nat)
    (dateFrom dateTo : Option DateTime) : List OperationalTimelineEvent :=
  latest OperationalTimelineEvent.occurredAt limit
    ((collectedFleet store organizationId assetId limit).filter
      (matchesFleet eventType dateFrom dateTo))

/-- The operational timeline: the events of all the rows. -/
def completeFleet (assetId : Option UUID) : List OperationalTimelineEvent :=
  (fleetSources store organizationId assetId).flatMap Source.all

/-- The events that the view does not read: those of the rows past the `limit` of their query. -/
def unreadFleet (assetId : Option UUID) (limit : Nat) : List OperationalTimelineEvent :=
  (fleetSources store organizationId assetId).flatMap (Source.unread limit)

end Events

end ControlCenterService

namespace PlanService

/-- What the query of the log asks for: the plan, or a feature or limit of any plan. -/
def queriesPlan (planId : UUID) (e : AuditRow) : Bool :=
  (e.event.entityType = "Plan" && e.event.entityId = some planId) ||
    ["PlanFeature", "PlanLimit"].contains e.event.entityType

/-- `(e.event_metadata or {}).get("plan_id") == str(plan_id)`. -/
def namesPlan (planId : UUID) (e : AuditRow) : Bool :=
  match paramsGet (e.eventMetadata.getD []) "plan_id" with
  | .str text => text = toString planId
  | _ => false

def aboutPlan (planId : UUID) (e : AuditRow) : Bool :=
  (e.event.entityType = "Plan" && e.event.entityId = some planId) ||
    (["PlanFeature", "PlanLimit"].contains e.event.entityType && namesPlan planId e)

/-- `all_events`: the rows that the query reads. -/
def readPlanEvents (store : TimelineStore) (planId : UUID) (limit : Nat) : List AuditRow :=
  latest AuditRow.createdAt (limit * 3) (store.auditLog.select (queriesPlan planId))

def listPlanAuditEvents (store : TimelineStore) (planId : UUID) (limit : Nat) :
    Except Error (List AuditRow) := do
  let _ ← getPlan store.db planId
  pure (((readPlanEvents store planId limit).filter (aboutPlan planId)).take limit)

end PlanService
end AeroComply
