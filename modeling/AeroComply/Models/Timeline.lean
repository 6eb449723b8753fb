import AeroComply.Models.Database

/-!
# Timeline — the audit log and the columns that only the history views read

The views order rows by when they were written and show what the log says of
them.  The services that write these columns leave them to the database server,
so that they are kept here, beside the rows they belong to.
-/

namespace AeroComply

open Relational (Keyed Table)

/-- A row of `audit_events` with all its columns. -/
structure AuditRow where
  id : UUID
  event : AuditEvent
  createdAt : DateTime
  eventMetadata : Option (List (String × Json)) := some []

instance : Keyed AuditRow UUID := ⟨AuditRow.id⟩

/-- The timestamps of a mission. -/
structure MissionColumns where
  createdAt : DateTime
  updatedAt : DateTime

structure FindingColumns where
  discoveredAt : DateTime
  discoveredByUserId : Option UUID := none
  updatedAt : DateTime

structure BaselineColumns where
  createdAt : DateTime
  createdByUserId : Option UUID := none
  source : String := "MANUAL"

/-- The database with these columns, each under the key of its row. -/
structure TimelineStore where
  db : Database
  auditLog : Table AuditRow := Table.empty
  missionColumns : UUID → MissionColumns := fun _ => ⟨0, 0⟩
  findingColumns : UUID → FindingColumns := fun _ => { discoveredAt := 0, updatedAt := 0 }
  baselineColumns : UUID → BaselineColumns := fun _ => { createdAt := 0 }
  /-- The log is the one that the services write to. -/
  log : auditLog.rows.map AuditRow.event = db.auditEvents

namespace TimelineStore

variable (store : TimelineStore)

/-- `created_at` of a mission. -/
def missionCreatedAt (m : Mission) : DateTime := (store.missionColumns m.id).createdAt

/-- `updated_at` of a mission. -/
def missionUpdatedAt (m : Mission) : DateTime := (store.missionColumns m.id).updatedAt

def discoveredAt (f : Finding) : DateTime := (store.findingColumns f.id).discoveredAt

/-- `created_at` of a baseline. -/
def baselineCreatedAt (b : AssetHistoricalBaseline) : DateTime :=
  (store.baselineColumns b.id).createdAt

/-- The installations of components with their components, as the query joins them. -/
def installedComponents (p : Installation → Bool) : List (Installation × Component) :=
  (store.db.componentInstallations.select p).filterMap fun ci =>
    (store.db.components.find? ci.itemId).map (ci, ·)

end TimelineStore

/-- `_in_range`: the half-open range from `date_from` to `date_to`. -/
def inRange (dateFrom dateTo : Option DateTime) (occurredAt : DateTime) : Bool :=
  !dateFrom.any (fun d => occurredAt < d) && !dateTo.any (fun d => d ≤ occurredAt)

end AeroComply
