import AeroComply.Lib.Table
import AeroComply.Core.Base

/-!
# Maintenance — recurring requirements, what they apply to, their accomplishments, deferrals

`app/models/maintenance_requirement.py`.  Of an interval the column that its type
names counts; `interval_type` is a text column.
-/

namespace AeroComply

open Relational (Keyed)

namespace MaintenanceIntervalType

def flightHours : String := "FLIGHT_HOURS"
def flightCycles : String := "FLIGHT_CYCLES"
def calendar : String := "CALENDAR"
def batteryCycles : String := "BATTERY_CYCLES"
def componentHours : String := "COMPONENT_HOURS"
def componentCycles : String := "COMPONENT_CYCLES"

end MaintenanceIntervalType

structure MaintenanceRequirement where
  id : UUID
  organizationId : UUID
  description : String := ""
  intervalType : String
  fhInterval : Option Int := none
  fcInterval : Option Int := none
  calendarIntervalDays : Option Int := none

structure MaintenanceRequirementApplicability where
  id : UUID
  organizationId : UUID
  requirementId : UUID
  aircraftId : Option UUID := none
  assetId : Option UUID := none
  batteryId : Option UUID := none
  componentId : Option UUID := none

structure MaintenanceAccomplishment where
  id : UUID
  organizationId : UUID
  requirementId : UUID
  aircraftId : Option UUID := none
  assetId : Option UUID := none
  batteryId : Option UUID := none
  componentId : Option UUID := none
  accomplishedAt : Date

inductive DeferredItemStatus
  | open
  | closed
  deriving DecidableEq, Repr

/-- `app/models/deferred_item.py`; a missing due date is unknown, and the approval status is a
text column. -/
structure DeferredItem where
  id : UUID
  organizationId : UUID
  aircraftId : UUID
  assetId : Option UUID := none
  workOrderId : Option UUID := none
  melReference : Option String := none
  category : String := "UNKNOWN"
  description : String := ""
  openedAt : Date := 0
  dueAt : Option Date := none
  status : DeferredItemStatus := .open
  deferralBasis : String := "UNKNOWN"
  operationalLimitations : Option String := none
  requiredActions : Option String := none
  approvalRequired : Bool := false
  approvalStatus : String := "NOT_REQUIRED"
  closedAt : Option Date := none
  closureNotes : Option String := none

/-- `app/models/technician_qualification.py`: the grant of an aircraft type to a technician. -/
structure TechnicianQualification where
  id : UUID
  organizationId : UUID
  userId : UUID
  aircraftType : String
  qualificationType : String := ""
  grantedAt : DateTime := 0
  expiresAt : Option DateTime := none
  revoked : Bool := false

instance : Keyed MaintenanceRequirement UUID := ⟨MaintenanceRequirement.id⟩
instance : Keyed MaintenanceRequirementApplicability UUID :=
  ⟨MaintenanceRequirementApplicability.id⟩
instance : Keyed MaintenanceAccomplishment UUID := ⟨MaintenanceAccomplishment.id⟩
instance : Keyed DeferredItem UUID := ⟨DeferredItem.id⟩
instance : Keyed TechnicianQualification UUID := ⟨TechnicianQualification.id⟩

end AeroComply
