import Mathlib.Data.Rat.Defs
import AeroComply.Lib.Table
import AeroComply.Core.Base

/-!
# Asset — assets, what is installed on them, and what they flew

`app/models/asset.py`, `aircraft.py`, `component.py`, `battery.py`,
`installation_history.py`, `flight.py`, `asset_baseline.py`, `mission.py` and
`aog_event.py`.  `Asset.status` is a free text column with the lifecycle
vocabulary as constants.
-/

namespace AeroComply

open Relational (Keyed)

namespace AssetLifecycleStatus

def planned : String := "PLANNED"
def maintenance : String := "MAINTENANCE"
def inspection : String := "INSPECTION"
def grounded : String := "GROUNDED"
def retired : String := "RETIRED"
def archived : String := "ARCHIVED"

end AssetLifecycleStatus

namespace AssetType

def aircraft : String := "AIRCRAFT"
def drone : String := "DRONE"

end AssetType

structure Asset where
  id : UUID
  organizationId : UUID
  assetType : String := "AIRCRAFT"
  registration : Option String := none
  status : String := "ACTIVE"
  deletedAt : Option DateTime := none
  deletedBy : Option UUID := none
  deletionReason : Option String := none
  restoredAt : Option DateTime := none
  restoredBy : Option UUID := none
  manufacturer : Option String := none
  model : Option String := none
  serialNumber : Option String := none
  facilityId : Option UUID := none
  acquiredAt : Option DateTime := none
  createdAt : DateTime := 0

/-- Of a facility only the key is used, to which assets refer, and the tenant. -/
structure Facility where
  id : UUID
  organizationId : UUID

structure Aircraft where
  id : UUID
  organizationId : UUID
  registration : String
  msn : String
  aircraftType : String
  status : String := "ACTIVE"
  assetId : Option UUID := none

structure Component where
  id : UUID
  organizationId : UUID
  assetId : Option UUID := none
  componentType : String
  name : String
  serialNumber : Option String := none
  manufacturer : Option String := none
  model : Option String := none
  status : String := "INSTALLED"
  notes : Option String := none
  createdAt : DateTime := 0

structure Battery where
  id : UUID
  organizationId : UUID
  assetId : Option UUID := none
  serialNumber : String
  manufacturer : Option String := none
  model : Option String := none
  capacityMah : Option Int := none
  voltage : Option Int := none
  cycleCount : Int := 0
  healthPercent : Option Int := none
  status : String := "GOOD"
  installedAt : Option DateTime := none
  notes : Option String := none
  createdAt : DateTime := 0

/-- A row of `battery_installations` or of `component_installations`, which have the same
columns: one span from installation to removal. -/
structure Installation where
  id : UUID
  organizationId : UUID
  itemId : UUID
  assetId : UUID
  installedAt : DateTime
  removedAt : Option DateTime := none
  installedBy : Option UUID := none
  removedBy : Option UUID := none

structure Flight where
  id : UUID
  organizationId : UUID
  assetId : UUID
  missionId : Option UUID := none
  flightNumber : Option String := none
  origin : Option String := none
  destination : Option String := none
  departureTime : Option DateTime := none
  arrivalTime : Option DateTime := none
  flownAt : DateTime
  durationMinutes : Int
  cycles : Int := 1
  missionType : Option String := none
  status : String := "COMPLETED"
  source : String := "MANUAL"
  sourceRowId : Option String := none
  pilotUserId : Option UUID := none
  notes : Option String := none

/-- A carry-in of hours and cycles flown before the platform kept flight records. -/
structure AssetHistoricalBaseline where
  id : UUID
  organizationId : UUID
  assetId : UUID
  flightHours : ℚ := 0
  flightCycles : Int := 0
  effectiveAt : DateTime
  isActive : Bool := true

/-- `MissionStatus`; the column is a text, and `other` a text that is none of its members. -/
inductive MissionStatus
  | planned
  | authorized
  | inProgress
  | completed
  | cancelled
  | other (text : String)
  deriving DecidableEq, Repr

namespace MissionStatus

/-- What a text stands for. -/
def ofText (text : String) : MissionStatus :=
  match text with
  | "PLANNED" => .planned
  | "AUTHORIZED" => .authorized
  | "IN_PROGRESS" => .inProgress
  | "COMPLETED" => .completed
  | "CANCELLED" => .cancelled
  | text => .other text

def value : MissionStatus → String
  | .planned => "PLANNED"
  | .authorized => "AUTHORIZED"
  | .inProgress => "IN_PROGRESS"
  | .completed => "COMPLETED"
  | .cancelled => "CANCELLED"
  | .other text => text

end MissionStatus

structure Mission where
  id : UUID
  organizationId : UUID
  assetId : UUID
  pilotUserId : Option UUID := none
  status : MissionStatus := .planned
  purpose : String := ""
  operatingArea : Option String := none
  plannedStart : Option DateTime := none
  plannedEnd : Option DateTime := none
  authorizedAt : Option DateTime := none
  authorizedByUserId : Option UUID := none
  notes : Option String := none

inductive AogEventStatus
  | declared
  | inRecovery
  | recovered
  | cancelled
  deriving DecidableEq, Repr

structure AogEvent where
  id : UUID
  organizationId : UUID
  aircraftId : UUID
  assetId : Option UUID := none
  workOrderId : Option UUID := none
  status : AogEventStatus := .declared
  severity : String := "CRITICAL"
  rootCause : Option String := none

/-- A row of `aog_blockers`; its texts have no default in the table. -/
structure AogBlocker where
  id : UUID
  organizationId : UUID
  aogEventId : UUID
  blockerType : String := ""
  description : String := ""
  sourceReference : Option String := none
  resolved : Bool := false

instance : Keyed Asset UUID := ⟨Asset.id⟩
instance : Keyed Facility UUID := ⟨Facility.id⟩
instance : Keyed Aircraft UUID := ⟨Aircraft.id⟩
instance : Keyed Component UUID := ⟨Component.id⟩
instance : Keyed Battery UUID := ⟨Battery.id⟩
instance : Keyed Installation UUID := ⟨Installation.id⟩
instance : Keyed Flight UUID := ⟨Flight.id⟩
instance : Keyed AssetHistoricalBaseline UUID := ⟨AssetHistoricalBaseline.id⟩
instance : Keyed Mission UUID := ⟨Mission.id⟩
instance : Keyed AogEvent UUID := ⟨AogEvent.id⟩
instance : Keyed AogBlocker UUID := ⟨AogBlocker.id⟩

end AeroComply
