import AeroComply.Core.Python

/-!
# Import — import jobs and saved column mappings

`app/models/import_job.py` and `import_mapping.py`.  The validated rows are stored
on the job.  A time among them is kept as the `datetime` whose ISO text is stored.
-/

namespace AeroComply

open Relational (Keyed)

inductive ImportDomain
  | aircraft
  | drone
  | flight
  deriving DecidableEq, Repr

namespace ImportDomain

def value : ImportDomain → String
  | aircraft => "AIRCRAFT"
  | drone => "DRONE"
  | flight => "FLIGHT"

/-- The domain with a name, if there is one. -/
def ofText? (s : String) : Option ImportDomain :=
  [aircraft, drone, flight].find? fun d => d.value = s

end ImportDomain

inductive ImportJobStatus
  | uploaded
  | parsing
  | mapped
  | validating
  | validated
  | staged
  | awaitingConfirmation
  | importing
  | completed
  | completedWithErrors
  | failed
  | cancelled
  deriving DecidableEq, Repr

def ImportJobStatus.value : ImportJobStatus → String
  | .uploaded => "UPLOADED"
  | .parsing => "PARSING"
  | .mapped => "MAPPED"
  | .validating => "VALIDATING"
  | .validated => "VALIDATED"
  | .staged => "STAGED"
  | .awaitingConfirmation => "AWAITING_CONFIRMATION"
  | .importing => "IMPORTING"
  | .completed => "COMPLETED"
  | .completedWithErrors => "COMPLETED_WITH_ERRORS"
  | .failed => "FAILED"
  | .cancelled => "CANCELLED"

inductive RowStatus
  | valid
  | warning
  | invalid
  deriving DecidableEq, Repr

inductive MatchAction
  | matchExisting
  | createAsset
  | skip
  deriving DecidableEq, Repr

/-- The normalized row of an aircraft. -/
structure AircraftData where
  registration : String
  msn : String
  aircraftType : String
  status : String
  deriving DecidableEq, Repr

/-- The normalized row of a flight; its `source` is always `EXCEL_IMPORT`. -/
structure FlightData where
  registration : String
  flightNumber : Option String
  origin : Option String
  destination : Option String
  departureTime : Option PyDateTime
  arrivalTime : Option PyDateTime
  flownAt : PyDateTime
  durationMinutes : Int
  cycles : Int
  missionType : Option String
  status : String
  pilotUserId : Option UUID
  notes : Option String
  deriving DecidableEq, Repr

/-- What the validation says of one row. -/
structure RowResult (Data : Type) where
  rowNumber : Nat
  status : RowStatus
  errors : List String
  warnings : List String
  data : Data
  matchedAssetId : Option UUID := none
  matchAction : Option MatchAction := none
  deriving DecidableEq, Repr

/-- The rows of a job, in the format of its domain.  A job for drones has never been created:
their validation raises. -/
inductive RowResults
  | aircraft (rows : List (RowResult AircraftData))
  | flight (rows : List (RowResult FlightData))
  deriving DecidableEq

def RowResults.domain : RowResults → ImportDomain
  | aircraft _ => .aircraft
  | flight _ => .flight

structure ImportJob where
  id : UUID
  organizationId : UUID
  filename : String
  fileHash : Option String
  status : ImportJobStatus := .validated
  createdByUserId : Option UUID := none
  sheetNames : List String := []
  selectedSheet : String
  columnMapping : Dict String
  matchStrategy : Dict String
  rowsTotal : Nat := 0
  rowsValid : Nat := 0
  rowsInvalid : Nat := 0
  warningCount : Nat := 0
  errorCount : Nat := 0
  rowsCreated : Nat := 0
  rowsFailed : Nat := 0
  rowResults : RowResults
  errorSummary : Option String := none
  completedAt : Option DateTime := none

structure TenantImportMapping where
  id : UUID
  organizationId : UUID
  domain : String
  mapping : Dict String
  isDefault : Bool := false

instance : Keyed ImportJob UUID := ⟨ImportJob.id⟩
instance : Keyed TenantImportMapping UUID := ⟨TenantImportMapping.id⟩

end AeroComply
