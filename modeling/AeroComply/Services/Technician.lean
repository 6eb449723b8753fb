import AeroComply.Models.Database

/-!
# Technician — whether a technician may work on a task

`app/services/technician_service.py`: a qualification is a grant of one aircraft type,
which may expire and may be revoked.
-/

namespace AeroComply

namespace TechnicianService

inductive AuthorizationStatus
  | authorized
  | notAuthorized
  | expired
  | missing
  | unknown
  deriving DecidableEq, Repr

def AuthorizationStatus.value : AuthorizationStatus → String
  | .authorized => "AUTHORIZED"
  | .notAuthorized => "NOT_AUTHORIZED"
  | .expired => "EXPIRED"
  | .missing => "MISSING"
  | .unknown => "UNKNOWN"

structure TechnicianAuthorizationResponse where
  status : AuthorizationStatus
  reason : Message
  taskId : UUID
  technicianUserId : UUID
  aircraftType : Option String := none
  qualificationId : Option UUID := none

/-- `str(expires_at)`. -/
def instantText : Option DateTime → TextPart
  | none => .str "None"
  | some t => .instant t

/-- The grants of the aircraft type to the technician. -/
def qualificationsFor (db : Database) (organizationId technicianUserId : UUID)
    (aircraftType : String) : List TechnicianQualification :=
  db.qualifications.select fun q =>
    q.organizationId = organizationId && q.userId = technicianUserId &&
      q.aircraftType = aircraftType

/-- Not past its last instant. -/
def isValid (now : DateTime) (q : TechnicianQualification) : Bool :=
  match q.expiresAt with
  | none => true
  | some expiresAt => now < expiresAt

/-- What the grants of one aircraft type say. -/
def judge (now : DateTime) (taskId technicianUserId : UUID) (aircraftType : String)
    (qualifications : List TechnicianQualification) : TechnicianAuthorizationResponse :=
  match newestBy TechnicianQualification.grantedAt qualifications with
  | none =>
    { status := .missing
      reason := [.str ("No qualification record exists for this technician on aircraft type "
        ++ pyRepr aircraftType ++ ".")]
      taskId, technicianUserId, aircraftType := some aircraftType }
  | some latest =>
    let active := qualifications.filter fun q => !q.revoked
    match newestBy (fun q => q.expiresAt.getD q.grantedAt) active with
    | none =>
      { status := .notAuthorized
        reason := [.str "Qualification ", .uuid latest.id,
          .str (" for " ++ pyRepr aircraftType ++ " has been revoked.")]
        taskId, technicianUserId, aircraftType := some aircraftType
        qualificationId := some latest.id }
    | some expired =>
      match newestBy TechnicianQualification.grantedAt (active.filter (isValid now)) with
      | some chosen =>
        { status := .authorized
          reason := [.str "Qualification ", .uuid chosen.id,
            .str (" (" ++ chosen.qualificationType ++ ") for " ++ pyRepr aircraftType
              ++ " is active.")]
          taskId, technicianUserId, aircraftType := some aircraftType
          qualificationId := some chosen.id }
      | none =>
        { status := .expired
          reason := [.str "Qualification ", .uuid expired.id,
            .str (" for " ++ pyRepr aircraftType ++ " expired on "),
            instantText expired.expiresAt, .str "."]
          taskId, technicianUserId, aircraftType := some aircraftType
          qualificationId := some expired.id }

/-- `check_authorization`; the work order and the aircraft are looked up by primary key. -/
def checkAuthorization (db : Database) (now : DateTime)
    (organizationId taskId technicianUserId : UUID) :
    Except Error TechnicianAuthorizationResponse := do
  let task ← db.getTask organizationId taskId
  let unresolved := fun reason : String =>
    ({ status := .unknown, reason := [.str reason], taskId, technicianUserId }
      : TechnicianAuthorizationResponse)
  match ← scalarOneOrNone
      (db.users.select fun u => u.id = technicianUserId && u.organizationId = organizationId) with
  | none => pure (unresolved "Technician user not found in this organization.")
  | some _ =>
    match db.workOrders.find? task.workOrderId with
    | none => pure (unresolved "This task's work order could not be resolved.")
    | some workOrder =>
      match workOrder.aircraftId.bind db.aircraft.find? with
      | none => pure (unresolved "This task's aircraft could not be resolved.")
      | some aircraft =>
        pure (judge now taskId technicianUserId aircraft.aircraftType
          (qualificationsFor db organizationId technicianUserId aircraft.aircraftType))

end TechnicianService
end AeroComply
