import AeroComply.Services.Obligation

/-!
# Evidence — upload, review, verification and rejection

`app/services/evidence_service.py`.  Creation, verification and rejection resolve
the linked obligation afterwards; `transition_evidence` does not.
-/

namespace AeroComply

namespace EvidenceService

open ObligationService

def allowedTransitions : EvidenceStatus → List EvidenceStatus
  | .required => [.uploaded]
  | .uploaded => [.submitted]
  | .submitted => [.awaitingReview, .rejected]
  | .awaitingReview => [.accepted, .rejected]
  | .accepted => []
  | .rejected => [.uploaded, .submitted]

def canTransition (current target : EvidenceStatus) : Bool :=
  if current = target then false else (allowedTransitions current).contains target

def satisfiesCompletionGate (status : EvidenceStatus) : Bool := status = .accepted

def getEvidence (db : Database) (organizationId evidenceId : UUID) : Except Error Evidence :=
  oneOrRaise
    (db.evidence.select fun e => e.id = evidenceId && e.organizationId = organizationId)
    (.notFound "Evidence not found")

/-- The row after a transition to `target`. -/
def transitioned (evidence : Evidence) (target : EvidenceStatus) (actorUserId : Option UUID)
    (rejectionReason : Option String) : Evidence :=
  match target with
  | .rejected => { evidence with
      status := .rejected, rejectionReason, reviewerUserId := actorUserId }
  | .accepted => { evidence with
      status := .accepted, rejectionReason := none, reviewerUserId := actorUserId }
  | .uploaded | .submitted => { evidence with
      status := target
      rejectionReason :=
        if evidence.status = .rejected then none else evidence.rejectionReason }
  | .required | .awaitingReview => { evidence with status := target }

section Transitioned

variable (e : Evidence) (target : EvidenceStatus) (actor : Option UUID) (reason : Option String)

@[simp] theorem transitioned_id : (transitioned e target actor reason).id = e.id := by
  cases target <;> rfl

@[simp] theorem transitioned_organizationId :
    (transitioned e target actor reason).organizationId = e.organizationId := by
  cases target <;> rfl

@[simp] theorem transitioned_complianceObligationId :
    (transitioned e target actor reason).complianceObligationId = e.complianceObligationId := by
  cases target <;> rfl

@[simp] theorem transitioned_verificationStatus :
    (transitioned e target actor reason).verificationStatus = e.verificationStatus := by
  cases target <;> rfl

@[simp] theorem transitioned_status : (transitioned e target actor reason).status = target := by
  cases target <;> rfl

end Transitioned

/-- The log entry of a transition; only a decision is logged. -/
def transitionAction : EvidenceStatus → Option String
  | .rejected => some "evidence.rejected"
  | .accepted => some "evidence.accepted"
  | .required | .uploaded | .submitted | .awaitingReview => none

def transitionEvidence (db : Database) (evidence : Evidence) (target : EvidenceStatus)
    (actorUserId : Option UUID) (rejectionReason : Option String) :
    Except Error (Database × Evidence) := do
  raiseIf (canTransition evidence.status target = false)
    (.conflict ("Cannot transition evidence from " ++ evidence.status.value ++ " to "
      ++ target.value))
  let moved := transitioned evidence target actorUserId rejectionReason
  let db' := { db with evidence := db.evidence.save moved }
  match transitionAction target with
  | some action => pure (db'.recordAuditEvent evidence.organizationId actorUserId action
      "Evidence" (some evidence.id), moved)
  | none => pure (db', moved)

/-- The arguments of `create_evidence`. -/
structure EvidenceCreate where
  taskId : Option UUID := none
  uploadedByUserId : Option UUID := none
  complianceObligationId : Option UUID := none
  regulatoryRequirementId : Option UUID := none
  assetId : Option UUID := none
  aircraftId : Option UUID := none
  componentId : Option UUID := none
  inspectionRequirementId : Option UUID := none
  findingId : Option UUID := none
  workOrderId : Option UUID := none
  title : Option String := none
  description : Option String := none
  evidenceType : String := "INSPECTION_RECORD"
  source : Option String := none
  capturedAt : Option DateTime := none
  provenance : Option Json := none

/-- `if task_id is not None`: the task exists in the organization. -/
def requireTask (db : Database) (organizationId : UUID) : Option UUID → Except Error Unit
  | none => .ok ()
  | some taskId => do
    let _ ← db.getTask organizationId taskId
    pure ()

/-- The obligation the evidence is for. -/
def linkedObligation (db : Database) (organizationId : UUID) :
    Option UUID → Except Error (Option ComplianceObligation)
  | none => .ok none
  | some obligationId => do
    let obligation ← getObligation db organizationId obligationId
    pure (some obligation)

/-- The new row; what is not given is inherited from the obligation. -/
def newEvidence (newId organizationId : UUID) (args : EvidenceCreate)
    (obligation : Option ComplianceObligation) : Evidence :=
  { id := newId, organizationId, taskId := args.taskId
    complianceObligationId := args.complianceObligationId
    regulatoryRequirementId :=
      args.regulatoryRequirementId.or (obligation.map ComplianceObligation.requirementId)
    assetId := args.assetId.or (obligation.bind ComplianceObligation.assetId)
    aircraftId := args.aircraftId.or (obligation.bind ComplianceObligation.aircraftId)
    componentId := args.componentId, inspectionRequirementId := args.inspectionRequirementId
    findingId := args.findingId, workOrderId := args.workOrderId, title := args.title
    description := args.description, evidenceType := args.evidenceType, source := args.source
    capturedAt := args.capturedAt, provenance := some (args.provenance.getD .null)
    uploadedByUserId := args.uploadedByUserId, status := .uploaded
    verificationStatus := .unverified }

/-- `resolve_obligation_compliance` of the obligation, if there is one. -/
def resolveLinked (db : Database) (now : DateTime) (today : Date) (actorUserId : Option UUID) :
    Option ComplianceObligation → Database
  | some obligation => (resolveObligationCompliance db now today obligation actorUserId).1
  | none => db

def createEvidence (db : Database) (now : DateTime) (today : Date) (newId organizationId : UUID)
    (args : EvidenceCreate) : Except Error (Database × Evidence) := do
  requireTask db organizationId args.taskId
  let obligation ← linkedObligation db organizationId args.complianceObligationId
  let row := newEvidence newId organizationId args obligation
  let evidence ← addRow db.evidence row
  let logged := ({ db with evidence }).recordAuditEvent organizationId args.uploadedByUserId
    "evidence.created" "Evidence" (some newId)
  pure (resolveLinked logged now today args.uploadedByUserId obligation, row)

/-- The obligation that a stored evidence row is linked to, in the row's organization. -/
def obligationOf (db : Database) (evidence : Evidence) :
    Except Error (Option ComplianceObligation) :=
  match evidence.complianceObligationId with
  | none => .ok none
  | some obligationId => scalarOneOrNone
      (db.obligations.select fun o =>
        o.id = obligationId && o.organizationId = evidence.organizationId)

/-- The shared end of a verification and a rejection: log, then resolve the obligation. -/
def settle (db : Database) (now : DateTime) (today : Date) (settled : Evidence)
    (actorUserId : Option UUID) (action : String) : Except Error (Database × Evidence) := do
  let obligation ← obligationOf db settled
  let logged := ({ db with evidence := db.evidence.save settled }).recordAuditEvent
    settled.organizationId actorUserId action "Evidence" (some settled.id)
  pure (resolveLinked logged now today actorUserId obligation, settled)

def verifyEvidence (db : Database) (now : DateTime) (today : Date) (evidence : Evidence)
    (verifierUserId : Option UUID) (verificationNotes : Option String) :
    Except Error (Database × Evidence) :=
  settle db now today
    { evidence with
      verificationStatus := .verified, status := .accepted, verifiedAt := some now
      verifierUserId, reviewerUserId := verifierUserId, verificationNotes
      rejectionReason := none }
    verifierUserId "evidence.verified"

def rejectEvidence (db : Database) (now : DateTime) (today : Date) (evidence : Evidence)
    (verifierUserId : Option UUID) (rejectionReason : String) :
    Except Error (Database × Evidence) :=
  settle db now today
    { evidence with
      verificationStatus := .rejected, status := .rejected
      rejectionReason := some rejectionReason
      verifierUserId, reviewerUserId := verifierUserId }
    verifierUserId "evidence.rejected"

end EvidenceService
end AeroComply
