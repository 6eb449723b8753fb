import AeroComply.Applicability.Service

/-!
# Obligation — the lifecycle of a compliance obligation

`app/services/compliance/obligation_service.py`.  An obligation is created for a
requirement and a subject, evaluated against an applicability rule, and resolved
from the evidence linked to it.  `update_obligation` writes whatever status the
caller sends.
-/

namespace AeroComply

namespace ObligationService

open ApplicabilityService

/-- `ComplianceObligationCreateRequest`; it names an aircraft or an asset. -/
structure ComplianceObligationCreateRequest where
  requirementId : UUID
  ruleId : Option UUID := none
  assetId : Option UUID := none
  aircraftId : Option UUID := none
  applicabilityEvaluationId : Option UUID := none
  priority : String := "MEDIUM"
  dueDate : Option Date := none
  recurrence : Option String := none
  responsibleRole : Option String := none
  assignedUserId : Option UUID := none
  requiredAction : Option String := none
  evidenceRequirements : Option Json := none
  notes : Option String := none
  target : aircraftId.isSome = true ∨ assetId.isSome = true

structure ComplianceObligationUpdateRequest where
  status : Option String := none
  priority : Option String := none
  dueDate : Option Date := none
  recurrence : Option String := none
  responsibleRole : Option String := none
  assignedUserId : Option UUID := none
  requiredAction : Option String := none
  evidenceRequirements : Option Json := none
  notes : Option String := none

/-- `due_date and due_date < today`. -/
def isPastDue (today : Date) : Option Date → Bool
  | some dueDate => decide (dueDate < today)
  | none => false

/-- `text or fallback`. -/
def textOr (fallback : String) : Option String → String
  | some text => if text = "" then fallback else text
  | none => fallback

/-! ## Creation -/

/-- The asset of the new obligation, with the subject checked. -/
def resolveTarget (db : Database) (organizationId : UUID)
    (payload : ComplianceObligationCreateRequest) : Except Error (Option UUID) :=
  match payload.aircraftId, payload.assetId with
  | some aircraftId, assetId => do
    let aircraft ← db.getAircraft organizationId aircraftId
    pure (assetId.or aircraft.assetId)
  | none, some assetId => do
    let _ ← db.getAsset organizationId assetId
    pure (some assetId)
  | none, none => .ok none

/-- `existing_query`. -/
def existingObligations (db : Database) (organizationId requirementId : UUID)
    (assetId aircraftId : Option UUID) : List ComplianceObligation :=
  db.obligations.select fun o =>
    o.organizationId = organizationId && o.requirementId = requirementId &&
      (match assetId, aircraftId with
        | some assetId, _ => decide (o.assetId = some assetId)
        | none, some aircraftId => decide (o.aircraftId = some aircraftId)
        | none, none => true)

/-- What a repeated creation writes into the obligation that is there. -/
def mergedObligation (existing : ComplianceObligation)
    (payload : ComplianceObligationCreateRequest) : ComplianceObligation :=
  { existing with
    priority := if payload.priority = "" then existing.priority else payload.priority
    dueDate := payload.dueDate.or existing.dueDate
    requiredAction := payload.requiredAction.or existing.requiredAction
    evidenceRequirements := payload.evidenceRequirements.or existing.evidenceRequirements
    ruleId := payload.ruleId.or existing.ruleId }

def initialStatus (today : Date) (dueDate : Option Date) : String :=
  if isPastDue today dueDate then ComplianceState.overdue
  else if dueDate.isSome then ComplianceState.due
  else ComplianceState.notEvaluated

/-- `if rule_id is not None`: the rule exists in the organization. -/
def requireRule (db : Database) (organizationId : UUID) : Option UUID → Except Error Unit
  | none => .ok ()
  | some ruleId => do
    let _ ← oneOrRaise
      (db.rules.select fun r => r.id = ruleId && r.organizationId = organizationId)
      (.notFound "Applicability rule not found")
    pure ()

def createObligation (db : Database) (today : Date) (newId organizationId : UUID)
    (actorUserId : Option UUID) (payload : ComplianceObligationCreateRequest) :
    Except Error (Database × ComplianceObligation) := do
  let req ← oneOrRaise
    (db.requirements.select fun r =>
      r.id = payload.requirementId && r.organizationId = organizationId)
    (.notFound "Regulatory requirement not found")
  let assetId ← resolveTarget db organizationId payload
  requireRule db organizationId payload.ruleId
  let existing ← scalarOneOrNone
    (existingObligations db organizationId payload.requirementId assetId payload.aircraftId)
  match existing with
  | some existing =>
    let merged := mergedObligation existing payload
    pure ({ db with obligations := db.obligations.save merged }, merged)
  | none =>
    let obligation : ComplianceObligation :=
      { id := newId, organizationId, requirementId := payload.requirementId
        ruleId := payload.ruleId, assetId, aircraftId := payload.aircraftId
        applicabilityEvaluationId := payload.applicabilityEvaluationId
        status := initialStatus today payload.dueDate
        priority := textOr "MEDIUM" (some payload.priority)
        dueDate := payload.dueDate, recurrence := payload.recurrence
        responsibleRole := payload.responsibleRole, assignedUserId := payload.assignedUserId
        requiredAction := some (textOr req.description payload.requiredAction)
        evidenceRequirements := some (payload.evidenceRequirements.getD .null)
        notes := payload.notes }
    let obligations ← addRow db.obligations obligation
    pure (({ db with obligations }).recordAuditEvent organizationId actorUserId
      "compliance_obligation.created" "ComplianceObligation" (some newId), obligation)

def getObligation (db : Database) (organizationId obligationId : UUID) :
    Except Error ComplianceObligation :=
  oneOrRaise
    (db.obligations.select fun o => o.id = obligationId && o.organizationId = organizationId)
    (.notFound "Compliance obligation not found")

/-! ## Updates -/

/-- The obligation after the fields that were given are written. -/
def updatedObligation (obligation : ComplianceObligation)
    (payload : ComplianceObligationUpdateRequest) : ComplianceObligation :=
  { obligation with
    priority := payload.priority.getD obligation.priority
    dueDate := payload.dueDate.or obligation.dueDate
    recurrence := payload.recurrence.or obligation.recurrence
    responsibleRole := payload.responsibleRole.or obligation.responsibleRole
    assignedUserId := payload.assignedUserId.or obligation.assignedUserId
    requiredAction := payload.requiredAction.or obligation.requiredAction
    evidenceRequirements := payload.evidenceRequirements.or obligation.evidenceRequirements
    notes := payload.notes.or obligation.notes
    status := payload.status.getD obligation.status }

def updateObligation (db : Database) (organizationId : UUID) (actorUserId : Option UUID)
    (obligationId : UUID) (payload : ComplianceObligationUpdateRequest) :
    Except Error (Database × ComplianceObligation) := do
  let obligation ← getObligation db organizationId obligationId
  let updated := updatedObligation obligation payload
  let db' := { db with obligations := db.obligations.save updated }
  if updated.status = obligation.status then pure (db', updated)
  else pure (db'.recordAuditEvent organizationId actorUserId
    "compliance_obligation.status_changed" "ComplianceObligation" (some obligation.id), updated)

/-! ## Resolution from evidence -/

/-- The evidence linked to an obligation, as the resolver queries it. -/
def linkedEvidence (db : Database) (obligation : ComplianceObligation) : List Evidence :=
  db.evidence.select fun e =>
    e.complianceObligationId = some obligation.id &&
      e.organizationId = obligation.organizationId

/-- `any_rejected`, of one item. -/
def isRejected (e : Evidence) : Bool :=
  e.verificationStatus = .rejected || e.status = .rejected

/-- `verified_items`, of one item. -/
def isVerified (e : Evidence) : Bool :=
  e.verificationStatus = .verified && e.status = .accepted

/-- The status that the linked evidence, or else the due date, decides. -/
def resolvedStatus (today : Date) (dueDate : Option Date) (items : List Evidence) : String :=
  if items.any isRejected then ComplianceState.nonCompliant
  else if items.any isVerified then ComplianceState.compliant
  else if !items.isEmpty then ComplianceState.inProgress
  else if isPastDue today dueDate then ComplianceState.overdue
  else ComplianceState.due

/-- The states that evidence does not resolve. -/
def isUnresolvable (status : String) : Bool :=
  status = ComplianceState.notApplicable || status = ComplianceState.blocked
    || status = ComplianceState.reviewRequired

/-- The obligation as the resolver leaves it. -/
def resolvedObligation (db : Database) (now : DateTime) (today : Date)
    (obligation : ComplianceObligation) : ComplianceObligation :=
  if isUnresolvable obligation.status then obligation
  else
    let status := resolvedStatus today obligation.dueDate (linkedEvidence db obligation)
    if status = ComplianceState.compliant then
      { obligation with
        status, verifiedAt := some now, completedAt := obligation.completedAt.or (some now) }
    else { obligation with status }

/-- `resolve_obligation_compliance`, with the write of the commit that follows it. -/
def resolveObligationCompliance (db : Database) (now : DateTime) (today : Date)
    (obligation : ComplianceObligation) (actorUserId : Option UUID) :
    Database × ComplianceObligation :=
  let resolved := resolvedObligation db now today obligation
  let db' := { db with obligations := db.obligations.save resolved }
  if resolved.status ≠ obligation.status ∧ resolved.status = ComplianceState.compliant then
    (db'.recordAuditEvent obligation.organizationId actorUserId
      "compliance_obligation.resolved_compliant" "ComplianceObligation" (some obligation.id),
     resolved)
  else (db', resolved)

/-! ## Evaluation -/

/-- The rule that the obligation names. -/
def ownRule (db : Database) (organizationId : UUID) :
    Option UUID → Except Error (Option ApplicabilityRule)
  | some ruleId => scalarOneOrNone
      (db.rules.select fun r => r.id = ruleId && r.organizationId = organizationId)
  | none => .ok none

/-- The rule an obligation is evaluated against: its own, or else the active rule of its
requirement. -/
def ruleToEvaluate (db : Database) (organizationId : UUID) (obligation : ComplianceObligation) :
    Except Error (Option ApplicabilityRule) := do
  match ← ownRule db organizationId obligation.ruleId with
  | some rule => pure (some rule)
  | none =>
    scalarOneOrNone
      (db.rules.select fun r =>
        r.regulatoryRequirementId = some obligation.requirementId &&
          r.organizationId = organizationId && r.isActive)

/-- The status an evaluation leaves, before the evidence is looked at. -/
def syncedStatus (today : Date) (obligation : ComplianceObligation) : EvaluationResult → String
  | .applicable =>
    if obligation.status = ComplianceState.notEvaluated
        ∨ obligation.status = ComplianceState.notApplicable
        ∨ obligation.status = ComplianceState.blocked then
      if isPastDue today obligation.dueDate then ComplianceState.overdue else ComplianceState.due
    else obligation.status
  | .notApplicable => ComplianceState.notApplicable
  -- the trace has no "missing_data" entry, so the notes stay
  | .insufficientData => ComplianceState.blocked
  | .reviewRequired => ComplianceState.reviewRequired

def evaluateAndSyncObligation (u : UnicodeTables) (db : Database) (now : DateTime) (today : Date)
    (newId organizationId : UUID) (actorUserId : Option UUID) (obligationId : UUID) :
    Except Error (Database × ComplianceObligation) := do
  let obligation ← getObligation db organizationId obligationId
  match ← ruleToEvaluate db organizationId obligation with
  | none =>
    let flagged := { obligation with
      status := ComplianceState.reviewRequired
      notes := some (obligation.notes.getD ""
        ++ "\nNo applicability rule configured for requirement.") }
    pure ({ db with obligations := db.obligations.save flagged }, flagged)
  | some rule =>
    let request ← evaluationRequest rule.id obligation.aircraftId obligation.assetId
    let (evaluated, evaluation) ←
      evaluateApplicability u db now newId organizationId actorUserId request
    let synced := { obligation with
      ruleId := some rule.id
      applicabilityEvaluationId := some evaluation.id
      status := syncedStatus today obligation evaluation.systemResult }
    let (resolvedDb, resolved) :=
      resolveObligationCompliance evaluated now today synced actorUserId
    pure (resolvedDb.recordAuditEvent organizationId actorUserId
      "compliance_obligation.evaluated" "ComplianceObligation" (some obligation.id), resolved)

/-! ## Evaluations made elsewhere -/

/-- The rule of an evaluation: the one it refers to, or else one of the organization. -/
def ruleOfEvaluation (db : Database) (organizationId : UUID) (evaluation : ApplicabilityEvaluation) :
    Except Error (Option ApplicabilityRule) :=
  match db.rules.find? evaluation.ruleId with
  | some rule => .ok (some rule)
  | none => scalarOneOrNone
      (db.rules.select fun r => r.id = evaluation.ruleId && r.organizationId = organizationId)

/-- The status of an obligation that an evaluation creates. -/
def statusOfEvaluation : EvaluationResult → String
  | .applicable => ComplianceState.due
  | .notApplicable => ComplianceState.notApplicable
  | .insufficientData => ComplianceState.blocked
  | .reviewRequired => ComplianceState.reviewRequired

/-- The obligation that an evaluation creates. -/
def obligationOfEvaluation (newId organizationId requirementId : UUID) (rule : ApplicabilityRule)
    (evaluation : ApplicabilityEvaluation) (req : Option RegulatoryRequirement) :
    ComplianceObligation :=
  { id := newId, organizationId, requirementId
    ruleId := some rule.id, assetId := evaluation.assetId, aircraftId := evaluation.aircraftId
    applicabilityEvaluationId := some evaluation.id
    status := statusOfEvaluation evaluation.systemResult
    priority := if evaluation.systemResult = .applicable then "HIGH" else "MEDIUM"
    requiredAction := some
      ((req.map RegulatoryRequirement.description).getD "Comply with regulatory requirement") }

/-- `create_or_sync_from_evaluation`; a rule tied to no requirement makes no obligation. -/
def createOrSyncFromEvaluation (db : Database) (now : DateTime) (today : Date)
    (newId organizationId : UUID) (actorUserId : Option UUID)
    (evaluation : ApplicabilityEvaluation) :
    Except Error (Database × Option ComplianceObligation) := do
  match ← ruleOfEvaluation db organizationId evaluation with
  | none => pure (db, none)
  | some rule =>
    match rule.regulatoryRequirementId with
    | none => pure (db, none)
    | some requirementId =>
      match ← scalarOneOrNone (existingObligations db organizationId requirementId
          evaluation.assetId evaluation.aircraftId) with
      | none =>
        let obligation := obligationOfEvaluation newId organizationId requirementId rule evaluation
          (db.requirements.find? requirementId)
        let obligations ← addRow db.obligations obligation
        pure ({ db with obligations }, some obligation)
      | some obligation =>
        let synced := { obligation with
          applicabilityEvaluationId := some evaluation.id
          ruleId := some rule.id
          status := syncedStatus today obligation evaluation.systemResult }
        let (resolvedDb, resolved) := resolveObligationCompliance db now today synced actorUserId
        pure (resolvedDb, some resolved)

end ObligationService
end AeroComply
