import AeroComply.Lib.Ranking
import AeroComply.Models.Assessment
import AeroComply.Services.AogRecovery

/-!
# Assessment — findings, gathered, ranked and stored

`app/services/assessment/engine.py`: what the recovery status of the aircraft, the
release readiness of the work orders and the qualifications of the technicians say
becomes draft findings; a run ranks the drafts and stores a snapshot of them.

Scores are exact numbers; `now` is the instant of the whole run.
-/

namespace AeroComply

namespace AircraftService

def listAircraft (db : Database) (organizationId : UUID) : List Aircraft :=
  db.aircraft.select fun a => a.organizationId = organizationId && db.notSoftDeleted a

end AircraftService

namespace AssessmentEngine

open AircraftService (listAircraft)
open AogRecoveryService (RecoveryBlocker RecoveryCategory AogRecoveryStatus getRecoveryStatus
  idText)
open ReleaseReadinessService (Blocker BlockerCategory getReleaseReadiness)

/-! ## Categories, profiles and bands -/

inductive FindingCategory
  | recovery (category : RecoveryCategory)
  | technicianQualificationExpiry
  deriving DecidableEq, Repr

def FindingCategory.value : FindingCategory → String
  | .recovery category => category.value
  | .technicianQualificationExpiry => "TECHNICIAN_QUALIFICATION_EXPIRY"

/-- A row of `_CATEGORY_PROFILE`. -/
structure CategoryProfile where
  weight : Nat
  impactDimensions : List String
  effortBand : String

/-- `_CATEGORY_PROFILE.get(category, _DEFAULT_PROFILE)`. -/
def categoryProfile : RecoveryCategory → CategoryProfile
  | .materialNotRequested => ⟨20, ["SUPPLY_CHAIN", "OPERATIONS"], "MEDIUM"⟩
  | .materialAwaitingApproval => ⟨20, ["SUPPLY_CHAIN", "OPERATIONS"], "SMALL"⟩
  | .materialPoNotSent => ⟨20, ["SUPPLY_CHAIN", "OPERATIONS"], "SMALL"⟩
  | .materialAwaitingReceipt => ⟨18, ["SUPPLY_CHAIN", "OPERATIONS"], "MEDIUM"⟩
  | .materialShort => ⟨18, ["SUPPLY_CHAIN", "OPERATIONS"], "MEDIUM"⟩
  | .release .taskExecution => ⟨25, ["OPERATIONS", "RELEASE"], "SMALL"⟩
  | .release .evidence => ⟨22, ["QUALITY", "RELEASE"], "SMALL"⟩
  | .release .inspection => ⟨25, ["SAFETY", "QUALITY", "RELEASE"], "MEDIUM"⟩
  | .technician => ⟨20, ["SAFETY", "OPERATIONS"], "SMALL"⟩
  | .eventBlocker => ⟨15, ["OPERATIONS"], "UNKNOWN"⟩
  | .release .material | .release .compliance | .release .finding => ⟨10, ["OPERATIONS"], "UNKNOWN"⟩

def materialityBand (score : ℚ) : MaterialityBand :=
  if 50 ≤ score then .critical
  else if 30 ≤ score then .high
  else if 15 ≤ score then .moderate
  else .low

def complexityBand (dependencyCount : Nat) : ComplexityBand :=
  if 4 ≤ dependencyCount then .high
  else if 2 ≤ dependencyCount then .moderate
  else .low

def severityForScore (score : ℚ) : MaterialityBand := materialityBand score

def expectedCondition : RecoveryCategory → String
  | .materialNotRequested => "A procurement request exists for the shortage."
  | .materialAwaitingApproval => "The procurement request is approved."
  | .materialPoNotSent => "A purchase order has been sent to the vendor."
  | .materialAwaitingReceipt => "The purchase order is fully received."
  | .materialShort => "Available quantity meets the required quantity."
  | .release .taskExecution => "Task execution_state is COMPLETED."
  | .release .evidence => "Evidence is ACCEPTED."
  | .release .inspection => "Inspection requirement is COMPLETED or NOT_REQUIRED."
  | .technician => "Assigned technician holds an active, non-expired qualification."
  | .eventBlocker | .release .material | .release .compliance | .release .finding =>
    "The blocking condition is resolved."

/-- `_dependency_text`, the table of the recovery once more. -/
def dependencyText : BlockerCategory → String := AogRecoveryService.dependencyForCategory

/-- `_actor_text`, the table of the recovery once more. -/
def actorText : BlockerCategory → String := AogRecoveryService.actorForCategory

/-- The letters of a word, the first one as it is and the others small. -/
def titleLetters (first : Bool) : List Char → List Char
  | [] => []
  | c :: cs =>
    if c = '_' then ' ' :: titleLetters true cs
    else (if first then c else c.toLower) :: titleLetters false cs

/-- `category.replace('_', ' ').title()`: the categories are capitals. -/
def titleOf (category : String) : String := String.ofList (titleLetters true category.toList)

/-- `sorted(set(dims))`. -/
def sortedSet (dims : List String) : List String := dims.dedup.insertionSort (· ≤ ·)

/-! ## Drafts -/

/-- `_DraftFinding`: the severity is that of the score. -/
structure DraftFinding where
  category : FindingCategory
  severity : MaterialityBand
  title : String
  description : Message
  entityType : String
  entityId : Message
  materialityScore : ℚ
  dependencyCount : Nat
  impactDimensions : List String
  source : FindingSource
  expectedCondition : String
  currentCondition : Message
  recommendedAction : String
  responsibleRole : String
  effortBand : String
  severity_eq : severity = severityForScore materialityScore
  score_nonneg : 0 ≤ materialityScore

/-- `a or b`: the text of no identifier is not empty. -/
def messageOr (a : Option Message) (b : Message) : Message :=
  match a with
  | none => b
  | some [.str text] => if text = "" then b else [.str text]
  | some message => message

/-- `min(100.0, 40 + weight)`. -/
def aogScore (category : RecoveryCategory) : ℚ := min 100 (40 + (categoryProfile category).weight)

theorem aogScore_nonneg (category : RecoveryCategory) : 0 ≤ aogScore category :=
  le_min (by norm_num) (by positivity)

/-- The draft of a blocker of a grounded aircraft. -/
def aogFinding (status : AogRecoveryStatus) (blocker : RecoveryBlocker) : DraftFinding where
  category := .recovery blocker.category
  severity := severityForScore (aogScore blocker.category)
  title := status.registration ++ " AOG — " ++ titleOf blocker.category.value
  description := blocker.description
  entityType := ObligationService.textOr "AogEvent" (some blocker.recordType)
  entityId := messageOr blocker.recordId
    (idText (status.aogEventId.getD status.aircraftId))
  materialityScore := aogScore blocker.category
  dependencyCount := status.blockers.length
  impactDimensions :=
    sortedSet ("CUSTOMER_SERVICE" :: (categoryProfile blocker.category).impactDimensions)
  source := .aogEvent status.aogEventId status.aircraftId status.registration blocker.recordType
    blocker.recordId
  expectedCondition := expectedCondition blocker.category
  currentCondition := blocker.description
  recommendedAction := blocker.dependency
  responsibleRole := blocker.whoShouldAct
  effortBand := (categoryProfile blocker.category).effortBand
  severity_eq := rfl
  score_nonneg := aogScore_nonneg blocker.category

/-- `_aog_findings`, of the status. -/
def aogFindings (status : AogRecoveryStatus) : List DraftFinding :=
  if status.isAog then status.blockers.map (aogFinding status) else []

def releaseFinding (workOrder : WorkOrder) (dependencyCount : Nat) (blocker : Blocker) :
    DraftFinding where
  category := .recovery (.release blocker.category)
  severity := severityForScore (categoryProfile (.release blocker.category)).weight
  title := "Work Order " ++ workOrder.workOrderNumber ++ " — " ++ titleOf blocker.category.value
  description := blocker.description
  entityType := blocker.category.value
  entityId := idText (blocker.relatedRecordId.getD workOrder.id)
  materialityScore := (categoryProfile (.release blocker.category)).weight
  dependencyCount
  impactDimensions := sortedSet (categoryProfile (.release blocker.category)).impactDimensions
  source := .workOrder workOrder.id workOrder.workOrderNumber
  expectedCondition := expectedCondition (.release blocker.category)
  currentCondition := blocker.description
  recommendedAction := dependencyText blocker.category
  responsibleRole := actorText blocker.category
  effortBand := (categoryProfile (.release blocker.category)).effortBand
  severity_eq := rfl
  score_nonneg := Nat.cast_nonneg _

/-- The drafts of one work order of the page. -/
def workOrderFindings (db : Database) (organizationId : UUID) (aogWorkOrderIds : List UUID)
    (workOrder : WorkOrder) : Except Error (List DraftFinding) :=
  -- already covered by the findings of the aircraft
  if workOrder.id ∈ aogWorkOrderIds then .ok []
  else do
    let readiness ← getReleaseReadiness db organizationId workOrder.id
    if readiness.status = .blocked then
      pure (readiness.blockers.map (releaseFinding workOrder readiness.blockers.length))
    else pure []

/-- `_release_findings_for_non_aog_work_orders`: the first page of the work orders. -/
def releaseFindings (db : Database) (organizationId : UUID) (aogWorkOrderIds : List UUID) :
    Except Error (List DraftFinding) := do
  let drafts ← (WorkOrderService.listWorkOrders db organizationId).1.mapM
    (workOrderFindings db organizationId aogWorkOrderIds)
  pure drafts.flatten

/-- `_QUALIFICATION_EXPIRY_WINDOW_DAYS`, in microseconds. -/
def expiryWindow : Int := 30 * 86400000000

/-- What expires within the window, or has expired. -/
def expires (now : DateTime) (q : TechnicianQualification) : Bool :=
  match q.expiresAt with
  | none => false
  | some expiresAt => expiresAt ≤ now + expiryWindow

def hasExpired (now : DateTime) (q : TechnicianQualification) : Bool :=
  match q.expiresAt with
  | none => false
  | some expiresAt => expiresAt ≤ now

def expiryScore (expired : Bool) : ℚ := if expired then 25 else 15

theorem expiryScore_nonneg (expired : Bool) : 0 ≤ expiryScore expired := by
  cases expired with
  | false => decide
  | true => decide

def expiryFinding (now : DateTime) (q : TechnicianQualification) : DraftFinding where
  category := .technicianQualificationExpiry
  severity := severityForScore (expiryScore (hasExpired now q))
  title := "Technician qualification "
    ++ (if hasExpired now q then "EXPIRED" else "expiring soon") ++ " — " ++ q.aircraftType
  description := [.str "Qualification ", .uuid q.id,
    .str (" (" ++ q.qualificationType ++ ") for " ++ pyRepr q.aircraftType
      ++ (if hasExpired now q then " expired on " else " expires on ")),
    TechnicianService.instantText q.expiresAt, .str "."]
  entityType := "TechnicianQualification"
  entityId := idText q.id
  materialityScore := expiryScore (hasExpired now q)
  dependencyCount := 1
  impactDimensions := ["SAFETY", "OPERATIONS"]
  source := .technicianQualification q.id q.userId
  expectedCondition := "Technician holds a currently valid qualification for this aircraft type."
  currentCondition := [.str ("Qualification "
    ++ (if hasExpired now q then "expired" else "expires") ++ " on "),
    TechnicianService.instantText q.expiresAt, .str "."]
  recommendedAction := "Renew or reissue the technician's qualification before it lapses further."
  responsibleRole := "Maintenance Planner"
  effortBand := "SMALL"
  severity_eq := rfl
  score_nonneg := expiryScore_nonneg (hasExpired now q)

/-- The qualifications that are looked at. -/
def expiring (db : Database) (now : DateTime) (organizationId : UUID) :
    List TechnicianQualification :=
  db.qualifications.select fun q =>
    q.organizationId = organizationId && !q.revoked && expires now q

def qualificationExpiryFindings (db : Database) (now : DateTime) (organizationId : UUID) :
    List DraftFinding :=
  (expiring db now organizationId).map (expiryFinding now)

/-! ## Assessments -/

structure AssessmentCreateRequest where
  name : String
  description : Option String := none
  scopeType : AssessmentScopeType := .fleet
  scopeId : Option UUID := none
  name_length : 1 ≤ name.length ∧ name.length ≤ 255
  scopeType_length : scopeType.value.length ≤ 32

/-- The scope of a new assessment is the tenant's. -/
def checkScope (db : Database) (organizationId : UUID) :
    AssessmentScopeType → Option UUID → Except Error Unit
  | .aircraft, none =>
    .error (.aeroComply "scope_id is required for an AIRCRAFT-scoped assessment")
  | .aircraft, some scopeId => do
    let _ ← db.getAircraft organizationId scopeId
    pure ()
  | .workOrder, none =>
    .error (.aeroComply "scope_id is required for a WORK_ORDER-scoped assessment")
  | .workOrder, some scopeId => do
    let _ ← db.getWorkOrder organizationId scopeId
    pure ()
  | .fleet, _ | .other _, _ => .ok ()

def createAssessment (tables : AssessmentTables) (newId organizationId : UUID)
    (actorUserId : Option UUID) (payload : AssessmentCreateRequest) :
    Except Error AssessmentTables := do
  checkScope tables.operational organizationId payload.scopeType payload.scopeId
  let assessments ← addRow tables.assessments
    { id := newId, organizationId, name := payload.name, description := payload.description
      scopeType := payload.scopeType, scopeId := payload.scopeId, status := .draft
      createdByUserId := actorUserId }
  pure { tables with assessments }

def getAssessment (tables : AssessmentTables) (organizationId assessmentId : UUID) :
    Except Error Assessment :=
  oneOrRaise
    (tables.assessments.select fun a => a.id = assessmentId && a.organizationId = organizationId)
    (.notFound "Assessment not found")

/-! ## Gathering -/

def aircraftInScope (db : Database) (organizationId : UUID) (assessment : Assessment) :
    Except Error (List Aircraft) :=
  if assessment.scopeType = .aircraft then
    match assessment.scopeId with
    | none => .error .assertionError
    | some scopeId => do
      let aircraft ← db.getAircraft organizationId scopeId
      pure [aircraft]
  else .ok (listAircraft db organizationId)

def gatherFindings (db : Database) (now : DateTime) (organizationId : UUID)
    (assessment : Assessment) : Except Error (List DraftFinding) := do
  let aircraftList ← aircraftInScope db organizationId assessment
  let statuses ← aircraftList.mapM fun a => getRecoveryStatus db now organizationId a.id
  let drafts := statuses.flatMap aogFindings
  if assessment.scopeType = .aircraft then pure drafts
  else do
    let released ← releaseFindings db organizationId
      (statuses.filterMap AogRecoveryStatus.workOrderId)
    pure (drafts ++ released ++ qualificationExpiryFindings db now organizationId)

/-! ## The snapshot -/

/-- `key=lambda d: (-d.materiality_score, -d.dependency_count)`. -/
def rankedBefore (d d' : DraftFinding) : Prop :=
  d'.materialityScore < d.materialityScore ∨
    d'.materialityScore = d.materialityScore ∧ d'.dependencyCount ≤ d.dependencyCount

instance (d d' : DraftFinding) : Decidable (rankedBefore d d') :=
  inferInstanceAs (Decidable (d'.materialityScore < d.materialityScore ∨
    d'.materialityScore = d.materialityScore ∧ d'.dependencyCount ≤ d.dependencyCount))

def priorVersion (tables : AssessmentTables) (assessmentId : UUID) : Int :=
  (((tables.snapshots.select fun s => s.assessmentId = assessmentId).map
    AssessmentSnapshot.version).max?).getD 0

def criticalCount (drafts : List DraftFinding) : Nat :=
  drafts.countP fun d => materialityBand d.materialityScore = .critical

/-- `overall_score`, before it is rounded: half of each score is lost. -/
def overallScore (drafts : List DraftFinding) : ℚ :=
  Ranking.score 100 (fun d : DraftFinding => d.materialityScore / 2) drafts

/-- `round(x, 1)`. -/
def roundTenth (x : ℚ) : ℚ := FlightService.roundHalfEven (x * 10) / 10

def maturityBand (overallScore : ℚ) : MaturityBand :=
  if 80 ≤ overallScore then .healthy
  else if 50 ≤ overallScore then .atRisk
  else .degraded

def snapshotRow (id organizationId : UUID) (assessment : Assessment) (priorVersion : Int)
    (drafts : List DraftFinding) : AssessmentSnapshot where
  id
  organizationId
  assessmentId := assessment.id
  version := priorVersion + 1
  overallScore := roundTenth (overallScore drafts)
  maturityBand := maturityBand (overallScore drafts)
  summary := some (toString drafts.length ++ " finding(s), " ++ toString (criticalCount drafts)
    ++ " critical, scope=" ++ assessment.scopeType.value)
  findingCount := drafts.length
  criticalFindingCount := criticalCount drafts

/-- The identifiers of the rows of one finding. -/
structure RowIds where
  finding : UUID
  gap : UUID
  risk : UUID
  recommendation : UUID
  roadmapItem : UUID
  metric : UUID

/-- A ranked draft, with what its rows need. -/
structure Placed where
  draft : DraftFinding
  rank : Nat
  ids : RowIds
  organizationId : UUID
  snapshotId : UUID

namespace Placed

variable (p : Placed)

def finding : AssessmentFinding where
  id := p.ids.finding
  organizationId := p.organizationId
  snapshotId := p.snapshotId
  category := p.draft.category.value
  severity := p.draft.severity
  title := p.draft.title
  description := p.draft.description
  entityType := p.draft.entityType
  entityId := p.draft.entityId
  materialityScore := p.draft.materialityScore
  complexityBand := complexityBand p.draft.dependencyCount
  dependencyCount := p.draft.dependencyCount
  impactDimensions := p.draft.impactDimensions
  priorityRank := p.rank
  source := p.draft.source

def gap : AssessmentGap where
  id := p.ids.gap
  organizationId := p.organizationId
  snapshotId := p.snapshotId
  findingId := some p.ids.finding
  category := p.draft.category.value
  severity := p.draft.severity
  entityType := p.draft.entityType
  entityId := p.draft.entityId
  expectedCondition := p.draft.expectedCondition
  currentCondition := p.draft.currentCondition
  recommendedAction := p.draft.recommendedAction

def risk : AssessmentRisk where
  id := p.ids.risk
  organizationId := p.organizationId
  snapshotId := p.snapshotId
  findingId := some p.ids.finding
  riskLevel := p.draft.severity
  likelihood := "UNKNOWN"
  reason := p.draft.description
  entityType := p.draft.entityType
  entityId := p.draft.entityId
  mitigation := some p.draft.recommendedAction
  ownerRole := some p.draft.responsibleRole

def recommendation : AssessmentRecommendation where
  id := p.ids.recommendation
  organizationId := p.organizationId
  snapshotId := p.snapshotId
  findingId := some p.ids.finding
  recommendation := p.draft.recommendedAction
  why := p.draft.description
  priority := p.draft.severity
  responsibleRole := some p.draft.responsibleRole
  entityType := p.draft.entityType
  entityId := p.draft.entityId

def roadmapItem : AssessmentRoadmapItem where
  id := p.ids.roadmapItem
  organizationId := p.organizationId
  snapshotId := p.snapshotId
  findingId := some p.ids.finding
  sequence := p.rank
  title := p.draft.title
  description := p.draft.recommendedAction
  category := p.draft.category.value
  priority := p.draft.severity
  entityType := p.draft.entityType
  entityId := p.draft.entityId
  prerequisiteSequenceNumbers := []
  ownerRole := some p.draft.responsibleRole
  estimatedEffortBand := p.draft.effortBand
  effortConfidence := "LOW"
  expectedImpact := .str "Resolves: " :: p.draft.description
  riskIfDelayed := "Remains " ++ p.draft.severity.value ++ " — "
    ++ ", ".intercalate p.draft.impactDimensions ++ " impact continues."

def metric : AssessmentMetric where
  id := p.ids.metric
  organizationId := p.organizationId
  snapshotId := p.snapshotId
  metricKey := [.str "materiality:", .uuid p.ids.finding]
  state := "VALUE"
  value := some p.draft.materialityScore
  unit := some "score_0_100"
  explanation := "Operational Materiality Score for: " ++ p.draft.title

end Placed

/-- How long a text is; an identifier has 36 characters. -/
def lengthOf (message : Message) : Nat :=
  (message.map fun
    | .str text => text.length
    | .uuid _ => 36
    | _ => 0).sum

/-- `entity_id` has 64 characters; the reference of an event blocker may have 255. -/
def entityFits (draft : DraftFinding) : Bool := lengthOf draft.entityId ≤ 64

/-- The loop body of `run_assessment`. -/
def writeFinding (tables : AssessmentTables) (p : Placed) : Except Error AssessmentTables := do
  raiseIf (entityFits p.draft = false) .dataError
  let findings ← addRow tables.findings p.finding
  let gaps ← addRow tables.gaps p.gap
  let risks ← addRow tables.risks p.risk
  let recommendations ← addRow tables.recommendations p.recommendation
  let roadmapItems ← addRow tables.roadmapItems p.roadmapItem
  let metrics ← addRow tables.metrics p.metric
  pure { tables with findings, gaps, risks, recommendations, roadmapItems, metrics }

/-- The drafts in their order, with the identifiers of their rows. -/
def placed (newIds : Nat → RowIds) (organizationId snapshotId : UUID)
    (drafts : List DraftFinding) : List Placed :=
  (Ranking.ranked rankedBefore drafts).map fun (draft, rank) =>
    { draft, rank, ids := newIds rank, organizationId, snapshotId }

/-- `run_assessment`, once the findings are gathered. -/
def writeSnapshot (newId : UUID) (newIds : Nat → RowIds) (organizationId : UUID)
    (actorUserId : Option UUID) (tables : AssessmentTables) (assessment : Assessment)
    (drafts : List DraftFinding) : Except Error (AssessmentSnapshot × AssessmentTables) := do
  let snapshot := snapshotRow newId organizationId assessment
    (priorVersion tables assessment.id) drafts
  let snapshots ← addRow tables.snapshots snapshot
  let written ← (placed newIds organizationId newId drafts).foldlM writeFinding
    { tables with snapshots }
  pure (snapshot,
    { written with
      assessments := written.assessments.save { assessment with status := .complete }
      operational := written.operational.recordAuditEvent organizationId actorUserId
        "assessment.run" "Assessment" (some assessment.id) })

def runAssessment (newId : UUID) (newIds : Nat → RowIds) (now : DateTime) (organizationId : UUID)
    (actorUserId : Option UUID) (tables : AssessmentTables) (assessmentId : UUID) :
    Except Error (AssessmentSnapshot × AssessmentTables) := do
  let assessment ← getAssessment tables organizationId assessmentId
  let drafts ← gatherFindings tables.operational now organizationId assessment
  writeSnapshot newId newIds organizationId actorUserId tables assessment drafts

end AssessmentEngine
end AeroComply
