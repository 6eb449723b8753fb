import AeroComply.Lib.Triage
import AeroComply.Services.AssetRecords

/-!
# AerospaceState — the intelligence state of an asset

`evaluate_aerospace_intelligence_state` of
`app/services/aerospace_state_service.py`.  Five dimensions look at the asset in
turn; each has a status of its own, and all append to one list of blockers and
one of warnings, from which the overall status is derived.

The compliance dimension has no branch for an obligation that is NOT_EVALUATED,
PENDING, DUE or IN_PROGRESS: such a row leaves the dimension CLEAR.
-/

namespace AeroComply

open Relational (Table)

namespace AerospaceStateService

open AssetRecords ObligationService
open Triage (Outcome Report Level)

inductive AerospaceIntelligenceStatus
  | nominal
  | degraded
  | restricted
  | groundedIntel
  | unknownIntel
  deriving DecidableEq, Repr

inductive IntelligenceDimensionStatus
  | clear
  | warning
  | restricted
  | unknown
  deriving DecidableEq, Repr

/-- The dimension status a scan ends with. -/
def IntelligenceDimensionStatus.ofLevel : Level → IntelligenceDimensionStatus
  | .clear => .clear
  | .warning => .warning
  | .restricted => .restricted

inductive IntelligenceBlockerCategory
  | nonCompliantObligation
  | overdueObligation
  | blockedObligation
  | reviewRequiredObligation
  | missingEvidence
  | rejectedEvidence
  | failedInspection
  | pendingRii
  | incompleteInspection
  | criticalFinding
  | majorFinding
  | safetySignificantFinding
  | openFinding
  | operationalGrounding
  | lifecycleRestriction
  deriving DecidableEq, Repr

inductive Dimension
  | operational
  | compliance
  | evidence
  | inspection
  | finding
  deriving DecidableEq, Repr

inductive SourceType
  | asset
  | complianceObligation
  | evidence
  | inspectionRequirement
  | finding
  deriving DecidableEq, Repr

structure IntelligenceSourceRef where
  sourceType : SourceType
  sourceId : UUID
  sourceLabel : Message

structure IntelligenceBlocker where
  blockerId : Message
  category : IntelligenceBlockerCategory
  dimension : Dimension
  whatCondition : Message
  whyCondition : Message
  sourceRef : IntelligenceSourceRef
  regulatoryRefNumber : Option String := none
  regulatoryRefTitle : Option String := none
  requiredAction : String
  resolutionAction : String
  missingEvidenceDesc : Option Message := none
  assetId : UUID
  aircraftId : Option UUID

structure IntelligenceWarning where
  warningId : Message
  category : IntelligenceBlockerCategory
  dimension : Dimension
  message : Message
  sourceRef : Option IntelligenceSourceRef := none

abbrev RowOutcome := Outcome IntelligenceBlocker IntelligenceWarning

abbrev IntelligenceReport := Report IntelligenceBlocker IntelligenceWarning

structure OperationalIntelligenceDimension where
  status : IntelligenceDimensionStatus
  operationalState : OperationalState
  lifecycleStatus : String
  summary : String

structure ComplianceIntelligenceDimension where
  status : IntelligenceDimensionStatus
  obligationsTotal : Nat
  obligationsCompliant : Nat
  obligationsNonCompliant : Nat
  obligationsOverdue : Nat
  obligationsBlocked : Nat
  obligationsReviewRequired : Nat
  summary : Message

structure EvidenceIntelligenceDimension where
  status : IntelligenceDimensionStatus
  evidenceTotal : Nat
  evidenceAccepted : Nat
  evidenceMissing : Nat
  evidenceRejected : Nat
  evidenceUnverified : Nat
  summary : Message

structure InspectionIntelligenceDimension where
  status : IntelligenceDimensionStatus
  inspectionsTotal : Nat := 0
  inspectionsCompleted : Nat := 0
  inspectionsPending : Nat := 0
  inspectionsRejected : Nat := 0
  riiPending : Nat := 0
  summary : Message

structure FindingIntelligenceDimension where
  status : IntelligenceDimensionStatus
  findingsOpen : Nat
  findingsCritical : Nat
  findingsMajor : Nat
  findingsMinor : Nat
  findingsClosed : Nat
  summary : Message

structure AerospaceIntelligenceState where
  assetId : UUID
  aircraftId : Option UUID
  assetType : String
  registration : Option String
  aerospaceIntelligenceStatus : AerospaceIntelligenceStatus
  operationalDimension : OperationalIntelligenceDimension
  complianceDimension : ComplianceIntelligenceDimension
  evidenceDimension : EvidenceIntelligenceDimension
  inspectionDimension : InspectionIntelligenceDimension
  findingDimension : FindingIntelligenceDimension
  blockers : List IntelligenceBlocker
  warnings : List IntelligenceWarning
  totalBlockerCount : Nat
  totalWarningCount : Nat
  complianceBlockerCount : Nat
  evidenceBlockerCount : Nat
  inspectionBlockerCount : Nat
  findingBlockerCount : Nat
  sourceRecords : List SourceRecord
  evaluatedAt : DateTime

/-- `sep.join(parts)`. -/
def joinParts (sep : String) : List Message → Message
  | [] => []
  | [part] => part
  | part :: parts => part ++ .str sep :: joinParts sep parts

/-! ## Operational -/

/-- `_GROUNDING_OPERATIONAL_STATES`. -/
def isGroundingState (s : OperationalState) : Bool := s = .aog || s = .grounded

/-- `_LIFECYCLE_RESTRICTION_STATES`. -/
def isLifecycleRestriction (s : OperationalState) : Bool := s = .retired || s = .inactive

/-- `summary_map`. -/
def operationalSummary : OperationalState → String
  | .available => "Asset is available for operational dispatch."
  | .inMission => "Asset is currently executing an active mission."
  | .underInspection => "Asset has a pending inspection requirement."
  | .maintenance => "Asset is in active maintenance."
  | .grounded => "Asset is operationally grounded."
  | .aog => "Asset is Aircraft On Ground (AOG) — emergency grounding declared."
  | .inactive => "Asset lifecycle status is inactive/planned."
  | .retired => "Asset has been retired from service."

/-- `asset.registration or str(asset.id)`. -/
def assetLabel (asset : Asset) : Message :=
  match asset.registration with
  | some text => if text = "" then [.uuid asset.id] else [.str text]
  | none => [.uuid asset.id]

def operationalOutcome (assetId : UUID) (aircraftId : Option UUID) (asset : Asset)
    (state : OperationalState) : RowOutcome :=
  if isGroundingState state then
    .block
      { blockerId := [.str "INTEL-OP-GROUNDED-", .uuid asset.id]
        category := .operationalGrounding
        dimension := .operational
        whatCondition := [.str "Asset operational state is ", .str state.value, .str "."]
        whyCondition := [.str "Developer 1's authoritative operational state is ",
          .str state.value, .str ", which prevents operational dispatch."]
        sourceRef := ⟨.asset, asset.id, assetLabel asset⟩
        requiredAction := "Resolve the grounding / AOG condition through Developer 1's "
          ++ "operational processes."
        resolutionAction := "Lift the AOG or grounding status via the operational cockpit."
        assetId, aircraftId }
  else if isLifecycleRestriction state then
    .block
      { blockerId := [.str "INTEL-OP-LIFECYCLE-", .uuid asset.id]
        category := .lifecycleRestriction
        dimension := .operational
        whatCondition := [.str "Asset lifecycle state is ", .str asset.status, .str "."]
        whyCondition := [.str "A ", .str asset.status,
          .str " asset cannot be dispatched operationally."]
        sourceRef := ⟨.asset, asset.id, assetLabel asset⟩
        requiredAction := "Change the asset lifecycle status if appropriate."
        resolutionAction := "Update asset lifecycle status via asset management."
        assetId, aircraftId }
  else .pass

def evaluateOperationalDimension (db : Database) (org assetId : UUID) (aircraftId : Option UUID)
    (asset : Asset) (report : IntelligenceReport) :
    OperationalIntelligenceDimension × IntelligenceReport :=
  let operationalState := computeOperationalState db org asset
  let scanned := ({ report with level := .clear }).scan
    (operationalOutcome assetId aircraftId asset) [operationalState]
  ({ status := .ofLevel scanned.level, operationalState, lifecycleStatus := asset.status,
     summary := operationalSummary operationalState }, scanned)

/-! ## Compliance -/

/-- `ob.due_date.isoformat() if ob.due_date else 'Not recorded'`. -/
def recordedDueDate : Option Date → TextPart
  | some dueDate => .date dueDate
  | none => .str "Not recorded"

/-- A blocker of the compliance dimension: its parts that differ from branch to branch. -/
def complianceBlocker (assetId : UUID) (aircraftId : Option UUID) (ob : ComplianceObligation)
    (req : Option RegulatoryRequirement) (idPrefix : String)
    (category : IntelligenceBlockerCategory) (whatCondition whyCondition : Message)
    (requiredAction resolutionAction : String) : IntelligenceBlocker :=
  let reqNum := requirementNumber "REG-UNKNOWN" req
  { blockerId := [.str idPrefix, .uuid ob.id]
    category
    dimension := .compliance
    whatCondition, whyCondition
    sourceRef := ⟨.complianceObligation, ob.id, [.str reqNum]⟩
    regulatoryRefNumber := some reqNum
    regulatoryRefTitle := some (requirementTitle req)
    requiredAction, resolutionAction, assetId, aircraftId }

def obligationOutcome (db : Database) (org assetId : UUID) (aircraftId : Option UUID)
    (ob : ComplianceObligation) : RowOutcome :=
  let req := requirementOf db org ob
  let reqNum := requirementNumber "REG-UNKNOWN" req
  let reqTitle := requirementTitle req
  if ob.status = ComplianceState.compliant then .pass
  else if ob.status = ComplianceState.nonCompliant then
    .block (complianceBlocker assetId aircraftId ob req "INTEL-COMP-NONCOMPLIANT-"
      .nonCompliantObligation
      [.str "Compliance obligation for ", .str reqNum, .str " is NON_COMPLIANT."]
      [.str "Regulatory requirement '", .str reqTitle,
        .str ("' has been evaluated as NON_COMPLIANT. "
          ++ "Evidence, corrective action, or verification is required.")]
      (textOr "Execute corrective action and attach verified evidence." ob.requiredAction)
      "Provide verified evidence satisfying the compliance obligation.")
  else if ob.status = ComplianceState.overdue then
    .block (complianceBlocker assetId aircraftId ob req "INTEL-COMP-OVERDUE-" .overdueObligation
      [.str "Compliance obligation for ", .str reqNum, .str " is OVERDUE."]
      [.str "Regulatory requirement '", .str reqTitle,
        .str "' compliance deadline has passed. Due date was: ", recordedDueDate ob.dueDate,
        .str "."]
      (textOr "Execute overdue compliance action immediately." ob.requiredAction)
      "Complete overdue compliance action and provide verified evidence.")
  else if ob.status = ComplianceState.blocked then
    .block (complianceBlocker assetId aircraftId ob req "INTEL-COMP-BLOCKED-" .blockedObligation
      [.str "Compliance obligation for ", .str reqNum,
        .str " is in BLOCKED state (insufficient data or unresolved applicability)."]
      [.str ("Applicability could not be determined due to insufficient configuration data. "
        ++ "Per Invariant #23, UNKNOWN must not be treated as NOT_APPLICABLE.")]
      "Provide complete asset configuration data for applicability evaluation."
      "Complete the applicability evaluation by resolving missing configuration data.")
  else if ob.status = ComplianceState.reviewRequired then
    .warn
      { warningId := [.str "INTEL-COMP-REVIEW-", .uuid ob.id]
        category := .reviewRequiredObligation
        dimension := .compliance
        message := [.str "Compliance obligation for ", .str reqNum,
          .str (" requires manual review. "
            ++ "A compliance engineer should assess and resolve.")]
        sourceRef := some ⟨.complianceObligation, ob.id, [.str reqNum]⟩ }
  -- DUE, IN_PROGRESS, PENDING and NOT_EVALUATED fall through, as NOT_APPLICABLE does
  else .pass

/-- `counts[...]`: the obligations of one status. -/
def countStatus (obligations : List ComplianceObligation) (status : String) : Nat :=
  obligations.countP fun ob => ob.status = status

/-- The dimension of scanned obligations; no obligation at all is UNKNOWN. -/
def complianceDimension (obligations : List ComplianceObligation) (level : Level) :
    ComplianceIntelligenceDimension :=
  let total := obligations.length
  let compliant := countStatus obligations ComplianceState.compliant
  let nonCompliant := countStatus obligations ComplianceState.nonCompliant
  let overdue := countStatus obligations ComplianceState.overdue
  let blocked := countStatus obligations ComplianceState.blocked
  let reviewRequired := countStatus obligations ComplianceState.reviewRequired
  { status :=
      if level = .clear ∧ total = 0 then .unknown else .ofLevel level
    obligationsTotal := total
    obligationsCompliant := compliant
    obligationsNonCompliant := nonCompliant
    obligationsOverdue := overdue
    obligationsBlocked := blocked
    obligationsReviewRequired := reviewRequired
    summary := match level with
      | .clear =>
        if total = 0 then
          [.str "No compliance obligations found. Cannot confirm compliance state."]
        else if compliant = total then
          [.str "All ", .count total, .str " compliance obligations are COMPLIANT."]
        else [.count compliant, .str " of ", .count total, .str " obligations compliant."]
      | .warning => [.count reviewRequired, .str " obligations require review."]
      | .restricted =>
        [.count nonCompliant, .str " non-compliant, ", .count overdue, .str " overdue, ",
          .count blocked, .str " blocked obligations."] }

def evaluateComplianceDimension (db : Database) (org assetId : UUID) (aircraftId : Option UUID)
    (report : IntelligenceReport) : ComplianceIntelligenceDimension × IntelligenceReport :=
  let obligations := obligationsOf db org assetId aircraftId
  let scanned := ({ report with level := .clear }).scan
    (obligationOutcome db org assetId aircraftId) obligations
  (complianceDimension obligations scanned.level, scanned)

/-! ## Evidence -/

def evidenceOutcome (assetId : UUID) (aircraftId : Option UUID) (e : Evidence) : RowOutcome :=
  if e.verificationStatus = .rejected then
    .block
      { blockerId := [.str "INTEL-EV-REJECTED-", .uuid e.id]
        category := .rejectedEvidence
        dimension := .evidence
        whatCondition := [.str "Evidence item has been REJECTED: ", .str (evidenceLabel e),
          .str "."]
        whyCondition := [.str "Rejected evidence: ",
          .str (textOr "No reason recorded" e.rejectionReason),
          .str ". Rejected evidence cannot satisfy compliance obligations."]
        sourceRef := ⟨.evidence, e.id, [.str (evidenceLabel e)]⟩
        requiredAction := "Replace or resubmit the rejected evidence record."
        resolutionAction := "Submit valid replacement evidence and have it verified."
        assetId, aircraftId }
  else if e.status = .rejected then
    .block
      { blockerId := [.str "INTEL-EV-STATUS-REJECTED-", .uuid e.id]
        category := .rejectedEvidence
        dimension := .evidence
        whatCondition := [.str "Evidence record status is REJECTED: ", .str (evidenceLabel e),
          .str "."]
        whyCondition := [.str ("Evidence with REJECTED status cannot satisfy compliance "
          ++ "obligations.")]
        sourceRef := ⟨.evidence, e.id, [.str (evidenceLabel e)]⟩
        requiredAction := "Provide replacement evidence."
        resolutionAction := "Submit valid replacement evidence and have it verified."
        assetId, aircraftId }
  else .pass

/-- `obligations_requiring_evidence`, of one obligation: the column is not NULL. -/
def isRequiringEvidence (ob : ComplianceObligation) : Bool :=
  ob.evidenceRequirements.isSome &&
    (ob.status = ComplianceState.due || ob.status = ComplianceState.overdue
      || ob.status = ComplianceState.nonCompliant)

/-- `ob.id not in obligation_ids_with_evidence`. -/
def hasNoEvidence (evidenceRows : List Evidence) (ob : ComplianceObligation) : Bool :=
  !evidenceRows.any fun e => e.complianceObligationId = some ob.id

def missingEvidenceOutcome (db : Database) (org assetId : UUID) (aircraftId : Option UUID)
    (evidenceRows : List Evidence) (ob : ComplianceObligation) : RowOutcome :=
  if hasNoEvidence evidenceRows ob then
    let req := requirementOf db org ob
    let reqNum := requirementNumber "REG-UNKNOWN" req
    .block
      { blockerId := [.str "INTEL-EV-MISSING-", .uuid ob.id]
        category := .missingEvidence
        dimension := .evidence
        whatCondition := [.str "Required evidence is missing for obligation linked to ",
          .str reqNum, .str "."]
        whyCondition := [.str ("Compliance obligation has evidence requirements but no evidence "
          ++ "records exist.")]
        sourceRef := ⟨.complianceObligation, ob.id, [.str reqNum]⟩
        regulatoryRefNumber := some reqNum
        regulatoryRefTitle := req.map RegulatoryRequirement.title
        requiredAction := textOr "Attach required evidence." ob.requiredAction
        resolutionAction := "Upload and obtain verification of the required evidence."
        missingEvidenceDesc := some [.json (ob.evidenceRequirements.getD .null)]
        assetId, aircraftId }
  else .pass

/-- The dimension of scanned evidence. -/
def evidenceDimension (evidenceRows : List Evidence) (missing : Nat) (level : Level) :
    EvidenceIntelligenceDimension :=
  let total := evidenceRows.length
  let accepted := evidenceRows.countP fun e => e.status = .accepted
  let rejected := (evidenceRows.countP fun e => e.status = .rejected)
    + evidenceRows.countP fun e => e.verificationStatus = .rejected
  { status := .ofLevel level
    evidenceTotal := total
    evidenceAccepted := accepted
    evidenceMissing := missing
    evidenceRejected := rejected
    evidenceUnverified := evidenceRows.countP fun e =>
      e.status = .accepted && e.verificationStatus = .unverified
    summary :=
      if level = .clear then
        if total = 0 then [.str "No evidence records found for this asset."]
        else if accepted = total then
          [.str "All ", .count total, .str " evidence records accepted and verified."]
        else [.count accepted, .str " of ", .count total, .str " evidence records accepted."]
      else
        [.count rejected, .str " rejected evidence records; ", .count missing,
          .str " missing mandatory evidence items."] }

def evaluateEvidenceDimension (db : Database) (org assetId : UUID) (aircraftId : Option UUID)
    (report : IntelligenceReport) : EvidenceIntelligenceDimension × IntelligenceReport :=
  let evidenceRows := directEvidenceOf db org assetId aircraftId
  let requiring := (obligationsOf db org assetId aircraftId).filter isRequiringEvidence
  let scanned := (({ report with level := .clear }).scan
    (evidenceOutcome assetId aircraftId) evidenceRows).scan
    (missingEvidenceOutcome db org assetId aircraftId evidenceRows) requiring
  (evidenceDimension evidenceRows (requiring.countP (hasNoEvidence evidenceRows)) scanned.level,
    scanned)

/-! ## Inspection -/

/-- A required inspection that is pending and has no inspector yet. -/
def isRiiPending (insp : InspectionRequirement) : Bool :=
  insp.required && insp.status = .pending && insp.inspectorUserId.isNone

def inspectionOutcome (assetId : UUID) (aircraftId : Option UUID)
    (insp : InspectionRequirement) : RowOutcome :=
  if insp.status = .rejected then
    .block
      { blockerId := [.str "INTEL-INSP-REJECTED-", .uuid insp.id]
        category := .failedInspection
        dimension := .inspection
        whatCondition := [.str "Inspection requirement ", .uuid insp.id,
          .str " has been REJECTED."]
        whyCondition := [.str "Rejection reason: ",
          .str (textOr "Not specified" insp.rejectionReason),
          .str ". A rejected inspection must be corrected and re-inspected."]
        sourceRef := ⟨.inspectionRequirement, insp.id, [.uuid insp.id]⟩
        requiredAction := "Correct the rejection condition and re-perform the inspection."
        resolutionAction := "Resolve rejection cause and complete inspection."
        assetId, aircraftId }
  else if isRiiPending insp then
    .block
      { blockerId := [.str "INTEL-INSP-RII-", .uuid insp.id]
        category := .pendingRii
        dimension := .inspection
        whatCondition := [.str "Required Inspection Item (RII) is pending independent signoff."]
        whyCondition := [.str ("Airworthiness regulations require RII items to be independently "
          ++ "verified by a qualified inspector before release.")]
        sourceRef := ⟨.inspectionRequirement, insp.id, [.uuid insp.id]⟩
        requiredAction := "Assign an independent inspector to complete RII signoff."
        resolutionAction := "Complete independent RII inspection."
        assetId, aircraftId }
  else .pass

/-- The one warning for pending inspections, on an otherwise clear dimension. -/
def pendingWarning (assetId : UUID) (pending : Nat) (report : IntelligenceReport) :
    IntelligenceReport :=
  if report.level = .clear ∧ 0 < pending then
    report.add (.warn
      { warningId := [.str "INTEL-INSP-PENDING-", .uuid assetId]
        category := .incompleteInspection
        dimension := .inspection
        message := [.count pending, .str " inspection requirements are pending completion."] })
  else report

/-- The dimension of scanned inspections. -/
def inspectionDimension (rows : List InspectionRequirement) (level : Level) :
    InspectionIntelligenceDimension :=
  let completed := rows.countP fun i => i.status = .completed
  let pending := rows.countP fun i => i.status = .pending
  let rejected := rows.countP fun i => i.status = .rejected
  let riiPending := rows.countP isRiiPending
  let part (n : Nat) (text : String) : List Message :=
    if n = 0 then [] else [[.count n, .str text]]
  let summaryParts := part completed " completed" ++ part pending " pending"
    ++ part rejected " rejected" ++ part riiPending " RII awaiting signoff"
  { status := .ofLevel level
    inspectionsTotal := rows.length
    inspectionsCompleted := completed
    inspectionsPending := pending
    inspectionsRejected := rejected
    riiPending
    summary :=
      if summaryParts.isEmpty then [.str "No inspection requirements found."]
      else [.count rows.length, .str " total inspections: "] ++ joinParts ", " summaryParts }

/-- The inspections of the asset's live work orders, of the organization. -/
def inspectionRowsOf (db : Database) (org assetId : UUID) (aircraftId : Option UUID) :
    List InspectionRequirement :=
  (inspectionsOf db org assetId aircraftId).filter fun i => i.organizationId = org

def evaluateInspectionDimension (db : Database) (org assetId : UUID) (aircraftId : Option UUID)
    (report : IntelligenceReport) : InspectionIntelligenceDimension × IntelligenceReport :=
  if (liveWorkOrdersOf db org assetId aircraftId).isEmpty then
    ({ status := .clear
       summary := [.str "No work orders found; no active inspection requirements."] },
     { report with level := .clear })
  else
    let rows := inspectionRowsOf db org assetId aircraftId
    let scanned := pendingWarning assetId (rows.countP fun i => i.status = .pending)
      (({ report with level := .clear }).scan (inspectionOutcome assetId aircraftId) rows)
    (inspectionDimension rows scanned.level, scanned)

/-! ## Finding -/

/-- `is_blocker` and its category. -/
def findingCategory (finding : Finding) : Option IntelligenceBlockerCategory :=
  if finding.severity = .critical then some .criticalFinding
  else if finding.severity = .major then some .majorFinding
  else if finding.safetySignificance = some "FLIGHT_SAFETY"
      ∨ finding.safetySignificance = some "AIRWORTHINESS"
      ∨ finding.safetySignificance = some "AIRWORTHINESS_LIMITATION" then
    some .safetySignificantFinding
  else none

def findingOutcome (assetId : UUID) (aircraftId : Option UUID) (finding : Finding) :
    RowOutcome :=
  if finding.status = .closed then .pass
  else
    match findingCategory finding with
    | some category =>
      .block
        { blockerId := [.str "INTEL-FIND-", .str finding.severity.value, .str "-",
            .uuid finding.id]
          category
          dimension := .finding
          whatCondition := [.str "Unresolved ", .str finding.severity.value, .str " finding: ",
            .str finding.title, .str "."]
          whyCondition := [.str "An unresolved ", .str finding.severity.value,
            .str (" finding requires corrective action "
              ++ "and verified evidence before operational release.")]
          sourceRef := ⟨.finding, finding.id, [.str finding.title]⟩
          requiredAction :=
            "Record a corrective action disposition and attach verified evidence."
          resolutionAction :=
            "Close the finding by completing corrective action and verifying evidence."
          assetId, aircraftId }
    | none =>
      -- every other finding is OPEN or IN_PROGRESS
      .warn
        { warningId := [.str "INTEL-FIND-OPEN-", .uuid finding.id]
          category := .openFinding
          dimension := .finding
          message := [.str "Open ", .str finding.severity.value, .str " finding: ",
            .str finding.title, .str ". Review and disposition required."]
          sourceRef := some ⟨.finding, finding.id, [.str finding.title]⟩ }

/-- The dimension of scanned findings. -/
def findingDimension (findings : List Finding) (level : Level) : FindingIntelligenceDimension :=
  let openOf (severity : FindingSeverity) : Nat :=
    findings.countP fun f => f.severity = severity && f.status ≠ .closed
  let openCount := findings.countP fun f => f.status ≠ .closed
  { status := .ofLevel level
    findingsOpen := openCount
    findingsCritical := openOf .critical
    findingsMajor := openOf .major
    findingsMinor := openOf .minor
    findingsClosed := findings.countP fun f => f.status = .closed
    summary := match level with
      | .clear => [.str "No active findings detected."]
      | .warning => [.count openCount, .str " open findings require review."]
      | .restricted =>
        [.count (openOf .critical), .str " critical, ", .count (openOf .major),
          .str " major open findings blocking operations."] }

def evaluateFindingDimension (db : Database) (org assetId : UUID) (aircraftId : Option UUID)
    (includeClosed : Bool) (report : IntelligenceReport) :
    FindingIntelligenceDimension × IntelligenceReport :=
  let findings := (findingsOf db org assetId aircraftId).filter fun f =>
    includeClosed || f.status ≠ .closed
  let scanned := ({ report with level := .clear }).scan
    (findingOutcome assetId aircraftId) findings
  (findingDimension findings scanned.level, scanned)

/-! ## The state -/

def deriveOverallStatus (operationalState : OperationalState)
    (dimensions : List IntelligenceDimensionStatus) (report : IntelligenceReport) :
    AerospaceIntelligenceStatus :=
  if !report.blockers.isEmpty then
    if isGroundingState operationalState then .groundedIntel else .restricted
  else if isGroundingState operationalState then .groundedIntel
  else if dimensions.contains .unknown then .unknownIntel
  else if !report.warnings.isEmpty then .degraded
  else .nominal

def countDimension (blockers : List IntelligenceBlocker) (dimension : Dimension) : Nat :=
  blockers.countP fun b => b.dimension = dimension

/-- The dimensions in turn over a live asset. -/
def stateOf (db : Database) (now : DateTime) (org assetId : UUID) (aircraftId : Option UUID)
    (asset : Asset) (includeClosedFindings includeSourceRecords : Bool) :
    AerospaceIntelligenceState :=
  let (operational, r₁) := evaluateOperationalDimension db org assetId aircraftId asset {}
  let (compliance, r₂) := evaluateComplianceDimension db org assetId aircraftId r₁
  let (evidence, r₃) := evaluateEvidenceDimension db org assetId aircraftId r₂
  let (inspection, r₄) := evaluateInspectionDimension db org assetId aircraftId r₃
  let (finding, r₅) := evaluateFindingDimension db org assetId aircraftId includeClosedFindings r₄
  { assetId, aircraftId
    assetType := asset.assetType
    registration := asset.registration
    aerospaceIntelligenceStatus := deriveOverallStatus operational.operationalState
      [compliance.status, evidence.status, inspection.status, finding.status] r₅
    operationalDimension := operational
    complianceDimension := compliance
    evidenceDimension := evidence
    inspectionDimension := inspection
    findingDimension := finding
    blockers := r₅.blockers
    warnings := r₅.warnings
    totalBlockerCount := r₅.blockers.length
    totalWarningCount := r₅.warnings.length
    complianceBlockerCount := countDimension r₅.blockers .compliance
    evidenceBlockerCount := countDimension r₅.blockers .evidence
    inspectionBlockerCount := countDimension r₅.blockers .inspection
    findingBlockerCount := countDimension r₅.blockers .finding
    sourceRecords :=
      if includeSourceRecords then
        (obligationsOf db org assetId aircraftId).map obligationRecord
      else []
    evaluatedAt := now }

def evaluateAerospaceIntelligenceState (db : Database) (now : DateTime) (org assetId : UUID)
    (includeClosedFindings includeSourceRecords : Bool) :
    Except Error AerospaceIntelligenceState := do
  let asset ← db.getAsset org assetId
  let aircraft ← aircraftOf db org assetId
  pure (stateOf db now org assetId (aircraft.map Aircraft.id) asset includeClosedFindings
    includeSourceRecords)

/-! ## Which rows keep the state from NOMINAL -/

/-- Something the dimensions report: a blocker or a warning of some row. -/
inductive Alarm (db : Database) (org assetId : UUID) (aircraftId : Option UUID) : Prop
  | operational (asset : Asset) (hget : db.getAsset org assetId = .ok asset)
      (h : isGroundingState (computeOperationalState db org asset) = true ∨
        isLifecycleRestriction (computeOperationalState db org asset) = true)
  | obligation (ob : ComplianceObligation) (hmem : ob ∈ obligationsOf db org assetId aircraftId)
      (h : ob.status = ComplianceState.nonCompliant ∨ ob.status = ComplianceState.overdue
        ∨ ob.status = ComplianceState.blocked ∨ ob.status = ComplianceState.reviewRequired)
  | evidence (e : Evidence) (hmem : e ∈ directEvidenceOf db org assetId aircraftId)
      (h : isRejected e = true)
  | missing (ob : ComplianceObligation) (hmem : ob ∈ obligationsOf db org assetId aircraftId)
      (hreq : isRequiringEvidence ob = true)
      (h : hasNoEvidence (directEvidenceOf db org assetId aircraftId) ob = true)
  | inspection (i : InspectionRequirement)
      (hmem : i ∈ inspectionRowsOf db org assetId aircraftId)
      (h : i.status = .rejected ∨ i.status = .pending)
  | finding (f : Finding) (hmem : f ∈ findingsOf db org assetId aircraftId)
      (hopen : f.status ≠ .closed)

section Quiet

variable {db : Database} {org assetId : UUID} {aircraftId : Option UUID}
  {r : IntelligenceReport}

variable {ob : ComplianceObligation} {asset : Asset}

theorem operationalOutcome_pass {state : OperationalState} :
    operationalOutcome assetId aircraftId asset state = .pass ↔
      isGroundingState state = false ∧ isLifecycleRestriction state = false := by
  cases state <;> simp [operationalOutcome, isGroundingState, isLifecycleRestriction]

theorem obligationOutcome_pass :
    obligationOutcome db org assetId aircraftId ob = .pass ↔
      ¬(ob.status = ComplianceState.nonCompliant ∨ ob.status = ComplianceState.overdue
        ∨ ob.status = ComplianceState.blocked ∨ ob.status = ComplianceState.reviewRequired) := by
  simp only [obligationOutcome, ite_eq_iff, reduceCtorEq]
  by_cases hc : ob.status = ComplianceState.compliant
  · rw [hc]
    exact iff_of_true (Or.inl ⟨rfl, trivial⟩) (by decide)
  · tauto

theorem evidenceOutcome_pass {e : Evidence} :
    evidenceOutcome assetId aircraftId e = .pass ↔ ¬isRejected e = true := by
  simp only [evidenceOutcome, ite_eq_iff, reduceCtorEq, isRejected, Bool.or_eq_true,
    decide_eq_true_eq]
  tauto

theorem missingEvidenceOutcome_pass {rows : List Evidence} :
    missingEvidenceOutcome db org assetId aircraftId rows ob = .pass ↔
      ¬hasNoEvidence rows ob = true := by
  simp only [missingEvidenceOutcome, ite_eq_iff, reduceCtorEq]
  tauto

theorem inspectionOutcome_pass {i : InspectionRequirement} :
    inspectionOutcome assetId aircraftId i = .pass ↔
      ¬(i.status = .rejected ∨ isRiiPending i = true) := by
  simp only [inspectionOutcome, ite_eq_iff, reduceCtorEq]
  tauto

theorem findingOutcome_pass {f : Finding} :
    findingOutcome assetId aircraftId f = .pass ↔ f.status = .closed := by
  rw [findingOutcome, ite_eq_iff]
  cases findingCategory f with
  | some category => simp only [reduceCtorEq, and_false, or_false, and_true]
  | none => simp only [reduceCtorEq, and_false, or_false, and_true]

theorem pendingWarning_quiet_scan {rows : List InspectionRequirement}
    {f : InspectionRequirement → RowOutcome} {n : Nat} :
    (pendingWarning assetId n (({ r with level := .clear } : IntelligenceReport).scan f
      rows)).Quiet ↔ ({ r with level := .clear } : IntelligenceReport).Quiet ∧
        (∀ i ∈ rows, f i = .pass) ∧ n = 0 := by
  rw [pendingWarning]
  split
  case isTrue h =>
    refine iff_of_false ?_ (fun hq => by omega)
    rintro ⟨-, hw⟩
    simp [Report.add, Outcome.warning?] at hw
  case isFalse h =>
    rw [Report.quiet_scan]
    constructor
    · rintro ⟨hr, hpass⟩
      have hclear := (Report.level_scan_eq_clear rows { r with level := .clear }).2 ⟨rfl, hpass⟩
      exact ⟨hr, hpass, Nat.eq_zero_of_not_pos (fun hn => h ⟨hclear, hn⟩)⟩
    · rintro ⟨hr, hpass, -⟩
      exact ⟨hr, hpass⟩

/-! One dimension after the other: what each of them adds to the report. -/

theorem operational_quiet :
    (evaluateOperationalDimension db org assetId aircraftId asset r).2.Quiet ↔
      r.Quiet ∧ isGroundingState (computeOperationalState db org asset) = false ∧
        isLifecycleRestriction (computeOperationalState db org asset) = false := by
  show (Report.scan _ [computeOperationalState db org asset] _).Quiet ↔ _
  rw [Report.quiet_scan, Report.quiet_reset, List.forall_mem_singleton,
    operationalOutcome_pass]

theorem compliance_quiet :
    (evaluateComplianceDimension db org assetId aircraftId r).2.Quiet ↔
      r.Quiet ∧ ∀ ob ∈ obligationsOf db org assetId aircraftId,
        obligationOutcome db org assetId aircraftId ob = .pass := by
  show (Report.scan _ (obligationsOf db org assetId aircraftId) _).Quiet ↔ _
  rw [Report.quiet_scan, Report.quiet_reset]

theorem evidence_quiet :
    (evaluateEvidenceDimension db org assetId aircraftId r).2.Quiet ↔
      (r.Quiet ∧ ∀ e ∈ directEvidenceOf db org assetId aircraftId, ¬isRejected e = true) ∧
        ∀ ob ∈ obligationsOf db org assetId aircraftId, isRequiringEvidence ob = true →
          ¬hasNoEvidence (directEvidenceOf db org assetId aircraftId) ob = true := by
  show (Report.scan _ ((obligationsOf db org assetId aircraftId).filter _)
    (Report.scan _ (directEvidenceOf db org assetId aircraftId) _)).Quiet ↔ _
  simp only [Report.quiet_scan, Report.quiet_reset, evidenceOutcome_pass,
    missingEvidenceOutcome_pass, List.mem_filter, and_imp]

theorem inspectionRowsOf_eq_nil
    (hnone : (liveWorkOrdersOf db org assetId aircraftId).isEmpty = true) :
    inspectionRowsOf db org assetId aircraftId = [] := by
  rw [List.isEmpty_iff] at hnone
  rw [inspectionRowsOf, inspectionsOf, hnone]
  simp [Table.select]

theorem inspection_quiet :
    (evaluateInspectionDimension db org assetId aircraftId r).2.Quiet ↔
      r.Quiet ∧ ∀ i ∈ inspectionRowsOf db org assetId aircraftId,
        ¬(i.status = .rejected ∨ i.status = .pending) := by
  rw [evaluateInspectionDimension]
  split
  case isTrue hnone =>
    rw [inspectionRowsOf_eq_nil hnone, Report.quiet_reset]
    exact ⟨fun h => ⟨h, fun i hi => nomatch hi⟩, fun h => h.1⟩
  case isFalse =>
    show (pendingWarning assetId _ (Report.scan (inspectionOutcome assetId aircraftId)
      (inspectionRowsOf db org assetId aircraftId) _)).Quiet ↔ _
    rw [pendingWarning_quiet_scan, Report.quiet_reset, List.countP_eq_zero]
    constructor
    · rintro ⟨hr, hpass, hpending⟩
      refine ⟨hr, ?_⟩
      rintro i hi (hst | hst)
      · exact inspectionOutcome_pass.1 (hpass i hi) (Or.inl hst)
      · exact hpending i hi (decide_eq_true hst)
    · rintro ⟨hr, hrows⟩
      refine ⟨hr, ?_, ?_⟩
      · intro i hi
        refine inspectionOutcome_pass.2 ?_
        rintro (hst | hrii)
        · exact hrows i hi (Or.inl hst)
        · simp only [isRiiPending, Bool.and_eq_true, decide_eq_true_eq] at hrii
          exact hrows i hi (Or.inr hrii.1.2)
      · intro i hi hst
        exact hrows i hi (Or.inr (of_decide_eq_true hst))

theorem finding_quiet {includeClosed : Bool} :
    (evaluateFindingDimension db org assetId aircraftId includeClosed r).2.Quiet ↔
      r.Quiet ∧ ∀ f ∈ findingsOf db org assetId aircraftId, f.status = .closed := by
  show (Report.scan _ ((findingsOf db org assetId aircraftId).filter _) _).Quiet ↔ _
  simp only [Report.quiet_scan, Report.quiet_reset, findingOutcome_pass, List.mem_filter,
    and_imp]
  refine and_congr_right (fun _ => forall₂_congr (fun f _ => ?_))
  -- a finding left out is closed
  by_cases hf : f.status = .closed
  · exact iff_of_true (fun _ => hf) hf
  · simp [hf]

end Quiet

/-! ## What NOMINAL says -/

/-- The report after all five dimensions. -/
def fullReport (db : Database) (org assetId : UUID) (aircraftId : Option UUID) (asset : Asset)
    (includeClosed : Bool) : IntelligenceReport :=
  let r₁ := (evaluateOperationalDimension db org assetId aircraftId asset {}).2
  let r₂ := (evaluateComplianceDimension db org assetId aircraftId r₁).2
  let r₃ := (evaluateEvidenceDimension db org assetId aircraftId r₂).2
  let r₄ := (evaluateInspectionDimension db org assetId aircraftId r₃).2
  (evaluateFindingDimension db org assetId aircraftId includeClosed r₄).2

section Nominal

variable {db : Database} {now : DateTime} {org assetId : UUID} {aircraftId : Option UUID}
  {asset : Asset} {includeClosed includeSource : Bool} {s : AerospaceIntelligenceState}

theorem fullReport_quiet (hget : db.getAsset org assetId = .ok asset) :
    (fullReport db org assetId aircraftId asset includeClosed).Quiet ↔
      ¬Alarm db org assetId aircraftId := by
  have hstart : ({} : IntelligenceReport).Quiet := ⟨rfl, rfl⟩
  simp only [fullReport, finding_quiet, inspection_quiet, evidence_quiet, compliance_quiet,
    operational_quiet, obligationOutcome_pass]
  constructor
  · rintro ⟨⟨⟨⟨⟨⟨-, hground, hlife⟩, hob⟩, hev⟩, hmiss⟩, hinsp⟩, hfind⟩ halarm
    cases halarm with
    | operational asset' hget' h =>
      rw [hget] at hget'
      cases hget'
      rcases h with h | h
      · exact absurd h (by simp [hground])
      · exact absurd h (by simp [hlife])
    | obligation ob hmem h => exact hob ob hmem h
    | evidence e hmem h => exact hev e hmem h
    | missing ob hmem hreq h => exact hmiss ob hmem hreq h
    | inspection i hmem h => exact hinsp i hmem h
    | finding f hmem hopen => exact hopen (hfind f hmem)
  · intro hno
    refine ⟨⟨⟨⟨⟨⟨hstart, ?_, ?_⟩, ?_⟩, ?_⟩, ?_⟩, ?_⟩, ?_⟩
    · rw [← Bool.not_eq_true]
      exact fun h => hno (.operational asset hget (Or.inl h))
    · rw [← Bool.not_eq_true]
      exact fun h => hno (.operational asset hget (Or.inr h))
    · exact fun ob hmem h => hno (.obligation ob hmem h)
    · exact fun e hmem h => hno (.evidence e hmem h)
    · exact fun ob hmem hreq h => hno (.missing ob hmem hreq h)
    · exact fun i hmem h => hno (.inspection i hmem h)
    · exact fun f hmem => by_contra (fun hopen => hno (.finding f hmem hopen))

variable {r : IntelligenceReport}

theorem deriveOverallStatus_eq_nominal {state : OperationalState}
    {dims : List IntelligenceDimensionStatus} :
    deriveOverallStatus state dims r = .nominal ↔
      r.Quiet ∧ isGroundingState state = false ∧ .unknown ∉ dims := by
  obtain ⟨level, blockers, warnings⟩ := r
  rw [deriveOverallStatus]
  cases blockers with
  | cons b blockers =>
    refine iff_of_false ?_ (fun h => nomatch h.1.blockers)
    show (if isGroundingState state = true then _ else _) ≠ AerospaceIntelligenceStatus.nominal
    split
    · exact AerospaceIntelligenceStatus.noConfusion
    · exact AerospaceIntelligenceStatus.noConfusion
  | nil =>
    by_cases hground : isGroundingState state = true
    · simp [hground]
    · by_cases hunknown : .unknown ∈ dims
      · simp [hground, hunknown]
      · cases warnings with
        | cons w warnings =>
          refine iff_of_false ?_ (fun h => nomatch h.1.warnings)
          simp [hground, hunknown]
        | nil =>
          refine iff_of_true ?_ ⟨⟨rfl, rfl⟩, by simpa using hground, hunknown⟩
          simp [hground, hunknown]

theorem ofLevel_ne_unknown (level : Level) :
    IntelligenceDimensionStatus.ofLevel level ≠ .unknown := by
  cases level with
  | clear => exact IntelligenceDimensionStatus.noConfusion
  | warning => exact IntelligenceDimensionStatus.noConfusion
  | restricted => exact IntelligenceDimensionStatus.noConfusion

theorem complianceDimension_unknown {obligations : List ComplianceObligation} {level : Level} :
    (complianceDimension obligations level).status = .unknown ↔
      level = .clear ∧ obligations = [] := by
  show (if level = .clear ∧ obligations.length = 0 then _ else _) = _ ↔ _
  split
  case isTrue h => exact iff_of_true rfl ⟨h.1, List.length_eq_zero_iff.1 h.2⟩
  case isFalse h =>
    refine iff_of_false (ofLevel_ne_unknown level) ?_
    rintro ⟨hclear, rfl⟩
    exact h ⟨hclear, rfl⟩

theorem compliance_unknown (hno : ¬Alarm db org assetId aircraftId) :
    (evaluateComplianceDimension db org assetId aircraftId r).1.status = .unknown ↔
      obligationsOf db org assetId aircraftId = [] := by
  have hclear : (evaluateComplianceDimension db org assetId aircraftId r).2.level = .clear := by
    refine (Report.level_scan_eq_clear _ _).2 ⟨rfl, ?_⟩
    intro ob hmem
    exact obligationOutcome_pass.2 (fun h => hno (.obligation ob hmem h))
  exact complianceDimension_unknown.trans (and_iff_right hclear)

theorem inspection_ne_unknown :
    (evaluateInspectionDimension db org assetId aircraftId r).1.status ≠ .unknown := by
  rw [evaluateInspectionDimension]
  split
  · exact IntelligenceDimensionStatus.noConfusion
  · exact ofLevel_ne_unknown _

/-- **NOMINAL**: exactly when nothing raises an alarm and there is an obligation at all. -/
theorem state_nominal
    (h : evaluateAerospaceIntelligenceState db now org assetId includeClosed includeSource
      = .ok s) :
    s.aerospaceIntelligenceStatus = .nominal ↔
      ¬Alarm db org assetId s.aircraftId ∧ obligationsOf db org assetId s.aircraftId ≠ [] := by
  obtain ⟨asset, hget, h⟩ := bind_eq_ok.1 h
  obtain ⟨aircraft, _, h⟩ := bind_eq_ok.1 h
  rw [pure_eq_ok] at h
  subst h
  show deriveOverallStatus (computeOperationalState db org asset) _
    (fullReport db org assetId (aircraft.map Aircraft.id) asset includeClosed) = _ ↔
      ¬Alarm db org assetId (aircraft.map Aircraft.id) ∧ _ ≠ []
  rw [deriveOverallStatus_eq_nominal, fullReport_quiet hget]
  refine and_congr_right (fun hno => ?_)
  have hground : isGroundingState (computeOperationalState db org asset) = false := by
    rw [← Bool.not_eq_true]
    exact fun h => hno (.operational asset hget (Or.inl h))
  constructor
  · rintro ⟨-, hunknown⟩ hnone
    exact hunknown (List.mem_cons.2 (Or.inl ((compliance_unknown hno).2 hnone).symm))
  · intro hsome
    refine ⟨hground, ?_⟩
    intro hunknown
    rcases List.mem_cons.1 hunknown with h | hunknown
    · exact hsome ((compliance_unknown hno).1 h.symm)
    · rcases List.mem_cons.1 hunknown with h | hunknown
      · exact ofLevel_ne_unknown _ h.symm
      · rcases List.mem_cons.1 hunknown with h | hunknown
        · exact inspection_ne_unknown h.symm
        · exact ofLevel_ne_unknown _ (List.mem_singleton.1 hunknown).symm

/-- **NOMINAL MEANS CLEAN**: the verdict NOMINAL implies that there are obligations and that
all are settled exactly when every obligation has a status the engine accounts for, or
something raises an alarm, so that the verdict is not NOMINAL. -/
theorem nominal_means_clean_iff
    (h : evaluateAerospaceIntelligenceState db now org assetId includeClosed includeSource
      = .ok s) :
    (s.aerospaceIntelligenceStatus = .nominal →
      obligationsOf db org assetId s.aircraftId ≠ [] ∧
      ∀ ob ∈ obligationsOf db org assetId s.aircraftId,
        ob.status = ComplianceState.compliant ∨ ob.status = ComplianceState.notApplicable) ↔
      (∀ ob ∈ obligationsOf db org assetId s.aircraftId, isAccountedFor ob.status = true) ∨
      Alarm db org assetId s.aircraftId := by
  rw [state_nominal h]
  constructor
  · intro hclean
    by_cases halarm : Alarm db org assetId s.aircraftId
    · exact Or.inr halarm
    · refine Or.inl ?_
      intro ob hob
      obtain ⟨-, hall⟩ := hclean ⟨halarm, List.ne_nil_of_mem hob⟩
      rcases hall ob hob with hst | hst
      · rw [hst]
        decide
      · rw [hst]
        decide
  · rintro hcond ⟨hno, hsome⟩
    refine ⟨hsome, ?_⟩
    intro ob hob
    have hacc : isAccountedFor ob.status = true :=
      (hcond.resolve_right hno) ob hob
    have hnot : ¬(ob.status = ComplianceState.nonCompliant
        ∨ ob.status = ComplianceState.overdue ∨ ob.status = ComplianceState.blocked
        ∨ ob.status = ComplianceState.reviewRequired) :=
      fun h => hno (.obligation ob hob h)
    simp only [isAccountedFor, Bool.or_eq_true, decide_eq_true_eq] at hacc
    tauto

end Nominal

/-- An obligation that was never evaluated does not keep the state from NOMINAL. -/
theorem nominal_with_unevaluated_obligation :
    ∃ s, evaluateAerospaceIntelligenceState (oneObligation ComplianceState.notEvaluated) 0 1 3
        false true = .ok s ∧
      s.aerospaceIntelligenceStatus = .nominal ∧
      ∃ ob ∈ obligationsOf (oneObligation ComplianceState.notEvaluated) 1 3 s.aircraftId,
        ob.status ≠ ComplianceState.compliant ∧ ob.status ≠ ComplianceState.notApplicable := by
  exact ⟨_, rfl, by decide, _, List.mem_cons_self .., by decide, by decide⟩

/-- A compliant one does not, and is settled. -/
theorem nominal_with_compliant_obligation :
    ∃ s, evaluateAerospaceIntelligenceState (oneObligation ComplianceState.compliant) 0 1 3
        false true = .ok s ∧
      s.aerospaceIntelligenceStatus = .nominal ∧
      obligationsOf (oneObligation ComplianceState.compliant) 1 3 s.aircraftId ≠ [] ∧
      ∀ ob ∈ obligationsOf (oneObligation ComplianceState.compliant) 1 3 s.aircraftId,
        ob.status = ComplianceState.compliant ∨ ob.status = ComplianceState.notApplicable := by
  refine ⟨_, rfl, by decide, (nominal_means_clean_iff rfl).2 (Or.inl ?_) (by decide)⟩
  intro ob hob
  cases hob with
  | head => decide
  | tail _ hob => cases hob

end AerospaceStateService
end AeroComply
