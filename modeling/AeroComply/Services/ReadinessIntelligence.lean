import AeroComply.Services.AerospaceState
import AeroComply.Services.CurrentAlerts
import AeroComply.Services.DeploymentReadiness

/-!
# ReadinessIntelligence — the readiness of an asset

`app/services/intelligence/readiness_intelligence_service.py`.  The blockers of the intelligence
state, of the open work orders and, for a drone, of its deployment are joined in one list, and
counted.  READY is said only with an empty list (`blockers_eq_nil_of_ready`).
-/

namespace AeroComply

namespace AerospaceStateService

def AerospaceIntelligenceStatus.value : AerospaceIntelligenceStatus → String
  | .nominal => "NOMINAL"
  | .degraded => "DEGRADED"
  | .restricted => "RESTRICTED"
  | .groundedIntel => "GROUNDED_INTEL"
  | .unknownIntel => "UNKNOWN_INTEL"

def IntelligenceBlockerCategory.value : IntelligenceBlockerCategory → String
  | .nonCompliantObligation => "NON_COMPLIANT_OBLIGATION"
  | .overdueObligation => "OVERDUE_OBLIGATION"
  | .blockedObligation => "BLOCKED_OBLIGATION"
  | .reviewRequiredObligation => "REVIEW_REQUIRED_OBLIGATION"
  | .missingEvidence => "MISSING_EVIDENCE"
  | .rejectedEvidence => "REJECTED_EVIDENCE"
  | .failedInspection => "FAILED_INSPECTION"
  | .pendingRii => "PENDING_RII"
  | .incompleteInspection => "INCOMPLETE_INSPECTION"
  | .criticalFinding => "CRITICAL_FINDING"
  | .majorFinding => "MAJOR_FINDING"
  | .safetySignificantFinding => "SAFETY_SIGNIFICANT_FINDING"
  | .openFinding => "OPEN_FINDING"
  | .operationalGrounding => "OPERATIONAL_GROUNDING"
  | .lifecycleRestriction => "LIFECYCLE_RESTRICTION"

def Dimension.value : Dimension → String
  | .operational => "OPERATIONAL"
  | .compliance => "COMPLIANCE"
  | .evidence => "EVIDENCE"
  | .inspection => "INSPECTION"
  | .finding => "FINDING"

def SourceType.value : SourceType → String
  | .asset => "Asset"
  | .complianceObligation => "ComplianceObligation"
  | .evidence => "Evidence"
  | .inspectionRequirement => "InspectionRequirement"
  | .finding => "Finding"

end AerospaceStateService

namespace ReadinessIntelligenceService

open AerospaceStateService AssetRecords
open ReleaseReadinessService (Blocker getReleaseReadiness)
open ReadinessService (DeploymentReadiness evaluateDeploymentReadiness)

/-! ## The service -/

inductive ReadinessState
  | ready
  | blocked
  | unknown
  deriving DecidableEq, Repr

inductive BlockerSourceDomain
  | aerospaceState
  | workOrder
  | deployment
  deriving DecidableEq, Repr

structure ReadinessIntelligenceBlocker where
  sourceDomain : BlockerSourceDomain
  category : String
  description : Message
  relatedRecordId : Option UUID := none
  relatedRecordType : Option String := none
  requiredAction : Option String := none
  resolutionAction : Option String := none
  regulatoryReference : Option String := none

structure ContributingFactors where
  aerospaceIntelligenceStatus : AerospaceIntelligenceStatus
  operationalState : OperationalState
  openWorkOrdersCount : Nat
  blockedWorkOrdersCount : Nat
  deploymentBlockersCount : Nat
  overdueObligationsCount : Nat
  criticalFindingsCount : Nat
  missingEvidenceCount : Nat
  rejectedEvidenceCount : Nat

structure AssetReadinessIntelligence where
  assetId : UUID
  aircraftId : Option UUID
  operationalState : OperationalState
  readinessState : ReadinessState
  blockers : List ReadinessIntelligenceBlocker
  contributingFactors : ContributingFactors
  explanation : List Message
  evaluatedAt : DateTime

/-- `_TERMINAL_WORK_ORDER_STATUSES`. -/
def isTerminal (s : WorkOrderStatus) : Bool := s = .completed || s = .closed || s = .cancelled

/-- `_BLOCKING_AEROSPACE_STATUSES`. -/
def isBlocking (s : AerospaceIntelligenceStatus) : Bool := s = .restricted || s = .groundedIntel

/-- The text of a regulatory reference, when its number is not empty. -/
def regulatoryReference (b : IntelligenceBlocker) : Option String :=
  match b.regulatoryRefNumber with
  | none => none
  | some number =>
    if number = "" then none
    else some (number ++ ": " ++ b.regulatoryRefTitle.getD "None")

def aerospaceBlocker (b : IntelligenceBlocker) : ReadinessIntelligenceBlocker where
  sourceDomain := .aerospaceState
  category := b.dimension.value ++ ":" ++ b.category.value
  description := b.whyCondition
  relatedRecordId := some b.sourceRef.sourceId
  relatedRecordType := some b.sourceRef.sourceType.value
  requiredAction := some b.requiredAction
  resolutionAction := some b.resolutionAction
  regulatoryReference := regulatoryReference b

def workOrderBlocker (w : WorkOrder) (wb : Blocker) : ReadinessIntelligenceBlocker where
  sourceDomain := .workOrder
  category := wb.category.value
  description := .str ("[work_order " ++ w.workOrderNumber ++ "] ") :: wb.description
  relatedRecordId := wb.relatedRecordId
  relatedRecordType := some wb.category.value

def deploymentBlocker (assetId : UUID) (text : String) : ReadinessIntelligenceBlocker where
  sourceDomain := .deployment
  category := "DEPLOYMENT_BLOCKER"
  description := [.str text]
  relatedRecordId := some assetId
  relatedRecordType := some "Asset"

/-- What the loop over the open work orders has counted and collected. -/
structure Tally where
  blockedWorkOrderCount : Nat
  blockers : List ReadinessIntelligenceBlocker

section Service

variable (fl : ℚ → ℚ) (db : Database) (now : DateTime) (today : Date)
  (organizationId assetId : UUID)

def openWorkOrders (aircraftId : Option UUID) : List WorkOrder :=
  (liveWorkOrdersOf db organizationId assetId aircraftId).filter fun w => !isTerminal w.status

/-- One open work order further. -/
def noteWorkOrder (tally : Tally) (w : WorkOrder) : Except Error Tally := do
  let releaseReadiness ← getReleaseReadiness db organizationId w.id
  if releaseReadiness.status = .blocked then
    pure { blockedWorkOrderCount := tally.blockedWorkOrderCount + 1
           blockers := tally.blockers ++ releaseReadiness.blockers.map (workOrderBlocker w) }
  else pure tally

def deploymentOf (asset : Asset) : Except Error (Option DeploymentReadiness) :=
  if asset.assetType = AssetType.drone then
    match evaluateDeploymentReadiness fl db today organizationId assetId with
    | .ok deployment => .ok (some deployment)
    -- `except NotFoundError`
    | .error (.notFound _) => .ok none
    | .error e => .error e
  else .ok none

/-- The texts of the deployment blockers; none unless it is BLOCKED. -/
def deploymentTexts : Option DeploymentReadiness → List String
  | none => []
  | some deployment => if deployment.status = .blocked then deployment.blockers else []

def isDeploymentBlocked : Option DeploymentReadiness → Bool
  | none => false
  | some deployment => deployment.status = .blocked

/-- `readiness_state`, from the status and from the two counts. -/
def readinessStateOf (status : AerospaceIntelligenceStatus)
    (blockedWorkOrderCount deploymentBlockerCount : Nat) : ReadinessState :=
  if isBlocking status || (0 < blockedWorkOrderCount || 0 < deploymentBlockerCount) then .blocked
  else if status = .unknownIntel then .unknown
  else .ready

def readinessExplanation (state : AerospaceIntelligenceState) (openCount blockedCount : Nat)
    (deployment : Option DeploymentReadiness) (readinessState : ReadinessState) : List Message :=
  [[.str ("Aerospace Intelligence State is " ++ state.aerospaceIntelligenceStatus.value ++ " ("),
    .count state.totalBlockerCount, .str " blocker(s), ", .count state.totalWarningCount,
    .str " warning(s))."]] ++
  (if blockedCount = 0 then []
   else [[.count blockedCount, .str " of ", .count openCount,
     .str " open work order(s) are release-BLOCKED."]]) ++
  (if isDeploymentBlocked deployment then
    [[.str "Drone deployment readiness reports ", .count (deploymentTexts deployment).length,
      .str " blocker(s)."]]
   else []) ++
  match readinessState with
  | .blocked => []
  | .unknown =>
    [[.str "Aerospace Intelligence State is UNKNOWN_INTEL -- insufficient data to call this asset READY."]]
  | .ready =>
    [[.str "No blockers found across aerospace state, work-order, or deployment gates."]]

/-- `contributing_factors`. -/
def contributingFactorsOf (state : AerospaceIntelligenceState)
    (openCount blockedCount deploymentCount : Nat) : ContributingFactors where
  aerospaceIntelligenceStatus := state.aerospaceIntelligenceStatus
  operationalState := state.operationalDimension.operationalState
  openWorkOrdersCount := openCount
  blockedWorkOrdersCount := blockedCount
  deploymentBlockersCount := deploymentCount
  overdueObligationsCount := state.complianceDimension.obligationsOverdue
  criticalFindingsCount := state.findingDimension.findingsCritical
  missingEvidenceCount := state.evidenceDimension.evidenceMissing
  rejectedEvidenceCount := state.evidenceDimension.evidenceRejected

/-- The answer, from what was counted and collected. -/
def readinessOf (state : AerospaceIntelligenceState) (openCount : Nat) (tally : Tally)
    (deployment : Option DeploymentReadiness) : AssetReadinessIntelligence :=
  let texts := deploymentTexts deployment
  let readinessState := readinessStateOf state.aerospaceIntelligenceStatus
    tally.blockedWorkOrderCount texts.length
  { assetId
    aircraftId := state.aircraftId
    operationalState := state.operationalDimension.operationalState
    readinessState
    blockers := tally.blockers ++ texts.map (deploymentBlocker assetId)
    contributingFactors :=
      contributingFactorsOf state openCount tally.blockedWorkOrderCount texts.length
    explanation := readinessExplanation state openCount tally.blockedWorkOrderCount deployment
      readinessState
    evaluatedAt := now }

def getAssetReadinessIntelligence : Except Error AssetReadinessIntelligence := do
  let asset ← db.getAsset organizationId assetId
  let state ← evaluateAerospaceIntelligenceState db now organizationId assetId false false
  let openOrders := openWorkOrders db organizationId assetId state.aircraftId
  let tally ← openOrders.foldlM (noteWorkOrder db organizationId)
    { blockedWorkOrderCount := 0, blockers := state.blockers.map aerospaceBlocker }
  let deployment ← deploymentOf fl db today organizationId assetId asset
  pure (readinessOf now assetId state openOrders.length tally deployment)

end Service

/-! ## What the parts say -/

section Parts

variable {fl : ℚ → ℚ} {db : Database} {now : DateTime} {today : Date} {org assetId : UUID}
  {state : AerospaceIntelligenceState} {readiness : AssetReadinessIntelligence}

theorem status_eq_derive {includeClosed includeSource : Bool}
    (h : evaluateAerospaceIntelligenceState db now org assetId includeClosed includeSource
      = .ok state) :
    ∃ dimensions report, state.blockers = report.blockers ∧ state.warnings = report.warnings ∧
      state.aerospaceIntelligenceStatus =
        deriveOverallStatus state.operationalDimension.operationalState dimensions report := by
  obtain ⟨asset, -, h⟩ := bind_eq_ok.1 h
  obtain ⟨aircraft, -, h⟩ := bind_eq_ok.1 h
  cases h
  exact ⟨_, _, rfl, rfl, rfl⟩

theorem blockers_eq_nil_of_not_blocking {includeClosed includeSource : Bool}
    (h : evaluateAerospaceIntelligenceState db now org assetId includeClosed includeSource
      = .ok state)
    (hstatus : isBlocking state.aerospaceIntelligenceStatus = false) : state.blockers = [] := by
  obtain ⟨dimensions, report, hblockers, -, hderived⟩ := status_eq_derive h
  rw [hblockers]
  cases hreport : report.blockers with
  | nil => rfl
  | cons b bs =>
    rw [hderived, deriveOverallStatus, hreport] at hstatus
    cases hground : isGroundingState state.operationalDimension.operationalState with
    | true =>
      rw [hground] at hstatus
      cases hstatus
    | false =>
      rw [hground] at hstatus
      cases hstatus

theorem nominal_of_no_warning {includeClosed includeSource : Bool}
    (h : evaluateAerospaceIntelligenceState db now org assetId includeClosed includeSource
      = .ok state)
    (hstatus : isBlocking state.aerospaceIntelligenceStatus = false)
    (hunknown : state.aerospaceIntelligenceStatus ≠ .unknownIntel)
    (hwarnings : state.warnings = []) : state.aerospaceIntelligenceStatus = .nominal := by
  have hblockers := blockers_eq_nil_of_not_blocking h hstatus
  obtain ⟨dimensions, report, hb, hw, hderived⟩ := status_eq_derive h
  rw [hb] at hblockers
  rw [hw] at hwarnings
  rw [hderived, deriveOverallStatus, hblockers, hwarnings] at hstatus hunknown ⊢
  cases hground : isGroundingState state.operationalDimension.operationalState with
  | true =>
    rw [hground] at hstatus
    cases hstatus
  | false =>
    rw [hground] at hunknown
    cases hdimensions : dimensions.contains .unknown with
    | true =>
      rw [hdimensions] at hunknown
      exact absurd rfl hunknown
    | false => rfl

theorem readinessStateOf_eq_ready {status : AerospaceIntelligenceStatus} {n m : Nat} :
    readinessStateOf status n m = .ready ↔
      isBlocking status = false ∧ n = 0 ∧ m = 0 ∧ status ≠ .unknownIntel := by
  rw [readinessStateOf]
  cases hblocking : isBlocking status with
  | true => exact ⟨fun h => (nomatch h), fun h => (nomatch h.1)⟩
  | false =>
    cases n with
    | succ n => exact ⟨fun h => (nomatch h), fun h => (nomatch h.2.1)⟩
    | zero =>
      cases m with
      | succ m => exact ⟨fun h => (nomatch h), fun h => (nomatch h.2.2.1)⟩
      | zero =>
        show (if status = .unknownIntel then ReadinessState.unknown else .ready) = .ready ↔ _
        by_cases hunknown : status = .unknownIntel
        · rw [if_pos hunknown]
          exact ⟨fun h => (nomatch h), fun h => absurd hunknown h.2.2.2⟩
        · rw [if_neg hunknown]
          exact ⟨fun _ => ⟨rfl, rfl, rfl, hunknown⟩, fun _ => rfl⟩

/-! ### The loop over the work orders -/

theorem noteWorkOrder_count {tally tally' : Tally} {w : WorkOrder}
    (h : noteWorkOrder db org tally w = .ok tally') :
    tally.blockedWorkOrderCount ≤ tally'.blockedWorkOrderCount ∧
      (tally'.blockedWorkOrderCount = tally.blockedWorkOrderCount →
        tally'.blockers = tally.blockers ∧ ¬ProactiveService.Blocked db org w) := by
  obtain ⟨release, hrelease, h⟩ := bind_eq_ok.1 h
  by_cases hblocked : release.status = .blocked
  · rw [if_pos hblocked] at h
    cases h
    exact ⟨Nat.le_succ _, fun hcount => absurd hcount (Nat.succ_ne_self _)⟩
  · rw [if_neg hblocked] at h
    cases h
    refine ⟨Nat.le_refl _, fun _ => ⟨rfl, ?_⟩⟩
    rintro ⟨release', hrelease', hblocked'⟩
    rw [hrelease] at hrelease'
    cases hrelease'
    exact hblocked hblocked'

theorem noteWorkOrders_count {rows : List WorkOrder} {tally tally' : Tally}
    (h : rows.foldlM (noteWorkOrder db org) tally = .ok tally') :
    tally.blockedWorkOrderCount ≤ tally'.blockedWorkOrderCount ∧
      (tally'.blockedWorkOrderCount = tally.blockedWorkOrderCount →
        tally'.blockers = tally.blockers ∧
          ∀ w ∈ rows, ¬ProactiveService.Blocked db org w) := by
  induction rows generalizing tally with
  | nil =>
    cases h
    exact ⟨Nat.le_refl _, fun _ => ⟨rfl, fun _ hw => (nomatch hw)⟩⟩
  | cons w rows ih =>
    rw [List.foldlM_cons] at h
    obtain ⟨next, hnext, hrest⟩ := bind_eq_ok.1 h
    obtain ⟨hle, hfirst⟩ := noteWorkOrder_count hnext
    obtain ⟨hle', hothers⟩ := ih hrest
    refine ⟨hle.trans hle', fun hcount => ?_⟩
    have hstays : next.blockedWorkOrderCount = tally.blockedWorkOrderCount :=
      le_antisymm (hcount ▸ hle') hle
    obtain ⟨hblockers, hnot⟩ := hfirst hstays
    obtain ⟨hblockers', hnots⟩ := hothers (hcount.trans hstays.symm)
    refine ⟨hblockers'.trans hblockers, fun x hx => ?_⟩
    rcases List.mem_cons.1 hx with rfl | hx
    · exact hnot
    · exact hnots x hx

/-! ### The answer -/

/-- What a READY answer rests on. -/
structure ReadyFacts (db : Database) (now : DateTime) (org assetId : UUID)
    (readiness : AssetReadinessIntelligence) (state : AerospaceIntelligenceState) : Prop where
  evaluated : evaluateAerospaceIntelligenceState db now org assetId false false = .ok state
  aircraftId : readiness.aircraftId = state.aircraftId
  status : isBlocking state.aerospaceIntelligenceStatus = false
  known : state.aerospaceIntelligenceStatus ≠ .unknownIntel
  blockers : readiness.blockers = []
  factors : readiness.contributingFactors = contributingFactorsOf state
    (openWorkOrders db org assetId state.aircraftId).length 0 0
  workOrders : ∀ w ∈ openWorkOrders db org assetId state.aircraftId,
    ¬ProactiveService.Blocked db org w

theorem readyFacts_of_ready
    (h : getAssetReadinessIntelligence fl db now today org assetId = .ok readiness)
    (hready : readiness.readinessState = .ready) :
    ∃ state, ReadyFacts db now org assetId readiness state := by
  obtain ⟨asset, -, h⟩ := bind_eq_ok.1 h
  obtain ⟨state, hstate, h⟩ := bind_eq_ok.1 h
  obtain ⟨tally, htally, h⟩ := bind_eq_ok.1 h
  obtain ⟨deployment, -, h⟩ := bind_eq_ok.1 h
  cases h
  obtain ⟨hstatus, hcount, htexts, hknown⟩ := readinessStateOf_eq_ready.1 hready
  obtain ⟨hblockers, hnot⟩ := (noteWorkOrders_count htally).2 hcount
  refine ⟨state, hstate, rfl, hstatus, hknown, ?_, ?_, hnot⟩
  · show tally.blockers ++ (deploymentTexts deployment).map (deploymentBlocker assetId) = []
    rw [hblockers, blockers_eq_nil_of_not_blocking hstate hstatus,
      List.length_eq_zero_iff.1 htexts]
    rfl
  · show contributingFactorsOf state _ tally.blockedWorkOrderCount
      (deploymentTexts deployment).length = _
    rw [hcount, htexts]

/-- **READY** is said only with an empty list of blockers. -/
theorem blockers_eq_nil_of_ready
    (h : getAssetReadinessIntelligence fl db now today org assetId = .ok readiness)
    (hready : readiness.readinessState = .ready) : readiness.blockers = [] := by
  obtain ⟨state, hfacts⟩ := readyFacts_of_ready h hready
  exact hfacts.blockers

end Parts

end ReadinessIntelligenceService

end AeroComply
