import AeroComply.Lib.Triage
import AeroComply.Services.AssetRecords
import AeroComply.Services.Inspection

/-!
# ComplianceIntelligence — the readiness contribution of an asset

`get_asset_compliance_readiness_contribution` of
`app/services/compliance/intelligence_service.py`: five scans over the asset's
obligations, findings, evidence and inspections collect blockers and warnings,
and the overall status is read off what they collected.

An obligation that is NOT_EVALUATED, PENDING, DUE or IN_PROGRESS and not past due
has no branch of its own, so it does not keep the asset from READY.
-/

namespace AeroComply

namespace ComplianceIntelligenceService

open AssetRecords ObligationService
open Triage (Outcome Report)

inductive BlockerCategory
  | nonCompliantObligation
  | overdueObligation
  | insufficientData
  | criticalFinding
  | rejectedEvidence
  | missingEvidence
  | failedInspection
  deriving DecidableEq, Repr

inductive SourceRecordType
  | complianceObligation
  | finding
  | evidence
  | inspectionRequirement
  deriving DecidableEq, Repr

structure ComplianceReadinessBlocker where
  blockerId : Message
  category : BlockerCategory
  whatBlocking : Message
  whyBlocking : Message
  sourceRecordType : SourceRecordType
  sourceRecordId : UUID
  regulatoryRequirementNumber : Option String := none
  regulatoryRequirementTitle : Option String := none
  requiredAction : Option Message := none
  missingEvidence : Option Message := none
  resolutionAction : String

inductive OverallStatus
  | ready
  | blocked
  | reviewRequired
  | unknown
  deriving DecidableEq, Repr

structure ComplianceReadinessContribution where
  assetId : UUID
  aircraftId : Option UUID
  overallStatus : OverallStatus
  blockers : List ComplianceReadinessBlocker
  warnings : List Message
  complianceObligationsCount : Nat
  compliantObligationsCount : Nat
  overdueObligationsCount : Nat
  criticalFindingsCount : Nat
  missingEvidenceCount : Nat
  rejectedEvidenceCount : Nat
  reviewRequiredCount : Nat
  sourceRecords : List SourceRecord
  evaluatedAt : DateTime

abbrev RowOutcome := Outcome ComplianceReadinessBlocker Message

/-- `str(due_date)`. -/
def dueDateText : Option Date → TextPart
  | some dueDate => .date dueDate
  | none => .str "None"

/-! ## The rows -/

/-- The branch of an obligation that counts as overdue. -/
def isOverdueBranch (today : Date) (ob : ComplianceObligation) : Bool :=
  ob.status ≠ ComplianceState.compliant && ob.status ≠ ComplianceState.nonCompliant &&
    (ob.status = ComplianceState.overdue || isPastDue today ob.dueDate)

def obligationOutcome (db : Database) (today : Date) (organizationId : UUID)
    (ob : ComplianceObligation) : RowOutcome :=
  let req := requirementOf db organizationId ob
  let reqNum := requirementNumber "REG-REQ" req
  let reqTitle := requirementTitle req
  if ob.status = ComplianceState.compliant then .pass
  else if ob.status = ComplianceState.nonCompliant then
    .block
      { blockerId := [.str "COMP-NONCOMPLIANT-", .uuid ob.id]
        category := .nonCompliantObligation
        whatBlocking := [.str "Non-compliant regulatory obligation: ", .str reqNum]
        whyBlocking := [.str "Requirement '", .str reqTitle, .str "' is determined NON_COMPLIANT."]
        sourceRecordType := .complianceObligation
        sourceRecordId := ob.id
        regulatoryRequirementNumber := some reqNum
        regulatoryRequirementTitle := some reqTitle
        requiredAction := some [.str (textOr "Execute corrective action" ob.requiredAction)]
        resolutionAction :=
          "Execute required maintenance action and submit verified evidence." }
  else if ob.status = ComplianceState.overdue ∨ isPastDue today ob.dueDate = true then
    .block
      { blockerId := [.str "COMP-OVERDUE-", .uuid ob.id]
        category := .overdueObligation
        whatBlocking := [.str "Overdue compliance obligation: ", .str reqNum]
        whyBlocking := [.str "Compliance deadline passed on ", dueDateText ob.dueDate,
          .str ". Mandatory airworthiness directive overdue."]
        sourceRecordType := .complianceObligation
        sourceRecordId := ob.id
        regulatoryRequirementNumber := some reqNum
        regulatoryRequirementTitle := some reqTitle
        requiredAction := ob.requiredAction.map fun action => [.str action]
        resolutionAction := "Perform required compliance action immediately." }
  else if ob.status = ComplianceState.blocked then
    .block
      { blockerId := [.str "COMP-BLOCKED-", .uuid ob.id]
        category := .insufficientData
        whatBlocking := [.str "Applicability evaluation blocked for: ", .str reqNum]
        whyBlocking := [.str (textOr ("Applicability condition evaluation incomplete due to "
          ++ "missing configuration data.") ob.notes)]
        sourceRecordType := .complianceObligation
        sourceRecordId := ob.id
        regulatoryRequirementNumber := some reqNum
        regulatoryRequirementTitle := some reqTitle
        requiredAction := some [.str "Provide missing asset configuration attributes."]
        resolutionAction :=
          "Update asset configuration to evaluate applicability deterministically." }
  else if ob.status = ComplianceState.reviewRequired then
    .warn [.str "Compliance review required for ", .str reqNum, .str ": ", .str reqTitle]
  else .pass

/-- CRITICAL or MAJOR. -/
def isSevere (finding : Finding) : Bool :=
  finding.severity = .critical || finding.severity = .major

/-- A safety significance of FLIGHT_SAFETY or AIRWORTHINESS. -/
def isSafetySignificant (finding : Finding) : Bool :=
  finding.safetySignificance = some "FLIGHT_SAFETY"
    || finding.safetySignificance = some "AIRWORTHINESS"

def findingOutcome (finding : Finding) : RowOutcome :=
  if finding.status = .closed then .pass
  else if isSevere finding then
    .block
      { blockerId := [.str "FINDING-CRIT-", .uuid finding.id]
        category := .criticalFinding
        whatBlocking := [.str "Unresolved ", .str finding.severity.value, .str " finding: ",
          .str finding.title]
        whyBlocking := [.str "Finding severity ", .str finding.severity.value,
          .str " constitutes an active airworthiness defect."]
        sourceRecordType := .finding
        sourceRecordId := finding.id
        requiredAction := some [.str "Disposition and perform corrective action on finding '",
          .str finding.title, .str "'."]
        resolutionAction := "Submit corrective action disposition and attach verified "
          ++ "completion evidence." }
  else if isSafetySignificant finding then
    .block
      { blockerId := [.str "FINDING-SAFETY-", .uuid finding.id]
        category := .criticalFinding
        whatBlocking := [.str "Safety-critical finding unresolved: ", .str finding.title]
        whyBlocking := [.str "Finding marked with ",
          .str (finding.safetySignificance.getD "None"), .str " safety significance."]
        sourceRecordType := .finding
        sourceRecordId := finding.id
        requiredAction := some [.str "Perform safety corrective action."]
        resolutionAction := "Close finding with verified evidence." }
  else
    .warn [.str "Open finding (", .str finding.severity.value, .str "): ", .str finding.title]

def evidenceOutcome (ev : Evidence) : RowOutcome :=
  if isRejected ev then
    .block
      { blockerId := [.str "EVIDENCE-REJECTED-", .uuid ev.id]
        category := .rejectedEvidence
        whatBlocking := [.str "Compliance evidence rejected: ", .str (evidenceLabel ev)]
        whyBlocking := [.str "Evidence verification failed: ",
          .str (textOr "Evidence does not satisfy airworthiness criteria." ev.rejectionReason)]
        sourceRecordType := .evidence
        sourceRecordId := ev.id
        requiredAction :=
          some [.str "Review rejection reason and supply compliant documentation."]
        missingEvidence := some [.str "Replacement verified evidence record"]
        resolutionAction :=
          "Re-submit compliant evidence and obtain independent verification." }
  else .pass

/-- The statuses whose evidence may be missing. -/
def awaitsEvidence (ob : ComplianceObligation) : Bool :=
  ob.status = ComplianceState.due || ob.status = ComplianceState.overdue
    || ob.status = ComplianceState.inProgress

/-- `ob_ev` is empty. -/
def lacksEvidence (evidenceItems : List Evidence) (ob : ComplianceObligation) : Bool :=
  !evidenceItems.any fun e => e.complianceObligationId = some ob.id

def missingEvidenceOutcome (today : Date) (evidenceItems : List Evidence)
    (ob : ComplianceObligation) : RowOutcome :=
  if awaitsEvidence ob && lacksEvidence evidenceItems ob then
    -- an overdue obligation is a blocker already
    if ob.status = ComplianceState.overdue ∨ isPastDue today ob.dueDate = true then .pass
    else if requiresEvidence ob then
      .block
        { blockerId := [.str "EVIDENCE-MISSING-", .uuid ob.id]
          category := .missingEvidence
          whatBlocking := [.str "Required compliance evidence missing for obligation ",
            .uuid ob.id]
          whyBlocking := [.str ("Obligation requires documentary proof of accomplishment "
            ++ "before clearance.")]
          sourceRecordType := .complianceObligation
          sourceRecordId := ob.id
          missingEvidence := some [.json (ob.evidenceRequirements.getD .null)]
          resolutionAction := "Upload required proof of accomplishment." }
    else .pass
  else .pass

def inspectionOutcome (insp : InspectionRequirement) : RowOutcome :=
  if insp.status = .rejected then
    .block
      { blockerId := [.str "INSP-REJECTED-", .uuid insp.id]
        category := .failedInspection
        whatBlocking := [.str "Inspection requirement was rejected."]
        whyBlocking := [.str "Rejection reason: ",
          .str (textOr "Safety inspection criteria not met." insp.rejectionReason)]
        sourceRecordType := .inspectionRequirement
        sourceRecordId := insp.id
        requiredAction := some [.str "Re-open inspection and perform corrective actions."]
        resolutionAction := "Perform re-inspection with qualified independent inspector." }
  else if insp.required && insp.status = .pending then
    .block
      { blockerId := [.str "INSP-PENDING-", .uuid insp.id]
        category := .failedInspection
        whatBlocking := [.str "Mandatory Required Inspection Item (RII) is pending signoff."]
        whyBlocking := [.str "Airworthiness release requires independent RII verification."]
        sourceRecordType := .inspectionRequirement
        sourceRecordId := insp.id
        requiredAction :=
          some [.str "Independent inspector must inspect and complete signoff."]
        resolutionAction := "Complete independent inspection review." }
  else .pass

/-! ## The contribution -/

def evidenceItemsOf (db : Database) (organizationId assetId : UUID) (aircraftId : Option UUID)
    (obligations : List ComplianceObligation) : List Evidence :=
  db.evidence.select fun e =>
    e.organizationId = organizationId &&
      (linkedTo assetId aircraftId e.assetId e.aircraftId ||
        obligations.any fun ob => e.complianceObligationId = some ob.id)

/-- What the five scans collect, in their order. -/
def collect (db : Database) (today : Date) (organizationId assetId : UUID)
    (aircraftId : Option UUID) : Report ComplianceReadinessBlocker Message :=
  let obligations := obligationsOf db organizationId assetId aircraftId
  let evidenceItems := evidenceItemsOf db organizationId assetId aircraftId obligations
  let report : Report ComplianceReadinessBlocker Message := {}
  ((((report.scan (obligationOutcome db today organizationId) obligations).scan
    findingOutcome (findingsOf db organizationId assetId aircraftId)).scan
    evidenceOutcome evidenceItems).scan
    (missingEvidenceOutcome today evidenceItems) obligations).scan
    inspectionOutcome (inspectionsOf db organizationId assetId aircraftId)

/-- The number of obligations to review, which the status cascade asks for. -/
def reviewRequiredCount (today : Date) (obligations : List ComplianceObligation) : Nat :=
  obligations.countP fun ob =>
    ob.status = ComplianceState.reviewRequired && !isPastDue today ob.dueDate

def overallStatusOf (blockers : List ComplianceReadinessBlocker) (reviewRequired : Nat)
    (obligations : List ComplianceObligation) (findings : List Finding) : OverallStatus :=
  if !blockers.isEmpty then .blocked
  else if 0 < reviewRequired then .reviewRequired
  else if obligations.isEmpty && findings.isEmpty then .unknown
  else .ready

def getAssetComplianceReadinessContribution (db : Database) (now : DateTime) (today : Date)
    (organizationId assetId : UUID) : Except Error ComplianceReadinessContribution := do
  let aircraft ← aircraftOf db organizationId assetId
  let aircraftId := aircraft.map Aircraft.id
  let obligations := obligationsOf db organizationId assetId aircraftId
  let findings := findingsOf db organizationId assetId aircraftId
  let evidenceItems := evidenceItemsOf db organizationId assetId aircraftId obligations
  let inspections := inspectionsOf db organizationId assetId aircraftId
  let report := collect db today organizationId assetId aircraftId
  let reviewRequired := reviewRequiredCount today obligations
  pure
    { assetId, aircraftId
      overallStatus := overallStatusOf report.blockers reviewRequired obligations findings
      blockers := report.blockers
      warnings := report.warnings
      complianceObligationsCount := obligations.length
      compliantObligationsCount :=
        obligations.countP fun ob => ob.status = ComplianceState.compliant
      overdueObligationsCount := obligations.countP (isOverdueBranch today)
      criticalFindingsCount := findings.countP fun finding =>
        finding.status ≠ .closed && (isSevere finding || isSafetySignificant finding)
      missingEvidenceCount := obligations.countP fun ob =>
        awaitsEvidence ob && lacksEvidence evidenceItems ob
      rejectedEvidenceCount := evidenceItems.countP isRejected
      reviewRequiredCount := reviewRequired
      sourceRecords := obligations.map obligationRecord
        ++ findings.map (fun f => .finding f.id f.title f.severity f.status)
        ++ evidenceItems.map (fun e =>
            .evidence e.id (evidenceLabel e) e.verificationStatus e.status)
        ++ inspections.map (fun i => .inspectionRequirement i.id i.status i.required)
      evaluatedAt := now }

/-! ## Which rows block -/

/-- The obligation blocks by its status, or because it is past due and not settled. -/
def ObligationBlocks (today : Date) (ob : ComplianceObligation) : Prop :=
  ob.status = ComplianceState.nonCompliant ∨ ob.status = ComplianceState.overdue
    ∨ ob.status = ComplianceState.blocked
    ∨ (isPastDue today ob.dueDate = true ∧ ob.status ≠ ComplianceState.compliant)

/-- The obligation is due or in progress, with required evidence that is not there. -/
def MissesEvidence (today : Date) (evidenceItems : List Evidence) (ob : ComplianceObligation) :
    Prop :=
  (ob.status = ComplianceState.due ∨ ob.status = ComplianceState.inProgress) ∧
    isPastDue today ob.dueDate = false ∧ requiresEvidence ob = true ∧
    lacksEvidence evidenceItems ob = true

/-- The inspection was rejected, or is required and pending. -/
def InspectionBlocks (insp : InspectionRequirement) : Prop :=
  insp.status = .rejected ∨ (insp.required = true ∧ insp.status = .pending)

/-- Some row of the asset blocks. -/
inductive BlockingRow (db : Database) (today : Date) (org assetId : UUID)
    (aircraftId : Option UUID) : Prop
  | obligation (ob : ComplianceObligation) (hmem : ob ∈ obligationsOf db org assetId aircraftId)
      (h : ObligationBlocks today ob)
  | finding (f : Finding) (hmem : f ∈ findingsOf db org assetId aircraftId)
      (hopen : f.status ≠ .closed) (h : isSevere f = true ∨ isSafetySignificant f = true)
  | evidence (e : Evidence)
      (hmem : e ∈ evidenceItemsOf db org assetId aircraftId
        (obligationsOf db org assetId aircraftId))
      (h : isRejected e = true)
  | missing (ob : ComplianceObligation) (hmem : ob ∈ obligationsOf db org assetId aircraftId)
      (h : MissesEvidence today (evidenceItemsOf db org assetId aircraftId
        (obligationsOf db org assetId aircraftId)) ob)
  | inspection (i : InspectionRequirement) (hmem : i ∈ inspectionsOf db org assetId aircraftId)
      (h : InspectionBlocks i)

section Rows

variable {db : Database} {today : Date} {org assetId : UUID} {aircraftId : Option UUID}

theorem obligationOutcome_blocks {ob : ComplianceObligation} :
    (obligationOutcome db today org ob).Blocks (fun _ => True) ↔ ObligationBlocks today ob := by
  simp only [obligationOutcome, Outcome.blocks_ite, Outcome.not_blocks_pass,
    Outcome.not_blocks_warn, Outcome.blocks_block, ObligationBlocks]
  by_cases hc : ob.status = ComplianceState.compliant
  · have h₁ : ob.status ≠ ComplianceState.nonCompliant := by rw [hc]; decide
    have h₂ : ob.status ≠ ComplianceState.overdue := by rw [hc]; decide
    have h₃ : ob.status ≠ ComplianceState.blocked := by rw [hc]; decide
    tauto
  · tauto

theorem findingOutcome_blocks {f : Finding} :
    (findingOutcome f).Blocks (fun _ => True) ↔
      f.status ≠ .closed ∧ (isSevere f = true ∨ isSafetySignificant f = true) := by
  simp only [findingOutcome, Outcome.blocks_ite, Outcome.not_blocks_pass,
    Outcome.not_blocks_warn, Outcome.blocks_block]
  tauto

theorem evidenceOutcome_blocks {e : Evidence} :
    (evidenceOutcome e).Blocks (fun _ => True) ↔ isRejected e = true := by
  simp only [evidenceOutcome, Outcome.blocks_ite, Outcome.not_blocks_pass, Outcome.blocks_block]
  tauto

theorem missingEvidenceOutcome_blocks {evidenceItems : List Evidence} {ob : ComplianceObligation} :
    (missingEvidenceOutcome today evidenceItems ob).Blocks (fun _ => True) ↔
      MissesEvidence today evidenceItems ob := by
  simp only [missingEvidenceOutcome, Outcome.blocks_ite, Outcome.not_blocks_pass,
    Outcome.blocks_block, MissesEvidence, awaitsEvidence, Bool.and_eq_true, Bool.or_eq_true,
    decide_eq_true_eq]
  by_cases ho : ob.status = ComplianceState.overdue
  · have h₁ : ob.status ≠ ComplianceState.due := by rw [ho]; decide
    have h₂ : ob.status ≠ ComplianceState.inProgress := by rw [ho]; decide
    tauto
  · rw [← Bool.not_eq_true]
    tauto

theorem inspectionOutcome_blocks {i : InspectionRequirement} :
    (inspectionOutcome i).Blocks (fun _ => True) ↔ InspectionBlocks i := by
  simp only [inspectionOutcome, Outcome.blocks_ite, Outcome.not_blocks_pass,
    Outcome.blocks_block, InspectionBlocks, Bool.and_eq_true, decide_eq_true_eq]
  tauto

/-- **BLOCKERS**: the scans collect a blocker exactly when some row blocks. -/
theorem collect_blocked :
    (collect db today org assetId aircraftId).Blocked (fun _ => True) ↔
      BlockingRow db today org assetId aircraftId := by
  have hstart : ¬({} : Report ComplianceReadinessBlocker Message).Blocked (fun _ => True) := by
    rintro ⟨b, hb, -⟩
    cases hb
  simp only [collect, Report.blocked_scan, obligationOutcome_blocks, findingOutcome_blocks,
    evidenceOutcome_blocks, missingEvidenceOutcome_blocks, inspectionOutcome_blocks]
  constructor
  · rintro (((((h | ⟨ob, hmem, h⟩) | ⟨f, hmem, hopen, h⟩) | ⟨e, hmem, h⟩) | ⟨ob, hmem, h⟩) |
      ⟨i, hmem, h⟩)
    · exact absurd h hstart
    · exact .obligation ob hmem h
    · exact .finding f hmem hopen h
    · exact .evidence e hmem h
    · exact .missing ob hmem h
    · exact .inspection i hmem h
  · intro h
    cases h with
    | obligation ob hmem h => exact Or.inl (Or.inl (Or.inl (Or.inl (Or.inr ⟨ob, hmem, h⟩))))
    | finding f hmem hopen h => exact Or.inl (Or.inl (Or.inl (Or.inr ⟨f, hmem, hopen, h⟩)))
    | evidence e hmem h => exact Or.inl (Or.inl (Or.inr ⟨e, hmem, h⟩))
    | missing ob hmem h => exact Or.inl (Or.inr ⟨ob, hmem, h⟩)
    | inspection i hmem h => exact Or.inr ⟨i, hmem, h⟩

end Rows

/-! ## What READY says -/

/-- Obligations settled, required inspections through the gate, no severe finding open. -/
structure Satisfied (db : Database) (org assetId : UUID) (aircraftId : Option UUID) : Prop where
  obligations : ∀ ob ∈ obligationsOf db org assetId aircraftId,
    ob.status = ComplianceState.compliant ∨ ob.status = ComplianceState.notApplicable
  inspections : ∀ i ∈ inspectionsOf db org assetId aircraftId, i.required = true →
    InspectionService.satisfiesCompletionGate i.status = true
  findings : ∀ f ∈ findingsOf db org assetId aircraftId, isSevere f = true → f.status = .closed

section Ready

variable {db : Database} {now : DateTime} {today : Date} {org assetId : UUID}
  {c : ComplianceReadinessContribution}

theorem contribution_status
    (h : getAssetComplianceReadinessContribution db now today org assetId = .ok c) :
    c.overallStatus = overallStatusOf (collect db today org assetId c.aircraftId).blockers
      (reviewRequiredCount today (obligationsOf db org assetId c.aircraftId))
      (obligationsOf db org assetId c.aircraftId) (findingsOf db org assetId c.aircraftId) := by
  obtain ⟨aircraft, _, h⟩ := bind_eq_ok.1 h
  rw [pure_eq_ok] at h
  subst h
  rfl

variable {blockers : List ComplianceReadinessBlocker} {obligations : List ComplianceObligation}
  {aircraftId : Option UUID} {findings : List Finding} {n : Nat}

theorem overallStatusOf_eq_blocked :
    overallStatusOf blockers n obligations findings = .blocked ↔ ∃ b ∈ blockers, True := by
  rw [overallStatusOf]
  cases blockers with
  | nil =>
    refine iff_of_false ?_ (fun ⟨b, hb, _⟩ => nomatch hb)
    simp only [List.isEmpty_nil, Bool.not_true, Bool.false_eq_true, if_false]
    split
    · exact OverallStatus.noConfusion
    · split
      · exact OverallStatus.noConfusion
      · exact OverallStatus.noConfusion
  | cons b blockers => exact iff_of_true rfl ⟨b, List.mem_cons_self .., trivial⟩

/-- **BLOCKED**: exactly when some row of the asset blocks. -/
theorem contribution_blocked
    (h : getAssetComplianceReadinessContribution db now today org assetId = .ok c) :
    c.overallStatus = .blocked ↔ BlockingRow db today org assetId c.aircraftId := by
  rw [contribution_status h, overallStatusOf_eq_blocked]
  exact collect_blocked

theorem overallStatusOf_eq_ready :
    overallStatusOf blockers n obligations findings = .ready ↔
      (¬∃ b ∈ blockers, True) ∧ n = 0 ∧ (obligations ≠ [] ∨ findings ≠ []) := by
  cases blockers with
  | cons b blockers =>
    exact iff_of_false OverallStatus.noConfusion
      (fun h => h.1 ⟨b, List.mem_cons_self .., trivial⟩)
  | nil =>
    cases n with
    | succ n =>
      refine iff_of_false ?_ (fun h => nomatch h.2.1)
      simp [overallStatusOf]
    | zero =>
      cases obligations with
      | cons ob obligations => simp [overallStatusOf]
      | nil =>
        cases findings with
        | cons f findings => simp [overallStatusOf]
        | nil => simp [overallStatusOf]

/-- **READY**: nothing blocks, nothing asks for review, and there is a row to be ready by. -/
theorem contribution_ready
    (h : getAssetComplianceReadinessContribution db now today org assetId = .ok c) :
    c.overallStatus = .ready ↔
      ¬BlockingRow db today org assetId c.aircraftId ∧
      (∀ ob ∈ obligationsOf db org assetId c.aircraftId,
        ob.status = ComplianceState.reviewRequired → isPastDue today ob.dueDate = true) ∧
      (obligationsOf db org assetId c.aircraftId ≠ [] ∨
        findingsOf db org assetId c.aircraftId ≠ []) := by
  rw [contribution_status h, overallStatusOf_eq_ready, ← collect_blocked, reviewRequiredCount,
    List.countP_eq_zero]
  simp [Report.Blocked]

theorem settled_of_accountedFor {ob : ComplianceObligation}
    (hblock : ¬BlockingRow db today org assetId aircraftId)
    (hob : ob ∈ obligationsOf db org assetId aircraftId) (hacc : isAccountedFor ob.status = true)
    (hrev : ob.status = ComplianceState.reviewRequired → isPastDue today ob.dueDate = true) :
    ob.status = ComplianceState.compliant ∨ ob.status = ComplianceState.notApplicable := by
  have hnot : ¬ObligationBlocks today ob := fun hb => hblock (.obligation ob hob hb)
  simp only [isAccountedFor, Bool.or_eq_true, decide_eq_true_eq] at hacc
  rcases hacc with ((((hst | hst) | hst) | hst) | hst) | hst
  · exact Or.inl hst
  · exact Or.inr hst
  · exact absurd (Or.inl hst) hnot
  · exact absurd (Or.inr (Or.inl hst)) hnot
  · exact absurd (Or.inr (Or.inr (Or.inl hst))) hnot
  · refine absurd (Or.inr (Or.inr (Or.inr ⟨hrev hst, ?_⟩))) hnot
    rw [hst]
    decide

theorem gate_of_not_blocking {i : InspectionRequirement}
    (hblock : ¬BlockingRow db today org assetId aircraftId)
    (hi : i ∈ inspectionsOf db org assetId aircraftId) (hreq : i.required = true) :
    InspectionService.satisfiesCompletionGate i.status = true := by
  have hnot : ¬InspectionBlocks i := fun hb => hblock (.inspection i hi hb)
  cases hst : i.status with
  | completed => rfl
  | notRequired => rfl
  | rejected => exact absurd (Or.inl hst) hnot
  | pending => exact absurd (Or.inr ⟨hreq, hst⟩) hnot

/-- **READY MEANS SATISFIED**: the verdict READY implies that everything is satisfied
exactly when every obligation has a status the engine accounts for, or some row blocks or
asks for review, so that the verdict is not READY. -/
theorem ready_means_satisfied_iff
    (h : getAssetComplianceReadinessContribution db now today org assetId = .ok c) :
    (c.overallStatus = .ready → Satisfied db org assetId c.aircraftId) ↔
      (∀ ob ∈ obligationsOf db org assetId c.aircraftId, isAccountedFor ob.status = true) ∨
      BlockingRow db today org assetId c.aircraftId ∨
      ∃ ob ∈ obligationsOf db org assetId c.aircraftId,
        ob.status = ComplianceState.reviewRequired := by
  rw [contribution_ready h]
  constructor
  · intro hsat
    by_cases hblock : BlockingRow db today org assetId c.aircraftId
    · exact Or.inr (Or.inl hblock)
    · by_cases hrev : ∃ ob ∈ obligationsOf db org assetId c.aircraftId,
          ob.status = ComplianceState.reviewRequired
      · exact Or.inr (Or.inr hrev)
      · refine Or.inl ?_
        intro ob hob
        -- with an obligation on record and nothing reported the verdict is READY
        have hall := hsat ⟨hblock, fun o ho hst => absurd ⟨o, ho, hst⟩ hrev,
          Or.inl (List.ne_nil_of_mem hob)⟩
        rcases hall.obligations ob hob with hst | hst
        · rw [hst]
          decide
        · rw [hst]
          decide
  · rintro hcond ⟨hblock, hrev, -⟩
    have hacc : ∀ ob ∈ obligationsOf db org assetId c.aircraftId,
        isAccountedFor ob.status = true := by
      rcases hcond with hacc | hb | ⟨ob, hob, hst⟩
      · exact hacc
      · exact absurd hb hblock
      · refine absurd (.obligation ob hob (Or.inr (Or.inr (Or.inr ⟨hrev ob hob hst, ?_⟩)))) hblock
        rw [hst]
        decide
    refine ⟨?_, ?_, ?_⟩
    · intro ob hob
      exact settled_of_accountedFor hblock hob (hacc ob hob) (hrev ob hob)
    · intro i hi hreq
      exact gate_of_not_blocking hblock hi hreq
    · intro f hf hsev
      by_contra hopen
      exact hblock (.finding f hf hopen (Or.inl hsev))

end Ready

/-- An obligation that was never evaluated does not keep the asset from READY. -/
theorem ready_with_unevaluated_obligation :
    ∃ c, getAssetComplianceReadinessContribution
        (oneObligation ComplianceState.notEvaluated) 0 0 1 3 = .ok c ∧
      c.overallStatus = .ready ∧
      ¬Satisfied (oneObligation ComplianceState.notEvaluated) 1 3 c.aircraftId := by
  refine ⟨_, rfl, by decide, ?_⟩
  intro hsat
  rcases hsat.obligations _ (List.mem_cons_self ..) with hst | hst
  · exact absurd hst (by decide)
  · exact absurd hst (by decide)

/-- A compliant one is satisfied. -/
theorem ready_with_compliant_obligation :
    ∃ c, getAssetComplianceReadinessContribution
        (oneObligation ComplianceState.compliant) 0 0 1 3 = .ok c ∧
      Satisfied (oneObligation ComplianceState.compliant) 1 3 c.aircraftId := by
  refine ⟨_, rfl, (ready_means_satisfied_iff rfl).2 (Or.inl ?_) (by decide)⟩
  intro ob hob
  cases hob with
  | head => decide
  | tail _ hob => cases hob

end ComplianceIntelligenceService
end AeroComply
