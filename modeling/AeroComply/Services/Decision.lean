import AeroComply.Services.ReadinessIntelligence

/-!
# Decision — risk, priority and the decision for an asset

`risk_intelligence_service.py`, `priority_intelligence_service.py` and `decision_service.py` of
`app/services/intelligence/`.  Each grades the output of the one before it: the counts become six
Kleene factors, the factors a risk level, the risk level and the number of blockers a priority, and
all of it a decision.  `no_action_clean` is what NO_ACTION_REQUIRED says of the rows that were
counted at the start of the chain.
-/

namespace AeroComply

open AerospaceStateService AssetRecords ObligationService ReadinessIntelligenceService

/-! ## Risk -/

namespace RiskIntelligenceService

inductive RiskLevel
  | critical
  | high
  | medium
  | low
  | unknown
  deriving DecidableEq, Repr

def RiskLevel.value : RiskLevel → String
  | .critical => "CRITICAL"
  | .high => "HIGH"
  | .medium => "MEDIUM"
  | .low => "LOW"
  | .unknown => "UNKNOWN"

structure RiskFactor where
  name : String
  value : KleeneValue
  explanation : Message

structure ContributingCounts where
  criticalFindingsCount : Nat
  overdueObligationsCount : Nat
  missingEvidenceCount : Nat
  rejectedEvidenceCount : Nat
  blockedWorkOrdersCount : Nat

structure AssetRiskIntelligence where
  assetId : UUID
  riskLevel : RiskLevel
  readinessState : ReadinessState
  factors : List RiskFactor
  contributingCounts : ContributingCounts
  explanation : List Message
  evaluatedAt : DateTime

/-- `KleeneValue.TRUE if condition else KleeneValue.FALSE`. -/
def kleeneOf (condition : Bool) : KleeneValue := if condition then .true else .false

section Factors

variable (factors : ContributingFactors)

def safety : KleeneValue := kleeneOf (0 < factors.criticalFindingsCount)

def compliance : KleeneValue :=
  if isBlocking factors.aerospaceIntelligenceStatus then .true
  else if factors.aerospaceIntelligenceStatus = .unknownIntel then .unknown
  else .false

def operational : KleeneValue := kleeneOf (0 < factors.blockedWorkOrdersCount)

def overdue : KleeneValue := kleeneOf (0 < factors.overdueObligationsCount)

def evidence : KleeneValue :=
  kleeneOf (0 < factors.missingEvidenceCount || 0 < factors.rejectedEvidenceCount)

def aog : KleeneValue := kleeneOf (factors.operationalState = .aog)

def riskFactors : List RiskFactor :=
  [{ name := "safety"
     value := safety factors
     explanation := [.count factors.criticalFindingsCount,
       .str " unresolved critical finding(s)."] },
   { name := "compliance"
     value := compliance factors
     explanation := [.str ("Aerospace intelligence status is "
       ++ pyRepr factors.aerospaceIntelligenceStatus.value ++ ".")] },
   { name := "operational"
     value := operational factors
     explanation := [.count factors.blockedWorkOrdersCount,
       .str " release-BLOCKED open work order(s)."] },
   { name := "overdue"
     value := overdue factors
     explanation := [.count factors.overdueObligationsCount,
       .str " overdue compliance obligation(s)."] },
   { name := "evidence"
     value := evidence factors
     explanation := [.count factors.missingEvidenceCount, .str " missing / ",
       .count factors.rejectedEvidenceCount, .str " rejected evidence item(s)."] },
   { name := "aog"
     value := aog factors
     explanation := [.str ("Operational state is "
       ++ pyRepr factors.operationalState.value ++ ".")] }]

def isAtRisk : KleeneValue :=
  kleeneOrAll [safety factors, compliance factors, operational factors, overdue factors,
    evidence factors, aog factors]

/-- `risk_level`, with the sentence that explains it. -/
def gradeRisk : RiskLevel × Message :=
  match isAtRisk factors with
  | .unknown =>
    (.unknown, [.str ("No factor is definitively TRUE, but compliance status is unresolved -- "
      ++ "risk cannot be graded LOW without more data.")])
  | .false => (.low, [.str "Every risk factor is FALSE."])
  | .true =>
    if aog factors = .true ∨ (safety factors = .true ∧ compliance factors = .true) then
      (.critical, [.str ("AOG and/or both an unresolved critical finding and a BLOCKED "
        ++ "compliance determination are present.")])
    else if safety factors = .true ∨ compliance factors = .true ∨ operational factors = .true then
      (.high, [.str "Safety, compliance, or operational readiness is directly impacted."])
    else (.medium, [.str "Only overdue obligations and/or evidence gaps are present."])

end Factors

def getAssetRiskIntelligence (fl : ℚ → ℚ) (db : Database) (now : DateTime) (today : Date)
    (organizationId assetId : UUID) : Except Error AssetRiskIntelligence := do
  let readiness ← getAssetReadinessIntelligence fl db now today organizationId assetId
  let factors := readiness.contributingFactors
  let graded := gradeRisk factors
  pure
    { assetId
      riskLevel := graded.1
      readinessState := readiness.readinessState
      factors := riskFactors factors
      contributingCounts :=
        { criticalFindingsCount := factors.criticalFindingsCount
          overdueObligationsCount := factors.overdueObligationsCount
          missingEvidenceCount := factors.missingEvidenceCount
          rejectedEvidenceCount := factors.rejectedEvidenceCount
          blockedWorkOrdersCount := factors.blockedWorkOrdersCount }
      explanation := [graded.2]
      evaluatedAt := now }

/-- Nothing was counted, and the state is NOMINAL or DEGRADED. -/
structure NothingCounted (factors : ContributingFactors) : Prop where
  status : isBlocking factors.aerospaceIntelligenceStatus = false
  known : factors.aerospaceIntelligenceStatus ≠ .unknownIntel
  findings : factors.criticalFindingsCount = 0
  obligations : factors.overdueObligationsCount = 0
  missing : factors.missingEvidenceCount = 0
  rejected : factors.rejectedEvidenceCount = 0
  workOrders : factors.blockedWorkOrdersCount = 0
  operational : factors.operationalState ≠ .aog

theorem kleeneOf_eq_false {condition : Bool} : kleeneOf condition = .false ↔ condition = false := by
  cases condition <;> decide

variable {factors : ContributingFactors}

theorem compliance_eq_false :
    compliance factors = .false ↔ isBlocking factors.aerospaceIntelligenceStatus = false ∧
      factors.aerospaceIntelligenceStatus ≠ .unknownIntel := by
  rw [compliance]
  cases factors.aerospaceIntelligenceStatus <;> decide

theorem isAtRisk_eq_false :
    isAtRisk factors = .false ↔ NothingCounted factors := by
  rw [isAtRisk, kleeneOrAll_eq_false]
  simp only [List.forall_mem_cons, List.not_mem_nil, IsEmpty.forall_iff, implies_true, and_true,
    safety, operational, overdue, evidence, aog, kleeneOf_eq_false, compliance_eq_false,
    Bool.or_eq_false_iff, decide_eq_false_iff_not, Nat.not_lt, Nat.le_zero]
  constructor
  · rintro ⟨hfindings, ⟨hstatus, hknown⟩, hworkOrders, hobligations, ⟨hmissing, hrejected⟩, haog⟩
    exact ⟨hstatus, hknown, hfindings, hobligations, hmissing, hrejected, hworkOrders, haog⟩
  · intro h
    exact ⟨h.findings, ⟨h.status, h.known⟩, h.workOrders, h.obligations, ⟨h.missing, h.rejected⟩,
      h.operational⟩

/-- **LOW** says that nothing was counted. -/
theorem gradeRisk_eq_low :
    (gradeRisk factors).1 = .low ↔ NothingCounted factors := by
  rw [← isAtRisk_eq_false, gradeRisk]
  cases isAtRisk factors with
  | unknown => exact ⟨fun h => (nomatch h), fun h => (nomatch h)⟩
  | false => exact ⟨fun _ => rfl, fun _ => rfl⟩
  | true =>
    refine ⟨fun h => ?_, fun h => (nomatch h)⟩
    dsimp only at h
    split at h
    · cases h
    · split at h
      · cases h
      · cases h

end RiskIntelligenceService

/-! ## Priority -/

namespace PriorityIntelligenceService

open RiskIntelligenceService

structure IntelligenceWarningRef where
  warningId : Message
  category : IntelligenceBlockerCategory
  dimension : Dimension
  message : Message
  sourceType : Option SourceType
  sourceId : Option UUID
  sourceLabel : Option Message

structure AssetPriorityIntelligence where
  assetId : UUID
  aircraftId : Option UUID
  priorityLevel : RiskLevel
  riskLevel : RiskLevel
  readinessState : ReadinessState
  escalated : Bool
  blockerCount : Nat
  distinctBlockerDomains : Nat
  warningCount : Nat
  blockers : List ReadinessIntelligenceBlocker
  warnings : List IntelligenceWarningRef
  explanation : List Message
  evaluatedAt : DateTime

/-- `_ESCALATION_TARGET`; the levels without a target are not in `_ESCALATION_ELIGIBLE`. -/
def escalationTarget : RiskLevel → Option RiskLevel
  | .low => some .medium
  | .medium => some .high
  | .high => some .critical
  | .critical | .unknown => none

def escalationBlockerThreshold : Nat := 3

def warningRef (w : IntelligenceWarning) : IntelligenceWarningRef where
  warningId := w.warningId
  category := w.category
  dimension := w.dimension
  message := w.message
  sourceType := w.sourceRef.map IntelligenceSourceRef.sourceType
  sourceId := w.sourceRef.map IntelligenceSourceRef.sourceId
  sourceLabel := w.sourceRef.map IntelligenceSourceRef.sourceLabel

def escalation (riskLevel : RiskLevel) (blockerCount : Nat) : Option RiskLevel :=
  if escalationBlockerThreshold ≤ blockerCount then escalationTarget riskLevel else none

def escalationExplanation (riskLevel : RiskLevel) (blockerCount : Nat) :
    Option RiskLevel → List Message
  | none => []
  | some priorityLevel =>
    [[.str ("Escalated from " ++ pyRepr riskLevel.value ++ " to " ++ pyRepr priorityLevel.value
        ++ ": "),
      .count blockerCount,
      .str (" concrete blockers are present, more than "
        ++ "risk_level's binary factors alone distinguish.")]]

def getAssetPriorityIntelligence (fl : ℚ → ℚ) (db : Database) (now : DateTime) (today : Date)
    (organizationId assetId : UUID) : Except Error AssetPriorityIntelligence := do
  let readiness ← getAssetReadinessIntelligence fl db now today organizationId assetId
  let risk ← getAssetRiskIntelligence fl db now today organizationId assetId
  let state ← evaluateAerospaceIntelligenceState db now organizationId assetId false false
  let blockerCount := readiness.blockers.length
  let escalated := escalation risk.riskLevel blockerCount
  pure
    { assetId
      aircraftId := state.aircraftId
      priorityLevel := escalated.getD risk.riskLevel
      riskLevel := risk.riskLevel
      readinessState := readiness.readinessState
      escalated := escalated.isSome
      blockerCount
      distinctBlockerDomains :=
        (readiness.blockers.map ReadinessIntelligenceBlocker.sourceDomain).dedup.length
      warningCount := state.warnings.length
      blockers := readiness.blockers
      warnings := state.warnings.map warningRef
      explanation :=
        [.str ("Base priority is risk_level=" ++ pyRepr risk.riskLevel.value ++ ".")] ::
          escalationExplanation risk.riskLevel blockerCount escalated
      evaluatedAt := now }

end PriorityIntelligenceService

/-! ## The decision -/

namespace DecisionService

open RiskIntelligenceService PriorityIntelligenceService

inductive DecisionState
  | insufficientData
  | immediateActionRequired
  | actionRequired
  | monitor
  | noActionRequired
  deriving DecidableEq, Repr

structure AssetDecision where
  assetId : UUID
  aircraftId : Option UUID
  decisionState : DecisionState
  decisionReason : Message
  priorityLevel : RiskLevel
  riskLevel : RiskLevel
  readinessState : ReadinessState
  requiredInformation : List String
  blockers : List ReadinessIntelligenceBlocker
  warnings : List IntelligenceWarningRef
  explanation : List Message
  evaluatedAt : DateTime

def readinessValue : ReadinessState → String
  | .ready => "READY"
  | .blocked => "BLOCKED"
  | .unknown => "UNKNOWN"

/-- `decision_state`. -/
def decide (priority : AssetPriorityIntelligence) : DecisionState :=
  if priority.readinessState = .unknown ∨ priority.riskLevel = .unknown then .insufficientData
  else if priority.readinessState = .blocked ∧ priority.riskLevel = .critical then
    .immediateActionRequired
  else if priority.readinessState = .blocked then .actionRequired
  else if 0 < priority.warningCount then .monitor
  else .noActionRequired

/-- `decision_reason`. -/
def reasonOf (priority : AssetPriorityIntelligence) : DecisionState → Message
  | .insufficientData =>
    [.str ("Readiness and/or risk could not be determined from available compliance, "
      ++ "evidence, inspection, or finding data -- a decision cannot be made without "
      ++ "resolving this uncertainty.")]
  | .immediateActionRequired =>
    [.str ("One or more hard blockers are present and risk is graded CRITICAL "
      ++ "(safety-significant finding combined with a blocked compliance "
      ++ "determination, and/or an active AOG condition).")]
  | .actionRequired =>
    [.str ("One or more hard blockers are present (risk_level="
      ++ pyRepr priority.riskLevel.value ++ "); "
      ++ "the asset cannot be considered ready until they are resolved.")]
  | .monitor =>
    [.str "No hard blocker is present, but ", .count priority.warningCount,
      .str " non-blocking intelligence warning(s) exist and should be tracked."]
  | .noActionRequired =>
    [.str "No blockers or warnings are present; readiness is READY and risk is LOW."]

/-- `required_information`. -/
def requiredInformationOf (priority : AssetPriorityIntelligence) : List String :=
  (if priority.readinessState = .unknown then
    ["Readiness intelligence is UNKNOWN -- typically caused by zero evaluated "
      ++ "compliance obligations for this asset (see contributing_factors on the "
      ++ "readiness endpoint)."]
   else []) ++
  if priority.riskLevel = .unknown then
    ["Risk intelligence is UNKNOWN because the underlying compliance "
      ++ "determination is unresolved."]
  else []

def getAssetDecision (fl : ℚ → ℚ) (db : Database) (now : DateTime) (today : Date)
    (organizationId assetId : UUID) : Except Error AssetDecision := do
  let priority ← getAssetPriorityIntelligence fl db now today organizationId assetId
  let decisionState := decide priority
  pure
    { assetId
      aircraftId := priority.aircraftId
      decisionState
      decisionReason := reasonOf priority decisionState
      priorityLevel := priority.priorityLevel
      riskLevel := priority.riskLevel
      readinessState := priority.readinessState
      requiredInformation := requiredInformationOf priority
      blockers := priority.blockers
      warnings := priority.warnings
      explanation :=
        [[.str ("readiness_state=" ++ pyRepr (readinessValue priority.readinessState)
          ++ ", risk_level=" ++ pyRepr priority.riskLevel.value
          ++ ", priority_level=" ++ pyRepr priority.priorityLevel.value ++ ".")]]
      evaluatedAt := now }

/-! ### What NO_ACTION_REQUIRED says -/

/-- The verdict is clean, and so are the rows it was derived from. -/
structure Clean (fl : ℚ → ℚ) (db : Database) (now : DateTime) (today : Date)
    (org assetId : UUID) (decision : AssetDecision) : Prop where
  readinessState : decision.readinessState = .ready
  riskLevel : decision.riskLevel = .low
  priorityLevel : decision.priorityLevel = .low
  blockers : decision.blockers = []
  warnings : decision.warnings = []
  /-- The counts of the chain. -/
  counted : ∃ readiness,
    getAssetReadinessIntelligence fl db now today org assetId = .ok readiness ∧
      NothingCounted readiness.contributingFactors
  findings : ∀ f ∈ findingsOf db org assetId decision.aircraftId, f.status = .closed
  obligations : ∀ ob ∈ obligationsOf db org assetId decision.aircraftId,
    ob.status ≠ ComplianceState.overdue
  missing : ∀ ob ∈ obligationsOf db org assetId decision.aircraftId,
    isRequiringEvidence ob = true →
      ∃ e ∈ directEvidenceOf db org assetId decision.aircraftId,
        e.complianceObligationId = some ob.id
  rejected : ∀ e ∈ directEvidenceOf db org assetId decision.aircraftId,
    e.status ≠ .rejected ∧ e.verificationStatus ≠ .rejected
  workOrders : ∀ w ∈ openWorkOrders db org assetId decision.aircraftId,
    ¬ProactiveService.Blocked db org w
  aog : hasActiveAog db org assetId = false

section Chain

variable {fl : ℚ → ℚ} {db : Database} {now : DateTime} {today : Date} {org assetId : UUID}
  {state : AerospaceIntelligenceState} {decision : AssetDecision}

theorem decide_eq_noAction {priority : AssetPriorityIntelligence}
    (h : decide priority = .noActionRequired) :
    priority.readinessState = .ready ∧ priority.warningCount = 0 := by
  rw [decide] at h
  split at h
  · cases h
  · rename_i hknown
    split at h
    · cases h
    · split at h
      · cases h
      · rename_i hblocked
        split at h
        · cases h
        · rename_i hcount
          refine ⟨?_, Nat.eq_zero_of_not_pos hcount⟩
          cases hreadiness : priority.readinessState with
          | ready => rfl
          | blocked => exact absurd hreadiness hblocked
          | unknown => exact absurd (Or.inl hreadiness) hknown

theorem counts_of_quiet
    (h : evaluateAerospaceIntelligenceState db now org assetId false false = .ok state)
    (hno : ¬Alarm db org assetId state.aircraftId) :
    state.findingDimension.findingsCritical = 0 ∧
      state.complianceDimension.obligationsOverdue = 0 ∧
      state.evidenceDimension.evidenceMissing = 0 ∧
      state.evidenceDimension.evidenceRejected = 0 ∧
      isGroundingState state.operationalDimension.operationalState = false := by
  obtain ⟨asset, hget, h⟩ := bind_eq_ok.1 h
  obtain ⟨aircraft, -, h⟩ := bind_eq_ok.1 h
  cases h
  refine ⟨?_, ?_, ?_, ?_, ?_⟩
  · refine List.countP_eq_zero.2 fun f hf hcounted => ?_
    rw [Bool.and_eq_true, decide_eq_true_eq, decide_eq_true_eq] at hcounted
    exact hno (.finding f (List.mem_of_mem_filter hf) hcounted.2)
  · refine List.countP_eq_zero.2 fun ob hob hcounted => ?_
    exact hno (.obligation ob hob (Or.inr (Or.inl (of_decide_eq_true hcounted))))
  · refine List.countP_eq_zero.2 fun ob hob hcounted => ?_
    obtain ⟨hob, hrequiring⟩ := List.mem_filter.1 hob
    exact hno (.missing ob hob hrequiring hcounted)
  · refine Nat.add_eq_zero_iff.2 ⟨List.countP_eq_zero.2 fun e he hcounted => ?_,
      List.countP_eq_zero.2 fun e he hcounted => ?_⟩
    · exact hno (.evidence e he (Bool.or_eq_true_iff.2 (Or.inr hcounted)))
    · exact hno (.evidence e he (Bool.or_eq_true_iff.2 (Or.inl hcounted)))
  · refine Bool.eq_false_iff.2 fun hground => ?_
    exact hno (.operational asset hget (Or.inl hground))

theorem hasActiveAog_of_quiet {asset : Asset} {aircraftId : Option UUID}
    (hget : db.getAsset org assetId = .ok asset) (hno : ¬Alarm db org assetId aircraftId) :
    hasActiveAog db org assetId = false := by
  refine Bool.eq_false_iff.2 fun haog => hno (.operational asset hget ?_)
  have hfound := (mem_of_oneOrRaise hget).2
  simp only [Bool.and_eq_true, decide_eq_true_eq] at hfound
  rw [← hfound.1.1] at haog
  rw [computeOperationalState]
  by_cases hretired : asset.status = AssetLifecycleStatus.retired
  · rw [if_pos hretired]
    exact Or.inr rfl
  · rw [if_neg hretired]
    by_cases harchived : asset.status = AssetLifecycleStatus.archived
    · rw [if_pos harchived]
      exact Or.inr rfl
    · rw [if_neg harchived, if_pos haog]
      exact Or.inl rfl

/-- **A CLEAN VERDICT IS CLEAN ALL THE WAY DOWN**: NO_ACTION_REQUIRED is said only of an asset that
is READY, at LOW risk and priority, with no blocker, no warning and nothing counted; and READY only
with an empty list of blockers. -/
theorem no_action_clean (h : getAssetDecision fl db now today org assetId = .ok decision) :
    (decision.decisionState = .noActionRequired →
        Clean fl db now today org assetId decision) ∧
      (decision.readinessState = .ready → decision.blockers = []) := by
  obtain ⟨priority, hpriority, h⟩ := bind_eq_ok.1 h
  cases h
  obtain ⟨readiness, hreadiness, hpriority⟩ := bind_eq_ok.1 hpriority
  obtain ⟨risk, hrisk, hpriority⟩ := bind_eq_ok.1 hpriority
  obtain ⟨state, hstate, hpriority⟩ := bind_eq_ok.1 hpriority
  cases hpriority
  refine ⟨fun hnoAction => ?_, blockers_eq_nil_of_ready hreadiness⟩
  obtain ⟨hready, hcount⟩ := decide_eq_noAction hnoAction
  obtain ⟨state', hfacts⟩ := readyFacts_of_ready hreadiness hready
  -- the state is evaluated again for the warnings, over the same rows
  obtain rfl : state' = state := Except.ok.inj (hfacts.evaluated.symm.trans hstate)
  have hwarnings : state'.warnings = [] := List.length_eq_zero_iff.1 hcount
  have hnominal := nominal_of_no_warning hstate hfacts.status hfacts.known hwarnings
  obtain ⟨hquiet, -⟩ := (state_nominal hstate).1 hnominal
  obtain ⟨hfindings, hobligations, hmissing, hrejected, hground⟩ := counts_of_quiet hstate hquiet
  have hcounted : NothingCounted readiness.contributingFactors := by
    rw [hfacts.factors]
    refine ⟨hfacts.status, hfacts.known, hfindings, hobligations, hmissing, hrejected, rfl, ?_⟩
    intro haog
    have haog : state'.operationalDimension.operationalState = .aog := haog
    rw [haog] at hground
    cases hground
  have hrisk : risk.riskLevel = .low := by
    obtain ⟨readiness', hreadiness', hrisk⟩ := bind_eq_ok.1 hrisk
    cases hreadiness.symm.trans hreadiness'
    cases hrisk
    exact gradeRisk_eq_low.2 hcounted
  obtain ⟨asset, hget, -⟩ := bind_eq_ok.1 hstate
  have hescalation : escalation risk.riskLevel readiness.blockers.length = none := by
    rw [hfacts.blockers]
    rfl
  exact
    { readinessState := hready
      riskLevel := hrisk
      priorityLevel := by
        show (escalation risk.riskLevel readiness.blockers.length).getD risk.riskLevel = .low
        rw [hescalation]
        exact hrisk
      blockers := hfacts.blockers
      warnings := by
        show state'.warnings.map warningRef = []
        rw [hwarnings]
        rfl
      counted := ⟨readiness, hreadiness, hcounted⟩
      findings := fun f hf => by_contra fun hopen => hquiet (.finding f hf hopen)
      obligations := fun ob hob hoverdue =>
        hquiet (.obligation ob hob (Or.inr (Or.inl hoverdue)))
      missing := fun ob hob hrequiring => by
        by_contra hnone
        refine hquiet (.missing ob hob hrequiring ?_)
        rw [hasNoEvidence, Bool.not_eq_true', List.any_eq_false]
        exact fun e he hlinked => hnone ⟨e, he, of_decide_eq_true hlinked⟩
      rejected := fun e he =>
        ⟨fun hstatus => hquiet (.evidence e he
            (Bool.or_eq_true_iff.2 (Or.inr (decide_eq_true hstatus)))),
          fun hstatus => hquiet (.evidence e he
            (Bool.or_eq_true_iff.2 (Or.inl (decide_eq_true hstatus))))⟩
      workOrders := hfacts.workOrders
      aog := hasActiveAog_of_quiet hget hquiet }

/-- An asset whose one obligation is met needs no action. -/
theorem no_action_clean_compliant :
    ∃ decision, getAssetDecision id (oneObligation ComplianceState.compliant) 0 0 1 3
        = .ok decision ∧
      decision.decisionState = .noActionRequired ∧
      Clean id (oneObligation ComplianceState.compliant) 0 0 1 3 decision := by
  refine ⟨_, rfl, rfl, (no_action_clean rfl).1 rfl⟩

end Chain

end DecisionService

end AeroComply
