import AeroComply.Services.Decision

/-!
# Recommendation — the next steps for an asset

`app/services/intelligence/recommendation_service.py`, the last stage after readiness, risk,
priority and decision.  A BLOCKED verdict comes from a grounding state, from a count of work orders
or from a count of deployment blockers, and each of them has put a blocker in the list
(`blockers_ne_nil_of_blocked`); a decision that asks for action has one step for each blocker.
-/

namespace AeroComply

open AerospaceStateService AssetRecords ReadinessIntelligenceService
open Triage (Report)

/-! ## What is behind BLOCKED -/

namespace ReadinessIntelligenceService

section Blocked

variable {fl : ℚ → ℚ} {db : Database} {now : DateTime} {today : Date} {org assetId : UUID}
  {aircraftId : Option UUID} {r : IntelligenceReport} {state : AerospaceIntelligenceState}
  {readiness : AssetReadinessIntelligence}

theorem scan_ne_nil {α : Type} {f : α → RowOutcome} (rows : List α) (h : r.blockers ≠ []) :
    (r.scan f rows).blockers ≠ [] := by
  rw [Report.blockers_scan]
  exact List.append_ne_nil_of_left_ne_nil h _

theorem pendingWarning_ne_nil {n : Nat} (h : r.blockers ≠ []) :
    (pendingWarning assetId n r).blockers ≠ [] := by
  rw [pendingWarning]
  split
  · exact List.append_ne_nil_of_left_ne_nil h _
  · exact h

/-! A blocker that is in the report stays there in every dimension that follows. -/

theorem compliance_ne_nil (h : r.blockers ≠ []) :
    (evaluateComplianceDimension db org assetId aircraftId r).2.blockers ≠ [] :=
  scan_ne_nil _ h

theorem evidence_ne_nil (h : r.blockers ≠ []) :
    (evaluateEvidenceDimension db org assetId aircraftId r).2.blockers ≠ [] :=
  scan_ne_nil _ (scan_ne_nil _ h)

theorem inspection_ne_nil (h : r.blockers ≠ []) :
    (evaluateInspectionDimension db org assetId aircraftId r).2.blockers ≠ [] := by
  rw [evaluateInspectionDimension]
  split
  · exact h
  · exact pendingWarning_ne_nil (scan_ne_nil _ h)

variable {includeClosed : Bool} {first : Prop}

theorem finding_ne_nil (h : r.blockers ≠ []) :
    (evaluateFindingDimension db org assetId aircraftId includeClosed r).2.blockers ≠ [] :=
  scan_ne_nil _ h

theorem fullReport_ne_nil {asset : Asset}
    (hground : isGroundingState (computeOperationalState db org asset) = true) :
    (fullReport db org assetId aircraftId asset includeClosed).blockers ≠ [] := by
  refine finding_ne_nil (inspection_ne_nil (evidence_ne_nil (compliance_ne_nil ?_)))
  show (Report.scan _ [computeOperationalState db org asset] _).blockers ≠ []
  rw [Report.blockers_scan, List.filterMap_cons, operationalOutcome, if_pos hground]
  exact List.cons_ne_nil _ _

theorem isGroundingState_of_blocking {operationalState : OperationalState}
    {dimensions : List IntelligenceDimensionStatus} (hnil : r.blockers = [])
    (hstatus : isBlocking (deriveOverallStatus operationalState dimensions r) = true) :
    isGroundingState operationalState = true := by
  rw [deriveOverallStatus, hnil] at hstatus
  cases hground : isGroundingState operationalState with
  | true => rfl
  | false =>
    rw [hground] at hstatus
    cases hdimensions : dimensions.contains .unknown with
    | true =>
      rw [hdimensions] at hstatus
      cases hstatus
    | false =>
      rw [hdimensions] at hstatus
      cases hwarnings : r.warnings.isEmpty with
      | true =>
        rw [hwarnings] at hstatus
        cases hstatus
      | false =>
        rw [hwarnings] at hstatus
        cases hstatus

/-- **A STATUS THAT BLOCKS** shows a blocker. -/
theorem blockers_ne_nil_of_blocking {includeClosed includeSource : Bool}
    (h : evaluateAerospaceIntelligenceState db now org assetId includeClosed includeSource
      = .ok state)
    (hstatus : isBlocking state.aerospaceIntelligenceStatus = true) : state.blockers ≠ [] := by
  obtain ⟨asset, -, h⟩ := bind_eq_ok.1 h
  obtain ⟨aircraft, -, h⟩ := bind_eq_ok.1 h
  cases h
  intro hnil
  exact fullReport_ne_nil (isGroundingState_of_blocking hnil hstatus) hnil

/-- A tally shows a blocker if a work order was counted, or if it showed one at the start. -/
def Shows (first : Prop) (tally : Tally) : Prop :=
  first ∨ 0 < tally.blockedWorkOrderCount → tally.blockers ≠ []

theorem shows_noteWorkOrder {tally tally' : Tally} {w : WorkOrder} (hshows : Shows first tally)
    (h : noteWorkOrder db org tally w = .ok tally') :
    Shows first tally' := by
  obtain ⟨release, hrelease, h⟩ := bind_eq_ok.1 h
  by_cases hblocked : release.status = .blocked
  · rw [if_pos hblocked] at h
    cases h
    have hsome : release.blockers ≠ [] := by
      obtain ⟨workOrder, -, hrelease⟩ := bind_eq_ok.1 hrelease
      cases hrelease
      intro hnil
      have hready : (if (ReleaseReadinessService.blockersOf db org workOrder).isEmpty then
          ReleaseReadinessService.ReadinessStatus.ready else .blocked) = .blocked := hblocked
      rw [List.isEmpty_iff.2 hnil] at hready
      cases hready
    intro _ hnil
    rw [List.append_eq_nil_iff, List.map_eq_nil_iff] at hnil
    exact hsome hnil.2
  · rw [if_neg hblocked] at h
    cases h
    exact hshows

theorem shows_noteWorkOrders {rows : List WorkOrder} {tally tally' : Tally}
    (hshows : Shows first tally) (h : rows.foldlM (noteWorkOrder db org) tally = .ok tally') :
    Shows first tally' := by
  induction rows generalizing tally with
  | nil =>
    cases h
    exact hshows
  | cons w rows ih =>
    rw [List.foldlM_cons] at h
    obtain ⟨next, hnext, hrest⟩ := bind_eq_ok.1 h
    exact ih (shows_noteWorkOrder hshows hnext) hrest

/-- **BLOCKED** is said only with a blocker in the list. -/
theorem blockers_ne_nil_of_blocked
    (h : getAssetReadinessIntelligence fl db now today org assetId = .ok readiness)
    (hblocked : readiness.readinessState = .blocked) : readiness.blockers ≠ [] := by
  obtain ⟨asset, -, h⟩ := bind_eq_ok.1 h
  obtain ⟨state, hstate, h⟩ := bind_eq_ok.1 h
  obtain ⟨tally, htally, h⟩ := bind_eq_ok.1 h
  obtain ⟨deployment, -, h⟩ := bind_eq_ok.1 h
  cases h
  have hstart : Shows (isBlocking state.aerospaceIntelligenceStatus = true)
      { blockedWorkOrderCount := 0, blockers := state.blockers.map aerospaceBlocker } := by
    rintro (hstatus | hcount)
    · exact fun hnil => blockers_ne_nil_of_blocking hstate hstatus (List.map_eq_nil_iff.1 hnil)
    · exact absurd hcount (Nat.lt_irrefl 0)
  have htally := shows_noteWorkOrders hstart htally
  have hcause : isBlocking state.aerospaceIntelligenceStatus = true ∨
      0 < tally.blockedWorkOrderCount ∨ 0 < (deploymentTexts deployment).length := by
    have hderived : readinessStateOf state.aerospaceIntelligenceStatus
        tally.blockedWorkOrderCount (deploymentTexts deployment).length = .blocked := hblocked
    by_contra hnone
    rw [readinessStateOf, if_neg (by simpa using hnone)] at hderived
    split at hderived
    · cases hderived
    · cases hderived
  intro hnil
  obtain ⟨hblockers, htexts⟩ := List.append_eq_nil_iff.1 hnil
  rcases hcause with hstatus | hcount | hdeployment
  · exact htally (Or.inl hstatus) hblockers
  · exact htally (Or.inr hcount) hblockers
  · rw [List.map_eq_nil_iff.1 htexts] at hdeployment
    exact absurd hdeployment (Nat.lt_irrefl 0)

end Blocked

end ReadinessIntelligenceService

/-! ## The recommendation -/

namespace RecommendationService

open DecisionService PriorityIntelligenceService RiskIntelligenceService

inductive RecommendationActionCategory
  | obtainMissingInformation
  | performRequiredAction
  | resolveBlocker
  | monitorCondition
  | noActionRequired
  deriving DecidableEq, Repr

structure RecommendationItem where
  actionCategory : RecommendationActionCategory
  action : Message
  resolutionCondition : Option String := none
  sourceBlocker : Option ReadinessIntelligenceBlocker := none

structure AssetRecommendation where
  assetId : UUID
  aircraftId : Option UUID
  recommendationState : DecisionState
  priorityLevel : RiskLevel
  riskLevel : RiskLevel
  readinessState : ReadinessState
  items : List RecommendationItem
  requiredInformation : List String
  blockers : List ReadinessIntelligenceBlocker
  warnings : List IntelligenceWarningRef
  explanation : List Message
  evaluatedAt : DateTime

def blockerDomainPriority : BlockerSourceDomain → Nat
  | .aerospaceState => 0
  | .workOrder => 1
  | .deployment => 2

/-- `sorted(decision.blockers, key=...)`, which is stable. -/
def orderedBlockers (blockers : List ReadinessIntelligenceBlocker) :
    List ReadinessIntelligenceBlocker :=
  blockers.insertionSort fun b b' =>
    blockerDomainPriority b.sourceDomain ≤ blockerDomainPriority b'.sourceDomain

/-- The step for a blocker: the action that its source requires, if it names one. -/
def blockerItem (blocker : ReadinessIntelligenceBlocker) : RecommendationItem :=
  match blocker.requiredAction with
  | some requiredAction =>
    if requiredAction ≠ "" then
      { actionCategory := .performRequiredAction
        action := [.str requiredAction]
        resolutionCondition := blocker.resolutionAction
        sourceBlocker := some blocker }
    else resolveItem
  | none => resolveItem
where
  resolveItem : RecommendationItem :=
    { actionCategory := .resolveBlocker
      action := blocker.description
      sourceBlocker := some blocker }

/-- `items`. -/
def itemsOf (decision : AssetDecision) : List RecommendationItem :=
  match decision.decisionState with
  | .insufficientData =>
    decision.requiredInformation.map fun info =>
      { actionCategory := .obtainMissingInformation, action := [.str info] }
  | .immediateActionRequired | .actionRequired =>
    (orderedBlockers decision.blockers).map blockerItem
  | .monitor =>
    decision.warnings.map fun warning =>
      { actionCategory := .monitorCondition, action := warning.message }
  | .noActionRequired =>
    [{ actionCategory := .noActionRequired, action := [.str "No action required."] }]

def stateValue : DecisionState → String
  | .insufficientData => "INSUFFICIENT_DATA"
  | .immediateActionRequired => "IMMEDIATE_ACTION_REQUIRED"
  | .actionRequired => "ACTION_REQUIRED"
  | .monitor => "MONITOR"
  | .noActionRequired => "NO_ACTION_REQUIRED"

/-- `explanation`. -/
def explanationOf (decision : AssetDecision) : List Message :=
  [.str ("Derived from decision_state=" ++ pyRepr (stateValue decision.decisionState) ++ ".")] ::
    match decision.decisionState with
    | .immediateActionRequired | .actionRequired =>
      [[.count (orderedBlockers decision.blockers).length,
        .str (" blocker(s) preserved, ordered AEROSPACE_STATE -> "
          ++ "WORK_ORDER -> DEPLOYMENT (D2.1's own determination takes precedence).")]]
    | .insufficientData | .monitor | .noActionRequired => []

def getAssetRecommendation (fl : ℚ → ℚ) (db : Database) (now : DateTime) (today : Date)
    (organizationId assetId : UUID) : Except Error AssetRecommendation := do
  let decision ← getAssetDecision fl db now today organizationId assetId
  pure
    { assetId
      aircraftId := decision.aircraftId
      recommendationState := decision.decisionState
      priorityLevel := decision.priorityLevel
      riskLevel := decision.riskLevel
      readinessState := decision.readinessState
      items := itemsOf decision
      requiredInformation := decision.requiredInformation
      blockers := decision.blockers
      warnings := decision.warnings
      explanation := explanationOf decision
      evaluatedAt := now }

section Recommendation

variable {fl : ℚ → ℚ} {db : Database} {now : DateTime} {today : Date} {org assetId : UUID}

def AsksForAction (state : DecisionState) : Prop :=
  state = .actionRequired ∨ state = .immediateActionRequired

@[simp] theorem sourceBlocker_blockerItem (blocker : ReadinessIntelligenceBlocker) :
    (blockerItem blocker).sourceBlocker = some blocker := by
  rw [blockerItem]
  split
  · split
    · rfl
    · rfl
  · rfl

theorem sourceBlockers_itemsOf {decision : AssetDecision}
    (h : AsksForAction decision.decisionState) :
    ((itemsOf decision).map RecommendationItem.sourceBlocker).Perm
      (decision.blockers.map some) := by
  have hitems : itemsOf decision = (orderedBlockers decision.blockers).map blockerItem := by
    rw [itemsOf]
    rcases h with h | h
    · rw [h]
    · rw [h]
  rw [hitems, List.map_map]
  have hsource : RecommendationItem.sourceBlocker ∘ blockerItem = some :=
    funext sourceBlocker_blockerItem
  rw [hsource]
  exact (List.perm_insertionSort _ _).map some

theorem readinessState_of_asksForAction {priority : AssetPriorityIntelligence}
    (h : AsksForAction (DecisionService.decide priority)) : priority.readinessState = .blocked := by
  by_contra hblocked
  have hcritical : ¬(priority.readinessState = .blocked ∧ priority.riskLevel = .critical) :=
    fun hboth => hblocked hboth.1
  rw [AsksForAction, DecisionService.decide] at h
  by_cases hunknown : priority.readinessState = .unknown ∨ priority.riskLevel = .unknown
  · rw [if_pos hunknown] at h
    rcases h with h | h
    · cases h
    · cases h
  · rw [if_neg hunknown, if_neg hcritical, if_neg hblocked] at h
    by_cases hwarnings : 0 < priority.warningCount
    · rw [if_pos hwarnings] at h
      rcases h with h | h
      · cases h
      · cases h
    · rw [if_neg hwarnings] at h
      rcases h with h | h
      · cases h
      · cases h

/-- **A BLOCKED VERDICT NAMES A BLOCKER AND AN ACTION**: a readiness that is BLOCKED shows a blocker,
and a recommendation that asks for action has an item, one for each blocker. -/
theorem blocked_names_action (fl : ℚ → ℚ) (db : Database) (now : DateTime) (today : Date)
    (org assetId : UUID) :
    (∀ readiness, getAssetReadinessIntelligence fl db now today org assetId = .ok readiness →
        readiness.readinessState = .blocked → readiness.blockers ≠ []) ∧
      ∀ recommendation, getAssetRecommendation fl db now today org assetId = .ok recommendation →
        AsksForAction recommendation.recommendationState →
          recommendation.items ≠ [] ∧
            (recommendation.items.map RecommendationItem.sourceBlocker).Perm
              (recommendation.blockers.map some) := by
  refine ⟨fun readiness h => blockers_ne_nil_of_blocked h, ?_⟩
  intro recommendation h hasks
  obtain ⟨decision, hdecision, h⟩ := bind_eq_ok.1 h
  cases h
  have hperm := sourceBlockers_itemsOf hasks
  refine ⟨fun hnil => ?_, hperm⟩
  obtain ⟨priority, hpriority, hdecision⟩ := bind_eq_ok.1 hdecision
  cases hdecision
  obtain ⟨readiness, hreadiness, hpriority⟩ := bind_eq_ok.1 hpriority
  obtain ⟨risk, -, hpriority⟩ := bind_eq_ok.1 hpriority
  obtain ⟨state, -, hpriority⟩ := bind_eq_ok.1 hpriority
  cases hpriority
  have hblocked : readiness.readinessState = .blocked := readinessState_of_asksForAction hasks
  refine blockers_ne_nil_of_blocked hreadiness hblocked ?_
  have hlength := hperm.length_eq
  rw [List.length_map, List.length_map] at hlength
  exact List.length_eq_zero_iff.1 (hlength.symm.trans (List.length_eq_zero_iff.2 hnil))

/-- An asset with an overdue obligation is BLOCKED, and has its one step. -/
theorem overdue_names_action :
    ∃ readiness recommendation,
      getAssetReadinessIntelligence id (oneObligation ComplianceState.overdue) 0 0 1 3
          = .ok readiness ∧
        getAssetRecommendation id (oneObligation ComplianceState.overdue) 0 0 1 3
          = .ok recommendation ∧
        readiness.blockers ≠ [] ∧ recommendation.items ≠ [] := by
  refine ⟨_, _, rfl, rfl, ?_, ?_⟩
  · exact (blocked_names_action id (oneObligation ComplianceState.overdue) 0 0 1 3).1 _ rfl rfl
  · exact ((blocked_names_action id (oneObligation ComplianceState.overdue) 0 0 1 3).2 _ rfl
      (Or.inl rfl)).1

end Recommendation

end RecommendationService
end AeroComply
