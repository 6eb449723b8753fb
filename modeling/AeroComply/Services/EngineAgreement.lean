import AeroComply.Services.AerospaceState
import AeroComply.Services.ComplianceIntelligence

/-!
# EngineAgreement — two verdicts over the same rows

The readiness contribution and the intelligence state both derive blockers from
the obligations, findings, evidence and inspections of an asset, each with its
own queries and conditions.  A row that blocks blocks in both engines
(`SharedBlock`), only in the contribution (`ContributionOnlyBlock`) or only in the
intelligence state (`IntelligenceOnlyBlock`); the verdicts agree on a live asset
exactly when a shared row blocks, or the other two kinds occur together or not
at all.
-/

namespace AeroComply

open Relational (Table)

namespace EngineAgreement

open AssetRecords ObligationService
open Triage (Outcome Report)
open ComplianceIntelligenceService (BlockingRow InspectionBlocks isSevere isSafetySignificant
  evidenceItemsOf lacksEvidence getAssetComplianceReadinessContribution contribution_blocked)
open AerospaceStateService (IntelligenceBlocker IntelligenceReport hasNoEvidence isRiiPending
  isRequiringEvidence inspectionRowsOf fullReport evaluateAerospaceIntelligenceState)

/-! ## The kinds of blocking rows -/

/-- The status blocks in both engines. -/
def StatusBlocks (ob : ComplianceObligation) : Prop :=
  ob.status = ComplianceState.nonCompliant ∨ ob.status = ComplianceState.overdue
    ∨ ob.status = ComplianceState.blocked

/-- Required evidence that no row of the organization provides. -/
def WithoutEvidence (db : Database) (today : Date) (org assetId : UUID) (aircraftId : Option UUID)
    (ob : ComplianceObligation) : Prop :=
  isPastDue today ob.dueDate = false ∧ requiresEvidence ob = true ∧
    lacksEvidence (evidenceItemsOf db org assetId aircraftId
      (obligationsOf db org assetId aircraftId)) ob = true

/-- A row that blocks in both engines. -/
inductive SharedBlock (db : Database) (today : Date) (org assetId : UUID)
    (aircraftId : Option UUID) : Prop
  | obligation (ob : ComplianceObligation) (hmem : ob ∈ obligationsOf db org assetId aircraftId)
      (h : StatusBlocks ob)
  | finding (f : Finding) (hmem : f ∈ findingsOf db org assetId aircraftId)
      (hopen : f.status ≠ .closed) (h : isSevere f = true ∨ isSafetySignificant f = true)
  | evidence (e : Evidence) (hmem : e ∈ directEvidenceOf db org assetId aircraftId)
      (h : isRejected e = true)
  | missing (ob : ComplianceObligation) (hmem : ob ∈ obligationsOf db org assetId aircraftId)
      (hdue : ob.status = ComplianceState.due)
      (h : WithoutEvidence db today org assetId aircraftId ob)
  | inspection (i : InspectionRequirement)
      (hmem : i ∈ inspectionsOf db org assetId aircraftId) (horg : i.organizationId = org)
      (h : i.status = .rejected ∨ isRiiPending i = true)

/-- A row that blocks only in the readiness contribution: past due, in progress, reached
through an obligation, of a foreign organization, or with an inspector assigned. -/
inductive ContributionOnlyBlock (db : Database) (today : Date) (org assetId : UUID)
    (aircraftId : Option UUID) : Prop
  | pastDue (ob : ComplianceObligation) (hmem : ob ∈ obligationsOf db org assetId aircraftId)
      (hdue : isPastDue today ob.dueDate = true) (hopen : ob.status ≠ ComplianceState.compliant)
      (hstatus : ¬StatusBlocks ob)
  | missing (ob : ComplianceObligation) (hmem : ob ∈ obligationsOf db org assetId aircraftId)
      (hprogress : ob.status = ComplianceState.inProgress)
      (h : WithoutEvidence db today org assetId aircraftId ob)
  | evidence (e : Evidence)
      (hmem : e ∈ evidenceItemsOf db org assetId aircraftId
        (obligationsOf db org assetId aircraftId))
      (hlink : e ∉ directEvidenceOf db org assetId aircraftId) (h : isRejected e = true)
  | foreignInspection (i : InspectionRequirement)
      (hmem : i ∈ inspectionsOf db org assetId aircraftId) (horg : i.organizationId ≠ org)
      (h : InspectionBlocks i)
  | assignedInspection (i : InspectionRequirement)
      (hmem : i ∈ inspectionsOf db org assetId aircraftId) (horg : i.organizationId = org)
      (hreq : i.required = true) (hpending : i.status = .pending)
      (hassigned : i.inspectorUserId.isSome = true)

/-- A row that blocks only in the intelligence state: a limitation, or evidence required of a
due obligation that the contribution does not miss. -/
inductive IntelligenceOnlyBlock (db : Database) (today : Date) (org assetId : UUID)
    (aircraftId : Option UUID) : Prop
  | finding (f : Finding) (hmem : f ∈ findingsOf db org assetId aircraftId)
      (hopen : f.status ≠ .closed) (hsevere : isSevere f = false)
      (h : f.safetySignificance = some "AIRWORTHINESS_LIMITATION")
  | missing (ob : ComplianceObligation) (hmem : ob ∈ obligationsOf db org assetId aircraftId)
      (hdue : ob.status = ComplianceState.due) (hreq : ob.evidenceRequirements.isSome = true)
      (h : hasNoEvidence (directEvidenceOf db org assetId aircraftId) ob = true)
      (hnot : ¬WithoutEvidence db today org assetId aircraftId ob)

section Rows

variable {db : Database} {today : Date} {org assetId : UUID} {aircraftId : Option UUID}

/-! ## The contribution -/

variable {includeClosed : Bool} {e : Evidence}

theorem directEvidence_sub {obligations : List ComplianceObligation}
    (h : e ∈ directEvidenceOf db org assetId aircraftId) :
    e ∈ evidenceItemsOf db org assetId aircraftId obligations := by
  obtain ⟨hmem, hp⟩ := Table.mem_select.1 h
  refine Table.mem_select.2 ⟨hmem, ?_⟩
  simp only [Bool.and_eq_true, decide_eq_true_eq] at hp
  simp [hp.1, hp.2]

theorem shared_or_contributionOnly (h : BlockingRow db today org assetId aircraftId) :
    SharedBlock db today org assetId aircraftId ∨
      ContributionOnlyBlock db today org assetId aircraftId := by
  cases h with
  | obligation ob hmem h =>
    by_cases hst : StatusBlocks ob
    · exact Or.inl (.obligation ob hmem hst)
    · rcases h with h | h | h | ⟨hdue, hopen⟩
      · exact absurd (Or.inl h) hst
      · exact absurd (Or.inr (Or.inl h)) hst
      · exact absurd (Or.inr (Or.inr h)) hst
      · exact Or.inr (.pastDue ob hmem hdue hopen hst)
  | finding f hmem hopen h => exact Or.inl (.finding f hmem hopen h)
  | evidence e hmem h =>
    by_cases hlink : e ∈ directEvidenceOf db org assetId aircraftId
    · exact Or.inl (.evidence e hlink h)
    · exact Or.inr (.evidence e hmem hlink h)
  | missing ob hmem h =>
    obtain ⟨hdue | hprogress, h⟩ := h
    · exact Or.inl (.missing ob hmem hdue h)
    · exact Or.inr (.missing ob hmem hprogress h)
  | inspection i hmem h =>
    by_cases horg : i.organizationId = org
    · rcases h with h | ⟨hreq, hpending⟩
      · exact Or.inl (.inspection i hmem horg (Or.inl h))
      · cases hassigned : i.inspectorUserId.isSome with
        | true => exact Or.inr (.assignedInspection i hmem horg hreq hpending hassigned)
        | false =>
          refine Or.inl (.inspection i hmem horg (Or.inr ?_))
          simp [isRiiPending, hreq, hpending, Option.isSome_eq_false_iff.1 hassigned]
    · exact Or.inr (.foreignInspection i hmem horg h)

theorem SharedBlock.blockingRow (h : SharedBlock db today org assetId aircraftId) :
    BlockingRow db today org assetId aircraftId := by
  cases h with
  | obligation ob hmem h =>
    refine .obligation ob hmem ?_
    rcases h with h | h | h
    · exact Or.inl h
    · exact Or.inr (Or.inl h)
    · exact Or.inr (Or.inr (Or.inl h))
  | finding f hmem hopen h => exact .finding f hmem hopen h
  | evidence e hmem h => exact .evidence e (directEvidence_sub hmem) h
  | missing ob hmem hdue h => exact .missing ob hmem ⟨Or.inl hdue, h⟩
  | inspection i hmem horg h =>
    refine .inspection i hmem ?_
    rcases h with h | h
    · exact Or.inl h
    · simp only [isRiiPending, Bool.and_eq_true, decide_eq_true_eq] at h
      exact Or.inr h.1

theorem ContributionOnlyBlock.blockingRow
    (h : ContributionOnlyBlock db today org assetId aircraftId) :
    BlockingRow db today org assetId aircraftId := by
  cases h with
  | pastDue ob hmem hdue hopen hstatus =>
    exact .obligation ob hmem (Or.inr (Or.inr (Or.inr ⟨hdue, hopen⟩)))
  | missing ob hmem hprogress h => exact .missing ob hmem ⟨Or.inr hprogress, h⟩
  | evidence e hmem hlink h => exact .evidence e hmem h
  | foreignInspection i hmem horg h => exact .inspection i hmem h
  | assignedInspection i hmem horg hreq hpending hassigned =>
    exact .inspection i hmem (Or.inr ⟨hreq, hpending⟩)

theorem blockingRow_iff :
    BlockingRow db today org assetId aircraftId ↔
      SharedBlock db today org assetId aircraftId ∨
        ContributionOnlyBlock db today org assetId aircraftId := by
  constructor
  · exact shared_or_contributionOnly
  · rintro (h | h)
    · exact h.blockingRow
    · exact h.blockingRow

variable {r : IntelligenceReport} {ob : ComplianceObligation} {asset : Asset}

theorem WithoutEvidence.hasNoEvidence (h : WithoutEvidence db today org assetId aircraftId ob) :
    hasNoEvidence (directEvidenceOf db org assetId aircraftId) ob = true := by
  obtain ⟨-, -, hlacks⟩ := h
  simp only [lacksEvidence, Bool.not_eq_true', List.any_eq_false] at hlacks
  simp only [AerospaceStateService.hasNoEvidence, Bool.not_eq_true', List.any_eq_false]
  exact fun e he => hlacks e (directEvidence_sub he)

theorem WithoutEvidence.isSome (h : WithoutEvidence db today org assetId aircraftId ob) :
    ob.evidenceRequirements.isSome = true := by
  obtain ⟨-, hreq, -⟩ := h
  rw [requiresEvidence] at hreq
  cases hjson : ob.evidenceRequirements with
  | some json => rfl
  | none =>
    rw [hjson] at hreq
    cases hreq

/-! ## The intelligence state -/

def IsComplianceBlocker (b : IntelligenceBlocker) : Prop := b.dimension ≠ .operational

theorem operational_not_blocks {state : OperationalState} :
    ¬(AerospaceStateService.operationalOutcome assetId aircraftId asset state).Blocks
      IsComplianceBlocker := by
  simp only [AerospaceStateService.operationalOutcome, Outcome.blocks_ite,
    Outcome.not_blocks_pass, Outcome.blocks_block, IsComplianceBlocker]
  tauto

theorem obligation_blocks :
    (AerospaceStateService.obligationOutcome db org assetId aircraftId ob).Blocks
      IsComplianceBlocker ↔ StatusBlocks ob := by
  simp only [AerospaceStateService.obligationOutcome, Outcome.blocks_ite,
    Outcome.not_blocks_pass, Outcome.not_blocks_warn, Outcome.blocks_block, StatusBlocks,
    IsComplianceBlocker, AerospaceStateService.complianceBlocker, ne_eq, reduceCtorEq,
    not_false_eq_true]
  by_cases hc : ob.status = ComplianceState.compliant
  · rw [hc]
    decide
  · tauto

theorem evidence_blocks :
    (AerospaceStateService.evidenceOutcome assetId aircraftId e).Blocks IsComplianceBlocker ↔
      isRejected e = true := by
  simp only [AerospaceStateService.evidenceOutcome, Outcome.blocks_ite, Outcome.not_blocks_pass,
    Outcome.blocks_block, IsComplianceBlocker, ne_eq, reduceCtorEq, not_false_eq_true,
    isRejected, Bool.or_eq_true, decide_eq_true_eq]
  tauto

theorem missing_blocks {rows : List Evidence} :
    (AerospaceStateService.missingEvidenceOutcome db org assetId aircraftId rows ob).Blocks
      IsComplianceBlocker ↔ hasNoEvidence rows ob = true := by
  simp only [AerospaceStateService.missingEvidenceOutcome, Outcome.blocks_ite,
    Outcome.not_blocks_pass, Outcome.blocks_block, IsComplianceBlocker, ne_eq, reduceCtorEq,
    not_false_eq_true]
  tauto

theorem inspection_blocks {i : InspectionRequirement} :
    (AerospaceStateService.inspectionOutcome assetId aircraftId i).Blocks IsComplianceBlocker ↔
      i.status = .rejected ∨ isRiiPending i = true := by
  simp only [AerospaceStateService.inspectionOutcome, Outcome.blocks_ite,
    Outcome.not_blocks_pass, Outcome.blocks_block, IsComplianceBlocker, ne_eq, reduceCtorEq,
    not_false_eq_true]
  tauto

theorem finding_blocks {f : Finding} :
    (AerospaceStateService.findingOutcome assetId aircraftId f).Blocks IsComplianceBlocker ↔
      f.status ≠ .closed ∧ ((isSevere f = true ∨ isSafetySignificant f = true) ∨
        f.safetySignificance = some "AIRWORTHINESS_LIMITATION") := by
  have hcategory : AerospaceStateService.findingCategory f = none ↔
      ¬((isSevere f = true ∨ isSafetySignificant f = true) ∨
        f.safetySignificance = some "AIRWORTHINESS_LIMITATION") := by
    simp only [AerospaceStateService.findingCategory, ite_eq_iff, reduceCtorEq, isSevere,
      isSafetySignificant, Bool.or_eq_true, decide_eq_true_eq]
    tauto
  rw [AerospaceStateService.findingOutcome, Outcome.blocks_ite]
  cases hcat : AerospaceStateService.findingCategory f with
  | none =>
    have hnot := hcategory.1 hcat
    simp only [Outcome.not_blocks_pass, Outcome.not_blocks_warn]
    tauto
  | some category =>
    have hblock := not_not.1 (mt hcategory.2 (by rw [hcat]; exact Option.some_ne_none category))
    simp only [Outcome.not_blocks_pass, Outcome.blocks_block, IsComplianceBlocker, ne_eq,
      reduceCtorEq, not_false_eq_true]
    tauto

theorem pendingWarning_blocked {n : Nat} :
    (AerospaceStateService.pendingWarning assetId n r).Blocked IsComplianceBlocker ↔
      r.Blocked IsComplianceBlocker := by
  rw [AerospaceStateService.pendingWarning]
  split
  case isTrue =>
    show (∃ b ∈ r.blockers ++ [], IsComplianceBlocker b) ↔ _
    rw [List.append_nil]
    rfl
  case isFalse => rfl

/-! What each dimension adds to the report. -/

theorem operationalDimension_blocked :
    (AerospaceStateService.evaluateOperationalDimension db org assetId aircraftId asset
      r).2.Blocked IsComplianceBlocker ↔ r.Blocked IsComplianceBlocker := by
  show (Report.scan _ [computeOperationalState db org asset] _).Blocked _ ↔ _
  rw [Report.blocked_scan, Report.blocked_reset]
  refine or_iff_left ?_
  rintro ⟨state, -, h⟩
  exact operational_not_blocks h

theorem complianceDimension_blocked :
    (AerospaceStateService.evaluateComplianceDimension db org assetId aircraftId r).2.Blocked
      IsComplianceBlocker ↔ r.Blocked IsComplianceBlocker ∨
        ∃ ob ∈ obligationsOf db org assetId aircraftId, StatusBlocks ob := by
  show (Report.scan _ (obligationsOf db org assetId aircraftId) _).Blocked _ ↔ _
  simp only [Report.blocked_scan, Report.blocked_reset, obligation_blocks]

theorem evidenceDimension_blocked :
    (AerospaceStateService.evaluateEvidenceDimension db org assetId aircraftId r).2.Blocked
      IsComplianceBlocker ↔
        (r.Blocked IsComplianceBlocker ∨
          ∃ e ∈ directEvidenceOf db org assetId aircraftId, isRejected e = true) ∨
        ∃ ob ∈ (obligationsOf db org assetId aircraftId).filter isRequiringEvidence,
          hasNoEvidence (directEvidenceOf db org assetId aircraftId) ob = true := by
  show (Report.scan _ ((obligationsOf db org assetId aircraftId).filter _)
    (Report.scan _ (directEvidenceOf db org assetId aircraftId) _)).Blocked _ ↔ _
  simp only [Report.blocked_scan, Report.blocked_reset, evidence_blocks, missing_blocks]

/-- Without a live work order there is no inspection, so the early return loses nothing. -/
theorem inspectionDimension_blocked :
    (AerospaceStateService.evaluateInspectionDimension db org assetId aircraftId r).2.Blocked
      IsComplianceBlocker ↔ r.Blocked IsComplianceBlocker ∨
        ∃ i ∈ inspectionRowsOf db org assetId aircraftId,
          i.status = .rejected ∨ isRiiPending i = true := by
  rw [AerospaceStateService.evaluateInspectionDimension]
  split
  case isTrue hnone =>
    have hrows := AerospaceStateService.inspectionRowsOf_eq_nil hnone
    rw [hrows]
    refine (or_iff_left ?_).symm
    rintro ⟨i, hi, -⟩
    cases hi
  case isFalse =>
    show (AerospaceStateService.pendingWarning assetId _ (Report.scan _
      (inspectionRowsOf db org assetId aircraftId) _)).Blocked _ ↔ _
    simp only [pendingWarning_blocked, Report.blocked_scan, Report.blocked_reset,
      inspection_blocks]

theorem findingDimension_blocked :
    (AerospaceStateService.evaluateFindingDimension db org assetId aircraftId includeClosed
      r).2.Blocked IsComplianceBlocker ↔ r.Blocked IsComplianceBlocker ∨
        ∃ f ∈ findingsOf db org assetId aircraftId, f.status ≠ .closed ∧
          ((isSevere f = true ∨ isSafetySignificant f = true) ∨
            f.safetySignificance = some "AIRWORTHINESS_LIMITATION") := by
  show (Report.scan _ ((findingsOf db org assetId aircraftId).filter _) _).Blocked _ ↔ _
  simp only [Report.blocked_scan, Report.blocked_reset, finding_blocks]
  refine or_congr_right (exists_congr (fun f => ?_))
  -- a finding that blocks is open, so it is never left out
  constructor
  · rintro ⟨hmem, h⟩
    exact ⟨(List.mem_filter.1 hmem).1, h⟩
  · rintro ⟨hmem, hopen, h⟩
    exact ⟨List.mem_filter.2 ⟨hmem, by simp [hopen]⟩, hopen, h⟩

/-- **BLOCKERS**: the intelligence state has a blocker outside the operational dimension
exactly when a shared row or one of its own blocks. -/
theorem fullReport_blocked (today : Date) :
    (fullReport db org assetId aircraftId asset includeClosed).Blocked IsComplianceBlocker ↔
      SharedBlock db today org assetId aircraftId ∨
        IntelligenceOnlyBlock db today org assetId aircraftId := by
  have hstart : ¬({} : IntelligenceReport).Blocked IsComplianceBlocker := by
    rintro ⟨b, hb, -⟩
    cases hb
  simp only [fullReport, findingDimension_blocked, inspectionDimension_blocked,
    evidenceDimension_blocked, complianceDimension_blocked, operationalDimension_blocked, hstart,
    false_or]
  constructor
  · rintro ((((⟨ob, hmem, h⟩ | ⟨e, hmem, h⟩) | ⟨ob, hmem, h⟩) | ⟨i, hmem, h⟩) |
      ⟨f, hmem, hopen, h⟩)
    · exact Or.inl (.obligation ob hmem h)
    · exact Or.inl (.evidence e hmem h)
    · obtain ⟨hmem, hreq⟩ := List.mem_filter.1 hmem
      simp only [isRequiringEvidence, Bool.and_eq_true, Bool.or_eq_true,
        decide_eq_true_eq] at hreq
      obtain ⟨hsome, (hdue | hoverdue) | hnon⟩ := hreq
      · by_cases hw : WithoutEvidence db today org assetId aircraftId ob
        · exact Or.inl (.missing ob hmem hdue hw)
        · exact Or.inr (.missing ob hmem hdue hsome h hw)
      · exact Or.inl (.obligation ob hmem (Or.inr (Or.inl hoverdue)))
      · exact Or.inl (.obligation ob hmem (Or.inl hnon))
    · obtain ⟨hmem, horg⟩ := List.mem_filter.1 hmem
      exact Or.inl (.inspection i hmem (of_decide_eq_true horg) h)
    · rcases h with h | h
      · exact Or.inl (.finding f hmem hopen h)
      · cases hsevere : isSevere f with
        | true => exact Or.inl (.finding f hmem hopen (Or.inl hsevere))
        | false => exact Or.inr (.finding f hmem hopen hsevere h)
  · rintro (h | h)
    · cases h with
      | obligation ob hmem h => exact Or.inl (Or.inl (Or.inl (Or.inl ⟨ob, hmem, h⟩)))
      | finding f hmem hopen h => exact Or.inr ⟨f, hmem, hopen, Or.inl h⟩
      | evidence e hmem h => exact Or.inl (Or.inl (Or.inl (Or.inr ⟨e, hmem, h⟩)))
      | missing ob hmem hdue h =>
        refine Or.inl (Or.inl (Or.inr ⟨ob, List.mem_filter.2 ⟨hmem, ?_⟩, h.hasNoEvidence⟩))
        simp [isRequiringEvidence, hdue, h.isSome]
      | inspection i hmem horg h =>
        exact Or.inl (Or.inr ⟨i, List.mem_filter.2 ⟨hmem, decide_eq_true horg⟩, h⟩)
    · cases h with
      | finding f hmem hopen hsevere h => exact Or.inr ⟨f, hmem, hopen, Or.inr h⟩
      | missing ob hmem hdue hreq h hnot =>
        refine Or.inl (Or.inl (Or.inr ⟨ob, List.mem_filter.2 ⟨hmem, ?_⟩, h⟩))
        simp [isRequiringEvidence, hdue, hreq]

end Rows

/-! ## When the verdicts agree -/

/-- The rows of an asset block alike: on a live asset a shared row blocks, or the rows of one
engine alone and those of the other occur together; without a live asset, where the
intelligence state is not derived, nothing of the contribution blocks. -/
structure RowsAgree (db : Database) (today : Date) (org assetId : UUID)
    (aircraftId : Option UUID) : Prop where
  live : ∀ asset, db.getAsset org assetId = .ok asset →
    SharedBlock db today org assetId aircraftId ∨
      (ContributionOnlyBlock db today org assetId aircraftId ↔
        IntelligenceOnlyBlock db today org assetId aircraftId)
  gone : ∀ e, db.getAsset org assetId = .error e →
    ¬SharedBlock db today org assetId aircraftId ∧
      ¬ContributionOnlyBlock db today org assetId aircraftId

section Agreement

variable {db : Database} {now : DateTime} {today : Date} {org assetId : UUID}
  {includeClosed includeSource : Bool}

theorem blocked_contribution_iff {aircraft : Option Aircraft}
    (hair : aircraftOf db org assetId = .ok aircraft) :
    (∃ c, getAssetComplianceReadinessContribution db now today org assetId = .ok c ∧
      c.overallStatus = .blocked) ↔
      BlockingRow db today org assetId (aircraft.map Aircraft.id) := by
  obtain ⟨c, hc, hid⟩ : ∃ c,
      getAssetComplianceReadinessContribution db now today org assetId = .ok c ∧
        c.aircraftId = aircraft.map Aircraft.id := by
    refine ⟨_, bind_eq_ok.2 ⟨aircraft, hair, rfl⟩, rfl⟩
  rw [← hid, ← contribution_blocked hc]
  constructor
  · rintro ⟨c', hc', h⟩
    rw [hc] at hc'
    cases hc'
    exact h
  · intro h
    exact ⟨c, hc, h⟩

theorem blocked_state_iff {asset : Asset} {aircraft : Option Aircraft}
    (hget : db.getAsset org assetId = .ok asset) (hair : aircraftOf db org assetId = .ok aircraft) :
    (∃ s, evaluateAerospaceIntelligenceState db now org assetId includeClosed includeSource
        = .ok s ∧ ∃ b ∈ s.blockers, b.dimension ≠ .operational) ↔
      (fullReport db org assetId (aircraft.map Aircraft.id) asset includeClosed).Blocked
        IsComplianceBlocker := by
  have hs : evaluateAerospaceIntelligenceState db now org assetId includeClosed includeSource
      = .ok (AerospaceStateService.stateOf db now org assetId (aircraft.map Aircraft.id) asset
          includeClosed includeSource) :=
    bind_eq_ok.2 ⟨asset, hget, bind_eq_ok.2 ⟨aircraft, hair, rfl⟩⟩
  constructor
  · rintro ⟨s, hs', h⟩
    rw [hs] at hs'
    cases hs'
    exact h
  · intro h
    exact ⟨_, hs, h⟩

/-- **THE ENGINES AGREE**: the contribution is BLOCKED exactly when the intelligence state has
a blocker outside the operational dimension, if and only if the rows of the asset block
alike. -/
theorem engines_agree_iff :
    ((∃ c, getAssetComplianceReadinessContribution db now today org assetId = .ok c ∧
        c.overallStatus = .blocked) ↔
      ∃ s, evaluateAerospaceIntelligenceState db now org assetId includeClosed includeSource
        = .ok s ∧ ∃ b ∈ s.blockers, b.dimension ≠ .operational) ↔
    ∀ aircraft, aircraftOf db org assetId = .ok aircraft →
      RowsAgree db today org assetId (aircraft.map Aircraft.id) := by
  cases hair : aircraftOf db org assetId with
  | error e =>
    -- several aircraft on record: both engines raise
    refine iff_of_true (iff_of_false ?_ ?_) (fun aircraft h => nomatch h)
    · rintro ⟨c, hc, -⟩
      obtain ⟨aircraft, h, -⟩ := bind_eq_ok.1 hc
      rw [hair] at h
      cases h
    · rintro ⟨s, hs, -⟩
      obtain ⟨asset, -, hs⟩ := bind_eq_ok.1 hs
      obtain ⟨aircraft, h, -⟩ := bind_eq_ok.1 hs
      rw [hair] at h
      cases h
  | ok aircraft =>
    rw [blocked_contribution_iff hair, blockingRow_iff]
    cases hget : db.getAsset org assetId with
    | error e =>
      have hno : ¬∃ s, evaluateAerospaceIntelligenceState db now org assetId includeClosed
          includeSource = .ok s ∧ ∃ b ∈ s.blockers, b.dimension ≠ .operational := by
        rintro ⟨s, hs, -⟩
        obtain ⟨asset, h, -⟩ := bind_eq_ok.1 hs
        rw [hget] at h
        cases h
      rw [iff_false_right hno, not_or]
      constructor
      · rintro h _ ⟨⟩
        exact ⟨fun asset h' => (nomatch hget.symm.trans h'), fun _ _ => h⟩
      · intro h
        exact (h aircraft rfl).gone e hget
    | ok asset =>
      rw [blocked_state_iff hget hair, fullReport_blocked today]
      constructor
      · rintro h _ ⟨⟩
        refine ⟨fun _ _ => ?_, fun e h' => (nomatch hget.symm.trans h')⟩
        tauto
      · intro h
        have hlive := (h aircraft rfl).live asset hget
        tauto

end Agreement

/-- An asset with one obligation that was due yesterday. -/
def pastDueObligation : Database where
  assets := .single { id := 3, organizationId := 1 }
  requirements := .single
    { id := 2, organizationId := 1, requirementNumber := "AD-1", title := "AD",
      description := "Inspect" }
  obligations := .single
    { id := 4, organizationId := 1, requirementId := 2, assetId := some 3,
      status := ComplianceState.due, dueDate := some 9 }

/-- The contribution blocks on the date, of which the intelligence state takes no notice. -/
theorem past_due_splits_engines :
    ¬((∃ c, getAssetComplianceReadinessContribution pastDueObligation 10 10 1 3 = .ok c ∧
        c.overallStatus = .blocked) ↔
      ∃ s, evaluateAerospaceIntelligenceState pastDueObligation 10 1 3 false true = .ok s ∧
        ∃ b ∈ s.blockers, b.dimension ≠ .operational) := by
  intro h
  obtain ⟨s, hs, b, hb, -⟩ := h.1 ⟨_, rfl, by decide⟩
  cases hs
  cases hb

end EngineAgreement
end AeroComply
