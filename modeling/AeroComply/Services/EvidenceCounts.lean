import AeroComply.Services.AerospaceState

/-!
# EvidenceCounts — the counts of the evidence dimension against its blockers

`_evaluate_evidence_dimension` counts the evidence whose status is REJECTED and
the evidence whose verification is, and adds the two; its loop appends one
blocker for a row, whichever of the two holds.  The counts of missing evidence
and the loop over the obligations ask the same of every obligation.
-/

namespace AeroComply

namespace AerospaceStateService

open AssetRecords

theorem countP_add_countP {α : Type} (p q : α → Bool) (rows : List α) :
    rows.countP p + rows.countP q
      = (rows.countP fun a => p a || q a) + rows.countP fun a => p a && q a := by
  induction rows with
  | nil => rfl
  | cons a rows ih =>
    simp only [List.countP_cons]
    cases p a with
    | true =>
      cases q a with
      | true => simp; omega
      | false => simp; omega
    | false =>
      cases q a with
      | true => simp; omega
      | false => simp; omega

def isOfCategory (category : IntelligenceBlockerCategory) (b : IntelligenceBlocker) : Bool :=
  b.category = category

variable {db : Database} {org assetId : UUID} {aircraftId : Option UUID}

theorem evidenceOutcome_category (e : Evidence) (category : IntelligenceBlockerCategory) :
    (evidenceOutcome assetId aircraftId e).blocker?.any (isOfCategory category)
      = (decide (category = .rejectedEvidence) &&
          (decide (e.status = .rejected) || decide (e.verificationStatus = .rejected))) := by
  rw [evidenceOutcome]
  by_cases hv : e.verificationStatus = .rejected
  · rw [if_pos hv, hv]
    cases category <;> simp [Triage.Outcome.blocker?, isOfCategory]
  · rw [if_neg hv]
    by_cases hs : e.status = .rejected
    · rw [if_pos hs, hs]
      cases category <;> simp [Triage.Outcome.blocker?, isOfCategory]
    · rw [if_neg hs]
      simp [Triage.Outcome.blocker?, hv, hs]

theorem missingEvidenceOutcome_category (evidenceRows : List Evidence)
    (ob : ComplianceObligation) (category : IntelligenceBlockerCategory) :
    (missingEvidenceOutcome db org assetId aircraftId evidenceRows ob).blocker?.any
        (isOfCategory category)
      = (decide (category = .missingEvidence) && hasNoEvidence evidenceRows ob) := by
  rw [missingEvidenceOutcome]
  cases hmissing : hasNoEvidence evidenceRows ob with
  | true => cases category <;> simp [Triage.Outcome.blocker?, isOfCategory]
  | false => simp [Triage.Outcome.blocker?]

/-- The obligations that the evidence dimension asks evidence of. -/
def requiringOf (db : Database) (org assetId : UUID) (aircraftId : Option UUID) :
    List ComplianceObligation :=
  (obligationsOf db org assetId aircraftId).filter isRequiringEvidence

/-- What the evidence dimension appends. -/
def evidenceBlockers (db : Database) (org assetId : UUID) (aircraftId : Option UUID) :
    List IntelligenceBlocker :=
  (directEvidenceOf db org assetId aircraftId).filterMap
      (fun e => (evidenceOutcome assetId aircraftId e).blocker?)
    ++ (requiringOf db org assetId aircraftId).filterMap fun ob =>
      (missingEvidenceOutcome db org assetId aircraftId
        (directEvidenceOf db org assetId aircraftId) ob).blocker?

theorem blockers_evaluateEvidenceDimension (report : IntelligenceReport) :
    (evaluateEvidenceDimension db org assetId aircraftId report).2.blockers
      = report.blockers ++ evidenceBlockers db org assetId aircraftId := by
  rw [evaluateEvidenceDimension]
  dsimp only
  rw [Triage.Report.blockers_scan, Triage.Report.blockers_scan, List.append_assoc]
  rfl

theorem countP_evidenceBlockers (category : IntelligenceBlockerCategory) :
    (evidenceBlockers db org assetId aircraftId).countP (isOfCategory category)
      = ((directEvidenceOf db org assetId aircraftId).countP fun e =>
          decide (category = .rejectedEvidence) &&
            (decide (e.status = .rejected) || decide (e.verificationStatus = .rejected)))
        + (requiringOf db org assetId aircraftId).countP fun ob =>
          decide (category = .missingEvidence) &&
            hasNoEvidence (directEvidenceOf db org assetId aircraftId) ob := by
  rw [evidenceBlockers, List.countP_append, Triage.Report.countP_blockers,
    Triage.Report.countP_blockers]
  simp only [evidenceOutcome_category, missingEvidenceOutcome_category]

theorem countP_rejectedEvidence :
    (evidenceBlockers db org assetId aircraftId).countP (isOfCategory .rejectedEvidence)
      = (directEvidenceOf db org assetId aircraftId).countP fun e =>
          decide (e.status = .rejected) || decide (e.verificationStatus = .rejected) := by
  rw [countP_evidenceBlockers]
  simp

theorem countP_missingEvidence :
    (evidenceBlockers db org assetId aircraftId).countP (isOfCategory .missingEvidence)
      = (requiringOf db org assetId aircraftId).countP
          (hasNoEvidence (directEvidenceOf db org assetId aircraftId)) := by
  rw [countP_evidenceBlockers]
  simp

/-- **COUNTERS AND BLOCKERS**: the two counts are the numbers of blockers appended exactly when no
evidence row is rejected in both of its statuses. -/
theorem counts_match_iff (db : Database) (org assetId : UUID) (aircraftId : Option UUID)
    (report : IntelligenceReport) :
    (∃ appended, (evaluateEvidenceDimension db org assetId aircraftId report).2.blockers
          = report.blockers ++ appended ∧
        (evaluateEvidenceDimension db org assetId aircraftId report).1.evidenceRejected
          = appended.countP (isOfCategory .rejectedEvidence) ∧
        (evaluateEvidenceDimension db org assetId aircraftId report).1.evidenceMissing
          = appended.countP (isOfCategory .missingEvidence)) ↔
      ∀ e ∈ directEvidenceOf db org assetId aircraftId,
        ¬(e.status = .rejected ∧ e.verificationStatus = .rejected) := by
  have hsum : (evaluateEvidenceDimension db org assetId aircraftId report).1.evidenceRejected
      = (evidenceBlockers db org assetId aircraftId).countP (isOfCategory .rejectedEvidence)
        + (directEvidenceOf db org assetId aircraftId).countP fun e =>
            decide (e.status = .rejected) && decide (e.verificationStatus = .rejected) := by
    rw [countP_rejectedEvidence]
    exact countP_add_countP _ _ _
  have hnone : ((directEvidenceOf db org assetId aircraftId).countP fun e =>
        decide (e.status = .rejected) && decide (e.verificationStatus = .rejected)) = 0 ↔
      ∀ e ∈ directEvidenceOf db org assetId aircraftId,
        ¬(e.status = .rejected ∧ e.verificationStatus = .rejected) := by
    rw [List.countP_eq_zero]
    simp only [Bool.and_eq_true, decide_eq_true_eq]
  rw [← hnone]
  constructor
  · rintro ⟨appended, hblockers, hrejected, -⟩
    -- what was appended is what the model says
    rw [blockers_evaluateEvidenceDimension] at hblockers
    rw [← List.append_cancel_left hblockers, hsum] at hrejected
    omega
  · intro hzero
    refine ⟨_, blockers_evaluateEvidenceDimension report, ?_, ?_⟩
    · rw [hsum, hzero, Nat.add_zero]
    · rw [countP_missingEvidence]
      rfl

/-- An asset with one piece of evidence. -/
def withEvidence (status : EvidenceStatus) (verificationStatus : VerificationStatus) : Database :=
  { evidence := .single
      { id := 5, organizationId := 1, assetId := some 3, status, verificationStatus } }

/-- As `reject_evidence` leaves it, the row is counted twice and blocks once. -/
theorem rejected_counted_twice :
    ¬∃ appended, (evaluateEvidenceDimension (withEvidence .rejected .rejected) 1 3 none
          {}).2.blockers = ({} : IntelligenceReport).blockers ++ appended ∧
        (evaluateEvidenceDimension (withEvidence .rejected .rejected) 1 3 none
          {}).1.evidenceRejected = appended.countP (isOfCategory .rejectedEvidence) ∧
        (evaluateEvidenceDimension (withEvidence .rejected .rejected) 1 3 none
          {}).1.evidenceMissing = appended.countP (isOfCategory .missingEvidence) := by
  rintro ⟨appended, hblockers, hrejected, -⟩
  rw [show ({} : IntelligenceReport).blockers = [] from rfl, List.nil_append] at hblockers
  rw [← hblockers] at hrejected
  exact absurd hrejected (by decide)

end AerospaceStateService
end AeroComply
