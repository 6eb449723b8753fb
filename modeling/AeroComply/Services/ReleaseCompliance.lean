import Mathlib.Data.Prod.Lex
import AeroComply.Services.AssetReadiness

/-!
# ReleaseCompliance — the latest determinations of a work order's asset

The `COMPLIANCE` blockers of `get_release_readiness_for_work_order`: one pass over the assessments
of the asset, in the order in which the database returns them, keeps one of each requirement.
-/

namespace AeroComply

open Relational (Table)

namespace ReleaseReadinessService

open ProactiveService (assessmentsOf isLater_iff isLater_irrefl isLater_trans noteAssessment_eq)

def assessmentsFor (db : Database) (org : UUID) (w : WorkOrder) : List ComplianceAssessment :=
  match w.assetId with
  | none => []
  | some assetId => assessmentsOf db org assetId

/-- When an assessment was made: by day, then by creation. -/
def timeOf (a : ComplianceAssessment) : Date ×ₗ DateTime :=
  toLex (a.evaluatedAt, a.createdAt)

/-- No two assessments of one requirement were made at the same time. -/
def DistinctTimes (rows : List ComplianceAssessment) : Prop :=
  ∀ a ∈ rows, ∀ b ∈ rows, a.requirementId = b.requirementId → timeOf a = timeOf b → a = b

/-- `a` is the assessment of its requirement with the greatest time. -/
def IsLatest (rows : List ComplianceAssessment) (a : ComplianceAssessment) : Prop :=
  a ∈ rows ∧ ∀ b ∈ rows, b.requirementId = a.requirementId → timeOf b ≤ timeOf a

def complianceBlocker (a : ComplianceAssessment) : Blocker where
  category := .compliance
  description := [.str ("Latest compliance assessment for this asset is "
    ++ "NON_COMPLIANT (requirement_id="), .uuid a.requirementId, .str ")"]
  relatedRecordId := some a.id

/-- The `COMPLIANCE` blockers are those of the latest assessments that are NON_COMPLIANT, one for
each requirement. -/
def LatestOnly (rows : List ComplianceAssessment) (blockers : List Blocker) : Prop :=
  ∃ current : List ComplianceAssessment,
    (blockers.filter fun b => b.category = .compliance) = current.map complianceBlocker ∧
      (current.map ComplianceAssessment.requirementId).Nodup ∧
        ∀ a, a ∈ current ↔ IsLatest rows a ∧ a.status = .nonCompliant

section Times

variable {rows : List ComplianceAssessment}

theorem isLater_iff_lt {candidate current : ComplianceAssessment} :
    isLater candidate current = true ↔ timeOf current < timeOf candidate := by
  rw [isLater_iff, timeOf, timeOf, Prod.Lex.toLex_lt_toLex]

theorem isLater_eq_false_iff {candidate current : ComplianceAssessment} :
    isLater candidate current = false ↔ timeOf candidate ≤ timeOf current := by
  rw [← Bool.not_eq_true, isLater_iff_lt, not_lt]

theorem isLatest_iff {a : ComplianceAssessment} :
    IsLatest rows a ↔ Latest.Greatest ComplianceAssessment.requirementId isLater rows a := by
  simp only [IsLatest, Latest.Greatest, isLater_eq_false_iff]

theorem apart_of_distinctTimes (h : DistinctTimes rows) :
    Latest.Apart ComplianceAssessment.requirementId isLater rows := by
  intro a ha b hb hkey hab hba
  rw [isLater_eq_false_iff] at hab hba
  exact h a ha b hb hkey (le_antisymm hab hba)

end Times

section Blockers

variable {db : Database} {org : UUID} {w : WorkOrder}

/-- The latest assessments of the work order's asset. -/
def latestFor (db : Database) (org : UUID) (w : WorkOrder) : List ComplianceAssessment :=
  (assessmentsFor db org w).foldl noteAssessment []

theorem complianceBlockers_eq : complianceBlockers db org w.assetId =
    ((latestFor db org w).filter fun a => a.status = .nonCompliant).map complianceBlocker := by
  rw [latestFor, assessmentsFor]
  cases w.assetId with
  | none => rfl
  | some assetId => rfl

variable {assessments : Table ComplianceAssessment} {category : BlockerCategory}

theorem filter_eq_nil_of_category {blockers : List Blocker} (hne : category ≠ .compliance)
    (h : ∀ b ∈ blockers, b.category = category) :
    (blockers.filter fun b => b.category = .compliance) = [] := by
  refine List.filter_eq_nil_iff.2 fun b hb hcompliance => hne ?_
  exact (h b hb).symm.trans (of_decide_eq_true hcompliance)

theorem category_of_mem_map {α : Type} {rows : List α} {blocker : α → Blocker} {b : Blocker}
    (hb : b ∈ rows.map blocker) (hcategory : ∀ a, (blocker a).category = category) :
    b.category = category := by
  obtain ⟨a, _, rfl⟩ := List.mem_map.1 hb
  exact hcategory a

theorem filter_blockersOf : ((blockersOf db org w).filter fun b => b.category = .compliance) =
    complianceBlockers db org w.assetId := by
  have htasks : ∀ b ∈ taskExecutionBlockers (tasksOf db org w.id), b.category = .taskExecution :=
    fun _ hb => category_of_mem_map hb fun _ => rfl
  have hevidence : ∀ b ∈ evidenceBlockers (tasksOf db org w.id)
      (evidenceOf db org (tasksOf db org w.id)), b.category = .evidence := by
    intro b hb
    rcases List.mem_append.1 hb with hb | hb
    · exact category_of_mem_map hb fun _ => rfl
    · exact category_of_mem_map hb fun _ => rfl
  have hinspections : ∀ b ∈ inspectionBlockers (inspectionsOf db org w.id (tasksOf db org w.id)),
      b.category = .inspection :=
    fun _ hb => category_of_mem_map hb fun _ => rfl
  have hmaterial : ∀ b ∈ materialBlockers (materialOf db org w.id), b.category = .material :=
    fun _ hb => category_of_mem_map hb fun _ => rfl
  have hown : ∀ b ∈ complianceBlockers db org w.assetId,
      decide (b.category = .compliance) = true := by
    intro b hb
    rw [complianceBlockers_eq] at hb
    exact decide_eq_true (category_of_mem_map hb fun _ => rfl)
  have hfindings : ∀ b ∈ findingBlockers db org w, b.category = .finding :=
    fun _ hb => category_of_mem_map hb fun _ => rfl
  simp only [blockersOf, List.filter_append]
  rw [filter_eq_nil_of_category (by decide) htasks, filter_eq_nil_of_category (by decide) hevidence,
    filter_eq_nil_of_category (by decide) hinspections,
    filter_eq_nil_of_category (by decide) hmaterial,
    filter_eq_nil_of_category (by decide) hfindings, List.filter_eq_self.2 hown,
    List.nil_append, List.nil_append, List.nil_append, List.nil_append, List.append_nil]

theorem nodup_requirements_latestFor :
    ((latestFor db org w).map ComplianceAssessment.requirementId).Nodup := by
  rw [latestFor, noteAssessment_eq]
  exact (Latest.foldl_note_spec isLater_irrefl isLater_trans _).nodup

theorem mem_latestFor_iff (hdistinct : DistinctTimes (assessmentsFor db org w))
    {a : ComplianceAssessment} :
    a ∈ latestFor db org w ↔ IsLatest (assessmentsFor db org w) a := by
  rw [latestFor, noteAssessment_eq, isLatest_iff]
  exact Latest.mem_foldl_note_iff_greatest isLater_irrefl isLater_trans
    (apart_of_distinctTimes hdistinct)

theorem latestOnly_blockersOf (hdistinct : DistinctTimes (assessmentsFor db org w)) :
    LatestOnly (assessmentsFor db org w) (blockersOf db org w) := by
  refine ⟨(latestFor db org w).filter fun a => a.status = .nonCompliant, ?_, ?_, fun a => ?_⟩
  · rw [filter_blockersOf, complianceBlockers_eq]
  · exact nodup_requirements_latestFor.sublist (List.filter_sublist.map _)
  · rw [List.mem_filter, mem_latestFor_iff hdistinct, decide_eq_true_eq]

/-- The database with its assessments in another order. -/
def reordered (db : Database) (assessments : Table ComplianceAssessment) : Database :=
  { db with assessments }

theorem assessmentsFor_reordered (hperm : assessments.rows.Perm db.assessments.rows) :
    (assessmentsFor (reordered db assessments) org w).Perm (assessmentsFor db org w) := by
  rw [assessmentsFor, assessmentsFor]
  cases w.assetId with
  | none => exact List.Perm.nil
  | some assetId => exact hperm.filter _

theorem blockersOf_reordered (hdistinct : DistinctTimes (assessmentsFor db org w))
    (hperm : assessments.rows.Perm db.assessments.rows) :
    (blockersOf (reordered db assessments) org w).Perm (blockersOf db org w) := by
  have hlatest : (latestFor (reordered db assessments) org w).Perm (latestFor db org w) := by
    rw [latestFor, latestFor, noteAssessment_eq]
    exact (Latest.foldl_note_perm isLater_irrefl isLater_trans
      (assessmentsFor_reordered hperm).symm (apart_of_distinctTimes hdistinct)).symm
  have hcompliance : (complianceBlockers (reordered db assessments) org w.assetId).Perm
      (complianceBlockers db org w.assetId) := by
    rw [complianceBlockers_eq, complianceBlockers_eq]
    exact (hlatest.filter _).map _
  exact (hcompliance.append_left _).append_right _

/-- **ONLY THE LATEST DETERMINATION**: of a work order that is there, the `COMPLIANCE` blockers are
those of the requirements whose latest assessment is NON_COMPLIANT, one for each, and the blockers
are the same in whatever order the assessments are read. -/
theorem latest_determinations (db : Database) (org workOrderId : UUID) (w : WorkOrder)
    (hw : db.getWorkOrder org workOrderId = .ok w)
    (hdistinct : DistinctTimes (assessmentsFor db org w)) :
    ∃ r, getReleaseReadiness db org workOrderId = .ok r ∧
      LatestOnly (assessmentsFor db org w) r.blockers ∧
        ∀ assessments : Table ComplianceAssessment,
          assessments.rows.Perm db.assessments.rows →
            ∃ r', getReleaseReadiness (reordered db assessments) org workOrderId = .ok r' ∧
              r'.blockers.Perm r.blockers ∧ r'.status = r.status := by
  have hreadiness : ∀ db' : Database, db'.getWorkOrder org workOrderId = .ok w →
      getReleaseReadiness db' org workOrderId = .ok ⟨w.id,
        if (blockersOf db' org w).isEmpty then .ready else .blocked, blockersOf db' org w⟩ := by
    intro db' hw'
    rw [getReleaseReadiness, hw']
    rfl
  refine ⟨_, hreadiness db hw, latestOnly_blockersOf hdistinct, fun assessments hperm => ?_⟩
  have hblockers := blockersOf_reordered hdistinct hperm
  refine ⟨_, hreadiness _ hw, hblockers, ?_⟩
  dsimp only
  rw [hblockers.isEmpty_eq]

/-- A work order of asset 3, which was compliant with requirement 7 and is so no more. -/
def assessedTwice : Database where
  workOrders := Table.single { id := 5, organizationId := 1, assetId := some 3 }
  assessments := ⟨[
    { id := 9, organizationId := 1, assetId := some 3, requirementId := 7, evaluatedAt := 2
      status := .nonCompliant },
    { id := 8, organizationId := 1, assetId := some 3, requirementId := 7, evaluatedAt := 1
      status := .compliant }], by decide⟩

theorem assessedTwice_latest :
    ∃ r, getReleaseReadiness assessedTwice 1 5 = .ok r ∧
      LatestOnly (assessmentsFor assessedTwice 1 { id := 5, organizationId := 1, assetId := some 3 })
        r.blockers ∧
        ∀ assessments : Table ComplianceAssessment,
          assessments.rows.Perm assessedTwice.assessments.rows →
            ∃ r', getReleaseReadiness (reordered assessedTwice assessments) 1 5 = .ok r' ∧
              r'.blockers.Perm r.blockers ∧ r'.status = r.status := by
  refine latest_determinations assessedTwice 1 5 _ rfl ?_
  intro a ha b hb _ htime
  have hday : a.evaluatedAt = b.evaluatedAt := congrArg (fun t => (ofLex t).1) htime
  have hrows : assessmentsFor assessedTwice 1 { id := 5, organizationId := 1, assetId := some 3 }
      = assessedTwice.assessments.rows := rfl
  rw [hrows] at ha hb
  simp only [assessedTwice, List.mem_cons, List.not_mem_nil, or_false] at ha hb
  rcases ha with rfl | rfl
  · rcases hb with rfl | rfl
    · rfl
    · cases hday
  · rcases hb with rfl | rfl
    · cases hday
    · rfl

end Blockers

end ReleaseReadinessService
end AeroComply
