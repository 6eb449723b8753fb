import AeroComply.Models.Database

/-!
# Assessment — assessments, their snapshots, and what hangs on a snapshot

`app/models/assessment.py`.  The tables stand beside the operational ones, which an
assessment reads; the foreign keys of the tables are `ForeignKeys`.
-/

namespace AeroComply

open Relational (Keyed Table)

/-- The three scope types, and any other text: the payload's column is free text. -/
inductive AssessmentScopeType
  | fleet
  | aircraft
  | workOrder
  | other (text : String)
  deriving DecidableEq, Repr

def AssessmentScopeType.value : AssessmentScopeType → String
  | .fleet => "FLEET"
  | .aircraft => "AIRCRAFT"
  | .workOrder => "WORK_ORDER"
  | .other text => text

inductive AssessmentStatus
  | draft
  | running
  | complete
  | failed
  deriving DecidableEq, Repr

structure Assessment where
  id : UUID
  organizationId : UUID
  name : String
  description : Option String := none
  scopeType : AssessmentScopeType := .fleet
  scopeId : Option UUID := none
  status : AssessmentStatus := .draft
  createdByUserId : Option UUID := none

inductive MaterialityBand
  | critical
  | high
  | moderate
  | low
  deriving DecidableEq, Repr

def MaterialityBand.value : MaterialityBand → String
  | .critical => "CRITICAL"
  | .high => "HIGH"
  | .moderate => "MODERATE"
  | .low => "LOW"

inductive ComplexityBand
  | high
  | moderate
  | low
  deriving DecidableEq, Repr

inductive MaturityBand
  | healthy
  | atRisk
  | degraded
  deriving DecidableEq, Repr

structure AssessmentSnapshot where
  id : UUID
  organizationId : UUID
  assessmentId : UUID
  version : Int
  overallScore : ℚ
  maturityBand : MaturityBand
  summary : Option String := none
  findingCount : Nat := 0
  criticalFindingCount : Nat := 0

/-- The records that the text in `source` names. -/
inductive FindingSource
  | aogEvent (eventId : Option UUID) (aircraftId : UUID) (registration recordType : String)
      (recordId : Option Message)
  | workOrder (id : UUID) (workOrderNumber : String)
  | technicianQualification (id userId : UUID)

/-- The text itself. -/
def FindingSource.text : FindingSource → Message
  | .aogEvent eventId aircraftId registration recordType recordId =>
    [.str "AogEvent ", (eventId.map .uuid).getD (.str "None"), .str " on Aircraft ",
      .uuid aircraftId, .str (" (" ++ registration ++ ") — " ++ recordType ++ ":")] ++
      recordId.getD [.str "None"]
  | .workOrder id workOrderNumber =>
    [.str "WorkOrder ", .uuid id, .str (" (" ++ workOrderNumber ++ ") release-readiness blocker")]
  | .technicianQualification id userId =>
    [.str "TechnicianQualification ", .uuid id, .str " (user ", .uuid userId, .str ")"]

structure AssessmentFinding where
  id : UUID
  organizationId : UUID
  snapshotId : UUID
  category : String
  severity : MaterialityBand
  title : String
  description : Message
  entityType : String
  entityId : Message
  materialityScore : ℚ
  complexityBand : ComplexityBand
  dependencyCount : Nat := 0
  impactDimensions : List String := []
  priorityRank : Nat := 0
  source : FindingSource
  resolved : Bool := false

structure AssessmentGap where
  id : UUID
  organizationId : UUID
  snapshotId : UUID
  findingId : Option UUID := none
  category : String
  severity : MaterialityBand
  entityType : String
  entityId : Message
  expectedCondition : String
  currentCondition : Message
  recommendedAction : String

structure AssessmentRisk where
  id : UUID
  organizationId : UUID
  snapshotId : UUID
  findingId : Option UUID := none
  riskLevel : MaterialityBand
  likelihood : String := "UNKNOWN"
  reason : Message
  entityType : String
  entityId : Message
  mitigation : Option String := none
  ownerRole : Option String := none

structure AssessmentRecommendation where
  id : UUID
  organizationId : UUID
  snapshotId : UUID
  findingId : Option UUID := none
  recommendation : String
  why : Message
  priority : MaterialityBand
  responsibleRole : Option String := none
  entityType : String
  entityId : Message
  status : String := "OPEN"

structure AssessmentRoadmapItem where
  id : UUID
  organizationId : UUID
  snapshotId : UUID
  findingId : Option UUID := none
  sequence : Nat
  title : String
  description : String
  category : String
  priority : MaterialityBand
  status : String := "PLANNED"
  entityType : String
  entityId : Message
  prerequisiteSequenceNumbers : List Nat := []
  ownerRole : Option String := none
  estimatedEffortBand : String := "UNKNOWN"
  effortConfidence : String := "LOW"
  expectedImpact : Message
  riskIfDelayed : String

structure AssessmentMetric where
  id : UUID
  organizationId : UUID
  snapshotId : UUID
  metricKey : Message
  state : String
  value : Option ℚ := none
  unit : Option String := none
  explanation : String

instance : Keyed Assessment UUID := ⟨Assessment.id⟩
instance : Keyed AssessmentSnapshot UUID := ⟨AssessmentSnapshot.id⟩
instance : Keyed AssessmentFinding UUID := ⟨AssessmentFinding.id⟩
instance : Keyed AssessmentGap UUID := ⟨AssessmentGap.id⟩
instance : Keyed AssessmentRisk UUID := ⟨AssessmentRisk.id⟩
instance : Keyed AssessmentRecommendation UUID := ⟨AssessmentRecommendation.id⟩
instance : Keyed AssessmentRoadmapItem UUID := ⟨AssessmentRoadmapItem.id⟩
instance : Keyed AssessmentMetric UUID := ⟨AssessmentMetric.id⟩

/-- The tables of the assessments, beside the operational ones. -/
structure AssessmentTables where
  operational : Database := {}
  assessments : Table Assessment := Table.empty
  snapshots : Table AssessmentSnapshot := Table.empty
  findings : Table AssessmentFinding := Table.empty
  gaps : Table AssessmentGap := Table.empty
  risks : Table AssessmentRisk := Table.empty
  recommendations : Table AssessmentRecommendation := Table.empty
  roadmapItems : Table AssessmentRoadmapItem := Table.empty
  metrics : Table AssessmentMetric := Table.empty

namespace AssessmentTables

/-- A row of that snapshot is stored. -/
def HasSnapshot (tables : AssessmentTables) (snapshotId : UUID) : Prop :=
  ∃ s ∈ tables.snapshots.rows, s.id = snapshotId

/-- `snapshot_id` is a foreign key, of six tables. -/
structure ForeignKeys (tables : AssessmentTables) : Prop where
  findings : ∀ r ∈ tables.findings.rows, tables.HasSnapshot r.snapshotId
  gaps : ∀ r ∈ tables.gaps.rows, tables.HasSnapshot r.snapshotId
  risks : ∀ r ∈ tables.risks.rows, tables.HasSnapshot r.snapshotId
  recommendations : ∀ r ∈ tables.recommendations.rows, tables.HasSnapshot r.snapshotId
  roadmapItems : ∀ r ∈ tables.roadmapItems.rows, tables.HasSnapshot r.snapshotId
  metrics : ∀ r ∈ tables.metrics.rows, tables.HasSnapshot r.snapshotId

/-- `snapshot.findings`. -/
def findingsOf (tables : AssessmentTables) (snapshotId : UUID) : List AssessmentFinding :=
  tables.findings.select fun r => r.snapshotId = snapshotId

/-- `snapshot.gaps`. -/
def gapsOf (tables : AssessmentTables) (snapshotId : UUID) : List AssessmentGap :=
  tables.gaps.select fun r => r.snapshotId = snapshotId

/-- `snapshot.risks`. -/
def risksOf (tables : AssessmentTables) (snapshotId : UUID) : List AssessmentRisk :=
  tables.risks.select fun r => r.snapshotId = snapshotId

/-- `snapshot.recommendations`. -/
def recommendationsOf (tables : AssessmentTables) (snapshotId : UUID) :
    List AssessmentRecommendation :=
  tables.recommendations.select fun r => r.snapshotId = snapshotId

/-- `snapshot.roadmap_items`. -/
def roadmapItemsOf (tables : AssessmentTables) (snapshotId : UUID) :
    List AssessmentRoadmapItem :=
  tables.roadmapItems.select fun r => r.snapshotId = snapshotId

/-- `snapshot.metrics`. -/
def metricsOf (tables : AssessmentTables) (snapshotId : UUID) : List AssessmentMetric :=
  tables.metrics.select fun r => r.snapshotId = snapshotId

end AssessmentTables

/-- The tables as the database holds them. -/
structure AssessmentStore where
  tables : AssessmentTables
  foreignKeys : tables.ForeignKeys

end AeroComply
