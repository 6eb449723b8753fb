import AeroComply.Services.CurrentAlerts

/-!
# AssetReadiness — the readiness of an asset, and that of its work orders

`get_asset_maintenance`, `get_asset_compliance` and `get_asset_readiness` of
`app/services/asset_service.py`.  The compliance dimension counts every NON_COMPLIANT row of
the history; the release of a work order looks at the latest row of each requirement.
`agrees_iff` says of which histories the two agree.
-/

namespace AeroComply

def ComplianceAssessmentStatus.value : ComplianceAssessmentStatus → String
  | .compliant => "COMPLIANT"
  | .nonCompliant => "NON_COMPLIANT"
  | .reviewRequired => "REVIEW_REQUIRED"
  | .unknown => "UNKNOWN"

namespace AssetService

open ProactiveService (assessmentsOf getReleaseReadiness_of_mem isLater_irrefl isLater_of_not
  isLater_trans latestAssessments liveWorkOrders noteAssessment_eq)
open ReleaseReadinessService (Blocker blockersOf complianceBlockers getReleaseReadiness isLater)

/-! ## Maintenance -/

/-- What `get_asset_maintenance` returns. -/
structure AssetMaintenance where
  openWorkOrders : List WorkOrder
  accomplishments : List MaintenanceAccomplishment
  hasOverdue : Bool

/-- `get_asset_maintenance`: every live work order counts as open, and critical as overdue. -/
def getAssetMaintenance (db : Database) (organizationId assetId : UUID) :
    Except Error AssetMaintenance := do
  let _ ← db.getAsset organizationId assetId
  let workOrders := (db.workOrders.select fun w =>
    w.assetId = some assetId && w.organizationId = organizationId && w.deletedAt.isNone
    ).insertionSort fun w w' => w'.createdAt ≤ w.createdAt
  let accomplishments := (db.accomplishments.select fun a =>
    a.assetId = some assetId && a.organizationId = organizationId
    ).insertionSort fun a a' => a'.accomplishedAt ≤ a.accomplishedAt
  pure { openWorkOrders := workOrders
         accomplishments := accomplishments.take 20
         hasOverdue := workOrders.any fun w => w.status ≠ .completed && w.priority = "CRITICAL" }

/-! ## Compliance -/

/-- An entry of the compliance history, without its time. -/
structure ComplianceEntry where
  id : UUID
  requirementId : UUID
  status : String
  notes : Option String

/-- What `get_asset_compliance` returns. -/
structure AssetCompliance where
  assessments : List ComplianceEntry
  overallStatus : ComplianceAssessmentStatus
  compliantCount : Nat
  nonCompliantCount : Nat

def obligationsOf (db : Database) (organizationId assetId : UUID) : List ComplianceObligation :=
  db.obligations.select fun o => o.assetId = some assetId && o.organizationId = organizationId

/-- An obligation that is not met. -/
def isUnmet (o : ComplianceObligation) : Bool :=
  o.status = ComplianceState.nonCompliant || o.status = ComplianceState.overdue ||
    o.status = ComplianceState.blocked

def assessmentEntry (a : ComplianceAssessment) : ComplianceEntry where
  id := a.id
  requirementId := a.requirementId
  status := a.status.value
  notes := a.notes

def obligationEntry (o : ComplianceObligation) : ComplianceEntry where
  id := o.id
  requirementId := o.requirementId
  status := o.status
  -- `o.notes or o.required_action`
  notes := if o.notes.getD "" = "" then o.requiredAction else o.notes

def compliantCount (assessments : List ComplianceAssessment)
    (obligations : List ComplianceObligation) : Nat :=
  assessments.countP (fun a => a.status = .compliant) +
    obligations.countP (fun o => o.status = ComplianceState.compliant)

def nonCompliantCount (assessments : List ComplianceAssessment)
    (obligations : List ComplianceObligation) : Nat :=
  assessments.countP (fun a => a.status = .nonCompliant) + obligations.countP isUnmet

def getAssetCompliance (db : Database) (organizationId assetId : UUID) :
    Except Error AssetCompliance := do
  let _ ← db.getAsset organizationId assetId
  let assessments := (db.assessments.select fun a =>
    a.assetId = some assetId && a.organizationId = organizationId
    ).insertionSort fun a a' => a'.evaluatedAt ≤ a.evaluatedAt
  let obligations := obligationsOf db organizationId assetId
  let compliant := compliantCount assessments obligations
  let nonCompliant := nonCompliantCount assessments obligations
  pure { assessments := assessments.map assessmentEntry ++ obligations.map obligationEntry
         overallStatus :=
          if 0 < nonCompliant then .nonCompliant
          else if 0 < compliant then .compliant
          else .unknown
         compliantCount := compliant
         nonCompliantCount := nonCompliant }

/-! ## Readiness -/

inductive DimensionName
  | operational
  | maintenance
  | compliance
  | deployment
  | release
  deriving DecidableEq, Repr

inductive DimensionStatus
  | ready
  | atRisk
  | blocked
  deriving DecidableEq, Repr

structure ReadinessDimension where
  dimension : DimensionName
  status : DimensionStatus
  summary : String
  blockers : List String := []

structure AssetReadinessResponse where
  assetId : UUID
  overallStatus : DimensionStatus
  dimensions : List ReadinessDimension := []
  evaluatedAt : DateTime
  disclaimer : String

/-- `"BLOCKED" if blockers else "READY"`. -/
def blockedIf (blockers : List String) : DimensionStatus :=
  if blockers.isEmpty then .ready else .blocked

def operationalBlockers (asset : Asset) : List String :=
  if asset.status = AssetLifecycleStatus.grounded then ["Airframe is currently grounded."]
  else if asset.status = AssetLifecycleStatus.retired then
    ["Airframe has been retired from service."]
  else []

def maintenanceBlockers (maintenance : AssetMaintenance) : List String :=
  let critical := maintenance.openWorkOrders.filter fun w => w.priority = "CRITICAL"
  (if critical.isEmpty then []
    else [toString critical.length ++ " critical open maintenance work orders pending."]) ++
  (if maintenance.hasOverdue then ["Overdue maintenance accomplishment intervals detected."]
    else [])

def nonComplianceBlockers (compliance : AssetCompliance) : List String :=
  if 0 < compliance.nonCompliantCount then
    [toString compliance.nonCompliantCount
      ++ " non-compliant regulatory assessment determinations on file."]
  else []

def operationalDimension (asset : Asset) : ReadinessDimension where
  dimension := .operational
  status := blockedIf (operationalBlockers asset)
  summary := "Asset lifecycle state is " ++ asset.status ++ "."
  blockers := operationalBlockers asset

def maintenanceDimension (maintenance : AssetMaintenance) : ReadinessDimension where
  dimension := .maintenance
  status := blockedIf (maintenanceBlockers maintenance)
  summary :=
    if (maintenanceBlockers maintenance).isEmpty then
      "All scheduled maintenance accomplishments current."
    else "Maintenance actions required."
  blockers := maintenanceBlockers maintenance

def complianceDimension (compliance : AssetCompliance) : ReadinessDimension where
  dimension := .compliance
  status :=
    if !(nonComplianceBlockers compliance).isEmpty then .blocked
    else if 0 < compliance.compliantCount then .ready
    else .atRisk
  summary :=
    if (nonComplianceBlockers compliance).isEmpty then
      "All applicable airworthiness/regulatory rules compliant."
    else "Non-compliant regulatory directives."
  blockers := nonComplianceBlockers compliance

def deploymentDimension (blockers : List String) : ReadinessDimension where
  dimension := .deployment
  status := blockedIf blockers
  summary :=
    if blockers.isEmpty then "Eligible for operational sortie/flight dispatch."
    else "Deployment dispatch blocked."
  blockers

def releaseDimension (blockers : List String) : ReadinessDimension where
  dimension := .release
  status := blockedIf blockers
  summary :=
    if blockers.isEmpty then "All evidence, inspection, and task gates satisfied."
    else "Work order release blockers pending."
  blockers

def getAssetReadiness (db : Database) (now : DateTime) (organizationId assetId : UUID) :
    Except Error AssetReadinessResponse := do
  let asset ← db.getAsset organizationId assetId
  let maintenance ← getAssetMaintenance db organizationId assetId
  let compliance ← getAssetCompliance db organizationId assetId
  let blockers := operationalBlockers asset ++ maintenanceBlockers maintenance ++
    nonComplianceBlockers compliance
  pure { assetId := asset.id
         overallStatus := blockedIf blockers
         dimensions := [operationalDimension asset, maintenanceDimension maintenance,
          complianceDimension compliance, deploymentDimension blockers, releaseDimension blockers]
         evaluatedAt := now
         disclaimer := "Operational & readiness decision context only; not an electronic Release "
          ++ "to Service (RTS) signature." }

/-! ## The two sides -/

section Agreement

variable {db : Database} {now : DateTime} {org assetId : UUID} {response : AssetReadinessResponse}

theorem blocked_complianceDimension_iff {compliance : AssetCompliance} :
    (complianceDimension compliance).status = .blocked ↔ 0 < compliance.nonCompliantCount := by
  rw [complianceDimension, nonComplianceBlockers]
  by_cases hcount : 0 < compliance.nonCompliantCount
  · simp [hcount]
  · simp only [hcount, if_false, List.isEmpty_nil, Bool.not_true, Bool.false_eq_true, iff_false]
    split <;> exact nofun

theorem blocked_iff_exists (h : getAssetReadiness db now org assetId = .ok response)
    (hobligations : obligationsOf db org assetId = []) :
    (∃ d ∈ response.dimensions, d.dimension = .compliance ∧ d.status = .blocked) ↔
      ∃ a ∈ assessmentsOf db org assetId, a.status = .nonCompliant := by
  obtain ⟨asset, _, h⟩ := bind_eq_ok.1 h
  obtain ⟨maintenance, _, h⟩ := bind_eq_ok.1 h
  obtain ⟨compliance, hcompliance, h⟩ := bind_eq_ok.1 h
  cases h
  have hdimension : (∃ d ∈ [operationalDimension asset, maintenanceDimension maintenance,
      complianceDimension compliance, deploymentDimension (operationalBlockers asset ++
        maintenanceBlockers maintenance ++ nonComplianceBlockers compliance),
      releaseDimension (operationalBlockers asset ++ maintenanceBlockers maintenance ++
        nonComplianceBlockers compliance)], d.dimension = .compliance ∧ d.status = .blocked) ↔
      (complianceDimension compliance).status = .blocked := by
    simp [operationalDimension, maintenanceDimension, deploymentDimension, releaseDimension,
      complianceDimension]
  obtain ⟨_, _, hcompliance⟩ := bind_eq_ok.1 hcompliance
  cases hcompliance
  rw [hdimension, blocked_complianceDimension_iff]
  show 0 < nonCompliantCount _ _ ↔ _
  rw [nonCompliantCount, hobligations, List.countP_nil, Nat.add_zero, List.countP_pos_iff]
  simp only [List.mem_insertionSort, assessmentsOf, Relational.Table.mem_select, Bool.and_eq_true,
    decide_eq_true_eq, and_comm (a := (_ : ComplianceAssessment).assetId = some assetId)]

theorem mem_complianceBlockers_iff {w : WorkOrder} {b : Blocker} :
    b ∈ blockersOf db org w ∧ b.category = .compliance ↔ b ∈ complianceBlockers db org w.assetId := by
  simp only [blockersOf, List.mem_append]
  constructor
  · rintro ⟨((((h | h) | h) | h) | h) | h, hcategory⟩
    · obtain ⟨_, _, rfl⟩ := List.mem_map.1 h
      cases hcategory
    · rcases List.mem_append.1 h with h | h
      · obtain ⟨_, _, rfl⟩ := List.mem_map.1 h
        cases hcategory
      · obtain ⟨_, _, rfl⟩ := List.mem_map.1 h
        cases hcategory
    · obtain ⟨_, _, rfl⟩ := List.mem_map.1 h
      cases hcategory
    · obtain ⟨_, _, rfl⟩ := List.mem_map.1 h
      cases hcategory
    · exact h
    · obtain ⟨_, _, rfl⟩ := List.mem_map.1 h
      cases hcategory
  · intro h
    refine ⟨Or.inl (Or.inr h), ?_⟩
    cases hasset : w.assetId with
    | none =>
      rw [hasset] at h
      cases h
    | some assetId =>
      rw [hasset] at h
      obtain ⟨_, _, rfl⟩ := List.mem_map.1 h
      rfl

/-- `a` is the row by which its requirement is judged: its latest, the first read of equal ones. -/
def IsCurrent (db : Database) (org assetId : UUID) (a : ComplianceAssessment) : Prop :=
  Latest.Kept ComplianceAssessment.requirementId isLater (assessmentsOf db org assetId) a

theorem mem_latestAssessments_iff {a : ComplianceAssessment} :
    a ∈ latestAssessments db org assetId ↔ IsCurrent db org assetId a := by
  rw [latestAssessments, noteAssessment_eq]
  exact Latest.mem_foldl_note_iff isLater_irrefl isLater_trans isLater_of_not

theorem exists_complianceBlocker_iff {w : WorkOrder} (hw : w ∈ liveWorkOrders db org)
    (hasset : w.assetId = some assetId) :
    (∃ readiness, getReleaseReadiness db org w.id = .ok readiness ∧
        ∃ b ∈ readiness.blockers, b.category = .compliance) ↔
      ∃ a, IsCurrent db org assetId a ∧ a.status = .nonCompliant := by
  have hblockers : (∃ b, b ∈ complianceBlockers db org w.assetId) ↔
      ∃ a ∈ latestAssessments db org assetId, a.status = .nonCompliant := by
    rw [hasset]
    show (∃ b, b ∈ ((latestAssessments db org assetId).filter
      fun a => a.status = .nonCompliant).map _) ↔ _
    simp only [List.mem_map, List.mem_filter, decide_eq_true_eq]
    constructor
    · rintro ⟨_, a, ha, _⟩
      exact ⟨a, ha⟩
    · rintro ⟨a, ha⟩
      exact ⟨_, a, ha, rfl⟩
  rw [getReleaseReadiness_of_mem hw]
  constructor
  · rintro ⟨_, ⟨⟩, b, hb⟩
    obtain ⟨a, ha, hstatus⟩ := hblockers.1 ⟨b, mem_complianceBlockers_iff.1 hb⟩
    exact ⟨a, mem_latestAssessments_iff.1 ha, hstatus⟩
  · rintro ⟨a, ha, hstatus⟩
    obtain ⟨b, hb⟩ := hblockers.2 ⟨a, mem_latestAssessments_iff.2 ha, hstatus⟩
    exact ⟨_, rfl, b, mem_complianceBlockers_iff.2 hb⟩

/-- **READINESS AND RELEASE AGREE ON A HISTORY** exactly when it has no NON_COMPLIANT row, or the
current row of some requirement is NON_COMPLIANT. -/
theorem agrees_iff {w : WorkOrder} (hw : w ∈ liveWorkOrders db org)
    (hasset : w.assetId = some assetId) (h : getAssetReadiness db now org assetId = .ok response)
    (hobligations : obligationsOf db org assetId = []) :
    ((∃ d ∈ response.dimensions, d.dimension = .compliance ∧ d.status = .blocked) ↔
        ∃ readiness, getReleaseReadiness db org w.id = .ok readiness ∧
          ∃ b ∈ readiness.blockers, b.category = .compliance) ↔
      ((∃ a ∈ assessmentsOf db org assetId, a.status = .nonCompliant) →
        ∃ a, IsCurrent db org assetId a ∧ a.status = .nonCompliant) := by
  rw [blocked_iff_exists h hobligations, exists_complianceBlocker_iff hw hasset]
  constructor
  · exact Iff.mp
  · intro hcurrent
    refine ⟨hcurrent, ?_⟩
    rintro ⟨a, ha, hstatus⟩
    exact ⟨a, ha.mem, hstatus⟩

end Agreement

/-- A requirement that was NON_COMPLIANT on day 1, and COMPLIANT from day 2 on. -/
def superseded : Database where
  assets := ⟨[{ id := 1, organizationId := 1, assetType := AssetType.aircraft }], by decide⟩
  workOrders := ⟨[{ id := 1, organizationId := 1, assetId := some 1 }], by decide⟩
  assessments := ⟨[
    { id := 1, organizationId := 1, assetId := some 1, requirementId := 1
      status := .nonCompliant, evaluatedAt := 1 },
    { id := 2, organizationId := 1, assetId := some 1, requirementId := 1
      status := .compliant, evaluatedAt := 2 }], by decide⟩

theorem superseded_still_counts :
    ∃ response readiness, getAssetReadiness superseded 0 1 1 = .ok response ∧
      obligationsOf superseded 1 1 = [] ∧
      (∃ d ∈ response.dimensions, d.dimension = .compliance ∧ d.status = .blocked) ∧
      getReleaseReadiness superseded 1 1 = .ok readiness ∧
      ¬∃ b ∈ readiness.blockers, b.category = .compliance := by
  refine ⟨_, _, rfl, rfl, ⟨_, List.mem_cons_of_mem _ (List.mem_cons_of_mem _ List.mem_cons_self),
    rfl, rfl⟩, rfl, ?_⟩
  rintro ⟨b, hb, _⟩
  cases hb

/-- A requirement that was COMPLIANT on day 1, and NON_COMPLIANT from day 2 on. -/
def relapsed : Database where
  assets := ⟨[{ id := 1, organizationId := 1, assetType := AssetType.aircraft }], by decide⟩
  workOrders := ⟨[{ id := 1, organizationId := 1, assetId := some 1 }], by decide⟩
  assessments := ⟨[
    { id := 1, organizationId := 1, assetId := some 1, requirementId := 1
      status := .compliant, evaluatedAt := 1 },
    { id := 2, organizationId := 1, assetId := some 1, requirementId := 1
      status := .nonCompliant, evaluatedAt := 2 }], by decide⟩

theorem agrees_iff_relapsed :
    ∃ response, getAssetReadiness relapsed 0 1 1 = .ok response ∧
      ((∃ d ∈ response.dimensions, d.dimension = .compliance ∧ d.status = .blocked) ↔
        ∃ readiness, getReleaseReadiness relapsed 1 1 = .ok readiness ∧
          ∃ b ∈ readiness.blockers, b.category = .compliance) := by
  have hlive : ({ id := 1, organizationId := 1, assetId := some 1 } : WorkOrder)
      ∈ liveWorkOrders relapsed 1 := List.mem_singleton_self _
  refine ⟨_, rfl, (agrees_iff hlive rfl rfl rfl).2 fun _ => ?_⟩
  refine ⟨{ id := 2, organizationId := 1, assetId := some 1, requirementId := 1
            status := .nonCompliant, evaluatedAt := 2 },
    ⟨[{ id := 1, organizationId := 1, assetId := some 1, requirementId := 1
        status := .compliant, evaluatedAt := 1 }], [], rfl, ?_, fun x hx => nomatch hx⟩, rfl⟩
  intro x hx _
  rw [List.mem_singleton.1 hx]
  rfl

end AssetService
end AeroComply
