import AeroComply.Models.Asset
import AeroComply.Models.Organization
import AeroComply.Models.Compliance
import AeroComply.Models.Inventory
import AeroComply.Models.Applicability
import AeroComply.Models.Import
import AeroComply.Models.Maintenance
import AeroComply.Models.Signal

/-!
# Database — the tables the services read and write

One field for each table, all empty by default.  A service takes the database
and returns the database its commit leaves; identifiers that the database server
generates are arguments, and an insert under a taken identifier raises.
-/

namespace AeroComply

open Relational (Keyed Table)

/-- A row of `audit_events`; nothing reads the log back. -/
structure AuditEvent where
  organizationId : UUID
  userId : Option UUID
  action : String
  entityType : String
  entityId : Option UUID
  deriving DecidableEq

structure Database where
  organizations : Table Organization := Table.empty
  users : Table User := Table.empty
  userRoles : Table UserRole := Table.empty
  authVerificationCodes : Table AuthVerificationCode := Table.empty
  plans : Table Plan := Table.empty
  planFeatures : Table PlanFeature := Table.empty
  planLimits : Table PlanLimit := Table.empty
  subscriptions : Table Subscription := Table.empty
  featureOverrides : Table TenantFeatureOverride := Table.empty
  usageLimits : Table TenantUsageLimit := Table.empty
  approvalRequests : Table ApprovalRequest := Table.empty
  assets : Table Asset := Table.empty
  facilities : Table Facility := Table.empty
  aircraft : Table Aircraft := Table.empty
  components : Table Component := Table.empty
  batteries : Table Battery := Table.empty
  componentInstallations : Table Installation := Table.empty
  batteryInstallations : Table Installation := Table.empty
  flights : Table Flight := Table.empty
  baselines : Table AssetHistoricalBaseline := Table.empty
  missions : Table Mission := Table.empty
  aogEvents : Table AogEvent := Table.empty
  aogBlockers : Table AogBlocker := Table.empty
  requirements : Table RegulatoryRequirement := Table.empty
  obligations : Table ComplianceObligation := Table.empty
  evidence : Table Evidence := Table.empty
  evidenceFiles : Table EvidenceFile := Table.empty
  inspections : Table InspectionRequirement := Table.empty
  findings : Table Finding := Table.empty
  tasks : Table Task := Table.empty
  workOrders : Table WorkOrder := Table.empty
  assessments : Table ComplianceAssessment := Table.empty
  parts : Table Part := Table.empty
  inventoryTransactions : Table InventoryTransaction := Table.empty
  partRequirements : Table PartRequirement := Table.empty
  vendors : Table Vendor := Table.empty
  vendorPartAvailabilities : Table VendorPartAvailability := Table.empty
  procurementRequests : Table ProcurementRequest := Table.empty
  purchaseOrders : Table PurchaseOrder := Table.empty
  purchaseOrderLines : Table PurchaseOrderLine := Table.empty
  rules : Table ApplicabilityRule := Table.empty
  conditions : Table ApplicabilityCondition := Table.empty
  evaluations : Table ApplicabilityEvaluation := Table.empty
  importJobs : Table ImportJob := Table.empty
  importMappings : Table TenantImportMapping := Table.empty
  maintenanceRequirements : Table MaintenanceRequirement := Table.empty
  requirementApplicabilities : Table MaintenanceRequirementApplicability := Table.empty
  accomplishments : Table MaintenanceAccomplishment := Table.empty
  deferredItems : Table DeferredItem := Table.empty
  qualifications : Table TechnicianQualification := Table.empty
  proactiveSignals : Table ProactiveSignalRecord := Table.empty
  auditEvents : List AuditEvent := []

/-- `db.add(row)` and `db.flush()`, raising `e` when the server refuses the row. -/
def addRowOrRaise {α κ : Type} [Keyed α κ] [DecidableEq κ] (t : Table α) (row : α) (e : Error) :
    Except Error (Table α) :=
  match t.insert? row with
  | some t' => .ok t'
  | none => .error e

/-- `db.add(row)` and `db.flush()`. -/
def addRow {α κ : Type} [Keyed α κ] [DecidableEq κ] (t : Table α) (row : α) :
    Except Error (Table α) := addRowOrRaise t row .integrity

theorem addRowOrRaise_eq_ok {α κ : Type} [Keyed α κ] [DecidableEq κ] {t t' : Table α} {row : α}
    {e : Error} : addRowOrRaise t row e = .ok t' ↔ t.insert? row = some t' := by
  rw [addRowOrRaise]
  cases h : t.insert? row with
  | some t'' =>
    constructor
    · intro he
      cases he
      rfl
    · intro he
      cases he
      rfl
  | none => exact ⟨fun he => (nomatch he), fun he => (nomatch he)⟩

/-- `ORDER BY created_at DESC LIMIT 1`: of rows created at one instant, the first of the table. -/
def newestBy {α : Type} (createdAt : α → DateTime) : List α → Option α
  | [] => none
  | r :: rs =>
    match newestBy createdAt rs with
    | none => some r
    | some r' => if createdAt r < createdAt r' then some r' else some r

section NewestBy

variable {α : Type} {createdAt : α → DateTime}

theorem newestBy_append_singleton (rows : List α) (row : α) :
    newestBy createdAt (rows ++ [row])
      = match newestBy createdAt rows with
        | none => some row
        | some r => if createdAt r < createdAt row then some row else some r := by
  induction rows with
  | nil => rfl
  | cons r rows ih =>
    rw [List.cons_append, newestBy, newestBy, ih]
    cases hnewest : newestBy createdAt rows with
    | none => rfl
    | some r' => grind

variable {rows : List α}

theorem mem_of_newestBy {row : α} (h : newestBy createdAt rows = some row) :
    row ∈ rows := by
  induction rows generalizing row with
  | nil => cases h
  | cons r rows ih =>
    rw [newestBy] at h
    cases hnewest : newestBy createdAt rows with
    | none =>
      rw [hnewest] at h
      cases h
      exact List.mem_cons_self
    | some r' =>
      rw [hnewest] at h
      simp only at h
      split at h
      · cases h
        exact List.mem_cons_of_mem r (ih hnewest)
      · cases h
        exact List.mem_cons_self

theorem newestBy_map {f : α → α} (hf : ∀ r ∈ rows, createdAt (f r) = createdAt r) :
    newestBy createdAt (rows.map f) = (newestBy createdAt rows).map f := by
  induction rows with
  | nil => rfl
  | cons r rows ih =>
    rw [List.map_cons, newestBy, newestBy, ih fun x hx => hf x (List.mem_cons_of_mem r hx)]
    cases hnewest : newestBy createdAt rows with
    | none => rfl
    | some r' =>
      have hr' : r' ∈ r :: rows := List.mem_cons_of_mem r (mem_of_newestBy hnewest)
      show (if createdAt (f r) < createdAt (f r') then _ else _) = Option.map f (if _ then _ else _)
      rw [hf r List.mem_cons_self, hf r' hr']
      split
      · rfl
      · rfl

theorem newestBy_eq_none : newestBy createdAt rows = none ↔ rows = [] := by
  cases rows with
  | nil => exact ⟨fun _ => rfl, fun _ => rfl⟩
  | cons r rows =>
    rw [newestBy]
    refine ⟨fun h => ?_, fun h => nomatch h⟩
    split at h
    · cases h
    · split at h
      · cases h
      · cases h

theorem newestBy_of_max {row : α} (hrow : row ∈ rows)
    (hmax : ∀ r ∈ rows, r = row ∨ createdAt r < createdAt row) :
    newestBy createdAt rows = some row := by
  induction rows with
  | nil => cases hrow
  | cons r rows ih =>
    have hrest := fun x hx => hmax x (List.mem_cons_of_mem r hx)
    rw [newestBy]
    by_cases hmem : row ∈ rows
    · rw [ih hmem hrest]
      rcases hmax r List.mem_cons_self with rfl | hlt
      · exact if_neg (lt_irrefl _)
      · exact if_pos hlt
    · obtain rfl : row = r := (List.mem_cons.1 hrow).resolve_right hmem
      cases hnewest : newestBy createdAt rows with
      | none => rfl
      | some r' =>
        have hr' := mem_of_newestBy hnewest
        have hlt : createdAt r' < createdAt row :=
          (hrest r' hr').resolve_left fun heq => hmem (heq ▸ hr')
        exact if_neg hlt.asymm

end NewestBy

theorem rows_of_foldlM_addRow {α κ : Type} [Keyed α κ] [DecidableEq κ] {rows : List α} :
    ∀ {t t' : Table α}, rows.foldlM addRow t = .ok t' → t'.rows = t.rows ++ rows := by
  induction rows with
  | nil =>
    intro t t' h
    cases h
    exact (List.append_nil _).symm
  | cons row rows ih =>
    intro t t' h
    rw [List.foldlM_cons] at h
    cases hadd : addRow t row with
    | error e =>
      rw [hadd] at h
      cases h
    | ok t'' =>
      rw [hadd] at h
      rw [ih h, (Table.insert?_eq_some (addRowOrRaise_eq_ok.1 hadd)).2, List.append_assoc,
        List.singleton_append]

theorem exists_foldlM_addRow {α κ : Type} [Keyed α κ] [DecidableEq κ] {rows : List α} :
    ∀ {t : Table α}, (t.rows.map Keyed.key ++ rows.map Keyed.key).Nodup →
      ∃ t', rows.foldlM addRow t = .ok t' := by
  induction rows with
  | nil => exact fun _ => ⟨_, rfl⟩
  | cons row rows ih =>
    intro t hnodup
    cases hinsert : t.insert? row with
    | none =>
      obtain ⟨x, hx, hkey⟩ := Table.insert?_eq_none.1 hinsert
      rw [List.nodup_append] at hnodup
      exact absurd hkey (hnodup.2.2 _ (List.mem_map_of_mem hx) _
        (List.mem_map_of_mem List.mem_cons_self))
    | some t' =>
      have hrows := (Table.insert?_eq_some hinsert).2
      obtain ⟨t'', h⟩ := ih (t := t') (by
        rw [hrows, List.map_append, List.append_assoc]
        exact hnodup)
      have hadd : addRow t row = .ok t' := addRowOrRaise_eq_ok.2 hinsert
      refine ⟨t'', ?_⟩
      rw [List.foldlM_cons, hadd]
      exact h

theorem mem_of_oneOrRaise {α κ : Type} [Keyed α κ] {t : Table α} {p : α → Bool} {e : Error} {r : α}
    (h : oneOrRaise (t.select p) e = .ok r) : r ∈ t.rows ∧ p r = true := by
  rw [← Table.mem_select, oneOrRaise_eq_ok.1 h]
  exact List.mem_singleton_self r

theorem oneOrRaise_of_key {α κ : Type} [Keyed α κ] {t : Table α} {p : α → Bool} {e : Error} {r : α}
    (hr : r ∈ t.rows) (hp : p r = true)
    (hkey : ∀ x ∈ t.rows, p x = true → Keyed.key x = Keyed.key r) :
    oneOrRaise (t.select p) e = .ok r := by
  rw [oneOrRaise_eq_ok]
  exact Table.select_eq_singleton hr hp fun x hx hpx => Table.eq_of_key_eq hx hr (hkey x hx hpx)

theorem exists_scalarOneOrNone_of_key {α κ : Type} [Keyed α κ] {t : Table α} {p : α → Bool} {k : κ}
    (hkey : ∀ x ∈ t.rows, p x = true → Keyed.key x = k) :
    ∃ o, scalarOneOrNone (t.select p) = .ok o := by
  cases hfound : t.select p with
  | nil => exact ⟨none, rfl⟩
  | cons r rest =>
    have hr : r ∈ t.select p := hfound ▸ List.mem_cons_self
    obtain ⟨hrow, hp⟩ := Table.mem_select.1 hr
    have hone : t.select p = [r] := Table.select_eq_singleton hrow hp fun x hx hpx =>
      Table.eq_of_key_eq hx hrow ((hkey x hx hpx).trans (hkey r hrow hp).symm)
    rw [← hfound, hone]
    exact ⟨some r, rfl⟩

namespace Database

def recordAuditEvent (db : Database) (organizationId : UUID) (userId : Option UUID)
    (action entityType : String) (entityId : Option UUID) : Database :=
  { db with auditEvents := db.auditEvents ++
      [⟨organizationId, userId, action, entityType, entityId⟩] }

/-- `asset_service.get_asset`. -/
def getAsset (db : Database) (organizationId assetId : UUID) : Except Error Asset :=
  oneOrRaise
    (db.assets.select fun a =>
      a.id = assetId && a.organizationId = organizationId && a.deletedAt.isNone)
    (.notFound "Asset not found")

/-- `drone_service.get_drone`. -/
def getDrone (db : Database) (organizationId assetId : UUID) : Except Error Asset :=
  oneOrRaise
    (db.assets.select fun a =>
      a.id = assetId && a.organizationId = organizationId && a.assetType = AssetType.drone &&
        a.deletedAt.isNone)
    (.notFound "Drone not found")

theorem getAsset_of_getDrone {db : Database} {organizationId assetId : UUID} {drone : Asset}
    (h : db.getDrone organizationId assetId = .ok drone) :
    db.getAsset organizationId assetId = .ok drone := by
  have hfound := mem_of_oneOrRaise h
  simp only [Bool.and_eq_true, decide_eq_true_eq] at hfound
  obtain ⟨hmem, ⟨⟨hid, horg⟩, _⟩, hlive⟩ := hfound
  refine oneOrRaise_of_key hmem (by simp [hid, horg, hlive]) ?_
  intro x _ hx
  simp only [Bool.and_eq_true, decide_eq_true_eq] at hx
  exact hx.1.1.trans hid.symm

/-- No asset row that the aircraft joins to is soft-deleted. -/
def notSoftDeleted (db : Database) (a : Aircraft) : Bool :=
  match a.assetId with
  | none => true
  | some assetId =>
    match db.assets.find? assetId with
    | some asset => asset.deletedAt.isNone
    | none => true

/-- `aircraft_service.get_aircraft`. -/
def getAircraft (db : Database) (organizationId aircraftId : UUID) : Except Error Aircraft :=
  oneOrRaise
    (db.aircraft.select fun a =>
      a.id = aircraftId && a.organizationId = organizationId && db.notSoftDeleted a)
    (.notFound "Aircraft not found")

/-- `work_order_service.get_task`. -/
def getTask (db : Database) (organizationId taskId : UUID) : Except Error Task :=
  oneOrRaise (db.tasks.select fun t => t.id = taskId && t.organizationId = organizationId)
    (.notFound "Task not found")

theorem getTask_eq_ok {db : Database} {organizationId taskId : UUID} {task : Task}
    (h : db.getTask organizationId taskId = .ok task) :
    task ∈ db.tasks.rows ∧ task.id = taskId ∧ task.organizationId = organizationId := by
  simpa using mem_of_oneOrRaise h

/-- `work_order_service.get_work_order`. -/
def getWorkOrder (db : Database) (organizationId workOrderId : UUID) : Except Error WorkOrder :=
  oneOrRaise
    (db.workOrders.select fun w =>
      w.id = workOrderId && w.organizationId = organizationId && w.deletedAt.isNone)
    (.notFound "Work order not found")

theorem getWorkOrder_eq_ok {db : Database} {organizationId workOrderId : UUID} {w : WorkOrder}
    (h : db.getWorkOrder organizationId workOrderId = .ok w) :
    w ∈ db.workOrders.rows ∧ w.id = workOrderId ∧ w.organizationId = organizationId := by
  obtain ⟨hmem, hfound⟩ := mem_of_oneOrRaise h
  simp only [Bool.and_eq_true, decide_eq_true_eq] at hfound
  exact ⟨hmem, hfound.1.1, hfound.1.2⟩

end Database
end AeroComply
