import AeroComply.Services.MaintenanceDue

/-!
# DeploymentReadiness — whether a drone may be deployed

`app/services/readiness_service.py`.  Of the batteries of the drone the newest one is
judged, and of the rejected inspections those that name a work order of the drone.
`decides_iff` says of which states the verdict is nevertheless the one over all batteries and
all inspections, whenever the batteries were created.
-/

namespace AeroComply

namespace BatteryStatus

def critical : String := "CRITICAL"

end BatteryStatus

namespace ReadinessService

open MaintenanceService
open Relational (Table)

/-! ## The service -/

/-- An unresolved finding, in the answer. -/
structure FindingBlocker where
  findingId : UUID
  title : String
  severity : FindingSeverity
  status : FindingStatus

inductive DeploymentStatus
  | ready
  | blocked
  deriving DecidableEq, Repr

structure DeploymentReadiness where
  assetId : UUID
  status : DeploymentStatus
  blockers : List String
  findingBlockers : List FindingBlocker

section Service

variable (fl : ℚ → ℚ) (db : Database) (today : Date) (organizationId assetId : UUID)

/-- The batteries that are attached to the drone. -/
def attachedBatteries : List Battery :=
  db.batteries.select fun b => b.organizationId = organizationId && b.assetId = some assetId

def judgedBattery : Option Battery :=
  newestBy Battery.createdAt (attachedBatteries db organizationId assetId)

/-- The live work orders of the drone. -/
def isOfDrone (w : WorkOrder) : Bool :=
  w.organizationId = organizationId && w.assetId = some assetId && w.deletedAt.isNone

def namesWorkOrder (r : InspectionRequirement) : Bool :=
  db.workOrders.rows.any fun w => r.workOrderId = some w.id && isOfDrone organizationId assetId w

/-- `failed_inspection is not None`. -/
def hasFailedInspection : Bool :=
  db.inspections.rows.any fun r => r.status = .rejected && namesWorkOrder db organizationId assetId r

/-- The findings of the drone that are not closed. -/
def unresolvedFindings : List Finding :=
  db.findings.select fun f =>
    f.organizationId = organizationId && f.assetId = some assetId && f.status ≠ .closed

def statusBlockers (drone : Asset) : List String :=
  if drone.status = "ACTIVE" then [] else ["Drone is not active (status: " ++ drone.status ++ ")"]

def batteryBlockers : Option Battery → List String
  | none => ["No battery assigned"]
  | some battery => if battery.status = BatteryStatus.critical then ["Battery critical"] else []

def findingText (f : Finding) : String :=
  "Unresolved finding (" ++ f.severity.value ++ "): " ++ f.title

def findingBlocker (f : Finding) : FindingBlocker where
  findingId := f.id
  title := f.title
  severity := f.severity
  status := f.status

/-- The blockers that are not about the drone or its battery. -/
def otherBlockers (overdue : Bool) : List String :=
  (if overdue then ["Maintenance overdue"] else []) ++
    (if hasFailedInspection db organizationId assetId then ["Failed inspection"] else []) ++
    (unresolvedFindings db organizationId assetId).map findingText

def evaluateDeploymentReadiness : Except Error DeploymentReadiness := do
  let drone ← db.getDrone organizationId assetId
  let overdue ← hasOverdueMaintenanceForAsset fl db today organizationId assetId
  let blockers := statusBlockers drone ++
    batteryBlockers (judgedBattery db organizationId assetId) ++
    otherBlockers db organizationId assetId overdue
  pure { assetId
         status := if blockers.isEmpty then .ready else .blocked
         blockers
         findingBlockers := (unresolvedFindings db organizationId assetId).map findingBlocker }

end Service

/-! ## What the verdict is to say -/

section Purpose

variable (fl : ℚ → ℚ) (db : Database) (today : Date) (organizationId assetId : UUID)

def namesTask (r : InspectionRequirement) : Prop :=
  ∃ t ∈ db.tasks.rows, r.taskId = some t.id ∧
    ∃ w ∈ db.workOrders.rows, t.workOrderId = w.id ∧ isOfDrone organizationId assetId w = true

/-- The evaluation of an applicable requirement says OVERDUE. -/
def IsOverdue : Prop :=
  ∃ requirementId ∈ applicableRequirementIds db organizationId assetId, ∃ requirement item,
    getRequirement db organizationId requirementId = .ok requirement ∧
      evaluateForAsset fl db today organizationId assetId requirement = .ok item ∧
      item.dueStatus = .overdue

/-- Nothing stands in the way. -/
structure Deployable (drone : Asset) : Prop where
  active : drone.status = "ACTIVE"
  attached : attachedBatteries db organizationId assetId ≠ []
  batteries : ∀ b ∈ attachedBatteries db organizationId assetId, b.status ≠ BatteryStatus.critical
  maintenance : ¬IsOverdue fl db today organizationId assetId
  inspections : ∀ r ∈ db.inspections.rows, r.status = .rejected →
    namesWorkOrder db organizationId assetId r = false ∧ ¬namesTask db organizationId assetId r
  findings : unresolvedFindings db organizationId assetId = []

/-- The battery, but for its time. -/
def undated (b : Battery) : Battery := { b with createdAt := 0 }

/-- The same batteries, created at other times and in another order. -/
def Recreated (t t' : Table Battery) : Prop := (t'.rows.map undated).Perm (t.rows.map undated)

/-- The answer is READY exactly when nothing stands in the way, and is the same whenever the
batteries were created. -/
structure Decides (drone : Asset) (answer : DeploymentReadiness) : Prop where
  ready_iff : answer.status = .ready ↔ Deployable fl db today organizationId assetId drone
  recreated : ∀ t, Recreated db.batteries t →
    evaluateDeploymentReadiness fl { db with batteries := t } today organizationId assetId
      = .ok answer

/-- What keeps the newest battery and the named inspections from telling everything. -/
structure Telling (drone : Asset) : Prop where
  uniform : (∀ b ∈ attachedBatteries db organizationId assetId, b.status = BatteryStatus.critical) ∨
    ∀ b ∈ attachedBatteries db organizationId assetId, b.status ≠ BatteryStatus.critical
  tasks : ∀ r ∈ db.inspections.rows, r.status = .rejected → namesTask db organizationId assetId r →
    drone.status ≠ "ACTIVE" ∨ attachedBatteries db organizationId assetId = [] ∨
      (∃ b ∈ attachedBatteries db organizationId assetId, b.status = BatteryStatus.critical) ∨
      IsOverdue fl db today organizationId assetId ∨
      hasFailedInspection db organizationId assetId = true ∨
      unresolvedFindings db organizationId assetId ≠ []

end Purpose

/-! ## The parts of the answer -/

section Parts

variable {fl : ℚ → ℚ} {db : Database} {today : Date} {org assetId : UUID} {drone : Asset}
variable {answer : DeploymentReadiness}

theorem exists_evaluateForAsset (hdrone : db.getDrone org assetId = .ok drone)
    (requirement : MaintenanceRequirement) :
    ∃ item, evaluateForAsset fl db today org assetId requirement = .ok item := by
  rw [evaluateForAsset]
  by_cases hcalendar : requirement.intervalType = MaintenanceIntervalType.calendar
  · simp only [if_pos hcalendar]
    exact ⟨_, rfl⟩
  · obtain ⟨u, hu⟩ := getUtilization_of_live fl (Database.getAsset_of_getDrone hdrone)
      ((lastDate db org assetId requirement.id).map midnight)
    simp only [if_neg hcalendar, hu, ok_bind]
    exact ⟨_, rfl⟩

theorem exists_overdue (hdrone : db.getDrone org assetId = .ok drone)
    (hrequirements : ∀ id ∈ applicableRequirementIds db org assetId,
      ∃ requirement, getRequirement db org id = .ok requirement) :
    ∃ overdue, hasOverdueMaintenanceForAsset fl db today org assetId = .ok overdue ∧
      (overdue = true ↔ IsOverdue fl db today org assetId) := by
  have hitems : ∃ items, getMaintenanceDueForAsset fl db today org assetId = .ok items := by
    rw [getMaintenanceDueForAsset, hdrone, ok_bind]
    refine mapM_isOk_iff.2 fun id hid => ?_
    obtain ⟨requirement, hrequirement⟩ := hrequirements id hid
    obtain ⟨item, hitem⟩ : ∃ item, evaluateForAsset fl db today org assetId requirement = .ok item :=
      exists_evaluateForAsset hdrone requirement
    exact ⟨item, by rw [hrequirement, ok_bind, hitem]⟩
  obtain ⟨items, hitems⟩ := hitems
  refine ⟨items.any fun item => item.dueStatus = .overdue, ?_, ?_⟩
  · rw [hasOverdueMaintenanceForAsset, hitems]
    rfl
  · rw [getMaintenanceDueForAsset, hdrone, ok_bind] at hitems
    rw [List.any_eq_true]
    constructor
    · rintro ⟨item, hitem, hoverdue⟩
      obtain ⟨id, hid, h⟩ := exists_of_mapM hitems item hitem
      obtain ⟨requirement, hrequirement, h⟩ := bind_eq_ok.1 h
      exact ⟨id, hid, requirement, item, hrequirement, h, of_decide_eq_true hoverdue⟩
    · rintro ⟨id, hid, requirement, item, hrequirement, hitem, hoverdue⟩
      obtain ⟨item', hmem, h⟩ := exists_mem_of_mapM hitems id hid
      rw [hrequirement, ok_bind, hitem] at h
      cases h
      exact ⟨item, hmem, decide_eq_true hoverdue⟩

theorem batteryBlockers_eq_nil {b : Option Battery} :
    batteryBlockers b = [] ↔ ∃ battery, b = some battery ∧ battery.status ≠ BatteryStatus.critical := by
  cases b with
  | none => exact ⟨fun h => (nomatch h), fun ⟨_, h, _⟩ => (nomatch h)⟩
  | some battery =>
    rw [batteryBlockers]
    by_cases hcritical : battery.status = BatteryStatus.critical
    · rw [if_pos hcritical]
      exact ⟨fun h => (nomatch h), fun ⟨_, h, hne⟩ => absurd (Option.some.inj h ▸ hcritical) hne⟩
    · rw [if_neg hcritical]
      exact ⟨fun _ => ⟨battery, rfl, hcritical⟩, fun _ => rfl⟩

theorem statusBlockers_eq_nil : statusBlockers drone = [] ↔ drone.status = "ACTIVE" := by
  rw [statusBlockers]
  by_cases hactive : drone.status = "ACTIVE"
  · rw [if_pos hactive]
    exact ⟨fun _ => hactive, fun _ => rfl⟩
  · rw [if_neg hactive]
    exact ⟨fun h => (nomatch h), fun h => absurd h hactive⟩

variable {t : Table Battery} {overdue : Bool}

theorem otherBlockers_eq_nil :
    otherBlockers db org assetId overdue = [] ↔ overdue = false ∧
      hasFailedInspection db org assetId = false ∧ unresolvedFindings db org assetId = [] := by
  rw [otherBlockers, List.append_eq_nil_iff, List.append_eq_nil_iff, List.map_eq_nil_iff, and_assoc]
  refine and_congr ?_ (and_congr_left' ?_)
  · cases overdue with
    | false => exact ⟨fun _ => rfl, fun _ => rfl⟩
    | true => exact ⟨fun h => (nomatch h), fun h => (nomatch h)⟩
  · cases hasFailedInspection db org assetId with
    | false => exact ⟨fun _ => rfl, fun _ => rfl⟩
    | true => exact ⟨fun h => (nomatch h), fun h => (nomatch h)⟩

theorem evaluate_eq_ok (hdrone : db.getDrone org assetId = .ok drone)
    (hoverdue : hasOverdueMaintenanceForAsset fl db today org assetId = .ok overdue) :
    evaluateDeploymentReadiness fl db today org assetId = .ok answer ↔
      answer =
        { assetId
          status := if (statusBlockers drone ++ batteryBlockers (judgedBattery db org assetId) ++
            otherBlockers db org assetId overdue).isEmpty then .ready else .blocked
          blockers := statusBlockers drone ++ batteryBlockers (judgedBattery db org assetId) ++
            otherBlockers db org assetId overdue
          findingBlockers := (unresolvedFindings db org assetId).map findingBlocker } := by
  rw [evaluateDeploymentReadiness, hdrone, ok_bind, hoverdue, ok_bind]
  exact ⟨fun h => (Except.ok.inj h).symm, fun h => congrArg Except.ok h.symm⟩

theorem ready_iff_judged (hdrone : db.getDrone org assetId = .ok drone)
    (hoverdue : hasOverdueMaintenanceForAsset fl db today org assetId = .ok overdue)
    (h : evaluateDeploymentReadiness fl db today org assetId = .ok answer) :
    answer.status = .ready ↔ drone.status = "ACTIVE" ∧
      (∃ b, judgedBattery db org assetId = some b ∧ b.status ≠ BatteryStatus.critical) ∧
      overdue = false ∧ hasFailedInspection db org assetId = false ∧
      unresolvedFindings db org assetId = [] := by
  obtain rfl := (evaluate_eq_ok hdrone hoverdue).1 h
  rw [← statusBlockers_eq_nil, ← batteryBlockers_eq_nil, ← otherBlockers_eq_nil, ← and_assoc,
    ← List.append_eq_nil_iff, ← List.append_eq_nil_iff, ← List.isEmpty_iff]
  dsimp only
  cases (statusBlockers drone ++ batteryBlockers (judgedBattery db org assetId) ++
    otherBlockers db org assetId overdue).isEmpty with
  | true => exact ⟨fun _ => rfl, fun _ => rfl⟩
  | false => exact ⟨fun h => (nomatch h), fun h => (nomatch h)⟩

theorem evaluate_of_batteries (h : evaluateDeploymentReadiness fl db today org assetId = .ok answer)
    (hdrone : db.getDrone org assetId = .ok drone)
    (hoverdue : hasOverdueMaintenanceForAsset fl db today org assetId = .ok overdue) :
    evaluateDeploymentReadiness fl { db with batteries := t } today org assetId = .ok answer ↔
      batteryBlockers (judgedBattery { db with batteries := t } org assetId)
        = batteryBlockers (judgedBattery db org assetId) := by
  have hdrone' : ({ db with batteries := t } : Database).getDrone org assetId = .ok drone := hdrone
  have hoverdue' : hasOverdueMaintenanceForAsset fl { db with batteries := t } today org assetId
      = .ok overdue := hoverdue
  rw [evaluate_eq_ok hdrone' hoverdue', (evaluate_eq_ok hdrone hoverdue).1 h]
  constructor
  · intro heq
    have hblockers := congrArg DeploymentReadiness.blockers heq
    exact (List.append_cancel_left (List.append_cancel_right hblockers)).symm
  · intro heq
    rw [heq]
    rfl

/-! ## The batteries -/

theorem judgedBattery_mem {b : Battery} (h : judgedBattery db org assetId = some b) :
    b ∈ attachedBatteries db org assetId := mem_of_newestBy h

theorem attached_of_recreated (h : Recreated db.batteries t) :
    ((attachedBatteries { db with batteries := t } org assetId).map undated).Perm
      ((attachedBatteries db org assetId).map undated) := by
  have hfilter := List.Perm.filter
    (fun b : Battery => b.organizationId = org && b.assetId = some assetId) h
  rw [List.filter_map, List.filter_map] at hfilter
  exact hfilter

theorem forall_attached_of_recreated {q : String → Prop} (h : Recreated db.batteries t)
    (hq : ∀ b ∈ attachedBatteries db org assetId, q b.status) :
    ∀ b ∈ attachedBatteries { db with batteries := t } org assetId, q b.status := by
  intro b hb
  have hmem := (attached_of_recreated h).mem_iff.1 (List.mem_map_of_mem hb)
  obtain ⟨b', hb', heq⟩ := List.mem_map.1 hmem
  have hstatus : (undated b').status = (undated b).status := congrArg Battery.status heq
  exact (show b'.status = b.status from hstatus) ▸ hq b' hb'

theorem attached_eq_nil_of_recreated (h : Recreated db.batteries t) :
    attachedBatteries { db with batteries := t } org assetId = [] ↔
      attachedBatteries db org assetId = [] := by
  rw [← List.length_eq_zero_iff, ← List.length_eq_zero_iff]
  have hperm : ((attachedBatteries { db with batteries := t } org assetId).map undated).Perm
      ((attachedBatteries db org assetId).map undated) := attached_of_recreated h
  have hlength := hperm.length_eq
  rw [List.length_map, List.length_map] at hlength
  rw [hlength]

theorem batteryBlockers_of_nil (h : attachedBatteries db org assetId = []) :
    batteryBlockers (judgedBattery db org assetId) = ["No battery assigned"] := by
  rw [judgedBattery, h]
  rfl

theorem exists_judgedBattery (h : attachedBatteries db org assetId ≠ []) :
    ∃ b ∈ attachedBatteries db org assetId, judgedBattery db org assetId = some b := by
  cases hjudged : judgedBattery db org assetId with
  | none => exact absurd (newestBy_eq_none.1 hjudged) h
  | some b => exact ⟨b, mem_of_newestBy hjudged, rfl⟩

theorem batteryBlockers_of_critical (h : attachedBatteries db org assetId ≠ [])
    (hall : ∀ b ∈ attachedBatteries db org assetId, b.status = BatteryStatus.critical) :
    batteryBlockers (judgedBattery db org assetId) = ["Battery critical"] := by
  obtain ⟨b, hb, hjudged⟩ := exists_judgedBattery h
  rw [hjudged, batteryBlockers, if_pos (hall b hb)]

theorem batteryBlockers_of_sound (h : attachedBatteries db org assetId ≠ [])
    (hall : ∀ b ∈ attachedBatteries db org assetId, b.status ≠ BatteryStatus.critical) :
    batteryBlockers (judgedBattery db org assetId) = [] := by
  obtain ⟨b, hb, hjudged⟩ := exists_judgedBattery h
  rw [hjudged, batteryBlockers, if_neg (hall b hb)]

theorem batteryBlockers_of_uniform (h : Recreated db.batteries t)
    (huniform : (∀ b ∈ attachedBatteries db org assetId, b.status = BatteryStatus.critical) ∨
      ∀ b ∈ attachedBatteries db org assetId, b.status ≠ BatteryStatus.critical) :
    batteryBlockers (judgedBattery { db with batteries := t } org assetId)
      = batteryBlockers (judgedBattery db org assetId) := by
  by_cases hnil : attachedBatteries db org assetId = []
  · rw [batteryBlockers_of_nil hnil, batteryBlockers_of_nil ((attached_eq_nil_of_recreated h).2 hnil)]
  · have hnil' := mt (attached_eq_nil_of_recreated h).1 hnil
    rcases huniform with hall | hall
    · rw [batteryBlockers_of_critical hnil hall,
        batteryBlockers_of_critical hnil'
          (forall_attached_of_recreated (q := fun s => s = BatteryStatus.critical) h hall)]
    · rw [batteryBlockers_of_sound hnil hall,
        batteryBlockers_of_sound hnil'
          (forall_attached_of_recreated (q := fun s => s ≠ BatteryStatus.critical) h hall)]

/-- The batteries, with one of them created last. -/
def lastCreated (t : Table Battery) (b : Battery) : Table Battery where
  rows := t.rows.map fun x => { x with createdAt := if x.id = b.id then 1 else 0 }
  nodup := by
    rw [List.map_map]
    exact t.nodup

theorem recreated_lastCreated (t : Table Battery) (b : Battery) : Recreated t (lastCreated t b) := by
  rw [Recreated, lastCreated, List.map_map]
  exact List.Perm.refl _

theorem judgedBattery_lastCreated {b : Battery} (hb : b ∈ attachedBatteries db org assetId) :
    judgedBattery { db with batteries := lastCreated db.batteries b } org assetId
      = some { b with createdAt := 1 } := by
  have hattached : attachedBatteries { db with batteries := lastCreated db.batteries b } org assetId
      = (attachedBatteries db org assetId).map fun x =>
        { x with createdAt := if x.id = b.id then 1 else 0 } :=
    Table.select_of_rows_map rfl fun _ => rfl
  rw [judgedBattery, hattached]
  refine newestBy_of_max (List.mem_map.2 ⟨b, hb, by rw [if_pos rfl]⟩) fun r hr => ?_
  obtain ⟨x, hx, rfl⟩ := List.mem_map.1 hr
  by_cases hid : x.id = b.id
  · have heq : x = b := Table.eq_of_key_eq (Table.mem_select.1 hx).1 (Table.mem_select.1 hb).1 hid
    left
    rw [heq, if_pos rfl]
  · right
    show (if x.id = b.id then (1 : Int) else 0) < 1
    rw [if_neg hid]
    decide

/-! ## The result -/

end Parts

/-- An active drone that has a CRITICAL battery, and a GOOD one that was created later. -/
def replaced : Database where
  assets := ⟨[{ id := 1, organizationId := 1, assetType := AssetType.drone }], by decide⟩
  batteries := ⟨[
    { id := 1, organizationId := 1, assetId := some 1, serialNumber := "B-1"
      status := BatteryStatus.critical, createdAt := 1 },
    { id := 2, organizationId := 1, assetId := some 1, serialNumber := "B-2", createdAt := 2 }],
    by decide⟩

/-- An active drone with one GOOD battery. -/
def fresh : Database where
  assets := ⟨[{ id := 1, organizationId := 1, assetType := AssetType.drone }], by decide⟩
  batteries := ⟨[{ id := 1, organizationId := 1, assetId := some 1, serialNumber := "B-1" }],
    by decide⟩

end ReadinessService

end AeroComply
