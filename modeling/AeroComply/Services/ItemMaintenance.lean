import AeroComply.Services.DueOrder
import AeroComply.Services.Maintenance

/-!
# ItemMaintenance — what the maintenance engine says of a battery or a component

The battery and component paths of `app/services/maintenance_service.py`, next to the asset
path of `MaintenanceDue`.  Each path has an evaluator of its own, which chooses the usage
figure; `_usage_due_status_for` chooses the interval it is compared with.
-/

namespace AeroComply

namespace MaintenanceService

open FlightService

/-- `MaintenanceDueItem` of a battery or a component. -/
structure PartDueItem where
  requirement : MaintenanceRequirement
  batteryId : Option UUID := none
  componentId : Option UUID := none
  lastAccomplishedAt : Option Date
  dueStatus : DueStatus
  currentUsage : Option ℚ := none
  remainingUsage : Option ℚ := none
  lifetimeUsage : Option ℚ := none

section Evaluators

variable (fl : ℚ → ℚ) (db : Database) (organizationId : UUID)

def getBattery (batteryId : UUID) : Except Error Battery :=
  oneOrRaise (db.batteries.select fun b =>
      b.id = batteryId && b.organizationId = organizationId)
    (.notFound "Battery not found")

def getComponent (componentId : UUID) : Except Error Component :=
  oneOrRaise (db.components.select fun c =>
      c.id = componentId && c.organizationId = organizationId)
    (.notFound "Component not found")

/-- `_latest_accomplishment_for_battery`, the day of it. -/
def lastDateForBattery (requirementId batteryId : UUID) : Option Date :=
  (newestBy MaintenanceAccomplishment.accomplishedAt (db.accomplishments.select fun a =>
    a.organizationId = organizationId && a.requirementId = requirementId &&
      a.batteryId = some batteryId)).map MaintenanceAccomplishment.accomplishedAt

/-- `_latest_accomplishment_for_component`, the day of it. -/
def lastDateForComponent (requirementId componentId : UUID) : Option Date :=
  (newestBy MaintenanceAccomplishment.accomplishedAt (db.accomplishments.select fun a =>
    a.organizationId = organizationId && a.requirementId = requirementId &&
      a.componentId = some componentId)).map MaintenanceAccomplishment.accomplishedAt

/-- The windows that `_evaluate_for_battery` reads. -/
def windowsOfBattery (battery : Battery) : List InstallationWindow :=
  installationWindows
    (db.batteryInstallations.select fun r =>
      r.organizationId = organizationId && r.itemId = battery.id)
    battery.assetId battery.installedAt battery.createdAt

/-- The windows that `_evaluate_for_component` reads; a component has no `installed_at`. -/
def windowsOfComponent (component : Component) : List InstallationWindow :=
  installationWindows
    (db.componentInstallations.select fun r =>
      r.organizationId = organizationId && r.itemId = component.id)
    component.assetId none component.createdAt

/-- `_evaluate_for_battery`: the hours are not looked at. -/
def evaluateForBattery (battery : Battery) (requirement : MaintenanceRequirement) :
    Except Error PartDueItem := do
  let last := lastDateForBattery db organizationId requirement.id battery.id
  let since ← usageAcrossWindows fl db organizationId (windowsOfBattery db organizationId battery)
    (last.map midnight)
  let due := usageDueStatusFor fl requirement since.2
  let known := decide (due.1 ≠ .unknown)
  return { requirement, batteryId := some battery.id, lastAccomplishedAt := last
           dueStatus := due.1
           currentUsage := if known then some since.2 else none
           remainingUsage := if known then some due.2 else none
           lifetimeUsage := some (fl battery.cycleCount) }

/-- `_evaluate_for_component`: hours for COMPONENT_HOURS, cycles for any other type. -/
def evaluateForComponent (component : Component) (requirement : MaintenanceRequirement) :
    Except Error PartDueItem := do
  let last := lastDateForComponent db organizationId requirement.id component.id
  let windows := windowsOfComponent db organizationId component
  let since ← usageAcrossWindows fl db organizationId windows (last.map midnight)
  let figure (usage : ℚ × ℚ) : ℚ :=
    if requirement.intervalType = MaintenanceIntervalType.componentHours then usage.1 else usage.2
  let due := usageDueStatusFor fl requirement (figure since)
  let lifetime ← usageAcrossWindows fl db organizationId windows none
  let known := decide (due.1 ≠ .unknown)
  return { requirement, componentId := some component.id, lastAccomplishedAt := last
           dueStatus := due.1
           currentUsage := if known then some (figure since) else none
           remainingUsage := if known then some due.2 else none
           lifetimeUsage := if known then some (figure lifetime) else none }

/-- The requirements that an applicability row gives the battery. -/
def requirementIdsOfBattery (batteryId : UUID) : List UUID :=
  (db.requirementApplicabilities.select fun a =>
    a.organizationId = organizationId && a.batteryId = some batteryId).map
    MaintenanceRequirementApplicability.requirementId

/-- The requirements that an applicability row gives the component. -/
def requirementIdsOfComponent (componentId : UUID) : List UUID :=
  (db.requirementApplicabilities.select fun a =>
    a.organizationId = organizationId && a.componentId = some componentId).map
    MaintenanceRequirementApplicability.requirementId

def getMaintenanceDueForBattery (batteryId : UUID) : Except Error (List PartDueItem) := do
  let battery ← getBattery db organizationId batteryId
  (requirementIdsOfBattery db organizationId batteryId).mapM fun requirementId => do
    let requirement ← getRequirement db organizationId requirementId
    evaluateForBattery fl db organizationId battery requirement

def getMaintenanceDueForComponent (componentId : UUID) : Except Error (List PartDueItem) := do
  let component ← getComponent db organizationId componentId
  (requirementIdsOfComponent db organizationId componentId).mapM fun requirementId => do
    let requirement ← getRequirement db organizationId requirementId
    evaluateForComponent fl db organizationId component requirement

end Evaluators

theorem id_of_getRequirement {db : Database} {organizationId requirementId : UUID}
    {requirement : MaintenanceRequirement}
    (h : getRequirement db organizationId requirementId = .ok requirement) :
    requirement.id = requirementId := by
  have hmem := mem_of_oneOrRaise h
  simp only [Bool.and_eq_true, decide_eq_true_eq] at hmem
  exact hmem.2.1

theorem getBattery_of_mem {db : Database} {b : Battery} (hb : b ∈ db.batteries.rows) :
    getBattery db b.organizationId b.id = .ok b := by
  refine oneOrRaise_of_key hb (by simp) ?_
  intro x _ hx
  simp only [Bool.and_eq_true, decide_eq_true_eq] at hx
  exact hx.1

theorem getComponent_of_mem {db : Database} {c : Component} (hc : c ∈ db.components.rows) :
    getComponent db c.organizationId c.id = .ok c := by
  refine oneOrRaise_of_key hc (by simp) ?_
  intro x _ hx
  simp only [Bool.and_eq_true, decide_eq_true_eq] at hx
  exact hx.1

/-! ## What a requirement is made applicable to -/

section Applicability

variable (db : Database) (newId organizationId : UUID) (actorUserId : Option UUID)
  (requirementId : UUID)

/-- The row of an applicability, and its log entry. -/
def addApplicabilityRow (row : MaintenanceRequirementApplicability) : Except Error Database := do
  let requirementApplicabilities ← addRow db.requirementApplicabilities row
  pure (({ db with requirementApplicabilities }).recordAuditEvent organizationId actorUserId
    "maintenance_requirement.applicability_added" "MaintenanceRequirement" (some requirementId))

def addApplicabilityForAsset (assetId : UUID) : Except Error Database := do
  let requirement ← getRequirement db organizationId requirementId
  let _ ← db.getDrone organizationId assetId
  addApplicabilityRow db organizationId actorUserId requirementId
    { id := newId, organizationId, requirementId := requirement.id, assetId := some assetId }

def addApplicabilityForBattery (batteryId : UUID) : Except Error Database := do
  let requirement ← getRequirement db organizationId requirementId
  let _ ← getBattery db organizationId batteryId
  addApplicabilityRow db organizationId actorUserId requirementId
    { id := newId, organizationId, requirementId := requirement.id, batteryId := some batteryId }

def addApplicabilityForComponent (componentId : UUID) : Except Error Database := do
  let requirement ← getRequirement db organizationId requirementId
  let _ ← getComponent db organizationId componentId
  addApplicabilityRow db organizationId actorUserId requirementId
    { id := newId, organizationId, requirementId := requirement.id
      componentId := some componentId }

end Applicability

end MaintenanceService
end AeroComply
