import AeroComply.Services.Flight

/-!
# MaintenanceDue — what the maintenance engine says of an asset

The asset path of `app/services/maintenance_service.py`: the requirements that apply to
an asset, and for each one its usage since it was last accomplished, or its date.
Texts that explain a status are left out.  `fl` rounds an exact number to the float the
interpreter computes.
-/

namespace AeroComply

namespace MaintenanceService

open FlightService

inductive DueStatus
  | overdue
  | dueSoon
  | notDue
  | unknown
  deriving DecidableEq, Repr

structure MaintenanceDueItem where
  requirement : MaintenanceRequirement
  assetId : UUID
  lastAccomplishedAt : Option Date
  dueStatus : DueStatus
  dueDate : Option Date := none
  currentUsage : Option ℚ := none
  remainingUsage : Option ℚ := none

def hoursMetrics : List String :=
  [MaintenanceIntervalType.flightHours, MaintenanceIntervalType.componentHours]

def cyclesMetrics : List String :=
  [MaintenanceIntervalType.flightCycles, MaintenanceIntervalType.batteryCycles,
    MaintenanceIntervalType.componentCycles]

/-- The interval that counts for a metric of usage. -/
def usageInterval (requirement : MaintenanceRequirement) : Option Int :=
  if hoursMetrics.contains requirement.intervalType then requirement.fhInterval
  else if cyclesMetrics.contains requirement.intervalType then requirement.fcInterval
  else none

def dueStatusFor (today : Date) (requirement : MaintenanceRequirement)
    (lastAccomplishedAt : Option Date) : DueStatus × Option Date :=
  if requirement.intervalType = MaintenanceIntervalType.flightHours ∨
      requirement.intervalType = MaintenanceIntervalType.flightCycles then (.unknown, none)
  else
    match requirement.calendarIntervalDays, lastAccomplishedAt with
    | none, _ | some _, none => (.unknown, none)
    | some days, some last =>
      let dueDate := last + days
      let daysUntilDue := dueDate - today
      (if daysUntilDue < 0 then .overdue else if daysUntilDue ≤ 30 then .dueSoon else .notDue,
        some dueDate)

/-- Midnight UTC of a day. -/
def midnight (d : Date) : DateTime := d * 86400000000

section Engine

variable (fl : ℚ → ℚ) (db : Database) (today : Date) (organizationId assetId : UUID)

/-- `_usage_due_status_for`: the status, and what remains. -/
def usageDueStatusFor (requirement : MaintenanceRequirement) (currentUsage : ℚ) : DueStatus × ℚ :=
  match usageInterval requirement with
  | none => (.unknown, 0)
  | some interval =>
    let remaining := max 0 (fl (fl interval - currentUsage))
    if interval ≤ currentUsage then (.overdue, remaining)
    else if fl (fl interval * fl (9 / 10)) ≤ currentUsage then (.dueSoon, remaining)
    else (.notDue, remaining)

def latestAccomplishmentForAsset (requirementId : UUID) : Option MaintenanceAccomplishment :=
  newestBy MaintenanceAccomplishment.accomplishedAt (db.accomplishments.select fun a =>
    a.organizationId = organizationId && a.requirementId = requirementId &&
      a.assetId = some assetId)

/-- The day on which the requirement was last accomplished. -/
def lastDate (requirementId : UUID) : Option Date :=
  (latestAccomplishmentForAsset db organizationId assetId requirementId).map
    MaintenanceAccomplishment.accomplishedAt

def evaluateForAsset (requirement : MaintenanceRequirement) : Except Error MaintenanceDueItem := do
  let last := lastDate db organizationId assetId requirement.id
  if requirement.intervalType = MaintenanceIntervalType.calendar then
    let due := dueStatusFor today requirement last
    return { requirement, assetId, lastAccomplishedAt := last, dueStatus := due.1
             dueDate := due.2 }
  let utilization ← getUtilization fl db organizationId assetId (last.map midnight) none
  let currentUsage :=
    if requirement.intervalType = MaintenanceIntervalType.flightHours then
      fl (utilization.totalMinutes / 60)
    else fl utilization.totalCycles
  let due := usageDueStatusFor fl requirement currentUsage
  let known := decide (due.1 ≠ .unknown)
  return { requirement, assetId, lastAccomplishedAt := last, dueStatus := due.1
           currentUsage := if known then some currentUsage else none
           remainingUsage := if known then some due.2 else none }

/-- The requirements that an applicability row gives the asset. -/
def applicableRequirementIds : List UUID :=
  (db.requirementApplicabilities.select fun a =>
    a.organizationId = organizationId && a.assetId = some assetId).map
    MaintenanceRequirementApplicability.requirementId

def getRequirement (requirementId : UUID) : Except Error MaintenanceRequirement :=
  oneOrRaise (db.maintenanceRequirements.select fun r =>
      r.id = requirementId && r.organizationId = organizationId)
    (.notFound "Maintenance requirement not found")

def getMaintenanceDueForAsset : Except Error (List MaintenanceDueItem) := do
  let _ ← db.getDrone organizationId assetId
  (applicableRequirementIds db organizationId assetId).mapM fun requirementId => do
    let requirement ← getRequirement db organizationId requirementId
    evaluateForAsset fl db today organizationId assetId requirement

def hasOverdueMaintenanceForAsset : Except Error Bool := do
  let items ← getMaintenanceDueForAsset fl db today organizationId assetId
  return items.any fun item => item.dueStatus = .overdue

/-- `total_minutes` of `get_utilization`, for a live asset. -/
def minutesSince (since : Option DateTime) : Int :=
  let terms := baselineTerms fl (activeBaseline db organizationId assetId) since
  terms.1.1 + (flownTotals db organizationId assetId terms.2 none).1

end Engine

section Usage

variable {fl : ℚ → ℚ} {db : Database} {today : Date} {organizationId assetId : UUID}
  {requirement : MaintenanceRequirement}

theorem totalMinutes_eq {since : Option DateTime} {u : Utilization}
    (h : getUtilization fl db organizationId assetId since none = .ok u) :
    u.totalMinutes = minutesSince fl db organizationId assetId since := by
  obtain ⟨_, _, h⟩ := bind_eq_ok.1 h
  cases pure_eq_ok.1 h
  rfl

theorem getUtilization_of_live (fl : ℚ → ℚ) {asset : Asset}
    (h : db.getAsset organizationId assetId = .ok asset) (since : Option DateTime) :
    ∃ u, getUtilization fl db organizationId assetId since none = .ok u := by
  rw [getUtilization, h]
  exact ⟨_, rfl⟩

/-- The hours since the requirement was last accomplished. -/
def usageHours (fl : ℚ → ℚ) (db : Database) (organizationId assetId requirementId : UUID) : ℚ :=
  fl (minutesSince fl db organizationId assetId
    ((lastDate db organizationId assetId requirementId).map midnight) / 60)

/-- **WHAT THE ENGINE SAYS** of a requirement of flight hours: its status is that of the hours since
it was last accomplished. -/
theorem evaluateForAsset_flightHours (fl : ℚ → ℚ) (today : Date)
    (htype : requirement.intervalType = MaintenanceIntervalType.flightHours) {asset : Asset}
    (hasset : db.getAsset organizationId assetId = .ok asset) :
    ∃ item, evaluateForAsset fl db today organizationId assetId requirement = .ok item ∧
      item.dueStatus = (usageDueStatusFor fl requirement
        (usageHours fl db organizationId assetId requirement.id)).1 := by
  obtain ⟨u, hu⟩ := getUtilization_of_live fl hasset
    ((lastDate db organizationId assetId requirement.id).map midnight)
  have hne : requirement.intervalType ≠ MaintenanceIntervalType.calendar := by
    rw [htype]
    decide
  simp only [evaluateForAsset, if_neg hne, if_pos htype, hu, ok_bind]
  refine ⟨_, rfl, ?_⟩
  rw [totalMinutes_eq hu, usageHours]

theorem evaluateForAsset_of_gone
    (htype : requirement.intervalType = MaintenanceIntervalType.flightHours) {e : Error}
    (hasset : db.getAsset organizationId assetId = .error e) :
    evaluateForAsset fl db today organizationId assetId requirement = .error e := by
  have hne : requirement.intervalType ≠ MaintenanceIntervalType.calendar := by
    rw [htype]
    decide
  rw [evaluateForAsset, if_neg hne, getUtilization, hasset]
  rfl

theorem usageInterval_flightHours
    (htype : requirement.intervalType = MaintenanceIntervalType.flightHours) :
    usageInterval requirement = requirement.fhInterval := by
  rw [usageInterval, htype, if_pos (by decide)]

end Usage

end MaintenanceService
end AeroComply
