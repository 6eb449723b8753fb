import AeroComply.Services.ItemMaintenance

/-!
# DueUnits — hours against hours, cycles against cycles

A requirement of any type can be made applicable to an asset, a battery or a component.
`_usage_due_status_for` picks the interval by two lists of types; each evaluator picks the
figure by one test of its own.  `FitsKind` says on which types the tests agree.
-/

namespace AeroComply

open Relational (Table)

namespace MaintenanceService

open FlightService

/-- What a requirement is applicable to. -/
inductive ItemKind
  | asset
  | battery
  | component
  deriving DecidableEq, Repr

/-- What is told about a requirement of an item of any kind. -/
structure ReportedDue where
  requirement : MaintenanceRequirement
  dueStatus : DueStatus
  dueDate : Option Date
  currentUsage : Option ℚ

def MaintenanceDueItem.reported (item : MaintenanceDueItem) : ReportedDue :=
  { requirement := item.requirement, dueStatus := item.dueStatus, dueDate := item.dueDate
    currentUsage := item.currentUsage }

/-- The path of the parts never sets a due date. -/
def PartDueItem.reported (item : PartDueItem) : ReportedDue :=
  { requirement := item.requirement, dueStatus := item.dueStatus, dueDate := none
    currentUsage := item.currentUsage }

section Kinds

variable (fl : ℚ → ℚ) (db : Database) (today : Date) (organizationId : UUID)

/-- `get_maintenance_due_for_asset`, `_battery` and `_component`. -/
def maintenanceDue : ItemKind → UUID → Except Error (List ReportedDue)
  | .asset, id =>
    (getMaintenanceDueForAsset fl db today organizationId id).map
      (List.map MaintenanceDueItem.reported)
  | .battery, id =>
    (getMaintenanceDueForBattery fl db organizationId id).map (List.map PartDueItem.reported)
  | .component, id =>
    (getMaintenanceDueForComponent fl db organizationId id).map (List.map PartDueItem.reported)

/-- `add_applicability_for_asset`, `_battery` and `_component`. -/
def addApplicability (newId : UUID) (actorUserId : Option UUID) (requirementId : UUID) :
    ItemKind → UUID → Except Error Database
  | .asset, id => addApplicabilityForAsset db newId organizationId actorUserId requirementId id
  | .battery, id => addApplicabilityForBattery db newId organizationId actorUserId requirementId id
  | .component, id =>
    addApplicabilityForComponent db newId organizationId actorUserId requirementId id

def applicableIds : ItemKind → UUID → List UUID
  | .asset, id => applicableRequirementIds db organizationId id
  | .battery, id => requirementIdsOfBattery db organizationId id
  | .component, id => requirementIdsOfComponent db organizationId id

/-- The day on which the requirement was last accomplished on an item. -/
def lastAccomplished (requirementId : UUID) : ItemKind → UUID → Option Date
  | .asset, id => lastDate db organizationId id requirementId
  | .battery, id => lastDateForBattery db organizationId requirementId id
  | .component, id => lastDateForComponent db organizationId requirementId id

/-- The flight hours and the cycles of an item since the requirement was last accomplished. -/
def usageOf (requirementId : UUID) : ItemKind → UUID → Except Error (ℚ × ℚ)
  | .asset, id => do
    let utilization ← getUtilization fl db organizationId id
      ((lastDate db organizationId id requirementId).map midnight) none
    return (fl (utilization.totalMinutes / 60), fl utilization.totalCycles)
  | .battery, id => do
    let battery ← getBattery db organizationId id
    usageAcrossWindows fl db organizationId (windowsOfBattery db organizationId battery)
      ((lastDateForBattery db organizationId requirementId id).map midnight)
  | .component, id => do
    let component ← getComponent db organizationId id
    usageAcrossWindows fl db organizationId (windowsOfComponent db organizationId component)
      ((lastDateForComponent db organizationId requirementId id).map midnight)

def calendarStatus (today dueDate : Date) : DueStatus :=
  if dueDate < today then .overdue else if dueDate ≤ today + 30 then .dueSoon else .notDue

/-- What is said of a requirement keeps to its units: hours are compared with `fh_interval`,
cycles with `fc_interval`, and a calendar interval is judged by its date. -/
structure KeepsUnits (requirement : MaintenanceRequirement) (kind : ItemKind) (id : UUID)
    (due : ReportedDue) : Prop where
  hours : due.dueStatus ≠ .unknown → requirement.intervalType ∈ hoursMetrics →
    ∃ usage, usageOf fl db organizationId requirement.id kind id = .ok usage ∧
      due.currentUsage = some usage.1
  cycles : due.dueStatus ≠ .unknown → requirement.intervalType ∈ cyclesMetrics →
    ∃ usage, usageOf fl db organizationId requirement.id kind id = .ok usage ∧
      due.currentUsage = some usage.2
  calendar : requirement.intervalType = MaintenanceIntervalType.calendar →
    ∀ days ∈ requirement.calendarIntervalDays,
      ∀ day ∈ lastAccomplished db organizationId requirement.id kind id,
        due.dueDate = some (day + days) ∧ due.dueStatus = calendarStatus today (day + days)

end Kinds

/-- A requirement that is applicable to items of a kind keeps to its units, whatever was flown. -/
def UnitsKept (fl : ℚ → ℚ) (kind : ItemKind) (requirement : MaintenanceRequirement) : Prop :=
  ∀ (db : Database) (today : Date) (id : UUID),
    requirement ∈ db.maintenanceRequirements.rows →
    requirement.id ∈ applicableIds db requirement.organizationId kind id →
    ∀ dues, maintenanceDue fl db today requirement.organizationId kind id = .ok dues →
      ∀ due ∈ dues, due.requirement = requirement →
        KeepsUnits fl db today requirement.organizationId requirement kind id due

/-- The types on which the evaluator of a kind picks the figure that the interval asks for. -/
def FitsKind (requirement : MaintenanceRequirement) : ItemKind → Prop
  | .asset =>
    requirement.intervalType = MaintenanceIntervalType.componentHours →
      requirement.fhInterval = none
  | .battery =>
    (requirement.intervalType ∈ hoursMetrics → requirement.fhInterval = none) ∧
      (requirement.intervalType = MaintenanceIntervalType.calendar →
        requirement.calendarIntervalDays = none)
  | .component =>
    (requirement.intervalType = MaintenanceIntervalType.flightHours →
        requirement.fhInterval = none) ∧
      (requirement.intervalType = MaintenanceIntervalType.calendar →
        requirement.calendarIntervalDays = none)

section Applicability

variable {db db' : Database} {newId organizationId : UUID} {actorUserId : Option UUID}
  {requirementId : UUID}

theorem addApplicabilityRow_eq_ok {row : MaintenanceRequirementApplicability}
    (h : addApplicabilityRow db organizationId actorUserId requirementId row = .ok db') :
    row ∈ db'.requirementApplicabilities.rows ∧
      db'.maintenanceRequirements = db.maintenanceRequirements := by
  obtain ⟨rows, hadd, h⟩ := bind_eq_ok.1 h
  cases h
  exact ⟨(Table.mem_insert? (addRowOrRaise_eq_ok.1 hadd)).2 (Or.inr rfl), rfl⟩

theorem applicable_of_add {kind : ItemKind} {id : UUID}
    (h : addApplicability db organizationId newId actorUserId requirementId kind id = .ok db') :
    requirementId ∈ applicableIds db' organizationId kind id ∧
      db'.maintenanceRequirements = db.maintenanceRequirements := by
  cases kind with
  | asset | battery | component =>
    obtain ⟨requirement, hrequirement, h⟩ := bind_eq_ok.1 h
    obtain ⟨_, _, h⟩ := bind_eq_ok.1 h
    obtain ⟨hrow, hsame⟩ := addApplicabilityRow_eq_ok h
    refine ⟨List.mem_map.2 ⟨_, Table.mem_select.2 ⟨hrow, ?_⟩, id_of_getRequirement hrequirement⟩,
      hsame⟩
    simp

end Applicability

/-! ## What each evaluator compares -/

section Evaluators

variable {fl : ℚ → ℚ} {db : Database} {today : Date} {organizationId : UUID}
  {requirement : MaintenanceRequirement} {id : UUID}

/-- The figure that the evaluator of a kind picks. -/
def figureOf (requirement : MaintenanceRequirement) : ItemKind → ℚ × ℚ → ℚ
  | .asset, usage =>
    if requirement.intervalType = MaintenanceIntervalType.flightHours then usage.1 else usage.2
  | .battery, usage => usage.2
  | .component, usage =>
    if requirement.intervalType = MaintenanceIntervalType.componentHours then usage.1 else usage.2

/-- Judged by the usage of the item. -/
def JudgedByUsage (fl : ℚ → ℚ) (db : Database) (organizationId : UUID)
    (requirement : MaintenanceRequirement) (kind : ItemKind) (id : UUID) (due : ReportedDue) :
    Prop :=
  ∃ usage, usageOf fl db organizationId requirement.id kind id = .ok usage ∧
    due.dueStatus = (usageDueStatusFor fl requirement (figureOf requirement kind usage)).1 ∧
    due.dueDate = none ∧
    due.currentUsage = if decide (due.dueStatus ≠ .unknown) then
      some (figureOf requirement kind usage) else none

/-- Judged by the date of the item. -/
def JudgedByDate (db : Database) (today : Date) (organizationId : UUID)
    (requirement : MaintenanceRequirement) (kind : ItemKind) (id : UUID) (due : ReportedDue) :
    Prop :=
  (due.dueStatus, due.dueDate)
      = dueStatusFor today requirement
          (lastAccomplished db organizationId requirement.id kind id) ∧
    due.currentUsage = none

/-- Only the evaluator of an asset looks at the date. -/
def Judged (fl : ℚ → ℚ) (db : Database) (today : Date) (organizationId : UUID)
    (requirement : MaintenanceRequirement) (kind : ItemKind) (id : UUID) (due : ReportedDue) :
    Prop :=
  if kind = .asset ∧ requirement.intervalType = MaintenanceIntervalType.calendar then
    JudgedByDate db today organizationId requirement kind id due
  else JudgedByUsage fl db organizationId requirement kind id due

variable {kind : ItemKind} {item : PartDueItem} {due : ReportedDue}

theorem judged_by_date (hkind : kind = .asset)
    (hcalendar : requirement.intervalType = MaintenanceIntervalType.calendar)
    (h : JudgedByDate db today organizationId requirement kind id due) :
    Judged fl db today organizationId requirement kind id due := by
  rw [Judged, if_pos ⟨hkind, hcalendar⟩]
  exact h

theorem judged_by_usage
    (hother : ¬(kind = .asset ∧ requirement.intervalType = MaintenanceIntervalType.calendar))
    (h : JudgedByUsage fl db organizationId requirement kind id due) :
    Judged fl db today organizationId requirement kind id due := by
  rw [Judged, if_neg hother]
  exact h

theorem judged_of_evaluateForAsset {item : MaintenanceDueItem}
    (h : evaluateForAsset fl db today organizationId id requirement = .ok item) :
    item.requirement = requirement ∧
      Judged fl db today organizationId requirement .asset id item.reported := by
  rw [evaluateForAsset] at h
  by_cases hcalendar : requirement.intervalType = MaintenanceIntervalType.calendar
  · rw [if_pos hcalendar] at h
    cases h
    exact ⟨rfl, judged_by_date rfl hcalendar ⟨rfl, rfl⟩⟩
  · rw [if_neg hcalendar] at h
    obtain ⟨u, hu, h⟩ := bind_eq_ok.1 h
    cases h
    refine ⟨rfl, judged_by_usage (fun h => hcalendar h.2)
      ⟨(fl (u.totalMinutes / 60), fl u.totalCycles), ?_, rfl, rfl, rfl⟩⟩
    rw [usageOf, hu]
    rfl

theorem judged_of_evaluateForBattery (today : Date) {battery : Battery}
    (hbattery : getBattery db organizationId id = .ok battery)
    (h : evaluateForBattery fl db organizationId battery requirement = .ok item) :
    item.requirement = requirement ∧
      Judged fl db today organizationId requirement .battery id item.reported := by
  obtain ⟨usage, husage, h⟩ := bind_eq_ok.1 h
  cases h
  have hid : battery.id = id := by
    have hmem := mem_of_oneOrRaise hbattery
    simp only [Bool.and_eq_true, decide_eq_true_eq] at hmem
    exact hmem.2.1
  have hother : ¬(ItemKind.battery = .asset ∧
      requirement.intervalType = MaintenanceIntervalType.calendar) := by
    rintro ⟨⟨⟩, _⟩
  refine ⟨rfl, judged_by_usage hother ⟨usage, ?_, rfl, rfl, rfl⟩⟩
  rw [usageOf, hbattery, ok_bind, ← hid]
  exact husage

theorem judged_of_evaluateForComponent (today : Date) {component : Component}
    (hcomponent : getComponent db organizationId id = .ok component)
    (h : evaluateForComponent fl db organizationId component requirement = .ok item) :
    item.requirement = requirement ∧
      Judged fl db today organizationId requirement .component id item.reported := by
  obtain ⟨usage, husage, h⟩ := bind_eq_ok.1 h
  obtain ⟨lifetime, _, h⟩ := bind_eq_ok.1 h
  cases h
  have hid : component.id = id := by
    have hmem := mem_of_oneOrRaise hcomponent
    simp only [Bool.and_eq_true, decide_eq_true_eq] at hmem
    exact hmem.2.1
  have hother : ¬(ItemKind.component = .asset ∧
      requirement.intervalType = MaintenanceIntervalType.calendar) := by
    rintro ⟨⟨⟩, _⟩
  refine ⟨rfl, judged_by_usage hother ⟨usage, ?_, rfl, rfl, rfl⟩⟩
  rw [usageOf, hcomponent, ok_bind, ← hid]
  exact husage

/-- Whatever is told of an item was judged by the evaluator of its kind. -/
theorem judged_of_maintenanceDue {dues : List ReportedDue}
    (h : maintenanceDue fl db today organizationId kind id = .ok dues) :
    ∀ due ∈ dues, Judged fl db today organizationId due.requirement kind id due := by
  intro due hdue
  cases kind with
  | asset =>
    obtain ⟨items, hitems, rfl⟩ := map_eq_ok.1 h
    obtain ⟨item, hitem, rfl⟩ := List.mem_map.1 hdue
    obtain ⟨_, _, hitems⟩ := bind_eq_ok.1 hitems
    obtain ⟨rid, _, hrun⟩ := exists_of_mapM hitems item hitem
    obtain ⟨requirement, _, hrun⟩ := bind_eq_ok.1 hrun
    obtain ⟨rfl, hjudged⟩ := judged_of_evaluateForAsset hrun
    exact hjudged
  | battery =>
    obtain ⟨items, hitems, rfl⟩ := map_eq_ok.1 h
    obtain ⟨item, hitem, rfl⟩ := List.mem_map.1 hdue
    obtain ⟨battery, hbattery, hitems⟩ := bind_eq_ok.1 hitems
    obtain ⟨rid, _, hrun⟩ := exists_of_mapM hitems item hitem
    obtain ⟨requirement, _, hrun⟩ := bind_eq_ok.1 hrun
    obtain ⟨rfl, hjudged⟩ := judged_of_evaluateForBattery today hbattery hrun
    exact hjudged
  | component =>
    obtain ⟨items, hitems, rfl⟩ := map_eq_ok.1 h
    obtain ⟨item, hitem, rfl⟩ := List.mem_map.1 hdue
    obtain ⟨component, hcomponent, hitems⟩ := bind_eq_ok.1 hitems
    obtain ⟨rid, _, hrun⟩ := exists_of_mapM hitems item hitem
    obtain ⟨requirement, _, hrun⟩ := bind_eq_ok.1 hrun
    obtain ⟨rfl, hjudged⟩ := judged_of_evaluateForComponent today hcomponent hrun
    exact hjudged

end Evaluators

/-! ## Where the figures fit -/

section Fits

variable {fl : ℚ → ℚ} {requirement : MaintenanceRequirement} {kind : ItemKind}

theorem fhInterval_of_known {usage : ℚ} (hmetric : requirement.intervalType ∈ hoursMetrics)
    (h : (usageDueStatusFor fl requirement usage).1 ≠ .unknown) :
    requirement.fhInterval ≠ none := by
  intro hnone
  refine h ?_
  rw [usageDueStatusFor, usageInterval, if_pos (List.contains_iff_mem.2 hmetric), hnone]

theorem known_of_fhInterval (fl : ℚ → ℚ) (usage : ℚ)
    (hmetric : requirement.intervalType ∈ hoursMetrics) (h : requirement.fhInterval ≠ none) :
    (usageDueStatusFor fl requirement usage).1 ≠ .unknown := by
  obtain ⟨interval, hinterval⟩ := Option.ne_none_iff_exists'.1 h
  rw [usageDueStatusFor, usageInterval, if_pos (List.contains_iff_mem.2 hmetric), hinterval]
  dsimp only
  split
  · intro h
    cases h
  · split
    · intro h
      cases h
    · intro h
      cases h

theorem mem_hoursMetrics {type : String} : type ∈ hoursMetrics ↔
    type = MaintenanceIntervalType.flightHours ∨ type = MaintenanceIntervalType.componentHours := by
  simp [hoursMetrics]

theorem mem_cyclesMetrics {type : String} : type ∈ cyclesMetrics ↔
    type = MaintenanceIntervalType.flightCycles ∨ type = MaintenanceIntervalType.batteryCycles ∨
      type = MaintenanceIntervalType.componentCycles := by
  simp [cyclesMetrics]

theorem JudgedByUsage.of_judged {db : Database} {today : Date} {organizationId id : UUID}
    {due : ReportedDue} (h : Judged fl db today organizationId requirement kind id due)
    (hother : ¬(kind = .asset ∧ requirement.intervalType = MaintenanceIntervalType.calendar)) :
    JudgedByUsage fl db organizationId requirement kind id due := by
  rwa [Judged, if_neg hother] at h

theorem figureOf_hours (hfits : FitsKind requirement kind)
    (hmetric : requirement.intervalType ∈ hoursMetrics) (hinterval : requirement.fhInterval ≠ none)
    (usage : ℚ × ℚ) : figureOf requirement kind usage = usage.1 := by
  cases kind with
  | asset =>
    rcases mem_hoursMetrics.1 hmetric with htype | htype
    · rw [figureOf, if_pos htype]
    · exact absurd (hfits htype) hinterval
  | battery => exact absurd (hfits.1 hmetric) hinterval
  | component =>
    rcases mem_hoursMetrics.1 hmetric with htype | htype
    · exact absurd (hfits.1 htype) hinterval
    · rw [figureOf, if_pos htype]

theorem figureOf_cycles (hmetric : requirement.intervalType ∈ cyclesMetrics) (usage : ℚ × ℚ) :
    figureOf requirement kind usage = usage.2 := by
  have hnot : requirement.intervalType ≠ MaintenanceIntervalType.flightHours ∧
      requirement.intervalType ≠ MaintenanceIntervalType.componentHours := by
    rcases mem_cyclesMetrics.1 hmetric with htype | htype | htype
    · rw [htype]
      decide
    · rw [htype]
      decide
    · rw [htype]
      decide
  cases kind with
  | asset => rw [figureOf, if_neg hnot.1]
  | battery => rfl
  | component => rw [figureOf, if_neg hnot.2]

theorem ne_calendar_of_metric
    (h : requirement.intervalType ∈ hoursMetrics ∨ requirement.intervalType ∈ cyclesMetrics) :
    ¬(kind = .asset ∧ requirement.intervalType = MaintenanceIntervalType.calendar) := by
  rintro ⟨_, hcalendar⟩
  rw [hcalendar] at h
  exact absurd h (by decide)

theorem dueStatusFor_calendar {today day : Date} {days : Int}
    (hcalendar : requirement.intervalType = MaintenanceIntervalType.calendar)
    (hdays : requirement.calendarIntervalDays = some days) :
    dueStatusFor today requirement (some day)
      = (calendarStatus today (day + days), some (day + days)) := by
  have hnot : ¬(requirement.intervalType = MaintenanceIntervalType.flightHours ∨
      requirement.intervalType = MaintenanceIntervalType.flightCycles) := by
    rw [hcalendar]
    decide
  have hlate : day + days - today < 0 ↔ day + days < today := sub_neg
  have hsoon : day + days - today ≤ 30 ↔ day + days ≤ today + 30 := sub_le_iff_le_add'
  simp only [dueStatusFor, if_neg hnot, hdays, calendarStatus, hlate, hsoon]

theorem unitsKept_of_fits (fl : ℚ → ℚ) (hfits : FitsKind requirement kind) :
    UnitsKept fl kind requirement := by
  intro db today id _ _ dues hdues due hdue hrequirement
  have hjudged := judged_of_maintenanceDue hdues due hdue
  rw [hrequirement] at hjudged
  refine ⟨?_, ?_, ?_⟩
  · intro hknown hmetric
    obtain ⟨usage, husage, hstatus, _, hcurrent⟩ :=
      JudgedByUsage.of_judged hjudged (ne_calendar_of_metric (Or.inl hmetric))
    refine ⟨usage, husage, ?_⟩
    rw [hcurrent, if_pos (decide_eq_true hknown)]
    rw [hstatus] at hknown
    rw [figureOf_hours hfits hmetric (fhInterval_of_known hmetric hknown)]
  · intro hknown hmetric
    obtain ⟨usage, husage, _, _, hcurrent⟩ :=
      JudgedByUsage.of_judged hjudged (ne_calendar_of_metric (Or.inr hmetric))
    refine ⟨usage, husage, ?_⟩
    rw [hcurrent, if_pos (decide_eq_true hknown), figureOf_cycles hmetric]
  · intro hcalendar days hdays day hday
    cases kind with
    | asset =>
      rw [Judged, if_pos ⟨rfl, hcalendar⟩] at hjudged
      have hdate := hjudged.1
      rw [hday, dueStatusFor_calendar hcalendar hdays, Prod.mk.injEq] at hdate
      exact ⟨hdate.2, hdate.1⟩
    | battery =>
      rw [hfits.2 hcalendar] at hdays
      cases hdays
    | component =>
      rw [hfits.2 hcalendar] at hdays
      cases hdays

end Fits

/-! ## Where they do not -/

section Probe

variable {fl : ℚ → ℚ} {requirement : MaintenanceRequirement}

/-- The item of each kind in `probe`. -/
def probeId : ItemKind → UUID
  | .asset => 1
  | .battery => 2
  | .component => 3

def probeBattery (requirement : MaintenanceRequirement) : Battery :=
  { id := 2, organizationId := requirement.organizationId, assetId := some 1
    serialNumber := "B-2" }

def probeComponent (requirement : MaintenanceRequirement) : Component :=
  { id := 3, organizationId := requirement.organizationId, assetId := some 1
    componentType := "MOTOR", name := "M-3" }

/-- A drone with a battery and a component that flew two hours in one cycle on the day on which the
requirement was accomplished. -/
def probe (requirement : MaintenanceRequirement) (kind : ItemKind) : Database where
  assets := .single
    { id := 1, organizationId := requirement.organizationId, assetType := AssetType.drone }
  batteries := .single (probeBattery requirement)
  components := .single (probeComponent requirement)
  flights := .single
    { id := 4, organizationId := requirement.organizationId, assetId := 1, flownAt := 0
      durationMinutes := 120, cycles := 1 }
  maintenanceRequirements := .single requirement
  requirementApplicabilities := .single
    { id := 5, organizationId := requirement.organizationId, requirementId := requirement.id
      assetId := if kind = .asset then some 1 else none
      batteryId := if kind = .battery then some 2 else none
      componentId := if kind = .component then some 3 else none }
  accomplishments := .single
    { id := 6, organizationId := requirement.organizationId, requirementId := requirement.id
      assetId := if kind = .asset then some 1 else none
      batteryId := if kind = .battery then some 2 else none
      componentId := if kind = .component then some 3 else none
      accomplishedAt := 0 }

theorem getAsset_probe (requirement : MaintenanceRequirement) (kind : ItemKind) :
    ∃ asset, (probe requirement kind).getAsset requirement.organizationId 1 = .ok asset := by
  refine ⟨_, oneOrRaise_of_key (List.mem_singleton_self _) (by simp) ?_⟩
  intro x hx _
  rw [List.mem_singleton.1 hx]

theorem getBattery_probe (requirement : MaintenanceRequirement) (kind : ItemKind) :
    getBattery (probe requirement kind) requirement.organizationId 2
      = .ok (probeBattery requirement) := by
  refine oneOrRaise_of_key (List.mem_singleton_self _) (by simp [probeBattery]) ?_
  intro x hx _
  rw [List.mem_singleton.1 hx]

theorem getComponent_probe (requirement : MaintenanceRequirement) (kind : ItemKind) :
    getComponent (probe requirement kind) requirement.organizationId 3
      = .ok (probeComponent requirement) := by
  refine oneOrRaise_of_key (List.mem_singleton_self _) (by simp [probeComponent]) ?_
  intro x hx _
  rw [List.mem_singleton.1 hx]

theorem lastAccomplished_probe (requirement : MaintenanceRequirement) (kind : ItemKind) :
    lastAccomplished (probe requirement kind) requirement.organizationId requirement.id kind
      (probeId kind) = some 0 := by
  cases kind with
  | asset => simp [lastAccomplished, lastDate, latestAccomplishmentForAsset, probe, Table.select,
      Table.single, probeId, newestBy]
  | battery => simp [lastAccomplished, lastDateForBattery, probe, Table.select, Table.single,
      probeId, newestBy]
  | component => simp [lastAccomplished, lastDateForComponent, probe, Table.select, Table.single,
      probeId, newestBy]

theorem usageSince_probe (fl : ℚ → ℚ) (requirement : MaintenanceRequirement) (kind : ItemKind) :
    usageSince fl (probe requirement kind) requirement.organizationId 1 (some 0) none
      = (120, 1) := by
  simp [usageSince, activeBaseline, probe, Table.select, Table.empty, latestEffective,
    baselineTerms, flownTotals, WindowSum.total, ofAsset, WindowSum.within, Table.single]

theorem getUtilization_probe (fl : ℚ → ℚ) (requirement : MaintenanceRequirement) (kind : ItemKind) :
    ∃ u, getUtilization fl (probe requirement kind) requirement.organizationId 1 (some 0) none
      = .ok u ∧ u.totalMinutes = 120 ∧ u.totalCycles = 1 := by
  obtain ⟨asset, hasset⟩ := getAsset_probe requirement kind
  obtain ⟨u, hu, husage⟩ := getUtilization_usage fl hasset
  rw [usageSince_probe, Prod.mk.injEq] at husage
  exact ⟨u, hu, husage⟩

theorem usageAcrossWindows_probe (fl : ℚ → ℚ) (requirement : MaintenanceRequirement)
    (kind : ItemKind) {since : Option DateTime} (hsince : windowStart ⟨1, 0, none⟩ since = 0) :
    usageAcrossWindows fl (probe requirement kind) requirement.organizationId [⟨1, 0, none⟩]
      since = .ok (fl 2, fl 1) := by
  obtain ⟨u, hu, husage⟩ := getUtilization_probe fl requirement kind
  have hminutes : ((0 + 120 : Int) : ℚ) / 60 = 2 := by norm_num
  have hopen : ¬isSkipped ⟨1, 0, none⟩ since = true := Bool.false_ne_true
  rw [usageAcrossWindows, addWindows, if_neg hopen, hsince, hu, ok_bind, addWindows, ok_bind,
    husage.1, husage.2]
  simp only [hminutes]
  rfl

theorem usageOf_probe (fl : ℚ → ℚ) (requirement : MaintenanceRequirement) (kind : ItemKind) :
    usageOf fl (probe requirement kind) requirement.organizationId requirement.id kind
      (probeId kind) = .ok (fl 2, fl 1) := by
  have hlast := lastAccomplished_probe requirement kind
  cases kind with
  | asset =>
    obtain ⟨u, hu, husage⟩ := getUtilization_probe fl requirement .asset
    have hminutes : ((120 : Int) : ℚ) / 60 = 2 := by norm_num
    have hcycles : fl ((1 : Int) : ℚ) = fl 1 := by norm_num
    rw [lastAccomplished] at hlast
    rw [usageOf, hlast]
    show (getUtilization fl _ _ 1 (some 0) none >>= _) = _
    rw [hu, ok_bind, husage.1, husage.2, hminutes, hcycles]
    rfl
  | battery =>
    have hbattery := getBattery_probe requirement .battery
    rw [lastAccomplished] at hlast
    rw [usageOf, hlast, probeId, hbattery]
    exact usageAcrossWindows_probe fl requirement .battery rfl
  | component =>
    have hcomponent := getComponent_probe requirement .component
    rw [lastAccomplished] at hlast
    rw [usageOf, hlast, probeId, hcomponent]
    exact usageAcrossWindows_probe fl requirement .component rfl

theorem applicableIds_probe (requirement : MaintenanceRequirement) (kind : ItemKind) :
    applicableIds (probe requirement kind) requirement.organizationId kind (probeId kind)
      = [requirement.id] := by
  cases kind with
  | asset =>
    simp [applicableIds, applicableRequirementIds, probe, Table.select, Table.single, probeId]
  | battery =>
    simp [applicableIds, requirementIdsOfBattery, probe, Table.select, Table.single, probeId]
  | component =>
    simp [applicableIds, requirementIdsOfComponent, probe, Table.select, Table.single, probeId]

theorem getRequirement_probe (requirement : MaintenanceRequirement) (kind : ItemKind) :
    getRequirement (probe requirement kind) requirement.organizationId requirement.id
      = .ok requirement := by
  refine oneOrRaise_of_key (List.mem_singleton_self _) (by simp) ?_
  intro x hx _
  rw [List.mem_singleton.1 hx]

theorem evaluateForAsset_probe (fl : ℚ → ℚ) (requirement : MaintenanceRequirement) :
    ∃ item, evaluateForAsset fl (probe requirement .asset) 0 requirement.organizationId 1
      requirement = .ok item := by
  obtain ⟨asset, hasset⟩ := getAsset_probe requirement .asset
  rw [evaluateForAsset]
  by_cases hcalendar : requirement.intervalType = MaintenanceIntervalType.calendar
  · rw [if_pos hcalendar]
    exact ⟨_, rfl⟩
  · rw [if_neg hcalendar]
    obtain ⟨u, hu⟩ := getUtilization_of_live fl hasset
      ((lastDate (probe requirement .asset) requirement.organizationId 1 requirement.id).map
        midnight)
    rw [hu]
    exact ⟨_, rfl⟩

/-- What is told of the item of the probe. -/
theorem maintenanceDue_probe (fl : ℚ → ℚ) (requirement : MaintenanceRequirement) (kind : ItemKind) :
    ∃ due, maintenanceDue fl (probe requirement kind) 0 requirement.organizationId kind
      (probeId kind) = .ok [due] ∧ due.requirement = requirement := by
  have hids := applicableIds_probe requirement kind
  have hrequirement := getRequirement_probe requirement kind
  have husage := usageOf_probe fl requirement kind
  cases kind with
  | asset =>
    obtain ⟨item, hitem⟩ := evaluateForAsset_probe fl requirement
    have hdrone : ∃ drone, (probe requirement .asset).getDrone requirement.organizationId 1
        = .ok drone := by
      refine ⟨_, oneOrRaise_of_key (List.mem_singleton_self _) (by simp) ?_⟩
      intro x hx _
      rw [List.mem_singleton.1 hx]
    obtain ⟨drone, hdrone⟩ := hdrone
    refine ⟨item.reported, ?_, (judged_of_evaluateForAsset hitem).1⟩
    rw [applicableIds, probeId] at hids
    rw [maintenanceDue, getMaintenanceDueForAsset, probeId, hdrone, ok_bind, hids,
      List.mapM_cons, hrequirement, ok_bind, hitem]
    rfl
  | battery =>
    have hbattery := getBattery_probe requirement .battery
    rw [usageOf, probeId, hbattery, ok_bind] at husage
    have hevaluated : ∃ item, evaluateForBattery fl (probe requirement .battery)
        requirement.organizationId (probeBattery requirement) requirement = .ok item := by
      have hid : (probeBattery requirement).id = 2 := rfl
      rw [evaluateForBattery, hid, husage]
      exact ⟨_, rfl⟩
    obtain ⟨item, hitem⟩ := hevaluated
    refine ⟨item.reported, ?_, (judged_of_evaluateForBattery 0 hbattery hitem).1⟩
    rw [applicableIds, probeId] at hids
    rw [maintenanceDue, getMaintenanceDueForBattery, probeId, hbattery, ok_bind, hids,
      List.mapM_cons, hrequirement, ok_bind, hitem]
    rfl
  | component =>
    have hcomponent := getComponent_probe requirement .component
    rw [usageOf, probeId, hcomponent, ok_bind] at husage
    have hlifetime : usageAcrossWindows fl (probe requirement .component)
        requirement.organizationId (windowsOfComponent (probe requirement .component)
          requirement.organizationId (probeComponent requirement)) none = .ok (fl 2, fl 1) :=
      usageAcrossWindows_probe fl requirement .component rfl
    have hevaluated : ∃ item, evaluateForComponent fl (probe requirement .component)
        requirement.organizationId (probeComponent requirement) requirement = .ok item := by
      have hid : (probeComponent requirement).id = 3 := rfl
      rw [evaluateForComponent, hid, husage, ok_bind, hlifetime]
      exact ⟨_, rfl⟩
    obtain ⟨item, hitem⟩ := hevaluated
    refine ⟨item.reported, ?_, (judged_of_evaluateForComponent 0 hcomponent hitem).1⟩
    rw [applicableIds, probeId] at hids
    rw [maintenanceDue, getMaintenanceDueForComponent, probeId, hcomponent, ok_bind, hids,
      List.mapM_cons, hrequirement, ok_bind, hitem]
    rfl

theorem not_unitsKept_of_hours (hfl : fl 1 ≠ fl 2) {kind : ItemKind}
    (hmetric : requirement.intervalType ∈ hoursMetrics) (hinterval : requirement.fhInterval ≠ none)
    (hfigure : ∀ usage, figureOf requirement kind usage = usage.2) :
    ¬UnitsKept fl kind requirement := by
  intro h
  obtain ⟨due, hdues, hrequirement⟩ := maintenanceDue_probe fl requirement kind
  have husage := usageOf_probe fl requirement kind
  have hkept := h (probe requirement kind) 0 (probeId kind) (List.mem_singleton_self _)
    (by rw [applicableIds_probe]; exact List.mem_singleton_self _) [due] hdues due
    (List.mem_singleton_self _) hrequirement
  have hjudged := judged_of_maintenanceDue hdues due (List.mem_singleton_self _)
  rw [hrequirement] at hjudged
  obtain ⟨usage, husage', hstatus, _, hcurrent⟩ :=
    JudgedByUsage.of_judged hjudged (ne_calendar_of_metric (Or.inl hmetric))
  have hknown : due.dueStatus ≠ .unknown := by
    rw [hstatus]
    exact known_of_fhInterval fl _ hmetric hinterval
  obtain ⟨usage'', husage'', hhours⟩ := hkept.hours hknown hmetric
  rw [husage] at husage' husage''
  cases husage'
  cases husage''
  rw [hcurrent, if_pos (decide_eq_true hknown), hfigure, Option.some.injEq] at hhours
  exact hfl hhours

theorem not_unitsKept_of_calendar {kind : ItemKind} (hkind : kind ≠ .asset)
    (hcalendar : requirement.intervalType = MaintenanceIntervalType.calendar)
    (hdays : requirement.calendarIntervalDays ≠ none) : ¬UnitsKept fl kind requirement := by
  intro h
  obtain ⟨days, hdays⟩ := Option.ne_none_iff_exists'.1 hdays
  obtain ⟨due, hdues, hrequirement⟩ := maintenanceDue_probe fl requirement kind
  have hkept := h (probe requirement kind) 0 (probeId kind) (List.mem_singleton_self _)
    (by rw [applicableIds_probe]; exact List.mem_singleton_self _) [due] hdues due
    (List.mem_singleton_self _) hrequirement
  have hjudged := judged_of_maintenanceDue hdues due (List.mem_singleton_self _)
  rw [hrequirement] at hjudged
  obtain ⟨_, _, _, hdate, _⟩ := JudgedByUsage.of_judged hjudged fun h => hkind h.1
  have hdue := hkept.calendar hcalendar days hdays 0 (lastAccomplished_probe requirement kind)
  rw [hdate] at hdue
  cases hdue.1

end Probe

/-- Hours are accepted as the interval of a battery, which counts cycles only. -/
def batteryHours : MaintenanceRequirement :=
  { id := 10, organizationId := 1, intervalType := MaintenanceIntervalType.flightHours
    fhInterval := some 100 }

end MaintenanceService
end AeroComply
