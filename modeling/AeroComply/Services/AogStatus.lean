import AeroComply.Services.AogRecovery

/-!
# AogStatus — when there is a recovery status, and what it is put together from

`get_recovery_status` asks five services about the work order that the active event links.  Two of
them raise for a work order that is not there or is soft-deleted, and the others answer for any:
`getRecoveryStatus_isOk_iff`.  `Shows` says what the status has of each.
-/

namespace AeroComply

open Relational (Table)

namespace AogRecoveryService

open ReleaseReadinessService (ReleaseReadiness getReleaseReadiness)
open TechnicianService (checkAuthorization)

variable {db : Database} {now : DateTime} {organizationId aircraftId workOrderId : UUID}
variable {status : AogRecoveryStatus} {event : AogEvent}

/-! ## The work order -/

/-- A work order of the organization that is not soft-deleted. -/
def IsLive (db : Database) (organizationId workOrderId : UUID) : Prop :=
  ∃ w ∈ db.workOrders.rows, w.id = workOrderId ∧ w.organizationId = organizationId ∧
    w.deletedAt = none

instance : Decidable (IsLive db organizationId workOrderId) :=
  inferInstanceAs (Decidable (∃ w ∈ db.workOrders.rows, _))

theorem exists_getWorkOrder_iff :
    (∃ w, db.getWorkOrder organizationId workOrderId = .ok w) ↔
      IsLive db organizationId workOrderId := by
  constructor
  · rintro ⟨w, h⟩
    obtain ⟨hw, hfound⟩ := mem_of_oneOrRaise h
    simp only [Bool.and_eq_true, decide_eq_true_eq, Option.isNone_iff_eq_none] at hfound
    exact ⟨w, hw, hfound.1.1, hfound.1.2, hfound.2⟩
  · rintro ⟨w, hw, hid, horg, hlive⟩
    refine ⟨w, oneOrRaise_of_key hw (by simp [hid, horg, hlive]) fun x _ hx => ?_⟩
    simp only [Bool.and_eq_true, decide_eq_true_eq] at hx
    exact hx.1.1.trans hid.symm

/-! ## The technician -/

theorem exists_checkAuthorization (now : DateTime) {task : Task} (htask : task ∈ db.tasks.rows)
    (horg : task.organizationId = organizationId) (technician : UUID) :
    ∃ answer, checkAuthorization db now organizationId task.id technician = .ok answer := by
  have hfound : db.getTask organizationId task.id = .ok task := by
    refine oneOrRaise_of_key htask (by simp [horg]) fun x _ hx => ?_
    simp only [Bool.and_eq_true, decide_eq_true_eq] at hx
    exact hx.1
  obtain ⟨user, huser⟩ := exists_scalarOneOrNone_of_key (t := db.users) (k := technician)
    (p := fun u => u.id = technician && u.organizationId = organizationId) fun x _ hx => by
      simp only [Bool.and_eq_true, decide_eq_true_eq] at hx
      exact hx.1
  rw [checkAuthorization, hfound, ok_bind, huser, ok_bind]
  cases user with
  | none => exact ⟨_, rfl⟩
  | some user =>
    dsimp only
    cases db.workOrders.find? task.workOrderId with
    | none => exact ⟨_, rfl⟩
    | some workOrder =>
      dsimp only
      cases workOrder.aircraftId.bind db.aircraft.find? with
      | none => exact ⟨_, rfl⟩
      | some aircraft => exact ⟨_, rfl⟩

theorem mem_listTasksForWorkOrder {task : Task}
    (h : task ∈ listTasksForWorkOrder db organizationId workOrderId) :
    task ∈ db.tasks.rows ∧ task.organizationId = organizationId := by
  rw [listTasksForWorkOrder, List.mem_insertionSort, Table.mem_select] at h
  simp only [Bool.and_eq_true, decide_eq_true_eq] at h
  exact ⟨h.1, h.2.1.1⟩

theorem mem_assignedTasks {tasks : List Task} {x : Task × UUID} :
    x ∈ assignedTasks tasks ↔ x.1 ∈ tasks ∧ x.1.assignedTechnicianUserId = some x.2 := by
  rw [assignedTasks, List.mem_filterMap]
  constructor
  · rintro ⟨task, htask, hx⟩
    obtain ⟨technician, hassigned, rfl⟩ := Option.map_eq_some_iff.1 hx
    exact ⟨htask, hassigned⟩
  · rintro ⟨htask, hassigned⟩
    exact ⟨x.1, htask, by rw [hassigned]; rfl⟩

theorem exists_technicianStage (now : DateTime) {tasks : List Task}
    (h : ∀ t ∈ tasks, t ∈ db.tasks.rows ∧ t.organizationId = organizationId) :
    ∃ stage, technicianStage db now organizationId tasks = .ok stage := by
  rw [technicianStage]
  cases hassigned : assignedTasks tasks with
  | nil =>
    dsimp only
    split
    · exact ⟨_, rfl⟩
    · exact ⟨_, rfl⟩
  | cons x rest =>
    have hx : x ∈ assignedTasks tasks := hassigned ▸ List.mem_cons_self
    obtain ⟨htask, horg⟩ := h x.1 (mem_assignedTasks.1 hx).1
    obtain ⟨answer, hanswer⟩ := exists_checkAuthorization now htask horg x.2
    exact ⟨_, bind_eq_ok.2 ⟨answer, hanswer, rfl⟩⟩

/-! ## The status -/

theorem withWorkOrder_isOk_iff :
    (∃ status', withWorkOrder db now organizationId workOrderId status = .ok status') ↔
      IsLive db organizationId workOrderId := by
  rw [← exists_getWorkOrder_iff]
  constructor
  · rintro ⟨status', h⟩
    obtain ⟨readiness, hreadiness, h⟩ := bind_eq_ok.1 h
    obtain ⟨w, hw, _⟩ := bind_eq_ok.1 hreadiness
    exact ⟨w, hw⟩
  · rintro ⟨w, hw⟩
    obtain ⟨stage, hstage⟩ := exists_technicianStage now
      fun t (ht : t ∈ listTasksForWorkOrder db organizationId workOrderId) =>
        mem_listTasksForWorkOrder ht
    exact ⟨_, bind_eq_ok.2 ⟨_, bind_eq_ok.2 ⟨w, hw, rfl⟩,
      bind_eq_ok.2 ⟨_, bind_eq_ok.2 ⟨w, hw, rfl⟩, bind_eq_ok.2 ⟨stage, hstage, rfl⟩⟩⟩⟩

/-- What is linked by the event that a status is about is live. -/
def LinkLive (db : Database) (organizationId aircraftId : UUID) : Prop :=
  ∀ event, activeEvent (listAogEvents db organizationId aircraftId) = some event →
    ∀ workOrderId, event.workOrderId = some workOrderId → IsLive db organizationId workOrderId

/-- **THERE IS A STATUS** for an aircraft, exactly when its active event links no work order or a
live one. -/
theorem getRecoveryStatus_isOk_iff (now : DateTime) {aircraft : Aircraft}
    (haircraft : db.getAircraft organizationId aircraftId = .ok aircraft) :
    (∃ status, getRecoveryStatus db now organizationId aircraftId = .ok status) ↔
      LinkLive db organizationId aircraftId := by
  rw [getRecoveryStatus, haircraft, ok_bind, LinkLive]
  cases activeEvent (listAogEvents db organizationId aircraftId) with
  | none => exact iff_of_true ⟨_, rfl⟩ fun _ h => (nomatch h)
  | some event =>
    dsimp only
    constructor
    · rintro ⟨status, h⟩ event' hevent workOrderId hlinked
      cases hevent
      rw [hlinked] at h
      exact withWorkOrder_isOk_iff.1 ⟨status, h⟩
    · intro h
      cases hlinked : event.workOrderId with
      | none => exact ⟨_, rfl⟩
      | some workOrderId => exact withWorkOrder_isOk_iff.2 (h event rfl workOrderId hlinked)

/-- What a status shows of the linked work order. -/
structure Shows (db : Database) (now : DateTime) (organizationId workOrderId : UUID)
    (event : AogEvent) (status : AogRecoveryStatus) (readiness : ReleaseReadiness)
    (stage : Option CriticalPathStage) : Prop where
  released : getReleaseReadiness db organizationId workOrderId = .ok readiness
  checked : technicianStage db now organizationId
    (listTasksForWorkOrder db organizationId workOrderId) = .ok stage
  blockers : status.blockers = eventBlockers db event ++ readiness.blockers.map releaseBlocker ++
    materialBlockers db organizationId workOrderId
      (shortagesOf (PartRequirementService.listPartRequirementsForWorkOrder db organizationId
        workOrderId)) ++
    technicianBlockers stage
  criticalPath : status.criticalPath = buildCriticalPath readiness
    (PartRequirementService.listPartRequirementsForWorkOrder db organizationId workOrderId)
    (materialBlockers db organizationId workOrderId
      (shortagesOf (PartRequirementService.listPartRequirementsForWorkOrder db organizationId
        workOrderId))) stage
  nextBestAction : status.nextBestAction = (status.blockers.insertionSort
    fun b b' => b.category.priority ≤ b'.category.priority).head?

/-- The aircraft is on the ground, and the work order that its active event links is live. -/
structure Grounded (db : Database) (organizationId aircraftId workOrderId : UUID)
    (event : AogEvent) : Prop where
  aircraft : ∃ aircraft, db.getAircraft organizationId aircraftId = .ok aircraft
  active : activeEvent (listAogEvents db organizationId aircraftId) = some event
  linked : event.workOrderId = some workOrderId
  live : IsLive db organizationId workOrderId

/-- **THE STATUS OF A GROUNDED AIRCRAFT** shows its work order. -/
theorem Grounded.shows (h : Grounded db organizationId aircraftId workOrderId event)
    (now : DateTime) :
    ∃ status readiness stage, getRecoveryStatus db now organizationId aircraftId = .ok status ∧
      Shows db now organizationId workOrderId event status readiness stage := by
  obtain ⟨aircraft, haircraft⟩ := h.aircraft
  have hlive : LinkLive db organizationId aircraftId := by
    intro event' hevent workOrderId' hlinked
    obtain rfl : event' = event := Option.some.inj (hevent.symm.trans h.active)
    obtain rfl : workOrderId' = workOrderId := Option.some.inj (hlinked.symm.trans h.linked)
    exact h.live
  obtain ⟨status, hstatus⟩ := (getRecoveryStatus_isOk_iff now haircraft).2 hlive
  have hrun := hstatus
  obtain ⟨_, -, hrun⟩ := bind_eq_ok.1 hrun
  simp only [h.active, h.linked] at hrun
  obtain ⟨readiness, hreadiness, hrun⟩ := bind_eq_ok.1 hrun
  obtain ⟨tat, -, hrun⟩ := bind_eq_ok.1 hrun
  obtain ⟨stage, hstage, hrun⟩ := bind_eq_ok.1 hrun
  cases hrun
  exact ⟨_, readiness, stage, hstatus, hreadiness, hstage, rfl, rfl, rfl⟩

end AogRecoveryService
end AeroComply
