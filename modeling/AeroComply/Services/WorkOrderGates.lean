import AeroComply.Services.WorkOrderRuns

/-!
# WorkOrderGates — what a finished work order has behind it

The gate on the tasks is checked on the way to INSPECTION and the gate on the
inspection requirements on the way to COMPLETED.  What is attached to a work order
after its gate was checked is not looked at again: `Careful` is what a caller must
keep to for the gates to hold for good.
-/

namespace AeroComply

open Relational (Keyed Table)

namespace WorkOrderGates

open Database (getTask_eq_ok getWorkOrder_eq_ok)
open InspectionService (Created canTransition not_canTransition_of_gate satisfiesCompletionGate
  transitioned)
open ReleaseReadinessService (inspectionsOf tasksOf)
open WorkOrderRuns
open WorkOrderService (SameGates TaskAdded TaskKept allowedTransitions)

/-- COMPLETED, or CLOSED after it. -/
def isFinished (status : WorkOrderStatus) : Bool := status = .completed || status = .closed

/-- The requirement is linked to the work order or to one of its tasks. -/
def LinkedTo (db : Database) (i : InspectionRequirement) (workOrderId : UUID) : Prop :=
  i.workOrderId = some workOrderId ∨
    ∃ t ∈ db.tasks.rows, t.workOrderId = workOrderId ∧ i.taskId = some t.id

/-- The tasks are completed and the requirements pass the gate. -/
structure Passed (db : Database) (workOrderId : UUID) : Prop where
  tasks : ∀ t ∈ db.tasks.rows, t.workOrderId = workOrderId →
    t.executionState = TaskExecutionState.completed
  inspections : ∀ i ∈ db.inspections.rows, LinkedTo db i workOrderId →
    satisfiesCompletionGate i.status = true

/-- Every finished work order has passed its gates. -/
def GatesHold (db : Database) : Prop :=
  ∀ w ∈ db.workOrders.rows, isFinished w.status = true → Passed db w.id

/-- The work order is there, and the organization's. -/
def HasWorkOrder (db : Database) (organizationId workOrderId : UUID) : Prop :=
  ∃ w ∈ db.workOrders.rows, w.id = workOrderId ∧ w.organizationId = organizationId

/-- The task is there, and the organization's. -/
def HasTask (db : Database) (organizationId taskId : UUID) : Prop :=
  ∃ t ∈ db.tasks.rows, t.id = taskId ∧ t.organizationId = organizationId

/-- Tasks and requirements are attached to what is there, in one organization. -/
structure Attached (db : Database) : Prop where
  tasks : ∀ t ∈ db.tasks.rows, HasWorkOrder db t.organizationId t.workOrderId
  toWorkOrder : ∀ i ∈ db.inspections.rows, ∀ id, i.workOrderId = some id →
    HasWorkOrder db i.organizationId id
  toTask : ∀ i ∈ db.inspections.rows, ∀ id, i.taskId = some id →
    HasTask db i.organizationId id

instance (db : Database) (i : InspectionRequirement) (id : UUID) : Decidable (LinkedTo db i id) :=
  inferInstanceAs (Decidable (i.workOrderId = some id ∨
    ∃ t ∈ db.tasks.rows, t.workOrderId = id ∧ i.taskId = some t.id))

instance (db : Database) (id : UUID) : Decidable (Passed db id) :=
  decidable_of_iff
    ((∀ t ∈ db.tasks.rows, t.workOrderId = id →
        t.executionState = TaskExecutionState.completed) ∧
      ∀ i ∈ db.inspections.rows, LinkedTo db i id → satisfiesCompletionGate i.status = true)
    ⟨fun h => ⟨h.1, h.2⟩, fun h => ⟨h.tasks, h.inspections⟩⟩

instance (db : Database) : Decidable (GatesHold db) :=
  inferInstanceAs (Decidable (∀ w ∈ db.workOrders.rows, isFinished w.status = true →
    Passed db w.id))

variable {u : UnicodeTables} {db db' : Database} {a : Action u} {w w' : WorkOrder} {id : UUID}

/-! ## What the checks see -/

variable {i : InspectionRequirement} {org : UUID} {t : Task}

theorem mem_tasksOf (hatt : Attached db) (hw : w ∈ db.workOrders.rows) (ht : t ∈ db.tasks.rows)
    (hid : t.workOrderId = w.id) :
    t ∈ tasksOf db w.organizationId w.id := by
  obtain ⟨w₀, hw₀, hid₀, horg₀⟩ := hatt.tasks t ht
  obtain rfl : w₀ = w := Table.eq_of_key_eq hw₀ hw (hid₀.trans hid)
  rw [tasksOf, Table.mem_select, Bool.and_eq_true, decide_eq_true_eq, decide_eq_true_eq]
  exact ⟨ht, horg₀.symm, hid⟩

theorem organization_of_linked (hatt : Attached db) (hw : w ∈ db.workOrders.rows)
    (hi : i ∈ db.inspections.rows) (hlinked : LinkedTo db i w.id) :
    i.organizationId = w.organizationId := by
  rcases hlinked with hid | ⟨t, ht, htid, hid⟩
  · obtain ⟨w₀, hw₀, hid₀, horg₀⟩ := hatt.toWorkOrder i hi w.id hid
    obtain rfl : w₀ = w := Table.eq_of_key_eq hw₀ hw hid₀
    exact horg₀.symm
  · obtain ⟨t₀, ht₀, hid₀, horg₀⟩ := hatt.toTask i hi t.id hid
    obtain rfl : t₀ = t := Table.eq_of_key_eq ht₀ ht hid₀
    obtain ⟨w₀, hw₀, hwid, hworg⟩ := hatt.tasks t₀ ht₀
    obtain rfl : w₀ = w := Table.eq_of_key_eq hw₀ hw (hwid.trans htid)
    rw [← horg₀, hworg]

theorem mem_inspectionsOf (hatt : Attached db) (hw : w ∈ db.workOrders.rows)
    (hi : i ∈ db.inspections.rows) (hlinked : LinkedTo db i w.id) :
    i ∈ inspectionsOf db w.organizationId w.id (tasksOf db w.organizationId w.id) := by
  have horg := organization_of_linked hatt hw hi hlinked
  rw [inspectionsOf, Table.mem_select, Bool.and_eq_true, Bool.or_eq_true, decide_eq_true_eq,
    decide_eq_true_eq, List.any_eq_true]
  refine ⟨hi, horg, ?_⟩
  rcases hlinked with hid | ⟨t, ht, htid, hid⟩
  · exact Or.inl hid
  · exact Or.inr ⟨t, mem_tasksOf hatt hw ht htid, decide_eq_true hid⟩

theorem passed_of_fresh (hatt : Attached db) (hfresh : ∀ w ∈ db.workOrders.rows, w.id ≠ id) :
    Passed db id := by
  refine ⟨?_, ?_⟩
  · intro t ht hid
    obtain ⟨w, hw, hwid, _⟩ := hatt.tasks t ht
    exact absurd (hwid.trans hid) (hfresh w hw)
  · rintro i hi (hid | ⟨t, ht, htid, _⟩)
    · obtain ⟨w, hw, hwid, _⟩ := hatt.toWorkOrder i hi id hid
      exact absurd hwid (hfresh w hw)
    · obtain ⟨w, hw, hwid, _⟩ := hatt.tasks t ht
      exact absurd (hwid.trans htid) (hfresh w hw)

/-! ## What is asked of a caller -/

/-- A work order leaves INSPECTION for COMPLETED when the tasks added since are completed too. -/
def TasksDone (db : Database) (move? : Option (UUID × UUID × WorkOrderStatus)) : Prop :=
  ∀ w ∈ db.workOrders.rows, move? = some (w.organizationId, w.id, .completed) →
    w.status = .inspection → ∀ t ∈ db.tasks.rows, t.workOrderId = w.id →
      t.executionState = TaskExecutionState.completed

/-- A task that is added to a COMPLETED work order is completed already. -/
def TaskFits (db : Database) (organizationId : UUID)
    (payload : WorkOrderService.TaskCreateRequest) : Prop :=
  ∀ w ∈ db.workOrders.rows, payload.workOrderId = some w.id →
    w.organizationId = organizationId → w.status = .completed →
      payload.executionState = TaskExecutionState.completed

/-- A finished work order gets no new requirement. -/
def RequirementFits (db : Database) (organizationId : UUID)
    (args : InspectionService.InspectionRequirementCreate) : Prop :=
  ∀ w ∈ db.workOrders.rows, w.organizationId = organizationId → isFinished w.status = true →
    args.workOrderId ≠ some w.id ∧
      ∀ t ∈ db.tasks.rows, t.workOrderId = w.id → args.taskId ≠ some t.id

/-- What the operations do not check. -/
def Careful (db : Database) : Action u → Prop
  | .createTask _ org _ payload => TaskFits db org payload
  | .createInspectionRequirement _ org args => RequirementFits db org args
  | a => TasksDone db a.move?

instance (db : Database) (move? : Option (UUID × UUID × WorkOrderStatus)) :
    Decidable (TasksDone db move?) :=
  inferInstanceAs (Decidable (∀ w ∈ db.workOrders.rows, _ → _ → ∀ t ∈ db.tasks.rows, _ → _))

instance (db : Database) (org : UUID) (payload : WorkOrderService.TaskCreateRequest) :
    Decidable (TaskFits db org payload) :=
  inferInstanceAs (Decidable (∀ w ∈ db.workOrders.rows, _ → _ → _ → _))

instance (db : Database) (org : UUID) (args : InspectionService.InspectionRequirementCreate) :
    Decidable (RequirementFits db org args) :=
  inferInstanceAs (Decidable (∀ w ∈ db.workOrders.rows, _ → _ → _ ∧
    ∀ t ∈ db.tasks.rows, _ → _))

instance (db : Database) (a : Action u) : Decidable (Careful db a) :=
  match a with
  | .createTask _ org _ payload => inferInstanceAs (Decidable (TaskFits db org payload))
  | .createInspectionRequirement _ org args =>
    inferInstanceAs (Decidable (RequirementFits db org args))
  | .createWorkOrder .. | .updateWorkOrder .. | .assignWorkOrder .. | .transitionWorkOrder ..
  | .cancelWorkOrder .. | .completeWorkOrder .. | .closeWorkOrder .. | .updateTask ..
  | .completeTask .. | .transitionInspectionRequirement .. =>
    inferInstanceAs (Decidable (TasksDone db _))

theorem tasks_of_careful (hok : Careful db a) (hw : w ∈ db.workOrders.rows)
    (hmove : a.move? = some (w.organizationId, w.id, .completed))
    (hstatus : w.status = .inspection) : ∀ t ∈ db.tasks.rows, t.workOrderId = w.id →
      t.executionState = TaskExecutionState.completed := by
  cases a with
  | createTask newId org actor payload => cases hmove
  | createInspectionRequirement newId org args => cases hmove
  | _ => exact hok w hw hmove hstatus

/-! ## One operation on a work order -/

theorem linkedTo_of_tasks (htasks : db'.tasks = db.tasks) :
    LinkedTo db' i id ↔ LinkedTo db i id := by
  rw [LinkedTo, LinkedTo, htasks]

theorem passed_of_same (hsame : SameGates db db') (h : Passed db id) : Passed db' id := by
  refine ⟨?_, ?_⟩
  · rw [hsame.tasks]
    exact h.tasks
  · intro i hi hlinked
    rw [hsame.inspections] at hi
    exact h.inspections i hi ((linkedTo_of_tasks hsame.tasks).1 hlinked)

theorem status_of_completed_allowed {s : WorkOrderStatus}
    (h : .completed ∈ allowedTransitions s) : s = .inspection := by
  cases s with
  | inspection => rfl
  | _ => simp [allowedTransitions] at h

theorem passed_of_change (hatt : Attached db) (hgates : GatesHold db) (hok : Careful db a)
    (hw : w ∈ db.workOrders.rows) (h : Change db a w w') (hfin : isFinished w'.status = true) :
    Passed db w.id := by
  cases h with
  | edited _ h =>
    rw [h.status] at hfin
    exact hgates w hw hfin
  | assigned _ technicianId =>
    rcases WorkOrderService.status_assigned w technicianId with ⟨_, hstatus⟩ | hstatus
    · rw [hstatus] at hfin
      cases hfin
    · rw [hstatus] at hfin
      exact hgates w hw hfin
  | moved target hmove hallowed h =>
    have htarget : target = .completed ∨ target = .closed := by simpa [isFinished] using hfin
    rcases htarget with rfl | rfl
    -- the transition has checked the requirements, the caller the tasks
    · have hstatus := status_of_completed_allowed hallowed
      refine ⟨tasks_of_careful hok hw hmove hstatus, ?_⟩
      intro i hi hlinked
      exact h.inspections rfl i (mem_inspectionsOf hatt hw hi hlinked)
    -- what is closed was completed before
    · have hstatus := status_of_closed_allowed hallowed
      refine hgates w hw ?_
      rw [hstatus]
      rfl

theorem gates_written (hatt : Attached db) (hgates : GatesHold db) (hok : Careful db a)
    (h : Written db a db') (hsame : SameGates db db') : GatesHold db' := by
  intro x hx hfin
  refine passed_of_same hsame ?_
  cases h with
  | same hrows => exact hgates x (hrows ▸ hx) hfin
  | @added row hadd =>
    rcases (Table.mem_insert? hadd).1 hx with hx | rfl
    · exact hgates x hx hfin
    · refine passed_of_fresh hatt ?_
      intro w hw hid
      exact (Table.insert?_eq_some hadd).1 (List.mem_map.2 ⟨w, hw, hid⟩)
  | @changed w w' hw hchange hrows =>
    have hid := id_of_change hchange
    rw [hrows] at hx
    rcases (Table.mem_save_of_mem hw hid.symm).1 hx with ⟨hx, _⟩ | rfl
    · exact hgates x hx hfin
    · rw [hid]
      exact passed_of_change hatt hgates hok hw hchange hfin

/-! ## One operation on a task -/

variable {args : InspectionService.InspectionRequirementCreate}
  {payload : WorkOrderService.TaskCreateRequest} {reason : Option String} {actor : Option UUID}

theorem gates_taskAdded (hatt : Attached db) (hgates : GatesHold db)
    (hok : w.status = .completed → payload.executionState = TaskExecutionState.completed)
    (h : TaskAdded db db' org payload w t) : GatesHold db' := by
  intro x hx hfin
  rw [h.workOrders] at hx
  have hpassed := hgates x hx hfin
  refine ⟨?_, ?_⟩
  · intro t' ht' hid
    rcases (Table.mem_insert? h.inserted).1 ht' with ht' | rfl
    · exact hpassed.tasks t' ht' hid
    · -- the work order of the new task is COMPLETED: it cannot be CLOSED
      obtain rfl : x = w := Table.eq_of_key_eq hx h.found (hid.symm.trans h.workOrder)
      have hopen := h.notFinal
      have hstatus : x.status = .completed ∨ x.status = .closed := by
        simpa [isFinished] using hfin
      rcases hstatus with hstatus | hstatus
      · exact h.state.trans (hok hstatus)
      · rw [hstatus] at hopen
        cases hopen
  · intro i hi hlinked
    rw [h.inspections] at hi
    refine hpassed.inspections i hi ?_
    rcases hlinked with hid | ⟨t', ht', htid, hid⟩
    · exact Or.inl hid
    · rcases (Table.mem_insert? h.inserted).1 ht' with ht' | rfl
      · exact Or.inr ⟨t', ht', htid, hid⟩
      · -- no requirement names a task that was not there
        obtain ⟨t₀, ht₀, hid₀, _⟩ := hatt.toTask i hi _ hid
        exact absurd (List.mem_map.2 ⟨t₀, ht₀, hid₀⟩) (Table.insert?_eq_some h.inserted).1

theorem gates_taskSaved {t t' : Task} (hgates : GatesHold db) (ht : t ∈ db.tasks.rows)
    (hkept : TaskKept t t') (hrows : db'.tasks = db.tasks.save t')
    (hworkOrders : db'.workOrders = db.workOrders)
    (hinspections : db'.inspections = db.inspections) : GatesHold db' := by
  have hkey : Keyed.key t = Keyed.key t' := hkept.id.symm
  intro x hx hfin
  rw [hworkOrders] at hx
  have hpassed := hgates x hx hfin
  refine ⟨?_, ?_⟩
  · intro y hy hid
    rw [hrows] at hy
    rcases (Table.mem_save_of_mem ht hkey).1 hy with ⟨hy, _⟩ | rfl
    · exact hpassed.tasks y hy hid
    -- the execution state is kept, or it becomes COMPLETED
    · rcases hkept.state with hstate | hstate
      · rw [hstate]
        exact hpassed.tasks t ht (hkept.workOrder.symm.trans hid)
      · exact hstate
  · intro i hi hlinked
    rw [hinspections] at hi
    refine hpassed.inspections i hi ?_
    rcases hlinked with hid | ⟨y, hy, hyid, hid⟩
    · exact Or.inl hid
    · rw [hrows] at hy
      rcases (Table.mem_save_of_mem ht hkey).1 hy with ⟨hy, _⟩ | rfl
      · exact Or.inr ⟨y, hy, hyid, hid⟩
      · refine Or.inr ⟨t, ht, hkept.workOrder.symm.trans hyid, ?_⟩
        rw [hid, hkept.id]

/-! ## One operation on a requirement -/

theorem gates_created (hatt : Attached db) (hgates : GatesHold db)
    (hok : RequirementFits db org args) (h : Created db db' org args i) :
    GatesHold db' := by
  have htasks : db'.tasks = db.tasks := by rw [h.others]
  have hworkOrders : db'.workOrders = db.workOrders := by rw [h.others]
  intro x hx hfin
  rw [hworkOrders] at hx
  have hpassed := hgates x hx hfin
  refine ⟨?_, ?_⟩
  · rw [htasks]
    exact hpassed.tasks
  · intro y hy hlinked
    rw [linkedTo_of_tasks htasks] at hlinked
    rcases (Table.mem_insert? h.inserted).1 hy with hy | rfl
    · exact hpassed.inspections y hy hlinked
    -- the new requirement would be linked to a finished work order
    · rcases hlinked with hid | ⟨t, ht, htid, hid⟩
      · have hgiven := h.workOrder.symm.trans hid
        obtain ⟨w, hget⟩ := h.workOrderFound _ hgiven
        obtain ⟨hw, hwid, hworg⟩ := getWorkOrder_eq_ok hget
        obtain rfl : w = x := Table.eq_of_key_eq hw hx hwid
        exact absurd hgiven (hok w hw hworg hfin).1
      · have hgiven := h.task.symm.trans hid
        obtain ⟨t₀, hget⟩ := h.taskFound _ hgiven
        obtain ⟨ht₀, htid₀, htorg⟩ := getTask_eq_ok hget
        obtain rfl : t₀ = t := Table.eq_of_key_eq ht₀ ht htid₀
        obtain ⟨w, hw, hwid, hworg⟩ := hatt.tasks t₀ ht
        obtain rfl : w = x := Table.eq_of_key_eq hw hx (hwid.trans htid)
        exact absurd hgiven ((hok w hw (hworg.trans htorg) hfin).2 t₀ ht htid)

theorem gates_transitioned {target : InspectionRequirementStatus} {inspector : Option UUID}
    (hgates : GatesHold db) (hi : i ∈ db.inspections.rows)
    (hcan : canTransition i.status target = true)
    (hrows : db'.inspections = db.inspections.save (transitioned i target inspector reason))
    (hworkOrders : db'.workOrders = db.workOrders) (htasks : db'.tasks = db.tasks) :
    GatesHold db' := by
  have hkey : Keyed.key i = Keyed.key (transitioned i target inspector reason) := rfl
  intro x hx hfin
  rw [hworkOrders] at hx
  have hpassed := hgates x hx hfin
  refine ⟨?_, ?_⟩
  · rw [htasks]
    exact hpassed.tasks
  · intro y hy hlinked
    rw [linkedTo_of_tasks htasks] at hlinked
    rw [hrows] at hy
    rcases (Table.mem_save_of_mem hi hkey).1 hy with ⟨hy, _⟩ | rfl
    · exact hpassed.inspections y hy hlinked
    · -- the old row passed the gate: it could not move
      have hgate := hpassed.inspections i hi hlinked
      rw [not_canTransition_of_gate hgate] at hcan
      cases hcan

/-! ## What is attached stays attached -/

theorem hasWorkOrder_step (h : step db a = .ok db') (hhas : HasWorkOrder db org id) :
    HasWorkOrder db' org id := by
  obtain ⟨w, hw, rfl, rfl⟩ := hhas
  obtain ⟨w', hw', hid, rfl | hchange⟩ := kept_step h hw
  · exact ⟨w', hw', rfl, rfl⟩
  · exact ⟨w', hw', hid, organization_of_change hchange⟩

theorem hasTask_written (h : TaskWritten db a db') (hhas : HasTask db org id) :
    HasTask db' org id := by
  obtain ⟨t, ht, hid, horg⟩ := hhas
  cases h with
  | added _ hnew => exact ⟨t, (Table.mem_insert? hnew.inserted).2 (Or.inl ht), hid, horg⟩
  | @saved old new hold hkept hrows =>
    rw [HasTask, hrows]
    rcases Table.kept_or_replaced hold hkept.id.symm ht with ht | ⟨rfl, hnew⟩
    · exact ⟨t, ht, hid, horg⟩
    · exact ⟨new, hnew, hkept.id.trans hid, hkept.organization.trans horg⟩

theorem hasTask_step (h : step db a = .ok db') (hhas : HasTask db org id) :
    HasTask db' org id := by
  cases effect_step h with
  | workOrder _ hsame =>
    rw [HasTask, hsame.tasks]
    exact hhas
  | task h _ _ => exact hasTask_written h hhas
  | inspection _ _ htasks =>
    rw [HasTask, htasks]
    exact hhas

theorem onWorkOrder_written (hatt : Attached db) (h : TaskWritten db a db') :
    ∀ t ∈ db'.tasks.rows, HasWorkOrder db t.organizationId t.workOrderId := by
  intro t ht
  cases h with
  | @added _ org _ _ _ new w hnew =>
    rcases (Table.mem_insert? hnew.inserted).1 ht with ht | rfl
    · exact hatt.tasks t ht
    · exact ⟨w, hnew.found, hnew.workOrder.symm,
        hnew.inOrganization.trans hnew.organization.symm⟩
  | @saved old new hold hkept hrows =>
    rw [hrows] at ht
    rcases (Table.mem_save_of_mem hold hkept.id.symm).1 ht with ⟨ht, _⟩ | rfl
    · exact hatt.tasks t ht
    · rw [hkept.organization, hkept.workOrder]
      exact hatt.tasks old hold

theorem linked_written (hatt : Attached db) (h : InspectionWritten db a db') :
    ∀ i ∈ db'.inspections.rows,
      (∀ id, i.workOrderId = some id → HasWorkOrder db i.organizationId id) ∧
      (∀ id, i.taskId = some id → HasTask db i.organizationId id) := by
  intro i hi
  cases h with
  | @added _ org args _ new hnew =>
    rcases (Table.mem_insert? hnew.inserted).1 hi with hi | rfl
    · exact ⟨hatt.toWorkOrder i hi, hatt.toTask i hi⟩
    · rw [hnew.organization, hnew.workOrder, hnew.task]
      refine ⟨?_, ?_⟩
      · intro id hid
        obtain ⟨w, hget⟩ := hnew.workOrderFound id hid
        exact ⟨w, getWorkOrder_eq_ok hget⟩
      · intro id hid
        obtain ⟨t, hget⟩ := hnew.taskFound id hid
        exact ⟨t, getTask_eq_ok hget⟩
  | @saved old target inspector reason hold _ hrows =>
    have hkey : Keyed.key old = Keyed.key (transitioned old target inspector reason) := rfl
    rw [hrows] at hi
    rcases (Table.mem_save_of_mem hold hkey).1 hi with ⟨hi, _⟩ | rfl
    · exact ⟨hatt.toWorkOrder i hi, hatt.toTask i hi⟩
    · exact ⟨hatt.toWorkOrder old hold, hatt.toTask old hold⟩

theorem attached_step (hatt : Attached db) (h : step db a = .ok db') : Attached db' := by
  -- rows first against the tables before the operation, then the tables only grow
  have htasks : ∀ t ∈ db'.tasks.rows, HasWorkOrder db t.organizationId t.workOrderId := by
    cases effect_step h with
    | workOrder _ hsame => rw [hsame.tasks]; exact hatt.tasks
    | task h _ _ => exact onWorkOrder_written hatt h
    | inspection _ _ htasks => rw [htasks]; exact hatt.tasks
  have hlinked : ∀ i ∈ db'.inspections.rows,
      (∀ id, i.workOrderId = some id → HasWorkOrder db i.organizationId id) ∧
      (∀ id, i.taskId = some id → HasTask db i.organizationId id) := by
    have hbefore : ∀ i ∈ db.inspections.rows, _ :=
      fun i hi => And.intro (hatt.toWorkOrder i hi) (hatt.toTask i hi)
    cases effect_step h with
    | workOrder _ hsame => rw [hsame.inspections]; exact hbefore
    | task _ _ hinspections => rw [hinspections]; exact hbefore
    | inspection h _ _ => exact linked_written hatt h
  refine ⟨?_, ?_, ?_⟩
  · intro t ht
    exact hasWorkOrder_step h (htasks t ht)
  · intro i hi id hid
    exact hasWorkOrder_step h ((hlinked i hi).1 id hid)
  · intro i hi id hid
    exact hasTask_step h ((hlinked i hi).2 id hid)

/-- **ONE OPERATION**: a careful operation keeps the gates. -/
theorem gates_step (hatt : Attached db) (hgates : GatesHold db) (hok : Careful db a)
    (h : step db a = .ok db') : GatesHold db' := by
  cases effect_step h with
  | workOrder h hsame => exact gates_written hatt hgates hok h hsame
  | task h hworkOrders hinspections =>
    cases h with
    | @added newId org actor payload ha t w hnew =>
      subst ha
      exact gates_taskAdded hatt hgates (hok w hnew.found hnew.given hnew.inOrganization) hnew
    | saved ht hkept hrows => exact gates_taskSaved hgates ht hkept hrows hworkOrders hinspections
  | inspection h hworkOrders htasks =>
    cases h with
    | added ha hnew =>
      subst ha
      exact gates_created hatt hgates hok hnew
    | saved hi hcan hrows => exact gates_transitioned hgates hi hcan hrows hworkOrders htasks

/-! ## A careless operation breaks the gates -/

theorem not_gates_createTask {newId org : UUID}
    (h : WorkOrderService.createTask db newId org actor payload = .ok db')
    (hw : w ∈ db.workOrders.rows) (hgiven : payload.workOrderId = some w.id)
    (hstatus : w.status = .completed)
    (hstate : payload.executionState ≠ TaskExecutionState.completed) : ¬ GatesHold db' := by
  obtain ⟨t, w₀, hnew⟩ := WorkOrderService.createTask_eq_ok h
  have hid : w₀.id = w.id := Option.some.inj (hnew.given.symm.trans hgiven)
  obtain rfl : w₀ = w := Table.eq_of_key_eq hnew.found hw hid
  intro hgates
  have hfin : isFinished w₀.status = true := by rw [hstatus]; rfl
  have hpassed := hgates w₀ (hnew.workOrders ▸ hw) hfin
  refine hstate (hnew.state.symm.trans (hpassed.tasks t ?_ hnew.workOrder))
  exact (Table.mem_insert? hnew.inserted).2 (Or.inr rfl)

theorem not_gates_created (h : Created db db' org args i) (hw : w ∈ db.workOrders.rows)
    (hfin : isFinished w.status = true)
    (hlinked : args.workOrderId = some w.id ∨
      ∃ t ∈ db.tasks.rows, t.workOrderId = w.id ∧ args.taskId = some t.id) :
    ¬ GatesHold db' := by
  intro hgates
  have hw' : w ∈ db'.workOrders.rows := by
    rw [h.others]
    exact hw
  have hlinked' : LinkedTo db' i w.id := by
    rw [LinkedTo, h.workOrder, h.task, h.others]
    exact hlinked
  have hi : i ∈ db'.inspections.rows := (Table.mem_insert? h.inserted).2 (Or.inr rfl)
  have hgate := (hgates w hw' hfin).inspections i hi hlinked'
  rw [h.pending] at hgate
  cases hgate

theorem not_gates_completed {now : DateTime} {target : String}
    (h : WorkOrderService.transitionWorkOrder u db now org id actor target reason = .ok db')
    (htarget : WorkOrderStatus.ofText target = .completed) (hw : w ∈ db.workOrders.rows)
    (hid : w.id = id) (hstatus : w.status = .inspection) (ht : t ∈ db.tasks.rows)
    (htid : t.workOrderId = w.id) (hstate : t.executionState ≠ TaskExecutionState.completed) :
    ¬ GatesHold db' := by
  rcases WorkOrderService.transitionWorkOrder_eq_ok h with
    ⟨_, w₀, hw₀, hid₀, hsame⟩ | ⟨w₀, hw₀, w', hid₀, rfl, _, hgated, hrows, hsame⟩
  · obtain rfl : w₀ = w := Table.eq_of_key_eq hw₀ hw (hid₀.trans hid.symm)
    rw [hstatus, htarget] at hsame
    cases hsame
  · obtain rfl : w₀ = w := Table.eq_of_key_eq hw₀ hw (hid₀.trans hid.symm)
    have hkept := WorkOrderService.gated_eq_ok hgated
    have hkey : Keyed.key w₀
        = Keyed.key { w' with status := WorkOrderStatus.ofText target } := hkept.id.symm
    have hmoved : { w' with status := WorkOrderStatus.ofText target } ∈ db'.workOrders.rows := by
      rw [hrows]
      exact (Table.mem_save_of_mem hw hkey).2 (Or.inr rfl)
    have hfin : isFinished (WorkOrderStatus.ofText target) = true := by rw [htarget]; rfl
    intro hgates
    refine hstate ((hgates _ hmoved hfin).tasks t (hsame.tasks ▸ ht) ?_)
    exact htid.trans hkept.id.symm

/-- What is not careful and goes through leaves a finished work order that has not passed. -/
theorem not_gates_of_not_careful (h : step db a = .ok db') (hnot : ¬ Careful db a) :
    ¬ GatesHold db' := by
  cases a with
  | createTask newId org actor payload =>
    simp only [Careful, TaskFits, not_forall] at hnot
    obtain ⟨w, hw, hgiven, _, hstatus, hstate⟩ := hnot
    exact not_gates_createTask h hw hgiven hstatus hstate
  | createInspectionRequirement newId org args =>
    obtain ⟨_, h⟩ := map_fst_eq_ok h
    simp only [Careful, RequirementFits, not_forall] at hnot
    obtain ⟨w, hw, _, hfin, hlinked⟩ := hnot
    refine not_gates_created (InspectionService.createInspectionRequirement_eq_ok h) hw hfin ?_
    by_cases hid : args.workOrderId = some w.id
    · exact Or.inl hid
    · refine Or.inr ?_
      have htask := not_and.1 hlinked hid
      simp only [not_forall, not_not] at htask
      obtain ⟨t, ht, htid, hgiven⟩ := htask
      exact ⟨t, ht, htid, hgiven⟩
  | transitionWorkOrder now org id actor target reason =>
    simp only [Careful, TasksDone, not_forall] at hnot
    obtain ⟨w, hw, hmove, hstatus, t, ht, htid, hstate⟩ := hnot
    simp only [Action.move?, Option.some.injEq, Prod.mk.injEq] at hmove
    exact not_gates_completed h hmove.2.2 hw hmove.2.1.symm hstatus ht htid hstate
  | completeWorkOrder now org id actor =>
    simp only [Careful, TasksDone, not_forall] at hnot
    obtain ⟨w, hw, hmove, hstatus, t, ht, htid, hstate⟩ := hnot
    simp only [Action.move?, Option.some.injEq, Prod.mk.injEq] at hmove
    exact not_gates_completed h rfl hw hmove.2.1.symm hstatus ht htid hstate
  | _ => exact absurd (fun w _ hmove => by simp [Action.move?] at hmove) hnot

/-! ## Whole runs -/

section Runs

open Runs (StepsMeet visited visited_invariant)

/-- **GATES**: they hold in every state of a careful history, and a careless operation that
goes through breaks them. -/
theorem gates_hold (hatt : Attached db) (hgates : GatesHold db) (as : List (Action u)) :
    (StepsMeet step Careful db as → ∀ s ∈ visited step db as, GatesHold s) ∧
    ∀ (s s' : Database) (a : Action u), step s a = .ok s' → ¬ Careful s a → ¬ GatesHold s' := by
  refine ⟨?_, ?_⟩
  · intro hok s hs
    have hboth : ∀ s ∈ visited step db as, Attached s ∧ GatesHold s := by
      refine visited_invariant ?_ as db ⟨hatt, hgates⟩ hok
      rintro s a s' ⟨hatt, hgates⟩ hok h
      exact ⟨attached_step hatt h, gates_step hatt hgates hok h⟩
    exact (hboth s hs).2
  · intro s s' a h hnot
    exact not_gates_of_not_careful h hnot

def toInspection : List (Action .ascii) :=
  [ .transitionWorkOrder 1 1 1 none "OPEN" none, .assignWorkOrder 1 1 none 5,
    .transitionWorkOrder 2 1 1 none "IN_PROGRESS" none,
    .transitionWorkOrder 3 1 1 none "INSPECTION" none ]

/-- A task and its inspection, both done before the work order is. -/
def carefulLife : List (Action .ascii) :=
  .createTask 10 1 none { workOrderId := some 1, description := "Replace the bearing" } ::
  .createInspectionRequirement 20 1 { taskId := some 10, required := false } ::
  .completeTask 1 1 10 none :: toInspection ++
  [ .transitionInspectionRequirement 1 20 .completed (some 5) none none,
    .completeWorkOrder 4 1 1 none, .closeWorkOrder 5 1 1 none ]

theorem attached_hangar : Attached hangar := by
  refine ⟨?_, ?_, ?_⟩
  · intro t ht
    cases ht
  · intro i hi
    cases hi
  · intro i hi
    cases hi

theorem carefulLife_gates :
    StepsMeet step Careful hangar carefulLife ∧
    ∀ s ∈ visited step hangar carefulLife, GatesHold s := by
  have hok : StepsMeet step Careful hangar carefulLife := by decide
  exact ⟨hok, (gates_hold attached_hangar (by decide) carefulLife).1 hok⟩

/-- A task that is added in INSPECTION is not looked at when the work order is completed. -/
def lateTask : List (Action .ascii) :=
  toInspection ++
  [ .createTask 10 1 none { workOrderId := some 1, description := "Replace the bearing" },
    .completeWorkOrder 4 1 1 none ]

/-- A closed work order refuses new tasks and not new requirements. -/
def lateRequirement : List (Action .ascii) :=
  toInspection ++
  [ .completeWorkOrder 4 1 1 none, .closeWorkOrder 5 1 1 none,
    .createInspectionRequirement 20 1 { workOrderId := some 1, required := true } ]

theorem late_work_unfinished :
    (¬ ∀ s ∈ visited step hangar lateTask, GatesHold s) ∧
    ¬ ∀ s ∈ visited step hangar lateRequirement, GatesHold s := by
  refine ⟨?_, ?_⟩
  · decide
  · decide

end Runs
end WorkOrderGates
end AeroComply
