import AeroComply.Services.WorkOrder

/-!
# WorkOrderRuns — the life of a work order

Histories of the operations on work orders, on their tasks and on the inspection
requirements.  A status is written by an assignment and by a transition; `Change`
says what one operation can do to one row, and the lifecycle is an induction over
it.
-/

namespace AeroComply

open Relational (Keyed Table)

namespace WorkOrderRuns

open Database (getTask_eq_ok)
open InspectionService
  (Created InspectionRequirementCreate canTransition createInspectionRequirement_eq_ok
    getInspectionRequirement getInspectionRequirement_eq_ok
    transitionInspectionRequirement_eq_ok transitioned)
open WorkOrderService

/-! ## The operations as actions -/

inductive Action (u : UnicodeTables)
  | createWorkOrder (now : DateTime) (newId organizationId : UUID) (createdBy : Option UUID)
      (payload : WorkOrderCreateRequest)
  | updateWorkOrder (organizationId workOrderId : UUID) (actor : Option UUID)
      (payload : WorkOrderUpdateRequest)
  | assignWorkOrder (organizationId workOrderId : UUID) (actor : Option UUID)
      (assignedToUserId : UUID)
  | transitionWorkOrder (now : DateTime) (organizationId workOrderId : UUID)
      (actor : Option UUID) (targetStatus : String) (reason : Option String)
  | cancelWorkOrder (now : DateTime) (organizationId workOrderId : UUID) (actor : Option UUID)
      (payload : WorkOrderCancelRequest u)
  | completeWorkOrder (now : DateTime) (organizationId workOrderId : UUID)
      (actor : Option UUID)
  | closeWorkOrder (now : DateTime) (organizationId workOrderId : UUID) (actor : Option UUID)
  | createTask (newId organizationId : UUID) (actor : Option UUID)
      (payload : TaskCreateRequest)
  | updateTask (organizationId taskId : UUID) (actor : Option UUID)
      (payload : TaskUpdateRequest)
  | completeTask (now : DateTime) (organizationId taskId : UUID) (actor : Option UUID)
  | createInspectionRequirement (newId organizationId : UUID)
      (args : InspectionRequirementCreate)
  | transitionInspectionRequirement (organizationId requirementId : UUID)
      (target : InspectionRequirementStatus) (actor inspector : Option UUID)
      (rejectionReason : Option String)

variable {u : UnicodeTables}

/-- The callers of `complete_task` and of `transition_inspection_requirement` look the row up
first. -/
def step (db : Database) : Action u → Except Error Database
  | .createWorkOrder now newId org createdBy payload =>
    WorkOrderService.createWorkOrder db newId now org createdBy payload
  | .updateWorkOrder org id actor payload =>
    WorkOrderService.updateWorkOrder db org id actor payload
  | .assignWorkOrder org id actor technician =>
    WorkOrderService.assignWorkOrder db org id actor technician
  | .transitionWorkOrder now org id actor target reason =>
    WorkOrderService.transitionWorkOrder u db now org id actor target reason
  | .cancelWorkOrder now org id actor payload =>
    WorkOrderService.cancelWorkOrder u db now org id actor payload
  | .completeWorkOrder now org id actor =>
    WorkOrderService.completeWorkOrder u db now org id actor
  | .closeWorkOrder now org id actor => WorkOrderService.closeWorkOrder u db now org id actor
  | .createTask newId org actor payload =>
    WorkOrderService.createTask db newId org actor payload
  | .updateTask org taskId actor payload =>
    WorkOrderService.updateTask db org taskId actor payload
  | .completeTask now org taskId actor => do
    let task ← db.getTask org taskId
    WorkOrderService.completeTask db now task actor
  | .createInspectionRequirement newId org args =>
    (InspectionService.createInspectionRequirement db newId org args).map Prod.fst
  | .transitionInspectionRequirement org requirementId target actor inspector reason => do
    let requirement ← getInspectionRequirement db org requirementId
    (InspectionService.transitionInspectionRequirement db requirement target actor inspector
      reason).map Prod.fst

/-- The work order that a transition moves, with its organization and the target. -/
def Action.move? : Action u → Option (UUID × UUID × WorkOrderStatus)
  | .transitionWorkOrder _ org id _ target _ => some (org, id, .ofText target)
  | .cancelWorkOrder _ org id _ _ => some (org, id, .cancelled)
  | .completeWorkOrder _ org id _ => some (org, id, .completed)
  | .closeWorkOrder _ org id _ => some (org, id, .closed)
  | _ => none

/-! ## One operation -/

section Steps

variable {db db' : Database} {a : Action u} {w w' : WorkOrder}

/-- What an operation can do to a work order. -/
inductive Change (db : Database) (a : Action u) (w : WorkOrder) : WorkOrder → Prop
  | edited {w' : WorkOrder} (hopen : isFinal w.status = false) (h : Edited w w') :
      Change db a w w'
  | assigned (hopen : isFinal w.status = false) (technicianId : UUID) :
      Change db a w (assigned w technicianId)
  | moved {w' : WorkOrder} (target : WorkOrderStatus)
      (hmove : a.move? = some (w.organizationId, w.id, target))
      (hallowed : target ∈ allowedTransitions w.status)
      (h : Gated u db w.organizationId target w w') :
      Change db a w { w' with status := target }

/-- The work orders after an operation on one of them. -/
inductive Written (db : Database) (a : Action u) (db' : Database) : Prop
  | same (h : db'.workOrders = db.workOrders)
  | added {row : WorkOrder} (h : db.workOrders.insert? row = some db'.workOrders)
  | changed {w w' : WorkOrder} (hw : w ∈ db.workOrders.rows) (hchange : Change db a w w')
      (h : db'.workOrders = db.workOrders.save w')

/-- The tasks after an operation on one of them. -/
inductive TaskWritten (db : Database) (a : Action u) (db' : Database) : Prop
  | added {newId org : UUID} {actor : Option UUID} {payload : TaskCreateRequest}
      (ha : a = .createTask newId org actor payload) {t : Task} {w : WorkOrder}
      (h : TaskAdded db db' org payload w t)
  | saved {t t' : Task} (ht : t ∈ db.tasks.rows) (hkept : TaskKept t t')
      (h : db'.tasks = db.tasks.save t')

/-- The inspection requirements after an operation on one of them. -/
inductive InspectionWritten (db : Database) (a : Action u) (db' : Database) : Prop
  | added {newId org : UUID} {args : InspectionRequirementCreate}
      (ha : a = .createInspectionRequirement newId org args) {i : InspectionRequirement}
      (h : Created db db' org args i)
  | saved {i : InspectionRequirement} {target : InspectionRequirementStatus}
      {inspector : Option UUID} {reason : Option String} (hi : i ∈ db.inspections.rows)
      (hcan : canTransition i.status target = true)
      (h : db'.inspections = db.inspections.save (transitioned i target inspector reason))

/-- What an operation does: it writes one of the three tables. -/
inductive Effect (db : Database) (a : Action u) (db' : Database) : Prop
  | workOrder (h : Written db a db') (hsame : SameGates db db')
  | task (h : TaskWritten db a db') (hworkOrders : db'.workOrders = db.workOrders)
      (hinspections : db'.inspections = db.inspections)
  | inspection (h : InspectionWritten db a db') (hworkOrders : db'.workOrders = db.workOrders)
      (htasks : db'.tasks = db.tasks)

theorem id_of_change (h : Change db a w w') : w'.id = w.id := by
  cases h with
  | edited _ h => exact h.id
  | assigned _ technicianId => rfl
  | moved target _ _ h => exact h.id

theorem organization_of_change (h : Change db a w w') :
    w'.organizationId = w.organizationId := by
  cases h with
  | edited _ h => exact h.organization
  | assigned _ technicianId => rfl
  | moved target _ _ h => exact h.organization

theorem effect_transition {now : DateTime} {org id : UUID} {actor : Option UUID} {target : String}
    {reason : Option String} (hmove : a.move? = some (org, id, WorkOrderStatus.ofText target))
    (h : WorkOrderService.transitionWorkOrder u db now org id actor target reason = .ok db') :
    Effect db a db' := by
  rcases transitionWorkOrder_eq_ok h with
    ⟨rfl, _⟩ | ⟨w, hw, w', rfl, rfl, hallowed, hgated, hrows, hsame⟩
  · exact .workOrder (.same rfl) ⟨rfl, rfl⟩
  · exact .workOrder (.changed hw (.moved _ hmove hallowed (gated_eq_ok hgated)) hrows) hsame

/-- **ONE OPERATION**: what it does to the work orders, the tasks and the requirements. -/
theorem effect_step (h : step db a = .ok db') : Effect db a db' := by
  cases a with
  | createWorkOrder now newId org createdBy payload =>
    obtain ⟨_, hadd, hsame⟩ := createWorkOrder_eq_ok h
    exact .workOrder (.added hadd) hsame
  | updateWorkOrder org id actor payload =>
    obtain ⟨w, hw, w', hopen, hedited, hrows, hsame⟩ := updateWorkOrder_eq_ok h
    exact .workOrder (.changed hw (.edited hopen hedited) hrows) hsame
  | assignWorkOrder org id actor technician =>
    obtain ⟨w, hw, technicianId, hopen, hrows, hsame⟩ := assignWorkOrder_eq_ok h
    exact .workOrder (.changed hw (.assigned hopen technicianId) hrows) hsame
  | transitionWorkOrder now org id actor target reason => exact effect_transition rfl h
  | cancelWorkOrder now org id actor payload => exact effect_transition rfl h
  | completeWorkOrder now org id actor => exact effect_transition rfl h
  | closeWorkOrder now org id actor => exact effect_transition rfl h
  | createTask newId org actor payload =>
    obtain ⟨t, w, hnew⟩ := createTask_eq_ok h
    exact .task (.added rfl hnew) hnew.workOrders hnew.inspections
  | updateTask org taskId actor payload =>
    obtain ⟨t, ht, t', hkept, hrows, hworkOrders, hinspections⟩ := updateTask_eq_ok h
    exact .task (.saved ht hkept hrows) hworkOrders hinspections
  | completeTask now org taskId actor =>
    obtain ⟨t, hget, h⟩ := bind_eq_ok.1 h
    obtain ⟨hrows, hworkOrders, hinspections⟩ := completeTask_eq_ok h
    exact .task (.saved (getTask_eq_ok hget).1 (taskKept_completed now t) hrows) hworkOrders
      hinspections
  | createInspectionRequirement newId org args =>
    obtain ⟨_, h⟩ := map_fst_eq_ok h
    have hnew := createInspectionRequirement_eq_ok h
    exact .inspection (.added rfl hnew) (by rw [hnew.others]) (by rw [hnew.others])
  | transitionInspectionRequirement org requirementId target actor inspector reason =>
    obtain ⟨i, hget, h⟩ := bind_eq_ok.1 h
    obtain ⟨_, h⟩ := map_fst_eq_ok h
    obtain ⟨_, rfl, hcan, _, rfl⟩ := transitionInspectionRequirement_eq_ok h
    exact .inspection (.saved (getInspectionRequirement_eq_ok hget).1 hcan rfl) rfl rfl

theorem written_step (h : step db a = .ok db') : Written db a db' := by
  cases effect_step h with
  | workOrder h _ => exact h
  | task _ hworkOrders _ => exact .same hworkOrders
  | inspection _ hworkOrders _ => exact .same hworkOrders

theorem kept_step (h : step db a = .ok db') (hw : w ∈ db.workOrders.rows) :
    ∃ w' ∈ db'.workOrders.rows, w'.id = w.id ∧ (w' = w ∨ Change db a w w') := by
  cases written_step h with
  | same hrows => exact ⟨w, hrows ▸ hw, rfl, Or.inl rfl⟩
  | added hadd => exact ⟨w, (Table.mem_insert? hadd).2 (Or.inl hw), rfl, Or.inl rfl⟩
  | @changed old new hold hchange hrows =>
    have hkey : Keyed.key old = Keyed.key new := (id_of_change hchange).symm
    rw [hrows]
    rcases Table.kept_or_replaced hold hkey hw with hw | ⟨rfl, hnew⟩
    · exact ⟨w, hw, rfl, Or.inl rfl⟩
    · exact ⟨new, hnew, id_of_change hchange, Or.inr hchange⟩

end Steps

/-! ## The lifecycle of one work order -/

section Lifecycle

variable {db db' : Database} {a : Action u} {w w' : WorkOrder}

/-- What the status of a work order says about its other fields. -/
structure Lifecycle (u : UnicodeTables) (w : WorkOrder) : Prop where
  assigned : w.status = .assigned ∨ w.status = .inProgress → w.assignedToUserId.isSome = true
  completed : w.status = .completed ∨ w.status = .closed → w.completedAt.isSome = true
  closed : w.status = .closed → w.closedAt.isSome = true
  cancelled : w.status = .cancelled →
    ∃ text, w.cancellationReason = some (u.strip text) ∧ 3 ≤ (u.strip text).length

theorem lifecycle_of_draft (h : w.status = .draft) : Lifecycle u w := by
  refine ⟨?_, ?_, ?_, ?_⟩
  all_goals
    intro hstatus
    rw [h] at hstatus
    simp at hstatus

theorem lifecycle_edited (hl : Lifecycle u w) (h : Edited w w') : Lifecycle u w' := by
  refine ⟨?_, ?_, ?_, ?_⟩
  · rw [h.status, h.assignee]
    exact hl.assigned
  · rw [h.status, h.completedAt]
    exact hl.completed
  · rw [h.status, h.closedAt]
    exact hl.closed
  · rw [h.status, h.reason]
    exact hl.cancelled

theorem status_of_closed_allowed {s : WorkOrderStatus} (h : .closed ∈ allowedTransitions s) :
    s = .completed := by
  cases s with
  | completed => rfl
  | _ => simp [allowedTransitions] at h

theorem lifecycle_assigned (hl : Lifecycle u w) (technicianId : UUID) :
    Lifecycle u (assigned w technicianId) := by
  rcases status_assigned w technicianId with ⟨_, hstatus⟩ | hstatus
  · refine ⟨fun _ => rfl, ?_, ?_, ?_⟩
    all_goals
      intro h
      rw [hstatus] at h
      simp at h
  · refine ⟨fun _ => rfl, ?_, ?_, ?_⟩
    · rw [hstatus]
      exact hl.completed
    · rw [hstatus]
      exact hl.closed
    · rw [hstatus]
      exact hl.cancelled

theorem lifecycle_moved {target : WorkOrderStatus} {org : UUID} (hl : Lifecycle u w)
    (hallowed : target ∈ allowedTransitions w.status) (h : Gated u db org target w w') :
    Lifecycle u { w' with status := target } where
  assigned ht := by
    show w'.assignedToUserId.isSome = true
    rw [h.assignee]
    exact h.assigned ht
  completed ht := by
    rcases ht with ht | ht
    · exact h.completedAt ht
    · -- what is closed was completed before
      obtain rfl : target = .closed := ht
      show w'.completedAt.isSome = true
      rw [(h.closedAt rfl).2]
      exact hl.completed (Or.inl (status_of_closed_allowed hallowed))
  closed ht := (h.closedAt ht).1
  cancelled ht := h.reason ht

theorem lifecycle_change (hl : Lifecycle u w) (h : Change db a w w') : Lifecycle u w' := by
  cases h with
  | edited _ h => exact lifecycle_edited hl h
  | assigned _ technicianId => exact lifecycle_assigned hl technicianId
  | moved target _ hallowed h => exact lifecycle_moved hl hallowed h

/-- The status is the same, or the next one is an edge away. -/
def Moved (w w' : WorkOrder) : Prop :=
  w'.status = w.status ∨ w'.status ∈ allowedTransitions w.status

theorem moved_change (h : Change db a w w') : Moved w w' := by
  cases h with
  | edited _ h => exact Or.inl h.status
  | assigned _ technicianId =>
    rcases status_assigned w technicianId with ⟨hmoves, hstatus⟩ | hstatus
    · refine Or.inr ?_
      rw [hstatus]
      rcases hmoves with h | h
      · rw [h]
        simp [allowedTransitions]
      · rw [h]
        simp [allowedTransitions]
    · exact Or.inl hstatus
  | moved target _ hallowed _ => exact Or.inr hallowed

theorem not_final_of_change (h : Change db a w w') : isFinal w.status = false := by
  cases h with
  | edited hopen _ => exact hopen
  | assigned hopen _ => exact hopen
  | moved target _ hallowed _ =>
    -- neither has an edge that leaves it
    generalize w.status = s at hallowed
    cases s with
    | closed => simp [allowedTransitions] at hallowed
    | cancelled => simp [allowedTransitions] at hallowed
    | _ => rfl

end Lifecycle

/-! ## Its whole life -/

section Runs

open Runs (stepsMeet_true visited visited_invariant visited_isChain)

/-- The work order goes along the edges of `_ALLOWED_TRANSITIONS`. -/
def Moves (id : UUID) (db db' : Database) : Prop :=
  ∀ w ∈ db.workOrders.rows, w.id = id → ∀ w' ∈ db'.workOrders.rows, w'.id = id → Moved w w'

/-- Once it is closed or cancelled, its row stays as it is. -/
def Frozen (id : UUID) (db db' : Database) : Prop :=
  ∀ w ∈ db.workOrders.rows, w.id = id → isFinal w.status = true → w ∈ db'.workOrders.rows

/-- It is there, and its fields agree with its status. -/
def InLifecycle (u : UnicodeTables) (id : UUID) (db : Database) : Prop :=
  ∃ w ∈ db.workOrders.rows, w.id = id ∧ Lifecycle u w

variable {db db' : Database} {a : Action u} {id : UUID}

theorem inLifecycle_step (hin : InLifecycle u id db) (h : step db a = .ok db') :
    InLifecycle u id db' := by
  obtain ⟨w, hw, rfl, hl⟩ := hin
  obtain ⟨w', hw', hid, hsame | hchange⟩ := kept_step h hw
  · exact ⟨w', hw', hid, hsame ▸ hl⟩
  · exact ⟨w', hw', hid, lifecycle_change hl hchange⟩

theorem moves_step (h : step db a = .ok db') : Moves id db db' := by
  rintro w hw rfl x hx hxid
  obtain ⟨w', hw', hid, hsame | hchange⟩ := kept_step h hw
  · obtain rfl : x = w' := Table.eq_of_key_eq hx hw' (hxid.trans hid.symm)
    exact Or.inl (congrArg WorkOrder.status hsame)
  · obtain rfl : x = w' := Table.eq_of_key_eq hx hw' (hxid.trans hid.symm)
    exact moved_change hchange

theorem frozen_step (h : step db a = .ok db') : Frozen id db db' := by
  intro w hw _ hfinal
  obtain ⟨w', hw', _, hsame | hchange⟩ := kept_step h hw
  · exact hsame ▸ hw'
  · rw [not_final_of_change hchange] at hfinal
    cases hfinal

theorem moves_refl (id : UUID) (db : Database) : Moves id db db := by
  rintro w hw rfl x hx hxid
  exact Or.inl (congrArg WorkOrder.status (Table.eq_of_key_eq hx hw hxid))

instance : Trans (Frozen id) (Frozen id) (Frozen id) where
  trans h h' w hw hid hfinal := h' w (h w hw hid hfinal) hid hfinal

/-- **LIFECYCLE SAFETY**: from DRAFT on, the fields of a work order agree with its status,
the status goes along the allowed edges, and a closed or a cancelled one stays as it is. -/
theorem lifecycle_safe (u : UnicodeTables) (db : Database) (w : WorkOrder)
    (hw : w ∈ db.workOrders.rows) (hdraft : w.status = .draft) (as : List (Action u)) :
    (∀ s ∈ visited step db as, ∃ w' ∈ s.workOrders.rows, w'.id = w.id ∧ Lifecycle u w') ∧
    (visited step db as).IsChain (Moves w.id) ∧
    (visited step db as).Pairwise (Frozen w.id) := by
  have hall := stepsMeet_true step db as
  refine ⟨?_, ?_, ?_⟩
  -- the fields are an invariant, the edges relate neighbours, the final row all later states
  · have hstart : InLifecycle u w.id db := ⟨w, hw, rfl, lifecycle_of_draft hdraft⟩
    exact visited_invariant (fun _ _ _ hin _ h => inLifecycle_step hin h) as db hstart hall
  · have hstep : ∀ s (a : Action u) s', True → True → step s a = .ok s' →
        True ∧ Moves w.id s s' :=
      fun _ _ _ _ _ h => ⟨trivial, moves_step h⟩
    exact visited_isChain (moves_refl w.id) hstep as db trivial hall
  · have hstep : ∀ s (a : Action u) s', True → True → step s a = .ok s' →
        True ∧ Frozen w.id s s' :=
      fun _ _ _ _ _ h => ⟨trivial, frozen_step h⟩
    refine List.IsChain.pairwise ?_
    exact visited_isChain (fun _ _ hw _ _ => hw) hstep as db trivial hall

/-- A work order and its technician. -/
def draft : WorkOrder := { id := 1, organizationId := 1, status := .draft }

def hangar : Database where
  users := .single { id := 5, organizationId := 1 }
  workOrders := .single draft

/-- From DRAFT to CLOSED, with an update that comes too late. -/
def wholeLife : List (Action .ascii) :=
  [ .transitionWorkOrder 1 1 1 none "OPEN" none, .assignWorkOrder 1 1 none 5,
    .transitionWorkOrder 2 1 1 none "IN_PROGRESS" none,
    .transitionWorkOrder 3 1 1 none "INSPECTION" none, .completeWorkOrder 4 1 1 none,
    .closeWorkOrder 5 1 1 none, .updateWorkOrder 1 1 none { title := .value "Reopened" } ]

theorem draft_lifecycle_safe :
    (∀ s ∈ visited step hangar wholeLife,
      ∃ w' ∈ s.workOrders.rows, w'.id = draft.id ∧ Lifecycle .ascii w') ∧
    (visited step hangar wholeLife).IsChain (Moves draft.id) ∧
    (visited step hangar wholeLife).Pairwise (Frozen draft.id) :=
  lifecycle_safe .ascii hangar draft (List.mem_singleton_self draft) rfl wholeLife

/-- The characters of a text that are not white space. -/
def nonBlank (u : UnicodeTables) (text : String) : Nat :=
  (text.toList.filter fun c => !u.isSpace c).length

/-- Two letters with a space between them are a reason of three characters. -/
theorem two_letters_cancel :
    ¬ ∀ s ∈ visited step hangar
        [.cancelWorkOrder 2 1 1 none (u := .ascii)
          { cancellationReason := some "a b", reason_valid := by decide }],
      ∀ w ∈ s.workOrders.rows, w.status = .cancelled →
        3 ≤ nonBlank .ascii (w.cancellationReason.getD "") := by
  decide

end Runs
end WorkOrderRuns
end AeroComply
