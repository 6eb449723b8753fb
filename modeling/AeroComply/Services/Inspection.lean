import AeroComply.Models.Database

/-!
# Inspection — checklist reviews and required inspection items

`app/services/inspection_service.py`.  Completing a required inspection needs an
inspector who uploaded no evidence for the requirement's task.  The check is made
at that one transition; marking a requirement NOT_REQUIRED has no check.
-/

namespace AeroComply

open Relational (Table)

namespace InspectionService

def allowedTransitions : InspectionRequirementStatus → List InspectionRequirementStatus
  | .pending => [.completed, .notRequired, .rejected]
  | .rejected => [.pending]
  | .completed => []
  | .notRequired => []

def canTransition (current target : InspectionRequirementStatus) : Bool :=
  if current = target then false else (allowedTransitions current).contains target

def satisfiesCompletionGate (status : InspectionRequirementStatus) : Bool :=
  status = .completed || status = .notRequired

def assertUserInOrganization (db : Database) (organizationId userId : UUID) :
    Except Error Unit := do
  let _ ← oneOrRaise
    (db.users.select fun u => u.id = userId && u.organizationId = organizationId)
    (.conflict "inspector_user_id does not belong to this organization")
  pure ()

def executingTechnicianIds (db : Database) (requirement : InspectionRequirement) : List UUID :=
  match requirement.taskId with
  | none => []
  | some taskId =>
    (db.evidence.select fun e =>
      e.organizationId = requirement.organizationId && e.taskId = some taskId).filterMap
      Evidence.uploadedByUserId

def assertIndependentInspector (db : Database) (requirement : InspectionRequirement)
    (inspectorUserId : Option UUID) : Except Error Unit :=
  if requirement.required = false then .ok ()
  else
    match inspectorUserId with
    | none => .error
        (.conflict "An inspector_user_id is required to complete a required (RII) inspection")
    | some inspector =>
      raiseIf (inspector ∈ executingTechnicianIds db requirement)
        (.conflict ("The inspector must be independent of the technician who performed the work "
          ++ "(RII rule) — this inspector uploaded evidence for the same task"))

/-- `effective_inspector`: the one that is named, or else the actor. -/
def effectiveInspector (db : Database) (requirement : InspectionRequirement)
    (actorUserId : Option UUID) : Option UUID → Except Error (Option UUID)
  | some inspector => do
    assertUserInOrganization db requirement.organizationId inspector
    pure (some inspector)
  | none => .ok actorUserId

/-- The inspector of a completion, checked for independence. -/
def completionInspector (db : Database) (requirement : InspectionRequirement)
    (actorUserId inspectorUserId : Option UUID) : Except Error (Option UUID) := do
  let inspector ← effectiveInspector db requirement actorUserId inspectorUserId
  assertIndependentInspector db requirement inspector
  pure inspector

/-- The inspector that a transition stores: only a completion names a new one. -/
def storedInspector (db : Database) (requirement : InspectionRequirement)
    (target : InspectionRequirementStatus) (actorUserId inspectorUserId : Option UUID) :
    Except Error (Option UUID) :=
  match target with
  | .completed => completionInspector db requirement actorUserId inspectorUserId
  | .rejected | .notRequired | .pending => .ok requirement.inspectorUserId

/-- The log entry of a transition. -/
def transitionAction : InspectionRequirementStatus → String
  | .completed => "inspection.completed"
  | .rejected => "inspection.rejected"
  | .notRequired => "inspection.marked_not_required"
  | .pending => "inspection.reopened"

/-- The row after a transition; a rejection is the only one with a reason. -/
def transitioned (requirement : InspectionRequirement) (target : InspectionRequirementStatus)
    (inspector : Option UUID) (rejectionReason : Option String) : InspectionRequirement :=
  { requirement with
    status := target
    inspectorUserId := inspector
    rejectionReason := if target = .rejected then rejectionReason else none }

def transitionInspectionRequirement (db : Database) (requirement : InspectionRequirement)
    (target : InspectionRequirementStatus) (actorUserId inspectorUserId : Option UUID)
    (rejectionReason : Option String) : Except Error (Database × InspectionRequirement) := do
  raiseIf (canTransition requirement.status target = false)
    (.conflict ("Cannot transition inspection requirement from " ++ requirement.status.value
      ++ " to " ++ target.value))
  let inspector ← storedInspector db requirement target actorUserId inspectorUserId
  let moved := transitioned requirement target inspector rejectionReason
  pure (({ db with inspections := db.inspections.save moved }).recordAuditEvent
    requirement.organizationId actorUserId (transitionAction target) "InspectionRequirement"
    (some requirement.id), moved)

/-- The arguments of `create_inspection_requirement`. -/
structure InspectionRequirementCreate where
  taskId : Option UUID := none
  workOrderId : Option UUID := none
  required : Bool
  complianceObligationId : Option UUID := none
  regulatoryRequirementId : Option UUID := none

/-- `if id is not None`: the row with that id is found, or the error is raised. -/
def requireFound {α : Type} (find : UUID → Except Error α) : Option UUID → Except Error Unit
  | none => .ok ()
  | some id => do
    let _ ← find id
    pure ()

/-- `create_inspection_requirement`; it is not logged. -/
def createInspectionRequirement (db : Database) (newId organizationId : UUID)
    (args : InspectionRequirementCreate) : Except Error (Database × InspectionRequirement) := do
  requireFound (db.getTask organizationId) args.taskId
  requireFound (db.getWorkOrder organizationId) args.workOrderId
  requireFound
    (fun id => oneOrRaise
      (db.obligations.select fun o => o.id = id && o.organizationId = organizationId)
      (.notFound "Compliance obligation not found"))
    args.complianceObligationId
  requireFound
    (fun id => oneOrRaise
      (db.requirements.select fun r => r.id = id && r.organizationId = organizationId)
      (.notFound "Regulatory requirement not found"))
    args.regulatoryRequirementId
  -- the status of the work order is not looked at
  let requirement : InspectionRequirement :=
    { id := newId, organizationId, taskId := args.taskId, workOrderId := args.workOrderId
      complianceObligationId := args.complianceObligationId
      regulatoryRequirementId := args.regulatoryRequirementId, required := args.required }
  let inspections ← addRow db.inspections requirement
  pure ({ db with inspections }, requirement)

def getInspectionRequirement (db : Database) (organizationId requirementId : UUID) :
    Except Error InspectionRequirement :=
  oneOrRaise
    (db.inspections.select fun r => r.id = requirementId && r.organizationId = organizationId)
    (.notFound "Inspection requirement not found")

/-! ## What the operations write -/

section Writes

variable {db db' : Database} {row : InspectionRequirement}

theorem getInspectionRequirement_eq_ok {org requirementId : UUID} {r : InspectionRequirement}
    (h : getInspectionRequirement db org requirementId = .ok r) :
    r ∈ db.inspections.rows ∧ r.id = requirementId ∧ r.organizationId = org := by
  simpa using mem_of_oneOrRaise h

theorem requireFound_eq_ok {α : Type} {find : UUID → Except Error α} {id? : Option UUID}
    {x : Unit} (h : requireFound find id? = .ok x) :
    ∀ id, id? = some id → ∃ r, find id = .ok r := by
  rintro id rfl
  obtain ⟨r, hfind, _⟩ := bind_eq_ok.1 h
  exact ⟨r, hfind⟩

/-- What `create_inspection_requirement` has found, and the row it has added. -/
structure Created (db db' : Database) (organizationId : UUID)
    (args : InspectionRequirementCreate) (row : InspectionRequirement) : Prop where
  inserted : db.inspections.insert? row = some db'.inspections
  others : db' = { db with inspections := db'.inspections }
  organization : row.organizationId = organizationId
  task : row.taskId = args.taskId
  workOrder : row.workOrderId = args.workOrderId
  pending : row.status = .pending
  taskFound : ∀ id, args.taskId = some id → ∃ t, db.getTask organizationId id = .ok t
  workOrderFound :
    ∀ id, args.workOrderId = some id → ∃ w, db.getWorkOrder organizationId id = .ok w

theorem createInspectionRequirement_eq_ok {newId org : UUID} {args : InspectionRequirementCreate}
    (h : createInspectionRequirement db newId org args = .ok (db', row)) :
    Created db db' org args row := by
  obtain ⟨_, htask, h⟩ := bind_eq_ok.1 h
  obtain ⟨_, hworkOrder, h⟩ := bind_eq_ok.1 h
  obtain ⟨_, _, h⟩ := bind_eq_ok.1 h
  obtain ⟨_, _, h⟩ := bind_eq_ok.1 h
  obtain ⟨inspections, hadd, h⟩ := bind_eq_ok.1 h
  rw [pure_eq_ok] at h
  obtain ⟨rfl, rfl⟩ := Prod.mk.inj h
  exact ⟨addRowOrRaise_eq_ok.1 hadd, rfl, rfl, rfl, rfl, rfl, requireFound_eq_ok htask,
    requireFound_eq_ok hworkOrder⟩

theorem transitionInspectionRequirement_eq_ok {old : InspectionRequirement}
    {target : InspectionRequirementStatus} {actor given : Option UUID} {reason : Option String}
    (h : transitionInspectionRequirement db old target actor given reason = .ok (db', row)) :
    ∃ inspector, row = transitioned old target inspector reason ∧
      canTransition old.status target = true ∧
      storedInspector db old target actor given = .ok inspector ∧
      db' = ({ db with inspections := db.inspections.save row }).recordAuditEvent
        old.organizationId actor (transitionAction target) "InspectionRequirement"
        (some old.id) := by
  obtain ⟨_, hcan, h⟩ := bind_eq_ok.1 h
  obtain ⟨inspector, hstored, h⟩ := bind_eq_ok.1 h
  rw [pure_eq_ok] at h
  obtain ⟨rfl, rfl⟩ := Prod.mk.inj h
  exact ⟨inspector, rfl, by simpa using raiseIf_eq_ok.1 hcan, hstored, rfl⟩

theorem not_canTransition_of_gate {status target : InspectionRequirementStatus}
    (h : satisfiesCompletionGate status = true) : canTransition status target = false := by
  cases status with
  | pending => cases h
  | rejected => cases h
  | completed => simp [canTransition, allowedTransitions]
  | notRequired => simp [canTransition, allowedTransitions]

end Writes

/-! ## What a completion has checked -/

section Independence

variable {db : Database} {requirement : InspectionRequirement} {inspector : Option UUID}

theorem mem_executingTechnicianIds {taskId userId : UUID} (ht : requirement.taskId = some taskId) :
    userId ∈ executingTechnicianIds db requirement ↔
      ∃ e ∈ db.evidence.rows, e.organizationId = requirement.organizationId ∧
        e.taskId = some taskId ∧ e.uploadedByUserId = some userId := by
  rw [executingTechnicianIds, ht]
  dsimp only
  rw [List.mem_filterMap]
  constructor
  · rintro ⟨e, he, hup⟩
    rw [Table.mem_select, Bool.and_eq_true, decide_eq_true_eq, decide_eq_true_eq] at he
    exact ⟨e, he.1, he.2.1, he.2.2, hup⟩
  · rintro ⟨e, he, horg, htask, hup⟩
    refine ⟨e, ?_, hup⟩
    rw [Table.mem_select, Bool.and_eq_true, decide_eq_true_eq, decide_eq_true_eq]
    exact ⟨he, horg, htask⟩

theorem assertIndependentInspector_eq_ok {x : Unit} (hreq : requirement.required = true)
    (h : assertIndependentInspector db requirement inspector = .ok x) :
    ∃ i, inspector = some i ∧ i ∉ executingTechnicianIds db requirement := by
  have hcheck : ¬requirement.required = false := by
    rw [hreq]
    exact Bool.noConfusion
  cases inspector with
  | none =>
    simp only [assertIndependentInspector, if_neg hcheck] at h
    cases h
  | some i =>
    simp only [assertIndependentInspector, if_neg hcheck] at h
    exact ⟨i, rfl, raiseIf_eq_ok.1 h⟩

theorem completionInspector_eq_ok {actor given : Option UUID} (hreq : requirement.required = true)
    (h : completionInspector db requirement actor given = .ok inspector) :
    ∃ i, inspector = some i ∧ i ∉ executingTechnicianIds db requirement := by
  obtain ⟨effective, _, h⟩ := bind_eq_ok.1 h
  obtain ⟨_, hind, h⟩ := bind_eq_ok.1 h
  rw [pure_eq_ok] at h
  subst h
  exact assertIndependentInspector_eq_ok hreq hind

end Independence

end InspectionService
end AeroComply
