import AeroComply.Lib.Runs
import AeroComply.Services.Evidence
import AeroComply.Services.Inspection

/-!
# InspectionRuns — who may have signed off a required inspection

Histories of creating requirements, moving them and uploading evidence.  A
required inspection that passes the completion gate is `Independent`: it has an
inspector, who uploaded no evidence for its task.

The check at completion sees the evidence of the requirement's organization;
`InOrg` keeps a task and what hangs on it in one organization, so the check sees
every upload.  Two operations are not checked: marking a required inspection
NOT_REQUIRED, and an upload after the sign-off.
-/

namespace AeroComply

open Relational (Table)

namespace InspectionRuns

open Database (getTask_eq_ok)
open InspectionService
open EvidenceService (EvidenceCreate createEvidence resolveLinked)

/-- The requirement has an inspector, who is not among the uploaders of its task. -/
def Independent (db : Database) (r : InspectionRequirement) : Prop :=
  ∃ i, r.inspectorUserId = some i ∧
    ∀ taskId, r.taskId = some taskId →
      ∀ e ∈ db.evidence.rows, e.taskId = some taskId → e.uploadedByUserId ≠ some i

/-- Every required inspection that passes the gate is independent. -/
def RiiSafe (db : Database) : Prop :=
  ∀ r ∈ db.inspections.rows, r.required = true → satisfiesCompletionGate r.status = true →
    Independent db r

def TaskInOrg (db : Database) (taskId : Option UUID) (organizationId : UUID) : Prop :=
  ∀ id, taskId = some id →
    ∃ task ∈ db.tasks.rows, task.id = id ∧ task.organizationId = organizationId

/-- Requirements and evidence are of their task's organization. -/
structure InOrg (db : Database) : Prop where
  inspections : ∀ r ∈ db.inspections.rows, TaskInOrg db r.taskId r.organizationId
  evidence : ∀ e ∈ db.evidence.rows, TaskInOrg db e.taskId e.organizationId

structure Inv (db : Database) : Prop where
  safe : RiiSafe db
  inOrg : InOrg db

/-! ## The operations as actions -/

inductive Action
  | createInspectionRequirement (newId organizationId : UUID)
      (args : InspectionRequirementCreate)
  | transitionInspectionRequirement (organizationId requirementId : UUID)
      (target : InspectionRequirementStatus) (actor inspector : Option UUID)
      (rejectionReason : Option String)
  | createEvidence (now : DateTime) (today : Date) (newId organizationId : UUID)
      (args : EvidenceCreate)

def step (db : Database) : Action → Except Error Database
  | .createInspectionRequirement newId org args =>
    (createInspectionRequirement db newId org args).map Prod.fst
  | .transitionInspectionRequirement org requirementId target actor inspector reason => do
    let requirement ← getInspectionRequirement db org requirementId
    (transitionInspectionRequirement db requirement target actor inspector reason).map Prod.fst
  | .createEvidence now today newId org args =>
    (createEvidence db now today newId org args).map Prod.fst

/-- What the two unchecked operations must respect. -/
def Careful (db : Database) : Action → Prop
  | .createInspectionRequirement .. => True
  | .transitionInspectionRequirement org requirementId target _ _ _ =>
    -- a required inspection is not waived
    target = .notRequired →
      ∀ r ∈ db.inspections.rows, r.id = requirementId → r.organizationId = org →
        canTransition r.status .notRequired = true → r.required = false
  | .createEvidence _ _ _ _ args =>
    -- the inspector of a finished required inspection does not upload for its task
    ∀ r ∈ db.inspections.rows, r.required = true → satisfiesCompletionGate r.status = true →
      r.taskId ≠ none → args.taskId = r.taskId → args.uploadedByUserId ≠ r.inspectorUserId

instance (db : Database) (a : Action) : Decidable (Careful db a) :=
  match a with
  | .createInspectionRequirement .. => isTrue trivial
  | .transitionInspectionRequirement org requirementId target _ _ _ =>
    inferInstanceAs (Decidable (target = .notRequired →
      ∀ r ∈ db.inspections.rows, r.id = requirementId → r.organizationId = org →
        canTransition r.status .notRequired = true → r.required = false))
  | .createEvidence _ _ _ _ args =>
    inferInstanceAs (Decidable (∀ r ∈ db.inspections.rows, r.required = true →
      satisfiesCompletionGate r.status = true → r.taskId ≠ none → args.taskId = r.taskId →
        args.uploadedByUserId ≠ r.inspectorUserId))

/-! ## One operation -/

section Steps

variable {db db' : Database}

theorem inv_createInspectionRequirement {newId org : UUID} {args : InspectionRequirementCreate}
    {row : InspectionRequirement} (hinv : Inv db)
    (h : createInspectionRequirement db newId org args = .ok (db', row)) : Inv db' := by
  have hnew := createInspectionRequirement_eq_ok h
  rw [hnew.others]
  refine ⟨?_, ?_, hinv.inOrg.evidence⟩
  · intro r hr hreq hgate
    rcases (Table.mem_insert? hnew.inserted).1 hr with hr | rfl
    · exact hinv.safe r hr hreq hgate
    · rw [hnew.pending] at hgate
      cases hgate
  · intro r hr
    rcases (Table.mem_insert? hnew.inserted).1 hr with hr | rfl
    · exact hinv.inOrg.inspections r hr
    · intro id hid
      obtain ⟨task, hget⟩ := hnew.taskFound id (hnew.task.symm.trans hid)
      obtain ⟨hmem, htid, htorg⟩ := getTask_eq_ok hget
      exact ⟨task, hmem, htid, htorg.trans hnew.organization.symm⟩

theorem not_uploader_of_not_executing {r : InspectionRequirement} {i taskId : UUID}
    (horg : InOrg db) (hr : r ∈ db.inspections.rows) (ht : r.taskId = some taskId)
    (hi : i ∉ executingTechnicianIds db r) :
    ∀ e ∈ db.evidence.rows, e.taskId = some taskId → e.uploadedByUserId ≠ some i := by
  intro e he hetask hup
  obtain ⟨task, htask, htid, htorg⟩ := horg.inspections r hr taskId ht
  obtain ⟨task', htask', htid', htorg'⟩ := horg.evidence e he taskId hetask
  have hsame : task' = task := Table.eq_of_key_eq htask' htask (htid'.trans htid.symm)
  refine hi ((mem_executingTechnicianIds ht).2 ⟨e, he, ?_, hetask, hup⟩)
  rw [← htorg', hsame, htorg]

theorem inv_transitionInspectionRequirement {old row : InspectionRequirement}
    {target : InspectionRequirementStatus} {actor given : Option UUID} {reason : Option String}
    (hinv : Inv db) (hold : old ∈ db.inspections.rows)
    (hok : target = .notRequired → canTransition old.status .notRequired = true →
      old.required = false)
    (h : transitionInspectionRequirement db old target actor given reason = .ok (db', row)) :
    Inv db' := by
  obtain ⟨inspector, rfl, hcan, hstored, rfl⟩ := transitionInspectionRequirement_eq_ok h
  have hkey : old.id = (transitioned old target inspector reason).id := rfl
  refine ⟨?_, ?_, hinv.inOrg.evidence⟩
  · intro r hr hreq hgate
    rcases (Table.mem_save_of_mem hold hkey).1 hr with ⟨hr, -⟩ | rfl
    · exact hinv.safe r hr hreq hgate
    · have holdReq : old.required = true := hreq
      cases target with
      | pending => cases hgate
      | rejected => cases hgate
      | notRequired =>
        rw [hok rfl hcan] at holdReq
        cases holdReq
      | completed =>
        obtain ⟨i, hi, hnot⟩ := completionInspector_eq_ok holdReq hstored
        have hclean : ∀ taskId, old.taskId = some taskId → ∀ e ∈ db.evidence.rows,
            e.taskId = some taskId → e.uploadedByUserId ≠ some i :=
          fun _ ht => not_uploader_of_not_executing hinv.inOrg hold ht hnot
        exact ⟨i, hi, hclean⟩
  · intro r hr
    rcases (Table.mem_save_of_mem hold hkey).1 hr with ⟨hr, -⟩ | rfl
    · exact hinv.inOrg.inspections r hr
    · exact hinv.inOrg.inspections old hold

variable {args : EvidenceCreate} {now : DateTime} {row : Evidence} {today : Date}

theorem createEvidence_evidence {newId org : UUID}
    (h : createEvidence db now today newId org args = .ok (db', row)) :
    db'.inspections = db.inspections ∧ db'.tasks = db.tasks ∧
    (∀ e, e ∈ db'.evidence.rows ↔ e ∈ db.evidence.rows ∨ e = row) ∧
    row.taskId = args.taskId ∧ row.uploadedByUserId = args.uploadedByUserId ∧
    TaskInOrg db row.taskId row.organizationId := by
  obtain ⟨_, htask, h⟩ := bind_eq_ok.1 h
  obtain ⟨obligation, _, h⟩ := bind_eq_ok.1 h
  obtain ⟨evidence, hadd, h⟩ := bind_eq_ok.1 h
  rw [pure_eq_ok] at h
  obtain ⟨rfl, rfl⟩ := Prod.mk.inj h
  have hins := addRowOrRaise_eq_ok.1 hadd
  have horg : TaskInOrg db args.taskId org := by
    intro id hid
    rw [hid] at htask
    obtain ⟨task, hget, _⟩ := bind_eq_ok.1 htask
    obtain ⟨hmem, htid, htorg⟩ := getTask_eq_ok hget
    exact ⟨task, hmem, htid, htorg⟩
  -- resolving the linked obligation writes the obligations and the log only
  have hframe : ∀ logged : Database, ∃ obligations auditEvents,
      resolveLinked logged now today args.uploadedByUserId obligation
        = { logged with obligations, auditEvents } := by
    intro logged
    cases obligation with
    | none => exact ⟨_, _, rfl⟩
    | some o =>
      rw [resolveLinked, ObligationService.resolveObligationCompliance]
      split
      · exact ⟨_, _, rfl⟩
      · exact ⟨_, _, rfl⟩
  obtain ⟨obligations, log, hdb⟩ := hframe _
  rw [hdb]
  exact ⟨rfl, rfl, fun e => Table.mem_insert? hins, rfl, rfl, horg⟩

theorem inv_createEvidence {newId org : UUID} (hinv : Inv db)
    (hok : Careful db (.createEvidence now today newId org args))
    (h : createEvidence db now today newId org args = .ok (db', row)) : Inv db' := by
  obtain ⟨hinsp, htasks, hmem, htask, hup, horg⟩ := createEvidence_evidence h
  have hin : ∀ taskId org', TaskInOrg db' taskId org' ↔ TaskInOrg db taskId org' := by
    intro taskId org'
    rw [TaskInOrg, TaskInOrg, htasks]
  refine ⟨?_, ?_, ?_⟩
  · intro r hr hreq hgate
    rw [hinsp] at hr
    obtain ⟨i, hi, hclean⟩ := hinv.safe r hr hreq hgate
    refine ⟨i, hi, ?_⟩
    intro taskId ht e he hetask
    rcases (hmem e).1 he with he | rfl
    · exact hclean taskId ht e he hetask
    · rw [hup, ← hi]
      have hsame : args.taskId = r.taskId := (htask.symm.trans hetask).trans ht.symm
      exact hok r hr hreq hgate (by rw [ht]; exact Option.some_ne_none _) hsame
  · intro r hr
    rw [hinsp] at hr
    exact (hin _ _).2 (hinv.inOrg.inspections r hr)
  · intro e he
    rcases (hmem e).1 he with he | rfl
    · exact (hin _ _).2 (hinv.inOrg.evidence e he)
    · exact (hin _ _).2 horg

/-- **ONE OPERATION**: a careful operation keeps the invariant. -/
theorem inv_step {a : Action} (hinv : Inv db) (hok : Careful db a)
    (h : step db a = .ok db') : Inv db' := by
  cases a with
  | createInspectionRequirement newId org args =>
    obtain ⟨_, h⟩ := map_fst_eq_ok h
    exact inv_createInspectionRequirement hinv h
  | transitionInspectionRequirement org requirementId target actor given reason =>
    obtain ⟨r, hget, h⟩ := bind_eq_ok.1 h
    obtain ⟨_, h⟩ := map_fst_eq_ok h
    obtain ⟨hmem, hid, horg⟩ := getInspectionRequirement_eq_ok hget
    have hcare : target = .notRequired → canTransition r.status .notRequired = true →
        r.required = false := fun ht => hok ht r hmem hid horg
    exact inv_transitionInspectionRequirement hinv hmem hcare h
  | createEvidence now today newId org args =>
    obtain ⟨_, h⟩ := map_fst_eq_ok h
    exact inv_createEvidence hinv hok h

/-! ## Histories -/

/-- **INDEPENDENT SIGN-OFF**: from a state without inspection requirements, where evidence
for a task is of the task's organization, every state of a careful history is safe. -/
theorem required_inspections_independent (as : List Action) (hnone : db.inspections.rows = [])
    (hev : ∀ e ∈ db.evidence.rows, TaskInOrg db e.taskId e.organizationId)
    (hok : Runs.StepsMeet step Careful db as) :
    ∀ db' ∈ Runs.visited step db as, RiiSafe db' := by
  have hstart : Inv db := by
    refine ⟨?_, ?_, hev⟩
    · intro r hr
      rw [hnone] at hr
      cases hr
    · intro r hr
      rw [hnone] at hr
      cases hr
  intro db' hdb'
  exact (Runs.visited_invariant (fun _ _ _ hinv hok h => inv_step hinv hok h)
    as db hstart hok db' hdb').safe

end Steps

/-- A task and two users of one organization. -/
def oneTask : Database where
  users := ⟨[{ id := 8, organizationId := 1 }, { id := 9, organizationId := 1 }], by decide⟩
  workOrders := .single { id := 2, organizationId := 1 }
  tasks := .single { id := 3, organizationId := 1, workOrderId := 2 }

def requireAndUpload : List Action :=
  [ .createInspectionRequirement 10 1 { taskId := some 3, required := true },
    .createEvidence 0 0 20 1 { taskId := some 3, uploadedByUserId := some 8 } ]

/-- Marked NOT_REQUIRED, the required inspection passes the gate without an inspector. -/
theorem waived_without_inspector :
    ¬∀ db' ∈ Runs.visited step oneTask
        (requireAndUpload ++
          [.transitionInspectionRequirement 1 10 .notRequired (some 8) none none]),
      RiiSafe db' := by
  intro h
  have hlast := h _ (List.mem_cons_of_mem _ (List.mem_cons_of_mem _ (List.mem_cons_of_mem _
    (List.mem_cons_self ..))))
  obtain ⟨i, hi, -⟩ := hlast _ (List.mem_cons_self ..) rfl rfl
  cases hi

/-- Signed off by user 9, it is independent; user 8 cannot sign it off. -/
theorem signed_off_by_other :
    (Runs.visited step oneTask
      (requireAndUpload ++
        [ .transitionInspectionRequirement 1 10 .completed (some 8) none none,
          .transitionInspectionRequirement 1 10 .completed (some 8) (some 9) none ])).Forall
      RiiSafe :=
  List.forall_iff_forall_mem.2
    (required_inspections_independent _ rfl (fun e he => nomatch he) (by decide))

end InspectionRuns
end AeroComply
