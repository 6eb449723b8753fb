import AeroComply.Services.AogCriticalPath
import AeroComply.Services.TechnicianGrants

/-!
# AogTechnicians — which technicians block a recovery

`_technician_stage` takes the first task that has a technician, in the order of the tasks, and asks
about that one alone.  `blocksExactly_iff` says for which work orders that is enough.
-/

namespace AeroComply

namespace AogRecoveryService

open TechnicianService (Answers AuthorizationStatus checkAuthorization)

variable {db : Database} {now : DateTime} {organizationId aircraftId workOrderId : UUID}
variable {tasks : List Task} {stage : Option CriticalPathStage}

/-! ## The assigned tasks -/

/-- The technician of the task is authorized for it. -/
def Authorized (db : Database) (now : DateTime) (organizationId : UUID) (x : Task × UUID) : Prop :=
  Answers db now organizationId x.1.id x.2 .authorized

/-- A task is assigned to a technician about whom the check answers otherwise. -/
def Unauthorized (db : Database) (now : DateTime) (organizationId : UUID) (tasks : List Task) :
    Prop :=
  ∃ x ∈ assignedTasks tasks, ∃ status, status ≠ AuthorizationStatus.authorized ∧
    Answers db now organizationId x.1.id x.2 status

/-- The tasks are rows of the organization. -/
def AreTasksOf (db : Database) (organizationId : UUID) (tasks : List Task) : Prop :=
  ∀ t ∈ tasks, t ∈ db.tasks.rows ∧ t.organizationId = organizationId

variable {readiness : ReleaseReadinessService.ReleaseReadiness} {status : AogRecoveryStatus}
  {tasks' : List Task} {x : Task × UUID} {event : AogEvent}

theorem exists_answer (h : AreTasksOf db organizationId tasks) (now : DateTime)
    (hx : x ∈ assignedTasks tasks) :
    ∃ answer, checkAuthorization db now organizationId x.1.id x.2 = .ok answer :=
  have hmem := h x.1 (mem_assignedTasks.1 hx).1
  exists_checkAuthorization now hmem.1 hmem.2 x.2

theorem unauthorized_iff (h : AreTasksOf db organizationId tasks) :
    Unauthorized db now organizationId tasks ↔
      ∃ x ∈ assignedTasks tasks, ¬Authorized db now organizationId x := by
  constructor
  · rintro ⟨x, hx, status, hne, answer, hanswer, rfl⟩
    refine ⟨x, hx, ?_⟩
    rintro ⟨answer', hanswer', hauthorized⟩
    cases hanswer.symm.trans hanswer'
    exact hne hauthorized
  · rintro ⟨x, hx, hnot⟩
    obtain ⟨answer, hanswer⟩ := exists_answer h now hx
    exact ⟨x, hx, answer.status, fun hstatus => hnot ⟨answer, hanswer, hstatus⟩, answer, hanswer,
      rfl⟩

/-! ## The stage -/

/-- The stage is there, and BLOCKED. -/
def Blocks (stage : Option CriticalPathStage) : Prop := ∃ s, stage = some s ∧ s.status = .blocked

theorem blocks_iff (h : technicianStage db now organizationId tasks = .ok stage) :
    Blocks stage ↔ ∃ x, (assignedTasks tasks).head? = some x ∧
      ¬Authorized db now organizationId x := by
  rw [technicianStage] at h
  cases hassigned : assignedTasks tasks with
  | nil =>
    rw [hassigned] at h
    dsimp only at h
    constructor
    · rintro ⟨s, rfl, hblocked⟩
      split at h
      · cases h
      · cases h
        cases hblocked
    · rintro ⟨_, hx, -⟩
      cases hx
  | cons x rest =>
    rw [hassigned] at h
    obtain ⟨answer, hanswer, h⟩ := bind_eq_ok.1 h
    cases h
    have hauthorized : Authorized db now organizationId x ↔ answer.status = .authorized := by
      constructor
      · rintro ⟨answer', hanswer', hstatus⟩
        cases hanswer.symm.trans hanswer'
        exact hstatus
      · exact fun hstatus => ⟨answer, hanswer, hstatus⟩
    constructor
    · rintro ⟨s, hs, hblocked⟩
      cases hs
      refine ⟨x, rfl, fun hok => ?_⟩
      rw [hauthorized] at hok
      simp [hok] at hblocked
    · rintro ⟨_, hx, hnot⟩
      cases hx
      rw [hauthorized] at hnot
      exact ⟨_, rfl, by simp [hnot]⟩

theorem Shows.technician_blocker_iff
    (h : Shows db now organizationId workOrderId event status readiness stage) :
    (∃ b ∈ status.blockers, b.category = .technician) ↔ Blocks stage := by
  rw [h.blockers]
  constructor
  · rintro ⟨b, hb, hcategory⟩
    rcases List.mem_append.1 hb with hb | hb
    · -- the others have categories of their own
      rcases List.mem_append.1 hb with hb | hb
      · rcases List.mem_append.1 hb with hb | hb
        · obtain ⟨_, -, rfl⟩ := List.mem_map.1 hb
          cases hcategory
        · obtain ⟨_, -, rfl⟩ := List.mem_map.1 hb
          cases hcategory
      · obtain ⟨requirement, -, rfl⟩ := List.mem_map.1 hb
        obtain ⟨i, -, hi⟩ := exists_blockedStage db workOrderId (listRequests db organizationId)
          (listPurchaseOrders db organizationId) requirement
        rw [hcategory] at hi
        cases hi
    · cases stage with
      | none => cases hb
      | some s =>
        rw [technicianBlockers] at hb
        split at hb
        · next hblocked => exact ⟨s, rfl, hblocked⟩
        · cases hb
  · rintro ⟨s, rfl, hblocked⟩
    have hone : ∃ b ∈ technicianBlockers (some s), b.category = .technician := by
      rw [technicianBlockers, if_pos hblocked]
      exact ⟨_, List.mem_singleton_self _, rfl⟩
    obtain ⟨b, hb, hcategory⟩ := hone
    exact ⟨b, List.mem_append_right _ hb, hcategory⟩

theorem Shows.technician_stage_iff
    (h : Shows db now organizationId workOrderId event status readiness stage) :
    (∃ s ∈ status.criticalPath, s.stage = .technician ∧ s.status = .blocked) ↔ Blocks stage := by
  rw [h.criticalPath, buildCriticalPath]
  constructor
  · rintro ⟨s, hs, hname, hblocked⟩
    rcases List.mem_append.1 hs with hs | hs
    · rcases List.mem_append.1 hs with hs | hs
      · rcases List.mem_append.1 hs with hs | hs
        · split at hs
          · cases hs
          · have hmaterial := isMaterialStage_of_mem hs
            rw [isMaterialStage, hname] at hmaterial
            cases hmaterial
        · simp only [List.mem_cons, List.not_mem_nil, or_false] at hs
          rcases hs with rfl | rfl | rfl
          · rw [stage_releaseStage] at hname
            cases hname
          · rw [stage_releaseStage] at hname
            cases hname
          · rw [stage_releaseStage] at hname
            cases hname
      · exact ⟨s, Option.mem_toList.1 hs, hblocked⟩
    · cases List.mem_singleton.1 hs
      cases hname
  · rintro ⟨s, rfl, hblocked⟩
    refine ⟨s, ?_, stage_of_technicianStage h.checked s rfl, hblocked⟩
    exact List.mem_append_left _ (List.mem_append_right _ (List.mem_singleton_self s))

/-! ## Exactness -/

/-- **EVERY UNAUTHORIZED TECHNICIAN BLOCKS**: the status lists a blocker of the technician, and the
stage of the technician is blocked, exactly when some assigned technician is unauthorized; and the
stage is blocked just then in whatever order the tasks come. -/
structure BlocksExactly (db : Database) (now : DateTime) (organizationId : UUID)
    (tasks : List Task) (status : AogRecoveryStatus) : Prop where
  listed : (∃ b ∈ status.blockers, b.category = .technician) ↔
    Unauthorized db now organizationId tasks
  staged : (∃ s ∈ status.criticalPath, s.stage = .technician ∧ s.status = .blocked) ↔
    Unauthorized db now organizationId tasks
  ordered : ∀ tasks', tasks'.Perm tasks → ∃ stage,
    technicianStage db now organizationId tasks' = .ok stage ∧
      (Blocks stage ↔ Unauthorized db now organizationId tasks)

theorem blocks_iff_unauthorized (htasks : AreTasksOf db organizationId tasks)
    (h : technicianStage db now organizationId tasks = .ok stage)
    (hagree : (∀ x ∈ assignedTasks tasks, Authorized db now organizationId x) ∨
      ∀ x ∈ assignedTasks tasks, ¬Authorized db now organizationId x) :
    Blocks stage ↔ Unauthorized db now organizationId tasks := by
  rw [blocks_iff h, unauthorized_iff htasks]
  constructor
  · rintro ⟨x, hx, hnot⟩
    exact ⟨x, List.mem_of_mem_head? hx, hnot⟩
  · rintro ⟨x, hx, hnot⟩
    rcases hagree with hall | hnone
    · exact absurd (hall x hx) hnot
    · cases hassigned : assignedTasks tasks with
      | nil => exact absurd hx (hassigned ▸ List.not_mem_nil)
      | cons y rest =>
        exact ⟨y, rfl, hnone y (hassigned ▸ List.mem_cons_self)⟩

theorem assignedTasks_cons (hx : x.1.assignedTechnicianUserId = some x.2) (rest : List Task) :
    assignedTasks (x.1 :: rest) = x :: assignedTasks rest := by
  rw [assignedTasks, List.filterMap_cons_some (by rw [hx]; rfl)]
  rfl

theorem AreTasksOf.perm (h : AreTasksOf db organizationId tasks) (hperm : tasks'.Perm tasks) :
    AreTasksOf db organizationId tasks' :=
  fun t ht => h t (hperm.mem_iff.1 ht)

theorem unauthorized_perm (hperm : tasks'.Perm tasks) :
    Unauthorized db now organizationId tasks' ↔ Unauthorized db now organizationId tasks := by
  have hassigned := (hperm.filterMap fun t : Task =>
    t.assignedTechnicianUserId.map fun technician => (t, technician))
  constructor
  · rintro ⟨x, hx, h⟩
    exact ⟨x, hassigned.mem_iff.1 hx, h⟩
  · rintro ⟨x, hx, h⟩
    exact ⟨x, hassigned.mem_iff.2 hx, h⟩

/-- **THE FIRST TECHNICIAN SPEAKS FOR ALL**: every unauthorized technician blocks the recovery, in
every order of the tasks, exactly when all assigned technicians are authorized or none is. -/
theorem blocksExactly_iff {event : AogEvent}
    (h : Grounded db organizationId aircraftId workOrderId event) :
    (∃ status, getRecoveryStatus db now organizationId aircraftId = .ok status ∧
      BlocksExactly db now organizationId (listTasksForWorkOrder db organizationId workOrderId)
        status) ↔
      ((∀ x ∈ assignedTasks (listTasksForWorkOrder db organizationId workOrderId),
          Authorized db now organizationId x) ∨
        ∀ x ∈ assignedTasks (listTasksForWorkOrder db organizationId workOrderId),
          ¬Authorized db now organizationId x) := by
  have htasks : AreTasksOf db organizationId
      (listTasksForWorkOrder db organizationId workOrderId) :=
    fun t ht => mem_listTasksForWorkOrder ht
  generalize htask : listTasksForWorkOrder db organizationId workOrderId = tasks at htasks ⊢
  constructor
  · rintro ⟨status, -, hexact⟩
    by_contra hmixed
    rw [not_or] at hmixed
    obtain ⟨hsome, hother⟩ := hmixed
    push Not at hsome hother
    obtain ⟨y, hy, hnot⟩ := hsome
    obtain ⟨x, hx, hauthorized⟩ := hother
    -- the authorized one is put first
    obtain ⟨hxtask, hxassigned⟩ := mem_assignedTasks.1 hx
    obtain ⟨before, after, hsplit⟩ := List.append_of_mem hxtask
    have hperm : (x.1 :: (before ++ after)).Perm tasks := hsplit ▸ List.perm_middle.symm
    obtain ⟨stage, hstage, hblocks⟩ := hexact.ordered _ hperm
    obtain ⟨z, hz, hznot⟩ := (blocks_iff hstage).1
      (hblocks.2 ((unauthorized_iff htasks).2 ⟨y, hy, hnot⟩))
    rw [assignedTasks_cons hxassigned] at hz
    cases hz
    exact hznot hauthorized
  · intro hagree
    obtain ⟨status, readiness, stage, hstatus, hshows⟩ := h.shows now
    have hchecked := hshows.checked
    rw [htask] at hchecked
    have hblocks := blocks_iff_unauthorized htasks hchecked hagree
    refine ⟨status, hstatus, hshows.technician_blocker_iff.trans hblocks,
      hshows.technician_stage_iff.trans hblocks, fun tasks' hperm => ?_⟩
    obtain ⟨stage', hstage'⟩ := exists_technicianStage now (htasks.perm hperm)
    refine ⟨stage', hstage', ?_⟩
    have hassigned : ∀ x, x ∈ assignedTasks tasks' ↔ x ∈ assignedTasks tasks := fun x => by
      rw [mem_assignedTasks, mem_assignedTasks, hperm.mem_iff]
    rw [blocks_iff_unauthorized (htasks.perm hperm) hstage', unauthorized_perm hperm]
    simp only [hassigned]
    exact hagree

/-! ## The second technician -/

theorem nodup_five_six : [(5 : UUID), 6].Nodup := by decide

/-- A grounded aircraft, and two tasks on its work order; the technicians are `second` and one
who has a grant for the type. -/
def twoTasks (second : UUID) : Database where
  users := ⟨[{ id := 11, organizationId := 1 }, { id := 12, organizationId := 1 }], by decide⟩
  aircraft := .single
    { id := 3, organizationId := 1, registration := "VT-A", msn := "1", aircraftType := "A320" }
  workOrders := .single { id := 4, organizationId := 1, aircraftId := some 3 }
  aogEvents := .single groundedEvent
  tasks := ⟨[{ id := 5, organizationId := 1, workOrderId := 4, assignedTechnicianUserId := some 11 },
    { id := 6, organizationId := 1, workOrderId := 4, sequence := 2
      assignedTechnicianUserId := some second }], nodup_five_six⟩
  qualifications := .single
    { id := 7, organizationId := 1, userId := 11, aircraftType := "A320", grantedAt := 0 }

theorem grounded_twoTasks (second : UUID) : Grounded (twoTasks second) 1 3 4 groundedEvent :=
  ⟨⟨_, rfl⟩, rfl, rfl, _, List.mem_singleton_self _, rfl, rfl, rfl⟩

/-- Both tasks are the one technician's. -/
theorem one_technician_exact :
    ∃ status, getRecoveryStatus (twoTasks 11) 1 1 3 = .ok status ∧
      BlocksExactly (twoTasks 11) 1 1 (listTasksForWorkOrder (twoTasks 11) 1 4) status := by
  refine (blocksExactly_iff (grounded_twoTasks 11)).2 (Or.inl fun x hx => ?_)
  obtain ⟨hx, hassigned⟩ := mem_assignedTasks.1 hx
  rcases List.mem_cons.1 hx with htask | hx
  · cases x
    cases htask
    cases hassigned
    exact ⟨_, rfl, rfl⟩
  · cases x
    cases List.mem_singleton.1 hx
    cases hassigned
    exact ⟨_, rfl, rfl⟩

/-- **NOBODY ASKS ABOUT THE SECOND**: it is unauthorized, and nothing is blocked. -/
theorem second_technician_passed_over :
    ¬∃ status, getRecoveryStatus (twoTasks 12) 1 1 3 = .ok status ∧
      BlocksExactly (twoTasks 12) 1 1 (listTasksForWorkOrder (twoTasks 12) 1 4) status := by
  rintro ⟨status, hstatus, hexact⟩
  cases hstatus
  have hunauthorized : Unauthorized (twoTasks 12) 1 1 (listTasksForWorkOrder (twoTasks 12) 1 4) :=
    ⟨_, List.mem_cons_of_mem _ (List.mem_singleton_self _), .missing, by decide, _, rfl, rfl⟩
  obtain ⟨b, hb, hcategory⟩ := hexact.listed.2 hunauthorized
  revert hcategory
  revert b
  decide

end AogRecoveryService
end AeroComply
