import AeroComply.Lib.Ranking
import AeroComply.Services.AogStatus

/-!
# AogCriticalPath — what the critical path says about the material

Each part requirement that is SHORT is classified by its newest procurement request and the newest
purchase order of that, and the four stages of the material are told from the earliest stage that a
shortage is blocked at.

`_material_blocker` takes the last two statuses of a purchase order together: what is cancelled is
classified as received.  `truthful_iff` says when the path is right all the same.
-/

namespace AeroComply

namespace AogRecoveryService

variable {db : Database} {now : DateTime} {organizationId aircraftId workOrderId : UUID}

/-! ## The chain -/

/-- One of the four stages of the material. -/
def isMaterialStage (stage : CriticalPathStage) : Bool := materialStageOrder.contains stage.stage

/-- The statuses of the material stages when the one at `k` is blocked. -/
def statusesAt (k : Nat) : List (StageName × StageStatus) :=
  materialStageOrder.mapIdx fun i stage =>
    (stage, if i < k then .complete else if i = k then .blocked else .waiting)

theorem exists_blockedStage (db : Database) (workOrderId : UUID)
    (allRequests : List ProcurementRequest) (allPos : List PurchaseOrder)
    (requirement : PartRequirement) :
    ∃ i < materialStageOrder.length,
      blockedStage (materialBlocker db workOrderId allRequests allPos requirement).category
        = some i := by
  have horder : ∀ po : PurchaseOrder, ∃ i < materialStageOrder.length,
      blockedStage (orderBlocker requirement po).category = some i := by
    intro po
    rw [orderBlocker]
    cases po.status with
    | draft | pendingApproval | approved => exact ⟨2, by decide, rfl⟩
    | sent | acknowledged | partiallyReceived => exact ⟨3, by decide, rfl⟩
    | received | cancelled => exact ⟨0, by decide, rfl⟩
  rw [materialBlocker]
  cases latestRequest workOrderId allRequests requirement with
  | none => exact ⟨0, by decide, rfl⟩
  | some request =>
    dsimp only
    rw [requestBlocker]
    cases request.status with
    | submitted | underReview | clarificationRequired | rejected => exact ⟨1, by decide, rfl⟩
    | approved => exact ⟨2, by decide, rfl⟩
    | draft | ordered | received | closed =>
      dsimp only
      cases orderFor db allPos request with
      | none => exact ⟨2, by decide, rfl⟩
      | some po => exact horder po

variable {blockers : List RecoveryBlocker} {requirement : PartRequirement}
  {stage : Option CriticalPathStage}

theorem firstBlockedIndex_spec (hne : blockers ≠ [])
    (hall : ∀ b ∈ blockers, ∃ i < materialStageOrder.length, blockedStage b.category = some i) :
    firstBlockedIndex blockers < materialStageOrder.length ∧
      ∀ b ∈ blockers, ∀ i, blockedStage b.category = some i → firstBlockedIndex blockers ≤ i := by
  obtain ⟨b, hb⟩ := List.exists_mem_of_ne_nil blockers hne
  obtain ⟨i, hi, hstage⟩ := hall b hb
  have hmem : ∀ {b i}, b ∈ blockers → blockedStage b.category = some i →
      i ∈ blockers.filterMap fun b => blockedStage b.category :=
    fun hb hstage => List.mem_filterMap.2 ⟨_, hb, hstage⟩
  cases hmin : (blockers.filterMap fun b => blockedStage b.category).min? with
  | none => exact absurd (List.min?_eq_none_iff.1 hmin) (List.ne_nil_of_mem (hmem hb hstage))
  | some k =>
    rw [firstBlockedIndex, hmin, Option.getD_some]
    obtain ⟨-, hleast⟩ := List.min?_eq_some_iff.1 hmin
    exact ⟨(hleast i (hmem hb hstage)).trans_lt hi,
      fun b hb i hstage => hleast i (hmem hb hstage)⟩

theorem statuses_materialChain (hne : blockers ≠ []) :
    (materialChain blockers).map (fun s => (s.stage, s.status))
      = statusesAt (firstBlockedIndex blockers) := by
  have hone : ∀ first representative i stage,
      ((materialStage first representative i stage).stage,
        (materialStage first representative i stage).status)
        = (stage, if i < first then .complete else if i = first then .blocked else .waiting) := by
    intro first representative i stage
    rw [materialStage]
    split
    · rfl
    · split
      · rfl
      · rfl
  cases blockers with
  | nil => exact absurd rfl hne
  | cons b bs =>
    simp only [materialChain, statusesAt, materialStageOrder, List.mapIdx_cons, List.mapIdx_nil,
      List.map_cons, List.map_nil, hone]

theorem isMaterialStage_of_mem {s : CriticalPathStage} (hs : s ∈ materialChain blockers) :
    isMaterialStage s = true := by
  cases blockers with
  | nil =>
    obtain ⟨name, hname, rfl⟩ := List.mem_map.1 hs
    exact List.contains_iff_mem.2 hname
  | cons b bs =>
    have hmem := List.mem_map_of_mem (f := fun s => (s.stage, s.status)) hs
    rw [statuses_materialChain (List.cons_ne_nil b bs), statusesAt] at hmem
    obtain ⟨i, hi, heq⟩ := List.mem_mapIdx.1 hmem
    have hstage : materialStageOrder[i] = s.stage := congrArg Prod.fst heq
    rw [isMaterialStage, ← hstage, List.contains_iff_mem]
    exact List.getElem_mem hi

theorem stage_releaseStage (readiness : ReleaseReadinessService.ReleaseReadiness)
    (name : StageName) (category : ReleaseReadinessService.BlockerCategory) :
    (releaseStage readiness name category).stage = name := by
  rw [releaseStage]
  split
  · rfl
  · rfl

variable {readiness : ReleaseReadinessService.ReleaseReadiness}

theorem filter_buildCriticalPath {requirements : List PartRequirement}
    (hrequirements : requirements ≠ []) (hstage : ∀ s, stage = some s → s.stage = .technician) :
    (buildCriticalPath readiness requirements blockers stage).filter isMaterialStage
      = materialChain blockers := by
  have hchain : (materialChain blockers).filter isMaterialStage = materialChain blockers :=
    List.filter_eq_self.2 fun _ hs => isMaterialStage_of_mem hs
  have hrelease : ∀ name category, name ∉ materialStageOrder →
      isMaterialStage (releaseStage readiness name category) = false := by
    intro name category hname
    rw [isMaterialStage, stage_releaseStage, Bool.eq_false_iff, ne_eq, List.contains_iff_mem]
    exact hname
  have htechnician : stage.toList.filter isMaterialStage = [] := by
    cases stage with
    | none => rfl
    | some s =>
      have hs : isMaterialStage s = false := by
        rw [isMaterialStage, hstage s rfl]
        rfl
      rw [Option.toList_some, List.filter_cons_of_neg (by rw [hs]; exact Bool.false_ne_true),
        List.filter_nil]
  rw [buildCriticalPath, List.isEmpty_eq_false_iff.2 hrequirements, if_neg Bool.false_ne_true,
    List.filter_append, List.filter_append, List.filter_append, hchain, htechnician]
  simp only [List.filter_cons, List.filter_nil, hrelease .execution .taskExecution (by decide),
    hrelease .evidence .evidence (by decide), hrelease .inspectionRii .inspection (by decide),
    Bool.false_eq_true, if_false, List.append_nil]
  exact List.append_nil _

theorem stage_of_technicianStage {tasks : List Task}
    (h : technicianStage db now organizationId tasks = .ok stage) (s : CriticalPathStage)
    (hs : stage = some s) : s.stage = .technician := by
  subst hs
  rw [technicianStage] at h
  cases hassigned : assignedTasks tasks with
  | nil =>
    rw [hassigned] at h
    dsimp only at h
    split at h
    · cases h
    · cases h
      rfl
  | cons x rest =>
    rw [hassigned] at h
    obtain ⟨answer, -, h⟩ := bind_eq_ok.1 h
    cases h
    rfl

/-! ## A shortage and its orders -/

def requestsFor (db : Database) (organizationId workOrderId : UUID)
    (requirement : PartRequirement) : List ProcurementRequest :=
  (listRequests db organizationId).filter fun r =>
    r.partId = some requirement.partId && r.workOrderId = some workOrderId

/-- The purchase orders with a line for the request. -/
def ordersFor (db : Database) (organizationId : UUID) (request : ProcurementRequest) :
    List PurchaseOrder :=
  (listPurchaseOrders db organizationId).filter fun po =>
    (PurchaseOrderService.linesOf db po.id).any fun line =>
      line.procurementRequestId = some request.id

/-- Whatever has been ordered for the shortage is cancelled. -/
def OnlyCancelled (db : Database) (organizationId workOrderId : UUID)
    (requirement : PartRequirement) : Prop :=
  ∀ request ∈ requestsFor db organizationId workOrderId requirement,
    ∀ po ∈ ordersFor db organizationId request, po.status = .cancelled

/-- How the shortage is classified. -/
def classified (db : Database) (organizationId workOrderId : UUID)
    (requirement : PartRequirement) : RecoveryCategory :=
  (materialBlocker db workOrderId (listRequests db organizationId)
    (listPurchaseOrders db organizationId) requirement).category

/-- The newest request is past its approval, and has purchase orders. -/
def LeftToOrders (db : Database) (organizationId workOrderId : UUID)
    (requirement : PartRequirement) : Prop :=
  ∃ request, newestBy ProcurementRequest.createdAt
      (requestsFor db organizationId workOrderId requirement) = some request ∧
    request.status ∈ [ProcurementRequestStatus.draft, .ordered, .received, .closed] ∧
    ordersFor db organizationId request ≠ []

theorem orderBlocker_short_iff {po : PurchaseOrder} :
    (orderBlocker requirement po).category = .materialShort ↔
      po.status = .received ∨ po.status = .cancelled := by
  rw [orderBlocker]
  cases po.status with
  | received => exact iff_of_true rfl (Or.inl rfl)
  | cancelled => exact iff_of_true rfl (Or.inr rfl)
  | _ =>
    constructor
    · intro h
      cases h
    · rintro (h | h)
      · cases h
      · cases h

theorem requestBlocker_short_iff {request : ProcurementRequest} {allPos : List PurchaseOrder} :
    (requestBlocker db allPos requirement request).category = .materialShort ↔
      request.status ∈ [ProcurementRequestStatus.draft, .ordered, .received, .closed] ∧
      ∃ po, orderFor db allPos request = some po ∧
        (po.status = .received ∨ po.status = .cancelled) := by
  rw [requestBlocker]
  cases request.status with
  | draft | ordered | received | closed =>
    dsimp only
    rw [and_iff_right (by decide)]
    cases orderFor db allPos request with
    | none =>
      constructor
      · intro h
        cases h
      · rintro ⟨_, h, -⟩
        cases h
    | some po =>
      refine orderBlocker_short_iff.trans ⟨fun h => ⟨po, rfl, h⟩, ?_⟩
      rintro ⟨_, hpo, h⟩
      cases hpo
      exact h
  | submitted | underReview | clarificationRequired | rejected | approved =>
    refine iff_of_false ?_ fun h => absurd h.1 (by decide)
    intro h
    cases h

theorem classified_eq_short_iff :
    classified db organizationId workOrderId requirement = .materialShort ↔
      ∃ request, newestBy ProcurementRequest.createdAt
          (requestsFor db organizationId workOrderId requirement) = some request ∧
        request.status ∈ [ProcurementRequestStatus.draft, .ordered, .received, .closed] ∧
        ∃ po, newestBy PurchaseOrder.createdAt (ordersFor db organizationId request) = some po ∧
          (po.status = .received ∨ po.status = .cancelled) := by
  rw [classified, materialBlocker]
  have hlatest : latestRequest workOrderId (listRequests db organizationId) requirement
      = newestBy ProcurementRequest.createdAt
          (requestsFor db organizationId workOrderId requirement) := rfl
  rw [hlatest]
  cases newestBy ProcurementRequest.createdAt
      (requestsFor db organizationId workOrderId requirement) with
  | none =>
    constructor
    · intro h
      cases h
    · rintro ⟨_, h, -⟩
      cases h
  | some request =>
    refine requestBlocker_short_iff.trans ⟨fun h => ⟨request, rfl, h⟩, ?_⟩
    rintro ⟨_, hrequest, h⟩
    cases hrequest
    exact h

theorem short_of_onlyCancelled_iff (h : OnlyCancelled db organizationId workOrderId requirement) :
    classified db organizationId workOrderId requirement = .materialShort ↔
      LeftToOrders db organizationId workOrderId requirement := by
  rw [classified_eq_short_iff]
  constructor
  · rintro ⟨request, hlatest, hstatus, po, hpo, -⟩
    exact ⟨request, hlatest, hstatus, List.ne_nil_of_mem (mem_of_newestBy hpo)⟩
  · rintro ⟨request, hlatest, hstatus, horders⟩
    refine ⟨request, hlatest, hstatus, ?_⟩
    cases hpo : newestBy PurchaseOrder.createdAt (ordersFor db organizationId request) with
    | none => exact absurd (newestBy_eq_none.1 hpo) horders
    | some po =>
      exact ⟨po, rfl, Or.inr (h request (mem_of_newestBy hlatest) po (mem_of_newestBy hpo))⟩

/-! ## The path -/

def shortages (db : Database) (organizationId workOrderId : UUID) : List PartRequirement :=
  shortagesOf (PartRequirementService.listPartRequirementsForWorkOrder db organizationId
    workOrderId)

/-- **WHAT THE PATH SHOULD TELL** about the material, with the blocked stage at `k`: the stages
before it are complete and those after it wait, no shortage is blocked before it, what is only
cancelled is not taken for received; and what to do next is a blocker of least priority. -/
structure Truthful (db : Database) (organizationId workOrderId : UUID)
    (status : AogRecoveryStatus) (k : Nat) : Prop where
  within : k < materialStageOrder.length
  told : (status.criticalPath.filter isMaterialStage).map (fun s => (s.stage, s.status))
    = statusesAt k
  first : ∀ requirement ∈ shortages db organizationId workOrderId, ∃ i,
    blockedStage (classified db organizationId workOrderId requirement) = some i ∧ k ≤ i
  received : ∀ requirement ∈ shortages db organizationId workOrderId,
    OnlyCancelled db organizationId workOrderId requirement →
    classified db organizationId workOrderId requirement ≠ .materialShort
  next : ∃ b, status.nextBestAction = some b ∧ b ∈ status.blockers ∧
    ∀ b' ∈ status.blockers, b.category.priority ≤ b'.category.priority

instance : Std.Total fun b b' : RecoveryBlocker => b.category.priority ≤ b'.category.priority :=
  ⟨fun _ _ => Nat.le_total _ _⟩

instance : IsTrans RecoveryBlocker fun b b' => b.category.priority ≤ b'.category.priority :=
  ⟨fun _ _ _ => Nat.le_trans⟩

theorem Shows.truthful {event : AogEvent} {status : AogRecoveryStatus}
    (h : Shows db now organizationId workOrderId event status readiness stage)
    (hshort : shortages db organizationId workOrderId ≠ [])
    (hreceived : ∀ requirement ∈ shortages db organizationId workOrderId,
      OnlyCancelled db organizationId workOrderId requirement →
      classified db organizationId workOrderId requirement ≠ .materialShort) :
    ∃ k, Truthful db organizationId workOrderId status k := by
  have hmaterial : materialBlockers db organizationId workOrderId
      (shortages db organizationId workOrderId) ≠ [] := mt List.map_eq_nil_iff.1 hshort
  have hstages : ∀ b ∈ materialBlockers db organizationId workOrderId
      (shortages db organizationId workOrderId), ∃ i < materialStageOrder.length,
      blockedStage b.category = some i := by
    intro b hb
    obtain ⟨requirement, -, rfl⟩ := List.mem_map.1 hb
    exact exists_blockedStage db workOrderId _ _ requirement
  obtain ⟨hwithin, hfirst⟩ := firstBlockedIndex_spec hmaterial hstages
  have hlisted : PartRequirementService.listPartRequirementsForWorkOrder db organizationId
      workOrderId ≠ [] := by
    intro hnil
    rw [shortages, hnil] at hshort
    exact hshort rfl
  refine ⟨_, hwithin, ?_, ?_, hreceived, ?_⟩
  · rw [h.criticalPath]
    exact (congrArg _ (filter_buildCriticalPath hlisted
      (stage_of_technicianStage h.checked))).trans (statuses_materialChain hmaterial)
  · intro requirement hrequirement
    have hmem := List.mem_map_of_mem (f := materialBlocker db workOrderId
      (listRequests db organizationId) (listPurchaseOrders db organizationId)) hrequirement
    obtain ⟨i, -, hi⟩ := hstages _ hmem
    exact ⟨i, hi, hfirst _ hmem i hi⟩
  · obtain ⟨b, hb⟩ := List.exists_mem_of_ne_nil _ hmaterial
    have hne : status.blockers ≠ [] := by
      rw [h.blockers]
      exact List.ne_nil_of_mem (List.mem_append_left _ (List.mem_append_right _ hb))
    obtain ⟨first, hmem, hhead, hleast⟩ := Ranking.exists_head?_insertionSort
      (fun b b' : RecoveryBlocker => b.category.priority ≤ b'.category.priority) hne
    exact ⟨first, h.nextBestAction.trans hhead, hmem, hleast⟩

/-- **THE CRITICAL PATH TELLS THE TRUTH** about the material, exactly when no shortage has a
newest request that is past its approval and has been ordered, with nothing of what has been
ordered for the shortage left uncancelled. -/
theorem truthful_iff {event : AogEvent}
    (h : Grounded db organizationId aircraftId workOrderId event)
    (hshort : shortages db organizationId workOrderId ≠ []) :
    (∃ status k, getRecoveryStatus db now organizationId aircraftId = .ok status ∧
        Truthful db organizationId workOrderId status k) ↔
      ∀ requirement ∈ shortages db organizationId workOrderId,
        OnlyCancelled db organizationId workOrderId requirement →
        ¬LeftToOrders db organizationId workOrderId requirement := by
  constructor
  · rintro ⟨status, k, -, htruthful⟩ requirement hrequirement honly hleft
    exact htruthful.received requirement hrequirement honly
      ((short_of_onlyCancelled_iff honly).2 hleft)
  · intro hleft
    obtain ⟨status, readiness, stage, hstatus, hshows⟩ := h.shows now
    obtain ⟨k, htruthful⟩ := hshows.truthful hshort fun requirement hrequirement honly hshown =>
      hleft requirement hrequirement honly ((short_of_onlyCancelled_iff honly).1 hshown)
    exact ⟨status, k, hstatus, htruthful⟩

/-! ## An order that is cancelled -/

/-- A grounded aircraft, and a part that is short on its work order; the request for it has been
ordered. -/
def ordered (status : PurchaseOrderStatus) : Database where
  aircraft := .single
    { id := 3, organizationId := 1, registration := "VT-A", msn := "1", aircraftType := "A320" }
  workOrders := .single { id := 4, organizationId := 1, aircraftId := some 3 }
  aogEvents := .single { id := 7, organizationId := 1, aircraftId := 3, workOrderId := some 4 }
  partRequirements := .single
    { id := 8, organizationId := 1, workOrderId := 4, partId := 5, requiredQuantity := 1
      status := PartRequirementStatus.short }
  procurementRequests := .single
    { id := 9, organizationId := 1, aircraftId := 3, workOrderId := some 4, partId := some 5
      partNumber := "V-1", description := "Valve", reason := "Worn", status := .ordered }
  purchaseOrders := .single
    { id := 10, organizationId := 1, poNumber := "PO-1", vendorId := 2, status }
  purchaseOrderLines := .single
    { id := 11, organizationId := 1, purchaseOrderId := 10, procurementRequestId := some 9
      partNumber := "V-1", description := "Valve", quantity := 1 }

/-- The declared event of the aircraft. -/
def groundedEvent : AogEvent :=
  { id := 7, organizationId := 1, aircraftId := 3, workOrderId := some 4 }

theorem grounded_ordered (status : PurchaseOrderStatus) :
    Grounded (ordered status) 1 3 4 groundedEvent :=
  ⟨⟨_, rfl⟩, rfl, rfl, _, List.mem_singleton_self _, rfl, rfl, rfl⟩

/-- An order that is on its way is told so. -/
theorem sent_order_truthful :
    ∃ status k, getRecoveryStatus (ordered .sent) 0 1 3 = .ok status ∧
      Truthful (ordered .sent) 1 4 status k := by
  refine (truthful_iff (grounded_ordered .sent) (List.cons_ne_nil _ _)).2 ?_
  intro requirement hrequirement honly
  cases List.mem_singleton.1 hrequirement
  -- the order is not cancelled
  cases honly _ (List.mem_singleton_self _) _ (List.mem_singleton_self _)

/-- **CANCELLED, AND SHOWN AS RECEIVED**. -/
theorem cancelled_order_not_truthful :
    ¬∃ status k, getRecoveryStatus (ordered .cancelled) 0 1 3 = .ok status ∧
      Truthful (ordered .cancelled) 1 4 status k := by
  rintro ⟨status, k, -, htruthful⟩
  refine htruthful.received _ (List.mem_singleton_self _) ?_ rfl
  intro request hrequest po hpo
  cases List.mem_singleton.1 hrequest
  cases List.mem_singleton.1 hpo
  rfl

end AogRecoveryService
end AeroComply
