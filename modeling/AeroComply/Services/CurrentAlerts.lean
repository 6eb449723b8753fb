import AeroComply.Services.ProactiveAlerts

/-!
# Current alerts — when the alerts are the current problems

A release-blocker alert is raised for the blocked work orders of the first page that are not
COMPLETED, and a compliance alert for every NON_COMPLIANT assessment.  The current problems are the
blocked work orders that are not final, and the requirements whose latest assessment is
NON_COMPLIANT.

`exact_iff`: the alerts are the current problems if and only if the first page has no blocked work
order that is final, no blocked one that is not final is beyond it, and no NON_COMPLIANT assessment is
superseded.
-/

namespace AeroComply

open Relational (Table)

namespace ProactiveService

open ReleaseReadinessService (getReleaseReadiness blockersOf isLater noteAssessment)
open WorkOrderService (listWorkOrders matchingWorkOrders)

variable {db : Database} {org : UUID} {today : Date}

/-! ### Work orders and their readiness -/

/-- The work orders of the tenant that are not soft-deleted. -/
def liveWorkOrders (db : Database) (org : UUID) : List WorkOrder :=
  matchingWorkOrders db org fun _ => true

/-- `get_release_readiness_for_work_order` answers BLOCKED. -/
def Blocked (db : Database) (org : UUID) (w : WorkOrder) : Prop :=
  ∃ readiness, getReleaseReadiness db org w.id = .ok readiness ∧ readiness.status = .blocked

variable {w : WorkOrder} {alert : ProactiveAlert}

theorem mem_liveWorkOrders :
    w ∈ liveWorkOrders db org ↔
      w ∈ db.workOrders.rows ∧ w.organizationId = org ∧ w.deletedAt.isNone = true := by
  rw [liveWorkOrders, matchingWorkOrders, Table.mem_select]
  simp only [Bool.and_eq_true, decide_eq_true_eq, and_true]

theorem eq_of_id_eq {w w' : WorkOrder} (h : w ∈ liveWorkOrders db org)
    (h' : w' ∈ liveWorkOrders db org) (hid : w.id = w'.id) : w = w' :=
  Table.eq_of_key_eq (mem_liveWorkOrders.1 h).1 (mem_liveWorkOrders.1 h').1 hid

theorem mem_live_of_mem_page (h : w ∈ (listWorkOrders db org).1) :
    w ∈ liveWorkOrders db org :=
  (List.mem_insertionSort _).1 (List.mem_of_mem_drop (List.mem_of_mem_take h))

theorem mem_openWorkOrders :
    w ∈ openWorkOrders db org ↔ w ∈ (listWorkOrders db org).1 ∧ w.status ≠ .completed := by
  rw [openWorkOrders, List.mem_filter, decide_eq_true_eq]

theorem getReleaseReadiness_of_mem (h : w ∈ liveWorkOrders db org) :
    getReleaseReadiness db org w.id = .ok
      { workOrderId := w.id
        status := if (blockersOf db org w).isEmpty then .ready else .blocked
        blockers := blockersOf db org w } := by
  obtain ⟨hrow, horg, hlive⟩ := mem_liveWorkOrders.1 h
  have hfound : db.getWorkOrder org w.id = .ok w := by
    refine oneOrRaise_of_key hrow ?_ fun x _ hx => ?_
    · simp only [horg, hlive, decide_true, Bool.and_self]
    · simp only [Bool.and_eq_true, decide_eq_true_eq] at hx
      exact hx.1.1
  rw [getReleaseReadiness, hfound]
  rfl

theorem blocked_iff (h : w ∈ liveWorkOrders db org) :
    Blocked db org w ↔ (blockersOf db org w).isEmpty = false := by
  rw [Blocked, getReleaseReadiness_of_mem h]
  constructor
  · rintro ⟨readiness, heq, hstatus⟩
    cases heq
    refine Bool.eq_false_iff.2 fun hempty => ?_
    rw [if_pos hempty] at hstatus
    cases hstatus
  · intro hblockers
    refine ⟨_, rfl, ?_⟩
    rw [if_neg (Bool.eq_false_iff.1 hblockers)]

/-! ### What is alerted -/

def alertsOf (db : Database) (org : UUID) (w : WorkOrder) : List ProactiveAlert :=
  (((PartRequirementService.listPartRequirementsForWorkOrder db org w.id).filter fun r =>
      r.status = PartRequirementStatus.short).map (shortageAlert w))
    ++ if (blockersOf db org w).isEmpty then [] else [releaseBlockerAlert w (blockersOf db org w)]

theorem workOrderAlerts_of_mem (h : w ∈ liveWorkOrders db org) :
    workOrderAlerts db org w = .ok (alertsOf db org w) := by
  rw [workOrderAlerts, getReleaseReadiness_of_mem h, alertsOf]
  by_cases hempty : (blockersOf db org w).isEmpty = true
  · simp only [hempty, if_true, List.append_nil]
    rfl
  · simp only [hempty, if_false, Bool.false_eq_true]
    rfl

theorem aogAlert_ok (db : Database) (org : UUID) (event : AogEvent) :
    ∃ alert?, aogAlert db org event = .ok alert? ∧ ∀ alert, alert? = some alert →
      alert.category = .aog := by
  have haircraft : (∃ aircraft, db.getAircraft org event.aircraftId = .ok aircraft) ∨
      db.getAircraft org event.aircraftId = .error (.notFound "Aircraft not found") := by
    rw [Database.getAircraft]
    cases hselect : db.aircraft.select fun a =>
        a.id = event.aircraftId && a.organizationId = org && db.notSoftDeleted a with
    | nil => exact Or.inr rfl
    | cons aircraft rest =>
      have hid : ∀ x : Aircraft, (decide (x.id = event.aircraftId)
          && decide (x.organizationId = org) && db.notSoftDeleted x) = true →
          x.id = event.aircraftId := by
        intro x hx
        simp only [Bool.and_eq_true, decide_eq_true_eq] at hx
        exact hx.1.1
      have hmem : aircraft ∈ db.aircraft.select fun a =>
          a.id = event.aircraftId && a.organizationId = org && db.notSoftDeleted a := by
        rw [hselect]
        exact List.mem_cons_self
      obtain ⟨hrow, hp⟩ := Table.mem_select.1 hmem
      refine Or.inl ⟨aircraft, ?_⟩
      rw [← hselect]
      exact oneOrRaise_of_key hrow hp fun x _ hx => (hid x hx).trans (hid aircraft hp).symm
  rw [aogAlert]
  rcases haircraft with ⟨aircraft, h⟩ | h
  · rw [h]
    refine ⟨_, rfl, fun alert heq => ?_⟩
    cases heq
    rfl
  · rw [h]
    refine ⟨none, rfl, fun alert heq => ?_⟩
    cases heq

theorem getProactiveAlerts_ok (db : Database) (org : UUID) (today : Date) :
    ∃ aog alerts : List ProactiveAlert, (∀ alert ∈ aog, alert.category = .aog) ∧
      getProactiveAlerts db org today = .ok alerts ∧
      ∀ alert, alert ∈ alerts ↔ alert ∈ aog ∨
        (∃ w ∈ openWorkOrders db org, alert ∈ alertsOf db org w) ∨
        (∃ item ∈ openDeferredItems db org, deferredAlert today item = some alert) ∨
        alert ∈ complianceAlerts db org := by
  choose outcome houtcome haog using fun event => aogAlert_ok db org event
  have hevents : (openAogEvents db org).mapM (aogAlert db org)
      = .ok ((openAogEvents db org).map outcome) := mapM_of_forall fun event _ => houtcome event
  have hworkOrders : (openWorkOrders db org).mapM (workOrderAlerts db org)
      = .ok ((openWorkOrders db org).map (alertsOf db org)) :=
    mapM_of_forall fun w hw =>
      workOrderAlerts_of_mem (mem_live_of_mem_page (mem_openWorkOrders.1 hw).1)
  refine ⟨((openAogEvents db org).map outcome).reduceOption,
    List.insertionSort (fun a a' : ProactiveAlert => a.severity.order ≤ a'.severity.order)
      (((openAogEvents db org).map outcome).reduceOption
        ++ ((openWorkOrders db org).map (alertsOf db org)).flatten
        ++ (openDeferredItems db org).filterMap (deferredAlert today) ++ complianceAlerts db org),
    fun alert halert => ?_, ?_, fun alert => ?_⟩
  · obtain ⟨event, _, heq⟩ := List.mem_map.1 (List.reduceOption_mem_iff.1 halert)
    exact haog event alert heq
  · rw [getProactiveAlerts, hevents, ok_bind, hworkOrders, ok_bind]
    rfl
  · simp only [List.mem_insertionSort, List.mem_append, List.mem_flatten, List.mem_map,
      List.mem_filterMap, or_assoc, exists_exists_and_eq_and]

/-- The alerts of the answer, one source at a time. -/
structure AlertsOf (db : Database) (org : UUID) (alerts : List ProactiveAlert) : Prop where
  release : ∀ alert, alert ∈ alerts ∧ alert.category = .releaseBlocker ↔
    ∃ w ∈ openWorkOrders db org, Blocked db org w ∧
      alert = releaseBlockerAlert w (blockersOf db org w)
  compliance : ∀ alert, alert ∈ alerts ∧ alert.category = .compliance ↔
    ∃ a ∈ ComplianceService.listAllAssessments db org, a.status = .nonCompliant ∧
      alert = complianceAlert a

theorem mem_complianceAlerts :
    alert ∈ complianceAlerts db org ↔
      ∃ a ∈ ComplianceService.listAllAssessments db org, a.status = .nonCompliant ∧
        alert = complianceAlert a := by
  rw [complianceAlerts, List.mem_map]
  constructor
  · rintro ⟨a, ha, rfl⟩
    rw [List.mem_filter, decide_eq_true_eq] at ha
    exact ⟨a, ha.1, ha.2, rfl⟩
  · rintro ⟨a, ha, hstatus, rfl⟩
    exact ⟨a, List.mem_filter.2 ⟨ha, decide_eq_true hstatus⟩, rfl⟩

theorem deferredAlert_category {item : DeferredItem} (h : deferredAlert today item = some alert) :
    alert.category = .deferredMel := by
  unfold deferredAlert at h
  split at h
  · cases h
  · dsimp only at h
    split at h
    · cases h
      rfl
    · split at h
      · cases h
        rfl
      · cases h

theorem mem_alertsOf (hw : w ∈ liveWorkOrders db org) :
    alert ∈ alertsOf db org w ↔ alert.category = .partShortage ∧ alert ∈ alertsOf db org w ∨
      Blocked db org w ∧ alert = releaseBlockerAlert w (blockersOf db org w) := by
  rw [blocked_iff hw, alertsOf, List.mem_append]
  constructor
  · rintro (hshortage | hblocked)
    · refine Or.inl ⟨?_, Or.inl hshortage⟩
      obtain ⟨r, _, rfl⟩ := List.mem_map.1 hshortage
      rfl
    · split at hblocked
      · cases hblocked
      · next hne => exact Or.inr ⟨Bool.eq_false_iff.2 hne, List.mem_singleton.1 hblocked⟩
  · rintro (⟨_, h⟩ | ⟨hne, rfl⟩)
    · exact h
    · rw [hne]
      exact Or.inr (List.mem_singleton_self _)

/-- **THE ALERTS OF A TENANT**: the service always answers. -/
theorem getProactiveAlerts_spec (db : Database) (org : UUID) (today : Date) :
    ∃ alerts, getProactiveAlerts db org today = .ok alerts ∧ AlertsOf db org alerts := by
  obtain ⟨aog, alerts, haog, heq, hmem⟩ := getProactiveAlerts_ok db org today
  have hlive : ∀ {w}, w ∈ openWorkOrders db org → w ∈ liveWorkOrders db org :=
    fun hw => mem_live_of_mem_page (mem_openWorkOrders.1 hw).1
  refine ⟨alerts, heq, fun alert => ?_, fun alert => ?_⟩
  · constructor
    · rintro ⟨halert, hcategory⟩
      rcases (hmem alert).1 halert with h | ⟨w, hw, h⟩ | ⟨item, _, h⟩ | h
      · cases (haog alert h).symm.trans hcategory
      · rcases (mem_alertsOf (hlive hw)).1 h with ⟨hshortage, _⟩ | hblocked
        · cases hshortage.symm.trans hcategory
        · exact ⟨w, hw, hblocked⟩
      · cases (deferredAlert_category h).symm.trans hcategory
      · obtain ⟨a, _, _, rfl⟩ := mem_complianceAlerts.1 h
        cases hcategory
    · rintro ⟨w, hw, hblocked, rfl⟩
      refine ⟨(hmem _).2 (Or.inr (Or.inl ⟨w, hw, ?_⟩)), rfl⟩
      exact (mem_alertsOf (hlive hw)).2 (Or.inr ⟨hblocked, rfl⟩)
  · constructor
    · rintro ⟨halert, hcategory⟩
      rcases (hmem alert).1 halert with h | ⟨w, hw, h⟩ | ⟨item, _, h⟩ | h
      · cases (haog alert h).symm.trans hcategory
      · rcases (mem_alertsOf (hlive hw)).1 h with ⟨hshortage, _⟩ | ⟨_, rfl⟩
        · cases hshortage.symm.trans hcategory
        · cases hcategory
      · cases (deferredAlert_category h).symm.trans hcategory
      · exact mem_complianceAlerts.1 h
    · rintro ⟨a, ha, hstatus, rfl⟩
      refine ⟨(hmem _).2 (Or.inr (Or.inr (Or.inr ?_))), rfl⟩
      exact mem_complianceAlerts.2 ⟨a, ha, hstatus, rfl⟩

/-! ### The latest assessments -/

def assessmentsOf (db : Database) (org assetId : UUID) : List ComplianceAssessment :=
  db.assessments.select fun a => a.organizationId = org && a.assetId = some assetId

/-- `latest_by_requirement` of an asset. -/
def latestAssessments (db : Database) (org assetId : UUID) : List ComplianceAssessment :=
  (assessmentsOf db org assetId).foldl noteAssessment []

/-- The latest assessment of the requirement for the asset is NON_COMPLIANT. -/
def LatestNonCompliant (db : Database) (org assetId requirementId : UUID) : Prop :=
  ∃ a ∈ latestAssessments db org assetId, a.requirementId = requirementId ∧ a.status = .nonCompliant

theorem isLater_iff {candidate current : ComplianceAssessment} :
    isLater candidate current = true ↔ current.evaluatedAt < candidate.evaluatedAt ∨
      current.evaluatedAt = candidate.evaluatedAt ∧ current.createdAt < candidate.createdAt := by
  simp only [isLater, Bool.or_eq_true, Bool.and_eq_true, decide_eq_true_eq]

theorem isLater_irrefl (a : ComplianceAssessment) : isLater a a = false := by
  refine Bool.eq_false_iff.2 fun h => ?_
  rcases isLater_iff.1 h with h | ⟨_, h⟩
  · exact lt_irrefl _ h
  · exact lt_irrefl _ h

theorem isLater_trans (a b c : ComplianceAssessment) (hab : isLater a b = true)
    (hbc : isLater b c = true) : isLater a c = true := by
  rw [isLater_iff] at hab hbc ⊢
  rcases hbc with hbc | ⟨hbc, hbc'⟩
  · rcases hab with hab | ⟨hab, _⟩
    · exact Or.inl (hbc.trans hab)
    · exact Or.inl (hbc.trans_eq hab)
  · rcases hab with hab | ⟨hab, hab'⟩
    · exact Or.inl (hbc.trans_lt hab)
    · exact Or.inr ⟨hbc.trans hab, hbc'.trans hab'⟩

theorem isLater_of_not (a b c : ComplianceAssessment) (hab : isLater a b = true)
    (hcb : isLater c b = false) : isLater a c = true := by
  rw [← Bool.not_eq_true, isLater_iff, not_or, not_and] at hcb
  rw [isLater_iff] at hab ⊢
  have hle := not_lt.1 hcb.1
  rcases hab with hab | ⟨hab, hab'⟩
  · exact Or.inl (hle.trans_lt hab)
  · rcases hle.eq_or_lt with heq | hlt
    · exact Or.inr ⟨heq.trans hab, (not_lt.1 (hcb.2 heq.symm)).trans_lt hab'⟩
    · exact Or.inl (hlt.trans_eq hab)

theorem noteAssessment_eq :
    noteAssessment = Latest.note ComplianceAssessment.requirementId isLater := by
  funext latest a
  rw [noteAssessment, Latest.note]
  cases latest.find? (fun current => current.requirementId = a.requirementId) with
  | none => rfl
  | some current => rfl

theorem latestAssessments_spec (db : Database) (org assetId : UUID) :
    Latest.Notes ComplianceAssessment.requirementId isLater (assessmentsOf db org assetId)
      (latestAssessments db org assetId) := by
  rw [latestAssessments, noteAssessment_eq]
  exact Latest.foldl_note_spec isLater_irrefl isLater_trans _

/-! ### The current problems -/

/-- The work order is in none of the final statuses. -/
def NotFinal (w : WorkOrder) : Prop :=
  w.status ≠ .completed ∧ w.status ≠ .closed ∧ w.status ≠ .cancelled

/-- **EXACTLY THE CURRENT PROBLEMS**: the work orders with a release-blocker alert are the blocked
ones that are not final, and the requirements with a compliance alert those whose latest assessment is
NON_COMPLIANT. -/
structure Exact (db : Database) (org : UUID) (alerts : List ProactiveAlert) : Prop where
  release : ∀ workOrderId,
    (∃ alert ∈ alerts, alert.category = .releaseBlocker ∧ alert.workOrderId = some workOrderId) ↔
      ∃ w ∈ liveWorkOrders db org, w.id = workOrderId ∧ NotFinal w ∧ Blocked db org w
  compliance : ∀ assetId requirementId,
    (∃ alert ∈ alerts, alert.category = .compliance ∧ ∃ a ∈ db.assessments.rows,
        a.id = alert.sourceId ∧ a.assetId = some assetId ∧ a.requirementId = requirementId) ↔
      LatestNonCompliant db org assetId requirementId

/-- What the first page and the history of assessments must not have. -/
structure Presentable (db : Database) (org : UUID) : Prop where
  final : ∀ w ∈ (listWorkOrders db org).1, w.status = .closed ∨ w.status = .cancelled →
    ¬ Blocked db org w
  beyond : ∀ w ∈ liveWorkOrders db org, NotFinal w → w ∉ (listWorkOrders db org).1 →
    ¬ Blocked db org w
  superseded : ∀ a ∈ ComplianceService.listAllAssessments db org, a.status = .nonCompliant →
    ∀ assetId, a.assetId = some assetId → LatestNonCompliant db org assetId a.requirementId

section Exactness

variable {alerts : List ProactiveAlert}

theorem release_alerted_iff (h : AlertsOf db org alerts) (workOrderId : UUID) :
    (∃ alert ∈ alerts, alert.category = .releaseBlocker ∧ alert.workOrderId = some workOrderId) ↔
      ∃ w ∈ openWorkOrders db org, w.id = workOrderId ∧ Blocked db org w := by
  constructor
  · rintro ⟨alert, halert, hcategory, hid⟩
    obtain ⟨w, hw, hblocked, rfl⟩ := (h.release alert).1 ⟨halert, hcategory⟩
    cases hid
    exact ⟨w, hw, rfl, hblocked⟩
  · rintro ⟨w, hw, rfl, hblocked⟩
    obtain ⟨halert, hcategory⟩ := (h.release _).2 ⟨w, hw, hblocked, rfl⟩
    exact ⟨_, halert, hcategory, rfl⟩

theorem compliance_alerted_iff (h : AlertsOf db org alerts) (assetId requirementId : UUID) :
    (∃ alert ∈ alerts, alert.category = .compliance ∧ ∃ a ∈ db.assessments.rows,
        a.id = alert.sourceId ∧ a.assetId = some assetId ∧ a.requirementId = requirementId) ↔
      ∃ a ∈ ComplianceService.listAllAssessments db org, a.status = .nonCompliant ∧
        a.assetId = some assetId ∧ a.requirementId = requirementId := by
  constructor
  · rintro ⟨alert, halert, hcategory, a, ha, hid, hpair⟩
    obtain ⟨a', ha', hstatus, rfl⟩ := (h.compliance alert).1 ⟨halert, hcategory⟩
    have heq : a = a' := Table.eq_of_key_eq ha (Table.mem_select.1 ha').1 hid
    rw [heq] at hpair
    exact ⟨a', ha', hstatus, hpair⟩
  · rintro ⟨a, ha, hstatus, hpair⟩
    obtain ⟨halert, hcategory⟩ := (h.compliance _).2 ⟨a, ha, hstatus, rfl⟩
    exact ⟨_, halert, hcategory, a, (Table.mem_select.1 ha).1, rfl, hpair⟩

theorem release_exact_iff (h : AlertsOf db org alerts) :
    (∀ workOrderId,
      (∃ alert ∈ alerts, alert.category = .releaseBlocker ∧
          alert.workOrderId = some workOrderId) ↔
        ∃ w ∈ liveWorkOrders db org, w.id = workOrderId ∧ NotFinal w ∧ Blocked db org w) ↔
      (∀ w ∈ (listWorkOrders db org).1, w.status = .closed ∨ w.status = .cancelled →
          ¬ Blocked db org w) ∧
        ∀ w ∈ liveWorkOrders db org, NotFinal w → w ∉ (listWorkOrders db org).1 →
          ¬ Blocked db org w := by
  simp only [release_alerted_iff h]
  constructor
  · intro hexact
    constructor
    · intro w hpage hstatus hblocked
      have hopen : w ∈ openWorkOrders db org := by
        refine mem_openWorkOrders.2 ⟨hpage, fun hcompleted => ?_⟩
        rw [hcompleted] at hstatus
        rcases hstatus with h | h <;> cases h
      obtain ⟨w', hw', hid, hnotFinal, _⟩ := (hexact w.id).1 ⟨w, hopen, rfl, hblocked⟩
      rw [eq_of_id_eq hw' (mem_live_of_mem_page hpage) hid] at hnotFinal
      exact hstatus.elim hnotFinal.2.1 hnotFinal.2.2
    · intro w hlive hnotFinal hbeyond hblocked
      obtain ⟨w', hw', hid, _⟩ := (hexact w.id).2 ⟨w, hlive, rfl, hnotFinal, hblocked⟩
      have hpage := (mem_openWorkOrders.1 hw').1
      rw [eq_of_id_eq (mem_live_of_mem_page hpage) hlive hid] at hpage
      exact hbeyond hpage
  · rintro ⟨hfinal, hbeyond⟩ workOrderId
    constructor
    · rintro ⟨w, hw, hid, hblocked⟩
      obtain ⟨hpage, hcompleted⟩ := mem_openWorkOrders.1 hw
      exact ⟨w, mem_live_of_mem_page hpage, hid,
        ⟨hcompleted, fun h => hfinal w hpage (Or.inl h) hblocked,
          fun h => hfinal w hpage (Or.inr h) hblocked⟩, hblocked⟩
    · rintro ⟨w, hw, hid, hnotFinal, hblocked⟩
      have hpage : w ∈ (listWorkOrders db org).1 := by
        by_contra hout
        exact hbeyond w hw hnotFinal hout hblocked
      exact ⟨w, mem_openWorkOrders.2 ⟨hpage, hnotFinal.1⟩, hid, hblocked⟩

theorem compliance_exact_iff (h : AlertsOf db org alerts) :
    (∀ assetId requirementId,
      (∃ alert ∈ alerts, alert.category = .compliance ∧ ∃ a ∈ db.assessments.rows,
          a.id = alert.sourceId ∧ a.assetId = some assetId ∧ a.requirementId = requirementId) ↔
        LatestNonCompliant db org assetId requirementId) ↔
      ∀ a ∈ ComplianceService.listAllAssessments db org, a.status = .nonCompliant →
        ∀ assetId, a.assetId = some assetId →
          LatestNonCompliant db org assetId a.requirementId := by
  simp only [compliance_alerted_iff h]
  constructor
  · intro hexact a ha hstatus assetId hasset
    exact (hexact assetId a.requirementId).1 ⟨a, ha, hstatus, hasset, rfl⟩
  · intro hsuperseded assetId requirementId
    constructor
    · rintro ⟨a, ha, hstatus, hasset, rfl⟩
      exact hsuperseded a ha hstatus assetId hasset
    · rintro ⟨a, ha, hrequirement, hstatus⟩
      -- the latest assessment is one of the assessments of the asset
      obtain ⟨hrow, hmatch⟩ :=
        Table.mem_select.1 ((latestAssessments_spec db org assetId).mem a ha)
      simp only [Bool.and_eq_true, decide_eq_true_eq] at hmatch
      exact ⟨a, Table.mem_select.2 ⟨hrow, decide_eq_true hmatch.1⟩, hstatus, hmatch.2, hrequirement⟩

end Exactness

/-- **WHEN THE ALERTS ARE THE CURRENT PROBLEMS**, for every organization, whatever its work orders and
its assessments. -/
theorem exact_iff (db : Database) (org : UUID) (today : Date) :
    (∃ alerts, getProactiveAlerts db org today = .ok alerts ∧ Exact db org alerts) ↔
      Presentable db org := by
  obtain ⟨alerts, heq, hspec⟩ := getProactiveAlerts_spec db org today
  constructor
  · rintro ⟨alerts', heq', hexact⟩
    rw [heq] at heq'
    cases heq'
    obtain ⟨hfinal, hbeyond⟩ := (release_exact_iff hspec).1 hexact.release
    exact ⟨hfinal, hbeyond, (compliance_exact_iff hspec).1 hexact.compliance⟩
  · intro h
    exact ⟨alerts, heq, (release_exact_iff hspec).2 ⟨h.final, h.beyond⟩,
      (compliance_exact_iff hspec).2 h.superseded⟩

def cancelledWorkOrder : WorkOrder where
  id := 1
  organizationId := 1
  workOrderNumber := "WO-1"
  status := .cancelled

/-- A cancelled work order with a task that was never done. -/
def cancelledDatabase : Database where
  workOrders := Table.single cancelledWorkOrder
  tasks := Table.single { id := 2, organizationId := 1, workOrderId := 1 }

/-- A cancelled work order is alerted. -/
theorem cancelled_not_exact :
    ¬ ∃ alerts, getProactiveAlerts cancelledDatabase 1 0 = .ok alerts ∧
      Exact cancelledDatabase 1 alerts := by
  rintro ⟨alerts, heq, hexact⟩
  obtain ⟨alerts', heq', hspec⟩ := getProactiveAlerts_spec cancelledDatabase 1 0
  rw [heq] at heq'
  cases heq'
  have hrow : cancelledWorkOrder ∈ (listWorkOrders cancelledDatabase 1).1 := List.mem_singleton_self _
  have hlive := mem_live_of_mem_page hrow
  have hopen : cancelledWorkOrder ∈ openWorkOrders cancelledDatabase 1 :=
    mem_openWorkOrders.2 ⟨hrow, by decide⟩
  have hblocked : Blocked cancelledDatabase 1 cancelledWorkOrder := (blocked_iff hlive).2 rfl
  obtain ⟨w, hw, hid, hnotFinal, _⟩ := (hexact.release 1).1
    ((release_alerted_iff hspec 1).2 ⟨cancelledWorkOrder, hopen, rfl, hblocked⟩)
  rw [eq_of_id_eq hw hlive hid] at hnotFinal
  exact hnotFinal.2.2 rfl

end ProactiveService
end AeroComply
