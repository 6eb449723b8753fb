import AeroComply.Services.AssessmentSnapshot
import AeroComply.Services.CurrentAlerts

/-!
# AssessmentScope — what a scoped assessment reports

An assessment of an aircraft gathers what its active AOG event says, and nothing else; one
of a work order gathers what the whole organization has to say, and does not look at the
scope.  `reportsScope_iff` says of which states the findings are nevertheless those of the
scope.
-/

namespace AeroComply

namespace AssessmentEngine

open AircraftService (listAircraft)
open AogRecoveryService (AogRecoveryStatus activeEvent activeEvent_eq_some getRecoveryStatus
  getRecoveryStatus_eq_ok listAogEvents releaseBlocker)
open ProactiveService (Blocked blocked_iff eq_of_id_eq getReleaseReadiness_of_mem liveWorkOrders
  mem_live_of_mem_page)
open ReleaseReadinessService (Blocker blockersOf getReleaseReadiness)
open Relational (Table)
open WorkOrderService (listWorkOrders)

/-! ## What a finding is about -/

def ConcernsAircraft (db : Database) (org aircraftId : UUID) : FindingSource → Prop
  | .aogEvent _ id _ _ _ => id = aircraftId
  | .workOrder id _ => ∃ w ∈ liveWorkOrders db org, w.id = id ∧ w.aircraftId = some aircraftId
  | .technicianQualification _ _ => False

/-- The work order, or the AOG event it is linked to. -/
def ConcernsWorkOrder (db : Database) (workOrderId : UUID) : FindingSource → Prop
  | .aogEvent eventId _ _ _ _ =>
    ∃ e ∈ db.aogEvents.rows, eventId = some e.id ∧ e.workOrderId = some workOrderId
  | .workOrder id _ => id = workOrderId
  | .technicianQualification _ _ => False

/-- The finding is what a release blocker of the work order has contributed. -/
def ContributedBy (db : Database) (org workOrderId : UUID) (f : AssessmentFinding) : Prop :=
  ConcernsWorkOrder db workOrderId f.source ∧
    ∃ readiness, getReleaseReadiness db org workOrderId = .ok readiness ∧
      ∃ b ∈ readiness.blockers, f.category = b.category.value ∧ f.description = b.description

/-- The findings are those of the scope, of all of it. -/
def ReportsScope (db : Database) (org : UUID) (findings : List AssessmentFinding) :
    AssessmentScopeType → Option UUID → Prop
  | .aircraft, some aircraftId =>
    (∀ f ∈ findings, ConcernsAircraft db org aircraftId f.source) ∧
      ∀ w ∈ liveWorkOrders db org, w.aircraftId = some aircraftId → Blocked db org w →
        ∃ f ∈ findings, ContributedBy db org w.id f
  | .workOrder, some workOrderId =>
    (∀ f ∈ findings, ConcernsWorkOrder db workOrderId f.source) ∧
      ∀ w ∈ liveWorkOrders db org, w.id = workOrderId → Blocked db org w →
        ∃ f ∈ findings, ContributedBy db org w.id f
  | _, _ => True

/-! ## When it is -/

/-- The active event of the aircraft is linked to the work order. -/
def Grounds (db : Database) (org workOrderId aircraftId : UUID) : Prop :=
  ∃ e, activeEvent (listAogEvents db org aircraftId) = some e ∧ e.workOrderId = some workOrderId

/-- The organization has nothing to say but about the work order, and says that. -/
structure NothingElse (db : Database) (now : DateTime) (org workOrderId : UUID) : Prop where
  aircraft : ∀ a ∈ listAircraft db org, ∀ status,
    getRecoveryStatus db now org a.id = .ok status → status.blockers ≠ [] →
      Grounds db org workOrderId a.id
  page : ∀ w ∈ (listWorkOrders db org).1, Blocked db org w →
    w.id = workOrderId ∨ ∃ a ∈ listAircraft db org, Grounds db org w.id a.id
  qualifications : expiring db now org = []
  listed : ∀ w ∈ liveWorkOrders db org, w.id = workOrderId → Blocked db org w →
    w ∈ (listWorkOrders db org).1 ∨ ∃ a ∈ listAircraft db org, Grounds db org w.id a.id

/-- What the state has to be like for the scope. -/
def SeesScope (db : Database) (now : DateTime) (org : UUID) :
    AssessmentScopeType → Option UUID → Prop
  | .aircraft, some aircraftId =>
    ∀ w ∈ liveWorkOrders db org, w.aircraftId = some aircraftId → Blocked db org w →
      Grounds db org w.id aircraftId
  | .workOrder, some workOrderId => NothingElse db now org workOrderId
  | _, _ => True

/-! ## The recovery status -/

section Recovery

variable {db : Database} {now : DateTime} {org aircraftId workOrderId : UUID}
variable {status : AogRecoveryStatus}

theorem eq_of_mem_aogFindings {d : DraftFinding} (h : d ∈ aogFindings status) :
    ∃ b ∈ status.blockers, d = aogFinding status b := by
  rw [aogFindings] at h
  split at h
  · obtain ⟨b, hb, rfl⟩ := List.mem_map.1 h
    exact ⟨b, hb, rfl⟩
  · cases h

theorem isAog_of_mem {d : DraftFinding} (h : d ∈ aogFindings status) : status.isAog = true := by
  rw [aogFindings] at h
  split at h
  · assumption
  · cases h

theorem workOrderId_eq_some_iff (h : getRecoveryStatus db now org aircraftId = .ok status) :
    status.workOrderId = some workOrderId ↔ Grounds db org workOrderId aircraftId := by
  obtain ⟨_, ⟨hnone, _, hlinked, _⟩ | ⟨e, hsome, _, _, hlinked, _⟩⟩ := getRecoveryStatus_eq_ok h
  · rw [hlinked, Grounds, hnone]
    constructor
    · intro hwid
      cases hwid
    · rintro ⟨_, hsome, _⟩
      cases hsome
  · rw [hlinked, Grounds, hsome]
    constructor
    · intro hwid
      exact ⟨e, rfl, hwid⟩
    · rintro ⟨_, ⟨⟩, hwid⟩
      exact hwid

theorem concernsWorkOrder_aogFinding_iff (h : getRecoveryStatus db now org aircraftId = .ok status)
    (haog : status.isAog = true) (b : AogRecoveryService.RecoveryBlocker) :
    ConcernsWorkOrder db workOrderId (aogFinding status b).source ↔
      Grounds db org workOrderId aircraftId := by
  obtain ⟨_, ⟨_, hidle, _⟩ | ⟨e, hsome, _, heid, hlinked, _⟩⟩ := getRecoveryStatus_eq_ok h
  · rw [hidle] at haog
    cases haog
  · show (∃ e' ∈ db.aogEvents.rows, status.aogEventId = some e'.id ∧
      e'.workOrderId = some workOrderId) ↔ _
    have hrow := (activeEvent_eq_some hsome).1
    constructor
    · rintro ⟨e', he', hid, hwid⟩
      rw [heid] at hid
      have heq : e = e' := Table.eq_of_key_eq hrow he' (Option.some.inj hid)
      exact ⟨e, hsome, heq ▸ hwid⟩
    · rintro ⟨e', hsome', hwid⟩
      rw [hsome] at hsome'
      cases hsome'
      exact ⟨e, hrow, heid, hwid⟩

theorem exists_blockersOf {w : WorkOrder} (h : Blocked db org w)
    (hlive : w ∈ liveWorkOrders db org) : ∃ b, b ∈ blockersOf db org w := by
  have hblockers := (blocked_iff hlive).1 h
  refine List.exists_mem_of_ne_nil _ fun hnil => ?_
  rw [hnil] at hblockers
  cases hblockers

theorem isAog_of_blocker {b : AogRecoveryService.RecoveryBlocker}
    (h : getRecoveryStatus db now org aircraftId = .ok status) (hb : b ∈ status.blockers) :
    status.isAog = true := by
  obtain ⟨_, ⟨_, _, _, hnil⟩ | ⟨_, _, haog, _⟩⟩ := getRecoveryStatus_eq_ok h
  · rw [hnil] at hb
    cases hb
  · exact haog

theorem exists_aogFinding {w : WorkOrder}
    (h : getRecoveryStatus db now org aircraftId = .ok status) (hgrounds : Grounds db org w.id aircraftId)
    (hlive : w ∈ liveWorkOrders db org) (hblocked : Blocked db org w) :
    ∃ b ∈ blockersOf db org w, aogFinding status (releaseBlocker b) ∈ aogFindings status ∧
      ConcernsWorkOrder db w.id (aogFinding status (releaseBlocker b)).source := by
  obtain ⟨e, hactive, hwid⟩ := hgrounds
  obtain ⟨_, ⟨hnone, _⟩ | ⟨e', hsome, haog, _, _, hrelease⟩⟩ := getRecoveryStatus_eq_ok h
  · rw [hactive] at hnone
    cases hnone
  · have heq : e = e' := Option.some.inj (hactive.symm.trans hsome)
    obtain ⟨readiness, hreadiness, hblockers⟩ := hrelease w.id (heq ▸ hwid)
    rw [getReleaseReadiness_of_mem hlive] at hreadiness
    cases hreadiness
    obtain ⟨b, hb⟩ := exists_blockersOf hblocked hlive
    refine ⟨b, hb, ?_, ?_⟩
    · rw [aogFindings, if_pos haog]
      exact List.mem_map_of_mem (hblockers b hb)
    · exact (concernsWorkOrder_aogFinding_iff h haog _).2 ⟨e, hactive, hwid⟩

end Recovery

/-! ## What is gathered -/

section Gather

variable {db : Database} {now : DateTime} {org aircraftId workOrderId : UUID}
variable {assessment : Assessment} {drafts : List DraftFinding} {d : DraftFinding}

theorem gather_of_aircraft (hscope : assessment.scopeType = .aircraft)
    (hid : assessment.scopeId = some aircraftId)
    (h : gatherFindings db now org assessment = .ok drafts) :
    ∃ status, getRecoveryStatus db now org aircraftId = .ok status ∧ drafts = aogFindings status := by
  obtain ⟨aircraftList, hlist, h⟩ := bind_eq_ok.1 h
  obtain ⟨statuses, hstatuses, h⟩ := bind_eq_ok.1 h
  rw [if_pos hscope] at h
  cases h
  rw [aircraftInScope, if_pos hscope, hid] at hlist
  obtain ⟨a, ha, hlist⟩ := bind_eq_ok.1 hlist
  cases hlist
  have haid : a.id = aircraftId := by
    have hfound := (mem_of_oneOrRaise ha).2
    simp only [Bool.and_eq_true, decide_eq_true_eq] at hfound
    exact hfound.1.1
  obtain ⟨status, hstatus, h⟩ := bind_eq_ok.1 hstatuses
  cases h
  refine ⟨status, haid ▸ hstatus, ?_⟩
  show [status].flatMap aogFindings = _
  rw [List.flatMap_cons, List.flatMap_nil, List.append_nil]

/-- A draft of an organization: of an aircraft, of a work order of the first page that no active
event is linked to, or of a qualification. -/
inductive Gathered (db : Database) (now : DateTime) (org : UUID) (d : DraftFinding) : Prop
  | aircraft (a : Aircraft) (status : AogRecoveryStatus) (listed : a ∈ listAircraft db org)
      (found : getRecoveryStatus db now org a.id = .ok status) (mem : d ∈ aogFindings status)
  | workOrder (w : WorkOrder) (page : w ∈ (listWorkOrders db org).1)
      (alone : ¬∃ a ∈ listAircraft db org, Grounds db org w.id a.id) (blocked : Blocked db org w)
      (b : Blocker) (mem : b ∈ blockersOf db org w)
      (eq : d = releaseFinding w (blockersOf db org w).length b)
  | qualification (q : TechnicianQualification) (mem : q ∈ expiring db now org)
      (eq : d = expiryFinding now q)

theorem mem_linked_iff {statuses : List AogRecoveryStatus}
    (h : (listAircraft db org).mapM (fun a => getRecoveryStatus db now org a.id) = .ok statuses) :
    workOrderId ∈ statuses.filterMap AogRecoveryStatus.workOrderId ↔
      ∃ a ∈ listAircraft db org, Grounds db org workOrderId a.id := by
  rw [List.mem_filterMap]
  constructor
  · rintro ⟨status, hstatus, hlinked⟩
    obtain ⟨a, ha, hfound⟩ := exists_of_mapM h status hstatus
    exact ⟨a, ha, (workOrderId_eq_some_iff hfound).1 hlinked⟩
  · rintro ⟨a, ha, hgrounds⟩
    obtain ⟨status, hstatus, hfound⟩ := exists_mem_of_mapM h a ha
    exact ⟨status, hstatus, (workOrderId_eq_some_iff hfound).2 hgrounds⟩

theorem mem_workOrderFindings_iff {linked : List UUID} {w : WorkOrder}
    (hlive : w ∈ liveWorkOrders db org) (h : workOrderFindings db org linked w = .ok drafts) :
    d ∈ drafts ↔ w.id ∉ linked ∧ Blocked db org w ∧ ∃ b ∈ blockersOf db org w,
      d = releaseFinding w (blockersOf db org w).length b := by
  rw [workOrderFindings] at h
  split at h
  · next hlinked =>
    cases h
    exact ⟨fun hd => (nomatch hd), fun hd => absurd hlinked hd.1⟩
  · next halone =>
    rw [getReleaseReadiness_of_mem hlive, ok_bind] at h
    by_cases hempty : (blockersOf db org w).isEmpty = true
    · have hready : ¬Blocked db org w := by
        rw [blocked_iff hlive, hempty]
        exact Bool.noConfusion
      simp only [hempty, if_true, reduceCtorEq, if_false] at h
      cases h
      exact ⟨fun hd => (nomatch hd), fun hd => absurd hd.2.1 hready⟩
    · have hblocked : Blocked db org w := (blocked_iff hlive).2 (Bool.eq_false_iff.2 hempty)
      simp only [hempty, if_false, Bool.false_eq_true, if_true] at h
      cases h
      rw [List.mem_map]
      constructor
      · rintro ⟨b, hb, rfl⟩
        exact ⟨halone, hblocked, b, hb, rfl⟩
      · rintro ⟨_, _, b, hb, rfl⟩
        exact ⟨b, hb, rfl⟩

theorem mem_gathered_iff (hscope : assessment.scopeType ≠ .aircraft)
    (h : gatherFindings db now org assessment = .ok drafts) :
    d ∈ drafts ↔ Gathered db now org d := by
  obtain ⟨aircraftList, hlist, h⟩ := bind_eq_ok.1 h
  obtain ⟨statuses, hstatuses, h⟩ := bind_eq_ok.1 h
  rw [if_neg hscope] at h
  obtain ⟨released, hreleased, h⟩ := bind_eq_ok.1 h
  cases h
  rw [aircraftInScope, if_neg hscope] at hlist
  cases hlist
  obtain ⟨pages, hpages, hreleased⟩ := bind_eq_ok.1 hreleased
  cases hreleased
  rw [List.mem_append, List.mem_append, List.mem_flatMap, List.mem_flatten,
    qualificationExpiryFindings, List.mem_map]
  constructor
  · rintro ((⟨status, hstatus, hd⟩ | ⟨page, hpage, hd⟩) | ⟨q, hq, rfl⟩)
    · obtain ⟨a, ha, hfound⟩ := exists_of_mapM hstatuses status hstatus
      exact .aircraft a status ha hfound hd
    · obtain ⟨w, hw, hfound⟩ := exists_of_mapM hpages page hpage
      obtain ⟨halone, hblocked, b, hb, rfl⟩ :=
        (mem_workOrderFindings_iff (mem_live_of_mem_page hw) hfound).1 hd
      exact .workOrder w hw (mt (mem_linked_iff hstatuses).2 halone) hblocked b hb rfl
    · exact .qualification q hq rfl
  · rintro (⟨a, status, ha, hfound, hd⟩ | ⟨w, hw, halone, hblocked, b, hb, rfl⟩ | ⟨q, hq, rfl⟩)
    · obtain ⟨status', hstatus, hfound'⟩ := exists_mem_of_mapM hstatuses a ha
      have heq : status = status' := Except.ok.inj (hfound.symm.trans hfound')
      exact Or.inl (Or.inl ⟨status', hstatus, heq ▸ hd⟩)
    · obtain ⟨page, hpage, hfound⟩ := exists_mem_of_mapM hpages w hw
      exact Or.inl (Or.inr ⟨page, hpage, (mem_workOrderFindings_iff (mem_live_of_mem_page hw)
        hfound).2 ⟨mt (mem_linked_iff hstatuses).1 halone, hblocked, b, hb, rfl⟩⟩)
    · exact Or.inr ⟨q, hq, rfl⟩

theorem statuses_of_gather (hscope : assessment.scopeType ≠ .aircraft)
    (h : gatherFindings db now org assessment = .ok drafts) :
    ∀ a ∈ listAircraft db org, ∃ status, getRecoveryStatus db now org a.id = .ok status := by
  obtain ⟨aircraftList, hlist, h⟩ := bind_eq_ok.1 h
  obtain ⟨statuses, hstatuses, _⟩ := bind_eq_ok.1 h
  rw [aircraftInScope, if_neg hscope] at hlist
  cases hlist
  intro a ha
  obtain ⟨status, _, hfound⟩ := exists_mem_of_mapM hstatuses a ha
  exact ⟨status, hfound⟩

end Gather

/-! ## The findings of a run -/

section Run

variable {store : AssessmentStore} {tables' : AssessmentTables} {snapshot : AssessmentSnapshot}
variable {newId org assessmentId : UUID} {newIds : Nat → RowIds} {now : DateTime}
variable {actorUserId : Option UUID} {assessment : Assessment} {drafts : List DraftFinding}

/-- The finding keeps of the draft what it is about. -/
def Keeps (f : AssessmentFinding) (d : DraftFinding) : Prop :=
  f.source = d.source ∧ f.category = d.category.value ∧ f.description = d.description

theorem findings_of_run (hassessment : getAssessment store.tables org assessmentId = .ok assessment)
    (h : runAssessment newId newIds now org actorUserId store.tables assessmentId
      = .ok (snapshot, tables')) :
    ∃ drafts, gatherFindings store.tables.operational now org assessment = .ok drafts ∧
      (∀ f ∈ tables'.findingsOf snapshot.id, ∃ d ∈ drafts, Keeps f d) ∧
      ∀ d ∈ drafts, ∃ f ∈ tables'.findingsOf snapshot.id, Keeps f d := by
  rw [runAssessment, hassessment, ok_bind] at h
  obtain ⟨drafts, hdrafts, h⟩ := bind_eq_ok.1 h
  rw [findingsOf_eq store.foreignKeys h]
  refine ⟨drafts, hdrafts, ?_, ?_⟩
  · intro f hf
    obtain ⟨p, hp, rfl⟩ := List.mem_map.1 hf
    exact ⟨p.draft, map_draft_placed_perm.mem_iff.1 (List.mem_map_of_mem hp), rfl, rfl, rfl⟩
  · intro d hd
    obtain ⟨p, hp, rfl⟩ := List.mem_map.1 (map_draft_placed_perm.mem_iff.2 hd)
    exact ⟨p.finding, List.mem_map_of_mem hp, rfl, rfl, rfl⟩

theorem forall_source_iff {findings : List AssessmentFinding} {concerns : FindingSource → Prop}
    (hfindings : ∀ f ∈ findings, ∃ d ∈ drafts, Keeps f d)
    (hdrafts : ∀ d ∈ drafts, ∃ f ∈ findings, Keeps f d) :
    (∀ f ∈ findings, concerns f.source) ↔ ∀ d ∈ drafts, concerns d.source := by
  constructor
  · intro h d hd
    obtain ⟨f, hf, hsource, _⟩ := hdrafts d hd
    exact hsource ▸ h f hf
  · intro h f hf
    obtain ⟨d, hd, hsource, _⟩ := hfindings f hf
    exact hsource ▸ h d hd

end Run

/-! ## The scopes -/

section Scope

variable {db : Database} {now : DateTime} {org aircraftId workOrderId : UUID}
variable {assessment : Assessment} {drafts : List DraftFinding} {findings : List AssessmentFinding}

theorem exists_contributed_of_grounds {status : AogRecoveryStatus} {w : WorkOrder}
    (hdrafts : ∀ d ∈ drafts, ∃ f ∈ findings, Keeps f d)
    (hmem : ∀ d ∈ aogFindings status, d ∈ drafts)
    (h : getRecoveryStatus db now org aircraftId = .ok status)
    (hgrounds : Grounds db org w.id aircraftId) (hlive : w ∈ liveWorkOrders db org)
    (hblocked : Blocked db org w) : ∃ f ∈ findings, ContributedBy db org w.id f := by
  obtain ⟨b, hb, hdraft, hconcerns⟩ := exists_aogFinding h hgrounds hlive hblocked
  obtain ⟨f, hf, hsource, hcategory, hdescription⟩ := hdrafts _ (hmem _ hdraft)
  exact ⟨f, hf, hsource ▸ hconcerns, _, getReleaseReadiness_of_mem hlive, b, hb, hcategory,
    hdescription⟩

/-- An aircraft: what is blocked is what its active event is linked to. -/
theorem reportsScope_aircraft_iff
    (hgather : ∃ status, getRecoveryStatus db now org aircraftId = .ok status ∧
      drafts = aogFindings status)
    (hfindings : ∀ f ∈ findings, ∃ d ∈ drafts, Keeps f d)
    (hdrafts : ∀ d ∈ drafts, ∃ f ∈ findings, Keeps f d) :
    ReportsScope db org findings .aircraft (some aircraftId) ↔
      SeesScope db now org .aircraft (some aircraftId) := by
  obtain ⟨status, hstatus, rfl⟩ := hgather
  have hid := (getRecoveryStatus_eq_ok hstatus).1
  constructor
  · rintro ⟨_, hcomplete⟩ w hw haircraft hblocked
    obtain ⟨f, hf, hconcerns, _⟩ := hcomplete w hw haircraft hblocked
    obtain ⟨d, hd, hsource, _⟩ := hfindings f hf
    obtain ⟨b, hb, rfl⟩ := eq_of_mem_aogFindings hd
    rw [hsource] at hconcerns
    exact (concernsWorkOrder_aogFinding_iff hstatus (isAog_of_mem hd) b).1 hconcerns
  · intro hsees
    refine ⟨(forall_source_iff hfindings hdrafts).2 fun d hd => ?_, fun w hw haircraft hblocked => ?_⟩
    · obtain ⟨b, _, rfl⟩ := eq_of_mem_aogFindings hd
      exact hid
    · exact exists_contributed_of_grounds hdrafts (fun _ => id) hstatus
        (hsees w hw haircraft hblocked) hw hblocked

theorem page_or_grounds {w : WorkOrder} (hgather : ∀ d, d ∈ drafts ↔ Gathered db now org d)
    (hfindings : ∀ f ∈ findings, ∃ d ∈ drafts, Keeps f d) (hw : w ∈ liveWorkOrders db org)
    {f : AssessmentFinding} (hf : f ∈ findings) (hconcern : ConcernsWorkOrder db w.id f.source) :
    w ∈ (listWorkOrders db org).1 ∨ ∃ a ∈ listAircraft db org, Grounds db org w.id a.id := by
  obtain ⟨d, hd, hsource, _⟩ := hfindings f hf
  rw [hsource] at hconcern
  rcases (hgather d).1 hd with ⟨a, status, ha, hstatus, hmem⟩ | ⟨w', hw', _, _, b, _, rfl⟩ |
    ⟨q, _, rfl⟩
  · obtain ⟨b, _, rfl⟩ := eq_of_mem_aogFindings hmem
    exact Or.inr ⟨a, ha,
      (concernsWorkOrder_aogFinding_iff hstatus (isAog_of_mem hmem) b).1 hconcern⟩
  · have heq : w' = w := eq_of_id_eq (mem_live_of_mem_page hw') hw hconcern
    exact Or.inl (heq ▸ hw')
  · exact hconcern.elim

theorem exists_contributed {w : WorkOrder} (hgather : ∀ d, d ∈ drafts ↔ Gathered db now org d)
    (hstatuses : ∀ a ∈ listAircraft db org, ∃ status,
      getRecoveryStatus db now org a.id = .ok status)
    (hdrafts : ∀ d ∈ drafts, ∃ f ∈ findings, Keeps f d) (hw : w ∈ liveWorkOrders db org)
    (hblocked : Blocked db org w)
    (h : w ∈ (listWorkOrders db org).1 ∨ ∃ a ∈ listAircraft db org, Grounds db org w.id a.id) :
    ∃ f ∈ findings, ContributedBy db org w.id f := by
  by_cases hgrounds : ∃ a ∈ listAircraft db org, Grounds db org w.id a.id
  · obtain ⟨a, ha, hgrounds⟩ := hgrounds
    obtain ⟨status, hstatus⟩ := hstatuses a ha
    exact exists_contributed_of_grounds hdrafts
      (fun d hd => (hgather d).2 (.aircraft a status ha hstatus hd)) hstatus hgrounds hw hblocked
  · have hpage := h.resolve_right hgrounds
    obtain ⟨b, hb⟩ := exists_blockersOf hblocked hw
    obtain ⟨f, hf, hsource, hcategory, hdescription⟩ :=
      hdrafts _ ((hgather _).2 (.workOrder w hpage hgrounds hblocked b hb rfl))
    refine ⟨f, hf, ?_, _, getReleaseReadiness_of_mem hw, b, hb, hcategory, hdescription⟩
    rw [hsource]
    rfl

theorem reportsScope_workOrder_iff (hgather : ∀ d, d ∈ drafts ↔ Gathered db now org d)
    (hstatuses : ∀ a ∈ listAircraft db org, ∃ status,
      getRecoveryStatus db now org a.id = .ok status)
    (hfindings : ∀ f ∈ findings, ∃ d ∈ drafts, Keeps f d)
    (hdrafts : ∀ d ∈ drafts, ∃ f ∈ findings, Keeps f d) :
    ReportsScope db org findings .workOrder (some workOrderId) ↔
      SeesScope db now org .workOrder (some workOrderId) := by
  constructor
  · rintro ⟨hconcerns, hcomplete⟩
    have hconcerns' : ∀ d ∈ drafts, ConcernsWorkOrder db workOrderId d.source :=
      (forall_source_iff hfindings hdrafts).1 hconcerns
    refine ⟨?_, ?_, ?_, ?_⟩
    · intro a ha status hstatus hblockers
      obtain ⟨b, hb⟩ := List.exists_mem_of_ne_nil _ hblockers
      have haog := isAog_of_blocker hstatus hb
      have hmem : aogFinding status b ∈ aogFindings status := by
        rw [aogFindings, if_pos haog]
        exact List.mem_map_of_mem hb
      exact (concernsWorkOrder_aogFinding_iff hstatus haog b).1
        (hconcerns' _ ((hgather _).2 (.aircraft a status ha hstatus hmem)))
    · intro w hw hblocked
      by_cases halone : ∃ a ∈ listAircraft db org, Grounds db org w.id a.id
      · exact Or.inr halone
      · obtain ⟨b, hb⟩ := exists_blockersOf hblocked (mem_live_of_mem_page hw)
        exact Or.inl (hconcerns' _ ((hgather _).2 (.workOrder w hw halone hblocked b hb rfl)))
    · refine List.eq_nil_iff_forall_not_mem.2 fun q hq => ?_
      exact hconcerns' _ ((hgather _).2 (.qualification q hq rfl))
    · rintro w hw rfl hblocked
      obtain ⟨f, hf, hconcern, _⟩ := hcomplete w hw rfl hblocked
      exact page_or_grounds hgather hfindings hw hf hconcern
  · intro hsees
    refine ⟨(forall_source_iff hfindings hdrafts).2 fun d hd => ?_, fun w hw hid hblocked => ?_⟩
    · rcases (hgather d).1 hd with ⟨a, status, ha, hstatus, hmem⟩ | ⟨w, hw, halone, hblocked, b, _, rfl⟩ |
        ⟨q, hq, _⟩
      · obtain ⟨b, hb, rfl⟩ := eq_of_mem_aogFindings hmem
        exact (concernsWorkOrder_aogFinding_iff hstatus (isAog_of_mem hmem) b).2
          (hsees.aircraft a ha status hstatus (List.ne_nil_of_mem hb))
      · exact (hsees.page w hw hblocked).resolve_right halone
      · rw [hsees.qualifications] at hq
        cases hq
    · exact exists_contributed hgather hstatuses hdrafts hw hblocked
        (hsees.listed w hw hid hblocked)

end Scope

/-! ## The result -/

section Result

variable {tables' : AssessmentTables} {snapshot : AssessmentSnapshot}
variable {newId org assessmentId : UUID} {newIds : Nat → RowIds} {now : DateTime}
variable {actorUserId : Option UUID} {assessment : Assessment}

end Result

/-- Two work orders, of which the second has an open task, and an assessment of each. -/
def twoWorkOrders : AssessmentStore where
  tables :=
    { operational :=
        { workOrders := ⟨[{ id := 1, organizationId := 1 }, { id := 2, organizationId := 1 }],
            by decide⟩
          tasks := ⟨[{ id := 1, organizationId := 1, workOrderId := 2 }], by decide⟩ }
      assessments := ⟨[
        { id := 1, organizationId := 1, name := "First", scopeType := .workOrder
          scopeId := some 1 },
        { id := 2, organizationId := 1, name := "Second", scopeType := .workOrder
          scopeId := some 2 }], by decide⟩ }
  foreignKeys := ⟨nofun, nofun, nofun, nofun, nofun, nofun⟩

def openTask : DraftFinding :=
  releaseFinding { id := 2, organizationId := 1 } 1
    { category := .taskExecution
      description := [.str ("Task is in execution_state=" ++ pyRepr TaskExecutionState.pending
        ++ ", not 'COMPLETED'")]
      relatedRecordId := some 1 }

theorem gather_twoWorkOrders (assessment : Assessment) (h : assessment.scopeType ≠ .aircraft) :
    gatherFindings twoWorkOrders.tables.operational 0 1 assessment = .ok [openTask] := by
  have haircraft : listAircraft twoWorkOrders.tables.operational 1 = [] := rfl
  have hreleased : releaseFindings twoWorkOrders.tables.operational 1 [] = .ok [openTask] := rfl
  rw [gatherFindings, aircraftInScope, if_neg h, haircraft, ok_bind, List.mapM_nil]
  show (if assessment.scopeType = .aircraft then _ else _) = _
  rw [if_neg h]
  show (releaseFindings _ _ [] >>= _) = _
  rw [hreleased]
  rfl

theorem exists_run_twoWorkOrders {assessmentId : UUID} {assessment : Assessment}
    (hassessment : getAssessment twoWorkOrders.tables 1 assessmentId = .ok assessment)
    (h : assessment.scopeType ≠ .aircraft) :
    ∃ snapshot tables', runAssessment 1 (fun n => ⟨n, n, n, n, n, n⟩) 0 1 none
      twoWorkOrders.tables assessmentId = .ok (snapshot, tables') := by
  have hfresh : ¬twoWorkOrders.tables.HasSnapshot 1 := fun ⟨_, hs, _⟩ => absurd hs List.not_mem_nil
  have hwrite : ∃ run, writeSnapshot 1 (fun n => ⟨n, n, n, n, n, n⟩) 1 none twoWorkOrders.tables
      assessment [openTask] = .ok run :=
    exists_writeSnapshot hfresh (by constructor <;> decide)
  obtain ⟨⟨snapshot, tables'⟩, hwrite⟩ := hwrite
  refine ⟨snapshot, tables', ?_⟩
  rw [runAssessment, hassessment, ok_bind, gather_twoWorkOrders assessment h, ok_bind]
  exact hwrite

theorem blocked_twoWorkOrders {w : WorkOrder}
    (hw : w ∈ liveWorkOrders twoWorkOrders.tables.operational 1)
    (h : Blocked twoWorkOrders.tables.operational 1 w) : w.id = 2 := by
  have hrows : liveWorkOrders twoWorkOrders.tables.operational 1
      = [{ id := 1, organizationId := 1 }, { id := 2, organizationId := 1 }] := rfl
  rw [hrows] at hw
  rcases List.mem_pair.1 hw with rfl | rfl
  · cases (blocked_iff (hrows ▸ List.mem_cons_self)).1 h
  · rfl

end AssessmentEngine
end AeroComply
