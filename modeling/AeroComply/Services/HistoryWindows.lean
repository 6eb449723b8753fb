import AeroComply.Services.AssetHistory
import AeroComply.Services.FleetTimeline

/-!
# HistoryWindows — when the history views show the latest of the whole timeline

Every view cuts its queries to their latest rows before it filters and merges
the events.  What it shows is a window of the matching timeline exactly when the
matching events it has not read are `Covered`: as many matching events as it may
show, among those it has read, are as late.

A filter that leaves out the latest rows of a query, an event that is later than
the time its query is sorted by, and rows of other plans in the log are what
uncovers an event.
-/

namespace AeroComply

open Timeline (Source IsWindow Covered latest older)

namespace HistoryWindows

open AssetService ControlCenterService PlanService

section Splits

variable (store : TimelineStore) (organizationId : UUID)

theorem inspects_of_read {asset : Asset} {limit : Nat} {row : AuditRow × InspectionRequirement}
    (h : inspects (workOrderRows store organizationId asset limit) row = true) :
    inspects (assetWorkOrders store organizationId asset) row = true := by
  obtain ⟨wo, hwo, hrow⟩ := List.any_eq_true.1 h
  refine List.any_eq_true.2 ⟨wo, ?_, hrow⟩
  exact (Timeline.perm_newestFirst _).mem_iff.1 (List.mem_of_mem_take hwo)

theorem exists_historySources (asset : Asset) :
    ∃ before after, ∀ workOrders, historySources store organizationId asset workOrders
      = before ++ ((inspectionCompletions store organizationId).filter (inspects workOrders)).map
          (fun row => ⟨row.1.createdAt, inspectionEvents row⟩) :: after :=
  ⟨[_, _, _, _], [_, _], fun _ => rfl⟩

theorem inspections_perm (asset : Asset) (limit : Nat) :
    (((inspectionCompletions store organizationId).filter
        (inspects (workOrderRows store organizationId asset limit))).flatMap inspectionEvents
      ++ ((inspectionCompletions store organizationId).filter fun row =>
        inspects (assetWorkOrders store organizationId asset) row &&
          !inspects (workOrderRows store organizationId asset limit) row).flatMap
            inspectionEvents).Perm
      (((inspectionCompletions store organizationId).filter
        (inspects (assetWorkOrders store organizationId asset))).flatMap inspectionEvents) := by
  have hsub : ∀ row, inspects (workOrderRows store organizationId asset limit) row = true →
      inspects (assetWorkOrders store organizationId asset) row = true :=
    fun _ h => inspects_of_read store organizationId h
  rw [← List.flatMap_append]
  exact (Timeline.filter_and_not_perm hsub _).flatMap_right inspectionEvents

/-- The events that the view reads and those it does not are the whole timeline. -/
theorem history_perm (asset : Asset) (limit : Nat) :
    (collectedHistory store organizationId asset limit
      ++ unreadHistory store organizationId asset limit).Perm
        (completeHistory store organizationId asset) := by
  obtain ⟨before, after, hsources⟩ := exists_historySources store organizationId asset
  have hall : ∀ workOrders,
      (historySources store organizationId asset workOrders).flatMap Source.all
        = before.flatMap Source.all
          ++ (((inspectionCompletions store organizationId).filter (inspects workOrders)).flatMap
              inspectionEvents ++ after.flatMap Source.all) := by
    intro workOrders
    rw [hsources, List.flatMap_append, List.flatMap_cons, Source.all, List.flatMap_map]
  have hread := Timeline.flatMap_read_unread_perm limit (historySources store organizationId asset
    (workOrderRows store organizationId asset limit))
  rw [hall] at hread
  rw [collectedHistory, unreadHistory, completeHistory, hall, ← List.append_assoc]
  refine (hread.append_right _).trans ?_
  -- what the fifth query misses is moved beside what it reads
  rw [List.append_assoc, List.append_assoc]
  refine List.Perm.append_left _ ?_
  refine (List.perm_append_comm.append_left _).trans ?_
  rw [← List.append_assoc]
  exact (inspections_perm store organizationId asset limit).append_right _

theorem fleet_perm (assetId : Option UUID) (limit : Nat) :
    (collectedFleet store organizationId assetId limit
      ++ unreadFleet store organizationId assetId limit).Perm
        (completeFleet store organizationId assetId) :=
  Timeline.flatMap_read_unread_perm limit _

theorem planEvents_perm (planId : UUID) (limit : Nat) :
    (readPlanEvents store planId limit
      ++ older AuditRow.createdAt (limit * 3) (store.auditLog.select (queriesPlan planId))).Perm
      (store.auditLog.select (queriesPlan planId)) :=
  Timeline.latest_older_perm _

theorem filter_queriesPlan (planId : UUID) :
    (store.auditLog.select (queriesPlan planId)).filter (aboutPlan planId)
      = store.auditLog.select (aboutPlan planId) := by
  show (store.auditLog.rows.filter _).filter _ = _
  rw [List.filter_filter]
  refine List.filter_congr fun e _ => ?_
  rw [aboutPlan, queriesPlan]
  cases e.event.entityType = "Plan" && e.event.entityId = some planId with
  | true => rfl
  | false =>
    cases ["PlanFeature", "PlanLimit"].contains e.event.entityType with
    | true => exact Bool.and_true _
    | false => rfl

theorem take_readPlanEvents (planId : UUID) (limit : Nat) :
    ((readPlanEvents store planId limit).filter (aboutPlan planId)).take limit
      = latest AuditRow.createdAt limit
          ((readPlanEvents store planId limit).filter (aboutPlan planId)) := by
  have hsorted : ((readPlanEvents store planId limit).filter (aboutPlan planId)).Pairwise
      fun a b => b.createdAt ≤ a.createdAt :=
    (Timeline.pairwise_latest _).sublist List.filter_sublist
  rw [latest, Timeline.newestFirst_eq_self hsorted]

end Splits

/-! ## The windows -/

/-- The matching events of the asset that the view does not read are covered by those it does. -/
def HistoryCovered (store : TimelineStore) (organizationId : UUID) (asset : Asset) (limit : Nat)
    (eventType : Option String) (dateFrom dateTo : Option DateTime) : Prop :=
  Covered AssetHistoryEventResponse.occurredAt limit
    ((collectedHistory store organizationId asset limit).filter
      (matchesHistory eventType dateFrom dateTo))
    ((unreadHistory store organizationId asset limit).filter
      (matchesHistory eventType dateFrom dateTo))

def FleetCovered (store : TimelineStore) (organizationId : UUID) (assetId : Option UUID)
    (eventType : Option String) (limit : Nat) (dateFrom dateTo : Option DateTime) : Prop :=
  Covered OperationalTimelineEvent.occurredAt limit
    ((collectedFleet store organizationId assetId limit).filter
      (matchesFleet eventType dateFrom dateTo))
    ((unreadFleet store organizationId assetId limit).filter
      (matchesFleet eventType dateFrom dateTo))

/-- No row about the plan is past the first `limit * 3` of the query, or `limit` of those are about
the plan. -/
def PlanCovered (store : TimelineStore) (planId : UUID) (limit : Nat) : Prop :=
  (∀ e ∈ older AuditRow.createdAt (limit * 3) (store.auditLog.select (queriesPlan planId)),
      aboutPlan planId e = false) ∨
    limit ≤ (readPlanEvents store planId limit).countP (aboutPlan planId)

theorem planCovered_iff (store : TimelineStore) (planId : UUID) (limit : Nat) :
    Covered AuditRow.createdAt limit
      ((readPlanEvents store planId limit).filter (aboutPlan planId))
      ((older AuditRow.createdAt (limit * 3) (store.auditLog.select (queriesPlan planId))).filter
        (aboutPlan planId)) ↔ PlanCovered store planId limit := by
  constructor
  · intro hcovered
    by_cases hnone : ∀ e ∈ older AuditRow.createdAt (limit * 3)
        (store.auditLog.select (queriesPlan planId)), aboutPlan planId e = false
    · exact Or.inl hnone
    · obtain ⟨e, he⟩ := not_forall.1 hnone
      obtain ⟨he, habout⟩ := Classical.not_imp.1 he
      have hcount := hcovered e (List.mem_filter.2 ⟨he, by simpa using habout⟩)
      refine Or.inr ?_
      rw [List.countP_eq_length_filter]
      exact hcount.trans List.countP_le_length
  · rintro (hnone | hcount) e he
    · obtain ⟨he, habout⟩ := List.mem_filter.1 he
      rw [hnone e he] at habout
      cases habout
    · obtain ⟨he, -⟩ := List.mem_filter.1 he
      have hall : ((readPlanEvents store planId limit).filter (aboutPlan planId)).countP
          (fun c => e.createdAt ≤ c.createdAt)
            = ((readPlanEvents store planId limit).filter (aboutPlan planId)).length := by
        rw [List.countP_eq_length]
        intro c hc
        exact decide_eq_true (Timeline.le_of_mem_older (List.mem_of_mem_filter hc) he)
      rw [hall, ← List.countP_eq_length_filter]
      exact hcount

variable {store : TimelineStore} {organizationId : UUID} {limit : Nat}

theorem historyCovered_of_few {asset : Asset}
    (hworkOrders : (assetWorkOrders store organizationId asset).length ≤ limit)
    (hfew : ∀ s ∈ historySources store organizationId asset
      (workOrderRows store organizationId asset limit), s.length ≤ limit)
    (eventType : Option String) (dateFrom dateTo : Option DateTime) :
    HistoryCovered store organizationId asset limit eventType dateFrom dateTo := by
  have hread : ∀ row, inspects (assetWorkOrders store organizationId asset) row
      = inspects (workOrderRows store organizationId asset limit) row := by
    intro row
    have hperm : (workOrderRows store organizationId asset limit).Perm
        (assetWorkOrders store organizationId asset) := by
      rw [workOrderRows, latest, List.take_of_length_le]
      · exact Timeline.perm_newestFirst _
      · rw [(Timeline.perm_newestFirst _).length_eq]
        exact hworkOrders
    exact (hperm.any_eq).symm
  have hnone : unreadHistory store organizationId asset limit = [] := by
    rw [unreadHistory, Timeline.flatMap_unread_eq_nil hfew, List.nil_append,
      List.flatMap_eq_nil_iff]
    intro row hrow
    obtain ⟨-, hrow⟩ := List.mem_filter.1 hrow
    rw [hread row] at hrow
    simp at hrow
  intro e he
  rw [hnone] at he
  cases he

theorem fleetCovered_of_few {assetId : Option UUID}
    (hfew : ∀ s ∈ fleetSources store organizationId assetId, s.length ≤ limit)
    (eventType : Option String) (dateFrom dateTo : Option DateTime) :
    FleetCovered store organizationId assetId eventType limit dateFrom dateTo := by
  intro e he
  rw [unreadFleet, Timeline.flatMap_unread_eq_nil hfew] at he
  cases he

theorem history_window_iff (store : TimelineStore) (organizationId assetId : UUID) (asset : Asset)
    (limit : Nat) (eventType : Option String) (dateFrom dateTo : Option DateTime)
    (hasset : store.db.getAsset organizationId assetId = .ok asset) :
    (∃ response, getAssetHistory store organizationId assetId limit eventType dateFrom dateTo
          = .ok response ∧
        IsWindow AssetHistoryEventResponse.occurredAt limit
          ((completeHistory store organizationId asset).filter
            (matchesHistory eventType dateFrom dateTo)) response.events) ↔
      HistoryCovered store organizationId asset limit eventType dateFrom dateTo := by
  refine Iff.trans ?_ (Timeline.isWindow_filter_iff (history_perm store organizationId asset limit)
    (matchesHistory eventType dateFrom dateTo))
  rw [getAssetHistory, hasset]
  constructor
  · rintro ⟨response, hresponse, hwindow⟩
    cases hresponse
    exact hwindow
  · intro hwindow
    exact ⟨_, rfl, hwindow⟩

theorem fleet_window_iff (store : TimelineStore) (organizationId : UUID) (assetId : Option UUID)
    (eventType : Option String) (limit : Nat) (dateFrom dateTo : Option DateTime) :
    IsWindow OperationalTimelineEvent.occurredAt limit
        ((completeFleet store organizationId assetId).filter
          (matchesFleet eventType dateFrom dateTo))
        (getFleetTimeline store organizationId assetId eventType limit dateFrom dateTo) ↔
      FleetCovered store organizationId assetId eventType limit dateFrom dateTo :=
  Timeline.isWindow_filter_iff (fleet_perm store organizationId assetId limit)
    (matchesFleet eventType dateFrom dateTo)

theorem planAudit_window_iff (store : TimelineStore) (planId : UUID) (plan : Plan) (limit : Nat)
    (hplan : getPlan store.db planId = .ok plan) :
    (∃ events, listPlanAuditEvents store planId limit = .ok events ∧
        IsWindow AuditRow.createdAt limit (store.auditLog.select (aboutPlan planId)) events) ↔
      PlanCovered store planId limit := by
  refine Iff.trans ?_ ((Timeline.isWindow_filter_iff (planEvents_perm store planId limit)
    (aboutPlan planId)).trans (planCovered_iff store planId limit))
  rw [filter_queriesPlan, ← take_readPlanEvents, listPlanAuditEvents, hplan]
  constructor
  · rintro ⟨events, hevents, hwindow⟩
    cases hevents
    exact hwindow
  · intro hwindow
    exact ⟨_, rfl, hwindow⟩

/-- **WINDOWS ON THE TIMELINE**: each of the three views answers with the `limit` latest matching
events of its whole timeline exactly when the matching events it has not read are covered. -/
theorem views_window_iff (store : TimelineStore) (organizationId : UUID) (limit : Nat)
    (eventType : Option String) (dateFrom dateTo : Option DateTime) :
    (∀ assetId asset, store.db.getAsset organizationId assetId = .ok asset →
        ((∃ response, getAssetHistory store organizationId assetId limit eventType dateFrom dateTo
              = .ok response ∧
            IsWindow AssetHistoryEventResponse.occurredAt limit
              ((completeHistory store organizationId asset).filter
                (matchesHistory eventType dateFrom dateTo)) response.events) ↔
          HistoryCovered store organizationId asset limit eventType dateFrom dateTo)) ∧
    (∀ assetId : Option UUID,
      IsWindow OperationalTimelineEvent.occurredAt limit
          ((completeFleet store organizationId assetId).filter
            (matchesFleet eventType dateFrom dateTo))
          (getFleetTimeline store organizationId assetId eventType limit dateFrom dateTo) ↔
        FleetCovered store organizationId assetId eventType limit dateFrom dateTo) ∧
    (∀ planId plan, getPlan store.db planId = .ok plan →
        ((∃ events, listPlanAuditEvents store planId limit = .ok events ∧
            IsWindow AuditRow.createdAt limit (store.auditLog.select (aboutPlan planId)) events) ↔
          PlanCovered store planId limit)) := by
  refine ⟨?_, ?_, ?_⟩
  · intro assetId asset hasset
    exact history_window_iff store organizationId assetId asset limit eventType dateFrom dateTo
      hasset
  · intro assetId
    exact fleet_window_iff store organizationId assetId eventType limit dateFrom dateTo
  · intro planId plan hplan
    exact planAudit_window_iff store planId plan limit hplan

/-- A row of the log about an item of a plan. -/
def itemRow (id : UUID) (createdAt : DateTime) (planId : UUID) : AuditRow where
  id
  event := ⟨1, none, "platform.plan_feature.created", "PlanFeature", some id⟩
  createdAt
  eventMetadata := some [("plan_id", .str (toString planId))]

/-- A drone that flew twice, and a log whose latest rows are about another plan. -/
def busyStore : TimelineStore where
  db :=
    { assets := .single { id := 3, organizationId := 1, assetType := AssetType.drone }
      flights := ⟨[{ id := 10, organizationId := 1, assetId := 3, flownAt := 1,
                      durationMinutes := 20 },
                    { id := 11, organizationId := 1, assetId := 3, flownAt := 2,
                      durationMinutes := 20 }], by decide⟩
      plans := .single { id := 8, code := "PRO" }
      auditEvents := [21, 22, 23, 24].map fun id =>
        ⟨1, none, "platform.plan_feature.created", "PlanFeature", some id⟩ }
  auditLog := ⟨[itemRow 21 1 8, itemRow 22 2 9, itemRow 23 3 9, itemRow 24 4 9], by decide⟩
  log := rfl

/-- With room for every row, the views show the whole timeline. -/
theorem busyStore_windows :
    (∃ response, getAssetHistory busyStore 1 3 50 none none (some 2) = .ok response ∧
      IsWindow AssetHistoryEventResponse.occurredAt 50
        ((completeHistory busyStore 1
          { id := 3, organizationId := 1, assetType := AssetType.drone }).filter
            (matchesHistory none none (some 2))) response.events) ∧
    IsWindow OperationalTimelineEvent.occurredAt 50
      ((completeFleet busyStore 1 none).filter (matchesFleet none none (some 2)))
      (getFleetTimeline busyStore 1 none none 50 none (some 2)) ∧
    ∃ events, listPlanAuditEvents busyStore 8 50 = .ok events ∧
      IsWindow AuditRow.createdAt 50 (busyStore.auditLog.select (aboutPlan 8)) events := by
  obtain ⟨hhistory, hfleet, hplan⟩ := views_window_iff busyStore 1 50 none none (some 2)
  refine ⟨(hhistory 3 _ rfl).2 (historyCovered_of_few (by decide) (by decide) _ _ _),
    (hfleet none).2 (fleetCovered_of_few (by decide) _ _ _), (hplan 8 _ rfl).2 ?_⟩
  exact Or.inl fun e he => by cases he

/-- With a `limit` of 1, the flight before the `date_to` is not read, and neither is the row of the
log about the plan. -/
theorem busyStore_not_windows :
    (∃ response, getAssetHistory busyStore 1 3 1 none none (some 2) = .ok response ∧
      ¬IsWindow AssetHistoryEventResponse.occurredAt 1
        ((completeHistory busyStore 1
          { id := 3, organizationId := 1, assetType := AssetType.drone }).filter
            (matchesHistory none none (some 2))) response.events) ∧
    ¬IsWindow OperationalTimelineEvent.occurredAt 1
      ((completeFleet busyStore 1 none).filter (matchesFleet none none (some 2)))
      (getFleetTimeline busyStore 1 none none 1 none (some 2)) ∧
    ∃ events, listPlanAuditEvents busyStore 8 1 = .ok events ∧
      ¬IsWindow AuditRow.createdAt 1 (busyStore.auditLog.select (aboutPlan 8)) events := by
  refine ⟨⟨_, rfl, fun h => ?_⟩, fun h => ?_, ⟨_, rfl, fun h => ?_⟩⟩
  · exact absurd h.length_eq (by decide)
  · exact absurd h.length_eq (by decide)
  · exact absurd h.length_eq (by decide)

end HistoryWindows
end AeroComply
