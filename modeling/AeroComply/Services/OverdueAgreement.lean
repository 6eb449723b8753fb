import AeroComply.Services.ControlCenter
import AeroComply.Services.MaintenanceDue
import AeroComply.Services.Tat

/-!
# OverdueAgreement — three notions of an overdue work order

The turnaround status calls a cancelled work order DELAYED.  The maintenance signals know
two of the statuses of an open work order, do not look at `deleted_at`, and are lost for
an asset that carries a battery.  The summary leaves nothing out.
`overdue_notions_agree_iff` says where the three agree.
-/

namespace AeroComply

open Relational (Table)

namespace OverdueAgreement

open ControlCenterService (workOrderItems overdueSince)
open ProactiveIntelligenceService (day evaluateMaintenanceThresholds workOrderSignal assetHours)
open TatService (fleetTats calculateTatForWorkOrder)

section Statement

variable (py : Interpreter) (fl : ℚ → ℚ) (db : Database) (now : DateTime) (organizationId : UUID)

/-- The due date of the work order lies before today. -/
def PastDue (now : DateTime) (wo : WorkOrder) : Prop :=
  ∃ dueAt, wo.dueAt = some dueAt ∧ day dueAt < day now

/-- Neither deleted, nor completed, closed or cancelled. -/
def Open (wo : WorkOrder) : Prop :=
  wo.deletedAt = none ∧ wo.status ≠ .completed ∧ wo.status ≠ .closed ∧ wo.status ≠ .cancelled

/-- `get_fleet_tat_status` counts the work order as DELAYED. -/
def ReportedDelayed (wo : WorkOrder) : Prop :=
  ∃ tat ∈ fleetTats db now organizationId, tat.workOrderId = wo.id ∧ tat.status = .delayed

/-- `get_summary` has an item that calls the work order overdue. -/
def TreatedAsOverdue (wo : WorkOrder) : Prop :=
  ∃ item ∈ workOrderItems db now organizationId, item.id = [.str "wo-", .uuid wo.id] ∧
    ∃ due, item.reason
      = [.str ("Work order is " ++ wo.status.value), .str ", overdue since ", .date due]

def overdueKey (asset : Asset) (wo : WorkOrder) : String :=
  "maint_overdue:" ++ py.uuidText asset.id ++ ":" ++ py.uuidText wo.id

/-- The evaluator returns, with that signal. -/
def SignalledOverdue (asset : Asset) (wo : WorkOrder) : Prop :=
  ∃ items, evaluateMaintenanceThresholds py fl db now organizationId asset = .ok items ∧
    ∃ item ∈ items, item.signalKey = overdueKey py asset wo

/-- The asset of the work order is live. -/
structure LinkedTo (wo : WorkOrder) (asset : Asset) : Prop where
  row : asset ∈ db.assets.rows
  org : asset.organizationId = organizationId
  live : asset.deletedAt = none
  link : wo.assetId = some asset.id

/-- The three report the work order exactly when it is open and past due. -/
structure OverdueAgrees (wo : WorkOrder) : Prop where
  delayed : ReportedDelayed db now organizationId wo ↔ Open wo ∧ PastDue now wo
  treated : TreatedAsOverdue db now organizationId wo ↔ Open wo ∧ PastDue now wo
  signalled : ∀ asset, LinkedTo db organizationId wo asset →
    (SignalledOverdue py fl db now organizationId asset wo ↔ Open wo ∧ PastDue now wo)

/-- The statuses that the signals look at. -/
def Monitored (status : WorkOrderStatus) : Prop :=
  status.value ∈ ["OPEN", "IN_PROGRESS", "AWAITING_PARTS", "SCHEDULED"]

def CarriesBattery (asset : Asset) : Prop :=
  ∃ b ∈ db.batteries.rows, b.organizationId = organizationId ∧ b.assetId = some asset.id

/-- The work order is not cancelled, unless it is deleted; and on a live asset it is open exactly
when its status is one that the signals look at and the asset carries no battery. -/
structure Aligned (wo : WorkOrder) : Prop where
  cancelled : wo.status = .cancelled → wo.deletedAt ≠ none
  monitored : ∀ asset, LinkedTo db organizationId wo asset →
    (Monitored wo.status ∧ ¬CarriesBattery db organizationId asset ↔ Open wo)

/-- The ids of the work orders have texts of their own. -/
def DistinctTexts : Prop :=
  ∀ w ∈ db.workOrders.rows, ∀ w' ∈ db.workOrders.rows,
    py.uuidText w.id = py.uuidText w'.id → w.id = w'.id

end Statement

section Reports

variable {py : Interpreter} {fl : ℚ → ℚ} {db : Database} {now : DateTime} {organizationId : UUID}
  {asset : Asset} {wo : WorkOrder}

theorem reportedDelayed_iff (now : DateTime) (hwo : wo ∈ db.workOrders.rows)
    (horg : wo.organizationId = organizationId) :
    ReportedDelayed db now organizationId wo ↔
      wo.deletedAt = none ∧ PastDue now wo ∧ wo.status ≠ .completed ∧ wo.status ≠ .closed := by
  constructor
  · rintro ⟨tat, htat, hid, hstatus⟩
    obtain ⟨w, hw, rfl⟩ := List.mem_map.1 htat
    obtain ⟨hrow, hlive⟩ := Table.mem_select.1 hw
    rw [TatService.calculateTatForWorkOrder_workOrderId] at hid
    have hsame : w = wo := Table.eq_of_key_eq hrow hwo hid
    subst hsame
    simp only [Bool.and_eq_true, decide_eq_true_eq, Option.isNone_iff_eq_none] at hlive
    exact ⟨hlive.2, TatService.status_eq_delayed_iff.1 hstatus⟩
  · rintro ⟨hlive, hlate⟩
    refine ⟨calculateTatForWorkOrder now wo, List.mem_map_of_mem (Table.mem_select.2 ⟨hwo, ?_⟩),
      TatService.calculateTatForWorkOrder_workOrderId now wo,
      TatService.status_eq_delayed_iff.2 hlate⟩
    simp [horg, hlive]

theorem treatedAsOverdue_iff (hwo : wo ∈ db.workOrders.rows)
    (horg : wo.organizationId = organizationId) :
    TreatedAsOverdue db now organizationId wo ↔ Open wo ∧ PastDue now wo := by
  constructor
  · rintro ⟨item, hitem, hid, due, hreason⟩
    obtain ⟨w, hw, hsome⟩ := List.mem_filterMap.1 hitem
    obtain ⟨hitemId, hitemReason⟩ := ControlCenterService.workOrderItem_eq_some hsome
    obtain ⟨hrow, _, hopen⟩ := ControlCenterService.mem_openWorkOrders.1 hw
    have hkey : w.id = wo.id := by
      rw [hid] at hitemId
      simpa using hitemId.symm
    have hsame : w = wo := Table.eq_of_key_eq hrow hwo hkey
    subst hsame
    have hsince := ControlCenterService.workOrderReason_eq_iff.1 (hitemReason.symm.trans hreason)
    obtain ⟨dueAt, hdueAt, hlate, _⟩ := ControlCenterService.overdueSince_eq_some.1 hsince
    exact ⟨hopen, dueAt, hdueAt, hlate⟩
  · rintro ⟨hopen, dueAt, hdueAt, hlate⟩
    have hoverdue : overdueSince now wo = some (day dueAt) :=
      ControlCenterService.overdueSince_eq_some.2 ⟨dueAt, hdueAt, hlate, rfl⟩
    obtain ⟨item, hitem⟩ := ControlCenterService.workOrderItem_of_overdue db organizationId
      hoverdue
    obtain ⟨hid, hreason⟩ := ControlCenterService.workOrderItem_eq_some hitem
    refine ⟨item, List.mem_filterMap.2 ⟨wo, ?_, hitem⟩, hid, day dueAt, ?_⟩
    · exact ControlCenterService.mem_openWorkOrders.2 ⟨hwo, horg, hopen⟩
    · exact hreason.trans (ControlCenterService.workOrderReason_eq_iff.2 hoverdue)

/-- The two kinds of text differ in their seventh letter. -/
theorem maint_overdue_ne (s t : String) : "maint_overdue:" ++ s ≠ "maint_due_soon:" ++ t := by
  intro h
  have hlists := congrArg (fun s : String => s.toList.drop 6) h
  have hoverdue : "maint_overdue:".toList = "maint_".toList ++ 'o' :: "verdue:".toList := by decide
  have hsoon : "maint_due_soon:".toList = "maint_".toList ++ 'd' :: "ue_soon:".toList := by decide
  simp [hoverdue, hsoon] at hlists

theorem signal_iff {w : WorkOrder} :
    (∃ item, workOrderSignal py now asset w = some item ∧ item.signalKey = overdueKey py asset wo) ↔
      PastDue now w ∧ py.uuidText w.id = py.uuidText wo.id := by
  have hkey : overdueKey py asset w = overdueKey py asset wo ↔
      py.uuidText w.id = py.uuidText wo.id := String.append_right_inj _
  have hsoon : "maint_due_soon:" ++ py.uuidText asset.id ++ ":" ++ py.uuidText w.id
      ≠ overdueKey py asset wo := by
    intro h
    have hleft : "maint_due_soon:" ++ py.uuidText asset.id ++ ":" ++ py.uuidText w.id
        = "maint_due_soon:" ++ (py.uuidText asset.id ++ (":" ++ py.uuidText w.id)) :=
      String.append_assoc.trans String.append_assoc
    have hright : overdueKey py asset wo
        = "maint_overdue:" ++ (py.uuidText asset.id ++ (":" ++ py.uuidText wo.id)) :=
      String.append_assoc.trans String.append_assoc
    exact maint_overdue_ne _ _ (hright.symm.trans (h.symm.trans hleft))
  rw [PastDue, workOrderSignal]
  cases w.dueAt with
  | none => simp
  | some dueAt =>
    simp only [Option.some.injEq, exists_eq_left']
    by_cases hlate : day dueAt - day now < 0
    · rw [if_pos hlate]
      simp only [Option.some.injEq, exists_eq_left', sub_neg.1 hlate, true_and]
      exact hkey
    · have hnot : ¬day dueAt < day now := mt sub_neg.2 hlate
      rw [if_neg hlate]
      by_cases hweek : day dueAt - day now ≤ 7
      · rw [if_pos hweek]
        simp only [Option.some.injEq, exists_eq_left', hnot, false_and, iff_false]
        exact hsoon
      · rw [if_neg hweek]
        simp [hnot]

/-- What the evaluator signals of a work order of a live asset. -/
theorem signalledOverdue_iff (fl : ℚ → ℚ) (now : DateTime) (htexts : DistinctTexts py db)
    (hwo : wo ∈ db.workOrders.rows)
    (horg : wo.organizationId = organizationId) (hlinked : LinkedTo db organizationId wo asset) :
    SignalledOverdue py fl db now organizationId asset wo ↔
      (Monitored wo.status ∧ ¬CarriesBattery db organizationId asset) ∧ PastDue now wo := by
  obtain ⟨hasset, hassetOrg, hassetLive, hlink⟩ := hlinked
  have hget : db.getAsset organizationId asset.id = .ok asset := by
    refine oneOrRaise_of_key hasset (by simp [hassetOrg, hassetLive]) fun x _ hx => ?_
    simp only [Bool.and_eq_true, decide_eq_true_eq] at hx
    exact hx.1.1
  obtain ⟨u, hu⟩ := MaintenanceService.getUtilization_of_live fl hget none
  have hbatteries : (db.batteries.select fun b => decide (b.organizationId = organizationId) &&
      decide (b.assetId = some asset.id)).isEmpty = false ↔
      CarriesBattery db organizationId asset := by
    rw [CarriesBattery, List.isEmpty_eq_false_iff_exists_mem]
    simp [Table.mem_select]
  rw [SignalledOverdue, evaluateMaintenanceThresholds, assetHours, hu]
  constructor
  · rintro ⟨items, hitems, item, hitem, hkey⟩
    obtain ⟨_, _, hitems⟩ := bind_eq_ok.1 hitems
    obtain ⟨_, hnone, hitems⟩ := bind_eq_ok.1 hitems
    cases pure_eq_ok.1 hitems
    obtain ⟨w, hw, hsignal⟩ := List.mem_filterMap.1 hitem
    obtain ⟨hrow, hselected⟩ := Table.mem_select.1 hw
    obtain ⟨hlate, htext⟩ := signal_iff.1 ⟨item, hsignal, hkey⟩
    have hsame : w = wo := Table.eq_of_key_eq hrow hwo (htexts w hrow wo hwo htext)
    subst hsame
    simp only [Bool.and_eq_true, decide_eq_true_eq, List.contains_iff_mem] at hselected
    exact ⟨⟨hselected.2, mt hbatteries.2 (raiseIf_eq_ok.1 hnone)⟩, hlate⟩
  · rintro ⟨⟨hmonitored, hnone⟩, hlate⟩
    obtain ⟨item, hsignal, hkey⟩ := signal_iff.2 ⟨hlate, rfl⟩
    refine ⟨_, bind_eq_ok.2 ⟨_, rfl, bind_eq_ok.2 ⟨(), raiseIf_eq_ok.2 (mt hbatteries.1 hnone), rfl⟩⟩,
      item, List.mem_filterMap.2 ⟨wo, Table.mem_select.2 ⟨hwo, ?_⟩, hsignal⟩, hkey⟩
    simp only [Bool.and_eq_true, decide_eq_true_eq, List.contains_iff_mem]
    exact ⟨⟨horg, hlink⟩, hmonitored⟩

/-- **THREE NOTIONS OF OVERDUE** agree on every work order of the organization exactly when those
past due are aligned. -/
theorem overdue_notions_agree_iff (fl : ℚ → ℚ) (htexts : DistinctTexts py db) :
    (∀ wo ∈ db.workOrders.rows, wo.organizationId = organizationId →
        OverdueAgrees py fl db now organizationId wo) ↔
      ∀ wo ∈ db.workOrders.rows, wo.organizationId = organizationId → PastDue now wo →
        Aligned db organizationId wo := by
  refine forall_congr' fun wo => forall_congr' fun hwo => forall_congr' fun horg => ?_
  have hdelayed := reportedDelayed_iff now hwo horg
  have hsignalled := fun asset (h : LinkedTo db organizationId wo asset) =>
    signalledOverdue_iff fl now htexts hwo horg h
  constructor
  · intro hagrees hlate
    refine ⟨fun hcancelled hlive => ?_, fun asset hlinked => ?_⟩
    · have hreported : ReportedDelayed db now organizationId wo :=
        hdelayed.2 ⟨hlive, hlate, by simp [hcancelled], by simp [hcancelled]⟩
      exact (hagrees.delayed.1 hreported).1.2.2.2 hcancelled
    · have hiff := (hsignalled asset hlinked).symm.trans (hagrees.signalled asset hlinked)
      simpa only [hlate, and_true] using hiff
  · intro haligned
    refine ⟨?_, treatedAsOverdue_iff hwo horg, fun asset hlinked => ?_⟩
    · rw [hdelayed]
      constructor
      · rintro ⟨hlive, hlate, hcompleted, hclosed⟩
        exact ⟨⟨hlive, hcompleted, hclosed, fun h => (haligned hlate).cancelled h hlive⟩, hlate⟩
      · rintro ⟨⟨hlive, hcompleted, hclosed, _⟩, hlate⟩
        exact ⟨hlive, hlate, hcompleted, hclosed⟩
    · rw [hsignalled asset hlinked]
      exact and_congr_left fun hlate => (haligned hlate).monitored asset hlinked

end Reports

def dueFirstDay (status : WorkOrderStatus) : WorkOrder where
  id := 0
  organizationId := 0
  assetId := some 0
  status
  dueAt := some 0

/-- It is the only one, of a live asset. -/
def oneWorkOrder (status : WorkOrderStatus) : Database where
  assets := Table.single { id := 0, organizationId := 0 }
  workOrders := Table.single (dueFirstDay status)

/-- On the second day an open one is overdue for all three. -/
theorem open_workOrder_agrees :
    DistinctTexts .ascii (oneWorkOrder .open) ∧
      ∀ wo ∈ (oneWorkOrder .open).workOrders.rows, wo.organizationId = 0 →
        OverdueAgrees .ascii id (oneWorkOrder .open) 86400000000 0 wo := by
  have htexts : DistinctTexts .ascii (oneWorkOrder .open) := by
    intro w hw w' hw' _
    rw [List.mem_singleton.1 hw, List.mem_singleton.1 hw']
  refine ⟨htexts, (overdue_notions_agree_iff id htexts).2 ?_⟩
  intro wo hwo _ _
  cases List.mem_singleton.1 hwo
  refine ⟨by simp [dueFirstDay], fun asset _ => ?_⟩
  have hnone : ¬CarriesBattery (oneWorkOrder .open) 0 asset := by
    rintro ⟨b, hb, _⟩
    cases hb
  simp [Monitored, Open, WorkOrderStatus.value, dueFirstDay, hnone]

/-- A cancelled one is DELAYED, and overdue for nobody else. -/
theorem cancelled_workOrder_delayed :
    ¬∀ wo ∈ (oneWorkOrder .cancelled).workOrders.rows, wo.organizationId = 0 →
      OverdueAgrees .ascii id (oneWorkOrder .cancelled) 86400000000 0 wo := by
  intro h
  have hrow : dueFirstDay .cancelled ∈ (oneWorkOrder .cancelled).workOrders.rows :=
    List.mem_singleton_self _
  have hdelayed : ReportedDelayed (oneWorkOrder .cancelled) 86400000000 0 (dueFirstDay .cancelled) :=
    (reportedDelayed_iff _ hrow rfl).2 ⟨rfl, ⟨0, rfl, by decide⟩, by decide, by decide⟩
  exact ((h _ hrow rfl).delayed.1 hdelayed).1.2.2.2 rfl

end OverdueAgreement
end AeroComply
