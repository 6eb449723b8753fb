import AeroComply.Services.AssetReadiness

/-!
# FinishedWork — the work orders that the readiness of an asset looks at

The MAINTENANCE dimension of `get_asset_readiness` counts the critical work orders among those that
`get_asset_maintenance` lists as open.  That list has every live work order of the asset, whatever
its status; only the test for overdue work leaves the COMPLETED ones out.

`maintenance_independent_iff` says when the finished work orders make no difference.
-/

namespace AeroComply

namespace AssetService

/-- The work is over: COMPLETED, CLOSED or CANCELLED. -/
def isFinished (w : WorkOrder) : Bool :=
  w.status = .completed || w.status = .closed || w.status = .cancelled

def isCritical (w : WorkOrder) : Bool := w.priority = "CRITICAL"

/-- What `has_overdue` looks for. -/
def isOverdue (w : WorkOrder) : Bool := w.status ≠ .completed && w.priority = "CRITICAL"

/-- The live work orders of the asset. -/
def workOrdersOf (db : Database) (organizationId assetId : UUID) : List WorkOrder :=
  db.workOrders.select fun w =>
    w.assetId = some assetId && w.organizationId = organizationId && w.deletedAt.isNone

/-- The status and the blockers of the MAINTENANCE dimension. -/
def maintenanceReadiness (db : Database) (now : DateTime) (organizationId assetId : UUID) :
    Except Error (List (DimensionStatus × List String)) := do
  let response ← getAssetReadiness db now organizationId assetId
  pure ((response.dimensions.filter fun d => d.dimension = .maintenance).map
    fun d => (d.status, d.blockers))

/-- The database without some of its work orders. -/
def withoutWorkOrders (db : Database) (removed : WorkOrder → Bool) : Database :=
  { db with workOrders := db.workOrders.deleteWhere removed }

/-! ## What the dimension depends on -/

section Dimension

variable {db : Database} {now : DateTime} {org assetId : UUID}

/-- The texts of `n` critical work orders, with or without one that is overdue. -/
def blockersFor (n : Nat) (overdue : Bool) : List String :=
  (if n = 0 then [] else [toString n ++ " critical open maintenance work orders pending."]) ++
  (if overdue then ["Overdue maintenance accomplishment intervals detected."] else [])

/-- The blockers that some work orders give. -/
def blockersOfWork (workOrders : List WorkOrder) : List String :=
  blockersFor (workOrders.countP isCritical) (workOrders.any isOverdue)

theorem toString_inj {m n : Nat} (h : toString m = toString n) : m = n := by
  have hdigits : Nat.toDigits 10 m = Nat.toDigits 10 n := by
    rw [← Nat.toList_repr, ← Nat.toList_repr]
    exact congrArg String.toList h
  rw [← Nat.ofDigitChars_ten_toDigits (n := m), hdigits, Nat.ofDigitChars_ten_toDigits]

theorem blockersFor_ne {m n : Nat} {overdue overdue' : Bool} (hlt : m < n)
    (hoverdue : overdue' = true → overdue = true) :
    blockersFor m overdue' ≠ blockersFor n overdue := by
  intro h
  rw [blockersFor, blockersFor, if_neg (Nat.ne_of_gt (Nat.zero_lt_of_lt hlt))] at h
  by_cases hm : m = 0
  · -- one text less
    rw [if_pos hm] at h
    have hlength := congrArg List.length h
    cases overdue with
    | true => cases overdue' <;> simp at hlength
    | false =>
      cases overdue' with
      | true => cases hoverdue rfl
      | false => simp at hlength
  · rw [if_neg hm] at h
    have hhead := (List.cons.inj h).1
    rw [String.append_left_inj] at hhead
    exact Nat.ne_of_lt hlt (toString_inj hhead)

theorem maintenanceBlockers_eq {maintenance : AssetMaintenance}
    (h : getAssetMaintenance db org assetId = .ok maintenance) :
    maintenanceBlockers maintenance = blockersOfWork (workOrdersOf db org assetId) := by
  obtain ⟨_, _, h⟩ := bind_eq_ok.1 h
  cases h
  have hperm := List.perm_insertionSort (fun w w' : WorkOrder => w'.createdAt ≤ w.createdAt)
    (workOrdersOf db org assetId)
  rw [blockersOfWork, ← hperm.countP_eq isCritical, ← hperm.any_eq (f := isOverdue),
    List.countP_eq_length_filter, blockersFor]
  simp only [← List.isEmpty_iff_length_eq_zero]
  rfl

/-- **THE DIMENSION** is that of the live work orders of the asset. -/
theorem maintenanceReadiness_of_live (db : Database) (now : DateTime) {asset : Asset}
    (h : db.getAsset org assetId = .ok asset) :
    maintenanceReadiness db now org assetId =
      .ok [(blockedIf (blockersOfWork (workOrdersOf db org assetId)),
        blockersOfWork (workOrdersOf db org assetId))] := by
  obtain ⟨maintenance, hmaintenance⟩ :
      ∃ maintenance, getAssetMaintenance db org assetId = .ok maintenance := by
    rw [getAssetMaintenance, h]
    exact ⟨_, rfl⟩
  obtain ⟨compliance, hcompliance⟩ :
      ∃ compliance, getAssetCompliance db org assetId = .ok compliance := by
    rw [getAssetCompliance, h]
    exact ⟨_, rfl⟩
  rw [← maintenanceBlockers_eq hmaintenance, maintenanceReadiness, getAssetReadiness, h,
    ok_bind, hmaintenance, ok_bind, hcompliance]
  rfl

theorem maintenanceReadiness_of_gone (now : DateTime) {e : Error}
    (h : db.getAsset org assetId = .error e) :
    maintenanceReadiness db now org assetId = .error e := by
  rw [maintenanceReadiness, getAssetReadiness, h]
  rfl

theorem workOrdersOf_without (removed : WorkOrder → Bool) :
    workOrdersOf (withoutWorkOrders db removed) org assetId =
      (workOrdersOf db org assetId).filter fun w => !removed w :=
  Relational.Table.select_deleteWhere

end Dimension

/-! ## Work that is finished -/

section Finished

variable {db : Database} {org assetId : UUID}

variable {removed : WorkOrder → Bool} {workOrders : List WorkOrder}

theorem blockersOfWork_filter (h : ∀ w ∈ workOrders, removed w = true → isCritical w = false) :
    blockersOfWork (workOrders.filter fun w => !removed w) = blockersOfWork workOrders := by
  have hkept : ∀ w ∈ workOrders, isCritical w = true → (!removed w) = true := by
    intro w hw hcritical
    cases hr : removed w with
    | false => rfl
    | true =>
      rw [h w hw hr] at hcritical
      cases hcritical
  have hcount : (workOrders.filter fun w => !removed w).countP isCritical =
      workOrders.countP isCritical := by
    rw [List.countP_filter]
    refine List.countP_congr fun w hw => ?_
    rw [Bool.and_eq_true]
    exact and_iff_left_of_imp (hkept w hw)
  have hoverdue : (workOrders.filter fun w => !removed w).any isOverdue =
      workOrders.any isOverdue := by
    rw [List.any_filter, Bool.eq_iff_iff, List.any_eq_true, List.any_eq_true]
    refine exists_congr fun w => and_congr_right fun hw => ?_
    rw [Bool.and_eq_true]
    exact and_iff_right_of_imp fun ho => hkept w hw (Bool.and_eq_true_iff.1 ho).2
  rw [blockersOfWork, blockersOfWork, hcount, hoverdue]

theorem blockersOfWork_filter_ne {w : WorkOrder} (hw : w ∈ workOrders)
    (hremoved : removed w = true) (hcritical : isCritical w = true) :
    blockersOfWork (workOrders.filter fun w => !removed w) ≠ blockersOfWork workOrders := by
  refine blockersFor_ne ?_ fun hany => ?_
  · have hpos : 0 < (workOrders.filter removed).countP isCritical :=
      List.countP_pos_iff.2 ⟨w, List.mem_filter.2 ⟨hw, hremoved⟩, hcritical⟩
    rw [List.countP_eq_countP_filter_add workOrders isCritical removed]
    exact Nat.lt_add_of_pos_left hpos
  · obtain ⟨x, hx, hoverdue⟩ := List.any_eq_true.1 hany
    exact List.any_eq_true.2 ⟨x, List.mem_of_mem_filter hx, hoverdue⟩

/-- **FINISHED WORK DOES NOT COUNT** exactly when none of it was critical. -/
theorem maintenance_independent_iff (db : Database) (now : DateTime) (org assetId : UUID) :
    (∀ removed : WorkOrder → Bool,
        (∀ w ∈ db.workOrders.rows, removed w = true → isFinished w = true) →
        maintenanceReadiness (withoutWorkOrders db removed) now org assetId =
          maintenanceReadiness db now org assetId) ↔
      ((∃ asset, db.getAsset org assetId = .ok asset) →
        ∀ w ∈ workOrdersOf db org assetId, isFinished w = true → isCritical w = false) := by
  cases hasset : db.getAsset org assetId with
  | error e =>
    refine iff_of_true ?_ ?_
    · intro removed _
      rw [maintenanceReadiness_of_gone now hasset]
      exact maintenanceReadiness_of_gone now hasset
    · rintro ⟨_, hlive⟩
      cases hlive
  | ok asset =>
    have hsame : ∀ removed : WorkOrder → Bool,
        maintenanceReadiness (withoutWorkOrders db removed) now org assetId =
            maintenanceReadiness db now org assetId ↔
          blockersOfWork ((workOrdersOf db org assetId).filter fun w => !removed w) =
            blockersOfWork (workOrdersOf db org assetId) := by
      intro removed
      rw [maintenanceReadiness_of_live db now hasset,
        maintenanceReadiness_of_live (withoutWorkOrders db removed) now hasset,
        workOrdersOf_without]
      constructor
      · intro h
        exact congrArg Prod.snd (List.cons.inj (Except.ok.inj h)).1
      · intro h
        rw [h]
    constructor
    · intro hall _ w hw hfinished
      cases hcritical : isCritical w with
      | false => rfl
      | true =>
        have hequal := (hsame isFinished).1 (hall isFinished fun _ _ h => h)
        exact absurd hequal (blockersOfWork_filter_ne hw hfinished hcritical)
    · intro hnone removed hremoved
      refine (hsame removed).2 (blockersOfWork_filter fun w hw hr => ?_)
      exact hnone ⟨asset, rfl⟩ w hw (hremoved w (Relational.Table.mem_select.1 hw).1 hr)

end Finished

/-- An aircraft whose only work order, a critical one, is CLOSED. -/
def closedCritical : Database where
  assets := .single { id := 1, organizationId := 1 }
  workOrders := .single
    { id := 2, organizationId := 1, assetId := some 1, status := .closed, priority := "CRITICAL" }

/-- **FINISHED WORK BLOCKS**: the closed work order is counted as open, and as overdue. -/
theorem closedCritical_blocks :
    ¬∀ removed : WorkOrder → Bool,
      (∀ w ∈ closedCritical.workOrders.rows, removed w = true → isFinished w = true) →
      maintenanceReadiness (withoutWorkOrders closedCritical removed) 0 1 1 =
        maintenanceReadiness closedCritical 0 1 1 := by
  intro h
  have hready : maintenanceReadiness (withoutWorkOrders closedCritical fun _ => true) 0 1 1 =
      .ok [(.ready, [])] := by
    rfl
  have hblocked : maintenanceReadiness closedCritical 0 1 1 =
      .ok [(.blocked, ["1 critical open maintenance work orders pending.",
        "Overdue maintenance accomplishment intervals detected."])] := by
    rfl
  have hsame := h (fun _ => true) fun w hw _ => by
    rw [List.mem_singleton.1 hw]
    rfl
  rw [hready, hblocked] at hsame
  cases hsame

end AssetService
end AeroComply
