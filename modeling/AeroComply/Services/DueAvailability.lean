import AeroComply.Services.AssetLifecycle
import AeroComply.Services.PartWindows

/-!
# DueAvailability — deleted assets and the maintenance status of the parts they carried

`_usage_across_windows` calls `get_utilization` for every window it does not skip, and
`get_utilization` raises for an asset that is soft-deleted.  `soft_delete_asset` touches the asset
only: the rows of the parts that were on it stay, and so do the windows.

`status_available_iff` says which sequences of calls keep the status of every battery and component
available: those that delete no asset on which an evaluation walks a window.
-/

namespace AeroComply

open Relational (Table)

namespace DueAvailability

open DeletionService (softDeleteAsset)
open FlightService InstallationService MaintenanceService PartWindows

/-! ## When an evaluation goes through -/

section Evaluations

variable (fl : ℚ → ℚ) {db : Database} {org : UUID}

/-- The asset of every window that is not skipped can be read. -/
def Walkable (db : Database) (org : UUID) (windows : List InstallationWindow)
    (since : Option DateTime) : Prop :=
  ∀ w ∈ windows, isSkipped w since = false → ∃ asset, db.getAsset org w.assetId = .ok asset

theorem getUtilization_isOk_iff {assetId : UUID} {lo hi : Option DateTime} :
    (∃ u, getUtilization fl db org assetId lo hi = .ok u) ↔
      ∃ asset, db.getAsset org assetId = .ok asset := by
  constructor
  · rintro ⟨u, hu⟩
    exact totals_ok fl ((totals_eq_ok fl).2 ⟨u, hu, rfl⟩)
  · rintro ⟨asset, hasset⟩
    obtain ⟨u, hu, _⟩ := (totals_eq_ok fl).1 (totals_of_live fl hasset)
    exact ⟨u, hu⟩

variable {windows : List InstallationWindow}

theorem addWindows_isOk_iff {since : Option DateTime} :
    ∀ {acc : Int × Int}, (∃ x, addWindows fl db org since windows acc = .ok x) ↔
      Walkable db org windows since := by
  induction windows with
  | nil =>
    intro acc
    refine iff_of_true ⟨acc, rfl⟩ ?_
    intro w hw
    cases hw
  | cons w windows ih =>
    intro acc
    rw [addWindows, Walkable, List.forall_mem_cons]
    by_cases hskip : isSkipped w since = true
    · rw [if_pos hskip]
      refine ih.trans ⟨fun h => ⟨fun hwalk => ?_, h⟩, fun h => h.2⟩
      rw [hskip] at hwalk
      cases hwalk
    · rw [if_neg hskip]
      constructor
      · rintro ⟨x, hx⟩
        obtain ⟨u, hu, hx⟩ := bind_eq_ok.1 hx
        exact ⟨fun _ => (getUtilization_isOk_iff fl).1 ⟨u, hu⟩, ih.1 ⟨x, hx⟩⟩
      · rintro ⟨hlive, hrest⟩
        obtain ⟨u, hu⟩ := (getUtilization_isOk_iff fl).2 (hlive (Bool.of_not_eq_true hskip))
        obtain ⟨x, hx⟩ := ih.2 hrest
        exact ⟨x, bind_eq_ok.2 ⟨u, hu, hx⟩⟩

theorem usageAcrossWindows_isOk_iff {since : Option DateTime} :
    (∃ x, usageAcrossWindows fl db org windows since = .ok x) ↔ Walkable db org windows since := by
  rw [← addWindows_isOk_iff fl]
  constructor
  · rintro ⟨x, hx⟩
    obtain ⟨totals, htotals, _⟩ := bind_eq_ok.1 hx
    exact ⟨totals, htotals⟩
  · rintro ⟨totals, htotals⟩
    exact ⟨_, bind_eq_ok.2 ⟨totals, htotals, rfl⟩⟩

theorem Walkable.since (h : Walkable db org windows none) (since : Option DateTime) :
    Walkable db org windows since := by
  intro w hw hwalk
  refine h w hw (Bool.eq_false_iff.2 fun hskip => ?_)
  cases since with
  | none =>
    rw [hskip] at hwalk
    cases hwalk
  | some s =>
    rw [isSkipped] at hskip hwalk
    cases hr : w.removedAt with
    | none =>
      rw [hr] at hskip
      cases hskip
    | some removedAt =>
      rw [hr] at hskip hwalk
      exact of_decide_eq_false hwalk (le_trans (of_decide_eq_true hskip) (le_max_left _ _))

theorem evaluateForBattery_isOk_iff {battery : Battery} {requirement : MaintenanceRequirement} :
    (∃ item, evaluateForBattery fl db org battery requirement = .ok item) ↔
      Walkable db org (windowsOfBattery db org battery)
        ((lastDateForBattery db org requirement.id battery.id).map midnight) := by
  rw [← usageAcrossWindows_isOk_iff fl]
  constructor
  · rintro ⟨item, h⟩
    obtain ⟨x, hx, _⟩ := bind_eq_ok.1 h
    exact ⟨x, hx⟩
  · rintro ⟨x, hx⟩
    exact ⟨_, bind_eq_ok.2 ⟨x, hx, rfl⟩⟩

theorem evaluateForComponent_isOk_iff {component : Component}
    {requirement : MaintenanceRequirement} :
    (∃ item, evaluateForComponent fl db org component requirement = .ok item) ↔
      Walkable db org (windowsOfComponent db org component) none := by
  constructor
  · rintro ⟨item, h⟩
    obtain ⟨_, _, h⟩ := bind_eq_ok.1 h
    obtain ⟨x, hx, _⟩ := bind_eq_ok.1 h
    exact (usageAcrossWindows_isOk_iff fl).1 ⟨x, hx⟩
  · intro h
    obtain ⟨x, hx⟩ := (usageAcrossWindows_isOk_iff fl).2 (h.since
      ((lastDateForComponent db org requirement.id component.id).map midnight))
    obtain ⟨y, hy⟩ := (usageAcrossWindows_isOk_iff fl).2 h
    exact ⟨_, bind_eq_ok.2 ⟨x, hx, bind_eq_ok.2 ⟨y, hy, rfl⟩⟩⟩

/-- What an applicability names is a requirement of its organization. -/
def RequirementsKnown (db : Database) : Prop :=
  ∀ a ∈ db.requirementApplicabilities.rows,
    ∃ requirement, getRequirement db a.organizationId a.requirementId = .ok requirement

/-- The cut-offs at which the windows of a battery are walked. -/
def batteryCutoffs (db : Database) (b : Battery) : List (Option DateTime) :=
  (requirementIdsOfBattery db b.organizationId b.id).map fun requirementId =>
    (lastDateForBattery db b.organizationId requirementId b.id).map midnight

/-- The windows of a component are walked with no cut-off for each of its requirements. -/
def componentCutoffs (db : Database) (c : Component) : List (Option DateTime) :=
  (requirementIdsOfComponent db c.organizationId c.id).map fun _ => none

theorem batteryDue_isOk_iff (hknown : RequirementsKnown db) {b : Battery}
    (hb : b ∈ db.batteries.rows) :
    (∃ items, getMaintenanceDueForBattery fl db b.organizationId b.id = .ok items) ↔
      ∀ since ∈ batteryCutoffs db b, Walkable db b.organizationId
        (partWindows batteryStart (batteryPlacement db) b) since := by
  rw [getMaintenanceDueForBattery, getBattery_of_mem hb, ok_bind, mapM_isOk_iff, batteryCutoffs,
    List.forall_mem_map, ← windowsOfBattery_eq]
  refine forall₂_congr fun requirementId hid => ?_
  obtain ⟨a, ha, rfl⟩ := List.mem_map.1 hid
  obtain ⟨hrow, hfound⟩ := Table.mem_select.1 ha
  simp only [Bool.and_eq_true, decide_eq_true_eq] at hfound
  obtain ⟨requirement, hrequirement⟩ := hknown a hrow
  rw [hfound.1] at hrequirement
  rw [hrequirement, ok_bind, evaluateForBattery_isOk_iff, id_of_getRequirement hrequirement]

theorem componentDue_isOk_iff (hknown : RequirementsKnown db) {c : Component}
    (hc : c ∈ db.components.rows) :
    (∃ items, getMaintenanceDueForComponent fl db c.organizationId c.id = .ok items) ↔
      ∀ since ∈ componentCutoffs db c, Walkable db c.organizationId
        (partWindows Component.createdAt (componentPlacement db) c) since := by
  rw [getMaintenanceDueForComponent, getComponent_of_mem hc, ok_bind, mapM_isOk_iff,
    componentCutoffs, List.forall_mem_map, ← windowsOfComponent_eq]
  refine forall₂_congr fun requirementId hid => ?_
  obtain ⟨a, ha, rfl⟩ := List.mem_map.1 hid
  obtain ⟨hrow, hfound⟩ := Table.mem_select.1 ha
  simp only [Bool.and_eq_true, decide_eq_true_eq] at hfound
  obtain ⟨requirement, hrequirement⟩ := hknown a hrow
  rw [hfound.1] at hrequirement
  rw [hrequirement, ok_bind, evaluateForComponent_isOk_iff]

end Evaluations

/-- The maintenance status of every battery and every component is available. -/
structure Available (fl : ℚ → ℚ) (db : Database) : Prop where
  batteries : ∀ b ∈ db.batteries.rows,
    ∃ items, getMaintenanceDueForBattery fl db b.organizationId b.id = .ok items
  components : ∀ c ∈ db.components.rows,
    ∃ items, getMaintenanceDueForComponent fl db c.organizationId c.id = .ok items

/-- Every window that an evaluation walks is on an asset that can be read. -/
def PartsWalkable {α : Type} [Placeable α] (db : Database) (start : α → DateTime)
    (cutoffs : α → List (Option DateTime)) (p : Placement α) : Prop :=
  ∀ i ∈ p.items.rows, ∀ since ∈ cutoffs i,
    Walkable db (Placeable.organizationId i) (partWindows start p i) since

structure AllWalkable (db : Database) : Prop where
  batteries : PartsWalkable db batteryStart (batteryCutoffs db) (batteryPlacement db)
  components : PartsWalkable db Component.createdAt (componentCutoffs db) (componentPlacement db)

theorem available_iff_allWalkable (fl : ℚ → ℚ) {db : Database} (hknown : RequirementsKnown db) :
    Available fl db ↔ AllWalkable db := by
  constructor
  · intro h
    exact ⟨fun b hb => (batteryDue_isOk_iff fl hknown hb).1 (h.batteries b hb),
      fun c hc => (componentDue_isOk_iff fl hknown hc).1 (h.components c hc)⟩
  · intro h
    exact ⟨fun b hb => (batteryDue_isOk_iff fl hknown hb).2 (h.batteries b hb),
      fun c hc => (componentDue_isOk_iff fl hknown hc).2 (h.components c hc)⟩

/-! ## Sequences of calls -/

inductive Action
  | part (a : PartAction)
  | softDeleteAsset (now : DateTime) (organizationId : UUID) (actor : Option UUID)
      (assetId : UUID) (reason : Option String)

def step (u : UnicodeTables) (db : Database) : Action → Except Error Database
  | .part a => PartWindows.step u db a
  | .softDeleteAsset now org actor assetId reason =>
    (softDeleteAsset u db now org actor assetId reason).map Prod.fst

/-- No evaluation walks a window on the asset. -/
structure Unread (db : Database) (assetId : UUID) : Prop where
  batteries : ∀ b ∈ db.batteries.rows, ∀ since ∈ batteryCutoffs db b,
    ∀ w ∈ windowsOfBattery db b.organizationId b, w.assetId = assetId → isSkipped w since = true
  components : ∀ c ∈ db.components.rows, ∀ since ∈ componentCutoffs db c,
    ∀ w ∈ windowsOfComponent db c.organizationId c, w.assetId = assetId → isSkipped w since = true

/-- An asset that is deleted is one on which no evaluation walks a window. -/
def DeletesUnread (u : UnicodeTables) (db : Database) : Action → Prop
  | .part _ => True
  | .softDeleteAsset now org actor assetId reason =>
    (softDeleteAsset u db now org actor assetId reason).isOk = true → Unread db assetId

/-- What no call of the sequence breaks. -/
structure Sound (db : Database) : Prop where
  batteries : Owned (batteryPlacement db)
  components : Owned (componentPlacement db)
  known : RequirementsKnown db

/-! ## What the calls keep -/

section Parts

variable {α : Type} [Placeable α] {db : Database} {start : α → DateTime}
  {cutoffs : α → List (Option DateTime)} {p p' : Placement α} {org : UUID}

theorem Walkable.trim {old new : List InstallationWindow} {since : Option DateTime}
    (h : Walkable db org old since) (htrim : Trimmed old new) : Walkable db org new since := by
  intro w' hw' hwalk
  obtain ⟨w, hw, hshort⟩ := htrim.exists_mem hw'
  rw [hshort.assetId]
  refine h w hw (Bool.eq_false_iff.2 fun hskip => ?_)
  rw [hshort.isSkipped hskip] at hwalk
  cases hwalk

theorem PartsWalkable.moves (h : PartsWalkable db start cutoffs p) {move : α → α}
    {opened : List InstallationWindow} (hmoves : Moves start p p' org move opened)
    (hsame : ∀ i, cutoffs (move i) = cutoffs i ∧
      Placeable.organizationId (move i) = Placeable.organizationId i)
    (hopened : ∀ w ∈ opened, ∃ asset, db.getAsset org w.assetId = .ok asset) :
    PartsWalkable db start cutoffs p' := by
  intro i' hi' since hsince
  rcases hmoves i' hi' with ⟨hi, hwindows⟩ | ⟨i, hi, rfl, rfl, kept, htrim, hwindows⟩
  · rw [hwindows]
    exact h i' hi since hsince
  · rw [(hsame i).1] at hsince
    rw [(hsame i).2, hwindows]
    intro w hw hwalk
    rcases List.mem_append.1 hw with hw | hw
    · exact (h i hi since hsince).trim htrim w hw hwalk
    · exact hopened w hw

theorem PartsWalkable.creates (h : PartsWalkable db start cutoffs p) {item : α}
    {opened : InstallationWindow} (hcreates : Creates start p p' item opened)
    (hlive : ∃ asset, db.getAsset (Placeable.organizationId item) opened.assetId = .ok asset) :
    PartsWalkable db start cutoffs p' := by
  intro i' hi' since hsince
  rcases hcreates i' hi' with ⟨hi, hwindows⟩ | ⟨rfl, hwindows⟩
  · rw [hwindows]
    exact h i' hi since hsince
  · rw [hwindows]
    intro w hw _
    rw [List.mem_singleton.1 hw]
    exact hlive

end Parts

section Steps

variable {u : UnicodeTables} {db db' : Database}

theorem keeps_batteries {p : Placement Battery} (hsound : Sound db) (howned : Owned p)
    (hbatteries : AllWalkable db → PartsWalkable db batteryStart (batteryCutoffs db) p) (org : UUID)
    (actor : Option UUID) (action entity : String) (id : Option UUID) :
    Sound ((withBatteries db p).recordAuditEvent org actor action entity id) ∧
      (AllWalkable db →
        AllWalkable ((withBatteries db p).recordAuditEvent org actor action entity id)) :=
  ⟨⟨howned, hsound.components, hsound.known⟩,
    fun hwalk => ⟨hbatteries hwalk, hwalk.components⟩⟩

theorem keeps_components {p : Placement Component} (hsound : Sound db) (howned : Owned p)
    (hcomponents : AllWalkable db → PartsWalkable db Component.createdAt (componentCutoffs db) p)
    (org : UUID) (actor : Option UUID) (action entity : String) (id : Option UUID) :
    Sound ((withComponents db p).recordAuditEvent org actor action entity id) ∧
      (AllWalkable db →
        AllWalkable ((withComponents db p).recordAuditEvent org actor action entity id)) :=
  ⟨⟨hsound.batteries, howned, hsound.known⟩,
    fun hwalk => ⟨hwalk.batteries, hcomponents hwalk⟩⟩

theorem keeps_flight (hsound : Sound db) (updateBattery : Bool)
    (org assetId : UUID) (cycles : Int) (flights : Table Flight) :
    Sound { db with
      flights
      batteries := if updateBattery then db.batteries.updateWhere (carriedBy org assetId)
        (charged cycles) (fun _ => rfl) else db.batteries } ∧
    (AllWalkable db → AllWalkable { db with
      flights
      batteries := if updateBattery then db.batteries.updateWhere (carriedBy org assetId)
        (charged cycles) (fun _ => rfl) else db.batteries }) := by
  cases updateBattery with
  | false => exact ⟨⟨hsound.batteries, hsound.components, hsound.known⟩,
      fun hwalk => ⟨hwalk.batteries, hwalk.components⟩⟩
  | true =>
    refine ⟨⟨?_, hsound.components, hsound.known⟩, fun hwalk => ⟨?_, hwalk.components⟩⟩
    · intro r hr
      obtain ⟨b, hb, hid⟩ := hsound.batteries r hr
      refine ⟨_, List.mem_map.2 ⟨b, hb, rfl⟩, ?_⟩
      split
      · exact hid
      · exact hid
    · intro b' hb' since hsince
      obtain ⟨b, hb, hb'⟩ := List.mem_map.1 hb'
      by_cases hcarried : carriedBy org assetId b = true
      · rw [if_pos hcarried] at hb'
        subst hb'
        exact hwalk.batteries b hb since hsince
      · rw [if_neg hcarried] at hb'
        subst hb'
        exact hwalk.batteries b hb since hsince

theorem partStep_keeps {a : PartAction} (hsound : Sound db)
    (h : PartWindows.step u db a = .ok db') :
    Sound db' ∧ (AllWalkable db → AllWalkable db') := by
  cases a with
  | attachBattery newId now org actor assetId args =>
    obtain ⟨drone, hdrone, h⟩ := bind_eq_ok.1 h
    obtain ⟨p, hp, h⟩ := bind_eq_ok.1 h
    cases h
    obtain ⟨howned, hcreates⟩ := attachItem_creates batteryStart hsound.batteries hp rfl
    exact keeps_batteries hsound howned
      (fun hwalk =>
        hwalk.batteries.creates hcreates ⟨drone, Database.getAsset_of_getDrone hdrone⟩) ..
  | installBattery newId now org actor batteryId assetId =>
    obtain ⟨drone, hdrone, h⟩ := bind_eq_ok.1 h
    obtain ⟨p, hp, h⟩ := bind_eq_ok.1 h
    cases h
    obtain ⟨howned, hmoves⟩ := installItem_moves batteryStart hsound.batteries hp
      (fun _ => rfl) (fun _ => rfl) (fun _ => rfl) rfl
    refine keeps_batteries hsound howned
      (fun hwalk => hwalk.batteries.moves hmoves (fun _ => ⟨rfl, rfl⟩) ?_) ..
    intro w hw
    rw [List.mem_singleton.1 hw]
    exact ⟨drone, Database.getAsset_of_getDrone hdrone⟩
  | removeBattery now org actor batteryId assetId =>
    obtain ⟨p, hp, h⟩ := bind_eq_ok.1 h
    cases h
    obtain ⟨item, hmem, r, hr, ⟨hid, _, _⟩, ⟨hitem, _, hopen⟩, rfl⟩ := removeItem_eq_ok hp
    obtain ⟨howned, hmoves⟩ := moves_of_close batteryStart hsound.batteries
      (fun b => { b with assetId := none, installedAt := none }) now actor hmem (fun _ => rfl)
      (fun _ => rfl) (fun _ => rfl) hr (hitem.trans hid.symm) hopen
    refine keeps_batteries hsound howned
      (fun hwalk => hwalk.batteries.moves hmoves (fun _ => ⟨rfl, rfl⟩) ?_) ..
    intro w hw
    cases hw
  | component a =>
    cases a with
    | attachComponent newId now org actor assetId args =>
      obtain ⟨drone, hdrone, h⟩ := bind_eq_ok.1 h
      obtain ⟨p, hp, h⟩ := bind_eq_ok.1 h
      cases h
      obtain ⟨howned, hcreates⟩ := attachItem_creates Component.createdAt hsound.components hp rfl
      exact keeps_components hsound howned
        (fun hwalk =>
          hwalk.components.creates hcreates ⟨drone, Database.getAsset_of_getDrone hdrone⟩) ..
    | installComponent newId now org actor componentId assetId =>
      obtain ⟨drone, hdrone, h⟩ := bind_eq_ok.1 h
      obtain ⟨p, hp, h⟩ := bind_eq_ok.1 h
      cases h
      obtain ⟨howned, hmoves⟩ := installItem_moves Component.createdAt hsound.components hp
        (fun _ => rfl) (fun _ => rfl) (fun _ => rfl) rfl
      refine keeps_components hsound howned
        (fun hwalk => hwalk.components.moves hmoves (fun _ => ⟨rfl, rfl⟩) ?_) ..
      intro w hw
      rw [List.mem_singleton.1 hw]
      exact ⟨drone, Database.getAsset_of_getDrone hdrone⟩
    | removeComponent now org actor componentId assetId =>
      obtain ⟨p, hp, h⟩ := bind_eq_ok.1 h
      cases h
      obtain ⟨item, hmem, r, hr, ⟨hid, _, _⟩, ⟨hitem, _, hopen⟩, rfl⟩ := removeItem_eq_ok hp
      obtain ⟨howned, hmoves⟩ := moves_of_close Component.createdAt hsound.components
        (fun c => { c with assetId := none, status := "REMOVED" }) now actor hmem (fun _ => rfl)
        (fun _ => rfl) (fun _ => rfl) hr (hitem.trans hid.symm) hopen
      refine keeps_components hsound howned
        (fun hwalk => hwalk.components.moves hmoves (fun _ => ⟨rfl, rfl⟩) ?_) ..
      intro w hw
      cases hw
    | installAssetComponent newId newRowId now org actor assetId payload =>
      obtain ⟨asset, hasset, h⟩ := bind_eq_ok.1 h
      obtain ⟨p, hp, h⟩ := bind_eq_ok.1 h
      cases h
      have hfound := (mem_of_oneOrRaise hasset).2
      simp only [Bool.and_eq_true, decide_eq_true_eq] at hfound
      obtain ⟨⟨rfl, _⟩, _⟩ := hfound
      obtain ⟨howned, hcreates⟩ := createInstalled_creates Component.createdAt hsound.components
        hp rfl rfl rfl rfl
      exact keeps_components hsound howned
        (fun hwalk => hwalk.components.creates hcreates ⟨asset, hasset⟩) ..
    | removeAssetComponent now org actor assetId componentId =>
      obtain ⟨_, _, h⟩ := bind_eq_ok.1 h
      obtain ⟨p, hp, h⟩ := bind_eq_ok.1 h
      cases h
      obtain ⟨item, hmem, ⟨hid, _, _⟩, ⟨_, rfl⟩ | ⟨r, hr, ⟨hitem, _, hopen⟩, rfl⟩⟩ :=
        detachItem_eq_ok hp
      · obtain ⟨howned, hmoves⟩ := moves_of_unplace Component.createdAt hsound.components
          (fun c => { c with assetId := none, status := "REMOVED" }) hmem (fun _ => rfl)
          (fun _ => rfl) (fun _ => rfl)
        refine keeps_components hsound howned
          (fun hwalk => hwalk.components.moves hmoves (fun _ => ⟨rfl, rfl⟩) ?_) ..
        intro w hw
        cases hw
      · obtain ⟨howned, hmoves⟩ := moves_of_close Component.createdAt hsound.components
          (fun c => { c with assetId := none, status := "REMOVED" }) now actor hmem (fun _ => rfl)
          (fun _ => rfl) (fun _ => rfl) hr (hitem.trans hid.symm) hopen
        refine keeps_components hsound howned
          (fun hwalk => hwalk.components.moves hmoves (fun _ => ⟨rfl, rfl⟩) ?_) ..
        intro w hw
        cases hw
    | recordFlight newId now org actor assetId payload updateBattery =>
      obtain ⟨_, _, h⟩ := bind_eq_ok.1 h
      obtain ⟨_, _, h⟩ := bind_eq_ok.1 h
      obtain ⟨_, _, h⟩ := bind_eq_ok.1 h
      obtain ⟨flights, _, h⟩ := bind_eq_ok.1 h
      cases h
      obtain ⟨hsound', hwalk'⟩ := keeps_flight hsound updateBattery org assetId
        payload.cycles flights
      exact ⟨⟨hsound'.batteries, hsound'.components, hsound'.known⟩,
        fun hwalk => ⟨(hwalk' hwalk).batteries, (hwalk' hwalk).components⟩⟩
    | recordAssetFlight newId now org actor assetId payload =>
      obtain ⟨_, _, h⟩ := bind_eq_ok.1 h
      obtain ⟨_, _, h⟩ := bind_eq_ok.1 h
      obtain ⟨_, _, h⟩ := bind_eq_ok.1 h
      cases h
      exact ⟨⟨hsound.batteries, hsound.components, hsound.known⟩,
        fun hwalk => ⟨hwalk.batteries, hwalk.components⟩⟩

theorem getAsset_isOk_iff {org assetId : UUID} :
    (∃ asset, db.getAsset org assetId = .ok asset) ↔
      ∃ a ∈ db.assets.rows, a.id = assetId ∧ a.organizationId = org ∧ a.deletedAt = none := by
  constructor
  · rintro ⟨asset, h⟩
    obtain ⟨hmem, hfound⟩ := mem_of_oneOrRaise h
    simp only [Bool.and_eq_true, decide_eq_true_eq, Option.isNone_iff_eq_none] at hfound
    exact ⟨asset, hmem, hfound.1.1, hfound.1.2, hfound.2⟩
  · rintro ⟨a, hmem, hid, horg, hlive⟩
    refine ⟨a, oneOrRaise_of_key hmem (by simp [hid, horg, hlive]) ?_⟩
    intro x _ hx
    simp only [Bool.and_eq_true, decide_eq_true_eq] at hx
    exact hx.1.1.trans hid.symm

theorem getAsset_of_delete {old deleted : Asset} (hmem : old ∈ db.assets.rows)
    (hid : old.id = deleted.id) (hdeleted : deleted.deletedAt.isSome = true)
    (hassets : db'.assets = db.assets.save deleted) (org assetId : UUID) :
    (∃ asset, db'.getAsset org assetId = .ok asset) ↔
      assetId ≠ deleted.id ∧ ∃ asset, db.getAsset org assetId = .ok asset := by
  rw [getAsset_isOk_iff, getAsset_isOk_iff, hassets]
  constructor
  · rintro ⟨a, ha, rfl, horg, hlive⟩
    rcases (Table.mem_save_of_mem hmem hid).1 ha with ⟨ha, hne⟩ | rfl
    · exact ⟨hne, a, ha, rfl, horg, hlive⟩
    · rw [hlive] at hdeleted
      cases hdeleted
  · rintro ⟨hne, a, ha, rfl, horg, hlive⟩
    exact ⟨a, (Table.mem_save_of_mem hmem hid).2 (Or.inl ⟨ha, hne⟩), rfl, horg, hlive⟩

theorem walkable_of_delete {old : Asset} (deleted : Asset) (hmem : old ∈ db.assets.rows)
    (hid : old.id = deleted.id) (hdeleted : deleted.deletedAt.isSome = true)
    (hassets : db'.assets = db.assets.save deleted) {org : UUID} {windows : List InstallationWindow}
    {since : Option DateTime} (hwalk : Walkable db org windows since) :
    Walkable db' org windows since ↔
      ∀ w ∈ windows, w.assetId = deleted.id → isSkipped w since = true := by
  constructor
  · intro h w hw hsame
    by_contra hskip
    exact ((getAsset_of_delete hmem hid hdeleted hassets org w.assetId).1
      (h w hw (Bool.of_not_eq_true hskip))).1 hsame
  · intro h w hw hwalks
    refine (getAsset_of_delete hmem hid hdeleted hassets org w.assetId).2 ⟨?_, hwalk w hw hwalks⟩
    intro hsame
    rw [h w hw hsame] at hwalks
    cases hwalks

/-- **A DELETION** leaves every status available exactly when the asset is read by none. -/
theorem delete_allWalkable_iff {now : DateTime} {org assetId : UUID} {actor : Option UUID}
    {reason : Option String} {asset : Asset} (hsound : Sound db)
    (h : softDeleteAsset u db now org actor assetId reason = .ok (db', asset)) :
    Sound db' ∧ (AllWalkable db → (AllWalkable db' ↔ Unread db assetId)) := by
  obtain ⟨old, hold, h⟩ := bind_eq_ok.1 h
  obtain ⟨_, _, h⟩ := bind_eq_ok.1 h
  cases h
  obtain ⟨hmem, hfound⟩ := mem_of_oneOrRaise hold
  simp only [Bool.and_eq_true, decide_eq_true_eq] at hfound
  obtain ⟨rfl, _⟩ := hfound
  refine ⟨⟨hsound.batteries, hsound.components, hsound.known⟩, fun hwalk => ?_⟩
  let deleted : Asset := { old with
    deletedAt := some now, deletedBy := actor, deletionReason := u.stripOrNone reason }
  have hone : ∀ {org' : UUID} {windows : List InstallationWindow} {since : Option DateTime},
      Walkable db org' windows since →
      (Walkable ({ db with assets := db.assets.save deleted }) org' windows since ↔
        ∀ w ∈ windows, w.assetId = old.id → isSkipped w since = true) :=
    fun hw => walkable_of_delete deleted hmem rfl rfl rfl hw
  constructor
  · intro h
    refine ⟨?_, ?_⟩
    · intro b hb since hsince
      rw [windowsOfBattery_eq]
      exact (hone (hwalk.batteries b hb since hsince)).1 (h.batteries b hb since hsince)
    · intro c hc since hsince
      rw [windowsOfComponent_eq]
      exact (hone (hwalk.components c hc since hsince)).1 (h.components c hc since hsince)
  · intro h
    refine ⟨?_, ?_⟩
    · intro b hb since hsince
      refine (hone (hwalk.batteries b hb since hsince)).2 ?_
      have hunread := h.batteries b hb since hsince
      rw [windowsOfBattery_eq] at hunread
      exact hunread
    · intro c hc since hsince
      refine (hone (hwalk.components c hc since hsince)).2 ?_
      have hunread := h.components c hc since hsince
      rw [windowsOfComponent_eq] at hunread
      exact hunread

end Steps

section Runs

variable {u : UnicodeTables} {fl : ℚ → ℚ}

/-- **ONE CALL**: it keeps every status available exactly when it deletes no asset that is read. -/
theorem attempt_iff {db : Database} (hsound : Sound db) (a : Action) :
    Sound (Runs.attempt (step u) db a) ∧
      (AllWalkable db → (AllWalkable (Runs.attempt (step u) db a) ↔ DeletesUnread u db a)) := by
  cases h : step u db a with
  | error e =>
    have hsame : Runs.attempt (step u) db a = db := by
      rw [Runs.attempt, h]
    rw [hsame]
    refine ⟨hsound, fun hwalk => iff_of_true hwalk ?_⟩
    cases a with
    | part a => trivial
    | softDeleteAsset now org actor assetId reason =>
      intro hok
      rw [step] at h
      cases hrun : softDeleteAsset u db now org actor assetId reason with
      | error e =>
        rw [hrun] at hok
        cases hok
      | ok x =>
        rw [hrun] at h
        cases h
  | ok db' =>
    have hafter : Runs.attempt (step u) db a = db' := by
      rw [Runs.attempt, h]
    rw [hafter]
    cases a with
    | part a =>
      obtain ⟨hsound', hkeeps⟩ := partStep_keeps hsound h
      exact ⟨hsound', fun hwalk => iff_of_true (hkeeps hwalk) trivial⟩
    | softDeleteAsset now org actor assetId reason =>
      obtain ⟨asset, hrun⟩ := map_fst_eq_ok h
      obtain ⟨hsound', hiff⟩ := delete_allWalkable_iff hsound hrun
      refine ⟨hsound', fun hwalk => (hiff hwalk).trans ⟨fun hunread _ => hunread, fun h => h ?_⟩⟩
      rw [hrun]
      rfl

end Runs

/-- Battery 10, which comes due every cycle, is installed on the first of two drones. -/
def maintainedDrones : Database :=
  { InstallationRuns.twoDrones with
    batteries := .single
      { id := 10, organizationId := 1, assetId := some 1, serialNumber := "B-10"
        installedAt := some 1 }
    batteryInstallations := .single
      { id := 20, organizationId := 1, itemId := 10, assetId := 1, installedAt := 1 }
    maintenanceRequirements := .single
      { id := 4, organizationId := 1, intervalType := MaintenanceIntervalType.flightCycles
        fcInterval := some 1 }
    requirementApplicabilities := .single
      { id := 5, organizationId := 1, requirementId := 4, batteryId := some 10 } }

theorem maintainedDrones_sound : Sound maintainedDrones := by
  refine ⟨?_, ?_, ?_⟩
  · intro r hr
    rw [List.mem_singleton.1 hr]
    exact ⟨_, List.mem_singleton_self _, rfl⟩
  · intro r hr
    cases hr
  · intro a ha
    rw [List.mem_singleton.1 ha]
    exact ⟨_, rfl⟩

theorem maintainedDrones_available : Available id maintainedDrones := by
  refine ⟨?_, ?_⟩
  · intro b hb
    rw [List.mem_singleton.1 hb]
    exact ⟨_, rfl⟩
  · intro c hc
    cases hc

/-- The battery is moved to the second drone, and the first one is deleted. -/
def movedAndDeleted : List Action :=
  [.part (.removeBattery 10 1 none 10 1), .part (.installBattery 21 11 1 none 10 2),
    .softDeleteAsset 12 1 none 1 none]

end DueAvailability
end AeroComply
