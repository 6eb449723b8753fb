import AeroComply.Services.ItemMaintenance
import AeroComply.Services.LifetimeUsage

/-!
# PartWindows — what a call does to the windows of a part

`_installation_windows` reads the history rows of a part and where the part is now.  An attach,
install or remove call drops windows, closes one, or opens one; it never moves the start of a
window and never opens one that was closed.
-/

namespace AeroComply

open Relational (Keyed Table)
open List (SublistForall₂)

namespace PartWindows

open InstallationService MaintenanceService

/-- The second window is the first one, or was closed since. -/
structure Shortened (w w' : InstallationWindow) : Prop where
  assetId : w'.assetId = w.assetId
  installedAt : w'.installedAt = w.installedAt
  removedAt : w'.removedAt = w.removedAt ∨ w.removedAt = none

theorem Shortened.refl (w : InstallationWindow) : Shortened w w := ⟨rfl, rfl, Or.inl rfl⟩

theorem Shortened.isSkipped {w w' : InstallationWindow} {since : Option DateTime}
    (h : Shortened w w') (hskip : isSkipped w since = true) : isSkipped w' since = true := by
  have hstart : windowStart w' since = windowStart w since := by
    cases since with
    | none => exact h.installedAt
    | some s =>
      rw [windowStart, windowStart, h.installedAt]
  rw [MaintenanceService.isSkipped] at hskip ⊢
  rcases h.removedAt with hsame | hnone
  · rw [hsame, hstart]
    exact hskip
  · rw [hnone] at hskip
    cases hskip

/-- The second list is the first one, with windows dropped and windows closed. -/
def Trimmed (old new : List InstallationWindow) : Prop :=
  SublistForall₂ (fun w' w => Shortened w w') new old

theorem Trimmed.of_sublist {old new : List InstallationWindow} (h : new.Sublist old) :
    Trimmed old new :=
  List.sublistForall₂_iff.2 ⟨new, List.forall₂_same.2 fun w _ => Shortened.refl w, h⟩

theorem Shortened.trans {w₁ w₂ w₃ : InstallationWindow} (h₁ : Shortened w₁ w₂)
    (h₂ : Shortened w₂ w₃) : Shortened w₁ w₃ := by
  refine ⟨h₂.assetId.trans h₁.assetId, h₂.installedAt.trans h₁.installedAt, ?_⟩
  rcases h₁.removedAt with h | h
  · rw [← h]
    exact h₂.removedAt
  · exact Or.inr h

theorem Trimmed.trans {l₁ l₂ l₃ : List InstallationWindow} (h₁ : Trimmed l₁ l₂)
    (h₂ : Trimmed l₂ l₃) : Trimmed l₁ l₃ := by
  have htrans : IsTrans InstallationWindow (fun w' w => Shortened w w') :=
    ⟨fun _ _ _ h h' => Shortened.trans h' h⟩
  exact List.SublistForall₂.is_trans.trans _ _ _ h₂ h₁

theorem Trimmed.exists_mem {old new : List InstallationWindow} (h : Trimmed old new)
    {w' : InstallationWindow} (hw : w' ∈ new) : ∃ w ∈ old, Shortened w w' := by
  induction h with
  | nil => cases hw
  | @cons v' v new old hshort _ ih =>
    rcases List.mem_cons.1 hw with rfl | hw
    · exact ⟨v, List.mem_cons_self, hshort⟩
    · obtain ⟨w, hin, hshort⟩ := ih hw
      exact ⟨w, List.mem_cons_of_mem _ hin, hshort⟩
  | cons_right _ ih =>
    obtain ⟨w, hin, hshort⟩ := ih hw
    exact ⟨w, List.mem_cons_of_mem _ hin, hshort⟩

section Generic

variable {α : Type} [Placeable α]

/-- The history rows of a part, in its own tenant. -/
def historyRows (p : Placement α) (i : α) : List Installation :=
  p.history.select fun r =>
    r.organizationId = Placeable.organizationId i && r.itemId = Keyed.key i

/-- The windows of a part; `start` says when it was placed where no row says so. -/
def partWindows (start : α → DateTime) (p : Placement α) (i : α) : List InstallationWindow :=
  installationWindows (historyRows p i) (Placeable.assetId i) (some (start i)) (start i)

/-- Every row is of a part. -/
def Owned (p : Placement α) : Prop :=
  ∀ r ∈ p.history.rows, ∃ i ∈ p.items.rows, Keyed.key i = r.itemId

variable {start : α → DateTime} {p p' : Placement α} {i : α}

variable {items : Table α} {row : Installation} {r : Installation} {history : Table Installation}
  {item : α}

theorem mem_historyRows :
    r ∈ historyRows p i ↔ r ∈ p.history.rows ∧
      r.organizationId = Placeable.organizationId i ∧ r.itemId = Keyed.key i := by
  rw [historyRows, Table.mem_select, Bool.and_eq_true, decide_eq_true_eq, decide_eq_true_eq]

theorem rows_sublist (start : α → DateTime) (p : Placement α) (i : α) :
    ((historyRows p i).map windowOf).Sublist (partWindows start p i) := by
  rw [partWindows]
  cases Placeable.assetId i with
  | none => exact List.Sublist.refl _
  | some assetId =>
    dsimp only [installationWindows]
    split
    · exact List.Sublist.refl _
    · exact List.sublist_append_left _ _

theorem partWindows_of_off (hoff : Placeable.assetId i = none) :
    partWindows start p i = (historyRows p i).map windowOf := by
  rw [partWindows, hoff]
  rfl

theorem partWindows_of_open (hr : r ∈ historyRows p i) (hon : Placeable.assetId i = some r.assetId)
    (hopen : r.removedAt = none) :
    partWindows start p i = (historyRows p i).map windowOf := by
  rw [partWindows, hon]
  refine if_pos (List.any_eq_true.2 ⟨windowOf r, List.mem_map_of_mem hr, ?_⟩)
  simp [isOpenOn, windowOf, hopen]

variable {actor : Option UUID} {assetId : UUID} {now : DateTime}

theorem partWindows_of_no_rows (hrows : historyRows p i = [])
    (hon : Placeable.assetId i = some assetId) :
    partWindows start p i = [⟨assetId, start i, none⟩] := by
  rw [partWindows, hon, hrows]
  rfl

theorem partWindows_congr (h : historyRows p' i = historyRows p i) :
    partWindows start p' i = partWindows start p i := by
  rw [partWindows, partWindows, h]

/-! ## The history of a part after a write -/

theorem historyRows_insert (h : p.history.insert? row = some history) :
    historyRows { items, history } i = historyRows p i ++ [row].filter (fun r =>
      r.organizationId = Placeable.organizationId i && r.itemId = Keyed.key i) :=
  Table.select_insert? h _

theorem historyRows_insert_other (h : p.history.insert? row = some history)
    (hne : row.itemId ≠ Keyed.key i) : historyRows { items, history } i = historyRows p i := by
  rw [historyRows_insert h, List.filter_cons_of_neg (by simp [hne])]
  exact List.append_nil _

theorem historyRows_insert_own (h : p.history.insert? row = some history)
    (hitem : row.itemId = Keyed.key i) (horg : row.organizationId = Placeable.organizationId i) :
    historyRows { items, history } i = historyRows p i ++ [row] := by
  rw [historyRows_insert h, List.filter_cons_of_pos (by simp [hitem, horg])]
  rfl

theorem historyRows_close (hr : r ∈ p.history.rows) :
    historyRows { items, history := p.history.save (closed now actor r) } i
      = (historyRows p i).map (fun x => if x.id = r.id then closed now actor r else x) := by
  refine Table.select_save ?_
  intro x hx hid
  rw [Table.eq_of_key_eq hx hr hid]
  rfl

theorem trimmed_of_close (hr : r ∈ p.history.rows) (hopen : r.removedAt = none) :
    Trimmed ((historyRows p i).map windowOf) ((historyRows
      { items, history := p.history.save (closed now actor r) } i).map windowOf) := by
  rw [historyRows_close hr, Trimmed, List.map_map]
  refine List.sublistForall₂_iff.2 ⟨_, ?_, List.Sublist.refl _⟩
  rw [List.forall₂_map_left_iff, List.forall₂_map_right_iff, List.forall₂_same]
  intro x hx
  rw [Function.comp_apply]
  by_cases hid : x.id = r.id
  · obtain rfl : x = r := Table.eq_of_key_eq (mem_historyRows.1 hx).1 hr hid
    rw [if_pos rfl]
    exact ⟨rfl, rfl, Or.inr hopen⟩
  · rw [if_neg hid]
    exact Shortened.refl _

/-! ## What the calls do -/

/-- What a call leaves of the parts: the one that it is about is moved by `move` and gets the
windows `opened` on top of what is left of its own; the other ones stay as they are. -/
def Moves (start : α → DateTime) (p p' : Placement α) (org : UUID) (move : α → α)
    (opened : List InstallationWindow) : Prop :=
  ∀ i' ∈ p'.items.rows,
    (i' ∈ p.items.rows ∧ partWindows start p' i' = partWindows start p i') ∨
      ∃ i ∈ p.items.rows, i' = move i ∧ Placeable.organizationId i = org ∧
        ∃ kept, Trimmed (partWindows start p i) kept ∧ partWindows start p' i' = kept ++ opened

/-- A call that makes a new part: it has one window, the other ones stay as they are. -/
def Creates (start : α → DateTime) (p p' : Placement α) (item : α)
    (opened : InstallationWindow) : Prop :=
  ∀ i' ∈ p'.items.rows,
    (i' ∈ p.items.rows ∧ partWindows start p' i' = partWindows start p i') ∨
      (i' = item ∧ partWindows start p' i' = [opened])

theorem Owned.no_rows (h : Owned p) (hnew : p.items.insert? item = some items) :
    historyRows p item = [] := by
  refine List.filter_eq_nil_iff.2 ?_
  intro r hr hfound
  simp only [Bool.and_eq_true, decide_eq_true_eq] at hfound
  obtain ⟨i, hi, hkey⟩ := h r hr
  exact (Table.insert?_eq_some hnew).1 (List.mem_map.2 ⟨i, hi, hkey.trans hfound.2⟩)

theorem exists_owner_of_save {item item' : α} {id : UUID} (hmem : item ∈ p.items.rows)
    (hkey : Keyed.key item' = Keyed.key item) (h : ∃ i ∈ p.items.rows, Keyed.key i = id) :
    ∃ i ∈ (p.items.save item').rows, Keyed.key i = id := by
  obtain ⟨i, hi, hid⟩ := h
  rcases Table.kept_or_replaced hmem hkey.symm hi with hi | ⟨rfl, hnew⟩
  · exact ⟨i, hi, hid⟩
  · exact ⟨item', hnew, hkey.trans hid⟩

theorem attachItem_creates (start : α → DateTime) (howned : Owned p)
    (h : attachItem p item = .ok p') (hon : Placeable.assetId item = some assetId) :
    Owned p' ∧ Creates start p p' item ⟨assetId, start item, none⟩ := by
  obtain ⟨items, hadd, h⟩ := bind_eq_ok.1 h
  cases h
  have hins := addRowOrRaise_eq_ok.1 hadd
  refine ⟨?_, ?_⟩
  · intro r hr
    obtain ⟨i, hi, hkey⟩ := howned r hr
    exact ⟨i, (Table.mem_insert? hins).2 (Or.inl hi), hkey⟩
  · intro i' hi'
    rcases (Table.mem_insert? hins).1 hi' with hi' | rfl
    · exact Or.inl ⟨hi', rfl⟩
    · exact Or.inr ⟨rfl, partWindows_of_no_rows (howned.no_rows hins) hon⟩

theorem createInstalled_creates (start : α → DateTime) (howned : Owned p)
    (h : createInstalled p item row = .ok p') (hitem : row.itemId = Keyed.key item)
    (horg : row.organizationId = Placeable.organizationId item)
    (hon : Placeable.assetId item = some row.assetId) (hopen : row.removedAt = none) :
    Owned p' ∧ Creates start p p' item (windowOf row) := by
  obtain ⟨items, hadd, h⟩ := bind_eq_ok.1 h
  obtain ⟨history, haddRow, h⟩ := bind_eq_ok.1 h
  cases h
  have hins := addRowOrRaise_eq_ok.1 hadd
  obtain ⟨_, hinsRow⟩ := addInstallation_eq_ok haddRow
  refine ⟨?_, ?_⟩
  · intro r hr
    rcases (Table.mem_insert? hinsRow).1 hr with hr | rfl
    · obtain ⟨i, hi, hkey⟩ := howned r hr
      exact ⟨i, (Table.mem_insert? hins).2 (Or.inl hi), hkey⟩
    · exact ⟨item, (Table.mem_insert? hins).2 (Or.inr rfl), hitem.symm⟩
  · intro i' hi'
    rcases (Table.mem_insert? hins).1 hi' with hi' | rfl
    · refine Or.inl ⟨hi', partWindows_congr (historyRows_insert_other hinsRow ?_)⟩
      intro hsame
      exact (Table.insert?_eq_some hins).1 (List.mem_map.2 ⟨i', hi', hsame.symm.trans hitem⟩)
    · have hrows : historyRows ⟨items, history⟩ i' = [row] := by
        rw [historyRows_insert_own hinsRow hitem horg, howned.no_rows hins]
        rfl
      refine Or.inr ⟨rfl, ?_⟩
      rw [partWindows_of_open (r := row) (by rw [hrows]; exact List.mem_singleton_self row) hon
        hopen, hrows]
      rfl

theorem installItem_moves (start : α → DateTime) (howned : Owned p) {place : α → α} {e e' : Error}
    (h : installItem p row place e e' = .ok p') (hkey : ∀ i, Keyed.key (place i) = Keyed.key i)
    (horg : ∀ i, Placeable.organizationId (place i) = Placeable.organizationId i)
    (hon : ∀ i, Placeable.assetId (place i) = some row.assetId) (hopen : row.removedAt = none) :
    Owned p' ∧ Moves start p p' row.organizationId place [windowOf row] := by
  obtain ⟨item, hmem, history, hid, horg', hadd, rfl⟩ := installItem_eq_ok h
  obtain ⟨_, hins⟩ := addInstallation_eq_ok hadd
  refine ⟨?_, ?_⟩
  · intro r hr
    have howner : ∃ i ∈ p.items.rows, Keyed.key i = r.itemId := by
      rcases (Table.mem_insert? hins).1 hr with hr | rfl
      · exact howned r hr
      · exact ⟨item, hmem, hid⟩
    exact exists_owner_of_save hmem (hkey item) howner
  · intro i' hi'
    rcases (Table.mem_save_of_mem hmem (hkey item).symm).1 hi' with ⟨hi', hne⟩ | rfl
    · refine Or.inl ⟨hi', partWindows_congr (historyRows_insert_other hins ?_)⟩
      intro hsame
      rw [hkey] at hne
      exact hne (hsame.symm.trans hid.symm)
    · refine Or.inr ⟨item, hmem, rfl, horg', (historyRows p item).map windowOf,
        Trimmed.of_sublist (rows_sublist start p item), ?_⟩
      have hsame : historyRows p (place item) = historyRows p item := by
        rw [historyRows, historyRows, hkey, horg]
      have hrows : historyRows ⟨p.items.save (place item), history⟩ (place item)
          = historyRows p item ++ [row] := by
        rw [historyRows_insert_own hins (hid.symm.trans (hkey item).symm)
          (horg'.symm.trans (horg item).symm), hsame]
      have hlast : row ∈ historyRows ⟨p.items.save (place item), history⟩ (place item) := by
        rw [hrows]
        exact List.mem_append_right _ (List.mem_singleton_self row)
      rw [partWindows_of_open hlast (hon item) hopen, hrows, List.map_append, List.map_singleton]

theorem moves_of_close (start : α → DateTime) (howned : Owned p) (unplace : α → α) (now : DateTime)
    (actor : Option UUID) (hmem : item ∈ p.items.rows)
    (hkey : ∀ i, Keyed.key (unplace i) = Keyed.key i)
    (horg : ∀ i, Placeable.organizationId (unplace i) = Placeable.organizationId i)
    (hoff : ∀ i, Placeable.assetId (unplace i) = none) (hr : r ∈ p.history.rows)
    (hitem : r.itemId = Keyed.key item) (hopen : r.removedAt = none) :
    Owned ⟨p.items.save (unplace item), p.history.save (closed now actor r)⟩ ∧
      Moves start p ⟨p.items.save (unplace item), p.history.save (closed now actor r)⟩
        (Placeable.organizationId item) unplace [] := by
  refine ⟨?_, ?_⟩
  · intro x hx
    have howner : ∃ i ∈ p.items.rows, Keyed.key i = x.itemId := by
      rcases (Table.mem_save_of_mem (r := closed now actor r) hr rfl).1 hx with ⟨hx, _⟩ | rfl
      · exact howned x hx
      · exact howned r hr
    exact exists_owner_of_save hmem (hkey item) howner
  · intro i' hi'
    rcases (Table.mem_save_of_mem hmem (hkey item).symm).1 hi' with ⟨hi', hne⟩ | rfl
    · refine Or.inl ⟨hi', partWindows_congr ?_⟩
      rw [historyRows_close hr]
      have hid : ∀ x ∈ historyRows p i',
          (if x.id = r.id then closed now actor r else x) = id x := by
        intro x hx
        obtain ⟨hin, _, hitem'⟩ := mem_historyRows.1 hx
        refine if_neg ?_
        intro hsame
        rw [Table.eq_of_key_eq hin hr hsame] at hitem'
        rw [hkey] at hne
        exact hne (hitem'.symm.trans hitem)
      rw [List.map_congr_left hid, List.map_id]
    · refine Or.inr ⟨item, hmem, rfl, rfl, _, ?_, (List.append_nil _).symm⟩
      rw [partWindows_of_off (hoff item)]
      have hsame : historyRows ⟨p.items.save (unplace item), p.history.save (closed now actor r)⟩
          (unplace item) = historyRows ⟨p.items.save (unplace item),
            p.history.save (closed now actor r)⟩ item := by
        rw [historyRows, historyRows, hkey, horg]
      rw [hsame]
      exact Trimmed.trans (Trimmed.of_sublist (rows_sublist start p item))
        (trimmed_of_close hr hopen)

theorem moves_of_unplace (start : α → DateTime) (howned : Owned p) (unplace : α → α)
    (hmem : item ∈ p.items.rows) (hkey : ∀ i, Keyed.key (unplace i) = Keyed.key i)
    (horg : ∀ i, Placeable.organizationId (unplace i) = Placeable.organizationId i)
    (hoff : ∀ i, Placeable.assetId (unplace i) = none) :
    Owned { p with items := p.items.save (unplace item) } ∧
      Moves start p { p with items := p.items.save (unplace item) }
        (Placeable.organizationId item) unplace [] := by
  refine ⟨?_, ?_⟩
  · intro x hx
    exact exists_owner_of_save hmem (hkey item) (howned x hx)
  · intro i' hi'
    rcases (Table.mem_save_of_mem hmem (hkey item).symm).1 hi' with ⟨hi', _⟩ | rfl
    · exact Or.inl ⟨hi', rfl⟩
    · refine Or.inr ⟨item, hmem, rfl, rfl, _, ?_, (List.append_nil _).symm⟩
      rw [partWindows_of_off (hoff item)]
      have hsame : historyRows { p with items := p.items.save (unplace item) } (unplace item)
          = historyRows p item := by
        rw [historyRows, historyRows, hkey, horg]
      rw [hsame]
      exact Trimmed.of_sublist (rows_sublist start p item)

end Generic

/-! ## Batteries and components -/

/-- Since when a battery is on its asset, where no row says so. -/
def batteryStart (b : Battery) : DateTime := b.installedAt.getD b.createdAt

theorem windowsOfBattery_eq (db : Database) (b : Battery) :
    windowsOfBattery db b.organizationId b
      = partWindows batteryStart (batteryPlacement db) b := by
  rw [windowsOfBattery, partWindows]
  show installationWindows _ b.assetId _ _ = installationWindows _ b.assetId _ _
  cases b.assetId with
  | none => rfl
  | some assetId => rfl

theorem windowsOfComponent_eq (db : Database) (c : Component) :
    windowsOfComponent db c.organizationId c
      = partWindows Component.createdAt (componentPlacement db) c := by
  rw [windowsOfComponent, partWindows]
  show installationWindows _ c.assetId _ _ = installationWindows _ c.assetId _ _
  cases c.assetId with
  | none => rfl
  | some assetId => rfl

/-- A call that places a battery or a component, or takes it off, or records a flight. -/
inductive PartAction
  | attachBattery (newId : UUID) (now : DateTime) (organizationId : UUID) (actor : Option UUID)
      (assetId : UUID) (args : BatteryAttach)
  | installBattery (newId : UUID) (now : DateTime) (organizationId : UUID) (actor : Option UUID)
      (batteryId assetId : UUID)
  | removeBattery (now : DateTime) (organizationId : UUID) (actor : Option UUID)
      (batteryId assetId : UUID)
  | component (a : LifetimeUsage.Action)

def step (u : UnicodeTables) (db : Database) : PartAction → Except Error Database
  | .attachBattery newId now org actor assetId args =>
    attachBattery db newId now org actor assetId args
  | .installBattery newId now org actor batteryId assetId =>
    installBattery db newId now org actor batteryId assetId
  | .removeBattery now org actor batteryId assetId =>
    removeBattery db now org actor batteryId assetId
  | .component a => LifetimeUsage.step u db a

end PartWindows
end AeroComply
