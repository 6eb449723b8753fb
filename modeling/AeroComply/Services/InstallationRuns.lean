import AeroComply.Lib.Runs
import AeroComply.Services.Installation
import AeroComply.Services.Maintenance

/-!
# InstallationRuns — placement and history over sequences of calls

`Consistent t` says what the eight operations keep of one kind of item at time
`t`: the history rows of an item follow one another, the last one may be open,
an open row names the asset the item is on, and an item that is placed without an
open row was attached and never installed.

The last case is the attach paths, which write no row; for every other item the
placement column and the history say the same.
-/

namespace AeroComply

open Relational (Keyed Table)

namespace InstallationRuns

open InstallationService
open MaintenanceService (windowOf isOpenOn installationWindows DisjointInTime)
open WindowSum (within within_some_some)

section Generic

variable {α : Type} [Placeable α]

/-- If both rows are of one item, the earlier one was closed before the later one started. -/
def Before (r r' : Installation) : Prop :=
  r.itemId = r'.itemId → ∃ e, r.removedAt = some e ∧ e ≤ r'.installedAt

def rowsOf (p : Placement α) (i : α) : List Installation :=
  p.history.select fun r => r.itemId = Keyed.key i

/-- The open ones. -/
def openRowsOf (p : Placement α) (i : α) : List Installation :=
  p.history.select fun r => r.itemId = Keyed.key i && r.removedAt.isNone

structure Consistent (t : DateTime) (p : Placement α) : Prop where
  owner : ∀ r ∈ p.history.rows, ∃ i ∈ p.items.rows,
    Keyed.key i = r.itemId ∧ Placeable.organizationId i = r.organizationId
  placed : ∀ r ∈ p.history.rows, r.removedAt = none →
    ∀ i ∈ p.items.rows, Keyed.key i = r.itemId → Placeable.assetId i = some r.assetId
  attached : ∀ i ∈ p.items.rows, Placeable.assetId i ≠ none →
    (∀ r ∈ p.history.rows, r.itemId = Keyed.key i → r.removedAt ≠ none) →
    ∀ r ∈ p.history.rows, r.itemId ≠ Keyed.key i
  past : ∀ r ∈ p.history.rows, r.installedAt ≤ t ∧ ∀ e, r.removedAt = some e → e ≤ t
  ordered : p.history.rows.Pairwise Before

variable {t : DateTime} {p p' : Placement α}

theorem Consistent.later {t' : DateTime} (h : Consistent t p) (htt : t ≤ t') :
    Consistent t' p where
  owner := h.owner
  placed := h.placed
  attached := h.attached
  past r hr := ⟨le_trans (h.past r hr).1 htt, fun e he => le_trans ((h.past r hr).2 e he) htt⟩
  ordered := h.ordered

theorem Consistent.of_empty (hitems : p.items.rows = []) (hrows : p.history.rows = []) :
    Consistent t p where
  owner r hr := by rw [hrows] at hr; cases hr
  placed r hr := by rw [hrows] at hr; cases hr
  attached i hi := by rw [hitems] at hi; cases hi
  past r hr := by rw [hrows] at hr; cases hr
  ordered := by rw [hrows]; exact List.Pairwise.nil

theorem Consistent.rows_of_item (h : Consistent t p) {r r' : Installation}
    (hr : r ∈ p.history.rows) (hr' : r' ∈ p.history.rows) (hne : r ≠ r') :
    Before r r' ∨ Before r' r := by
  have : Std.Symm (fun a b => Before a b ∨ Before b a) := ⟨fun _ _ hab => hab.symm⟩
  have hboth : p.history.rows.Pairwise (fun a b => Before a b ∨ Before b a) :=
    h.ordered.imp Or.inl
  exact hboth.forall hr hr' hne

theorem Consistent.open_unique (h : Consistent t p) {r r' : Installation}
    (hr : r ∈ p.history.rows) (hr' : r' ∈ p.history.rows) (hitem : r.itemId = r'.itemId)
    (ho : r.removedAt = none) (ho' : r'.removedAt = none) : r = r' := by
  by_contra hne
  rcases h.rows_of_item hr hr' hne with hb | hb
  · obtain ⟨e, he, _⟩ := hb hitem
    rw [ho] at he
    cases he
  · obtain ⟨e, he, _⟩ := hb hitem.symm
    rw [ho'] at he
    cases he

/-! ## The four kinds of write -/

theorem Consistent.attach {item : α} (h : Consistent t p)
    (ha : attachItem p item = .ok p') : Consistent t p' := by
  obtain ⟨items, hadd, ha⟩ := bind_eq_ok.1 ha
  rw [pure_eq_ok] at ha
  subst ha
  have hins := addRowOrRaise_eq_ok.1 hadd
  have hfresh : ∀ r ∈ p.history.rows, r.itemId ≠ Keyed.key item := by
    intro r hr hkey
    obtain ⟨i, hi, hik, _⟩ := h.owner r hr
    exact (Table.insert?_eq_some hins).1 (List.mem_map.2 ⟨i, hi, hik.trans hkey⟩)
  refine ⟨?_, ?_, ?_, h.past, h.ordered⟩
  · intro r hr
    obtain ⟨i, hi, hik⟩ := h.owner r hr
    exact ⟨i, (Table.mem_insert? hins).2 (Or.inl hi), hik⟩
  · intro r hr ho i hi hik
    rcases (Table.mem_insert? hins).1 hi with hi | rfl
    · exact h.placed r hr ho i hi hik
    · exact absurd hik.symm (hfresh r hr)
  · intro i hi hplaced hclosed
    rcases (Table.mem_insert? hins).1 hi with hi | rfl
    · exact h.attached i hi hplaced hclosed
    · exact hfresh

theorem owner_save {old new : α}
    (h : ∀ r ∈ p.history.rows, ∃ i ∈ p.items.rows,
      Keyed.key i = r.itemId ∧ Placeable.organizationId i = r.organizationId)
    (hold : old ∈ p.items.rows) (hkey : Keyed.key new = Keyed.key old)
    (horg : Placeable.organizationId new = Placeable.organizationId old) :
    ∀ r ∈ p.history.rows, ∃ i ∈ (p.items.save new).rows,
      Keyed.key i = r.itemId ∧ Placeable.organizationId i = r.organizationId := by
  intro r hr
  obtain ⟨i, hi, hik, hio⟩ := h r hr
  rcases Table.kept_or_replaced hold hkey.symm hi with hi | ⟨rfl, hnew⟩
  · exact ⟨i, hi, hik, hio⟩
  · exact ⟨new, hnew, hkey.trans hik, horg.trans hio⟩

theorem Consistent.unplace {old new : α} (h : Consistent t p) (hold : old ∈ p.items.rows)
    (hkey : Keyed.key new = Keyed.key old)
    (horg : Placeable.organizationId new = Placeable.organizationId old)
    (hoff : Placeable.assetId new = none)
    (hclosed : ∀ r ∈ p.history.rows, r.itemId = Keyed.key old → r.removedAt ≠ none) :
    Consistent t { p with items := p.items.save new } := by
  have hmem : ∀ i, i ∈ (p.items.save new).rows ↔
      (i ∈ p.items.rows ∧ Keyed.key i ≠ Keyed.key new) ∨ i = new :=
    fun i => Table.mem_save_of_mem hold hkey.symm
  refine ⟨owner_save h.owner hold hkey horg, ?_, ?_, h.past, h.ordered⟩
  · intro r hr ho i hi hik
    rcases (hmem i).1 hi with ⟨hi, _⟩ | rfl
    · exact h.placed r hr ho i hi hik
    · exact absurd ho (hclosed r hr (hik.symm.trans hkey))
  · intro i hi hne hcl
    rcases (hmem i).1 hi with ⟨hi, _⟩ | rfl
    · exact h.attached i hi hne hcl
    · exact absurd hoff hne

variable {r : Installation} {i : α} {actor : Option UUID} {row : Installation}

/-- An item without an open row is put on an asset, and an open row that starts now says so. -/
theorem Consistent.install {old new : α} {history : Table Installation} (h : Consistent t p)
    (hold : old ∈ p.items.rows) (hkey : Keyed.key new = Keyed.key old)
    (horg : Placeable.organizationId new = Placeable.organizationId old)
    (hitem : row.itemId = Keyed.key old) (hrow : row.organizationId = Placeable.organizationId old)
    (hon : Placeable.assetId new = some row.assetId) (hnow : row.installedAt = t)
    (hopen : row.removedAt = none) (hadd : addInstallation p.history row = .ok history) :
    Consistent t { items := p.items.save new, history } := by
  obtain ⟨hnone, hins⟩ := addInstallation_eq_ok hadd
  have hmem : ∀ r, r ∈ history.rows ↔ r ∈ p.history.rows ∨ r = row :=
    fun r => Table.mem_insert? hins
  have hitems : ∀ i, i ∈ (p.items.save new).rows ↔
      (i ∈ p.items.rows ∧ Keyed.key i ≠ Keyed.key new) ∨ i = new :=
    fun i => Table.mem_save_of_mem hold hkey.symm
  refine ⟨?_, ?_, ?_, ?_, ?_⟩
  · intro r hr
    rcases (hmem r).1 hr with hr | rfl
    · exact owner_save h.owner hold hkey horg r hr
    · exact ⟨new, (hitems new).2 (Or.inr rfl), hkey.trans hitem.symm, horg.trans hrow.symm⟩
  · intro r hr ho i hi hik
    rcases (hmem r).1 hr with hin | rfl
    · rcases (hitems i).1 hi with ⟨hi, _⟩ | rfl
      · exact h.placed r hin ho i hi hik
      · exact absurd ho (hnone r hin ((hik.symm.trans hkey).trans hitem.symm))
    · rcases (hitems i).1 hi with ⟨_, hne⟩ | rfl
      · exact absurd ((hik.trans hitem).trans hkey.symm) hne
      · exact hon
  · intro i hi hplaced hcl r hr hik
    have hother : row.itemId ≠ Keyed.key i :=
      fun hk => hcl row ((hmem row).2 (Or.inr rfl)) hk hopen
    rcases (hmem r).1 hr with hr | rfl
    · rcases (hitems i).1 hi with ⟨hi, _⟩ | rfl
      · exact h.attached i hi hplaced (fun r' hr' => hcl r' ((hmem r').2 (Or.inl hr'))) r hr hik
      · exact hother (hitem.trans hkey.symm)
    · exact hother hik
  · intro r hr
    rcases (hmem r).1 hr with hr | rfl
    · exact h.past r hr
    · refine ⟨le_of_eq hnow, ?_⟩
      intro e he
      rw [hopen] at he
      cases he
  · show history.rows.Pairwise Before
    rw [(Table.insert?_eq_some hins).2]
    refine List.pairwise_append.2 ⟨h.ordered, List.pairwise_singleton _ _, ?_⟩
    intro r hr r' hr' hsame
    rw [List.mem_singleton.1 hr'] at hsame ⊢
    cases he : r.removedAt with
    | none => exact absurd he (hnone r hr hsame)
    | some e =>
      refine ⟨e, rfl, ?_⟩
      rw [hnow]
      exact (h.past r hr).2 e he

theorem Consistent.remove {old new : α} (h : Consistent t p) (hold : old ∈ p.items.rows)
    (hkey : Keyed.key new = Keyed.key old)
    (horg : Placeable.organizationId new = Placeable.organizationId old)
    (hoff : Placeable.assetId new = none) (hr : r ∈ p.history.rows)
    (hitem : r.itemId = Keyed.key old) (hopen : r.removedAt = none) :
    Consistent t
      { items := p.items.save new, history := p.history.save (closed t actor r) } := by
  have hrow : ∀ x, x ∈ (p.history.save (closed t actor r)).rows ↔
      (x ∈ p.history.rows ∧ x.id ≠ r.id) ∨ x = closed t actor r :=
    fun x => Table.mem_save_of_mem hr rfl
  have hitems : ∀ i, i ∈ (p.items.save new).rows ↔
      (i ∈ p.items.rows ∧ Keyed.key i ≠ Keyed.key new) ∨ i = new :=
    fun i => Table.mem_save_of_mem hold hkey.symm
  have hsame : ∀ x ∈ p.history.rows, Keyed.key x = Keyed.key (closed t actor r) → x = r :=
    fun x hx hid => Table.eq_of_key_eq hx hr hid
  refine ⟨?_, ?_, ?_, ?_, ?_⟩
  · intro x hx
    rcases (hrow x).1 hx with ⟨hx, _⟩ | rfl
    · exact owner_save h.owner hold hkey horg x hx
    · exact owner_save h.owner hold hkey horg r hr
  · intro x hx ho i hi hik
    rcases (hrow x).1 hx with ⟨hin, hne⟩ | rfl
    · rcases (hitems i).1 hi with ⟨hi, _⟩ | rfl
      · exact h.placed x hin ho i hi hik
      · have hxr : x.itemId = r.itemId := (hik.symm.trans hkey).trans hitem.symm
        exact absurd (congrArg Installation.id (h.open_unique hin hr hxr ho hopen)) hne
    · cases ho
  · intro i hi hplaced hcl x hx hik
    rcases (hitems i).1 hi with ⟨hi, hne⟩ | rfl
    · have hother : r.itemId ≠ Keyed.key i :=
        fun hk => hne ((hk.symm.trans hitem).trans hkey.symm)
      have hcl' : ∀ y ∈ p.history.rows, y.itemId = Keyed.key i → y.removedAt ≠ none := by
        intro y hy hyi
        refine hcl y ((hrow y).2 (Or.inl ⟨hy, ?_⟩)) hyi
        intro hid
        rw [Table.eq_of_key_eq hy hr hid] at hyi
        exact hother hyi
      rcases (hrow x).1 hx with ⟨hx, _⟩ | rfl
      · exact h.attached i hi hplaced hcl' x hx hik
      · exact hother hik
    · exact hplaced hoff
  · intro x hx
    rcases (hrow x).1 hx with ⟨hx, _⟩ | rfl
    · exact h.past x hx
    · refine ⟨(h.past r hr).1, ?_⟩
      intro e he
      cases he
      exact le_refl t
  · refine Table.pairwise_save h.ordered ?_ ?_
    · -- the open row has no later row of its item
      intro x hx hid y hxy hsameItem
      rw [hsame x hx hid] at hxy
      obtain ⟨e, he, _⟩ := hxy hsameItem
      rw [hopen] at he
      cases he
    · intro y hy hid x hxy hsameItem
      rw [hsame y hy hid] at hxy
      exact hxy hsameItem

/-! ## The operations -/

theorem Consistent.createInstalled {item : α} (h : Consistent t p)
    (hitem : row.itemId = Keyed.key item)
    (hrow : row.organizationId = Placeable.organizationId item)
    (hon : Placeable.assetId item = some row.assetId) (hnow : row.installedAt = t)
    (hopen : row.removedAt = none) (hc : InstallationService.createInstalled p item row = .ok p') :
    Consistent t p' := by
  obtain ⟨items, hadd, hc⟩ := bind_eq_ok.1 hc
  obtain ⟨history, haddRow, hc⟩ := bind_eq_ok.1 hc
  rw [pure_eq_ok] at hc
  subst hc
  have hmem : item ∈ items.rows :=
    (Table.mem_insert? (addRowOrRaise_eq_ok.1 hadd)).2 (Or.inr rfl)
  have hattach : attachItem p item = .ok { p with items } := by
    rw [attachItem, hadd]
    rfl
  have hinst := (h.attach hattach).install hmem rfl rfl hitem hrow hon hnow hopen haddRow
  rwa [Table.save_self hmem] at hinst

theorem Consistent.installItem {place : α → α} {e e' : Error} (h : Consistent t p)
    (hi : InstallationService.installItem p row place e e' = .ok p') (hnow : row.installedAt = t)
    (hopen : row.removedAt = none) (hkey : ∀ i : α, Keyed.key (place i) = Keyed.key i)
    (horg : ∀ i : α, Placeable.organizationId (place i) = Placeable.organizationId i)
    (hon : ∀ i : α, Placeable.assetId (place i) = some row.assetId) : Consistent t p' := by
  obtain ⟨item, hmem, history, hid, hio, hadd, rfl⟩ := installItem_eq_ok hi
  exact h.install hmem (hkey item) (horg item) hid.symm hio.symm (hon item) hnow hopen hadd

theorem Consistent.removeItem {org itemId assetId : UUID} {unplace : α → α} {e e' : Error}
    (h : Consistent t p)
    (hr : InstallationService.removeItem p org itemId assetId t actor unplace e e' = .ok p')
    (hkey : ∀ i : α, Keyed.key (unplace i) = Keyed.key i)
    (horg : ∀ i : α, Placeable.organizationId (unplace i) = Placeable.organizationId i)
    (hoff : ∀ i : α, Placeable.assetId (unplace i) = none) : Consistent t p' := by
  obtain ⟨item, hmem, r, hin, ⟨hid, _, _⟩, ⟨hitem, _, hnone⟩, rfl⟩ := removeItem_eq_ok hr
  exact h.remove hmem (hkey item) (horg item) (hoff item) hin (hitem.trans hid.symm) hnone

theorem Consistent.detachItem {org itemId assetId : UUID} {unplace : α → α} {e : Error}
    (h : Consistent t p)
    (hd : InstallationService.detachItem p org itemId assetId t actor unplace e = .ok p')
    (hkey : ∀ i : α, Keyed.key (unplace i) = Keyed.key i)
    (horg : ∀ i : α, Placeable.organizationId (unplace i) = Placeable.organizationId i)
    (hoff : ∀ i : α, Placeable.assetId (unplace i) = none) : Consistent t p' := by
  obtain ⟨item, hmem, ⟨hid, _, hon⟩, ⟨hclosed, rfl⟩ | ⟨r, hin, ⟨hitem, _, hnone⟩, rfl⟩⟩ :=
    detachItem_eq_ok hd
  · refine h.unplace hmem (hkey item) (horg item) (hoff item) ?_
    -- an open row would name the asset the item is on, and be found
    intro r hr hitem hnone
    have hasset := h.placed r hr hnone item hmem hitem.symm
    rw [hon] at hasset
    exact hclosed r hr (hitem.trans hid) (Option.some.inj hasset).symm hnone
  · exact h.remove hmem (hkey item) (horg item) (hoff item) hin (hitem.trans hid.symm) hnone

/-! ## What the tables then say of an item -/

/-- Placed exactly when there is one open row, which names the asset. -/
structure Matches (p : Placement α) (i : α) : Prop where
  placed_iff : Placeable.assetId i ≠ none ↔ ∃ r, openRowsOf p i = [r]
  named : ∀ r, openRowsOf p i = [r] → Placeable.assetId i = some r.assetId

/-- The windows of an item are disjoint, whatever start a synthesized one falls back to. -/
def WindowsDisjoint (p : Placement α) (i : α) : Prop :=
  ∀ installedAt createdAt, DisjointInTime
    (installationWindows (rowsOf p i) (Placeable.assetId i) installedAt createdAt)

theorem mem_rowsOf :
    r ∈ rowsOf p i ↔ r ∈ p.history.rows ∧ r.itemId = Keyed.key i := by
  rw [rowsOf, Table.mem_select, decide_eq_true_eq]

theorem mem_openRowsOf :
    r ∈ openRowsOf p i ↔
      r ∈ p.history.rows ∧ r.itemId = Keyed.key i ∧ r.removedAt = none := by
  rw [openRowsOf, Table.mem_select, Bool.and_eq_true, decide_eq_true_eq,
    Option.isNone_iff_eq_none]

theorem Consistent.openRows_eq (h : Consistent t p) (hr : r ∈ openRowsOf p i) :
    openRowsOf p i = [r] := by
  obtain ⟨hin, hopen⟩ := Table.mem_select.1 hr
  refine Table.select_eq_singleton hin hopen ?_
  intro r' hin' hopen'
  obtain ⟨_, hitem, hnone⟩ := mem_openRowsOf.1 hr
  obtain ⟨_, hitem', hnone'⟩ := mem_openRowsOf.1 (Table.mem_select.2 ⟨hin', hopen'⟩)
  exact h.open_unique hin' hin (hitem'.trans hitem.symm) hnone' hnone

theorem Consistent.openRow_names (h : Consistent t p) (hi : i ∈ p.items.rows) :
    openRowsOf p i = [] ∨
      ∃ r, openRowsOf p i = [r] ∧ Placeable.assetId i = some r.assetId := by
  cases hrows : openRowsOf p i with
  | nil => exact Or.inl rfl
  | cons r rest =>
    have hmem : r ∈ openRowsOf p i := by
      rw [hrows]
      exact List.mem_cons_self
    obtain ⟨hin, hitem, hopen⟩ := mem_openRowsOf.1 hmem
    refine Or.inr ⟨r, ?_, h.placed r hin hopen i hi hitem.symm⟩
    rw [← hrows]
    exact h.openRows_eq hmem

theorem Consistent.matches (h : Consistent t p) (hi : i ∈ p.items.rows) (hrows : rowsOf p i ≠ []) :
    Matches p i := by
  have hopen := h.openRow_names hi
  refine ⟨⟨?_, ?_⟩, ?_⟩
  · intro hplaced
    rcases hopen with hnone | ⟨r, hr, _⟩
    · obtain ⟨r, hr⟩ := List.exists_mem_of_ne_nil _ hrows
      obtain ⟨hin, hitem⟩ := mem_rowsOf.1 hr
      refine absurd hitem (h.attached i hi hplaced ?_ r hin)
      intro r' hr' hitem' hnone'
      have hmem := mem_openRowsOf.2 ⟨hr', hitem', hnone'⟩
      rw [hnone] at hmem
      cases hmem
    · exact ⟨r, hr⟩
  · rintro ⟨r, hr⟩
    rcases hopen with hnone | ⟨r', _, hon⟩
    · rw [hnone] at hr
      cases hr
    · rw [hon]
      exact Option.some_ne_none _
  · intro r hr
    rcases hopen with hnone | ⟨r', hr', hon⟩
    · rw [hnone] at hr
      cases hr
    · rw [hr'] at hr
      cases hr
      exact hon

theorem Consistent.rows_disjoint (h : Consistent t p) (i : α) :
    DisjointInTime ((rowsOf p i).map windowOf) := by
  rw [DisjointInTime, List.pairwise_map]
  have hsub : (rowsOf p i).Pairwise Before := h.ordered.filter _
  refine hsub.imp_of_mem ?_
  intro r r' hr hr' hbefore time hin
  obtain ⟨_, hitem⟩ := mem_rowsOf.1 hr
  obtain ⟨_, hitem'⟩ := mem_rowsOf.1 hr'
  obtain ⟨e, he, hle⟩ := hbefore (hitem.trans hitem'.symm)
  simp only [windowOf, he, within_some_some] at hin
  by_contra hin'
  have hstart : r'.installedAt ≤ time := by
    simp only [windowOf, within, Bool.not_eq_false, Bool.and_eq_true] at hin'
    exact of_decide_eq_true hin'.1
  exact absurd hin.2 (not_lt.2 (le_trans hle hstart))

theorem Consistent.windows_disjoint (h : Consistent t p) (hi : i ∈ p.items.rows) :
    WindowsDisjoint p i := by
  intro installedAt createdAt
  cases hplaced : Placeable.assetId i with
  | none => exact h.rows_disjoint i
  | some assetId =>
    simp only [installationWindows]
    split
    · exact h.rows_disjoint i
    · next hany =>
      have hempty : rowsOf p i = [] := by
        by_contra hrows
        obtain ⟨r, hr⟩ := (h.matches hi hrows).placed_iff.1
          (by rw [hplaced]; exact Option.some_ne_none _)
        have hon := (h.matches hi hrows).named r hr
        have hmem : r ∈ openRowsOf p i := by
          rw [hr]
          exact List.mem_singleton_self r
        obtain ⟨hin, hitem, hopen⟩ := mem_openRowsOf.1 hmem
        refine hany (List.any_eq_true.2 ⟨windowOf r, ?_, ?_⟩)
        · exact List.mem_map_of_mem (mem_rowsOf.2 ⟨hin, hitem⟩)
        · rw [hplaced] at hon
          simp [isOpenOn, windowOf, hopen, Option.some.inj hon]
      rw [hempty]
      exact List.pairwise_singleton _ _

/-- What holds of an item in every reachable state; only an item that was attached and
never installed can be placed without an open row. -/
structure Recorded (p : Placement α) (i : α) : Prop where
  openRow : openRowsOf p i = [] ∨
    ∃ r, openRowsOf p i = [r] ∧ Placeable.assetId i = some r.assetId
  installed : rowsOf p i ≠ [] → Matches p i
  disjoint : WindowsDisjoint p i

theorem Consistent.recorded (h : Consistent t p) (hi : i ∈ p.items.rows) :
    Recorded p i where
  openRow := h.openRow_names hi
  installed := h.matches hi
  disjoint := h.windows_disjoint hi

end Generic

/-! ## Sequences of calls -/

inductive Action
  | attachBattery (newId : UUID) (now : DateTime) (organizationId : UUID) (actor : Option UUID)
      (assetId : UUID) (args : BatteryAttach)
  | installBattery (newId : UUID) (now : DateTime) (organizationId : UUID)
      (actor : Option UUID) (batteryId assetId : UUID)
  | removeBattery (now : DateTime) (organizationId : UUID) (actor : Option UUID)
      (batteryId assetId : UUID)
  | attachComponent (newId : UUID) (now : DateTime) (organizationId : UUID)
      (actor : Option UUID) (assetId : UUID) (args : ComponentAttach)
  | installComponent (newId : UUID) (now : DateTime) (organizationId : UUID)
      (actor : Option UUID) (componentId assetId : UUID)
  | removeComponent (now : DateTime) (organizationId : UUID) (actor : Option UUID)
      (componentId assetId : UUID)
  | installAssetComponent (newId newRowId : UUID) (now : DateTime) (organizationId : UUID)
      (actor : Option UUID) (assetId : UUID) (payload : AssetInstallComponentRequest)
  | removeAssetComponent (now : DateTime) (organizationId : UUID) (actor : Option UUID)
      (assetId componentId : UUID)

/-- When the call reads the clock. -/
def Action.now : Action → DateTime
  | .attachBattery _ now .. | .installBattery _ now .. | .removeBattery now ..
  | .attachComponent _ now .. | .installComponent _ now .. | .removeComponent now ..
  | .installAssetComponent _ _ now .. | .removeAssetComponent now .. => now

variable (u : UnicodeTables)

def step (db : Database) : Action → Except Error Database
  | .attachBattery newId now org actor assetId args =>
    attachBattery db newId now org actor assetId args
  | .installBattery newId now org actor batteryId assetId =>
    installBattery db newId now org actor batteryId assetId
  | .removeBattery now org actor batteryId assetId =>
    removeBattery db now org actor batteryId assetId
  | .attachComponent newId now org actor assetId args =>
    attachComponent db newId now org actor assetId args
  | .installComponent newId now org actor componentId assetId =>
    installComponent db newId now org actor componentId assetId
  | .removeComponent now org actor componentId assetId =>
    removeComponent db now org actor componentId assetId
  | .installAssetComponent newId newRowId now org actor assetId payload =>
    installAssetComponent u db newId newRowId now org actor assetId payload
  | .removeAssetComponent now org actor assetId componentId =>
    removeAssetComponent db now org actor assetId componentId

structure Inv (t : DateTime) (db : Database) : Prop where
  batteries : Consistent t (batteryPlacement db)
  components : Consistent t (componentPlacement db)

/-- **ONE CALL**: each of the eight operations keeps both kinds of item consistent. -/
theorem inv_step {db db' : Database} {a : Action} (hinv : Inv a.now db)
    (h : step u db a = .ok db') : Inv a.now db' := by
  obtain ⟨hb, hc⟩ := hinv
  cases a with
  | attachBattery newId now org actor assetId args =>
    obtain ⟨_, _, h⟩ := bind_eq_ok.1 h
    obtain ⟨p, hp, h⟩ := bind_eq_ok.1 h
    rw [pure_eq_ok] at h
    subst h
    exact ⟨hb.attach hp, hc⟩
  | installBattery newId now org actor batteryId assetId =>
    obtain ⟨_, _, h⟩ := bind_eq_ok.1 h
    obtain ⟨p, hp, h⟩ := bind_eq_ok.1 h
    rw [pure_eq_ok] at h
    subst h
    exact ⟨hb.installItem hp rfl rfl (fun _ => rfl) (fun _ => rfl) (fun _ => rfl), hc⟩
  | removeBattery now org actor batteryId assetId =>
    obtain ⟨p, hp, h⟩ := bind_eq_ok.1 h
    rw [pure_eq_ok] at h
    subst h
    exact ⟨hb.removeItem hp (fun _ => rfl) (fun _ => rfl) (fun _ => rfl), hc⟩
  | attachComponent newId now org actor assetId args =>
    obtain ⟨_, _, h⟩ := bind_eq_ok.1 h
    obtain ⟨p, hp, h⟩ := bind_eq_ok.1 h
    rw [pure_eq_ok] at h
    subst h
    exact ⟨hb, hc.attach hp⟩
  | installComponent newId now org actor componentId assetId =>
    obtain ⟨_, _, h⟩ := bind_eq_ok.1 h
    obtain ⟨p, hp, h⟩ := bind_eq_ok.1 h
    rw [pure_eq_ok] at h
    subst h
    exact ⟨hb, hc.installItem hp rfl rfl (fun _ => rfl) (fun _ => rfl) (fun _ => rfl)⟩
  | removeComponent now org actor componentId assetId =>
    obtain ⟨p, hp, h⟩ := bind_eq_ok.1 h
    rw [pure_eq_ok] at h
    subst h
    exact ⟨hb, hc.removeItem hp (fun _ => rfl) (fun _ => rfl) (fun _ => rfl)⟩
  | installAssetComponent newId newRowId now org actor assetId payload =>
    obtain ⟨_, _, h⟩ := bind_eq_ok.1 h
    obtain ⟨p, hp, h⟩ := bind_eq_ok.1 h
    rw [pure_eq_ok] at h
    subst h
    exact ⟨hb, hc.createInstalled rfl rfl rfl rfl rfl hp⟩
  | removeAssetComponent now org actor assetId componentId =>
    obtain ⟨_, _, h⟩ := bind_eq_ok.1 h
    obtain ⟨p, hp, h⟩ := bind_eq_ok.1 h
    rw [pure_eq_ok] at h
    subst h
    exact ⟨hb, hc.detachItem hp (fun _ => rfl) (fun _ => rfl) (fun _ => rfl)⟩

/-- The state has no item and no history yet. -/
structure NoItems (db : Database) : Prop where
  batteries : db.batteries.rows = []
  batteryRows : db.batteryInstallations.rows = []
  components : db.components.rows = []
  componentRows : db.componentInstallations.rows = []

theorem NoItems.inv {db : Database} (h : NoItems db) (t : DateTime) : Inv t db where
  batteries := Consistent.of_empty h.batteries h.batteryRows
  components := Consistent.of_empty h.components h.componentRows

/-- **PLACEMENT AND HISTORY**: in every state that calls at non-decreasing times reach, an
item that has ever been installed is on an asset exactly when it has one open row, which
names that asset; every item has at most one open row, and disjoint windows. -/
theorem placement_recorded {db : Database} (hstart : NoItems db) (as : List Action)
    (hclock : (as.map Action.now).Pairwise (· ≤ ·)) :
    ∀ db' ∈ Runs.visited (step u) db as,
      (∀ b ∈ db'.batteries.rows, Recorded (batteryPlacement db') b) ∧
      (∀ c ∈ db'.components.rows, Recorded (componentPlacement db') c) := by
  intro db' hdb'
  obtain ⟨t, hinv⟩ := Runs.visited_timed_invariant Action.now
    (fun t t' db htt hinv => ⟨hinv.batteries.later htt, hinv.components.later htt⟩)
    (fun _ _ _ hinv h => inv_step u hinv h) hstart.inv hclock db' hdb'
  exact ⟨fun b hb => hinv.batteries.recorded hb, fun c hc => hinv.components.recorded hc⟩

def twoDrones : Database where
  assets := ⟨[{ id := 1, organizationId := 1, assetType := AssetType.drone },
    { id := 2, organizationId := 1, assetType := AssetType.drone }], by decide⟩

def attachMotor : Action :=
  .attachComponent 10 5 1 none 1 { componentType := "MOTOR", name := "Motor 1" }

/-- An attached component is on an asset and has no open row. -/
theorem attached_without_row :
    ¬∀ db' ∈ Runs.visited (step .ascii) twoDrones [attachMotor],
      ∀ c ∈ db'.components.rows, Matches (componentPlacement db') c := by
  intro h
  have hlast := h _ (List.mem_cons_of_mem _ (List.mem_cons_self ..)) _ (List.mem_cons_self ..)
  obtain ⟨r, hr⟩ := hlast.placed_iff.1 (Option.some_ne_none _)
  cases hr

/-- Attached, installed on another drone, removed, and installed again. -/
theorem moved_motor_recorded :
    (Runs.visited (step .ascii) twoDrones
      [attachMotor, .installComponent 20 6 1 none 10 2, .removeAssetComponent 7 1 none 2 10,
        .installComponent 21 8 1 none 10 1]).Forall
      fun db' => (∀ b ∈ db'.batteries.rows, Recorded (batteryPlacement db') b) ∧
        (∀ c ∈ db'.components.rows, Recorded (componentPlacement db') c) :=
  List.forall_iff_forall_mem.2
    (placement_recorded .ascii ⟨rfl, rfl, rfl, rfl⟩ _ (by decide))

end InstallationRuns
end AeroComply
