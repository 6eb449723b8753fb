import Mathlib.Algebra.Order.Monoid.Prod
import AeroComply.Services.InstallationRuns

/-!
# LifetimeUsage — the total usage of a component over sequences of calls

`_evaluate_for_component` adds up the flights of every window the component was
installed in.  The attach path writes no history row; while the component stays
where it was attached, `_installation_windows` makes up the missing window, and
when it leaves, that window is gone.

`flownBy` is what the windows add up to.  A call takes flights away from it in
two ways: it drops the made-up window, or it closes a window before a flight that
is already recorded.  `Careful` rules out both, and nothing else.
-/

namespace AeroComply

open Relational (Table)

namespace LifetimeUsage

open FlightService InstallationService InstallationRuns MaintenanceService
open WindowSum (within)

/-- The windows of a component, as `_evaluate_for_component` reads them. -/
def componentWindows (db : Database) (c : Component) : List InstallationWindow :=
  installationWindows
    (db.componentInstallations.select fun r =>
      r.organizationId = c.organizationId && r.itemId = c.id)
    c.assetId none c.createdAt

/-- The lifetime usage of a component, in hours and in cycles. -/
def lifetimeUsage (fl : ℚ → ℚ) (db : Database) (c : Component) : Except Error (ℚ × ℚ) :=
  usageAcrossWindows fl db c.organizationId (componentWindows db c) none

/-- The minutes and cycles flown in the windows of a component. -/
def flownBy (db : Database) (c : Component) : Int × Int :=
  ((componentWindows db c).map (flownOf db c.organizationId)).sum

/-! ## Sequences of calls -/

inductive Action
  | attachComponent (newId : UUID) (now : DateTime) (organizationId : UUID)
      (actor : Option UUID) (assetId : UUID) (args : ComponentAttach)
  | installComponent (newId : UUID) (now : DateTime) (organizationId : UUID)
      (actor : Option UUID) (componentId assetId : UUID)
  | removeComponent (now : DateTime) (organizationId : UUID) (actor : Option UUID)
      (componentId assetId : UUID)
  | installAssetComponent (newId newRowId : UUID) (now : DateTime) (organizationId : UUID)
      (actor : Option UUID) (assetId : UUID) (payload : AssetInstallComponentRequest)
  | removeAssetComponent (now : DateTime) (organizationId : UUID) (actor : Option UUID)
      (assetId componentId : UUID)
  | recordFlight (newId : UUID) (now : DateTime) (organizationId : UUID) (actor : Option UUID)
      (assetId : UUID) (payload : FlightCreateRequest) (updateBattery : Bool)
  | recordAssetFlight (newId : UUID) (now : DateTime) (organizationId : UUID)
      (actor : Option UUID) (assetId : UUID) (payload : FlightCreateRequest)

/-- When the call is made. -/
def Action.now : Action → DateTime
  | .attachComponent _ now .. | .installComponent _ now .. | .removeComponent now ..
  | .installAssetComponent _ _ now .. | .removeAssetComponent now ..
  | .recordFlight _ now .. | .recordAssetFlight _ now .. => now

variable (u : UnicodeTables)

def step (db : Database) : Action → Except Error Database
  | .attachComponent newId now org actor assetId args =>
    attachComponent db newId now org actor assetId args
  | .installComponent newId now org actor componentId assetId =>
    installComponent db newId now org actor componentId assetId
  | .removeComponent now org actor componentId assetId =>
    removeComponent db now org actor componentId assetId
  | .installAssetComponent newId newRowId now org actor assetId payload =>
    installAssetComponent u db newId newRowId now org actor assetId payload
  | .removeAssetComponent now org actor assetId componentId =>
    removeAssetComponent db now org actor assetId componentId
  | .recordFlight newId _ org actor assetId payload updateBattery =>
    recordFlight db newId org actor assetId payload updateBattery
  | .recordAssetFlight newId _ org actor assetId payload =>
    recordAssetFlight db newId org actor assetId payload

/-- The recorded flights of an open window. -/
def flownSince (db : Database) (org assetId : UUID) (start : DateTime) : List Flight :=
  db.flights.select (flownIn org ⟨assetId, start, none⟩)

/-- The component is on `assetId` and no row says so. -/
def Unrecorded (db : Database) (c : Component) (assetId : UUID) : Prop :=
  c.assetId = some assetId ∧ openRowsOf (componentPlacement db) c = []

instance (db : Database) (c : Component) (assetId : UUID) : Decidable (Unrecorded db c assetId) :=
  inferInstanceAs (Decidable (_ ∧ _))

/-- What a call that moves the component must not leave behind: the flights of a window that
no row records, and the flights of a row that lie at or after its end. -/
def Careful (db : Database) : Action → Prop
  | .installComponent _ now org _ componentId assetId =>
    ∀ c ∈ db.components.rows, c.id = componentId → c.organizationId = org →
      (db.getDrone org assetId).isOk = true → ∀ old ∈ c.assetId, Unrecorded db c old →
        ∀ f ∈ flownSince db c.organizationId old c.createdAt, old = assetId ∧ now ≤ f.flownAt
  | .removeComponent now org _ componentId assetId =>
    ∀ c ∈ db.components.rows, c.id = componentId → c.organizationId = org →
      c.assetId = some assetId → ∀ r ∈ openRowsOf (componentPlacement db) c,
        ∀ f ∈ flownSince db c.organizationId assetId r.installedAt, f.flownAt < now
  | .removeAssetComponent now org _ assetId componentId =>
    ∀ c ∈ db.components.rows, c.id = componentId → c.organizationId = org →
      c.assetId = some assetId →
        (∀ r ∈ openRowsOf (componentPlacement db) c,
          ∀ f ∈ flownSince db c.organizationId assetId r.installedAt, f.flownAt < now) ∧
        (Unrecorded db c assetId → flownSince db c.organizationId assetId c.createdAt = [])
  | _ => True

instance (db : Database) : (a : Action) → Decidable (Careful db a)
  | .installComponent .. | .removeComponent .. | .removeAssetComponent .. => by
    dsimp only [Careful]
    infer_instance
  | .attachComponent .. | .installAssetComponent .. | .recordFlight ..
  | .recordAssetFlight .. => isTrue trivial

/-! ## The windows of a component, one by one -/

variable {db : Database} {c : Component}

theorem flownOf_nonneg {org : UUID} {w : InstallationWindow}
    (hpos : ∀ f ∈ db.flights.rows, 0 ≤ f.durationMinutes ∧ 0 ≤ f.cycles) :
    0 ≤ flownOf db org w :=
  ⟨WindowSum.total_nonneg fun f hf => (hpos f hf).1,
    WindowSum.total_nonneg fun f hf => (hpos f hf).2⟩

theorem flownOf_mono {org : UUID} {w w' : InstallationWindow}
    (hpos : ∀ f ∈ db.flights.rows, 0 ≤ f.durationMinutes ∧ 0 ≤ f.cycles)
    (h : ∀ f ∈ db.flights.rows, flownIn org w f = true → flownIn org w' f = true) :
    flownOf db org w ≤ flownOf db org w' :=
  ⟨WindowSum.total_mono (fun f hf => (hpos f hf).1) h,
    WindowSum.total_mono (fun f hf => (hpos f hf).2) h⟩

/-- The history rows of a component. -/
def historyOf (db : Database) (c : Component) : List Installation :=
  db.componentInstallations.select fun r =>
    r.organizationId = c.organizationId && r.itemId = c.id

variable {items : Table Component} {r : Installation} {history : Table Installation}
  {row : Installation} {item : Component} {actor : Option UUID} {status : String}
  {p : Placement Component} {db' : Database} {assetId : UUID}

theorem mem_historyOf :
    r ∈ historyOf db c ↔ r ∈ db.componentInstallations.rows ∧
      r.organizationId = c.organizationId ∧ r.itemId = c.id := by
  simp [historyOf, Table.mem_select]

/-- What the rows of the history add up to. -/
def flownInHistory (db : Database) (c : Component) : Int × Int :=
  ((historyOf db c).map fun r => flownOf db c.organizationId (windowOf r)).sum

/-- What the window that no row records adds. -/
def flownUnrecorded (db : Database) (c : Component) : Int × Int :=
  match c.assetId with
  | none => 0
  | some assetId =>
    if ((historyOf db c).map windowOf).any (isOpenOn assetId) then 0
    else flownOf db c.organizationId ⟨assetId, c.createdAt, none⟩

theorem flownBy_eq (db : Database) (c : Component) :
    flownBy db c = flownInHistory db c + flownUnrecorded db c := by
  have hrows : (((historyOf db c).map windowOf).map (flownOf db c.organizationId)).sum
      = flownInHistory db c := by
    rw [List.map_map]
    rfl
  rw [flownBy, flownUnrecorded]
  show ((installationWindows (historyOf db c) c.assetId none c.createdAt).map _).sum = _
  cases hc : c.assetId with
  | none =>
    show (((historyOf db c).map windowOf).map _).sum = flownInHistory db c + 0
    rw [hrows, add_zero]
  | some assetId =>
    simp only [installationWindows]
    -- the window is made up exactly when no row is open on the asset
    by_cases hany : ((historyOf db c).map windowOf).any (isOpenOn assetId) = true
    · rw [if_pos hany, if_pos hany, hrows, add_zero]
    · rw [if_neg hany, if_neg hany, List.map_append, List.sum_append, hrows]
      simp

theorem any_isOpenOn :
    ((historyOf db c).map windowOf).any (isOpenOn assetId) = true ↔
      ∃ r ∈ historyOf db c, r.assetId = assetId ∧ r.removedAt = none := by
  rw [List.any_map, List.any_eq_true]
  refine exists_congr fun r => and_congr_right fun _ => ?_
  rw [Function.comp_apply, isOpenOn, Bool.and_eq_true, decide_eq_true_eq,
    Option.isNone_iff_eq_none]
  rfl

theorem flownBy_of_open (hr : r ∈ historyOf db c) (hon : c.assetId = some r.assetId)
    (hopen : r.removedAt = none) :
    flownBy db c = flownInHistory db c := by
  have hzero : flownUnrecorded db c = 0 := by
    rw [flownUnrecorded, hon]
    exact if_pos (any_isOpenOn.2 ⟨r, hr, rfl, hopen⟩)
  rw [flownBy_eq, hzero, add_zero]

theorem flownBy_of_none (hoff : c.assetId = none) : flownBy db c = flownInHistory db c := by
  have hzero : flownUnrecorded db c = 0 := by
    rw [flownUnrecorded, hoff]
  rw [flownBy_eq, hzero, add_zero]

theorem flownUnrecorded_le (hon : c.assetId = some assetId)
    (hpos : ∀ f ∈ db.flights.rows, 0 ≤ f.durationMinutes ∧ 0 ≤ f.cycles) :
    flownUnrecorded db c ≤ flownOf db c.organizationId ⟨assetId, c.createdAt, none⟩ := by
  rw [flownUnrecorded, hon]
  dsimp only
  split
  · exact flownOf_nonneg hpos
  · exact le_refl _

theorem flownBy_congr (hf : db'.flights = db.flights) (hh : historyOf db' c = historyOf db c) :
    flownBy db' c = flownBy db c := by
  have hflown : flownOf db' c.organizationId = flownOf db c.organizationId := by
    funext w
    rw [flownOf, flownOf, hf]
  rw [flownBy_eq, flownBy_eq, flownInHistory, flownInHistory, flownUnrecorded, flownUnrecorded,
    hh, hflown]

/-! ## What every call keeps -/

/-- What holds between calls; no asset has a baseline. -/
structure Inv (t : DateTime) (db : Database) : Prop where
  consistent : Consistent t (componentPlacement db)
  rowsLive : ∀ r ∈ db.componentInstallations.rows,
    ∃ asset, db.getAsset r.organizationId r.assetId = .ok asset
  placedLive : ∀ c ∈ db.components.rows, ∀ assetId ∈ c.assetId,
    ∃ asset, db.getAsset c.organizationId assetId = .ok asset
  flights : ∀ f ∈ db.flights.rows, 0 ≤ f.durationMinutes ∧ 0 ≤ f.cycles
  noBaselines : db.baselines.rows = []

/-- Every component is still there, and what its windows add up to has not gone down. -/
def FlownGrows (db db' : Database) : Prop :=
  ∀ c ∈ db.components.rows, ∃ c' ∈ db'.components.rows, c'.id = c.id ∧
    flownBy db c ≤ flownBy db' c'

theorem FlownGrows.refl (db : Database) : FlownGrows db db :=
  fun c hc => ⟨c, hc, rfl, le_refl _⟩

theorem FlownGrows.trans {db₁ db₂ db₃ : Database} (h₁ : FlownGrows db₁ db₂)
    (h₂ : FlownGrows db₂ db₃) : FlownGrows db₁ db₃ := by
  intro c hc
  obtain ⟨c₂, hc₂, hid₂, hle₂⟩ := h₁ c hc
  obtain ⟨c₃, hc₃, hid₃, hle₃⟩ := h₂ c₂ hc₂
  exact ⟨c₃, hc₃, hid₃.trans hid₂, le_trans hle₂ hle₃⟩

/-- Writes to the components and their history: what is left to show of a call. -/
structure Moves (t : DateTime) (db : Database) (p : Placement Component) : Prop where
  consistent : Consistent t p
  rowsLive : ∀ r ∈ p.history.rows, ∃ asset, db.getAsset r.organizationId r.assetId = .ok asset
  placedLive : ∀ c ∈ p.items.rows, ∀ assetId ∈ c.assetId,
    ∃ asset, db.getAsset c.organizationId assetId = .ok asset
  grows : FlownGrows db (withComponents db p)

theorem Moves.step {t : DateTime} (h : Moves t db p) (hinv : Inv t db) (org : UUID)
    (actor : Option UUID) (action entity : String) (id : Option UUID) :
    Inv t ((withComponents db p).recordAuditEvent org actor action entity id) ∧
      FlownGrows db ((withComponents db p).recordAuditEvent org actor action entity id) :=
  ⟨⟨h.consistent, h.rowsLive, h.placedLive, hinv.flights, hinv.noBaselines⟩, h.grows⟩

/-! ### The history of a component after a write -/

variable {t : DateTime}

theorem historyOf_insert (h : db.componentInstallations.insert? row = some history) :
    historyOf (withComponents db { items, history }) c = historyOf db c ++ [row].filter
      (fun r => r.organizationId = c.organizationId && r.itemId = c.id) :=
  Table.select_insert? h _

theorem historyOf_insert_other (h : db.componentInstallations.insert? row = some history)
    (hne : row.itemId ≠ c.id) :
    historyOf (withComponents db { items, history }) c = historyOf db c := by
  rw [historyOf_insert h, List.filter_cons_of_neg (by simp [hne])]
  exact List.append_nil _

theorem historyOf_close {now : DateTime} (hr : r ∈ db.componentInstallations.rows) :
    historyOf (withComponents db
        { items, history := db.componentInstallations.save (closed now actor r) }) c
      = (historyOf db c).map (fun x => if x.id = r.id then closed now actor r else x) := by
  refine Table.select_save ?_
  intro x hx hid
  rw [Table.eq_of_key_eq hx hr hid]
  rfl

theorem historyOf_close_other {now : DateTime} (hr : r ∈ db.componentInstallations.rows)
    (hne : r.itemId ≠ c.id) :
    historyOf (withComponents db
        { items, history := db.componentInstallations.save (closed now actor r) }) c
      = historyOf db c := by
  have hid : ∀ x ∈ historyOf db c, (if x.id = r.id then closed now actor r else x) = id x := by
    intro x hx
    obtain ⟨hin, _, hitem⟩ := mem_historyOf.1 hx
    refine if_neg ?_
    intro hsame
    rw [Table.eq_of_key_eq hin hr hsame] at hitem
    exact hne hitem
  rw [historyOf_close hr, List.map_congr_left hid, List.map_id]

theorem Inv.mem_history (hinv : Inv t db) (hc : c ∈ db.components.rows)
    (hr : r ∈ db.componentInstallations.rows) (hitem : r.itemId = c.id) :
    r ∈ historyOf db c := by
  obtain ⟨i, hi, hkey, horg⟩ := hinv.consistent.owner r hr
  have hsame : i = c := Table.eq_of_key_eq hi hc (hkey.trans hitem)
  rw [hsame] at horg
  exact mem_historyOf.2 ⟨hr, horg.symm, hitem⟩

/-! ## The writes -/

theorem Inv.attach (hinv : Inv t db) (ha : attachItem (componentPlacement db) item = .ok p)
    (hlive : ∀ assetId ∈ item.assetId, ∃ asset, db.getAsset item.organizationId assetId = .ok asset) :
    Moves t db p := by
  have hcons := hinv.consistent.attach ha
  obtain ⟨items, hadd, ha⟩ := bind_eq_ok.1 ha
  rw [pure_eq_ok] at ha
  subst ha
  have hmem : ∀ c, c ∈ items.rows ↔ c ∈ db.components.rows ∨ c = item :=
    fun c => Table.mem_insert? (addRowOrRaise_eq_ok.1 hadd)
  refine ⟨hcons, hinv.rowsLive, ?_, ?_⟩
  · intro c hc
    rcases (hmem c).1 hc with hc | rfl
    · exact hinv.placedLive c hc
    · exact hlive
  · intro c hc
    exact ⟨c, (hmem c).2 (Or.inl hc), rfl, le_of_eq (flownBy_congr rfl rfl).symm⟩

theorem Inv.createInstalled (hinv : Inv t db)
    (hc : createInstalled (componentPlacement db) item row = .ok p) (hitem : row.itemId = item.id)
    (horg : row.organizationId = item.organizationId) (hon : item.assetId = some row.assetId)
    (hnow : row.installedAt = t) (hopen : row.removedAt = none)
    (hlive : ∃ asset, db.getAsset row.organizationId row.assetId = .ok asset) : Moves t db p := by
  have hcons := hinv.consistent.createInstalled hitem horg hon hnow hopen hc
  obtain ⟨items, hadd, hc⟩ := bind_eq_ok.1 hc
  obtain ⟨history, haddRow, hc⟩ := bind_eq_ok.1 hc
  rw [pure_eq_ok] at hc
  subst hc
  have hins := addRowOrRaise_eq_ok.1 hadd
  obtain ⟨_, hinsRow⟩ := addInstallation_eq_ok haddRow
  have hmem : ∀ c, c ∈ items.rows ↔ c ∈ db.components.rows ∨ c = item :=
    fun c => Table.mem_insert? hins
  refine ⟨hcons, ?_, ?_, ?_⟩
  · intro r hr
    rcases (Table.mem_insert? hinsRow).1 hr with hr | rfl
    · exact hinv.rowsLive r hr
    · exact hlive
  · intro c hc assetId hasset
    rcases (hmem c).1 hc with hc | rfl
    · exact hinv.placedLive c hc assetId hasset
    · rw [hon] at hasset
      cases hasset
      rw [← horg]
      exact hlive
  · intro c hc
    have hne : row.itemId ≠ c.id := by
      intro hsame
      refine (Table.insert?_eq_some hins).1 (List.mem_map.2 ⟨c, hc, ?_⟩)
      exact hsame.symm.trans hitem
    have hsame : flownBy (withComponents db { items, history }) c = flownBy db c :=
      flownBy_congr rfl (historyOf_insert_other hinsRow hne)
    exact ⟨c, (hmem c).2 (Or.inl hc), rfl, le_of_eq hsame.symm⟩

theorem flownBy_install (hpos : ∀ f ∈ db.flights.rows, 0 ≤ f.durationMinutes ∧ 0 ≤ f.cycles)
    (hid : c.id = row.itemId) (horg : c.organizationId = row.organizationId)
    (hopen : row.removedAt = none) (hins : db.componentInstallations.insert? row = some history)
    (hkept : ∀ old ∈ c.assetId, ∀ f ∈ flownSince db c.organizationId old c.createdAt,
      old = row.assetId ∧ row.installedAt ≤ f.flownAt) :
    flownBy db c ≤ flownBy (withComponents db { items, history })
      { c with assetId := some row.assetId, status } := by
  have hrows : historyOf (withComponents db { items, history })
      { c with assetId := some row.assetId, status } = historyOf db c ++ [row] := by
    show historyOf (withComponents db { items, history }) c = _
    rw [historyOf_insert hins, List.filter_cons_of_pos (by simp [hid, horg])]
    rfl
  have hsum : flownInHistory (withComponents db { items, history })
      { c with assetId := some row.assetId, status }
      = flownInHistory db c + flownOf db c.organizationId (windowOf row) := by
    rw [flownInHistory, hrows, List.map_append, List.sum_append, List.map_singleton,
      List.sum_singleton]
    rfl
  have hlast : row ∈ historyOf (withComponents db { items, history })
      { c with assetId := some row.assetId, status } := by
    rw [hrows]
    simp
  rw [flownBy_of_open hlast rfl hopen, hsum]
  cases hon : c.assetId with
  | none =>
    rw [flownBy_of_none hon]
    exact le_add_of_nonneg_right (flownOf_nonneg hpos)
  | some old =>
    rw [flownBy_eq]
    refine add_le_add (le_refl _) (le_trans (flownUnrecorded_le hon hpos) (flownOf_mono hpos ?_))
    intro f hf hin
    obtain ⟨rfl, hle⟩ := hkept old hon f (Table.mem_select.2 ⟨hf, hin⟩)
    simp only [flownIn, windowOf, within, hopen, Bool.and_true, Bool.and_eq_true,
      decide_eq_true_eq] at hin ⊢
    exact ⟨hin.1, hle⟩

theorem Inv.install (hinv : Inv t db) (hmem : item ∈ db.components.rows)
    (hid : item.id = row.itemId) (horg : item.organizationId = row.organizationId)
    (hnow : row.installedAt = t) (hopen : row.removedAt = none)
    (hadd : addInstallation db.componentInstallations row = .ok history)
    (hlive : ∃ asset, db.getAsset row.organizationId row.assetId = .ok asset)
    (hkept : ∀ old ∈ item.assetId, Unrecorded db item old →
      ∀ f ∈ flownSince db item.organizationId old item.createdAt,
        old = row.assetId ∧ row.installedAt ≤ f.flownAt) :
    Moves t db { items := db.components.save { item with assetId := some row.assetId, status }
                 history } := by
  obtain ⟨hnone, hins⟩ := addInstallation_eq_ok hadd
  have hitems : ∀ c, c ∈ (db.components.save
      { item with assetId := some row.assetId, status }).rows ↔
      (c ∈ db.components.rows ∧ c.id ≠ item.id) ∨
        c = { item with assetId := some row.assetId, status } :=
    fun c => Table.mem_save_of_mem hmem rfl
  refine ⟨hinv.consistent.install (p := componentPlacement db) hmem rfl rfl hid.symm horg.symm rfl
    hnow hopen hadd, ?_, ?_, ?_⟩
  · intro r hr
    rcases (Table.mem_insert? hins).1 hr with hr | rfl
    · exact hinv.rowsLive r hr
    · exact hlive
  · intro c hc assetId hasset
    rcases (hitems c).1 hc with ⟨hc, _⟩ | rfl
    · exact hinv.placedLive c hc assetId hasset
    · cases hasset
      show ∃ asset, db.getAsset item.organizationId _ = .ok asset
      rw [horg]
      exact hlive
  · intro c hc
    by_cases hsame : c.id = item.id
    · obtain rfl : c = item := Table.eq_of_key_eq hc hmem hsame
      have hrows : openRowsOf (componentPlacement db) c = [] := by
        refine List.filter_eq_nil_iff.2 ?_
        intro r hr hfound
        rw [Bool.and_eq_true, decide_eq_true_eq, Option.isNone_iff_eq_none] at hfound
        exact hnone r hr (hfound.1.trans hid) hfound.2
      refine ⟨_, (hitems _).2 (Or.inr rfl), rfl, ?_⟩
      exact flownBy_install hinv.flights hid horg hopen hins
        (fun old hold => hkept old hold ⟨hold, hrows⟩)
    · have hne : row.itemId ≠ c.id := fun h => hsame (hid.trans h).symm
      have hflown : flownBy (withComponents db ⟨db.components.save
          { item with assetId := some row.assetId, status }, history⟩) c = flownBy db c :=
        flownBy_congr rfl (historyOf_insert_other hins hne)
      exact ⟨c, (hitems c).2 (Or.inl ⟨hc, hsame⟩), rfl, le_of_eq hflown.symm⟩

theorem flownInHistory_close (hpos : ∀ f ∈ db.flights.rows, 0 ≤ f.durationMinutes ∧ 0 ≤ f.cycles)
    (hr : r ∈ db.componentInstallations.rows)
    (hkept : ∀ f ∈ flownSince db c.organizationId r.assetId r.installedAt, f.flownAt < t) :
    flownInHistory db c ≤ flownInHistory (withComponents db
      { items, history := db.componentInstallations.save (closed t actor r) }) c := by
  rw [flownInHistory, flownInHistory, historyOf_close hr, List.map_map]
  refine List.sum_le_sum ?_
  intro x hx
  obtain ⟨hin, _, _⟩ := mem_historyOf.1 hx
  by_cases hid : x.id = r.id
  · obtain rfl : x = r := Table.eq_of_key_eq hin hr hid
    rw [Function.comp_apply, if_pos rfl]
    refine flownOf_mono hpos ?_
    intro f hf hfin
    have hopen : flownIn c.organizationId ⟨x.assetId, x.installedAt, none⟩ f = true := by
      simp only [flownIn, windowOf, within, Bool.and_true, Bool.and_eq_true] at hfin ⊢
      exact ⟨hfin.1, hfin.2.1⟩
    have hlt := hkept f (Table.mem_select.2 ⟨hf, hopen⟩)
    simp only [flownIn, windowOf, closed, within, Bool.and_true, Bool.and_eq_true,
      decide_eq_true_eq] at hopen ⊢
    exact ⟨hopen.1, decide_eq_true hopen.2, hlt⟩
  · rw [Function.comp_apply, if_neg hid]
    exact le_refl _

theorem Inv.remove (hinv : Inv t db) (hmem : item ∈ db.components.rows)
    (hr : r ∈ db.componentInstallations.rows) (hitem : r.itemId = item.id)
    (hon : item.assetId = some r.assetId) (hopen : r.removedAt = none)
    (hkept : ∀ f ∈ flownSince db item.organizationId r.assetId r.installedAt, f.flownAt < t) :
    Moves t db { items := db.components.save { item with assetId := none, status }
                 history := db.componentInstallations.save (closed t actor r) } := by
  have hitems : ∀ c, c ∈ (db.components.save { item with assetId := none, status }).rows ↔
      (c ∈ db.components.rows ∧ c.id ≠ item.id) ∨ c = { item with assetId := none, status } :=
    fun c => Table.mem_save_of_mem hmem rfl
  have hrows : ∀ x, x ∈ (db.componentInstallations.save (closed t actor r)).rows ↔
      (x ∈ db.componentInstallations.rows ∧ x.id ≠ r.id) ∨ x = closed t actor r :=
    fun x => Table.mem_save_of_mem hr rfl
  refine ⟨hinv.consistent.remove (p := componentPlacement db) hmem rfl rfl rfl hr hitem hopen,
    ?_, ?_, ?_⟩
  · intro x hx
    rcases (hrows x).1 hx with ⟨hx, _⟩ | rfl
    · exact hinv.rowsLive x hx
    · exact hinv.rowsLive r hr
  · intro c hc assetId hasset
    rcases (hitems c).1 hc with ⟨hc, _⟩ | rfl
    · exact hinv.placedLive c hc assetId hasset
    · cases hasset
  · intro c hc
    by_cases hsame : c.id = item.id
    · obtain rfl : c = item := Table.eq_of_key_eq hc hmem hsame
      refine ⟨_, (hitems _).2 (Or.inr rfl), rfl, ?_⟩
      rw [flownBy_of_open (hinv.mem_history hc hr hitem) hon hopen, flownBy_of_none rfl]
      exact flownInHistory_close hinv.flights hr hkept
    · have hne : r.itemId ≠ c.id := fun h => hsame (h.symm.trans hitem)
      have hflown : flownBy (withComponents db ⟨db.components.save
          { item with assetId := none, status },
          db.componentInstallations.save (closed t actor r)⟩) c = flownBy db c :=
        flownBy_congr rfl (historyOf_close_other hr hne)
      exact ⟨c, (hitems c).2 (Or.inl ⟨hc, hsame⟩), rfl, le_of_eq hflown.symm⟩

/-- A component that no row records is taken off its asset: it flew nothing there. -/
theorem Inv.unplace (hinv : Inv t db) (hmem : item ∈ db.components.rows)
    (hon : item.assetId = some assetId)
    (hclosed : ∀ r ∈ db.componentInstallations.rows, r.itemId = item.id → r.removedAt ≠ none)
    (hkept : flownSince db item.organizationId assetId item.createdAt = []) :
    Moves t db { componentPlacement db with
      items := db.components.save { item with assetId := none, status } } := by
  have hitems : ∀ c, c ∈ (db.components.save { item with assetId := none, status }).rows ↔
      (c ∈ db.components.rows ∧ c.id ≠ item.id) ∨ c = { item with assetId := none, status } :=
    fun c => Table.mem_save_of_mem hmem rfl
  refine ⟨hinv.consistent.unplace (p := componentPlacement db) hmem rfl rfl rfl hclosed,
    hinv.rowsLive, ?_, ?_⟩
  · intro c hc assetId hasset
    rcases (hitems c).1 hc with ⟨hc, _⟩ | rfl
    · exact hinv.placedLive c hc assetId hasset
    · cases hasset
  · intro c hc
    by_cases hsame : c.id = item.id
    · obtain rfl : c = item := Table.eq_of_key_eq hc hmem hsame
      refine ⟨_, (hitems _).2 (Or.inr rfl), rfl, ?_⟩
      have hzero : flownOf db c.organizationId ⟨assetId, c.createdAt, none⟩ = 0 := by
        have hnone : ∀ f ∈ db.flights.rows,
            flownIn c.organizationId ⟨assetId, c.createdAt, none⟩ f = false :=
          fun f hf => Bool.of_not_eq_true (List.filter_eq_nil_iff.1 hkept f hf)
        rw [flownOf, WindowSum.total_false hnone, WindowSum.total_false hnone]
        rfl
      have hle := flownUnrecorded_le hon hinv.flights
      rw [hzero] at hle
      refine le_trans ?_ (le_of_eq (Eq.symm (flownBy_of_none rfl)))
      rw [flownBy_eq]
      show _ ≤ flownInHistory db c
      calc flownInHistory db c + flownUnrecorded db c
          ≤ flownInHistory db c + 0 := add_le_add (le_refl _) hle
        _ = flownInHistory db c := add_zero _
    · exact ⟨c, (hitems c).2 (Or.inl ⟨hc, hsame⟩), rfl, le_of_eq (flownBy_congr rfl rfl)⟩

theorem Inv.fly {f : Flight} (hinv : Inv t db) (hassets : db'.assets = db.assets)
    (hcomponents : db'.components = db.components)
    (hrows : db'.componentInstallations = db.componentInstallations)
    (hbaselines : db'.baselines = db.baselines) (hflights : db.flights.insert? f = some db'.flights)
    (hpos : 0 ≤ f.durationMinutes ∧ 0 ≤ f.cycles) : Inv t db' ∧ FlownGrows db db' := by
  have hget : db'.getAsset = db.getAsset := by
    funext org assetId
    rw [Database.getAsset, Database.getAsset, hassets]
  have hmem : ∀ x, x ∈ db'.flights.rows ↔ x ∈ db.flights.rows ∨ x = f :=
    fun x => Table.mem_insert? hflights
  refine ⟨⟨?_, ?_, ?_, ?_, ?_⟩, ?_⟩
  · have hsame : componentPlacement db' = componentPlacement db := by
      rw [componentPlacement, componentPlacement, hcomponents, hrows]
    rw [hsame]
    exact hinv.consistent
  · rw [hrows, hget]
    exact hinv.rowsLive
  · rw [hcomponents, hget]
    exact hinv.placedLive
  · intro x hx
    rcases (hmem x).1 hx with hx | rfl
    · exact hinv.flights x hx
    · exact hpos
  · rw [hbaselines]
    exact hinv.noBaselines
  · intro c hc
    refine ⟨c, by rw [hcomponents]; exact hc, rfl, ?_⟩
    have hwindows : componentWindows db' c = componentWindows db c := by
      rw [componentWindows, componentWindows, hrows]
    rw [flownBy, flownBy, hwindows]
    refine List.sum_le_sum ?_
    intro w _
    rw [flownOf, flownOf, (Table.insert?_eq_some hflights).2]
    have hone : ∀ x ∈ [f], 0 ≤ x.durationMinutes ∧ 0 ≤ x.cycles := by
      intro x hx
      rw [List.mem_singleton.1 hx]
      exact hpos
    exact ⟨WindowSum.total_append_le fun x hx => (hone x hx).1,
      WindowSum.total_append_le fun x hx => (hone x hx).2⟩

/-! ## The calls -/

/-- **ONE CALL**: a careful call keeps what the windows of every component add up to. -/
theorem step_grows {a : Action} (hinv : Inv a.now db) (hcareful : Careful db a)
    (h : step u db a = .ok db') : Inv a.now db' ∧ FlownGrows db db' := by
  cases a with
  | attachComponent newId now org actor assetId args =>
    obtain ⟨drone, hdrone, h⟩ := bind_eq_ok.1 h
    obtain ⟨p, hp, h⟩ := bind_eq_ok.1 h
    rw [pure_eq_ok] at h
    subst h
    refine (hinv.attach hp ?_).step hinv ..
    intro id hid
    cases hid
    exact ⟨_, Database.getAsset_of_getDrone hdrone⟩
  | installComponent newId now org actor componentId assetId =>
    obtain ⟨drone, hdrone, h⟩ := bind_eq_ok.1 h
    obtain ⟨p, hp, h⟩ := bind_eq_ok.1 h
    rw [pure_eq_ok] at h
    subst h
    obtain ⟨item, hmem, history, hid, horg, hadd, rfl⟩ := installItem_eq_ok hp
    refine (hinv.install hmem hid horg rfl rfl hadd ⟨_, Database.getAsset_of_getDrone hdrone⟩ ?_).step hinv ..
    intro old hold hun
    refine hcareful item hmem hid horg ?_ old hold hun
    rw [hdrone]
    rfl
  | removeComponent now org actor componentId assetId =>
    obtain ⟨p, hp, h⟩ := bind_eq_ok.1 h
    rw [pure_eq_ok] at h
    subst h
    obtain ⟨item, hmem, r, hr, ⟨hid, horg, hon⟩, ⟨hitem, rfl, hopen⟩, rfl⟩ := removeItem_eq_ok hp
    refine (hinv.remove hmem hr (hitem.trans hid.symm) hon hopen ?_).step hinv ..
    exact hcareful item hmem hid horg hon r (mem_openRowsOf.2 ⟨hr, hitem.trans hid.symm, hopen⟩)
  | installAssetComponent newId newRowId now org actor assetId payload =>
    obtain ⟨asset, hasset, h⟩ := bind_eq_ok.1 h
    obtain ⟨p, hp, h⟩ := bind_eq_ok.1 h
    rw [pure_eq_ok] at h
    subst h
    have hfound := (mem_of_oneOrRaise hasset).2
    simp only [Bool.and_eq_true, decide_eq_true_eq] at hfound
    obtain ⟨⟨rfl, _⟩, _⟩ := hfound
    exact (hinv.createInstalled hp rfl rfl rfl rfl rfl ⟨asset, hasset⟩).step hinv ..
  | removeAssetComponent now org actor assetId componentId =>
    obtain ⟨_, _, h⟩ := bind_eq_ok.1 h
    obtain ⟨p, hp, h⟩ := bind_eq_ok.1 h
    rw [pure_eq_ok] at h
    subst h
    obtain ⟨item, hmem, ⟨hid, horg, hon⟩, ⟨hclosed, rfl⟩ | ⟨r, hr, ⟨hitem, rfl, hopen⟩, rfl⟩⟩ :=
      detachItem_eq_ok hp
    -- no row is open on this asset, hence none at all: an open row names the item's asset
    · have hclosed' : ∀ r ∈ db.componentInstallations.rows, r.itemId = item.id →
          r.removedAt ≠ none := by
        intro r hr hitem hnone
        have hasset := hinv.consistent.placed r hr hnone item hmem hitem.symm
        rw [hon] at hasset
        exact hclosed r hr (hitem.trans hid) (Option.some.inj hasset).symm hnone
      refine (hinv.unplace hmem hon hclosed' ?_).step hinv ..
      refine (hcareful item hmem hid horg hon).2 ⟨hon, List.filter_eq_nil_iff.2 ?_⟩
      intro r hr hfound
      rw [Bool.and_eq_true, decide_eq_true_eq, Option.isNone_iff_eq_none] at hfound
      exact hclosed' r hr hfound.1 hfound.2
    · refine (hinv.remove hmem hr (hitem.trans hid.symm) hon hopen ?_).step hinv ..
      exact (hcareful item hmem hid horg hon).1 r
        (mem_openRowsOf.2 ⟨hr, hitem.trans hid.symm, hopen⟩)
  | recordFlight newId now org actor assetId payload updateBattery =>
    obtain ⟨_, _, h⟩ := bind_eq_ok.1 h
    obtain ⟨_, _, h⟩ := bind_eq_ok.1 h
    obtain ⟨_, _, h⟩ := bind_eq_ok.1 h
    obtain ⟨flights, hadd, h⟩ := bind_eq_ok.1 h
    rw [pure_eq_ok] at h
    subst h
    exact hinv.fly rfl rfl rfl rfl (addRowOrRaise_eq_ok.1 hadd)
      ⟨le_of_lt payload.duration_pos, le_of_lt payload.cycles_pos⟩
  | recordAssetFlight newId now org actor assetId payload =>
    obtain ⟨_, _, h⟩ := bind_eq_ok.1 h
    obtain ⟨_, _, h⟩ := bind_eq_ok.1 h
    obtain ⟨flights, hadd, h⟩ := bind_eq_ok.1 h
    rw [pure_eq_ok] at h
    subst h
    exact hinv.fly rfl rfl rfl rfl (addRowOrRaise_eq_ok.1 hadd)
      ⟨le_of_lt payload.duration_pos, le_of_lt payload.cycles_pos⟩

/-! ## What the service answers -/

theorem activeBaseline_none (hbase : db.baselines.rows = []) (org assetId : UUID) :
    activeBaseline db org assetId = none := by
  rw [activeBaseline, Table.select, hbase]
  rfl

theorem Inv.assetsLive (hinv : Inv t db) (hc : c ∈ db.components.rows) :
    AssetsLive db c.organizationId (componentWindows db c) := by
  have hrows : ∀ w ∈ (historyOf db c).map windowOf,
      ∃ asset, db.getAsset c.organizationId w.assetId = .ok asset := by
    intro w hw
    obtain ⟨r, hr, rfl⟩ := List.mem_map.1 hw
    obtain ⟨hin, horg, _⟩ := mem_historyOf.1 hr
    rw [← horg]
    exact hinv.rowsLive r hin
  intro w hw _
  change w ∈ installationWindows (historyOf db c) c.assetId none c.createdAt at hw
  cases hon : c.assetId with
  | none =>
    rw [hon] at hw
    exact hrows w hw
  | some assetId =>
    rw [hon] at hw
    simp only [installationWindows] at hw
    split at hw
    · exact hrows w hw
    · rcases List.mem_append.1 hw with hw | hw
      · exact hrows w hw
      · rw [List.mem_singleton.1 hw]
        exact hinv.placedLive c hc assetId hon

theorem Inv.lifetimeUsage_eq (hinv : Inv t db) (hc : c ∈ db.components.rows) (fl : ℚ → ℚ) :
    lifetimeUsage fl db c = .ok (fl ((flownBy db c).1 / 60), fl (flownBy db c).2) := by
  have hnone := activeBaseline_none hinv.noBaselines c.organizationId
  have hcarry : ((componentWindows db c).map (chargedCarryIn fl db c.organizationId)).sum = 0 := by
    refine chargedCarryIn_sum_eq_zero fl db c.organizationId ?_
    intro w _ _
    rw [carryInOf_eq_zero_iff, hnone]
    intro bl hbl
    cases hbl
  have hhidden : ((componentWindows db c).map (hiddenOf db c.organizationId)).sum = 0 := by
    refine List.sum_eq_zero ?_
    intro x hx
    obtain ⟨w, _, rfl⟩ := List.mem_map.1 hx
    rw [hiddenOf, hnone]
  obtain ⟨x, hx, hsum⟩ := addWindows_of_live fl db c.organizationId (componentWindows db c) (0, 0)
    (hinv.assetsLive hc)
  rw [hcarry, hhidden, add_zero] at hsum
  have heq : x = flownBy db c := by
    rw [hsum]
    show (0 + 0) + _ = _
    rw [add_zero, zero_add]
    rfl
  rw [lifetimeUsage, usageAcrossWindows]
  rw [hx, heq]
  rfl

/-- The service answers for every component before and after, and no answer has gone down. -/
def UsageGrows (fl : ℚ → ℚ) (db db' : Database) : Prop :=
  ∀ c ∈ db.components.rows, ∃ c' ∈ db'.components.rows, c'.id = c.id ∧
    ∃ x x', lifetimeUsage fl db c = .ok x ∧ lifetimeUsage fl db' c' = .ok x' ∧
      x.1 ≤ x'.1 ∧ x.2 ≤ x'.2

theorem FlownGrows.usageGrows {fl : ℚ → ℚ} (hfl : Monotone fl) {t' : DateTime} (hinv : Inv t db)
    (hinv' : Inv t' db') (h : FlownGrows db db') : UsageGrows fl db db' := by
  intro c hc
  obtain ⟨c', hc', hid, hle⟩ := h c hc
  refine ⟨c', hc', hid, _, _, hinv.lifetimeUsage_eq hc fl, hinv'.lifetimeUsage_eq hc' fl,
    hfl ?_, hfl ?_⟩
  · gcongr
    exact hle.1
  · exact Int.cast_le.2 hle.2

/-- The state has no component, no history and no baseline yet. -/
structure Fresh (db : Database) : Prop where
  components : db.components.rows = []
  componentRows : db.componentInstallations.rows = []
  baselines : db.baselines.rows = []
  flights : ∀ f ∈ db.flights.rows, 0 ≤ f.durationMinutes ∧ 0 ≤ f.cycles

theorem Fresh.inv (h : Fresh db) (t : DateTime) : Inv t db where
  consistent := Consistent.of_empty h.components h.componentRows
  rowsLive r hr := by rw [h.componentRows] at hr; cases hr
  placedLive c hc := by rw [h.components] at hc; cases hc
  flights := h.flights
  noBaselines := h.baselines

/-- **LIFETIME USAGE**: over careful calls at non-decreasing times, the lifetime usage that
the service computes for a component never goes down. -/
theorem lifetime_usage_grows {fl : ℚ → ℚ} (hfl : Monotone fl) (hstart : Fresh db)
    (as : List Action) (hclock : (as.map Action.now).Pairwise (· ≤ ·))
    (hcareful : Runs.StepsMeet (step u) Careful db as) :
    (Runs.visited (step u) db as).Pairwise (UsageGrows fl) := by
  obtain ⟨hall, hpair⟩ := Runs.visited_timed_of_start Action.now FlownGrows.refl
    (fun _ _ _ h₁ h₂ => h₁.trans h₂)
    (fun t t' db htt hinv => ⟨hinv.consistent.later htt, hinv.rowsLive, hinv.placedLive,
      hinv.flights, hinv.noBaselines⟩)
    (fun _ _ _ hinv hok h => step_grows u hinv hok h) hstart.inv hclock hcareful
  refine hpair.imp_of_mem ?_
  intro db₁ db₂ h₁ h₂ hgrows
  obtain ⟨_, t₁, hinv₁⟩ := hall db₁ h₁
  obtain ⟨_, t₂, hinv₂⟩ := hall db₂ h₂
  exact hgrows.usageGrows hfl hinv₁ hinv₂

def motorAttached : Action :=
  .attachComponent 10 0 1 none 1 { componentType := "MOTOR", name := "Motor 1" }

def flyAnHour (assetId : UUID) : Action :=
  .recordFlight 30 5 1 none assetId { flownAt := 5, durationMinutes := 60 } true

/-- A component is attached to a drone, flies an hour and is taken off: the hour is gone. -/
theorem attached_usage_lost :
    ¬(Runs.visited (step .ascii) twoDrones
      [motorAttached, flyAnHour 1, .removeAssetComponent 10 1 none 1 10]).Pairwise
        (UsageGrows id) := by
  intro h
  have hlast := (List.pairwise_cons.1 (List.pairwise_cons.1 (List.pairwise_cons.1 h).2).2).1 _
    (List.mem_singleton_self _)
  obtain ⟨c', hc', _, x, x', hx, hx', _, hcycles⟩ := hlast _ List.mem_cons_self
  have hbefore : (.ok x : Except Error (ℚ × ℚ)).toOption.map Prod.snd = some 1 := by
    rw [← hx]
    decide
  have hafter : (.ok x' : Except Error (ℚ × ℚ)).toOption.map Prod.snd = some 0 := by
    rw [← hx', List.mem_singleton.1 hc']
    decide
  have hone : x.2 = 1 := Option.some.inj hbefore
  have hzero : x'.2 = 0 := Option.some.inj hafter
  rw [hone, hzero] at hcycles
  exact absurd hcycles (by decide)

/-- Attached, moved to another drone before the first flight, and removed after it. -/
theorem moved_motor_usage_grows :
    (Runs.visited (step .ascii) twoDrones
      [motorAttached, .installComponent 20 3 1 none 10 2, flyAnHour 2,
        .removeAssetComponent 10 1 none 2 10]).Pairwise (UsageGrows id) :=
  lifetime_usage_grows .ascii monotone_id
    ⟨rfl, rfl, rfl, by intro f hf; cases hf⟩ _ (by decide) (by decide)

end LifetimeUsage
end AeroComply
