import AeroComply.Models.Database

/-!
# Installation — which asset a serialized item is on, and where it has been

Eight operations write the placement column of a battery or component or its
installation history: the attach paths of `app/services/battery_service.py` and
`component_service.py`, the install and remove paths of
`installation_service.py`, and the component paths of `asset_service.py`.

The attach paths set the column and write no history row.  A partial unique index
admits one open row per item.  The clock is read once in each call.
-/

namespace AeroComply

open Relational (Keyed Table)

namespace InstallationService

/-- What batteries and components have in common: a tenant and a current placement. -/
class Placeable (α : Type) extends Keyed α UUID where
  organizationId : α → UUID
  assetId : α → Option UUID

instance : Placeable Battery where
  organizationId := Battery.organizationId
  assetId := Battery.assetId

instance : Placeable Component where
  organizationId := Component.organizationId
  assetId := Component.assetId

/-- The table of one kind of item with its table of installation rows. -/
structure Placement (α : Type) [Placeable α] where
  items : Table α
  history : Table Installation

section Generic

variable {α : Type} [Placeable α]

/-- The open rows of an item, as the services look them up. -/
def isOpenRow (organizationId itemId : UUID) (r : Installation) : Bool :=
  r.itemId = itemId && r.organizationId = organizationId && r.removedAt.isNone

/-- An insert of an open row under the index `uq_…_installations_…_id_open`. -/
def addInstallation (history : Table Installation) (row : Installation) :
    Except Error (Table Installation) := do
  raiseIf (history.rows.any (fun r => r.itemId = row.itemId && r.removedAt.isNone) = true)
    .integrity
  addRow history row

/-- The item of the tenant, or the error. -/
def findItem (items : Table α) (organizationId itemId : UUID) (notFound : Error) :
    Except Error α :=
  oneOrRaise
    (items.select fun i =>
      Keyed.key i = itemId && Placeable.organizationId i = organizationId)
    notFound

/-- A new item, already on an asset, without a history row. -/
def attachItem (p : Placement α) (item : α) : Except Error (Placement α) := do
  let items ← addRow p.items item
  pure { p with items }

/-- A new item with its open history row. -/
def createInstalled (p : Placement α) (item : α) (row : Installation) :
    Except Error (Placement α) := do
  let items ← addRow p.items item
  let history ← addInstallation p.history row
  pure { items, history }

/-- The body of `install_battery` and `install_component`. -/
def installItem (p : Placement α) (row : Installation) (place : α → α)
    (notFound alreadyInstalled : Error) : Except Error (Placement α) := do
  let item ← findItem p.items row.organizationId row.itemId notFound
  let openInstallation ←
    scalarOneOrNone (p.history.select (isOpenRow row.organizationId row.itemId))
  -- an attached item has no open row and passes
  raiseIf (openInstallation.isSome = true) alreadyInstalled
  let history ← addInstallation p.history row
  pure { items := p.items.save (place item), history }

/-- A history row, closed. -/
def closed (now : DateTime) (actorUserId : Option UUID) (r : Installation) : Installation :=
  { r with removedAt := some now, removedBy := actorUserId }

/-- The body of `remove_battery` and `remove_component`. -/
def removeItem (p : Placement α) (organizationId itemId assetId : UUID) (now : DateTime)
    (actorUserId : Option UUID) (unplace : α → α) (notFound notInstalled : Error) :
    Except Error (Placement α) := do
  let item ← findItem p.items organizationId itemId notFound
  let installation ← scalarOneOrNone
    (p.history.select fun r => isOpenRow organizationId itemId r && r.assetId = assetId)
  match installation with
  -- also for an item that was attached to the asset and has no row
  | none => .error notInstalled
  | some r => do
    raiseIf (Placeable.assetId item ≠ some assetId) notInstalled
    pure { items := p.items.save (unplace item)
           history := p.history.save (closed now actorUserId r) }

/-- The body of `remove_asset_component`: the open row, if there is one, is closed. -/
def detachItem (p : Placement α) (organizationId itemId assetId : UUID) (now : DateTime)
    (actorUserId : Option UUID) (unplace : α → α) (notFound : Error) :
    Except Error (Placement α) := do
  let item ← oneOrRaise
    (p.items.select fun i =>
      Keyed.key i = itemId && Placeable.assetId i = some assetId &&
        Placeable.organizationId i = organizationId)
    notFound
  let installation ← scalarOneOrNone
    (p.history.select fun r => r.itemId = itemId && r.assetId = assetId && r.removedAt.isNone)
  match installation with
  -- taken off without a trace in the history
  | none => pure { p with items := p.items.save (unplace item) }
  | some r =>
    pure { items := p.items.save (unplace item)
           history := p.history.save (closed now actorUserId r) }

/-! ## What the calls do -/

variable {p p' : Placement α}

variable {actor : Option UUID} {unplace : α → α} {row : Installation} {now : DateTime} {e : Error}

theorem findItem_eq_ok {items : Table α} {organizationId itemId : UUID} {i : α}
    (h : findItem items organizationId itemId e = .ok i) :
    i ∈ items.rows ∧ Keyed.key i = itemId ∧ Placeable.organizationId i = organizationId := by
  simpa using mem_of_oneOrRaise h

theorem addInstallation_eq_ok {history history' : Table Installation}
    (h : addInstallation history row = .ok history') :
    (∀ r ∈ history.rows, r.itemId = row.itemId → r.removedAt ≠ none) ∧
      history.insert? row = some history' := by
  obtain ⟨_, hopen, h⟩ := bind_eq_ok.1 h
  refine ⟨?_, addRowOrRaise_eq_ok.1 h⟩
  intro r hr hitem hnone
  refine raiseIf_eq_ok.1 hopen (List.any_eq_true.2 ⟨r, hr, ?_⟩)
  simp [hitem, hnone]

theorem installItem_eq_ok {place : α → α} {e e' : Error}
    (h : installItem p row place e e' = .ok p') :
    ∃ item ∈ p.items.rows, ∃ history, Keyed.key item = row.itemId ∧
      Placeable.organizationId item = row.organizationId ∧
      addInstallation p.history row = .ok history ∧
      p' = { items := p.items.save (place item), history } := by
  obtain ⟨item, hfind, h⟩ := bind_eq_ok.1 h
  obtain ⟨_, _, h⟩ := bind_eq_ok.1 h
  obtain ⟨_, _, h⟩ := bind_eq_ok.1 h
  obtain ⟨history, hadd, h⟩ := bind_eq_ok.1 h
  obtain ⟨hmem, hid, horg⟩ := findItem_eq_ok hfind
  exact ⟨item, hmem, history, hid, horg, hadd, (pure_eq_ok.1 h).symm⟩

theorem removeItem_eq_ok {organizationId itemId assetId : UUID} {e e' : Error}
    (h : removeItem p organizationId itemId assetId now actor unplace e e' = .ok p') :
    ∃ item ∈ p.items.rows, ∃ r ∈ p.history.rows,
      (Keyed.key item = itemId ∧ Placeable.organizationId item = organizationId ∧
        Placeable.assetId item = some assetId) ∧
      (r.itemId = itemId ∧ r.assetId = assetId ∧ r.removedAt = none) ∧
      p' = { items := p.items.save (unplace item)
             history := p.history.save (closed now actor r) } := by
  obtain ⟨item, hfind, h⟩ := bind_eq_ok.1 h
  obtain ⟨installation, hopen, h⟩ := bind_eq_ok.1 h
  obtain ⟨hmem, hid, horg⟩ := findItem_eq_ok hfind
  cases installation with
  | none => cases h
  | some r =>
    obtain ⟨_, hon, h⟩ := bind_eq_ok.1 h
    have hrow : r ∈ p.history.select
        (fun r => isOpenRow organizationId itemId r && r.assetId = assetId) := by
      rw [scalarOneOrNone_eq_some hopen]
      exact List.mem_singleton_self r
    simp only [Table.mem_select, isOpenRow, Bool.and_eq_true, decide_eq_true_eq,
      Option.isNone_iff_eq_none] at hrow
    obtain ⟨hin, ⟨⟨hitem, _⟩, hnone⟩, hasset⟩ := hrow
    exact ⟨item, hmem, r, hin, ⟨hid, horg, not_not.1 (raiseIf_eq_ok.1 hon)⟩,
      ⟨hitem, hasset, hnone⟩, (pure_eq_ok.1 h).symm⟩

theorem detachItem_eq_ok {organizationId itemId assetId : UUID}
    (h : detachItem p organizationId itemId assetId now actor unplace e = .ok p') :
    ∃ item ∈ p.items.rows, (Keyed.key item = itemId ∧
        Placeable.organizationId item = organizationId ∧
        Placeable.assetId item = some assetId) ∧
      (((∀ r ∈ p.history.rows, r.itemId = itemId → r.assetId = assetId → r.removedAt ≠ none) ∧
          p' = { p with items := p.items.save (unplace item) }) ∨
        ∃ r ∈ p.history.rows, (r.itemId = itemId ∧ r.assetId = assetId ∧ r.removedAt = none) ∧
          p' = { items := p.items.save (unplace item)
                 history := p.history.save (closed now actor r) }) := by
  obtain ⟨item, hfind, h⟩ := bind_eq_ok.1 h
  obtain ⟨installation, hopen, h⟩ := bind_eq_ok.1 h
  have hfind := mem_of_oneOrRaise hfind
  simp only [Bool.and_eq_true, decide_eq_true_eq] at hfind
  obtain ⟨hmem, ⟨hid, hon⟩, horg⟩ := hfind
  refine ⟨item, hmem, ⟨hid, horg, hon⟩, ?_⟩
  cases installation with
  | none =>
    refine Or.inl ⟨?_, (pure_eq_ok.1 h).symm⟩
    intro r hr hitem hasset hnone
    have hfound : r ∈ p.history.select (fun r => r.itemId = itemId && r.assetId = assetId &&
        r.removedAt.isNone) := by
      rw [Table.mem_select]
      refine ⟨hr, ?_⟩
      simp [hitem, hasset, hnone]
    rw [scalarOneOrNone_eq_none hopen] at hfound
    cases hfound
  | some r =>
    have hrow : r ∈ p.history.select (fun r => r.itemId = itemId && r.assetId = assetId &&
        r.removedAt.isNone) := by
      rw [scalarOneOrNone_eq_some hopen]
      exact List.mem_singleton_self r
    simp only [Table.mem_select, Bool.and_eq_true, decide_eq_true_eq,
      Option.isNone_iff_eq_none] at hrow
    obtain ⟨hin, ⟨hitem, hasset⟩, hnone⟩ := hrow
    exact Or.inr ⟨r, hin, ⟨hitem, hasset, hnone⟩, (pure_eq_ok.1 h).symm⟩

end Generic

/-- The batteries with their history. -/
def batteryPlacement (db : Database) : Placement Battery :=
  ⟨db.batteries, db.batteryInstallations⟩

/-- The components with their history. -/
def componentPlacement (db : Database) : Placement Component :=
  ⟨db.components, db.componentInstallations⟩

/-- Write the batteries and their history back. -/
def withBatteries (db : Database) (p : Placement Battery) : Database :=
  { db with batteries := p.items, batteryInstallations := p.history }

/-- Write the components and their history back. -/
def withComponents (db : Database) (p : Placement Component) : Database :=
  { db with components := p.items, componentInstallations := p.history }

/-- The arguments of `attach_battery`. -/
structure BatteryAttach where
  serialNumber : String
  manufacturer : Option String := none
  model : Option String := none
  capacityMah : Option Int := none
  voltage : Option Int := none

/-- `battery_service.attach_battery`. -/
def attachBattery (db : Database) (newId : UUID) (now : DateTime) (organizationId : UUID)
    (actorUserId : Option UUID) (assetId : UUID) (args : BatteryAttach) :
    Except Error Database := do
  let _ ← db.getDrone organizationId assetId
  let p ← attachItem (batteryPlacement db)
    { id := newId, organizationId, assetId := some assetId, serialNumber := args.serialNumber
      manufacturer := args.manufacturer, model := args.model, capacityMah := args.capacityMah
      voltage := args.voltage, createdAt := now }
  pure ((withBatteries db p).recordAuditEvent organizationId actorUserId "battery.attached"
    "Battery" (some newId))

/-- `installation_service.install_battery`. -/
def installBattery (db : Database) (newId : UUID) (now : DateTime) (organizationId : UUID)
    (actorUserId : Option UUID) (batteryId assetId : UUID) : Except Error Database := do
  let _ ← db.getDrone organizationId assetId
  let p ← installItem (batteryPlacement db)
    { id := newId, organizationId, itemId := batteryId, assetId, installedAt := now
      installedBy := actorUserId }
    (fun b => { b with assetId := some assetId, installedAt := some now })
    (.notFound "Battery not found")
    (.conflict "Battery is already actively installed" "battery_already_installed")
  pure ((withBatteries db p).recordAuditEvent organizationId actorUserId "battery.installed"
    "Battery" (some batteryId))

/-- `installation_service.remove_battery`. -/
def removeBattery (db : Database) (now : DateTime) (organizationId : UUID)
    (actorUserId : Option UUID) (batteryId assetId : UUID) : Except Error Database := do
  let p ← removeItem (batteryPlacement db) organizationId batteryId assetId now actorUserId
    (fun b => { b with assetId := none, installedAt := none })
    (.notFound "Battery not found")
    (.conflict "Battery is not actively installed on this asset" "battery_not_installed")
  pure ((withBatteries db p).recordAuditEvent organizationId actorUserId "battery.removed"
    "Battery" (some batteryId))

/-- The arguments of `attach_component`. -/
structure ComponentAttach where
  componentType : String
  name : String
  serialNumber : Option String := none
  manufacturer : Option String := none
  model : Option String := none

/-- `component_service.attach_component`. -/
def attachComponent (db : Database) (newId : UUID) (now : DateTime) (organizationId : UUID)
    (actorUserId : Option UUID) (assetId : UUID) (args : ComponentAttach) :
    Except Error Database := do
  let _ ← db.getDrone organizationId assetId
  let p ← attachItem (componentPlacement db)
    { id := newId, organizationId, assetId := some assetId
      componentType := args.componentType, name := args.name
      serialNumber := args.serialNumber, manufacturer := args.manufacturer
      model := args.model, createdAt := now }
  pure ((withComponents db p).recordAuditEvent organizationId actorUserId "component.attached"
    "Component" (some newId))

/-- `installation_service.install_component`. -/
def installComponent (db : Database) (newId : UUID) (now : DateTime) (organizationId : UUID)
    (actorUserId : Option UUID) (componentId assetId : UUID) : Except Error Database := do
  let _ ← db.getDrone organizationId assetId
  let p ← installItem (componentPlacement db)
    { id := newId, organizationId, itemId := componentId, assetId, installedAt := now
      installedBy := actorUserId }
    (fun c => { c with assetId := some assetId, status := "INSTALLED" })
    (.notFound "Component not found")
    (.conflict "Component is already actively installed" "component_already_installed")
  pure ((withComponents db p).recordAuditEvent organizationId actorUserId "component.installed"
    "Component" (some componentId))

/-- `installation_service.remove_component`. -/
def removeComponent (db : Database) (now : DateTime) (organizationId : UUID)
    (actorUserId : Option UUID) (componentId assetId : UUID) : Except Error Database := do
  let p ← removeItem (componentPlacement db) organizationId componentId assetId now actorUserId
    (fun c => { c with assetId := none, status := "REMOVED" })
    (.notFound "Component not found")
    (.conflict "Component is not actively installed on this asset" "component_not_installed")
  pure ((withComponents db p).recordAuditEvent organizationId actorUserId "component.removed"
    "Component" (some componentId))

structure AssetInstallComponentRequest where
  componentType : String
  name : String
  serialNumber : Option String := none
  manufacturer : Option String := none
  model : Option String := none
  notes : Option String := none

/-- `asset_service.install_asset_component`; the new ids are the component's and the row's. -/
def installAssetComponent (u : UnicodeTables) (db : Database) (newId newRowId : UUID)
    (now : DateTime) (organizationId : UUID) (actorUserId : Option UUID) (assetId : UUID)
    (payload : AssetInstallComponentRequest) : Except Error Database := do
  let asset ← db.getAsset organizationId assetId
  let p ← createInstalled (componentPlacement db)
    { id := newId, organizationId, assetId := some asset.id
      componentType := String.ofList (u.normalize payload.componentType)
      name := u.strip payload.name, serialNumber := u.stripOrNone payload.serialNumber
      manufacturer := u.stripOrNone payload.manufacturer
      model := u.stripOrNone payload.model, status := "INSTALLED"
      notes := u.stripOrNone payload.notes, createdAt := now }
    { id := newRowId, organizationId, itemId := newId, assetId := asset.id, installedAt := now
      installedBy := actorUserId }
  pure ((withComponents db p).recordAuditEvent organizationId actorUserId
    "asset.component.installed" "Asset" (some asset.id))

/-- `asset_service.remove_asset_component`. -/
def removeAssetComponent (db : Database) (now : DateTime) (organizationId : UUID)
    (actorUserId : Option UUID) (assetId componentId : UUID) : Except Error Database := do
  let _ ← db.getAsset organizationId assetId
  let p ← detachItem (componentPlacement db) organizationId componentId assetId now actorUserId
    (fun c => { c with assetId := none, status := "REMOVED" })
    (.notFound "Component not found on this asset")
  pure ((withComponents db p).recordAuditEvent organizationId actorUserId
    "asset.component.removed" "Asset" (some assetId))

end InstallationService
end AeroComply
