import AeroComply.Services.AssetLifecycle

/-!
# AssetCreation — when an asset or an aircraft can be created

`create_aircraft` of `app/services/aircraft_service.py`, next to `create_asset`.  The
asset and the aircraft are written in one transaction, and an integrity error of
either is reported as a duplicate registration.  The `aircraft_details` row, which
nothing here reads, is left out.

`createAsset_cases` and `createAircraft_cases` say when a creation goes through.
-/

namespace AeroComply

open Relational (Table)

namespace AssetService

theorem addAsset_cases {db : Database} {a : Asset} (hnew : a.id ∉ db.assets.rows.map Asset.id)
    (hfacility : a.facilityId = none) :
    ((columnsFit a = true ∧ registrationTaken db a = false) ∧
      ∃ assets, addAsset db a = .ok assets ∧ assets.rows = db.assets.rows ++ [a]) ∨
    (¬(columnsFit a = true ∧ registrationTaken db a = false) ∧
      ∃ e, addAsset db a = .error e ∧ (columnsFit a = true → e = .integrity)) := by
  rw [addAsset]
  cases hfit : columnsFit a with
  | false =>
    exact Or.inr ⟨fun h => (nomatch h.1), .dataError, rfl, fun h => (nomatch h)⟩
  | true =>
    cases htaken : registrationTaken db a with
    | true => exact Or.inr ⟨fun h => (nomatch h.2), .integrity, rfl, fun _ => rfl⟩
    | false =>
      rw [hfacility]
      cases hadd : db.assets.insert? a with
      | none =>
        obtain ⟨y, hy, hid⟩ := Table.insert?_eq_none.1 hadd
        exact absurd (List.mem_map.2 ⟨y, hy, hid⟩) hnew
      | some assets =>
        exact Or.inl ⟨⟨rfl, rfl⟩, assets, addRowOrRaise_eq_ok.2 hadd, (Table.insert?_eq_some hadd).2⟩

/-- The asset that `create_asset` adds for a type, a registration and a status alone. -/
def bareAsset (u : UnicodeTables) (newId organizationId : UUID) (now : DateTime)
    (payload : AssetCreateRequest) : Asset where
  id := newId
  organizationId
  assetType := String.ofList (u.normalize payload.assetType)
  registration := some (String.ofList (u.normalize payload.registration))
  status := if payload.status = "" then "ACTIVE" else String.ofList (u.normalize payload.status)
  acquiredAt := some now
  createdAt := now

/-- The limit allows the asset, its columns hold it, and no asset of the organization, deleted
ones included, has its registration. -/
structure Creatable (db : Database) (now : DateTime) (a : Asset) : Prop where
  limit : LimitEnforcementService.checkAssetCreationLimit db a.organizationId now = .ok ()
  fits : columnsFit a = true
  free : ∀ x ∈ db.assets.rows, x.organizationId = a.organizationId →
    x.registration ≠ a.registration

theorem withRegistration_eq_nil {db : Database} {organizationId : UUID} {registration : String} :
    withRegistration db organizationId registration = [] ↔
      ∀ x ∈ db.assets.rows, x.organizationId = organizationId →
        x.registration ≠ some registration := by
  rw [withRegistration, Table.select, List.filter_eq_nil_iff]
  simp only [Bool.and_eq_true, decide_eq_true_eq, not_and, ne_eq]

theorem createAsset_cases (u : UnicodeTables) {db : Database} {newId : UUID}
    (organizationId : UUID) (now : DateTime) (payload : AssetCreateRequest)
    (actorUserId : Option UUID)
    (hnew : newId ∉ db.assets.rows.map Asset.id)
    (hbare : payload.manufacturer = none ∧ payload.model = none ∧ payload.serialNumber = none ∧
      payload.facilityId = none) :
    (Creatable db now (bareAsset u newId organizationId now payload) ∧
      ∃ assets auditEvents row,
        createAsset u db newId now organizationId actorUserId payload
          = .ok ({ db with assets, auditEvents }, row) ∧
        assets.rows = db.assets.rows ++ [bareAsset u newId organizationId now payload]) ∨
    (¬Creatable db now (bareAsset u newId organizationId now payload) ∧
      ∃ e, createAsset u db newId now organizationId actorUserId payload = .error e) := by
  have hcreate : createAsset u db newId now organizationId actorUserId payload = (do
      LimitEnforcementService.checkAssetCreationLimit db organizationId now
      let existing ← scalarOneOrNone (withRegistration db organizationId
        (String.ofList (u.normalize payload.registration)))
      raiseIf (existing.isSome = true)
        (.conflict ("Asset registration " ++ pyRepr payload.registration ++ " is already in use.")
          "duplicate_registration")
      let assets ← addAsset db (bareAsset u newId organizationId now payload)
      pure (({ db with assets }).recordAuditEvent organizationId actorUserId "asset.created" "Asset"
        (some newId), bareAsset u newId organizationId now payload)) := by
    obtain ⟨hmanufacturer, hmodel, hserial, hfacility⟩ := hbare
    rw [createAsset, bareAsset, hmanufacturer, hmodel, hserial, hfacility]
    rfl
  have hempty : Creatable db now (bareAsset u newId organizationId now payload) →
      withRegistration db organizationId (String.ofList (u.normalize payload.registration)) = [] :=
    fun h => withRegistration_eq_nil.2 h.free
  rw [hcreate]
  cases hlimit : LimitEnforcementService.checkAssetCreationLimit db organizationId now with
  | error e =>
    refine Or.inr ⟨fun h => ?_, e, rfl⟩
    have hok : LimitEnforcementService.checkAssetCreationLimit db organizationId now = .ok () :=
      h.limit
    rw [hlimit] at hok
    cases hok
  | ok _ =>
    rw [ok_bind]
    cases hexisting : scalarOneOrNone (withRegistration db organizationId
        (String.ofList (u.normalize payload.registration))) with
    | error e =>
      refine Or.inr ⟨fun h => ?_, e, rfl⟩
      rw [hempty h] at hexisting
      cases hexisting
    | ok existing =>
      cases existing with
      | some x =>
        refine Or.inr ⟨fun h => ?_, _, rfl⟩
        rw [hempty h] at hexisting
        cases hexisting
      | none =>
        have hfree := withRegistration_eq_nil.1 (scalarOneOrNone_eq_none hexisting)
        have hnotTaken : registrationTaken db (bareAsset u newId organizationId now payload)
            = false := by
          rw [registrationTaken, bareAsset, Option.isSome_some, Bool.true_and, List.any_eq_false]
          simpa only [Bool.and_eq_true, decide_eq_true_eq, not_and] using hfree
        have hnone : ∀ (e : Error), raiseIf ((none : Option Asset).isSome = true) e = .ok () :=
          fun e => raiseIf_eq_ok.2 (by decide)
        rw [ok_bind, hnone, ok_bind]
        rcases addAsset_cases (a := bareAsset u newId organizationId now payload) hnew rfl with
          ⟨⟨hfit, _⟩, assets, hadd, hrows⟩ | ⟨hrefused, e, hadd, _⟩
        · rw [hadd]
          exact Or.inl ⟨⟨hlimit, hfit, hfree⟩, assets, _, _, rfl, hrows⟩
        · rw [hadd]
          exact Or.inr ⟨fun h => hrefused ⟨h.fits, hnotTaken⟩, e, rfl⟩

end AssetService

namespace AircraftService

open AssetService (addAsset columnsFit registrationTaken addAsset_cases)
open LimitEnforcementService (checkAssetCreationLimit)

/-- `AircraftCreateRequest`; the import names no manufacturer. -/
structure AircraftCreateRequest where
  registration : String
  msn : String
  aircraftType : String
  status : String := "ACTIVE"
  registration_length : 1 ≤ registration.length ∧ registration.length ≤ 16
  msn_length : 1 ≤ msn.length ∧ msn.length ≤ 64
  aircraftType_length : 1 ≤ aircraftType.length ∧ aircraftType.length ≤ 128
  status_length : status.length ≤ 32

def newAsset (newAssetId organizationId : UUID) (now : DateTime) (payload : AircraftCreateRequest) :
    Asset where
  id := newAssetId
  organizationId
  assetType := AssetType.aircraft
  registration := some payload.registration
  model := some payload.aircraftType
  serialNumber := some payload.msn
  status := payload.status
  createdAt := now

def newAircraft (newId newAssetId organizationId : UUID) (payload : AircraftCreateRequest) :
    Aircraft where
  id := newId
  organizationId
  registration := payload.registration
  msn := payload.msn
  aircraftType := payload.aircraftType
  status := payload.status
  assetId := some newAssetId

/-- Two aircraft of an organization do not share a registration, and no two an asset. -/
def aircraftTaken (db : Database) (a : Aircraft) : Bool :=
  db.aircraft.rows.any fun x =>
    (x.organizationId = a.organizationId && x.registration = a.registration) ||
      (a.assetId.isSome && x.assetId = a.assetId)

/-- `db.add(aircraft)` and `db.flush()`. -/
def addAircraft (db : Database) (a : Aircraft) : Except Error (Table Aircraft) := do
  raiseIf (aircraftTaken db a = true) .integrity
  addRow db.aircraft a

/-- `except IntegrityError`: what is raised in its place. -/
def onIntegrityError {α : Type} (e : Error) : Except Error α → Except Error α
  | .error .integrity => .error e
  | r => r

/-- The `try` block of `create_aircraft`: both rows, in one transaction. -/
def writeAircraft (db : Database) (actorUserId : Option UUID) (asset : Asset)
    (aircraft : Aircraft) : Except Error (Database × Aircraft) := do
  let assets ← addAsset db asset
  let rows ← addAircraft db aircraft
  pure (({ db with assets, aircraft := rows }).recordAuditEvent asset.organizationId actorUserId
    "aircraft.created" "Asset" (some asset.id), aircraft)

def createAircraft (db : Database) (newAssetId newId : UUID) (now : DateTime)
    (organizationId : UUID) (actorUserId : Option UUID) (payload : AircraftCreateRequest) :
    Except Error (Database × Aircraft) := do
  checkAssetCreationLimit db organizationId now
  onIntegrityError
    (.conflict ("Aircraft registration " ++ pyRepr payload.registration ++
      " already exists in this organization") "duplicate_registration")
    (writeAircraft db actorUserId (newAsset newAssetId organizationId now payload)
      (newAircraft newId newAssetId organizationId payload))

section Creation

variable {db : Database} {newAssetId newId organizationId : UUID} {now : DateTime}
  {payload : AircraftCreateRequest}

theorem columnsFit_newAsset (payload : AircraftCreateRequest) :
    columnsFit (newAsset newAssetId organizationId now payload) = true := by
  have hregistration := payload.registration_length.2
  have hmsn := payload.msn_length.2
  have htype := payload.aircraftType_length.2
  have hstatus := payload.status_length
  have haircraft : AssetType.aircraft.length ≤ 32 := by decide
  simp only [columnsFit, newAsset, Option.all_some, Option.all_none, Bool.and_true,
    Bool.and_eq_true, decide_eq_true_eq]
  exact ⟨⟨⟨⟨haircraft, hregistration⟩, htype⟩, by omega⟩, hstatus⟩

theorem addAircraft_cases {a : Aircraft} (hnew : a.id ∉ db.aircraft.rows.map Aircraft.id)
    (hlink : ∀ x ∈ db.aircraft.rows, ¬(a.assetId.isSome = true ∧ x.assetId = a.assetId)) :
    ((∀ x ∈ db.aircraft.rows, x.organizationId = a.organizationId →
        x.registration ≠ a.registration) ∧
      ∃ rows, addAircraft db a = .ok rows ∧ rows.rows = db.aircraft.rows ++ [a]) ∨
    (¬(∀ x ∈ db.aircraft.rows, x.organizationId = a.organizationId →
        x.registration ≠ a.registration) ∧ ∃ e, addAircraft db a = .error e) := by
  rw [addAircraft]
  by_cases htaken : aircraftTaken db a = true
  · refine Or.inr ⟨?_, .integrity, by rw [raiseIf, if_pos htaken]; rfl⟩
    intro hfree
    obtain ⟨x, hx, hmatch⟩ := List.any_eq_true.1 htaken
    rw [Bool.or_eq_true, Bool.and_eq_true, Bool.and_eq_true, decide_eq_true_eq, decide_eq_true_eq,
      decide_eq_true_eq] at hmatch
    rcases hmatch with ⟨horg, hregistration⟩ | hasset
    · exact hfree x hx horg hregistration
    · exact hlink x hx hasset
  · rw [raiseIf, if_neg htaken, ok_bind]
    refine Or.inl ⟨?_, ?_⟩
    · intro x hx horg hregistration
      refine htaken (List.any_eq_true.2 ⟨x, hx, ?_⟩)
      simp [horg, hregistration]
    · cases hins : db.aircraft.insert? a with
      | none =>
        obtain ⟨y, hy, hid⟩ := Table.insert?_eq_none.1 hins
        exact absurd (List.mem_map.2 ⟨y, hy, hid⟩) hnew
      | some rows => exact ⟨rows, addRowOrRaise_eq_ok.2 hins, (Table.insert?_eq_some hins).2⟩

/-- The limit allows the aircraft, and its registration is free among assets and aircraft. -/
structure Creatable (db : Database) (organizationId : UUID) (now : DateTime)
    (registration : String) : Prop where
  limit : checkAssetCreationLimit db organizationId now = .ok ()
  asset : ∀ a ∈ db.assets.rows, a.organizationId = organizationId →
    a.registration ≠ some registration
  aircraft : ∀ a ∈ db.aircraft.rows, a.organizationId = organizationId →
    a.registration ≠ registration

theorem registrationTaken_newAsset :
    registrationTaken db (newAsset newAssetId organizationId now payload) = false ↔
      ∀ a ∈ db.assets.rows, a.organizationId = organizationId →
        a.registration ≠ some payload.registration := by
  rw [registrationTaken, newAsset, Option.isSome_some, Bool.true_and, List.any_eq_false]
  simp only [Bool.and_eq_true, decide_eq_true_eq, not_and]

theorem createAircraft_cases (actorUserId : Option UUID) (payload : AircraftCreateRequest)
    (hasset : newAssetId ∉ db.assets.rows.map Asset.id)
    (haircraft : newId ∉ db.aircraft.rows.map Aircraft.id)
    (hlink : ∀ a ∈ db.aircraft.rows, a.assetId ≠ some newAssetId) :
    (Creatable db organizationId now payload.registration ∧
      ∃ assets aircraft auditEvents row,
        createAircraft db newAssetId newId now organizationId actorUserId payload
          = .ok ({ db with assets, aircraft, auditEvents }, row) ∧
        assets.rows = db.assets.rows ++ [newAsset newAssetId organizationId now payload] ∧
        aircraft.rows = db.aircraft.rows ++
          [newAircraft newId newAssetId organizationId payload]) ∨
    (¬Creatable db organizationId now payload.registration ∧
      ∃ e, createAircraft db newAssetId newId now organizationId actorUserId payload
        = .error e) := by
  have hlinked : ∀ x ∈ db.aircraft.rows,
      ¬((newAircraft newId newAssetId organizationId payload).assetId.isSome = true ∧
        x.assetId = (newAircraft newId newAssetId organizationId payload).assetId) :=
    fun x hx h => hlink x hx h.2
  rw [createAircraft, writeAircraft]
  cases hlimit : checkAssetCreationLimit db organizationId now with
  | error e =>
    refine Or.inr ⟨fun h => ?_, e, rfl⟩
    have hok := h.limit
    rw [hlimit] at hok
    cases hok
  | ok _ =>
    rw [ok_bind]
    rcases addAsset_cases (a := newAsset newAssetId organizationId now payload) hasset rfl with
      ⟨⟨_, hfree⟩, assets, hadd, hrows⟩ | ⟨hrefused, e, hadd, hintegrity⟩
    · rw [hadd, ok_bind]
      rcases addAircraft_cases (a := newAircraft newId newAssetId organizationId payload)
          haircraft hlinked with ⟨hnone, rows, haddRow, haircraftRows⟩ | ⟨htaken, e, haddRow⟩
      · rw [haddRow]
        exact Or.inl ⟨⟨hlimit, registrationTaken_newAsset.1 hfree, hnone⟩, assets, rows, _, _, rfl,
          hrows, haircraftRows⟩
      · rw [haddRow]
        refine Or.inr ⟨fun h => htaken h.aircraft, ?_⟩
        cases e <;> exact ⟨_, rfl⟩
    · rw [hadd]
      refine Or.inr ⟨fun h => hrefused ⟨columnsFit_newAsset payload,
        registrationTaken_newAsset.2 h.asset⟩, ?_⟩
      rw [hintegrity (columnsFit_newAsset payload)]
      exact ⟨_, rfl⟩

end Creation

end AircraftService
end AeroComply
