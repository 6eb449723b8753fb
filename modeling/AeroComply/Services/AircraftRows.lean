import AeroComply.Services.AssetCreation

/-!
# AircraftRows — an aircraft, its detail and its asset

`create_aircraft` and `update_aircraft` of `app/services/aircraft_service.py` write the
registration, the type, the serial number and the status of an aircraft to three tables.
`update_asset` of `app/services/asset_service.py` writes to one of them.
`rows_in_step_iff` says which sequences keep the three in step.
-/

namespace AeroComply

open Relational (Keyed Table)

/-- A row of `aircraft_details`; its key is the asset's. -/
structure AircraftDetail where
  assetId : UUID
  msn : String
  aircraftType : String
  deriving DecidableEq

instance : Keyed AircraftDetail UUID := ⟨AircraftDetail.assetId⟩

/-- The database together with `aircraft_details`. -/
structure AircraftStore where
  db : Database
  details : Table AircraftDetail := Table.empty

namespace AssetService

structure AssetUpdateRequest where
  manufacturer : Option String := none
  model : Option String := none
  serialNumber : Option String := none
  facilityId : Option UUID := none
  status : Option String := none
  manufacturer_length : ∀ t, manufacturer = some t → t.length ≤ 128 := by decide
  model_length : ∀ t, model = some t → t.length ≤ 128 := by decide
  serialNumber_length : ∀ t, serialNumber = some t → t.length ≤ 128 := by decide
  status_length : ∀ t, status = some t → t.length ≤ 32 := by decide

/-- `if changed_fields`. -/
def AssetUpdateRequest.changes (payload : AssetUpdateRequest) : Bool :=
  payload.manufacturer.isSome || payload.model.isSome || payload.serialNumber.isSome ||
    payload.facilityId.isSome || payload.status.isSome

/-- The asset with the fields that are given. -/
def writtenAsset (u : UnicodeTables) (asset : Asset) (payload : AssetUpdateRequest) : Asset :=
  { asset with
    manufacturer := (payload.manufacturer.map u.strip).or asset.manufacturer
    model := (payload.model.map u.strip).or asset.model
    serialNumber := (payload.serialNumber.map u.strip).or asset.serialNumber
    facilityId := payload.facilityId.or asset.facilityId
    status := (payload.status.map fun t => String.ofList (u.normalize t)).getD asset.status }

/-- The columns hold the asset, and the facility that is given exists. -/
def writable (u : UnicodeTables) (db : Database) (asset : Asset) (payload : AssetUpdateRequest) :
    Bool :=
  columnsFit (writtenAsset u asset payload) &&
    payload.facilityId.all fun id => (db.facilities.find? id).isSome

def updateAsset (u : UnicodeTables) (db : Database) (organizationId : UUID)
    (actorUserId : Option UUID) (assetId : UUID) (payload : AssetUpdateRequest) :
    Except Error (Database × Asset) := do
  let asset ← db.getAsset organizationId assetId
  if payload.changes = false then pure (db, asset)
  else
    let updated := writtenAsset u asset payload
    raiseIf (columnsFit updated = false) .dataError
    raiseIf (payload.facilityId.any (fun id => (db.facilities.find? id).isNone) = true) .integrity
    pure (({ db with assets := db.assets.save updated }).recordAuditEvent organizationId
      actorUserId "asset.updated" "Asset" (some asset.id), updated)

end AssetService

namespace AircraftRows

open AssetService (addAsset columnsFit AssetUpdateRequest writtenAsset writable updateAsset)
open AircraftService (AircraftCreateRequest newAsset newAircraft addAircraft aircraftTaken
  onIntegrityError)
open LimitEnforcementService (checkAssetCreationLimit)
open Runs (StepsMeet attempt visited)

/-- `AircraftCreateRequest`, with the manufacturer. -/
structure CreateRequest extends AircraftCreateRequest where
  manufacturer : Option String := none
  manufacturer_length : ∀ t, manufacturer = some t → t.length ≤ 128 := by decide

structure AircraftUpdateRequest where
  manufacturer : Option String := none
  msn : Option String := none
  aircraftType : Option String := none
  status : Option String := none
  manufacturer_length : ∀ t, manufacturer = some t → t.length ≤ 128 := by decide
  msn_length : ∀ t, msn = some t → 1 ≤ t.length ∧ t.length ≤ 64 := by decide
  aircraftType_length : ∀ t, aircraftType = some t → 1 ≤ t.length ∧ t.length ≤ 128 := by decide
  status_length : ∀ t, status = some t → t.length ≤ 32 := by decide

/-- The detail row of a new aircraft. -/
def newDetail (newAssetId : UUID) (payload : AircraftCreateRequest) : AircraftDetail where
  assetId := newAssetId
  msn := payload.msn
  aircraftType := payload.aircraftType

/-- The `try` block of `create_aircraft`: three rows, in one transaction. -/
def writeAircraft (s : AircraftStore) (actorUserId : Option UUID) (asset : Asset)
    (detail : AircraftDetail) (aircraft : Aircraft) : Except Error (AircraftStore × Aircraft) := do
  let assets ← addAsset s.db asset
  let details ← addRow s.details detail
  let rows ← addAircraft s.db aircraft
  let db : Database := { s.db with assets, aircraft := rows }
  pure (⟨db.recordAuditEvent asset.organizationId actorUserId "aircraft.created" "Asset"
    (some asset.id), details⟩, aircraft)

def createAircraft (s : AircraftStore) (newAssetId newId : UUID) (now : DateTime)
    (organizationId : UUID) (actorUserId : Option UUID) (payload : CreateRequest) :
    Except Error (AircraftStore × Aircraft) := do
  checkAssetCreationLimit s.db organizationId now
  onIntegrityError
    (.conflict ("Aircraft registration " ++ pyRepr payload.registration ++
      " already exists in this organization") "duplicate_registration")
    (writeAircraft s actorUserId
      { newAsset newAssetId organizationId now payload.toAircraftCreateRequest with
        manufacturer := payload.manufacturer }
      (newDetail newAssetId payload.toAircraftCreateRequest)
      (newAircraft newId newAssetId organizationId payload.toAircraftCreateRequest))

/-- `if not changed_fields`. -/
def AircraftUpdateRequest.changes (payload : AircraftUpdateRequest) : Bool :=
  payload.manufacturer.isSome || payload.msn.isSome || payload.aircraftType.isSome ||
    payload.status.isSome

/-- The aircraft with the fields that are given. -/
def writtenAircraft (aircraft : Aircraft) (payload : AircraftUpdateRequest) : Aircraft :=
  { aircraft with
    msn := payload.msn.getD aircraft.msn
    aircraftType := payload.aircraftType.getD aircraft.aircraftType
    status := payload.status.getD aircraft.status }

/-- What its asset takes of them. -/
def mirroredAsset (asset : Asset) (payload : AircraftUpdateRequest) : Asset :=
  { asset with
    manufacturer := payload.manufacturer.or asset.manufacturer
    model := payload.aircraftType.or asset.model
    serialNumber := payload.msn.or asset.serialNumber
    status := payload.status.getD asset.status }

/-- What its detail takes of them. -/
def mirroredDetail (detail : AircraftDetail) (payload : AircraftUpdateRequest) : AircraftDetail :=
  { detail with
    msn := payload.msn.getD detail.msn
    aircraftType := payload.aircraftType.getD detail.aircraftType }

/-- `db.get`, and a write to the row if there is one. -/
def saveLinked {α : Type} [Keyed α UUID] (t : Table α) (link : Option UUID) (f : α → α) : Table α :=
  match link.bind t.find? with
  | some r => t.save (f r)
  | none => t

def updateAircraft (s : AircraftStore) (organizationId : UUID) (actorUserId : Option UUID)
    (aircraftId : UUID) (payload : AircraftUpdateRequest) :
    Except Error (AircraftStore × Aircraft) := do
  let aircraft ← s.db.getAircraft organizationId aircraftId
  if payload.changes = false then pure (s, aircraft)
  else
    let db : Database :=
      { s.db with
        aircraft := s.db.aircraft.save (writtenAircraft aircraft payload)
        assets := saveLinked s.db.assets aircraft.assetId (mirroredAsset · payload) }
    pure (⟨db.recordAuditEvent organizationId actorUserId "aircraft.updated"
        (if aircraft.assetId.isSome then "Asset" else "Aircraft")
        (aircraft.assetId.or (some aircraft.id)),
      saveLinked s.details aircraft.assetId (mirroredDetail · payload)⟩,
      writtenAircraft aircraft payload)

/-! ## Calls -/

inductive RowCall where
  | create (newAssetId newId : UUID) (now : DateTime) (organizationId : UUID)
      (actorUserId : Option UUID) (payload : CreateRequest)
  | updateAircraft (organizationId : UUID) (actorUserId : Option UUID) (aircraftId : UUID)
      (payload : AircraftUpdateRequest)
  | updateAsset (organizationId : UUID) (actorUserId : Option UUID) (assetId : UUID)
      (payload : AssetUpdateRequest)

def step (u : UnicodeTables) (s : AircraftStore) : RowCall → Except Error AircraftStore
  | .create newAssetId newId now organizationId actorUserId payload =>
    (·.1) <$> createAircraft s newAssetId newId now organizationId actorUserId payload
  | .updateAircraft organizationId actorUserId aircraftId payload =>
    (·.1) <$> updateAircraft s organizationId actorUserId aircraftId payload
  | .updateAsset organizationId actorUserId assetId payload =>
    (fun r => { s with db := r.1 }) <$> updateAsset u s.db organizationId actorUserId assetId payload

/-- The asset says of the aircraft what the aircraft says. -/
structure Mirrors (asset : Asset) (aircraft : Aircraft) : Prop where
  registration : asset.registration = some aircraft.registration
  status : asset.status = aircraft.status
  model : asset.model = some aircraft.aircraftType
  serialNumber : asset.serialNumber = some aircraft.msn

/-- So does the detail. -/
structure Details (detail : AircraftDetail) (aircraft : Aircraft) : Prop where
  aircraftType : detail.aircraftType = aircraft.aircraftType
  msn : detail.msn = aircraft.msn

/-- Each aircraft with a linked asset is in step with it, and with its detail. -/
def InStep (s : AircraftStore) : Prop :=
  ∀ ac ∈ s.db.aircraft.rows, ∀ id, ac.assetId = some id →
    (∃ a ∈ s.db.assets.rows, a.id = id ∧ Mirrors a ac) ∧
      ∃ d ∈ s.details.rows, d.assetId = id ∧ Details d ac

/-- `uq_aircraft_asset_id`. -/
def OneAircraft (s : AircraftStore) : Prop :=
  ∀ ac ∈ s.db.aircraft.rows, ∀ ac' ∈ s.db.aircraft.rows, ac.assetId ≠ none →
    ac.assetId = ac'.assetId → ac = ac'

/-- An `update_asset` that goes through on the asset of an aircraft gives no type, serial number or
status but the aircraft's. -/
def KeepsCopies (u : UnicodeTables) (s : AircraftStore) : RowCall → Prop
  | .updateAsset organizationId _ assetId payload =>
    ∀ asset, s.db.getAsset organizationId assetId = .ok asset →
      writable u s.db asset payload = true →
      ∀ ac ∈ s.db.aircraft.rows, ac.assetId = some asset.id →
        (∀ t, payload.model = some t → u.strip t = ac.aircraftType) ∧
        (∀ t, payload.serialNumber = some t → u.strip t = ac.msn) ∧
        ∀ t, payload.status = some t → String.ofList (u.normalize t) = ac.status
  | _ => True

/-! ## What the calls do -/

section Linked

variable {α : Type} [Keyed α UUID] {t : Table α} {link : Option UUID} {f : α → α} {r : α}

theorem mem_saveLinked (hf : ∀ x, Keyed.key (f x) = Keyed.key x) (hr : r ∈ t.rows)
    (hlink : link = some (Keyed.key r)) : f r ∈ (saveLinked t link f).rows := by
  have hfound : link.bind t.find? = some r := by
    rw [hlink]
    exact Table.find?_eq_some.2 ⟨hr, rfl⟩
  rw [saveLinked, hfound]
  exact (Table.mem_save_of_mem hr (hf r).symm).2 (Or.inr rfl)

theorem mem_saveLinked_of_ne (hf : ∀ x, Keyed.key (f x) = Keyed.key x) (hr : r ∈ t.rows)
    (hlink : link ≠ some (Keyed.key r)) : r ∈ (saveLinked t link f).rows := by
  rw [saveLinked]
  cases hfound : link.bind t.find? with
  | none => exact hr
  | some x =>
    obtain ⟨id, hid, hx⟩ := Option.bind_eq_some_iff.1 hfound
    obtain ⟨_, hkey⟩ := Table.find?_eq_some.1 hx
    refine Table.mem_save.2 (Or.inl ⟨hr, ?_⟩)
    intro heq
    rw [hf, hkey] at heq
    exact hlink (hid.trans (congrArg some heq.symm))

end Linked

/-- Without a manufacturer, and of the tables that `AircraftService.createAircraft` writes, it does
the same. -/
theorem createAircraft_db (s : AircraftStore) (newAssetId newId : UUID) (now : DateTime)
    (organizationId : UUID) (actorUserId : Option UUID) (payload : CreateRequest)
    (hmanufacturer : payload.manufacturer = none) (hnew : s.details.find? newAssetId = none) :
    (createAircraft s newAssetId newId now organizationId actorUserId payload).map
        (fun r => (r.1.db, r.2)) =
      AircraftService.createAircraft s.db newAssetId newId now organizationId actorUserId
        payload.toAircraftCreateRequest := by
  have hdetail : ∃ details, addRow s.details (newDetail newAssetId payload.toAircraftCreateRequest)
      = .ok details := by
    cases hinsert : s.details.insert? (newDetail newAssetId payload.toAircraftCreateRequest) with
    | none =>
      obtain ⟨d, hd, hkey⟩ := Table.insert?_eq_none.1 hinsert
      exact absurd hkey (Table.find?_eq_none.1 hnew d hd)
    | some details => exact ⟨details, addRowOrRaise_eq_ok.2 hinsert⟩
  obtain ⟨details, hdetails⟩ := hdetail
  have hasset : ({ newAsset newAssetId organizationId now payload.toAircraftCreateRequest with
      manufacturer := payload.manufacturer } : Asset) =
      newAsset newAssetId organizationId now payload.toAircraftCreateRequest := by
    rw [hmanufacturer]
    rfl
  rw [createAircraft, AircraftService.createAircraft, writeAircraft, AircraftService.writeAircraft,
    hasset, hdetails]
  cases checkAssetCreationLimit s.db organizationId now with
  | error e => rfl
  | ok _ =>
    cases addAsset s.db
        (newAsset newAssetId organizationId now payload.toAircraftCreateRequest) with
    | error e => cases e <;> rfl
    | ok assets =>
      cases addAircraft s.db
          (newAircraft newId newAssetId organizationId payload.toAircraftCreateRequest) with
      | error e => cases e <;> rfl
      | ok rows => rfl

section Steps

variable {u : UnicodeTables} {s s' : AircraftStore}

theorem of_onIntegrityError {α : Type} {e : Error} {r : Except Error α} {x : α}
    (h : onIntegrityError e r = .ok x) : r = .ok x := by
  cases r with
  | ok y => exact h
  | error e' => cases e' <;> cases h

/-- The rows that a creation adds. -/
structure Adds (s s' : AircraftStore) (a : Asset) (d : AircraftDetail) (ac : Aircraft) : Prop where
  assets : s'.db.assets.rows = s.db.assets.rows ++ [a]
  details : s'.details.rows = s.details.rows ++ [d]
  aircraft : s'.db.aircraft.rows = s.db.aircraft.rows ++ [ac]
  free : aircraftTaken s.db ac = false
  link : ac.assetId = some a.id
  detailLink : d.assetId = a.id
  mirrors : Mirrors a ac
  describes : Details d ac

theorem createAircraft_adds {newAssetId newId organizationId : UUID} {now : DateTime}
    {actorUserId : Option UUID} {payload : CreateRequest} {row : Aircraft}
    (h : createAircraft s newAssetId newId now organizationId actorUserId payload = .ok (s', row)) :
    ∃ a d ac, Adds s s' a d ac := by
  obtain ⟨_, _, h⟩ := bind_eq_ok.1 h
  obtain ⟨assets, hassets, h⟩ := bind_eq_ok.1 (of_onIntegrityError h)
  obtain ⟨details, hdetails, h⟩ := bind_eq_ok.1 h
  obtain ⟨rows, hrows, h⟩ := bind_eq_ok.1 h
  cases pure_eq_ok.1 h
  obtain ⟨_, _, hassets⟩ := bind_eq_ok.1 hassets
  obtain ⟨_, _, hassets⟩ := bind_eq_ok.1 hassets
  obtain ⟨_, _, hassets⟩ := bind_eq_ok.1 hassets
  obtain ⟨_, hfree, hrows⟩ := bind_eq_ok.1 hrows
  exact ⟨_, _, _, (Table.insert?_eq_some (addRowOrRaise_eq_ok.1 hassets)).2,
    (Table.insert?_eq_some (addRowOrRaise_eq_ok.1 hdetails)).2,
    (Table.insert?_eq_some (addRowOrRaise_eq_ok.1 hrows)).2,
    Bool.eq_false_iff.2 (raiseIf_eq_ok.1 hfree), rfl, rfl, ⟨rfl, rfl, rfl, rfl⟩, ⟨rfl, rfl⟩⟩

/-- What an update of an aircraft writes. -/
structure Rewrites (s s' : AircraftStore) (ac : Aircraft) (payload : AircraftUpdateRequest) :
    Prop where
  row : ac ∈ s.db.aircraft.rows
  aircraft : s'.db.aircraft = s.db.aircraft.save (writtenAircraft ac payload)
  assets : s'.db.assets = saveLinked s.db.assets ac.assetId (mirroredAsset · payload)
  details : s'.details = saveLinked s.details ac.assetId (mirroredDetail · payload)

variable {ac : Aircraft} {payload : AircraftUpdateRequest} {d : AircraftDetail} {a : Asset}

theorem updateAircraft_rewrites {organizationId aircraftId : UUID} {actorUserId : Option UUID}
    {row : Aircraft}
    (h : updateAircraft s organizationId actorUserId aircraftId payload = .ok (s', row)) :
    s' = s ∨ ∃ ac, Rewrites s s' ac payload := by
  obtain ⟨aircraft, haircraft, h⟩ := bind_eq_ok.1 h
  split at h
  · cases pure_eq_ok.1 h
    exact Or.inl rfl
  · cases pure_eq_ok.1 h
    exact Or.inr ⟨aircraft, (mem_of_oneOrRaise haircraft).1, rfl, rfl, rfl⟩

theorem writtenAsset_of_unchanged (u : UnicodeTables) (asset : Asset)
    {payload : AssetUpdateRequest} (h : payload.changes = false) :
    writtenAsset u asset payload = asset := by
  simp only [AssetUpdateRequest.changes, Bool.or_eq_false_iff, Option.isSome_eq_false_iff,
    Option.isNone_iff_eq_none] at h
  obtain ⟨⟨⟨⟨hmanufacturer, hmodel⟩, hserial⟩, hfacility⟩, hstatus⟩ := h
  rw [writtenAsset, hmanufacturer, hmodel, hserial, hfacility, hstatus]
  rfl

theorem attempt_updateAsset {organizationId assetId : UUID} (actorUserId : Option UUID)
    {payload : AssetUpdateRequest} {asset : Asset}
    (hasset : s.db.getAsset organizationId assetId = .ok asset) :
    (writable u s.db asset payload = true →
      (attempt (step u) s (.updateAsset organizationId actorUserId assetId payload)).db.aircraft
          = s.db.aircraft ∧
        (attempt (step u) s (.updateAsset organizationId actorUserId assetId payload)).details
          = s.details ∧
        (attempt (step u) s (.updateAsset organizationId actorUserId assetId payload)).db.assets
          = s.db.assets.save (writtenAsset u asset payload)) ∧
    (writable u s.db asset payload = false →
      attempt (step u) s (.updateAsset organizationId actorUserId assetId payload) = s) := by
  have hrow := (mem_of_oneOrRaise hasset).1
  cases hchanges : payload.changes with
  | false =>
    have hsame : attempt (step u) s (.updateAsset organizationId actorUserId assetId payload) = s := by
      rw [attempt, step, updateAsset, hasset, ok_bind, if_pos hchanges]
      rfl
    rw [hsame, writtenAsset_of_unchanged u asset hchanges, Table.save_self hrow]
    exact ⟨fun _ => ⟨rfl, rfl, rfl⟩, fun _ => rfl⟩
  | true =>
    have hupdate : updateAsset u s.db organizationId actorUserId assetId payload = (do
        raiseIf (columnsFit (writtenAsset u asset payload) = false) .dataError
        raiseIf (payload.facilityId.any (fun id => (s.db.facilities.find? id).isNone) = true)
          .integrity
        pure (({ s.db with assets := s.db.assets.save (writtenAsset u asset payload) } :
          Database).recordAuditEvent organizationId actorUserId "asset.updated" "Asset"
            (some asset.id), writtenAsset u asset payload)) := by
      rw [updateAsset, hasset, ok_bind, if_neg (by rw [hchanges]; decide)]
    rw [attempt, step, hupdate, writable, Bool.and_eq_true, Bool.and_eq_false_iff]
    cases hfit : columnsFit (writtenAsset u asset payload) with
    | false => exact ⟨fun h => absurd h.1 (by decide), fun _ => rfl⟩
    | true =>
      cases hfacility : payload.facilityId.all fun id => (s.db.facilities.find? id).isSome with
      | true =>
        have hnone : payload.facilityId.any (fun id => (s.db.facilities.find? id).isNone)
            = false := by
          cases hid : payload.facilityId with
          | none => rfl
          | some id => simpa [hid] using hfacility
        rw [hnone]
        exact ⟨fun _ => ⟨rfl, rfl, rfl⟩, by rintro (h | h) <;> cases h⟩
      | false =>
        have hsome : payload.facilityId.any (fun id => (s.db.facilities.find? id).isNone)
            = true := by
          cases hid : payload.facilityId with
          | none => simp [hid] at hfacility
          | some id => simpa [hid] using hfacility
        rw [hsome]
        exact ⟨fun h => absurd h.2 (by decide), fun _ => rfl⟩

/-! ## One aircraft for an asset -/

theorem oneAircraft_adds (h : Adds s s' a d ac) (hone : OneAircraft s) : OneAircraft s' := by
  have hfree : ∀ x ∈ s.db.aircraft.rows, x.assetId ≠ ac.assetId := by
    intro x hx hsame
    have htaken := List.any_eq_false.1 h.free x hx
    simp [h.link, hsame] at htaken
  intro x hx y hy hlinked hsame
  rw [h.aircraft, List.mem_append, List.mem_singleton] at hx hy
  rcases hx with hx | rfl <;> rcases hy with hy | rfl
  · exact hone x hx y hy hlinked hsame
  · exact absurd hsame (hfree x hx)
  · exact absurd hsame.symm (hfree y hy)
  · rfl

theorem oneAircraft_rewrites (h : Rewrites s s' ac payload) (hone : OneAircraft s) :
    OneAircraft s' := by
  -- each row stands for one of before, with its key and its link
  have hbefore : ∀ x ∈ s'.db.aircraft.rows, ∃ x₀ ∈ s.db.aircraft.rows, x₀.id = x.id ∧
      x₀.assetId = x.assetId := by
    intro x hx
    rw [h.aircraft] at hx
    rcases Table.mem_save.1 hx with ⟨hx, _⟩ | ⟨rfl, _⟩
    · exact ⟨x, hx, rfl, rfl⟩
    · exact ⟨ac, h.row, rfl, rfl⟩
  intro x hx y hy hlinked hsame
  obtain ⟨x₀, hx₀, hxid, hxlink⟩ := hbefore x hx
  obtain ⟨y₀, hy₀, hyid, hylink⟩ := hbefore y hy
  rw [← hxlink] at hlinked
  rw [← hxlink, ← hylink] at hsame
  have heq := hone x₀ hx₀ y₀ hy₀ hlinked hsame
  refine Table.eq_of_key_eq hx hy ?_
  show x.id = y.id
  rw [← hxid, ← hyid, heq]

theorem oneAircraft_attempt (c : RowCall) (hone : OneAircraft s) :
    OneAircraft (attempt (step u) s c) := by
  rcases Runs.attempt_cases (step u) s c with hfailed | hcall
  · rw [hfailed]
    exact hone
  cases c with
  | create newAssetId newId now organizationId actorUserId payload =>
    obtain ⟨⟨s', row⟩, hcreate, heq⟩ := map_eq_ok.1 hcall
    obtain ⟨a, d, ac, hadds⟩ := createAircraft_adds hcreate
    rw [← heq]
    exact oneAircraft_adds hadds hone
  | updateAircraft organizationId actorUserId aircraftId payload =>
    obtain ⟨⟨s', row⟩, hupdate, heq⟩ := map_eq_ok.1 hcall
    rw [← heq]
    rcases updateAircraft_rewrites hupdate with rfl | ⟨ac, hrewrites⟩
    · exact hone
    · exact oneAircraft_rewrites hrewrites hone
  | updateAsset organizationId actorUserId assetId payload =>
    obtain ⟨⟨db', row⟩, hupdate, _⟩ := map_eq_ok.1 hcall
    obtain ⟨asset, hasset, _⟩ := bind_eq_ok.1 hupdate
    cases hwritable : writable u s.db asset payload with
    | true =>
      obtain ⟨haircraft, _, _⟩ := (attempt_updateAsset actorUserId hasset).1 hwritable
      rw [OneAircraft, haircraft]
      exact hone
    | false =>
      rw [(attempt_updateAsset actorUserId hasset).2 hwritable]
      exact hone

/-! ## In step -/

theorem inStep_adds (h : Adds s s' a d ac) (hstep : InStep s) : InStep s' := by
  intro x hx id hid
  rw [h.assets, h.details]
  rw [h.aircraft, List.mem_append, List.mem_singleton] at hx
  rcases hx with hx | rfl
  · obtain ⟨⟨a', ha', hmirrors⟩, d', hd', hdetails⟩ := hstep x hx id hid
    exact ⟨⟨a', List.mem_append_left _ ha', hmirrors⟩, d', List.mem_append_left _ hd', hdetails⟩
  · rw [h.link] at hid
    cases hid
    exact ⟨⟨a, List.mem_append_right _ (List.mem_singleton_self a), rfl, h.mirrors⟩, d,
      List.mem_append_right _ (List.mem_singleton_self d), h.detailLink, h.describes⟩

theorem mirrors_written (payload : AircraftUpdateRequest) (h : Mirrors a ac) :
    Mirrors (mirroredAsset a payload) (writtenAircraft ac payload) := by
  constructor
  · exact h.registration
  · show payload.status.getD a.status = payload.status.getD ac.status
    rw [h.status]
  · show payload.aircraftType.or a.model = some (payload.aircraftType.getD ac.aircraftType)
    rw [h.model]
    cases payload.aircraftType <;> rfl
  · show payload.msn.or a.serialNumber = some (payload.msn.getD ac.msn)
    rw [h.serialNumber]
    cases payload.msn <;> rfl

theorem details_written (payload : AircraftUpdateRequest) (h : Details d ac) :
    Details (mirroredDetail d payload) (writtenAircraft ac payload) := by
  constructor
  · show payload.aircraftType.getD d.aircraftType = payload.aircraftType.getD ac.aircraftType
    rw [h.aircraftType]
  · show payload.msn.getD d.msn = payload.msn.getD ac.msn
    rw [h.msn]

theorem inStep_rewrites (h : Rewrites s s' ac payload) (hone : OneAircraft s) (hstep : InStep s) :
    InStep s' := by
  have hassetKey : ∀ a : Asset, Keyed.key (mirroredAsset a payload) = Keyed.key a := fun _ => rfl
  have hdetailKey : ∀ d : AircraftDetail, Keyed.key (mirroredDetail d payload) = Keyed.key d :=
    fun _ => rfl
  intro x hx id hid
  rw [h.assets, h.details]
  rw [h.aircraft] at hx
  rcases Table.mem_save.1 hx with ⟨hx, hne⟩ | ⟨rfl, _⟩
  · -- another aircraft is linked to another asset
    obtain ⟨⟨a, ha, rfl, hmirrors⟩, d, hd, hlink, hdetails⟩ := hstep x hx id hid
    have hother : ac.assetId ≠ some a.id := by
      intro hsame
      have heq := hone ac h.row x hx (by rw [hsame]; exact Option.some_ne_none _)
        (hsame.trans hid.symm)
      have hid : x.id = ac.id := congrArg Aircraft.id heq.symm
      exact hne hid
    refine ⟨⟨a, mem_saveLinked_of_ne hassetKey ha hother, rfl, hmirrors⟩, d, ?_, hlink, hdetails⟩
    refine mem_saveLinked_of_ne hdetailKey hd ?_
    intro hsame
    exact hother (hsame.trans (congrArg some hlink))
  · have hown : ac.assetId = some id := hid
    obtain ⟨⟨a, ha, rfl, hmirrors⟩, d, hd, hlink, hdetails⟩ := hstep ac h.row id hown
    refine ⟨⟨_, mem_saveLinked hassetKey ha hown, rfl, mirrors_written payload hmirrors⟩, _,
      mem_saveLinked hdetailKey hd (hown.trans (congrArg some hlink.symm)), hlink,
      details_written payload hdetails⟩

/-- An updated asset says what the aircraft says exactly when nothing else is given. -/
theorem mirrors_writtenAsset_iff {asset : Asset} (payload : AssetUpdateRequest)
    (h : Mirrors asset ac) : Mirrors (writtenAsset u asset payload) ac ↔
      (∀ t, payload.model = some t → u.strip t = ac.aircraftType) ∧
      (∀ t, payload.serialNumber = some t → u.strip t = ac.msn) ∧
      ∀ t, payload.status = some t → String.ofList (u.normalize t) = ac.status := by
  have hgiven : ∀ (field : Option String) (f : String → String) (old : String),
      (field.map f).or (some old) = some old ↔ ∀ t, field = some t → f t = old := by
    intro field f old
    cases field with
    | none => exact ⟨fun _ t ht => absurd ht.symm (Option.some_ne_none t), fun _ => rfl⟩
    | some t => simp
  have hstatus : (payload.status.map fun t => String.ofList (u.normalize t)).getD asset.status
      = ac.status ↔ ∀ t, payload.status = some t → String.ofList (u.normalize t) = ac.status := by
    rw [h.status, ← hgiven]
    cases payload.status <;> simp
  constructor
  · intro hafter
    have hmodel : (payload.model.map u.strip).or asset.model = some ac.aircraftType := hafter.model
    have hserial : (payload.serialNumber.map u.strip).or asset.serialNumber = some ac.msn :=
      hafter.serialNumber
    rw [h.model] at hmodel
    rw [h.serialNumber] at hserial
    exact ⟨(hgiven _ _ _).1 hmodel, (hgiven _ _ _).1 hserial, hstatus.1 hafter.status⟩
  · rintro ⟨hmodel, hserial, hgivenStatus⟩
    refine ⟨h.registration, hstatus.2 hgivenStatus, ?_, ?_⟩
    · show (payload.model.map u.strip).or asset.model = some ac.aircraftType
      rw [h.model]
      exact (hgiven _ _ _).2 hmodel
    · show (payload.serialNumber.map u.strip).or asset.serialNumber = some ac.msn
      rw [h.serialNumber]
      exact (hgiven _ _ _).2 hserial

theorem inStep_updateAsset_iff (organizationId : UUID) (actorUserId : Option UUID) (assetId : UUID)
    (payload : AssetUpdateRequest) (hstep : InStep s) :
    InStep (attempt (step u) s (.updateAsset organizationId actorUserId assetId payload)) ↔
      KeepsCopies u s (.updateAsset organizationId actorUserId assetId payload) := by
  cases hfound : s.db.getAsset organizationId assetId with
  | error e =>
    have hsame : attempt (step u) s (.updateAsset organizationId actorUserId assetId payload)
        = s := by
      rw [attempt, step, updateAsset, hfound]
      rfl
    rw [hsame]
    refine ⟨fun _ asset hasset => ?_, fun _ => hstep⟩
    rw [hfound] at hasset
    cases hasset
  | ok asset =>
    have hrow := (mem_of_oneOrRaise hfound).1
    cases hwritable : writable u s.db asset payload with
    | false =>
      rw [(attempt_updateAsset actorUserId hfound).2 hwritable]
      refine ⟨fun _ asset' hasset' hwritable' => ?_, fun _ => hstep⟩
      rw [hfound] at hasset'
      cases hasset'
      rw [hwritable] at hwritable'
      cases hwritable'
    | true =>
      obtain ⟨haircraft, hdetails, hassets⟩ :=
        (attempt_updateAsset actorUserId hfound).1 hwritable
      have hsaved : ∀ x, x ∈ (s.db.assets.save (writtenAsset u asset payload)).rows ↔
          (x ∈ s.db.assets.rows ∧ x.id ≠ asset.id) ∨ x = writtenAsset u asset payload :=
        fun x => Table.mem_save_of_mem hrow rfl
      rw [InStep, haircraft, hdetails, hassets]
      constructor
      · intro hafter asset' hasset' _ ac hac hlink
        rw [hfound] at hasset'
        cases hasset'
        obtain ⟨⟨a, ha, hid, hold⟩, _⟩ := hstep ac hac asset.id hlink
        have heq : a = asset := Table.eq_of_key_eq ha hrow hid
        rw [heq] at hold
        obtain ⟨⟨a', ha', hid', hmirrors⟩, _⟩ := hafter ac hac asset.id hlink
        rcases (hsaved a').1 ha' with ⟨_, hne⟩ | rfl
        · exact absurd hid' hne
        · exact (mirrors_writtenAsset_iff payload hold).1 hmirrors
      · intro hkeeps ac hac id hlink
        obtain ⟨⟨a, ha, rfl, hmirrors⟩, hdetail⟩ := hstep ac hac id hlink
        refine ⟨?_, hdetail⟩
        by_cases hid : a.id = asset.id
        · have heq : a = asset := Table.eq_of_key_eq ha hrow hid
          rw [heq] at hlink hmirrors
          refine ⟨_, (hsaved _).2 (Or.inr rfl), hid.symm, ?_⟩
          exact (mirrors_writtenAsset_iff payload hmirrors).2
            (hkeeps asset hfound hwritable ac hac hlink)
        · exact ⟨a, (hsaved a).2 (Or.inl ⟨ha, hid⟩), rfl, hmirrors⟩

/-- **ONE CALL**: the rows stay in step exactly when the call keeps the copies. -/
theorem inStep_attempt_iff (hone : OneAircraft s) (hstep : InStep s) (c : RowCall) :
    InStep (attempt (step u) s c) ↔ KeepsCopies u s c := by
  cases c with
  | updateAsset organizationId actorUserId assetId payload =>
    exact inStep_updateAsset_iff organizationId actorUserId assetId payload hstep
  | create newAssetId newId now organizationId actorUserId payload =>
    refine ⟨fun _ => trivial, fun _ => ?_⟩
    rcases Runs.attempt_cases (step u) s
      (.create newAssetId newId now organizationId actorUserId payload) with hfailed | hcall
    · rw [hfailed]
      exact hstep
    · obtain ⟨⟨s', row⟩, hcreate, heq⟩ := map_eq_ok.1 hcall
      obtain ⟨a, d, ac, hadds⟩ := createAircraft_adds hcreate
      rw [← heq]
      exact inStep_adds hadds hstep
  | updateAircraft organizationId actorUserId aircraftId payload =>
    refine ⟨fun _ => trivial, fun _ => ?_⟩
    rcases Runs.attempt_cases (step u) s
      (.updateAircraft organizationId actorUserId aircraftId payload) with hfailed | hcall
    · rw [hfailed]
      exact hstep
    · obtain ⟨⟨s', row⟩, hupdate, heq⟩ := map_eq_ok.1 hcall
      rw [← heq]
      rcases updateAircraft_rewrites hupdate with rfl | ⟨ac, hrewrites⟩
      · exact hstep
      · exact inStep_rewrites hrewrites hone hstep

/-- **WHEN THE THREE ROWS STAY IN STEP**: exactly when every update of an aircraft's asset that goes
through repeats the aircraft's own type, serial number and status, as far as it gives them. -/
theorem rows_in_step_iff (u : UnicodeTables) (s : AircraftStore) (calls : List RowCall)
    (hone : OneAircraft s) (hstep : InStep s) :
    (∀ s' ∈ visited (step u) s calls, InStep s') ↔
      StepsMeet (step u) (KeepsCopies u) s calls :=
  Runs.forall_visited_iff (fun _ c hs => oneAircraft_attempt c hs) calls s hone hstep
    fun _ hs hP c _ => inStep_attempt_iff hs hP c

end Steps

/-- An aircraft with its asset and its detail. -/
def oneAircraft : AircraftStore where
  db :=
    { aircraft := .single
        { id := 3, organizationId := 0, registration := "N1", msn := "7", aircraftType := "A320"
          assetId := some 1 }
      assets := .single
        { id := 1, organizationId := 0, registration := some "N1", model := some "A320"
          serialNumber := some "7" } }
  details := .single ⟨1, "7", "A320"⟩

theorem oneAircraft_unique : OneAircraft oneAircraft := by
  intro x hx y hy _ _
  rw [List.mem_singleton.1 hx, List.mem_singleton.1 hy]

theorem oneAircraft_inStep : InStep oneAircraft := by
  intro x hx id hid
  cases List.mem_singleton.1 hx
  cases hid
  exact ⟨⟨_, List.mem_singleton_self _, rfl, rfl, rfl, rfl, rfl⟩, _, List.mem_singleton_self _, rfl,
    rfl, rfl⟩

def grounding : RowCall := .updateAsset 0 none 1 { status := some "GROUNDED" }

/-- The aircraft is grounded, and then the asset once more. -/
theorem grounded_aircraft_in_step :
    OneAircraft oneAircraft ∧ InStep oneAircraft ∧
      ∀ s' ∈ visited (step .ascii) oneAircraft
        [.updateAircraft 0 none 3 { status := some "GROUNDED" }, grounding], InStep s' := by
  refine ⟨oneAircraft_unique, oneAircraft_inStep,
    (rows_in_step_iff .ascii oneAircraft _ oneAircraft_unique oneAircraft_inStep).2
      ⟨trivial, ?_, trivial⟩⟩
  intro asset _ _ ac hac _
  cases List.mem_singleton.1 hac
  refine ⟨?_, ?_, ?_⟩
  · intro t ht
    cases ht
  · intro t ht
    cases ht
  · intro t ht
    cases ht
    decide

/-- Only the asset is grounded. -/
theorem grounded_asset_not_in_step :
    ¬∀ s' ∈ visited (step .ascii) oneAircraft [grounding], InStep s' := by
  intro hall
  have hlast := hall _ (List.mem_cons_of_mem _ (List.mem_singleton_self _))
  obtain ⟨⟨a, ha, _, hmirrors⟩, _⟩ := hlast _ (List.mem_singleton_self _) 1 rfl
  cases List.mem_singleton.1 ha
  exact absurd hmirrors.status (by decide)

end AircraftRows
end AeroComply
