import AeroComply.Import.Importable

/-!
# ImportableFlights — flight rows, the assets they create and the batteries they charge

A row of a registration that is not known creates its asset first, in a transaction
of its own; the same registration in a later row is then taken.  What the earlier
rows add to the tables is kept apart: the assets they created, and the cycles they
flew.
-/

namespace AeroComply

open Relational (Table)
open Sessions (transaction)
open AssetService (bareAsset columnsFit createAsset_cases)
open FlightService (carriedBy charged checkPilot flightColumnsFit flightRow recordFlightRecord
  recordFlightRecord_cases)
open LimitEnforcementService (ceilingInForce)

namespace ImportService

section Flight

variable (py : Interpreter) (db : Database) (run : CommitRun) (organizationId jobId : UUID)

/-- The row has no asset yet. -/
def createsAsset (row : RowResult FlightData) : Bool := row.matchedAssetId.isNone

/-- The asset that is created for a row. -/
def provisionedAsset (row : RowResult FlightData) : Asset :=
  bareAsset py.unicode (run.ids row.rowNumber).assetId organizationId (run.clock row.rowNumber)
    { assetType := AssetType.aircraft, registration := row.data.registration, status := "ACTIVE" }

/-- The asset that the flight of a row is recorded on. -/
def assetOf (row : RowResult FlightData) : UUID :=
  row.matchedAssetId.getD (run.ids row.rowNumber).assetId

/-- The flight of a row. -/
def importedFlight (row : RowResult FlightData) : Flight :=
  flightRow py.unicode (run.ids row.rowNumber).flightId organizationId (assetOf run row)
    (flightRecord jobId row.rowNumber row.data)

/-- The cycles of the rows on the asset of a battery. -/
def flownCycles (rows : List (RowResult FlightData)) (b : Battery) : Int :=
  ((rows.filter fun r => carriedBy organizationId (assetOf run r) b).map fun r => r.data.cycles).sum

/-- An asset can be created for the row: the schema and the columns take the registration, the
limit leaves room, and neither an asset of the organization, deleted or not, nor an earlier row
has it. -/
structure Provisionable (provisioned : List (RowResult FlightData)) (row : RowResult FlightData) :
    Prop where
  length : row.data.registration.length ≤ 16
  columns : columnsFit (provisionedAsset py run organizationId row) = true
  limit : BelowLimit db organizationId (run.clock row.rowNumber) provisioned.length
  free : ∀ a ∈ db.assets.rows, a.organizationId = organizationId →
    a.registration ≠ (provisionedAsset py run organizationId row).registration
  new : ∀ e ∈ provisioned, (provisionedAsset py run organizationId e).registration
    ≠ (provisionedAsset py run organizationId row).registration

/-- The matched asset is live; without one, an asset can be created after those of the earlier
rows. -/
def AssetReady (earlier : List (RowResult FlightData)) (row : RowResult FlightData) : Prop :=
  match row.matchedAssetId with
  | some assetId => ∃ asset, db.getAsset organizationId assetId = .ok asset
  | none => Provisionable py db run organizationId (earlier.filter createsAsset) row

/-- The flight fits its columns, and so do the counts of the batteries on its asset. -/
structure FlightFits (earlier : List (RowResult FlightData)) (row : RowResult FlightData) :
    Prop where
  columns : flightColumnsFit (importedFlight py run organizationId jobId row) = true
  batteries : ∀ b ∈ db.batteries.rows, carriedBy organizationId (assetOf run row) b = true →
    fitsInteger (b.cycleCount + flownCycles run organizationId earlier b + row.data.cycles) = true

/-- The row can be committed after the earlier ones. -/
def FlightAccepted (earlier : List (RowResult FlightData)) (row : RowResult FlightData) : Prop :=
  AssetReady py db run organizationId earlier row ∧
    FlightFits py db run organizationId jobId earlier row

/-- The tables after the assets of some rows and the flights of others. -/
structure FlightReached (provisioned earlier : List (RowResult FlightData)) (w : Database) :
    Prop where
  frame : ∃ assets flights batteries importJobs auditEvents,
    w = { db with assets, flights, batteries, importJobs, auditEvents }
  assets : w.assets.rows = db.assets.rows ++ provisioned.map (provisionedAsset py run organizationId)
  flights : w.flights.rows
    = db.flights.rows ++ earlier.map (importedFlight py run organizationId jobId)
  batteries : w.batteries.rows
    = db.batteries.rows.map fun b => charged (flownCycles run organizationId earlier b) b

/-- What the validation ensures of a row that is committed. -/
structure FlightChecked (row : RowResult FlightData) : Prop where
  registration : row.data.registration ≠ ""
  action : row.matchedAssetId = none → row.matchAction = some .createAsset
  known : ∀ assetId, row.matchedAssetId = some assetId →
    assetId ∈ db.assets.rows.map Asset.id ∨ assetId ∈ db.aircraft.rows.map Aircraft.id
  pilot : checkPilot db organizationId row.data.pilotUserId = .ok ()

variable {py db run organizationId jobId}

theorem flightReached_nil (importJobs : Table ImportJob) :
    FlightReached py db run organizationId jobId [] [] { db with importJobs } where
  frame := ⟨db.assets, db.flights, db.batteries, importJobs, db.auditEvents, rfl⟩
  assets := by simp
  flights := by simp
  batteries := by simp [flownCycles, charged]

theorem flownCycles_append (earlier : List (RowResult FlightData)) (row : RowResult FlightData)
    (b : Battery) : flownCycles run organizationId (earlier ++ [row]) b
      = flownCycles run organizationId earlier b
        + if carriedBy organizationId (assetOf run row) b then row.data.cycles else 0 := by
  rw [flownCycles, List.filter_append, List.map_append, List.sum_append, flownCycles]
  by_cases hb : carriedBy organizationId (assetOf run row) b = true <;> simp [hb]

/-- An asset can be created for the row: the schema takes its registration, and the tables the
asset. -/
structure CanProvision (py : Interpreter) (run : CommitRun) (organizationId : UUID)
    (row : RowResult FlightData) (w : Database) : Prop where
  length : 1 ≤ row.data.registration.length ∧ row.data.registration.length ≤ 16
  creatable : AssetService.Creatable w (run.clock row.rowNumber)
    (provisionedAsset py run organizationId row)

variable {row : RowResult FlightData} {w : Database}

theorem provisionAsset_cases (py : Interpreter) (row : RowResult FlightData)
    (actorUserId : Option UUID)
    (hassetId : (run.ids row.rowNumber).assetId ∉ w.assets.rows.map Asset.id) :
    (CanProvision py run organizationId row w ∧
      ∃ assets auditEvents,
        provisionAsset py run organizationId actorUserId row w
          = .ok { w with assets, auditEvents } ∧
        assets.rows = w.assets.rows ++ [provisionedAsset py run organizationId row]) ∨
    (¬CanProvision py run organizationId row w ∧
      ∃ e, provisionAsset py run organizationId actorUserId row w = .error e) := by
  rw [provisionAsset, assetRequest]
  by_cases hlength : 1 ≤ row.data.registration.length ∧ row.data.registration.length ≤ 16
  · rw [raiseIf, if_neg (not_not.2 hlength), ok_bind]
    rcases createAsset_cases py.unicode organizationId (run.clock row.rowNumber)
        { assetType := AssetType.aircraft, registration := row.data.registration,
          status := "ACTIVE" } actorUserId hassetId ⟨rfl, rfl, rfl, rfl⟩ with
      ⟨hcan, assets, auditEvents, row', hcreate, hrows⟩ | ⟨hcannot, e, hcreate⟩
    · refine Or.inl ⟨⟨hlength, hcan⟩, assets, auditEvents, ?_, hrows⟩
      show (AssetService.createAsset _ _ _ _ _ _ _).map Prod.fst = _
      rw [hcreate]
      rfl
    · refine Or.inr ⟨fun h => hcannot h.creatable, e, ?_⟩
      show (AssetService.createAsset _ _ _ _ _ _ _).map Prod.fst = _
      rw [hcreate]
      rfl
  · rw [raiseIf, if_pos hlength]
    exact Or.inr ⟨fun h => hlength h.length, _, rfl⟩

section Reached

variable {provisioned earlier : List (RowResult FlightData)} {row : RowResult FlightData}
  {w : Database}

theorem getAsset_of_known (hfresh : FreshIds run db)
    (hw : FlightReached py db run organizationId jobId provisioned earlier w) {assetId : UUID}
    (hknown : assetId ∈ db.assets.rows.map Asset.id ∨ assetId ∈ db.aircraft.rows.map Aircraft.id) :
    w.getAsset organizationId assetId = db.getAsset organizationId assetId := by
  have hne : ∀ n, (run.ids n).assetId ≠ assetId := by
    rintro n rfl
    rcases hknown with h | h
    · exact hfresh.asset n h
    · obtain ⟨a, ha, hid⟩ := List.mem_map.1 h
      exact (hfresh.notAircraft n a ha).1 hid
  have hnone : (provisioned.map (provisionedAsset py run organizationId)).filter (fun a =>
      a.id = assetId && a.organizationId = organizationId && a.deletedAt.isNone) = [] := by
    rw [List.filter_eq_nil_iff]
    intro a ha
    obtain ⟨r, _, rfl⟩ := List.mem_map.1 ha
    simp [provisionedAsset, bareAsset, hne]
  rw [Database.getAsset, Table.select, hw.assets, List.filter_append, hnone, List.append_nil]
  rfl

theorem getAsset_of_provisioned
    (hw : FlightReached py db run organizationId jobId provisioned earlier w)
    (hrow : row ∈ provisioned) :
    w.getAsset organizationId (run.ids row.rowNumber).assetId
      = .ok (provisionedAsset py run organizationId row) := by
  have hmem : provisionedAsset py run organizationId row ∈ w.assets.rows := by
    rw [hw.assets]
    exact List.mem_append_right _ (List.mem_map_of_mem hrow)
  refine oneOrRaise_of_key hmem (by simp [provisionedAsset, bareAsset]) ?_
  intro x _ hx
  simp only [Bool.and_eq_true, decide_eq_true_eq] at hx
  exact hx.1.1

theorem recordRow_cases (hfresh : FreshIds run db) (actorUserId : Option UUID)
    (hw : FlightReached py db run organizationId jobId provisioned earlier w)
    (hrow : FlightChecked db organizationId row)
    (hearlier : ∀ e ∈ earlier, e.rowNumber ≠ row.rowNumber) :
    (((∃ asset, w.getAsset organizationId (assetOf run row) = .ok asset) ∧
        FlightFits py db run organizationId jobId earlier row) ∧
      ∃ w', recordFlightRecord py.unicode w (run.ids row.rowNumber).flightId organizationId
          actorUserId (assetOf run row) (flightRecord jobId row.rowNumber row.data) true = .ok w' ∧
        FlightReached py db run organizationId jobId provisioned (earlier ++ [row]) w') ∨
    (¬((∃ asset, w.getAsset organizationId (assetOf run row) = .ok asset) ∧
        FlightFits py db run organizationId jobId earlier row) ∧
      ∃ e, recordFlightRecord py.unicode w (run.ids row.rowNumber).flightId organizationId
        actorUserId (assetOf run row) (flightRecord jobId row.rowNumber row.data) true
          = .error e) := by
  have hflightId : (run.ids row.rowNumber).flightId ∉ w.flights.rows.map Flight.id := by
    rw [hw.flights]
    exact notMem_of_fresh (hfresh.flight _) fun e he hid =>
      hearlier e he (hfresh.flightId_injective _ _ hid)
  have hpilot : checkPilot w organizationId (flightRecord jobId row.rowNumber row.data).pilotUserId
      = .ok () := by
    obtain ⟨_, _, _, _, _, rfl⟩ := hw.frame
    exact hrow.pilot
  -- a battery was charged with the cycles of the earlier rows, and is where it was
  have hbatteries : (∀ b ∈ w.batteries.rows, carriedBy organizationId (assetOf run row) b = true →
        fitsInteger (charged row.data.cycles b).cycleCount = true) ↔
      ∀ b ∈ db.batteries.rows, carriedBy organizationId (assetOf run row) b = true →
        fitsInteger (b.cycleCount + flownCycles run organizationId earlier b + row.data.cycles)
          = true := by
    rw [hw.batteries, List.forall_mem_map]
    exact Iff.rfl
  rcases recordFlightRecord_cases py.unicode actorUserId (assetOf run row) hflightId hpilot rfl with
    ⟨hrecordable, flights, batteries, auditEvents, hrecord, hflights, hcharged⟩ |
    ⟨hrefused, e, hrecord⟩
  · refine Or.inl ⟨⟨hrecordable.asset, hrecordable.fits, hbatteries.1 hrecordable.batteries⟩,
      _, hrecord, ?_, hw.assets, ?_, ?_⟩
    · obtain ⟨assets, _, _, importJobs, _, rfl⟩ := hw.frame
      exact ⟨assets, flights, batteries, importJobs, auditEvents, rfl⟩
    · rw [List.map_append, ← List.append_assoc, ← hw.flights]
      exact hflights
    · show batteries.rows = _
      rw [hcharged, hw.batteries, List.map_map]
      refine List.map_congr_left ?_
      intro b _
      show (if carriedBy organizationId (assetOf run row) b then _ else _) = _
      rw [flownCycles_append]
      by_cases hb : carriedBy organizationId (assetOf run row) b = true
      · simp [hb, charged, add_assoc, flightRecord]
      · simp [hb, charged]
  · exact Or.inr ⟨fun h => hrefused ⟨h.1, h.2.columns, hbatteries.2 h.2.batteries⟩, e, hrecord⟩

theorem creatable_iff_provisionable
    (hw : FlightReached py db run organizationId jobId provisioned earlier w) :
    AssetService.Creatable w (run.clock row.rowNumber) (provisionedAsset py run organizationId row) ∧
        row.data.registration.length ≤ 16 ↔
      Provisionable py db run organizationId provisioned row := by
  have hceiling : ceilingInForce w organizationId (run.clock row.rowNumber) "max_assets"
      = ceilingInForce db organizationId (run.clock row.rowNumber) "max_assets" := by
    obtain ⟨_, _, _, _, _, rfl⟩ := hw.frame
    rfl
  have hlimit := checkLimit_of_added hceiling hw.assets (x := ()) (by
    intro a ha
    obtain ⟨e, _, rfl⟩ := List.mem_map.1 ha
    exact ⟨rfl, rfl⟩)
  rw [List.length_map] at hlimit
  constructor
  · rintro ⟨h, hlength⟩
    have hfree := h.free
    rw [hw.assets] at hfree
    refine ⟨hlength, h.fits, hlimit.1 h.limit, ?_, ?_⟩
    · exact fun a ha => hfree a (List.mem_append_left _ ha)
    · exact fun e he => hfree _ (List.mem_append_right _ (List.mem_map_of_mem he)) rfl
  · intro h
    refine ⟨⟨hlimit.2 h.limit, h.columns, ?_⟩, h.length⟩
    rw [hw.assets]
    intro a ha horg
    rcases List.mem_append.1 ha with ha | ha
    · exact h.free a ha horg
    · obtain ⟨e, he, rfl⟩ := List.mem_map.1 ha
      exact h.new e he

theorem provisionRow_cases (hfresh : FreshIds run db) (actorUserId : Option UUID)
    (hw : FlightReached py db run organizationId jobId provisioned earlier w)
    (hrow : FlightChecked db organizationId row)
    (hprovisioned : ∀ e ∈ provisioned, e.rowNumber ≠ row.rowNumber) :
    (Provisionable py db run organizationId provisioned row ∧
      ∃ w', provisionAsset py run organizationId actorUserId row w = .ok w' ∧
        FlightReached py db run organizationId jobId (provisioned ++ [row]) earlier w') ∨
    (¬Provisionable py db run organizationId provisioned row ∧
      ∃ e, provisionAsset py run organizationId actorUserId row w = .error e) := by
  have hassetId : (run.ids row.rowNumber).assetId ∉ w.assets.rows.map Asset.id := by
    rw [hw.assets]
    exact notMem_of_fresh (hfresh.asset _) fun e he hid =>
      hprovisioned e he (hfresh.assetId_injective _ _ hid)
  have hpos : 1 ≤ row.data.registration.length :=
    Nat.one_le_iff_ne_zero.2 fun h => hrow.registration (String.length_eq_zero_iff.1 h)
  rcases provisionAsset_cases py row actorUserId hassetId with
    ⟨hcreation, assets, auditEvents, hprovision, hrows⟩ | ⟨hcannot, e, hprovision⟩
  · refine Or.inl ⟨(creatable_iff_provisionable hw).1 ⟨hcreation.creatable, hcreation.length.2⟩, _,
      hprovision, ?_, ?_, hw.flights, hw.batteries⟩
    · obtain ⟨_, flights, batteries, importJobs, _, rfl⟩ := hw.frame
      exact ⟨assets, flights, batteries, importJobs, auditEvents, rfl⟩
    · rw [List.map_append, ← List.append_assoc, ← hw.assets]
      exact hrows
  · refine Or.inr ⟨fun h => hcannot ?_, e, hprovision⟩
    obtain ⟨hcan, hlength⟩ := (creatable_iff_provisionable hw).2 h
    exact ⟨⟨hpos, hlength⟩, hcan⟩

end Reached

theorem commitFlightRow_matched {actorUserId : Option UUID} {assetId : UUID}
    (hmatched : row.matchedAssetId = some assetId) (w : Database) :
    commitFlightRow py run organizationId actorUserId jobId row ⟨w, w⟩
      = transaction (fun db => recordFlightRecord py.unicode db (run.ids row.rowNumber).flightId
          organizationId actorUserId (assetOf run row) (flightRecord jobId row.rowNumber row.data)
          true) ⟨w, w⟩ := by
  have htarget : targetAsset py run organizationId actorUserId row ⟨w, w⟩
      = (.ok (assetOf run row), ⟨w, w⟩) := by
    rw [targetAsset, assetOf, hmatched]
    rfl
  rw [commitFlightRow, Sessions.bind_of_ok htarget]

/-- One row: it is committed exactly when it is accepted. -/
theorem commitFlightRow_cases (hfresh : FreshIds run db) (actorUserId : Option UUID)
    {earlier : List (RowResult FlightData)}
    (hw : FlightReached py db run organizationId jobId (earlier.filter createsAsset) earlier w)
    (hrow : FlightChecked db organizationId row)
    (hearlier : ∀ e ∈ earlier, e.rowNumber ≠ row.rowNumber) :
    (FlightAccepted py db run organizationId jobId earlier row ∧
      ∃ w', (Sessions.answer (commitFlightRow py run organizationId actorUserId jobId row) w,
          Sessions.left (commitFlightRow py run organizationId actorUserId jobId row) w)
          = (.ok (), w') ∧
        FlightReached py db run organizationId jobId ((earlier ++ [row]).filter createsAsset)
          (earlier ++ [row]) w') ∨
    (¬FlightAccepted py db run organizationId jobId earlier row ∧
      ∃ e w', (Sessions.answer (commitFlightRow py run organizationId actorUserId jobId row) w,
          Sessions.left (commitFlightRow py run organizationId actorUserId jobId row) w)
          = (.error e, w')) := by
  rw [FlightAccepted, List.filter_append]
  cases hmatched : row.matchedAssetId with
  | some assetId =>
    have hready : AssetReady py db run organizationId earlier row ↔
        ∃ asset, w.getAsset organizationId (assetOf run row) = .ok asset := by
      rw [AssetReady, assetOf, hmatched]
      dsimp only [Option.getD_some]
      rw [getAsset_of_known hfresh hw (hrow.known assetId hmatched)]
    have hkept : [row].filter createsAsset = [] := by simp [createsAsset, hmatched]
    rw [hready, hkept, List.append_nil]
    rcases recordRow_cases hfresh actorUserId hw hrow hearlier with
      ⟨haccepted, w', hrecord, hnext⟩ | ⟨hrefused, e, hrecord⟩
    · refine Or.inl ⟨haccepted, w', result_of_ok ?_, hnext⟩
      rw [commitFlightRow_matched hmatched]
      exact Sessions.transaction_of_ok hrecord
    · refine Or.inr ⟨hrefused, e, w, result_of_error (s := ⟨w, w⟩) ?_⟩
      rw [commitFlightRow_matched hmatched]
      exact Sessions.transaction_of_error hrecord
  | none =>
    have hready : AssetReady py db run organizationId earlier row ↔
        Provisionable py db run organizationId (earlier.filter createsAsset) row := by
      rw [AssetReady, hmatched]
    have hkept : [row].filter createsAsset = [row] := by simp [createsAsset, hmatched]
    rw [hready, hkept]
    rcases provisionRow_cases hfresh actorUserId hw hrow
        (fun e he => hearlier e (List.mem_of_mem_filter he)) with
      ⟨hcan, w₁, hprovision, hw₁⟩ | ⟨hcannot, e, hprovision⟩
    · have htarget : targetAsset py run organizationId actorUserId row ⟨w, w⟩
          = (.ok (assetOf run row), ⟨w₁, w₁⟩) := by
        rw [targetAsset, assetOf, hmatched]
        dsimp only
        rw [if_pos (hrow.action hmatched),
          Sessions.bind_of_ok (Sessions.transaction_of_ok hprovision)]
        rfl
      have hthere : ∃ asset, w₁.getAsset organizationId (assetOf run row) = .ok asset := by
        rw [assetOf, hmatched]
        exact ⟨_, getAsset_of_provisioned hw₁
          (List.mem_append_right _ (List.mem_singleton.2 rfl))⟩
      rcases recordRow_cases hfresh actorUserId hw₁ hrow hearlier with
        ⟨⟨_, hfits⟩, w', hrecord, hnext⟩ | ⟨hrefused, e, hrecord⟩
      · refine Or.inl ⟨⟨hcan, hfits⟩, w', result_of_ok ?_, hnext⟩
        rw [commitFlightRow, Sessions.bind_of_ok htarget]
        exact Sessions.transaction_of_ok hrecord
      · -- the asset stays, without the flight
        refine Or.inr ⟨fun h => hrefused ⟨hthere, h.2⟩, e, w₁,
          result_of_error (s := ⟨w₁, w₁⟩) ?_⟩
        rw [commitFlightRow, Sessions.bind_of_ok htarget]
        exact Sessions.transaction_of_error hrecord
    · refine Or.inr ⟨fun h => hcannot h.1, e, w, result_of_error (s := ⟨w, w⟩) ?_⟩
      rw [commitFlightRow]
      refine Sessions.bind_of_error ?_
      rw [targetAsset, hmatched]
      dsimp only
      rw [if_pos (hrow.action hmatched)]
      exact Sessions.bind_of_error (Sessions.transaction_of_error hprovision)

theorem checkPilot_of_mem {v : User} (hv : v ∈ db.users.rows)
    (hown : v.organizationId = organizationId) : checkPilot db organizationId (some v.id) = .ok () := by
  have hfound : oneOrRaise
      (db.users.select fun u => u.id = v.id && u.organizationId = organizationId)
      (.notFound "Pilot user not found in organization") = .ok v := by
    refine oneOrRaise_of_key hv (by simp [hown]) ?_
    intro x _ hx
    simp only [Bool.and_eq_true, decide_eq_true_eq] at hx
    exact hx.1
  rw [checkPilot, hfound]
  rfl

theorem flights_validated {now : Nat → PyDateTime} {rawRows : List (Dict Cell)}
    {columnMapping strategy : Dict String} {rows : List (RowResult FlightData)}
    (h : validateFlightRows py db organizationId now rawRows columnMapping strategy = .ok rows) :
    (∀ r ∈ rows, r.status ≠ .invalid → r.matchAction ≠ some .skip →
        FlightChecked db organizationId r) ∧
      rows.Pairwise fun a b => a.rowNumber ≠ b.rowNumber := by
  obtain ⟨known, hknown, h⟩ := bind_eq_ok.1 h
  have hpass : ∀ {seen : List String} {number : Nat} {rawRow : Dict Cell}
      {r : RowResult FlightData} {seen' : List String},
      validateFlightRow py db organizationId known columnMapping strategy now seen number rawRow
        = .ok (r, seen') →
      ∃ reading, judgeFlight py db organizationId known strategy (now number) seen number reading
        = .ok r := by
    intro seen number rawRow r seen' hone
    obtain ⟨reading, _, hone⟩ := bind_eq_ok.1 hone
    obtain ⟨result, hresult, hone⟩ := bind_eq_ok.1 hone
    cases hone
    exact ⟨reading, hresult⟩
  constructor
  · refine forall_of_validateRows (P := fun r => r.status ≠ .invalid →
      r.matchAction ≠ some .skip → FlightChecked db organizationId r) ?_ rawRows [] 1 rows h
    intro seen number rawRow r seen' hone hvalid hkept
    obtain ⟨reading, hone⟩ := hpass hone
    obtain ⟨long, _, rfl⟩ := (judgeFlight_eq_ok py).1 hone
    have herrors := rowStatus_ne_invalid.1 hvalid
    simp only [flightErrors, List.append_eq_nil_iff, noteIf_eq_nil] at herrors
    obtain ⟨⟨⟨⟨⟨hregistration, hmatched⟩, _⟩, _⟩, _⟩, _⟩ := herrors
    have hcases := matchAsset_cases py hknown hmatched
    refine ⟨hregistration, ?_, ?_, ?_⟩
    · intro hnone
      rcases hcases with ⟨assetId, hsome, _⟩ | ⟨_, haction | hskip⟩
      · cases hnone.symm.trans hsome
      · exact haction
      · exact absurd hskip hkept
    · intro assetId hsome
      rcases hcases with ⟨assetId', hsome', hmem⟩ | ⟨hnone, _⟩
      · cases hsome.symm.trans hsome'
        exact hmem
      · cases hsome.symm.trans hnone
    · show checkPilot db organizationId (pilotUserId known reading.pilot) = .ok ()
      rw [pilotUserId]
      split
      · rfl
      · cases hpilot : lastWithKey known.pilots reading.pilot with
        | none => rfl
        | some v =>
          obtain ⟨hv, hown⟩ := (flightLookups_sound py hknown).2.2 _ (mem_of_lastWithKey hpilot)
          exact checkPilot_of_mem hv hown
  · refine ne_rowNumber_of_validateRows ?_ rawRows [] 1 rows h
    intro seen number rawRow r seen' hone
    obtain ⟨reading, hone⟩ := hpass hone
    obtain ⟨long, _, rfl⟩ := (judgeFlight_eq_ok py).1 hone
    rfl

end Flight

end ImportService
end AeroComply
