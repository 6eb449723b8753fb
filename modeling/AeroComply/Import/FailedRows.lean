import AeroComply.Import.Completeness

/-!
# FailedRows — what a row that fails leaves in the tables

The handler of the loop of `commit_import_job` rolls back what was not committed.  A flight row
whose asset is to be created calls `create_asset`, which commits, and then `record_flight`: where
the second raises, the asset and its audit event stay.  `failedRows_leave_nothing_iff` says that
this is the only way, over every commit of every job.
-/

namespace AeroComply

open Relational (Table)
open Sessions (Call transaction)
open FlightService (checkPilot flightColumnsFit recordFlightRecord recordFlightRecord_cases)

namespace ImportService

/-! ## The rows of a commit -/

/-- A row of the loop: what it answers, and what it leaves. -/
def rowStep {Data : Type} (commitRow : RowResult Data → Call Database Error Unit) (db : Database)
    (row : RowResult Data) : Except Error Unit × Database :=
  (Sessions.answer (commitRow row) db, Sessions.left (commitRow row) db)

/-- Every row that fails leaves the tables as they were before it. -/
def LeavesNothing {Data : Type} (commitRow : RowResult Data → Call Database Error Unit)
    (db : Database) (rows : List (RowResult Data)) : Prop :=
  ∀ v ∈ Batch.visits (rowStep commitRow) db (importable rows), ∀ e,
    (rowStep commitRow v.1 v.2).1 = .error e → (rowStep commitRow v.1 v.2).2 = v.1

section Job

variable (py : Interpreter) (run : CommitRun) (organizationId : UUID)

/-- The rows of a job that fail leave nothing, from the state in which the loop starts. -/
def FailedRowsLeaveNothing (actorUserId : Option UUID) (job : ImportJob) (db : Database) : Prop :=
  match job.rowResults with
  | .aircraft rows => LeavesNothing (commitAircraftRow run organizationId) db rows
  | .flight rows =>
    LeavesNothing (commitFlightRow py run organizationId actorUserId job.id) db rows

/-- The flight of a row can be recorded on an asset that was just created: its pilot is a user of
the organization, and the flight fits its columns. -/
structure CanRecord (jobId : UUID) (row : RowResult FlightData) (w : Database) : Prop where
  pilot : checkPilot w organizationId row.data.pilotUserId = .ok ()
  columns : flightColumnsFit (importedFlight py run organizationId jobId row) = true

/-- The row is to create its asset, and can; but it cannot record its flight. -/
structure Orphans (jobId : UUID) (row : RowResult FlightData) (w : Database) : Prop where
  unmatched : row.matchedAssetId = none
  action : row.matchAction = some .createAsset
  asset : CanProvision py run organizationId row w
  flight : ¬CanRecord py run organizationId jobId row w

/-- No row of the job is an orphan in the state it is reached in. -/
def NoneOrphans (actorUserId : Option UUID) (job : ImportJob) (db : Database) : Prop :=
  match job.rowResults with
  | .aircraft _ => True
  | .flight rows =>
    ∀ v ∈ Batch.visits (rowStep (commitFlightRow py run organizationId actorUserId job.id)) db
        (importable rows),
      ¬Orphans py run organizationId job.id v.2 v.1

end Job

/-! ## One row -/

section Row

variable {py : Interpreter} {run : CommitRun} {organizationId jobId : UUID}
  {actorUserId : Option UUID} {row : RowResult FlightData} {w w₁ w' : Database}

/-- The identifiers of the row are not in use. -/
structure Unused (run : CommitRun) (w : Database) (row : RowResult FlightData) : Prop where
  asset : (run.ids row.rowNumber).assetId ∉ w.assets.rows.map Asset.id
  flight : (run.ids row.rowNumber).flightId ∉ w.flights.rows.map Flight.id
  battery : ∀ b ∈ w.batteries.rows, b.assetId ≠ some (run.ids row.rowNumber).assetId

/-- Nothing was added but under the identifiers of the row, and no battery was moved. -/
structure Added (run : CommitRun) (row : RowResult FlightData) (w w' : Database) : Prop where
  assets : ∀ a ∈ w'.assets.rows, a ∈ w.assets.rows ∨ a.id = (run.ids row.rowNumber).assetId
  flights : ∀ f ∈ w'.flights.rows, f ∈ w.flights.rows ∨ f.id = (run.ids row.rowNumber).flightId
  batteries : ∀ b' ∈ w'.batteries.rows, ∃ b ∈ w.batteries.rows, b.assetId = b'.assetId

theorem Added.refl (w : Database) : Added run row w w where
  assets _ ha := Or.inl ha
  flights _ hf := Or.inl hf
  batteries b hb := ⟨b, hb, rfl⟩

theorem Added.trans (h : Added run row w w₁) (h' : Added run row w₁ w') : Added run row w w' where
  assets a ha := (h'.assets a ha).elim (h.assets a) Or.inr
  flights f hf := (h'.flights f hf).elim (h.flights f) Or.inr
  batteries b hb := by
    obtain ⟨b₁, hb₁, heq₁⟩ := h'.batteries b hb
    obtain ⟨b₀, hb₀, heq₀⟩ := h.batteries b₁ hb₁
    exact ⟨b₀, hb₀, heq₀.trans heq₁⟩

variable {answer : Except Error Unit} {assets : Table Asset}

theorem added_of_asset {auditEvents : List AuditEvent}
    (hassets : assets.rows = w.assets.rows ++ [provisionedAsset py run organizationId row]) :
    Added run row w { w with assets, auditEvents } where
  assets a ha := by
    have ha : a ∈ assets.rows := ha
    rw [hassets] at ha
    rcases List.mem_append.1 ha with ha | ha
    · exact Or.inl ha
    · obtain rfl := List.mem_singleton.1 ha
      exact Or.inr rfl
  flights _ hf := Or.inl hf
  batteries b hb := ⟨b, hb, rfl⟩

theorem added_of_record {assetId : UUID} {r : FlightService.FlightRecord}
    (h : recordFlightRecord py.unicode w (run.ids row.rowNumber).flightId organizationId actorUserId
      assetId r true = .ok w') : Added run row w w' := by
  obtain ⟨asset, -, h⟩ := bind_eq_ok.1 h
  obtain ⟨_, -, h⟩ := bind_eq_ok.1 h
  obtain ⟨_, -, h⟩ := bind_eq_ok.1 h
  obtain ⟨_, -, h⟩ := bind_eq_ok.1 h
  obtain ⟨flights, hflights, h⟩ := bind_eq_ok.1 h
  obtain ⟨_, -, h⟩ := bind_eq_ok.1 h
  cases h
  refine ⟨fun a ha => Or.inl ha, fun f hf => ?_, fun b hb => ?_⟩
  · have hrows := (Table.insert?_eq_some (addRowOrRaise_eq_ok.1 hflights)).2
    have hf : f ∈ flights.rows := hf
    rw [hrows] at hf
    rcases List.mem_append.1 hf with hf | hf
    · exact Or.inl hf
    · obtain rfl := List.mem_singleton.1 hf
      exact Or.inr rfl
  · obtain ⟨b₀, hb₀, rfl⟩ := List.mem_map.1 hb
    refine ⟨b₀, hb₀, ?_⟩
    split
    · rfl
    · rfl

/-- On the asset that was just created, the flight is recorded exactly when it can be. -/
theorem recordProvisioned_cases (jobId : UUID) (actorUserId : Option UUID)
    (hunused : Unused run w row) (hunmatched : row.matchedAssetId = none)
    (auditEvents : List AuditEvent)
    (hassets : assets.rows = w.assets.rows ++ [provisionedAsset py run organizationId row]) :
    (CanRecord py run organizationId jobId row w ∧
      ∃ w', recordFlightRecord py.unicode { w with assets, auditEvents }
        (run.ids row.rowNumber).flightId organizationId actorUserId
        (run.ids row.rowNumber).assetId (flightRecord jobId row.rowNumber row.data) true = .ok w') ∨
    (¬CanRecord py run organizationId jobId row w ∧
      ∃ e, recordFlightRecord py.unicode { w with assets, auditEvents }
        (run.ids row.rowNumber).flightId organizationId actorUserId
        (run.ids row.rowNumber).assetId (flightRecord jobId row.rowNumber row.data) true
          = .error e) := by
  have hthere : ({ w with assets, auditEvents } : Database).getAsset organizationId
      (run.ids row.rowNumber).assetId = .ok (provisionedAsset py run organizationId row) := by
    have hmem : provisionedAsset py run organizationId row ∈ assets.rows := by
      rw [hassets]
      exact List.mem_append_right _ (List.mem_singleton.2 rfl)
    refine oneOrRaise_of_key hmem (by simp [provisionedAsset, AssetService.bareAsset]) ?_
    intro x _ hx
    simp only [Bool.and_eq_true, decide_eq_true_eq] at hx
    exact hx.1.1
  have hflight : FlightService.flightRow py.unicode (run.ids row.rowNumber).flightId organizationId
      (run.ids row.rowNumber).assetId (flightRecord jobId row.rowNumber row.data)
        = importedFlight py run organizationId jobId row := by
    rw [importedFlight, assetOf, hunmatched]
    rfl
  cases hpilot : checkPilot w organizationId row.data.pilotUserId with
  | error e =>
    refine Or.inr ⟨fun h => ?_, e, ?_⟩
    · have hok := h.pilot
      rw [hpilot] at hok
      cases hok
    · rw [recordFlightRecord, hthere, ok_bind]
      show (checkPilot w organizationId row.data.pilotUserId >>= fun _ => _) = _
      rw [hpilot]
      rfl
  | ok x =>
    have hnew : (run.ids row.rowNumber).flightId
        ∉ ({ w with assets, auditEvents } : Database).flights.rows.map Flight.id := hunused.flight
    rcases recordFlightRecord_cases py.unicode actorUserId (run.ids row.rowNumber).assetId
        (r := flightRecord jobId row.rowNumber row.data) hnew hpilot rfl with
      ⟨hrecordable, _, _, _, hrecord, _⟩ | ⟨hrefused, e, hrecord⟩
    · refine Or.inl ⟨⟨hpilot, ?_⟩, _, hrecord⟩
      rw [← hflight]
      exact hrecordable.fits
    · refine Or.inr ⟨fun h => hrefused ⟨⟨_, hthere⟩, ?_, fun b hb hcarried => ?_⟩, e, hrecord⟩
      · rw [hflight]
        exact h.columns
      · -- no battery is on the new asset
        rw [FlightService.carriedBy, Bool.and_eq_true, decide_eq_true_eq, decide_eq_true_eq]
          at hcarried
        exact absurd hcarried.2 (hunused.battery b hb)

/-- What a flight row does: it is refused with nothing committed, or goes through, or leaves its
asset behind. -/
inductive RowRun (py : Interpreter) (run : CommitRun) (organizationId jobId : UUID)
    (row : RowResult FlightData) (w : Database) : Except Error Unit → Database → Prop
  | refused (e : Error) (h : ¬Orphans py run organizationId jobId row w) :
      RowRun py run organizationId jobId row w (.error e) w
  | committed (w' : Database) (h : ¬Orphans py run organizationId jobId row w)
      (hadded : Added run row w w') : RowRun py run organizationId jobId row w (.ok ()) w'
  | orphaned (e : Error) (w' : Database) (h : Orphans py run organizationId jobId row w)
      (hadded : Added run row w w') (hne : w' ≠ w) :
      RowRun py run organizationId jobId row w (.error e) w'

theorem commitFlightRow_run (hunused : Unused run w row) :
    RowRun py run organizationId jobId row w
      (rowStep (commitFlightRow py run organizationId actorUserId jobId) w row).1
      (rowStep (commitFlightRow py run organizationId actorUserId jobId) w row).2 := by
  cases hmatched : row.matchedAssetId with
  | some assetId =>
    have hnot : ¬Orphans py run organizationId jobId row w := by
      intro h
      cases hmatched.symm.trans h.unmatched
    have hrun : commitFlightRow py run organizationId actorUserId jobId row ⟨w, w⟩
        = transaction (fun db => recordFlightRecord py.unicode db (run.ids row.rowNumber).flightId
            organizationId actorUserId (assetOf run row)
            (flightRecord jobId row.rowNumber row.data) true) ⟨w, w⟩ :=
      commitFlightRow_matched hmatched w
    cases hrecord : recordFlightRecord py.unicode w (run.ids row.rowNumber).flightId organizationId
        actorUserId (assetOf run row) (flightRecord jobId row.rowNumber row.data) true with
    | ok w' =>
      rw [Sessions.transaction_of_ok hrecord] at hrun
      rw [rowStep, result_of_ok hrun]
      exact .committed w' hnot (added_of_record hrecord)
    | error e =>
      rw [Sessions.transaction_of_error hrecord] at hrun
      rw [rowStep, result_of_error hrun]
      exact .refused e hnot
  | none =>
    by_cases haction : row.matchAction = some .createAsset
    · have htarget : targetAsset py run organizationId actorUserId row
          = (do
            transaction (provisionAsset py run organizationId actorUserId row)
            pure (run.ids row.rowNumber).assetId) := by
        rw [targetAsset, hmatched]
        exact if_pos haction
      rcases provisionAsset_cases py row actorUserId hunused.asset with
        ⟨hcan, assets, auditEvents, hprovision, hassets⟩ | ⟨hcannot, e, hprovision⟩
      · have hcreated : targetAsset py run organizationId actorUserId row ⟨w, w⟩
            = (.ok (run.ids row.rowNumber).assetId,
              ⟨{ w with assets, auditEvents }, { w with assets, auditEvents }⟩) := by
          rw [htarget, Sessions.bind_of_ok (Sessions.transaction_of_ok hprovision)]
          rfl
        have hadded : Added run row w { w with assets, auditEvents } := added_of_asset hassets
        rcases recordProvisioned_cases jobId actorUserId hunused hmatched auditEvents hassets with
          ⟨hfits, w', hrecord⟩ | ⟨hrefused, e, hrecord⟩
        · have hrun : commitFlightRow py run organizationId actorUserId jobId row ⟨w, w⟩
              = (.ok (), ⟨w', w'⟩) := by
            rw [commitFlightRow, Sessions.bind_of_ok hcreated]
            exact Sessions.transaction_of_ok hrecord
          rw [rowStep, result_of_ok hrun]
          exact .committed w' (fun h => h.flight hfits) (hadded.trans (added_of_record hrecord))
        · -- the asset was committed before the flight was refused
          have hrun : commitFlightRow py run organizationId actorUserId jobId row ⟨w, w⟩
              = (.error e,
                ⟨{ w with assets, auditEvents }, { w with assets, auditEvents }⟩) := by
            rw [commitFlightRow, Sessions.bind_of_ok hcreated]
            exact Sessions.transaction_of_error hrecord
          rw [rowStep, result_of_error hrun]
          refine .orphaned e _ ⟨hmatched, haction, hcan, hrefused⟩ hadded fun heq => ?_
          have hlength := congrArg (fun d : Database => d.assets.rows.length) heq
          dsimp only at hlength
          rw [hassets, List.length_append] at hlength
          exact absurd hlength (Nat.succ_ne_self _)
      · have hrun : commitFlightRow py run organizationId actorUserId jobId row ⟨w, w⟩
            = (.error e, ⟨w, w⟩) := by
          rw [commitFlightRow]
          refine Sessions.bind_of_error ?_
          rw [htarget]
          exact Sessions.bind_of_error (Sessions.transaction_of_error hprovision)
        rw [rowStep, result_of_error hrun]
        exact .refused e fun h => hcannot h.asset
    · have hrun : commitFlightRow py run organizationId actorUserId jobId row ⟨w, w⟩
          = (.error (.aeroComply s!"No asset associated with flight row {row.rowNumber}"),
            ⟨w, w⟩) := by
        rw [commitFlightRow]
        refine Sessions.bind_of_error ?_
        rw [targetAsset, hmatched]
        dsimp only
        rw [if_neg haction]
        rfl
      rw [rowStep, result_of_error hrun]
      exact .refused _ fun h => haction h.action

theorem Unused.added {row' : RowResult FlightData} (h : Unused run w row') {db : Database}
    (hfresh : FreshIds run db) (hne : row.rowNumber ≠ row'.rowNumber)
    (hadded : Added run row w w') : Unused run w' row' where
  asset hmem := by
    obtain ⟨a, ha, hid⟩ := List.mem_map.1 hmem
    rcases hadded.assets a ha with ha | hnew
    · exact h.asset (List.mem_map.2 ⟨a, ha, hid⟩)
    · exact hne (hfresh.assetId_injective _ _ (hnew.symm.trans hid))
  flight hmem := by
    obtain ⟨f, hf, hid⟩ := List.mem_map.1 hmem
    rcases hadded.flights f hf with hf | hnew
    · exact h.flight (List.mem_map.2 ⟨f, hf, hid⟩)
    · exact hne (hfresh.flightId_injective _ _ (hnew.symm.trans hid))
  battery b hb := by
    obtain ⟨b₀, hb₀, heq⟩ := hadded.batteries b hb
    exact heq ▸ h.battery b₀ hb₀

theorem RowRun.added (h : RowRun py run organizationId jobId row w answer w') :
    Added run row w w' := by
  cases h with
  | refused e h => exact .refl w
  | committed w' h hadded => exact hadded
  | orphaned e w' h hadded hne => exact hadded

theorem RowRun.leaves_nothing_iff (h : RowRun py run organizationId jobId row w answer w') :
    (∀ e, answer = .error e → w' = w) ↔ ¬Orphans py run organizationId jobId row w := by
  cases h with
  | refused e h => exact ⟨fun _ => h, fun _ _ _ => rfl⟩
  | committed w' h hadded => exact ⟨fun _ => h, fun _ _ herror => (nomatch herror)⟩
  | orphaned e w' h hadded hne => exact ⟨fun hall => absurd (hall e rfl) hne, fun hnot => absurd h hnot⟩

end Row

/-! ## Every row of a commit -/

section Commit

variable {py : Interpreter} {run : CommitRun} {organizationId : UUID} {actorUserId : Option UUID}
  {job : ImportJob} {db : Database}

/-- The row numbers of a job, which its validation counts. -/
def rowNumbers : RowResults → List Nat
  | .aircraft rows => rows.map RowResult.rowNumber
  | .flight rows => rows.map RowResult.rowNumber

theorem aircraft_leaves_nothing (rows : List (RowResult AircraftData)) :
    LeavesNothing (commitAircraftRow run organizationId) db rows := by
  rintro ⟨w, row⟩ - e he
  show Sessions.left (commitAircraftRow run organizationId row) w = w
  replace he : Sessions.answer (commitAircraftRow run organizationId row) w = .error e := he
  rw [commitAircraftRow] at he ⊢
  cases hcreate : (do
      let payload ← aircraftRequest row.data
      let ids := run.ids row.rowNumber
      (AircraftService.createAircraft w ids.assetId ids.aircraftId (run.clock row.rowNumber)
        organizationId none payload).map Prod.fst : Except Error Database) with
  | error e' => rw [Sessions.left, Sessions.transaction_of_error hcreate]
  | ok w' =>
    rw [Sessions.answer, Sessions.transaction_of_ok hcreate] at he
    cases he

theorem unused_of_visited {rows : List (RowResult FlightData)} {jobId : UUID}
    (hfresh : FreshIds run db) (hnumbers : (rows.map RowResult.rowNumber).Nodup) :
    ∀ v ∈ Batch.visits (rowStep (commitFlightRow py run organizationId actorUserId jobId)) db
      (importable rows), Unused run v.1 v.2 := by
  have hapart : (importable rows).Pairwise fun i j => i.rowNumber ≠ j.rowNumber :=
    (List.pairwise_map.1 hnumbers).filter _
  refine Batch.forall_visits (fun w row row' hne hrow hrow' => ?_) db hapart fun row _ => ?_
  · exact hrow'.added hfresh hne (commitFlightRow_run hrow).added
  · exact ⟨hfresh.asset _, hfresh.flight _, hfresh.notCarrying _⟩

/-- **A FAILED ROW LEAVES NOTHING BEHIND**, in every commit of a job, exactly when no row that is to
create its asset, and can, is reached whose flight cannot be recorded. -/
theorem failedRows_leave_nothing_iff (hfresh : FreshIds run db)
    (hnumbers : (rowNumbers job.rowResults).Nodup) :
    FailedRowsLeaveNothing py run organizationId actorUserId job db ↔
      NoneOrphans py run organizationId actorUserId job db := by
  rw [FailedRowsLeaveNothing, NoneOrphans]
  cases hrows : job.rowResults with
  | aircraft rows => exact iff_of_true (aircraft_leaves_nothing rows) trivial
  | flight rows =>
    rw [hrows] at hnumbers
    refine forall₂_congr fun v hv => ?_
    exact (commitFlightRow_run (unused_of_visited hfresh hnumbers v hv)).leaves_nothing_iff

end Commit

/-! ## A flight that is too long for its column -/

/-- A flight of a new registration, of more minutes than the column takes. -/
def endlessFlight : Dict String :=
  Dict.ofEntries [⟨"registration", "VT-B"⟩, ⟨"flown_at", "2026-01-01"⟩,
    ⟨"duration_minutes", "3000000000"⟩]

/-- The import of flights, with an asset created for every registration that is not known. -/
def importRows (rawRows : List (Dict String)) : Except Error (Database × ImportJob) :=
  createImportJob .ascii fleetDatabase 9 (fun _ => Interpreter.newYear) 1 none "flight"
    "flights.csv"
    { rawRows, sheetNames := ["CSV"], selectedSheet := "CSV", fileHash := "" }
    (some ownNames) (some (.single ⟨"*", "CREATE_ASSET"⟩))

/-- Whether each row went through, and how many assets there are after it. -/
def rowOutcomes (x : Database × ImportJob) : List (Bool × Nat) :=
  (importable (flightRowsOf x.2.rowResults)).map fun row =>
    let after := rowStep (commitFlightRow .ascii numberedRun 1 none x.2.id) x.1 row
    (after.1.isOk, after.2.assets.rows.length)

/-- The row fails, and its asset stays. -/
theorem asset_left_behind : FreshIds numberedRun fleetDatabase ∧
    ∃ db job, importRows [endlessFlight] = .ok (db, job) ∧
      ¬FailedRowsLeaveNothing .ascii numberedRun 1 none job db := by
  have hrun : (importRows [endlessFlight]).toOption.map (fun x =>
      (rowOutcomes x, x.1.assets.rows.length)) = some ([(false, 2)], 1) := by
    decide +kernel
  refine ⟨freshIds_numberedRun, ?_⟩
  cases himport : importRows [endlessFlight] with
  | error e =>
    rw [himport] at hrun
    cases hrun
  | ok x =>
    obtain ⟨db, job⟩ := x
    rw [himport] at hrun
    replace hrun := Option.some.inj hrun
    obtain ⟨houtcomes, hassets⟩ := Prod.mk.inj hrun
    refine ⟨db, job, rfl, fun hall => ?_⟩
    rw [FailedRowsLeaveNothing] at hall
    rw [rowOutcomes] at houtcomes
    cases hresults : job.rowResults with
    | aircraft rows =>
      rw [hresults] at houtcomes
      cases houtcomes
    | flight rows =>
      rw [hresults] at hall houtcomes
      replace houtcomes : (importable rows).map _ = [(false, 2)] := houtcomes
      dsimp only [LeavesNothing] at hall
      cases hrows : importable rows with
      | nil =>
        rw [hrows] at houtcomes
        cases houtcomes
      | cons row rest =>
        rw [hrows] at hall houtcomes
        obtain ⟨hanswer, hleft⟩ := Prod.mk.inj (List.cons.inj houtcomes).1
        dsimp only at hanswer hleft hassets
        have hkept := hall (db, row) List.mem_cons_self
        dsimp only at hkept
        cases hrow : (rowStep (commitFlightRow .ascii numberedRun 1 none job.id) db row).1 with
        | ok _ =>
          rw [hrow] at hanswer
          cases hanswer
        | error e =>
          rw [hkept e hrow, hassets] at hleft
          cases hleft

/-- A job with one flight, on the aircraft of the tenant. -/
def oneFlight : ImportJob where
  id := 9
  organizationId := 1
  filename := "flights.csv"
  fileHash := none
  selectedSheet := "CSV"
  columnMapping := ownNames
  matchStrategy := Table.empty
  rowResults := .flight [
    { rowNumber := 1, status := .valid, errors := [], warnings := [], data := hourData "VT-A"
      matchedAssetId := some 1, matchAction := some .matchExisting }]

theorem failedRows_leave_nothing_oneFlight :
    FailedRowsLeaveNothing .ascii numberedRun 1 none oneFlight fleetDatabase := by
  refine (failedRows_leave_nothing_iff freshIds_numberedRun (by decide)).2 fun v hv h => ?_
  rcases List.mem_cons.1 hv with rfl | hv
  · cases h.unmatched
  · cases hv

end ImportService
end AeroComply
