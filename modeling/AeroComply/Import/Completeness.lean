import AeroComply.Import.ImportableFlights

/-!
# Completeness — the commit of a validated job, and the rows that fail

The validators look for errors that the services would raise too, each in its own
way; a commit goes through as a whole exactly when the services accept every row
after the ones before it.
-/

namespace AeroComply

open Relational (Table)

namespace ImportService

/-- The number of rows to be committed. -/
def importableCount : RowResults → Nat
  | .aircraft rows => (importable rows).length
  | .flight rows => (importable rows).length

/-- Every row to be committed is accepted after the ones before it. -/
def AllImportable (py : Interpreter) (db : Database) (run : CommitRun)
    (organizationId jobId : UUID) : RowResults → Prop
  | .aircraft rows => Batch.AllAccepted (AircraftAccepted db run organizationId) [] (importable rows)
  | .flight rows =>
    Batch.AllAccepted (FlightAccepted py db run organizationId jobId) [] (importable rows)

/-- The commit of a job answers; no row of it fails, and every importable row is created. -/
def CommitsAll (py : Interpreter) (run : CommitRun) (db : Database) (organizationId : UUID)
    (actorUserId : Option UUID) (job : ImportJob) : Prop :=
  ∃ db' done, commitImportJob py run db organizationId actorUserId job.id = .ok (db', done) ∧
    done.rowsFailed = 0 ∧ done.rowsCreated = importableCount job.rowResults

section Commit

variable {py : Interpreter} {run : CommitRun} {db : Database} {organizationId : UUID}
  {actorUserId : Option UUID} {job : ImportJob}

/-- A commit goes through as a whole exactly when no row of its loop fails. -/
theorem commitsAll_iff (hjob : getImportJob db organizationId job.id = .ok job)
    (hopen : isOpen job.status = true) :
    CommitsAll py run db organizationId actorUserId job ↔
      (commitJobRows py run organizationId actorUserId { job with status := .importing }
        { db with importJobs := db.importJobs.save { job with status := .importing } }).failures
          = [] := by
  have hcommit : ∃ db' done,
      commitImportJob py run db organizationId actorUserId job.id = .ok (db', done) ∧
      done.rowsFailed = (commitJobRows py run organizationId actorUserId
        { job with status := .importing }
        { db with importJobs := db.importJobs.save { job with status := .importing } }).failures.length ∧
      done.rowsCreated = (commitJobRows py run organizationId actorUserId
        { job with status := .importing }
        { db with importJobs := db.importJobs.save { job with status := .importing } }).created := by
    rw [commitImportJob, hjob, ok_bind]
    dsimp only
    rw [raiseIf, if_neg (by simp [hopen])]
    exact ⟨_, _, rfl, rfl, rfl⟩
  obtain ⟨db', done, hcommit, hfailed, hcreated⟩ := hcommit
  have hall : ∀ {Data : Type} (o : Batch.Outcome Database (RowResult Data) Error),
      (commitOutcome o).failures = [] ↔ o.failures = [] :=
    fun o => List.map_eq_nil_iff
  constructor
  · rintro ⟨db'', done', hcommit', hfailed', _⟩
    cases hcommit.symm.trans hcommit'
    rw [hfailed] at hfailed'
    exact List.length_eq_zero_iff.1 hfailed'
  · intro hnone
    refine ⟨db', done, hcommit, ?_, ?_⟩
    · rw [hfailed, hnone]
      rfl
    · rw [hcreated]
      revert hnone
      rw [commitJobRows]
      cases job.rowResults with
      | aircraft rows => exact fun h => (Batch.failures_eq_nil_iff_done _ _).1 ((hall _).1 h)
      | flight rows => exact fun h => (Batch.failures_eq_nil_iff_done _ _).1 ((hall _).1 h)

theorem aircraftRows_complete (hfresh : FreshIds run db) {rawRows : List (Dict Cell)}
    {columnMapping : Dict String} {rows : List (RowResult AircraftData)}
    (hvalid : validateAircraftRows py db organizationId rawRows columnMapping = .ok rows)
    (importJobs : Table ImportJob) :
    (commitRows (commitAircraftRow run organizationId) { db with importJobs } rows).failures = [] ↔
      Batch.AllAccepted (AircraftAccepted db run organizationId) [] (importable rows) := by
  obtain ⟨hchecked, hpairs⟩ := aircraft_validated hvalid
  refine Batch.failures_eq_nil_iff (AircraftReached db run organizationId) (importable rows) ?_
    (importable rows) [] _ rfl (aircraftReached_nil importJobs)
  intro earlier row rest hsplit w hw
  obtain ⟨hmem, hvalid, _⟩ := kept_of_split hsplit
  exact commitAircraftRow_cases hfresh hw (hchecked row hmem hvalid) (ne_of_split hpairs hsplit)

theorem flightRows_complete (hfresh : FreshIds run db) {now : Nat → PyDateTime}
    {rawRows : List (Dict Cell)} {columnMapping strategy : Dict String}
    {rows : List (RowResult FlightData)} {jobId : UUID}
    (hvalid : validateFlightRows py db organizationId now rawRows columnMapping strategy = .ok rows)
    (importJobs : Table ImportJob) :
    (commitRows (commitFlightRow py run organizationId actorUserId jobId) { db with importJobs }
        rows).failures = [] ↔
      Batch.AllAccepted (FlightAccepted py db run organizationId jobId) [] (importable rows) := by
  obtain ⟨hchecked, hpairs⟩ := flights_validated hvalid
  refine Batch.failures_eq_nil_iff
    (fun earlier => FlightReached py db run organizationId jobId (earlier.filter createsAsset) earlier)
    (importable rows) ?_ (importable rows) [] _ rfl (flightReached_nil importJobs)
  intro earlier row rest hsplit w hw
  obtain ⟨hmem, hvalid, hkept⟩ := kept_of_split hsplit
  exact commitFlightRow_cases hfresh actorUserId hw (hchecked row hmem hvalid hkept)
    (ne_of_split (hpairs.imp fun h _ _ => h) hsplit)

/-- **COMPLETENESS**: the commit of a job just created goes through as a whole exactly when the
services accept each importable row after the ones before it.  The validation does not see to it:
it looks at no length, at no plan limit, and at assets only to match flights. -/
theorem commit_complete_iff {newId : UUID} {now : Nat → PyDateTime} {domain filename : String}
    {file : ParsedFile} {columnMapping matchStrategy : Option (Dict String)} {db' : Database}
    {committer : Option UUID} (hfresh : FreshIds run db)
    (hcreate : createImportJob py db newId now organizationId actorUserId domain filename file
      columnMapping matchStrategy = .ok (db', job)) :
    CommitsAll py run db' organizationId committer job ↔
      AllImportable py db run organizationId job.id job.rowResults := by
  obtain ⟨d, _, hcreates⟩ := createImportJob_eq_ok.1 hcreate
  have hrows := hcreates.rows
  obtain ⟨importJobs, _, rfl⟩ := hcreates.stored
  have hnone : ∀ {Data : Type} (o : Batch.Outcome Database (RowResult Data) Error),
      (commitOutcome o).failures = [] ↔ o.failures = [] :=
    fun o => List.map_eq_nil_iff
  rw [commitsAll_iff hcreates.getImportJob hcreates.isOpen, commitJobRows]
  dsimp only
  cases hresults : job.rowResults with
  | aircraft rows =>
    rw [hresults] at hrows
    exact (hnone _).trans (aircraftRows_complete hfresh (validateDomain_aircraft hrows) _)
  | flight rows =>
    rw [hresults] at hrows
    exact (hnone _).trans (flightRows_complete hfresh (validateDomain_flight hrows) _)

end Commit

/-! ## A tenant with one aircraft -/

def fleetDatabase : Database where
  assets := .single { id := 1, organizationId := 1, registration := some "VT-A" }

/-- A commit with identifiers that the tenant does not use. -/
def numberedRun : CommitRun where
  ids n := ⟨100 + n, 200 + n, 300 + n⟩
  clock _ := 0
  finishedAt := 0

theorem freshIds_numberedRun : FreshIds numberedRun fleetDatabase where
  asset n := by
    intro h
    have hid : (100 + n : Nat) = 1 := List.mem_singleton.1 h
    omega
  aircraft n h := by cases h
  flight n h := by cases h
  assetId_injective n m h := Nat.add_left_cancel h
  aircraftId_injective n m h := Nat.add_left_cancel h
  flightId_injective n m h := Nat.add_left_cancel h
  notAircraft n a ha := by cases ha
  notCarrying n b hb := by cases hb

/-- A flight of an hour at new year. -/
def hourFlight (registration : String) : Dict String :=
  Dict.ofEntries [⟨"registration", registration⟩, ⟨"flown_at", "2026-01-01"⟩,
    ⟨"duration_minutes", "60"⟩]

/-- The mapping that leaves the columns of such a flight as they are. -/
def ownNames : Dict String :=
  Dict.ofEntries [⟨"registration", "registration"⟩, ⟨"flown_at", "flown_at"⟩,
    ⟨"duration_minutes", "duration_minutes"⟩]

/-- The import of such flights, with an asset created for every registration that is not known. -/
def importFlights (registrations : List String) : Except Error (Database × ImportJob) :=
  createImportJob .ascii fleetDatabase 9 (fun _ => Interpreter.newYear) 1 none "flight"
    "flights.csv"
    { rawRows := registrations.map hourFlight, sheetNames := ["CSV"], selectedSheet := "CSV",
      fileHash := "" }
    (some ownNames) (some (.single ⟨"*", "CREATE_ASSET"⟩))

def flightRowsOf : RowResults → List (RowResult FlightData)
  | .aircraft _ => []
  | .flight rows => rows

/-- The data of such a flight. -/
def hourData (registration : String) : FlightData where
  registration
  flightNumber := none
  origin := none
  destination := none
  departureTime := none
  arrivalTime := none
  flownAt := Interpreter.newYear
  durationMinutes := 60
  cycles := 1
  missionType := none
  status := "COMPLETED"
  pilotUserId := none
  notes := none

/-- A flight of the aircraft and one of a new registration: both are accepted, and committed. -/
theorem knownAndNew_committed : ∃ db job, importFlights ["VT-A", "VT-B"] = .ok (db, job) ∧
    CommitsAll .ascii numberedRun db 1 none job := by
  have hrows : (importFlights ["VT-A", "VT-B"]).toOption.map (fun x => flightRowsOf x.2.rowResults)
      = some
        [{ rowNumber := 1, status := .valid, errors := [], warnings := [], data := hourData "VT-A"
           matchedAssetId := some 1, matchAction := some .matchExisting },
         { rowNumber := 2, status := .warning, errors := []
           warnings := ["Asset 'VT-B' will be auto-created during import"], data := hourData "VT-B"
           matchAction := some .createAsset }] := by
    decide +kernel
  cases himport : importFlights ["VT-A", "VT-B"] with
  | error e =>
    rw [himport] at hrows
    cases hrows
  | ok x =>
    obtain ⟨db, job⟩ := x
    rw [himport] at hrows
    replace hrows := Option.some.inj hrows
    dsimp only at hrows
    refine ⟨db, job, rfl, (commit_complete_iff freshIds_numberedRun himport).2 ?_⟩
    cases hresults : job.rowResults with
    | aircraft rows =>
      rw [hresults] at hrows
      cases hrows
    | flight rows =>
      rw [hresults] at hrows
      cases hrows
      refine ⟨⟨⟨_, rfl⟩, ?_, ?_⟩, ⟨⟨?_, ?_, ?_, ?_, ?_⟩, ?_, ?_⟩, trivial⟩
      · show FlightService.flightColumnsFit (importedFlight .ascii numberedRun 1 9 _) = true
        decide
      · intro b hb
        cases hb
      · decide
      · decide
      · show BelowLimit fleetDatabase 1 0 0
        rw [BelowLimit]
        decide
      · intro a ha _
        cases List.mem_singleton.1 ha
        decide
      · intro e he
        cases he
      · show FlightService.flightColumnsFit (importedFlight .ascii numberedRun 1 9 _) = true
        decide
      · intro b hb
        cases hb

/-- Two flights of a new registration are both valid, and the second cannot be committed: its
asset would be created again. -/
theorem newAssetTwice_not_committed : FreshIds numberedRun fleetDatabase ∧
    ∃ db job, importFlights ["VT-B", "VT-B"] = .ok (db, job) ∧
      ¬CommitsAll .ascii numberedRun db 1 none job := by
  have hrun : ((importFlights ["VT-B", "VT-B"]).bind fun x =>
      (commitImportJob .ascii numberedRun x.1 1 none x.2.id).map fun y =>
        (y.2.rowsFailed, y.2.rowsCreated)).toOption = some (1, 1) := by
    decide +kernel
  refine ⟨freshIds_numberedRun, ?_⟩
  cases himport : importFlights ["VT-B", "VT-B"] with
  | error e =>
    rw [himport] at hrun
    cases hrun
  | ok x =>
    obtain ⟨db, job⟩ := x
    rw [himport] at hrun
    refine ⟨db, job, rfl, ?_⟩
    rintro ⟨db', done, hcommit, hfailed, _⟩
    replace hrun : ((commitImportJob .ascii numberedRun db 1 none job.id).map fun y =>
        (y.2.rowsFailed, y.2.rowsCreated)).toOption = some (1, 1) := hrun
    rw [hcommit] at hrun
    have hone : done.rowsFailed = 1 := congrArg Prod.fst (Option.some.inj hrun)
    rw [hone] at hfailed
    cases hfailed

end ImportService
end AeroComply
