import AeroComply.Lib.Batch
import AeroComply.Lib.Sessions
import AeroComply.Import.Validation
import AeroComply.Services.AssetCreation
import AeroComply.Services.Flight

/-!
# Service — import jobs are created, configured and committed

`create_import_job`, `configure_import_job` and `commit_import_job` of
`app/services/import_service.py`.  A job is created from a parsed file; a commit takes
its rows to the services of their domain, one transaction or two for each row, and
counts those that raise.
-/

namespace AeroComply

open Relational (Table)
open Sessions (Call query transaction)

namespace ImportService

/-- What `parse_file_content` returns. -/
structure ParsedFile where
  rawRows : List (Dict String)
  sheetNames : List String
  selectedSheet : String
  fileHash : String

/-- A row of a file: every cell is a text. -/
def textRow (row : Dict String) : Dict Cell :=
  Dict.ofEntries (row.rows.map fun c => ⟨c.key, .text c.value⟩)

/-- `list(raw_rows[0].keys()) if raw_rows else []`. -/
def headersOf (rawRows : List (Dict String)) : List String :=
  match rawRows with
  | [] => []
  | row :: _ => row.rows.map Entry.key

/-- `_DOMAIN_REQUIRED_COLUMNS`. -/
def requiredColumns : ImportDomain → List String
  | .aircraft => ["registration", "msn", "aircraft_type"]
  | .drone => ["registration"]
  | .flight => ["registration", "flown_at"]

/-- The required fields that no column of the file is mapped to or named after. -/
def missingColumns (py : Interpreter) (domain : ImportDomain) (headers : List String)
    (columnMapping : Dict String) : List String :=
  (requiredColumns domain).filter fun c =>
    !(columnMapping.rows.map Entry.value).contains c &&
      !headers.any fun h => py.lower h = c || (synonymsOf c).contains (py.lower h)

/-- `if not column_mapping`: the saved default of the tenant, or the automatic mapping. -/
def effectiveMapping (py : Interpreter) (db : Database) (organizationId : UUID)
    (domain : ImportDomain) (headers : List String) (columnMapping : Option (Dict String)) :
    Dict String :=
  match columnMapping.filter fun m => !m.rows.isEmpty with
  | some m => m
  | none =>
    match (db.importMappings.select fun m =>
        m.organizationId = organizationId && m.domain = domain.value && m.isDefault).head? with
    | some saved => saved.mapping
    | none => autoMapColumns py headers

/-- Status and number of errors of each row. -/
def RowResults.verdicts : RowResults → List (RowStatus × Nat)
  | .aircraft rows => rows.map fun r => (r.status, r.errors.length)
  | .flight rows => rows.map fun r => (r.status, r.errors.length)

/-- The counters of a job, from its rows. -/
def withCounters (job : ImportJob) : ImportJob :=
  let verdicts := RowResults.verdicts job.rowResults
  { job with
    rowsValid := verdicts.countP fun v => v.1 ≠ .invalid
    rowsInvalid := verdicts.countP fun v => v.1 = .invalid
    warningCount := verdicts.countP fun v => v.1 = .warning
    errorCount := (verdicts.map Prod.snd).sum }

def getImportJob (db : Database) (organizationId jobId : UUID) : Except Error ImportJob :=
  oneOrRaise (db.importJobs.select fun j => j.id = jobId && j.organizationId = organizationId)
    (.notFound "Import job not found")

/-- A job can still be configured or committed. -/
def isOpen (status : ImportJobStatus) : Bool := status = .validated || status = .staged

/-- The job that is stored of a file. -/
def newImportJob (newId organizationId : UUID) (actorUserId : Option UUID) (filename : String)
    (file : ParsedFile) (columnMapping strategy : Dict String) (rowResults : RowResults) :
    ImportJob :=
  withCounters
    { id := newId, organizationId, filename, fileHash := some file.fileHash
      status := .validated, createdByUserId := actorUserId, sheetNames := file.sheetNames
      selectedSheet := file.selectedSheet, columnMapping, matchStrategy := strategy
      rowsTotal := file.rawRows.length, rowResults }

/-- `create_import_job`, of a file that has been parsed; `now` is the clock at each row. -/
def createImportJob (py : Interpreter) (db : Database) (newId : UUID) (now : Nat → PyDateTime)
    (organizationId : UUID) (actorUserId : Option UUID) (domain filename : String)
    (file : ParsedFile) (columnMapping matchStrategy : Option (Dict String)) :
    Except Error (Database × ImportJob) := do
  match ImportDomain.ofText? (py.upper domain) with
  | none => .error (.aeroComply ("Unsupported import domain: " ++ domain) "unsupported_domain")
  | some domain =>
    let headers := headersOf file.rawRows
    let columnMapping := effectiveMapping py db organizationId domain headers columnMapping
    let missing := missingColumns py domain headers columnMapping
    raiseIf (file.rawRows ≠ [] ∧ missing ≠ [])
      (.aeroComply ("File is missing required column(s): " ++ ", ".intercalate missing)
        "missing_columns")
    let strategy := matchStrategy.getD Table.empty
    let rowResults ← validateDomain py db organizationId now domain (file.rawRows.map textRow)
      columnMapping strategy
    raiseIf (255 < filename.length ∨ 255 < file.selectedSheet.length) .dataError
    let job := newImportJob newId organizationId actorUserId filename file columnMapping strategy
      rowResults
    let importJobs ← addRow db.importJobs job
    pure ({ db with importJobs }, job)

section Creation

variable {py : Interpreter} {db db' : Database} {newId organizationId : UUID}
  {now : Nat → PyDateTime} {actorUserId : Option UUID} {domain filename : String}
  {file : ParsedFile} {columnMapping matchStrategy : Option (Dict String)} {job : ImportJob}

/-- What a creation that answers has done, in the domain `d`. -/
structure Creates (py : Interpreter) (db : Database) (newId organizationId : UUID)
    (now : Nat → PyDateTime) (actorUserId : Option UUID) (filename : String) (file : ParsedFile)
    (mapping strategy : Dict String) (d : ImportDomain) (db' : Database) (job : ImportJob) :
    Prop where
  columns : file.rawRows ≠ [] → missingColumns py d (headersOf file.rawRows) mapping = []
  names : ¬(255 < filename.length ∨ 255 < file.selectedSheet.length)
  rows : validateDomain py db organizationId now d (file.rawRows.map textRow) mapping strategy
    = .ok job.rowResults
  row : newImportJob newId organizationId actorUserId filename file mapping strategy job.rowResults
    = job
  stored : ∃ importJobs, db.importJobs.insert? job = some importJobs ∧ { db with importJobs } = db'

theorem createImportJob_eq_ok :
    createImportJob py db newId now organizationId actorUserId domain filename file columnMapping
        matchStrategy = .ok (db', job) ↔
      ∃ d, ImportDomain.ofText? (py.upper domain) = some d ∧
        Creates py db newId organizationId now actorUserId filename file
          (effectiveMapping py db organizationId d (headersOf file.rawRows) columnMapping)
          (matchStrategy.getD Table.empty) d db' job := by
  rw [createImportJob]
  cases ImportDomain.ofText? (py.upper domain) with
  | none =>
    constructor
    · intro h
      cases h
    · rintro ⟨d, hd, _⟩
      cases hd
  | some d =>
    dsimp only
    constructor
    · intro h
      obtain ⟨_, hcolumns, h⟩ := bind_eq_ok.1 h
      obtain ⟨rowResults, hrows, h⟩ := bind_eq_ok.1 h
      obtain ⟨_, hnames, h⟩ := bind_eq_ok.1 h
      obtain ⟨importJobs, hadd, h⟩ := bind_eq_ok.1 h
      cases h
      refine ⟨d, rfl, ?_, raiseIf_eq_ok.1 hnames, hrows, rfl,
        importJobs, addRowOrRaise_eq_ok.1 hadd, rfl⟩
      intro hne
      by_contra hmissing
      exact raiseIf_eq_ok.1 hcolumns ⟨hne, hmissing⟩
    · rintro ⟨_, hd, h⟩
      cases hd
      obtain ⟨importJobs, hinsert, hdb⟩ := h.stored
      rw [raiseIf, if_neg fun hmissing => hmissing.2 (h.columns hmissing.1), ok_bind, h.rows, ok_bind,
        raiseIf, if_neg h.names, ok_bind, h.row, addRow, addRowOrRaise_eq_ok.2 hinsert, ok_bind, hdb]
      rfl

variable {mapping strategy : Dict String} {d : ImportDomain}

theorem Creates.getImportJob (h : Creates py db newId organizationId now actorUserId filename file
    mapping strategy d db' job) : getImportJob db' organizationId job.id = .ok job := by
  obtain ⟨importJobs, hinsert, rfl⟩ := h.stored
  have horg : job.organizationId = organizationId := by
    rw [← h.row]
    rfl
  refine oneOrRaise_of_key ((Table.mem_insert? hinsert).2 (Or.inr rfl)) (by simp [horg]) ?_
  intro x _ hx
  simp only [Bool.and_eq_true, decide_eq_true_eq] at hx
  exact hx.1

theorem Creates.isOpen (h : Creates py db newId organizationId now actorUserId filename file
    mapping strategy d db' job) : isOpen job.status = true := by
  rw [← h.row]
  rfl

end Creation

/-! ## Configuring -/

/-- A text or `null`. -/
def cellOf : Option String → Cell
  | none => .null
  | some s => .text s

/-- The `data` of an aircraft row as it is loaded: a `jsonb` object has its shorter keys first. -/
def storedAircraft (d : AircraftData) : Dict Cell :=
  Dict.ofEntries [⟨"msn", .text d.msn⟩, ⟨"status", .text d.status⟩,
    ⟨"registration", .text d.registration⟩, ⟨"aircraft_type", .text d.aircraftType⟩]

/-- The `data` of a flight row as it is loaded. -/
def storedFlight (py : Interpreter) (d : FlightData) : Dict Cell :=
  Dict.ofEntries [⟨"notes", cellOf d.notes⟩, ⟨"cycles", .number d.cycles⟩,
    ⟨"origin", cellOf d.origin⟩, ⟨"source", .text "EXCEL_IMPORT"⟩, ⟨"status", .text d.status⟩,
    ⟨"flown_at", .text (py.isoformat d.flownAt)⟩, ⟨"destination", cellOf d.destination⟩,
    ⟨"arrival_time", cellOf (d.arrivalTime.map py.isoformat)⟩,
    ⟨"mission_type", cellOf d.missionType⟩, ⟨"registration", .text d.registration⟩,
    ⟨"flight_number", cellOf d.flightNumber⟩,
    ⟨"pilot_user_id", cellOf (d.pilotUserId.map py.uuidText)⟩,
    ⟨"departure_time", cellOf (d.departureTime.map py.isoformat)⟩,
    ⟨"duration_minutes", .number d.durationMinutes⟩]

/-- `[r["data"] for r in job.row_results]`. -/
def storedRows (py : Interpreter) : RowResults → List (Dict Cell)
  | .aircraft rows => rows.map fun r => storedAircraft r.data
  | .flight rows => rows.map fun r => storedFlight py r.data

/-- `merged_strategy`, or the stored strategy where none is given. -/
def mergedStrategy (stored : Dict String) (matchStrategy : Option (Dict String)) : Dict String :=
  match matchStrategy with
  | none => stored
  | some s => stored.update s

/-- `configure_import_job`; the rows are validated again from what was stored of them. -/
def configureImportJob (py : Interpreter) (db : Database) (now : Nat → PyDateTime)
    (organizationId jobId : UUID) (columnMapping matchStrategy : Option (Dict String)) :
    Except Error (Database × ImportJob) := do
  let job ← getImportJob db organizationId jobId
  let status := job.status.value
  raiseIf (isOpen job.status = false)
    (.conflict s!"Cannot configure import job in status {status}")
  let columnMapping := columnMapping.getD job.columnMapping
  let strategy := mergedStrategy job.matchStrategy matchStrategy
  let rowResults ← validateDomain py db organizationId now job.rowResults.domain
    (storedRows py job.rowResults) columnMapping strategy
  let job := withCounters
    { job with columnMapping, matchStrategy := strategy, rowResults, status := .validated }
  pure ({ db with importJobs := db.importJobs.save job }, job)

/-! ## Committing -/

/-- The identifiers of the rows that one import row can add. -/
structure RowIds where
  assetId : UUID
  aircraftId : UUID
  flightId : UUID

/-- What a commit takes from outside: at each row its identifiers and the time, and the time at
the end. -/
structure CommitRun where
  ids : Nat → RowIds
  clock : Nat → DateTime
  finishedAt : DateTime

/-- `AircraftCreateRequest(**row_data)`. -/
def aircraftRequest (d : AircraftData) :
    Except Error AircraftService.AircraftCreateRequest :=
  if h : (1 ≤ d.registration.length ∧ d.registration.length ≤ 16) ∧
      (1 ≤ d.msn.length ∧ d.msn.length ≤ 64) ∧
      (1 ≤ d.aircraftType.length ∧ d.aircraftType.length ≤ 128) ∧ d.status.length ≤ 32 then
    .ok { registration := d.registration, msn := d.msn, aircraftType := d.aircraftType
          status := d.status, registration_length := h.1, msn_length := h.2.1
          aircraftType_length := h.2.2.1, status_length := h.2.2.2 }
  else .error (.validation "AircraftCreateRequest")

/-- An aircraft row; the actor is not passed on. -/
def commitAircraftRow (run : CommitRun) (organizationId : UUID) (row : RowResult AircraftData) :
    Call Database Error Unit :=
  transaction fun db => do
    let payload ← aircraftRequest row.data
    let ids := run.ids row.rowNumber
    (AircraftService.createAircraft db ids.assetId ids.aircraftId (run.clock row.rowNumber)
      organizationId none payload).map Prod.fst

/-- `AssetCreateRequest(asset_type="AIRCRAFT", registration=reg, status="ACTIVE")`. -/
def assetRequest (registration : String) : Except Error AssetService.AssetCreateRequest := do
  raiseIf (¬(1 ≤ registration.length ∧ registration.length ≤ 16))
    (.validation "AssetCreateRequest")
  pure { assetType := AssetType.aircraft, registration, status := "ACTIVE" }

/-- The asset that is created for a flight row. -/
def provisionAsset (py : Interpreter) (run : CommitRun) (organizationId : UUID)
    (actorUserId : Option UUID) (row : RowResult FlightData) (db : Database) :
    Except Error Database := do
  let payload ← assetRequest row.data.registration
  (AssetService.createAsset py.unicode db (run.ids row.rowNumber).assetId
    (run.clock row.rowNumber) organizationId actorUserId payload).map Prod.fst

/-- The asset a flight is recorded on: the one that was matched, or one that is created, and
committed, before the flight. -/
def targetAsset (py : Interpreter) (run : CommitRun) (organizationId : UUID)
    (actorUserId : Option UUID) (row : RowResult FlightData) : Call Database Error UUID :=
  match row.matchedAssetId with
  | some assetId => pure assetId
  | none =>
    if row.matchAction = some .createAsset then do
      transaction (provisionAsset py run organizationId actorUserId row)
      pure (run.ids row.rowNumber).assetId
    else
      query fun _ =>
        .error (.aeroComply s!"No asset associated with flight row {row.rowNumber}")

/-- The arguments of `record_flight`. -/
def flightRecord (jobId : UUID) (rowNumber : Nat) (d : FlightData) : FlightService.FlightRecord where
  flownAt := d.flownAt.instant
  durationMinutes := d.durationMinutes
  cycles := d.cycles
  pilotUserId := d.pilotUserId
  notes := d.notes
  flightNumber := d.flightNumber
  origin := d.origin
  destination := d.destination
  departureTime := d.departureTime.map PyDateTime.instant
  arrivalTime := d.arrivalTime.map PyDateTime.instant
  missionType := d.missionType
  status := d.status
  source := "EXCEL_IMPORT"
  sourceRowId := some s!"job_{jobId}_row_{rowNumber}"

/-- A flight row. -/
def commitFlightRow (py : Interpreter) (run : CommitRun) (organizationId : UUID)
    (actorUserId : Option UUID) (jobId : UUID) (row : RowResult FlightData) :
    Call Database Error Unit := do
  let assetId ← targetAsset py run organizationId actorUserId row
  transaction fun db =>
    FlightService.recordFlightRecord py.unicode db (run.ids row.rowNumber).flightId organizationId
      actorUserId assetId (flightRecord jobId row.rowNumber row.data) true

/-- The rows that are committed: those without an error that are not to be skipped. -/
def importable {Data : Type} (rows : List (RowResult Data)) : List (RowResult Data) :=
  rows.filter fun r => r.status ≠ .invalid && r.matchAction ≠ some .skip

/-- What a failed row adds to the error summary. -/
def failureMessage (rowNumber : Nat) (e : Error) : String :=
  let unexpected (name : String) : String := s!"unexpected error ({name})"
  let text := match e with
    | .notFound message | .conflict message _ | .forbidden message _ | .unauthorized message
    | .aeroComply message _ => message
    | .validation _ => unexpected "ValidationError"
    | .multipleResultsFound => unexpected "MultipleResultsFound"
    | .noResultFound => unexpected "NoResultFound"
    | .integrity => unexpected "IntegrityError"
    | .dataError => unexpected "DataError"
    | .attributeError => unexpected "AttributeError"
    | .typeError => unexpected "TypeError"
    | .assertionError => unexpected "AssertionError"
    | .overflowError => unexpected "OverflowError"
    | .keyError => unexpected "KeyError"
  s!"Row {rowNumber}: " ++ text

/-- The loop over the rows: a row that raises is rolled back and counted. -/
def commitRows {Data : Type} (commitRow : RowResult Data → Call Database Error Unit)
    (db : Database) (rows : List (RowResult Data)) :
    Batch.Outcome Database (RowResult Data) Error :=
  Batch.run (fun db row => (Sessions.answer (commitRow row) db, Sessions.left (commitRow row) db))
    db (importable rows)

/-- The tables, the rows created, and the failures by row number. -/
structure CommitOutcome where
  db : Database
  created : Nat
  failures : List (Nat × Error)

def commitOutcome {Data : Type} (o : Batch.Outcome Database (RowResult Data) Error) :
    CommitOutcome where
  db := o.state
  created := o.done
  failures := o.failures.map fun f => (f.1.rowNumber, f.2)

/-- The rows of a job, in their domain. -/
def commitJobRows (py : Interpreter) (run : CommitRun) (organizationId : UUID)
    (actorUserId : Option UUID) (job : ImportJob) (db : Database) : CommitOutcome :=
  match job.rowResults with
  | .aircraft rows => commitOutcome (commitRows (commitAircraftRow run organizationId) db rows)
  | .flight rows =>
    commitOutcome (commitRows (commitFlightRow py run organizationId actorUserId job.id) db rows)

/-- The status of a job after its commit. -/
def finalStatus (o : CommitOutcome) : ImportJobStatus :=
  if o.failures.length = 0 then .completed
  else if 0 < o.created then .completedWithErrors
  else .failed

def commitImportJob (py : Interpreter) (run : CommitRun) (db : Database) (organizationId : UUID)
    (actorUserId : Option UUID) (jobId : UUID) : Except Error (Database × ImportJob) := do
  let job ← getImportJob db organizationId jobId
  let status := job.status.value
  raiseIf (isOpen job.status = false)
    (.conflict s!"Import job is already {status}; it cannot be committed again")
  let claimed := { job with status := .importing }
  let o := commitJobRows py run organizationId actorUserId claimed
    { db with importJobs := db.importJobs.save claimed }
  let finished := { claimed with
    status := finalStatus o
    rowsCreated := o.created
    rowsFailed := o.failures.length
    completedAt := some run.finishedAt
    errorSummary :=
      if o.failures = [] then none
      else some ("; ".intercalate (o.failures.map fun f => failureMessage f.1 f.2)) }
  pure (({ o.db with importJobs := o.db.importJobs.save finished }).recordAuditEvent organizationId
    actorUserId "import.commit" "ImportJob" (some job.id), finished)

end ImportService
end AeroComply
