import AeroComply.Import.Agreement
import AeroComply.Import.Completeness

/-!
# Reconfiguration — a configured job, and the job created anew

A job is configured by validating again what was stored of its rows: the file is not
kept.  What was stored is already normalized, so an error of the file can be gone from
it, and a column that the format does not have is.
-/

namespace AeroComply

open Relational (Table)

namespace ImportService

/-- The same status, errors, data and match action in every row. -/
def SameVerdicts : RowResults → RowResults → Prop
  | .aircraft rows, .aircraft rows' => rows'.map shown = rows.map shown
  | .flight rows, .flight rows' => rows'.map shown = rows.map shown
  | _, _ => False

/-- Configuring a job gives the verdicts of its creation with the new mapping and the extended
strategy; what is not given stays. -/
def Reconfigures (py : Interpreter) (db db' : Database) (newId : UUID) (now : Nat → PyDateTime)
    (organizationId : UUID) (actorUserId : Option UUID) (domain filename : String)
    (file : ParsedFile) (job : ImportJob)
    (columnMapping matchStrategy newMapping newStrategy : Option (Dict String)) : Prop :=
  ∃ db₁ configured db₂ fresh,
    configureImportJob py db' now organizationId job.id newMapping newStrategy
      = .ok (db₁, configured) ∧
    createImportJob py db newId now organizationId actorUserId domain filename file
      (newMapping.or columnMapping)
      (some (mergedStrategy (matchStrategy.getD Table.empty) newStrategy)) = .ok (db₂, fresh) ∧
    SameVerdicts fresh.rowResults configured.rowResults

/-- Two lists of rows can be read, each under its mapping, and are judged alike. -/
def Alike (py : Interpreter) (db : Database) (organizationId : UUID) (strategy : Dict String)
    (rows rows' : List (Dict Cell)) (columnMapping columnMapping' : Dict String) :
    ImportDomain → Prop
  | .aircraft =>
    AircraftAlike py (existingRegistrations py db organizationId) rows rows' columnMapping
      columnMapping'
  | .drone => False
  | .flight => FlightsAlike py db organizationId strategy rows rows' columnMapping columnMapping'

/-- The file has the columns it needs under the new mapping, and what was stored of its rows reads
under that mapping as the rows of the file do. -/
structure ReadsAlike (py : Interpreter) (db : Database) (organizationId : UUID) (file : ParsedFile)
    (job : ImportJob) (columnMapping matchStrategy newMapping newStrategy : Option (Dict String)) :
    Prop where
  columns : file.rawRows ≠ [] → missingColumns py job.rowResults.domain (headersOf file.rawRows)
    (effectiveMapping py db organizationId job.rowResults.domain (headersOf file.rawRows)
      (newMapping.or columnMapping)) = []
  rows : Alike py db organizationId (mergedStrategy (matchStrategy.getD Table.empty) newStrategy)
    (file.rawRows.map textRow) (storedRows py job.rowResults)
    (effectiveMapping py db organizationId job.rowResults.domain (headersOf file.rawRows)
      (newMapping.or columnMapping))
    (newMapping.getD job.columnMapping) job.rowResults.domain

section Law

variable {py : Interpreter} {db db' : Database} {newId organizationId : UUID}
  {before now : Nat → PyDateTime} {actorUserId : Option UUID} {domain filename : String}
  {file : ParsedFile} {job : ImportJob}
  {columnMapping matchStrategy newMapping newStrategy : Option (Dict String)}

/-- Two calls answer with what two others do, wrapped. -/
theorem exists_map_eq_ok {α β : Type} {x y : Except Error α} {f : α → β} {S : β → β → Prop} :
    (∃ b b', x.map f = .ok b ∧ y.map f = .ok b' ∧ S b b') ↔
      ∃ a a', x = .ok a ∧ y = .ok a' ∧ S (f a) (f a') := by
  constructor
  · rintro ⟨_, _, hx, hy, hS⟩
    obtain ⟨a, ha, rfl⟩ := map_eq_ok.1 hx
    obtain ⟨a', ha', rfl⟩ := map_eq_ok.1 hy
    exact ⟨a, a', ha, ha', hS⟩
  · rintro ⟨a, a', ha, ha', hS⟩
    exact ⟨f a, f a', map_eq_ok.2 ⟨a, ha, rfl⟩, map_eq_ok.2 ⟨a', ha', rfl⟩, hS⟩

theorem alike_iff {strategy : Dict String} {rows rows' : List (Dict Cell)}
    {mapping mapping' : Dict String} (d : ImportDomain) :
    (∃ results results',
      validateDomain py db organizationId now d rows mapping strategy = .ok results ∧
      validateDomain py db organizationId now d rows' mapping' strategy = .ok results' ∧
      SameVerdicts results results') ↔
    Alike py db organizationId strategy rows rows' mapping mapping' d := by
  cases d with
  | aircraft =>
    rw [Alike, ← aircraftAlike_iff]
    exact exists_map_eq_ok
  | drone =>
    refine iff_of_false ?_ fun h => h
    rintro ⟨_, _, h, _⟩
    cases h
  | flight =>
    rw [Alike, ← flightsAlike_iff]
    exact exists_map_eq_ok

variable {rows : List (Dict Cell)} {P : RowResults → Prop} {d : ImportDomain}

theorem domain_of_validateDomain {strategy mapping : Dict String} {results : RowResults}
    (h : validateDomain py db organizationId now d rows mapping strategy = .ok results) :
    results.domain = d := by
  cases d with
  | drone => cases h
  | aircraft =>
    obtain ⟨_, _, rfl⟩ := map_eq_ok.1 h
    rfl
  | flight =>
    obtain ⟨_, _, rfl⟩ := map_eq_ok.1 h
    rfl

theorem validateDomain_importJobs {strategy mapping : Dict String} (importJobs : Table ImportJob)
    (d : ImportDomain) :
    validateDomain py { db with importJobs } organizationId now d rows mapping strategy
      = validateDomain py db organizationId now d rows mapping strategy := by
  cases d with
  | aircraft => rfl
  | drone => rfl
  | flight =>
    have hlookups : flightLookups py { db with importJobs } organizationId
        = flightLookups py db organizationId := rfl
    have hrow : ∀ known, validateFlightRow py { db with importJobs } organizationId known mapping
        strategy now = validateFlightRow py db organizationId known mapping strategy now := by
      intro known
      funext seen number row
      rfl
    rw [validateDomain, validateDomain, validateFlightRows, validateFlightRows, hlookups]
    simp only [hrow]

theorem configures_iff (hjob : getImportJob db' organizationId job.id = .ok job)
    (hopen : isOpen job.status = true) :
    (∃ db₁ configured, configureImportJob py db' now organizationId job.id newMapping newStrategy
        = .ok (db₁, configured) ∧ P configured.rowResults) ↔
      ∃ results, validateDomain py db' organizationId now job.rowResults.domain
          (storedRows py job.rowResults) (newMapping.getD job.columnMapping)
          (mergedStrategy job.matchStrategy newStrategy) = .ok results ∧ P results := by
  rw [configureImportJob, hjob, ok_bind]
  dsimp only
  rw [raiseIf, if_neg (by simp [hopen]), ok_bind]
  constructor
  · rintro ⟨db₁, configured, h, hP⟩
    obtain ⟨results, hresults, h⟩ := bind_eq_ok.1 h
    cases h
    exact ⟨results, hresults, hP⟩
  · rintro ⟨results, hresults, hP⟩
    rw [hresults]
    exact ⟨_, _, rfl, hP⟩

theorem creates_again_iff {mapping strategy : Dict String}
    (again strategyAgain : Option (Dict String))
    (hd : ImportDomain.ofText? (py.upper domain) = some d)
    (hcreates : Creates py db newId organizationId before actorUserId filename file mapping strategy
      d db' job) :
    (∃ db₂ fresh, createImportJob py db newId now organizationId actorUserId domain filename file
        again strategyAgain = .ok (db₂, fresh) ∧ P fresh.rowResults) ↔
      (file.rawRows ≠ [] → missingColumns py d (headersOf file.rawRows)
        (effectiveMapping py db organizationId d (headersOf file.rawRows) again) = []) ∧
      ∃ results, validateDomain py db organizationId now d (file.rawRows.map textRow)
        (effectiveMapping py db organizationId d (headersOf file.rawRows) again)
        (strategyAgain.getD Table.empty) = .ok results ∧ P results := by
  constructor
  · rintro ⟨db₂, fresh, h, hP⟩
    obtain ⟨d', hd', hfresh⟩ := createImportJob_eq_ok.1 h
    cases hd.symm.trans hd'
    exact ⟨hfresh.columns, fresh.rowResults, hfresh.rows, hP⟩
  · rintro ⟨hcolumns, results, hrows, hP⟩
    obtain ⟨importJobs, hinsert, _⟩ := hcreates.stored
    have hid : job.id = newId := by
      rw [← hcreates.row]
      rfl
    cases hagain : db.importJobs.insert? (newImportJob newId organizationId actorUserId filename file
        (effectiveMapping py db organizationId d (headersOf file.rawRows) again)
        (strategyAgain.getD Table.empty) results) with
    | none =>
      obtain ⟨y, hy, hkey⟩ := Table.insert?_eq_none.1 hagain
      exact absurd (List.mem_map.2 ⟨y, hy, hkey.trans hid.symm⟩) (Table.insert?_eq_some hinsert).1
    | some importJobs' =>
      exact ⟨_, _, createImportJob_eq_ok.2
        ⟨d, hd, hcolumns, hcreates.names, hrows, rfl, importJobs', hagain, rfl⟩, hP⟩

/-- **RECONFIGURATION**: configuring gives what validating the file from scratch would exactly when
the rows stored of the file read, under the new mapping, as its own rows do. -/
theorem reconfigure_iff (hcreate : createImportJob py db newId before organizationId actorUserId
      domain filename file columnMapping matchStrategy = .ok (db', job)) :
    Reconfigures py db db' newId now organizationId actorUserId domain filename file job
        columnMapping matchStrategy newMapping newStrategy ↔
      ReadsAlike py db organizationId file job columnMapping matchStrategy newMapping
        newStrategy := by
  obtain ⟨d, hd, hcreates⟩ := createImportJob_eq_ok.1 hcreate
  have hdomain : job.rowResults.domain = d := domain_of_validateDomain hcreates.rows
  have hstrategy : job.matchStrategy = matchStrategy.getD Table.empty := by
    rw [← hcreates.row]
    rfl
  have hsame : ∀ (rows : List (Dict Cell)) (mapping strategy : Dict String),
      validateDomain py db' organizationId now d rows mapping strategy
        = validateDomain py db organizationId now d rows mapping strategy := by
    obtain ⟨importJobs, _, rfl⟩ := hcreates.stored
    exact fun rows mapping strategy => validateDomain_importJobs importJobs d
  constructor
  · rintro ⟨db₁, configured, db₂, fresh, hconfigured, hfresh, hverdicts⟩
    obtain ⟨results', hrows', hverdicts⟩ :=
      (configures_iff hcreates.getImportJob hcreates.isOpen).1
        ⟨db₁, configured, hconfigured, hverdicts⟩
    obtain ⟨hcolumns, results, hrows, hverdicts⟩ :=
      (creates_again_iff (P := fun r => SameVerdicts r results') _ _ hd hcreates).1
        ⟨db₂, fresh, hfresh, hverdicts⟩
    rw [hdomain, hsame, hstrategy] at hrows'
    refine ⟨?_, ?_⟩
    · rw [hdomain]
      exact hcolumns
    · rw [hdomain]
      exact (alike_iff d).1 ⟨results, results', hrows, hrows', hverdicts⟩
  · rintro ⟨hcolumns, hall⟩
    rw [hdomain] at hcolumns hall
    obtain ⟨results, results', hrows, hrows', hverdicts⟩ := (alike_iff d).2 hall
    obtain ⟨db₂, fresh, hfresh, hverdicts⟩ :=
      (creates_again_iff (P := fun r => SameVerdicts r results') (newMapping.or columnMapping)
        (some (mergedStrategy (matchStrategy.getD Table.empty) newStrategy)) hd hcreates).2
        ⟨hcolumns, results, hrows, hverdicts⟩
    rw [← hsame, ← hstrategy, ← hdomain] at hrows'
    obtain ⟨db₁, configured, hconfigured, hverdicts⟩ :=
      (configures_iff hcreates.getImportJob hcreates.isOpen).2
        ⟨results', hrows', hverdicts⟩
    exact ⟨db₁, configured, db₂, fresh, hconfigured, hfresh, hverdicts⟩

end Law

/-! ## One flight, with a date and without -/

/-- A file of one flight of the aircraft. -/
def flightFile (flownAt : String) : ParsedFile where
  rawRows := [Dict.ofEntries [⟨"registration", "VT-A"⟩, ⟨"flown_at", flownAt⟩,
    ⟨"duration_minutes", "60"⟩]]
  sheetNames := ["CSV"]
  selectedSheet := "CSV"
  fileHash := ""

def importFlight (flownAt : String) : Except Error (Database × ImportJob) :=
  createImportJob .ascii fleetDatabase 9 (fun _ => Interpreter.newYear) 1 none "flight"
    "flights.csv" (flightFile flownAt) (some ownNames) none

/-- Configuring the import of the flight, with the mapping it was created with. -/
def FlightReconfigures (db : Database) (flownAt : String) (job : ImportJob) : Prop :=
  Reconfigures .ascii fleetDatabase db 9 (fun _ => Interpreter.newYear) 1 none "flight"
    "flights.csv" (flightFile flownAt) job (some ownNames) none (some ownNames)
    (some (.single ⟨"VT-B", "SKIP"⟩))

/-- What the validator reads of the flight in the file. -/
def flightOfFile : FlightReading where
  registration := "VT-A"
  flownAtRaw := "'2026-01-01'"
  flownAt := some Interpreter.newYear
  durationMinutes := some 60
  cycles := none
  flightNumber := none
  origin := none
  destination := none
  departureTime := none
  arrivalTime := none
  missionType := none
  status := "COMPLETED"
  notes := none
  pilot := ""

/-- A flight with a date reads the same from what was stored of it, but for the default cycle. -/
theorem datedFlight_reconfigures : ∃ db job, importFlight "2026-01-01" = .ok (db, job) ∧
    FlightReconfigures db "2026-01-01" job := by
  have hrows : (importFlight "2026-01-01").toOption.map (fun x => flightRowsOf x.2.rowResults)
      = some
        [{ rowNumber := 1, status := .valid, errors := [], warnings := [], data := hourData "VT-A"
           matchedAssetId := some 1, matchAction := some .matchExisting }] := by
    decide +kernel
  cases himport : importFlight "2026-01-01" with
  | error e =>
    rw [himport] at hrows
    cases hrows
  | ok x =>
    obtain ⟨db, job⟩ := x
    rw [himport] at hrows
    replace hrows := Option.some.inj hrows
    dsimp only at hrows
    refine ⟨db, job, rfl, (reconfigure_iff himport).2 ?_⟩
    have hresults : job.rowResults = .flight
        [{ rowNumber := 1, status := .valid, errors := [], warnings := [], data := hourData "VT-A"
           matchedAssetId := some 1, matchAction := some .matchExisting }] := by
      cases h : job.rowResults with
      | aircraft rows =>
        rw [h] at hrows
        cases hrows
      | flight rows =>
        rw [h] at hrows
        exact congrArg _ hrows
    constructor
    · rw [hresults]
      decide
    · rw [hresults]
      have hlookups : (flightLookups .ascii fleetDatabase 1).isOk = true := by decide
      cases hknown : flightLookups .ascii fleetDatabase 1 with
      | error e =>
        rw [hknown] at hlookups
        cases hlookups
      | ok known =>
        refine ⟨known, [flightOfFile],
          [{ flightOfFile with
              flownAtRaw := "'2026-01-01T00:00:00+00:00'", cycles := some 1 }], hknown, ?_, ?_,
          ⟨rfl, rfl, rfl, rfl, rfl, rfl, rfl, nofun, rfl, rfl, rfl, rfl, rfl, rfl,
            ⟨[], rfl, fun _ => Iff.rfl⟩⟩, trivial⟩
        · show flightReadings .ascii ((flightFile "2026-01-01").rawRows.map textRow) ownNames = _
          decide +kernel
        · show flightReadings .ascii [storedFlight .ascii (hourData "VT-A")] ownNames = _
          decide +kernel

def flightStatuses (results : RowResults) : List RowStatus :=
  (flightRowsOf results).map RowResult.status

theorem flightStatuses_eq {results results' : RowResults} (h : SameVerdicts results results') :
    flightStatuses results' = flightStatuses results := by
  cases results with
  | aircraft rows =>
    cases results' with
    | aircraft rows' => rfl
    | flight rows' => cases h
  | flight rows =>
    cases results' with
    | aircraft rows' => cases h
    | flight rows' =>
      have hstatus := congrArg (List.map Prod.fst) h
      rw [List.map_map, List.map_map] at hstatus
      exact hstatus

/-- A flight whose date cannot be read is invalid; its stored date is the time of the import, and
configuring makes it valid. -/
theorem undatedFlight_not_reconfigured : ∃ db job, importFlight "soon" = .ok (db, job) ∧
    ¬FlightReconfigures db "soon" job := by
  have hconfigured : ((importFlight "soon").bind fun x =>
      (configureImportJob .ascii x.1 (fun _ => Interpreter.newYear) 1 x.2.id (some ownNames)
        (some (.single ⟨"VT-B", "SKIP"⟩))).map fun y => flightStatuses y.2.rowResults).toOption
      = some [.valid] := by
    decide +kernel
  have hfresh : ((createImportJob .ascii fleetDatabase 9 (fun _ => Interpreter.newYear) 1 none
      "flight" "flights.csv" (flightFile "soon") (some ownNames)
      (some (mergedStrategy Table.empty (some (.single ⟨"VT-B", "SKIP"⟩))))).map fun y =>
        flightStatuses y.2.rowResults).toOption = some [.invalid] := by
    decide
  cases himport : importFlight "soon" with
  | error e =>
    rw [himport] at hconfigured
    cases hconfigured
  | ok x =>
    obtain ⟨db, job⟩ := x
    rw [himport] at hconfigured
    refine ⟨db, job, rfl, ?_⟩
    rintro ⟨db₁, configured, db₂, fresh, hconfigure, hcreate, hsame⟩
    replace hconfigured : ((configureImportJob .ascii db (fun _ => Interpreter.newYear) 1 job.id
        (some ownNames) (some (.single ⟨"VT-B", "SKIP"⟩))).map fun y =>
          flightStatuses y.2.rowResults).toOption = some [.valid] := hconfigured
    replace hcreate : createImportJob .ascii fleetDatabase 9 (fun _ => Interpreter.newYear) 1 none
        "flight" "flights.csv" (flightFile "soon") (some ownNames)
        (some (mergedStrategy Table.empty (some (.single ⟨"VT-B", "SKIP"⟩))))
          = .ok (db₂, fresh) := hcreate
    rw [hconfigure] at hconfigured
    rw [hcreate] at hfresh
    have hvalid : flightStatuses configured.rowResults = [.valid] := Option.some.inj hconfigured
    have hinvalid : flightStatuses fresh.rowResults = [.invalid] := Option.some.inj hfresh
    have heq := flightStatuses_eq hsame
    rw [hvalid, hinvalid] at heq
    cases heq

end ImportService
end AeroComply
