import AeroComply.Services.LimitEnforcement

/-!
# Validation — the rows of an import file

The column mapping and the row validators of `app/services/import_service.py`.  A row
is a dictionary; the mapping renames its keys, and the validator of the domain reads
the canonical ones.  A cell that was read from a file is a text; the stored rows that
`configure_import_job` validates again hold `null` and numbers too.
-/

namespace AeroComply

open Relational (Table)

namespace ImportService

def canonicalSynonyms : List (String × List String) :=
  [("registration",
     ["reg", "reg no", "reg_no", "registration", "aircraft", "drone", "uav",
      "asset", "tail", "tail_number", "tail no", "tail number", "airframe",
      "asset_registration", "aircraft_registration", "aircraft registration",
      "drone_registration", "drone registration", "ident", "callsign"]),
   ("flown_at",
     ["date", "flight_date", "flown_at", "date of flight", "flight date",
      "timestamp", "datetime", "flight_datetime", "departure date", "dep date"]),
   ("duration_minutes",
     ["duration", "duration_minutes", "duration (min)", "minutes", "min",
      "time_minutes", "block_time_minutes", "flight_time_minutes"]),
   ("flight_hours",
     ["fh", "flight_hours", "flight hours", "hours", "hrs", "airframe_hours",
      "flight_time", "total_hours", "block_hours", "duration_hours", "flight time"]),
   ("cycles",
     ["fc", "cycles", "flight_cycles", "flight cycles", "landings", "sorties",
      "cycle_count", "operating_cycles", "flight_cycles_count"]),
   ("flight_number",
     ["flight_no", "flight no", "flight number", "flight_number", "flight #", "flight",
      "mission_no", "mission no", "mission number", "sortie", "trip_number", "trip no"]),
   ("pilot",
     ["pilot", "pilot_name", "pilot name", "operator", "pic", "pilot in command",
      "pilot_email", "crew", "commander", "captain"]),
   ("origin",
     ["from", "origin", "departure", "dep", "orig", "departure_airport",
      "source", "from_location", "launch_site", "departure location"]),
   ("destination",
     ["to", "destination", "arrival", "arr", "dest", "arrival_airport",
      "to_location", "recovery_site", "arrival location"]),
   ("departure_time", ["dep_time", "departure_time", "start_time", "out", "off_block", "dep time"]),
   ("arrival_time", ["arr_time", "arrival_time", "end_time", "in", "on_block", "arr time"]),
   ("mission_type",
     ["mission", "mission_type", "type", "operation", "flight_type", "purpose", "mission type"]),
   ("status", ["status", "state", "flight_status"]),
   ("notes", ["notes", "remarks", "comments", "description"]),
   ("msn",
     ["msn", "serial", "serial_no", "serial_number", "manufacturer_serial_number", "serial no"]),
   ("aircraft_type",
     ["aircraft_type", "type", "model", "icao_type", "airframe_type", "aircraft type"]),
   ("manufacturer", ["manufacturer", "make", "oem", "builder"]),
   ("model", ["model", "series", "variant"])]

/-- The synonyms of a canonical field. -/
def synonymsOf (canonical : String) : List String := (canonicalSynonyms.lookup canonical).getD []

/-- `s.replace(a, b)` of single characters. -/
def replaceChar (a b : Char) (s : String) : String :=
  String.ofList (s.toList.map fun c => if c = a then b else c)

section Mapping

variable (py : Interpreter)

/-- The canonical field of a header; a header that no field claims stands for itself. -/
def canonicalOf (header : String) : String :=
  let raw := py.unicode.strip header
  let clean := replaceChar '-' ' ' (replaceChar '_' ' ' (py.lower raw))
  let claims := fun (field : String × List String) =>
    clean = replaceChar '_' ' ' (py.lower field.1) || field.2.contains clean ||
      field.2.contains (py.lower raw) || (field.2.map (replaceChar '_' ' ')).contains clean
  ((canonicalSynonyms.find? claims).map Prod.fst).getD raw

/-- `auto_map_columns`; of the two functions of that name the second is in force. -/
def autoMapColumns (headers : List String) : Dict String :=
  Dict.ofEntries (headers.map fun h => ⟨py.unicode.strip h, canonicalOf py h⟩)

/-- The field that a column is mapped to. -/
def targetOf (columnMapping : Dict String) (column : String) : String :=
  ((getNonempty columnMapping column).or
    (getNonempty columnMapping (py.unicode.strip column))).getD column

/-- `_apply_mapping`: of two columns with one field the later one stays. -/
def applyMapping (row : Dict Cell) (columnMapping : Dict String) : Dict Cell :=
  Dict.ofEntries (row.rows.map fun c => ⟨targetOf py columnMapping c.key, c.value⟩)

end Mapping

section Parsing

variable (py : Interpreter)

/-- The formats that are tried after ISO. -/
def dateFormats : List String :=
  ["%Y-%m-%d", "%d/%m/%Y", "%m/%d/%Y", "%d-%m-%Y",
   "%d-%b-%Y", "%d-%B-%Y", "%Y/%m/%d",
   "%Y-%m-%d %H:%M:%S", "%d/%m/%Y %H:%M:%S", "%m/%d/%Y %H:%M:%S",
   "%Y-%m-%d %H:%M", "%d/%m/%Y %H:%M", "%m/%d/%Y %H:%M"]

/-- `s.replace("Z", "+00:00")`. -/
def replaceZ (s : String) : String :=
  String.ofList (s.toList.flatMap fun c => if c = 'Z' then "+00:00".toList else [c])

def parseDateString (val : Option Cell) : Option PyDateTime :=
  match val.filter Cell.truthy with
  | none => none
  | some val =>
    let s := py.unicode.strip val.str
    if s = "" then none
    else match py.fromisoformat? (replaceZ s) with
      | some dt => some dt.aware
      | none => (dateFormats.findSome? (py.strptime? s)).map fun dt => { dt with utcOffset := some 0 }

/-- `int(parts[0]) * 60 + int(parts[1])` of a text with a colon. -/
def clockMinutes (s : String) : Option Int :=
  match s.toList.splitOn ':' with
  | hours :: minutes :: _ => do
    let h ← py.int? (String.ofList hours)
    let m ← py.int? (String.ofList minutes)
    pure (h * 60 + m)
  | _ => none

/-- `int(float(s))` and the like, inside the `try`: an `OverflowError` is not caught. -/
def caught : FloatRead → Except Error (Option Int)
  | .value n => .ok (some n)
  | .valueError => .ok none
  | .overflowError => .error .overflowError

/-- A duration column, as hours and minutes or as a number. -/
def readDuration (read : String → FloatRead) (val : Option Cell) : Except Error (Option Int) :=
  match py.given val with
  | none => .ok none
  | some s => if s.toList.contains ':' then .ok (clockMinutes py s) else caught (read s)

def parseDurationMinutes (row : Dict Cell) : Except Error (Option Int) := do
  match ← readDuration py py.floatInt (row.get "duration_minutes") with
  | some n => .ok (some n)
  | none => readDuration py py.floatMinutes (row.get "flight_hours")

def parseCycles (row : Dict Cell) : Except Error (Option Int) :=
  match py.given (row.get "cycles") with
  | none => .ok none
  | some s => caught (py.floatInt s)

end Parsing

/-! ## The validators -/

/-- `"INVALID" if errors else ("WARNING" if warnings else "VALID")`. -/
def rowStatus (errors warnings : List String) : RowStatus :=
  if errors ≠ [] then .invalid else if warnings ≠ [] then .warning else .valid

/-- `errors.append(message)` under a condition. -/
def noteIf (c : Prop) [Decidable c] (message : String) : List String :=
  if c then [message] else []

theorem rowStatus_ne_invalid {errors warnings : List String} :
    rowStatus errors warnings ≠ .invalid ↔ errors = [] := by
  rw [rowStatus]
  by_cases h : errors = []
  · refine iff_of_true ?_ h
    rw [if_neg (not_not.2 h)]
    split <;> exact fun h => nomatch h
  · rw [if_pos h]
    exact iff_of_false (fun hne => hne rfl) h

theorem noteIf_eq_nil {c : Prop} [Decidable c] {message : String} :
    noteIf c message = [] ↔ ¬c := by
  rw [noteIf]
  split <;> simp [*]

/-- The loop of a validator over the rows, which are counted from one; `seen` is what it keeps
of the rows before. -/
def validateRows {Data Seen : Type}
    (validateRow : Seen → Nat → Dict Cell → Except Error (RowResult Data × Seen)) :
    Seen → Nat → List (Dict Cell) → Except Error (List (RowResult Data))
  | _, _, [] => .ok []
  | seen, number, row :: rows => do
    let (result, seen) ← validateRow seen number row
    let results ← validateRows validateRow seen (number + 1) rows
    pure (result :: results)

section Rows

variable {Data Seen : Type}
  {validateRow : Seen → Nat → Dict Cell → Except Error (RowResult Data × Seen)}

theorem validateRows_cons_eq_ok {seen : Seen} {number : Nat} {row : Dict Cell}
    {rows : List (Dict Cell)} {results : List (RowResult Data)}
    (h : validateRows validateRow seen number (row :: rows) = .ok results) :
    ∃ r seen' rest, validateRow seen number row = .ok (r, seen') ∧
      validateRows validateRow seen' (number + 1) rows = .ok rest ∧ results = r :: rest := by
  obtain ⟨⟨r, seen'⟩, hrow, h⟩ := bind_eq_ok.1 h
  obtain ⟨rest, hrest, h⟩ := bind_eq_ok.1 h
  rw [pure_eq_ok] at h
  exact ⟨r, seen', rest, hrow, hrest, h.symm⟩

theorem forall_of_validateRows {P : RowResult Data → Prop}
    (hrow : ∀ seen number row r seen', validateRow seen number row = .ok (r, seen') → P r)
    (rows : List (Dict Cell)) :
    ∀ (seen : Seen) (number : Nat) (results : List (RowResult Data)),
      validateRows validateRow seen number rows = .ok results → ∀ r ∈ results, P r := by
  induction rows with
  | nil =>
    intro seen number results h
    cases h
    intro r hr
    cases hr
  | cons row rows ih =>
    intro seen number results h
    obtain ⟨r, seen', rest, hone, hrest, rfl⟩ := validateRows_cons_eq_ok h
    intro r' hr'
    rcases List.mem_cons.1 hr' with rfl | hr'
    · exact hrow seen number row r' seen' hone
    · exact ih seen' (number + 1) rest hrest r' hr'

theorem pairwise_of_validateRows {Key : Type} (Known : Seen → Key → Prop)
    (Good : RowResult Data → Prop) (key : RowResult Data → Key)
    (hrow : ∀ seen number row r seen', validateRow seen number row = .ok (r, seen') →
      (∀ k, Known seen k → Known seen' k) ∧
      (Good r → ¬Known seen (key r) ∧ Known seen' (key r)))
    (rows : List (Dict Cell)) :
    ∀ (seen : Seen) (number : Nat) (results : List (RowResult Data)),
      validateRows validateRow seen number rows = .ok results →
      (∀ r ∈ results, Good r → ¬Known seen (key r)) ∧
      results.Pairwise fun a b => Good a → Good b → key a ≠ key b := by
  induction rows with
  | nil =>
    intro seen number results h
    cases h
    exact ⟨fun r hr => absurd hr List.not_mem_nil, List.Pairwise.nil⟩
  | cons row rows ih =>
    intro seen number results h
    obtain ⟨r, seen', rest, hone, hrest, rfl⟩ := validateRows_cons_eq_ok h
    obtain ⟨hkept, hgood⟩ := hrow seen number row r seen' hone
    obtain ⟨hnew, hpairs⟩ := ih seen' (number + 1) rest hrest
    constructor
    · intro r' hr' hr'good hknown
      rcases List.mem_cons.1 hr' with rfl | hr'
      · exact (hgood hr'good).1 hknown
      · exact hnew r' hr' hr'good (hkept _ hknown)
    · rw [List.pairwise_cons]
      refine ⟨?_, hpairs⟩
      intro b hb ha hbgood heq
      exact hnew b hb hbgood (heq ▸ (hgood ha).2)

theorem rowNumbers_of_validateRows
    (hrow : ∀ seen number row r seen', validateRow seen number row = .ok (r, seen') →
      r.rowNumber = number) (rows : List (Dict Cell)) :
    ∀ (seen : Seen) (number : Nat) (results : List (RowResult Data)),
      validateRows validateRow seen number rows = .ok results →
      results.map RowResult.rowNumber = List.range' number rows.length := by
  induction rows with
  | nil =>
    intro seen number results h
    cases h
    rfl
  | cons row rows ih =>
    intro seen number results h
    obtain ⟨r, seen', rest, hone, hrest, rfl⟩ := validateRows_cons_eq_ok h
    rw [List.map_cons, hrow seen number row r seen' hone, ih seen' (number + 1) rest hrest]
    rfl

theorem ne_rowNumber_of_validateRows
    (hrow : ∀ seen number row r seen', validateRow seen number row = .ok (r, seen') →
      r.rowNumber = number) (rows : List (Dict Cell)) (seen : Seen) (number : Nat)
    (results : List (RowResult Data))
    (h : validateRows validateRow seen number rows = .ok results) :
    results.Pairwise fun a b => a.rowNumber ≠ b.rowNumber := by
  have hnodup : (results.map RowResult.rowNumber).Nodup := by
    rw [rowNumbers_of_validateRows hrow rows seen number results h]
    exact List.nodup_range'
  exact List.pairwise_map.1 hnodup

end Rows

section Aircraft

variable (py : Interpreter)

/-- What the validator reads of an aircraft row. -/
structure AircraftReading where
  registration : String
  msn : String
  aircraftType : String
  status : String
  deriving DecidableEq

def readAircraft (row : Dict Cell) : Except Error AircraftReading := do
  let registration ← py.stripped (row.get "registration")
  let msn ← py.stripped (row.get "msn")
  let aircraftType ← py.stripped (firstTruthy (row.get "aircraft_type") (row.get "model"))
  let status ← py.stripped (row.get "status")
  pure { registration, msn, aircraftType, status := py.upper status }

/-- What is wrong with an aircraft row, given the registrations of the fleet and of the rows
before. -/
def aircraftErrors (existing seen : List String) (r : AircraftReading) : List String :=
  let regKey := py.upper r.registration
  noteIf (r.registration = "") "registration is required" ++
  noteIf (r.msn = "") "msn is required" ++
  noteIf (r.aircraftType = "") "aircraft_type is required" ++
  noteIf (r.registration ≠ "" ∧ regKey ∈ existing)
    ("Aircraft registration " ++ pyRepr r.registration ++
      " already exists in this organization") ++
  noteIf (r.registration ≠ "" ∧ regKey ∉ existing ∧ regKey ∈ seen)
    ("Duplicate registration " ++ pyRepr r.registration ++ " within this file")

/-- `status or "ACTIVE"`. -/
def statusOrActive (status : String) : String := if status = "" then "ACTIVE" else status

/-- The verdict on what was read. -/
def judgeAircraft (existing seen : List String) (number : Nat) (r : AircraftReading) :
    RowResult AircraftData :=
  let errors := aircraftErrors py existing seen r
  let warnings := noteIf (r.status = "") "status not provided — will default to ACTIVE"
  { rowNumber := number
    status := rowStatus errors warnings
    errors, warnings
    data :=
      { registration := r.registration, msn := r.msn, aircraftType := r.aircraftType
        status := statusOrActive r.status } }

/-- The registrations that the rows so far have. -/
def seenAircraft (seen : List String) (r : AircraftReading) : List String :=
  if r.registration = "" then seen else seen ++ [py.upper r.registration]

theorem judgeAircraft_ne_invalid {existing seen : List String} {number : Nat} {r : AircraftReading}
    (h : (judgeAircraft py existing seen number r).status ≠ .invalid) :
    r.registration ≠ "" ∧ r.msn ≠ "" ∧ r.aircraftType ≠ "" ∧
      py.upper r.registration ∉ existing ∧ py.upper r.registration ∉ seen := by
  have herrors := rowStatus_ne_invalid.1 h
  simp only [aircraftErrors, List.append_eq_nil_iff, noteIf_eq_nil] at herrors
  obtain ⟨⟨⟨⟨hregistration, hmsn⟩, htype⟩, hexisting⟩, hseen⟩ := herrors
  have hnew : py.upper r.registration ∉ existing := fun hmem => hexisting ⟨hregistration, hmem⟩
  exact ⟨hregistration, hmsn, htype, hnew, fun hmem => hseen ⟨hregistration, hnew, hmem⟩⟩

/-- One pass of `_validate_aircraft_rows`. -/
def validateAircraftRow (existing : List String) (columnMapping : Dict String)
    (seen : List String) (number : Nat) (rawRow : Dict Cell) :
    Except Error (RowResult AircraftData × List String) := do
  let r ← readAircraft py (applyMapping py rawRow columnMapping)
  pure (judgeAircraft py existing seen number r, seenAircraft py seen r)

/-- The registrations of the fleet. -/
def existingRegistrations (db : Database) (organizationId : UUID) : List String :=
  (db.aircraft.select fun a => a.organizationId = organizationId).map fun a =>
    py.upper a.registration

def validateAircraftRows (db : Database) (organizationId : UUID) (rawRows : List (Dict Cell))
    (columnMapping : Dict String) : Except Error (List (RowResult AircraftData)) :=
  validateRows (validateAircraftRow py (existingRegistrations py db organizationId) columnMapping)
    [] 1 rawRows

end Aircraft

section Flight

variable (py : Interpreter)

/-- A dictionary comprehension: the last of equal keys stays. -/
def lastWithKey {α : Type} (items : List (String × α)) (key : String) : Option α :=
  (items.reverse.find? fun x => x.1 = key).map Prod.snd

theorem mem_of_lastWithKey {α : Type} {items : List (String × α)} {key : String} {a : α}
    (h : lastWithKey items key = some a) : (key, a) ∈ items := by
  obtain ⟨⟨k, a'⟩, hfind, rfl⟩ := Option.map_eq_some_iff.1 h
  have hkey : k = key := by simpa using List.find?_some hfind
  rw [← hkey]
  exact List.mem_reverse.1 (List.mem_of_find?_eq_some hfind)

/-- `a.registration.upper()`, for an asset of the comprehension. -/
def assetKey (a : Asset) : Except Error (String × Asset) :=
  match a.registration with
  | none => .error .attributeError
  | some registration => .ok (py.upper registration, a)

/-- What `_validate_flight_rows` looks up before it goes through the rows. -/
structure FlightLookups where
  assetsByReg : List (String × Asset)
  aircraftByReg : List (String × Aircraft)
  pilots : List (String × User)

def flightLookups (db : Database) (organizationId : UUID) : Except Error FlightLookups := do
  let assetsByReg ← (LimitEnforcementService.liveAssets db organizationId).mapM (assetKey py)
  pure {
    assetsByReg
    aircraftByReg := (db.aircraft.select fun a => a.organizationId = organizationId).map
      fun a => (py.upper a.registration, a)
    pilots := (db.users.select fun v => v.organizationId = organizationId && v.isActive).map
      fun v => (py.lower v.email, v) }

variable {organizationId : UUID} {known : FlightLookups} {db : Database}

theorem flightLookups_sound (h : flightLookups py db organizationId = .ok known) :
    (∀ x ∈ known.assetsByReg, x.2 ∈ db.assets.rows) ∧
      (∀ x ∈ known.aircraftByReg, x.2 ∈ db.aircraft.rows) ∧
      ∀ x ∈ known.pilots, x.2 ∈ db.users.rows ∧ x.2.organizationId = organizationId := by
  obtain ⟨assetsByReg, hassets, h⟩ := bind_eq_ok.1 h
  cases h
  refine ⟨?_, ?_, ?_⟩
  · intro x hx
    obtain ⟨a, ha, hkey⟩ := exists_of_mapM hassets x hx
    rw [assetKey] at hkey
    split at hkey
    · cases hkey
    · cases hkey
      exact (Table.mem_select.1 ha).1
  · intro x hx
    obtain ⟨a, ha, rfl⟩ := List.mem_map.1 hx
    exact (Table.mem_select.1 ha).1
  · intro x hx
    obtain ⟨v, hv, rfl⟩ := List.mem_map.1 hx
    obtain ⟨hmem, hown⟩ := Table.mem_select.1 hv
    rw [Bool.and_eq_true, decide_eq_true_eq] at hown
    exact ⟨hmem, hown.1⟩

/-- What the validator reads of a flight row; `flownAtRaw` is the `repr` of the cell. -/
structure FlightReading where
  registration : String
  flownAtRaw : String
  flownAt : Option PyDateTime
  durationMinutes : Option Int
  cycles : Option Int
  flightNumber : Option String
  origin : Option String
  destination : Option String
  departureTime : Option PyDateTime
  arrivalTime : Option PyDateTime
  missionType : Option String
  status : String
  notes : Option String
  pilot : String
  deriving DecidableEq

def readFlight (row : Dict Cell) : Except Error FlightReading := do
  let registration ← py.stripped (row.get "registration")
  let durationMinutes ← parseDurationMinutes py row
  let cycles ← parseCycles py row
  let flightNumber ← py.stripped (row.get "flight_number")
  let origin ← py.stripped (row.get "origin")
  let destination ← py.stripped (row.get "destination")
  let missionType ← py.stripped (row.get "mission_type")
  let status ← py.stripped (row.get "status")
  let notes ← py.stripped (row.get "notes")
  let pilot ← py.stripped (row.get "pilot")
  pure {
    registration
    flownAtRaw := reprGiven (row.get "flown_at")
    flownAt := parseDateString py (row.get "flown_at")
    durationMinutes, cycles
    flightNumber := orNone flightNumber
    origin := orNone origin
    destination := orNone destination
    departureTime := parseDateString py (row.get "departure_time")
    arrivalTime := parseDateString py (row.get "arrival_time")
    missionType := orNone missionType
    status := (orNone (py.upper status)).getD "COMPLETED"
    notes := orNone notes
    pilot := py.lower pilot }

/-- The asset a row is for, as far as the lookups know. -/
structure AssetMatch where
  assetId : Option UUID := none
  action : Option MatchAction := none
  errors : List String := []
  warnings : List String := []

/-- The action that the strategy gives for a registration that is not known. -/
def strategyFor (strategy : Dict String) (registration regKey : String) : Option String :=
  (getNonempty strategy registration).or <| (getNonempty strategy regKey).or <|
    (getNonempty strategy "*").or (strategy.get "strategy")

def unknownAsset (strategy : Dict String) (registration regKey : String) : AssetMatch :=
  let action := strategyFor strategy registration regKey
  if action = some "CREATE_ASSET" then
    { action := some .createAsset
      warnings := ["Asset " ++ pyRepr registration ++ " will be auto-created during import"] }
  else if action = some "SKIP" then
    { action := some .skip
      warnings := ["Asset " ++ pyRepr registration ++ " is marked to be skipped"] }
  else
    { errors := ["Asset " ++ pyRepr registration ++
        " not found in organization. Select match, create, or skip."] }

/-- The live asset with exactly the key as its registration, if there is one. -/
def assetWithKey (db : Database) (organizationId : UUID) (regKey : String) : Option Asset :=
  (db.assets.select fun a =>
    a.organizationId = organizationId && a.registration = some regKey && a.deletedAt.isNone).head?

def matchAsset (db : Database) (organizationId : UUID) (known : FlightLookups)
    (strategy : Dict String) (registration : String) : AssetMatch :=
  let regKey := py.upper registration
  match lastWithKey known.assetsByReg regKey with
  | some asset => { assetId := some asset.id, action := some .matchExisting }
  | none =>
    match lastWithKey known.aircraftByReg regKey with
    | some aircraft =>
      -- without an asset row the identifier of the aircraft stands in
      let assetId := ((assetWithKey db organizationId regKey).map Asset.id).getD aircraft.id
      { assetId := some assetId, action := some .matchExisting }
    | none => unknownAsset strategy registration regKey

/-- Without an error a row is matched, or its asset is created, or it is skipped. -/
theorem matchAsset_cases {strategy : Dict String} {registration : String}
    (hknown : flightLookups py db organizationId = .ok known)
    (h : (matchAsset py db organizationId known strategy registration).errors = []) :
    let matched := matchAsset py db organizationId known strategy registration
    (∃ assetId, matched.assetId = some assetId ∧
      (assetId ∈ db.assets.rows.map Asset.id ∨ assetId ∈ db.aircraft.rows.map Aircraft.id)) ∨
    (matched.assetId = none ∧ (matched.action = some .createAsset ∨ matched.action = some .skip)) := by
  obtain ⟨hassets, haircraft, _⟩ := flightLookups_sound py hknown
  dsimp only
  rw [matchAsset] at h ⊢
  dsimp only at h ⊢
  cases hasset : lastWithKey known.assetsByReg (py.upper registration) with
  | some asset =>
    exact Or.inl ⟨asset.id, rfl,
      Or.inl (List.mem_map_of_mem (hassets _ (mem_of_lastWithKey hasset)))⟩
  | none =>
    rw [hasset] at h
    dsimp only at h ⊢
    cases hplane : lastWithKey known.aircraftByReg (py.upper registration) with
    | some aircraft =>
      refine Or.inl ⟨_, rfl, ?_⟩
      cases hrow : assetWithKey db organizationId (py.upper registration) with
      | some a =>
        exact Or.inl (List.mem_map_of_mem (Table.mem_select.1 (List.mem_of_head? hrow)).1)
      | none => exact Or.inr (List.mem_map_of_mem (haircraft _ (mem_of_lastWithKey hplane)))
    | none =>
      rw [hplane] at h
      dsimp only at h ⊢
      rw [unknownAsset] at h ⊢
      split at h
      · rw [if_pos (by assumption)]
        exact Or.inr ⟨rfl, Or.inl rfl⟩
      · split at h
        · rw [if_neg (by assumption), if_pos (by assumption)]
          exact Or.inr ⟨rfl, Or.inr rfl⟩
        · cases h

/-- The warning about a long flight; the hours of a huge number overflow. -/
def durationWarning (durationMinutes : Option Int) : Except Error (List String) :=
  match durationMinutes with
  | none => .ok []
  | some n =>
    if 1440 < n then
      match py.hours? n with
      | none => .error .overflowError
      | some hours =>
        .ok [s!"Suspicious long flight duration: {n} minutes ({hours} hrs)"]
    else .ok []

def dedupKey (r : FlightReading) : String :=
  py.upper r.registration ++ "|" ++ r.flightNumber.getD "" ++ "|" ++
    (r.flownAt.map py.isoformat).getD ""

/-- The flights of the rows so far. -/
def seenFlights (seen : List String) (r : FlightReading) : List String := seen ++ [dedupKey py r]

/-- The pilot, if the text names an active user. -/
def pilotUserId (known : FlightLookups) (pilot : String) : Option UUID :=
  if pilot = "" then none else (lastWithKey known.pilots pilot).map User.id

def flightErrors (matched : AssetMatch) (r : FlightReading) : List String :=
  noteIf (r.registration = "") "registration / asset identifier is required" ++
  matched.errors ++
  noteIf (r.flownAt = none) ("Invalid flight date format: " ++ r.flownAtRaw) ++
  noteIf (r.durationMinutes = none)
    "Flight duration (duration_minutes or flight_hours) is required and must be positive" ++
  noteIf (r.durationMinutes.any (· ≤ 0) = true) "Flight duration must be strictly greater than 0" ++
  noteIf (r.cycles.any (· ≤ 0) = true) "Cycles must be a positive integer"

/-- The warnings about a flight row; `long` is the one about its duration. -/
def flightWarnings (known : FlightLookups) (matched : AssetMatch) (long seen : List String)
    (r : FlightReading) : List String :=
  matched.warnings ++ long ++
  noteIf (r.pilot ≠ "" ∧ (lastWithKey known.pilots r.pilot).isNone = true)
    ("Pilot " ++ pyRepr r.pilot ++ " not found in organization users — logged as unassigned") ++
  noteIf (dedupKey py r ∈ seen)
    ("Potential duplicate flight in spreadsheet: " ++ r.flightNumber.getD "unnamed" ++ " on " ++
      (r.flownAt.map py.strDateTime).getD "None")

/-- `cycles or 1`; no cycles are one, too. -/
def cyclesOrOne (cycles : Option Int) : Int := if cycles = some 0 then 1 else cycles.getD 1

/-- What the import stores of a flight row; `now` stands in for a date that cannot be read. -/
def flightData (known : FlightLookups) (now : PyDateTime) (r : FlightReading) : FlightData where
  registration := r.registration
  flightNumber := r.flightNumber
  origin := r.origin
  destination := r.destination
  departureTime := r.departureTime
  arrivalTime := r.arrivalTime
  flownAt := r.flownAt.getD now
  durationMinutes := r.durationMinutes.getD 0
  cycles := cyclesOrOne r.cycles
  missionType := r.missionType
  status := r.status
  pilotUserId := pilotUserId known r.pilot
  notes := r.notes

/-- The verdict on what was read of a flight row. -/
def flightVerdict (known : FlightLookups) (matched : AssetMatch) (now : PyDateTime)
    (long seen : List String) (number : Nat) (r : FlightReading) : RowResult FlightData :=
  let errors := flightErrors matched r
  let warnings := flightWarnings py known matched long seen r
  { rowNumber := number
    status := rowStatus errors warnings
    errors, warnings
    data := flightData known now r
    matchedAssetId := matched.assetId
    matchAction := matched.action }

def judgeFlight (db : Database) (organizationId : UUID) (known : FlightLookups)
    (strategy : Dict String) (now : PyDateTime) (seen : List String) (number : Nat)
    (r : FlightReading) : Except Error (RowResult FlightData) := do
  let matched := matchAsset py db organizationId known strategy r.registration
  let long ← durationWarning py r.durationMinutes
  pure (flightVerdict py known matched now long seen number r)

theorem judgeFlight_eq_ok {strategy : Dict String} {now : PyDateTime} {seen : List String}
    {number : Nat} {r : FlightReading} {result : RowResult FlightData} :
    judgeFlight py db organizationId known strategy now seen number r = .ok result ↔
      ∃ long, durationWarning py r.durationMinutes = .ok long ∧
        flightVerdict py known (matchAsset py db organizationId known strategy r.registration) now
          long seen number r = result := by
  rw [judgeFlight]
  rw [bind_eq_ok]
  simp only [pure_eq_ok]

/-- One pass of `_validate_flight_rows`. -/
def validateFlightRow (db : Database) (organizationId : UUID) (known : FlightLookups)
    (columnMapping strategy : Dict String) (now : Nat → PyDateTime) (seen : List String)
    (number : Nat) (rawRow : Dict Cell) :
    Except Error (RowResult FlightData × List String) := do
  let r ← readFlight py (applyMapping py rawRow columnMapping)
  let result ← judgeFlight py db organizationId known strategy (now number) seen number r
  pure (result, seenFlights py seen r)

/-- `_validate_flight_rows`; `now` is the clock at each row. -/
def validateFlightRows (db : Database) (organizationId : UUID) (now : Nat → PyDateTime)
    (rawRows : List (Dict Cell)) (columnMapping strategy : Dict String) :
    Except Error (List (RowResult FlightData)) := do
  let known ← flightLookups py db organizationId
  validateRows (validateFlightRow py db organizationId known columnMapping strategy now) [] 1 rawRows

end Flight

/-- `_DOMAIN_VALIDATORS[domain]`.  The query of `_validate_drone_rows` names a column that assets
do not have, so it raises before it has read a row. -/
def validateDomain (py : Interpreter) (db : Database) (organizationId : UUID)
    (now : Nat → PyDateTime) (domain : ImportDomain) (rawRows : List (Dict Cell))
    (columnMapping strategy : Dict String) : Except Error RowResults :=
  match domain with
  | .aircraft => (validateAircraftRows py db organizationId rawRows columnMapping).map .aircraft
  | .drone => .error .attributeError
  | .flight =>
    (validateFlightRows py db organizationId now rawRows columnMapping strategy).map .flight

section Domain

variable {py : Interpreter} {db : Database} {organizationId : UUID} {now : Nat → PyDateTime}
  {domain : ImportDomain} {rawRows : List (Dict Cell)} {columnMapping strategy : Dict String}

theorem validateDomain_aircraft {rows : List (RowResult AircraftData)}
    (h : validateDomain py db organizationId now domain rawRows columnMapping strategy
      = .ok (.aircraft rows)) :
    validateAircraftRows py db organizationId rawRows columnMapping = .ok rows := by
  cases domain with
  | aircraft =>
    obtain ⟨rows', hrows, heq⟩ := map_eq_ok.1 h
    cases heq
    exact hrows
  | drone => cases h
  | flight =>
    obtain ⟨rows', _, heq⟩ := map_eq_ok.1 h
    cases heq

theorem validateDomain_flight {rows : List (RowResult FlightData)}
    (h : validateDomain py db organizationId now domain rawRows columnMapping strategy
      = .ok (.flight rows)) :
    validateFlightRows py db organizationId now rawRows columnMapping strategy = .ok rows := by
  cases domain with
  | aircraft =>
    obtain ⟨rows', _, heq⟩ := map_eq_ok.1 h
    cases heq
  | drone => cases h
  | flight =>
    obtain ⟨rows', hrows, heq⟩ := map_eq_ok.1 h
    cases heq
    exact hrows

end Domain

end ImportService
end AeroComply
