import AeroComply.Import.Completeness
import AeroComply.Import.CsvFile

/-!
# CsvImport — which CSV files an import handles

`create_import_job` of `app/services/import_service.py`, from the records of a CSV file on.
A file is handled when the call raises an `AeroComplyError`, or returns a job with one result for
each row that is not blank.  `handles_iff` says exactly which files are.
-/

namespace AeroComply

open Relational (Table)

/-- The errors that are an `AeroComplyError`, which the API answers with their message. -/
def Error.isAeroComply : Error → Bool
  | .notFound _ | .conflict _ _ | .forbidden _ _ | .unauthorized _ | .aeroComply _ _ => true
  | .validation _ | .multipleResultsFound | .noResultFound | .integrity | .dataError
  | .attributeError | .typeError | .assertionError | .overflowError | .keyError => false

namespace ImportService

/-! ## What the JSONB columns of a job take -/

/-- PostgreSQL refuses U+0000 in the texts of a JSON value. -/
def jsonText (s : String) : Bool := !s.toList.contains (Char.ofNat 0)

/-- `json.dumps` writes no integer of more than 4300 digits. -/
def jsonNumber (n : Int) : Bool := decide (n.natAbs < 10 ^ 4300)

def jsonDict (d : Dict String) : Bool := d.rows.all fun e => jsonText e.key && jsonText e.value

def jsonAircraft (d : AircraftData) : Bool :=
  jsonText d.registration && jsonText d.msn && jsonText d.aircraftType && jsonText d.status

def jsonFlight (d : FlightData) : Bool :=
  jsonText d.registration && d.flightNumber.all jsonText && d.origin.all jsonText &&
    d.destination.all jsonText && d.missionType.all jsonText && jsonText d.status &&
    d.notes.all jsonText && jsonNumber d.durationMinutes && jsonNumber d.cycles

/-- What is stored of every row.  A message quotes a cell as `repr` does, which escapes U+0000,
except for a flight number, which is in the data too. -/
def jsonRows : RowResults → Bool
  | .aircraft rows => rows.all fun r => jsonAircraft r.data
  | .flight rows => rows.all fun r => jsonFlight r.data

/-- The columns of a job take it; a text column refuses U+0000, too. -/
def jsonJob (job : ImportJob) : Bool :=
  jsonText job.filename && jsonDict job.columnMapping && jsonDict job.matchStrategy &&
    jsonRows job.rowResults

/-! ## The import -/

/-- `create_import_job` of a CSV file. -/
def importCsv (py : Interpreter) (db : Database) (newId : UUID) (now : Nat → PyDateTime)
    (organizationId : UUID) (actorUserId : Option UUID) (domain filename : String) (csv : CsvFile)
    (fileHash : String) (columnMapping matchStrategy : Option (Dict String)) :
    Except Error (Database × ImportJob) := do
  raiseIf (ImportDomain.ofText? (py.upper domain) = none)
    (.aeroComply ("Unsupported import domain: " ++ domain) "unsupported_domain")
  let file ← parseFileContent py csv fileHash
  let created ← createImportJob py db newId now organizationId actorUserId domain filename file
    columnMapping matchStrategy
  raiseIf (jsonJob created.2 = false) .dataError
  pure created

/-- The number of the row results. -/
def RowResults.count : RowResults → Nat
  | .aircraft rows => rows.length
  | .flight rows => rows.length

/-- The call raised an `AeroComplyError`, or returned a job with one result for each record that is
not blank. -/
def Handles (py : Interpreter) (csv : CsvFile) : Except Error (Database × ImportJob) → Prop
  | .ok (_, job) => RowResults.count job.rowResults = csv.records.countP (isNonBlank py)
  | .error e => e.isAeroComply = true

/-! ## Which rows are read -/

section Rows

variable (py : Interpreter)

/-- The number of a column is read, where it is given and not of hours and minutes. -/
def NumberReadable (read : String → FloatRead) (val : Option Cell) : Prop :=
  ∀ s, py.given val = some s → s.toList.contains ':' = false → read s ≠ .overflowError

/-- The flight hours are only read where no minutes are. -/
structure DurationReadable (row : Dict Cell) : Prop where
  minutes : NumberReadable py py.floatInt (row.get "duration_minutes")
  hours : readDuration py py.floatInt (row.get "duration_minutes") = .ok none →
    NumberReadable py py.floatMinutes (row.get "flight_hours")

/-- No number of the row overflows. -/
structure FlightReadable (row : Dict Cell) : Prop where
  duration : DurationReadable py row
  cycles : ∀ s, py.given (row.get "cycles") = some s → py.floatInt s ≠ .overflowError
  long : ∀ n, parseDurationMinutes py row = .ok (some n) → 1440 < n → py.hours? n ≠ none

/-- The text of a cell can be stored. -/
def StorableCell (c : Option Cell) : Prop := ∀ s, py.stripped c = .ok s → jsonText s = true

/-- The status of a row, which is stored in upper case, can be. -/
def StorableStatus (row : Dict Cell) : Prop :=
  ∀ s, py.stripped (row.get "status") = .ok s → jsonText (py.upper s) = true

structure AircraftStorable (row : Dict Cell) : Prop where
  registration : StorableCell py (row.get "registration")
  msn : StorableCell py (row.get "msn")
  aircraftType : StorableCell py (firstTruthy (row.get "aircraft_type") (row.get "model"))
  status : StorableStatus py row

structure FlightStorable (row : Dict Cell) : Prop where
  registration : StorableCell py (row.get "registration")
  flightNumber : StorableCell py (row.get "flight_number")
  origin : StorableCell py (row.get "origin")
  destination : StorableCell py (row.get "destination")
  missionType : StorableCell py (row.get "mission_type")
  status : StorableStatus py row
  notes : StorableCell py (row.get "notes")
  minutes : ∀ n, parseDurationMinutes py row = .ok (some n) → jsonNumber n = true
  cycles : ∀ n, parseCycles py row = .ok (some n) → jsonNumber n = true

/-- Every live asset has a registration, which the validator of flights takes the upper case of. -/
def Registered (db : Database) (organizationId : UUID) : Prop :=
  ∀ a ∈ LimitEnforcementService.liveAssets db organizationId, a.registration ≠ none

/-- The validator of the domain reads every row. -/
def Readable (db : Database) (organizationId : UUID) (columnMapping : Dict String)
    (rows : List (Dict Cell)) : ImportDomain → Prop
  | .aircraft => True
  | .drone => False
  | .flight => Registered db organizationId ∧
      ∀ row ∈ rows, FlightReadable py (applyMapping py row columnMapping)

/-- What is read of every row can be stored. -/
def Storable (columnMapping : Dict String) (rows : List (Dict Cell)) : ImportDomain → Prop
  | .aircraft => ∀ row ∈ rows, AircraftStorable py (applyMapping py row columnMapping)
  | .drone => False
  | .flight => ∀ row ∈ rows, FlightStorable py (applyMapping py row columnMapping)

end Rows

/-! ## The rows of a file are texts -/

section Text

variable {py : Interpreter} {row : Dict Cell}

/-- Every cell is a text. -/
def IsText (row : Dict Cell) : Prop := ∀ e ∈ row.rows, ∃ s, e.value = .text s

theorem isText_textRow (row : Dict String) : IsText (textRow row) := by
  intro e he
  obtain ⟨c, -, rfl⟩ := List.mem_map.1 (Dict.mem_of_mem_ofEntries he)
  exact ⟨c.value, rfl⟩

theorem IsText.applyMapping (h : IsText row) (columnMapping : Dict String) :
    IsText (applyMapping py row columnMapping) := by
  intro e he
  obtain ⟨c, hc, rfl⟩ := List.mem_map.1 (Dict.mem_of_mem_ofEntries he)
  exact h c hc

/-- A cell that is a text, or is missing. -/
def IsTextCell (c : Option Cell) : Prop := c = none ∨ ∃ s, c = some (.text s)

theorem IsText.get (h : IsText row) (key : String) : IsTextCell (row.get key) := by
  rw [Dict.get]
  cases hfound : row.find? key with
  | none => exact Or.inl rfl
  | some e =>
    obtain ⟨s, hs⟩ := h e (Table.find?_eq_some.1 hfound).1
    exact Or.inr ⟨s, congrArg some hs⟩

theorem IsTextCell.firstTruthy {a b : Option Cell} (ha : IsTextCell a) (hb : IsTextCell b) :
    IsTextCell (firstTruthy a b) := by
  rw [AeroComply.firstTruthy]
  split
  · exact ha
  · exact hb

theorem IsTextCell.stripped {c : Option Cell} (h : IsTextCell c) : ∃ s, py.stripped c = .ok s := by
  rcases h with rfl | ⟨s, rfl⟩
  · exact ⟨_, rfl⟩
  · exact ⟨_, rfl⟩

theorem exists_readAircraft (h : IsText row) : ∃ r, readAircraft py row = .ok r := by
  obtain ⟨registration, h₁⟩ : ∃ s, py.stripped (row.get "registration") = .ok s :=
    (h.get _).stripped
  obtain ⟨msn, h₂⟩ : ∃ s, py.stripped (row.get "msn") = .ok s := (h.get _).stripped
  obtain ⟨aircraftType, h₃⟩ : ∃ s,
      py.stripped (firstTruthy (row.get "aircraft_type") (row.get "model")) = .ok s :=
    ((h.get _).firstTruthy (h.get _)).stripped
  obtain ⟨status, h₄⟩ : ∃ s, py.stripped (row.get "status") = .ok s := (h.get _).stripped
  rw [readAircraft, h₁, ok_bind, h₂, ok_bind, h₃, ok_bind, h₄, ok_bind]
  exact ⟨_, rfl⟩

end Text

/-! ## Where a validator raises -/

/-- It succeeds exactly when `good` holds; what it raises otherwise is not meant. -/
inductive Decides {α : Type} (good : Prop) : Except Error α → Prop
  | ok (h : good) (a : α) : Decides good (.ok a)
  | error (h : ¬good) (e : Error) (he : e.isAeroComply = false) : Decides good (.error e)

namespace Decides

variable {α β : Type} {P Q : Prop} {x : Except Error α}

theorem congr (h : Decides P x) (hiff : P ↔ Q) : Decides Q x := by
  cases h with
  | ok h a => exact .ok (hiff.1 h) a
  | error h e he => exact .error (mt hiff.2 h) e he

variable {f : α → Except Error β}

theorem bind {R : α → Prop} (hx : Decides P x) (hf : ∀ a, x = .ok a → Decides (R a) (f a)) :
    Decides (P ∧ ∀ a, x = .ok a → R a) (x >>= f) := by
  cases hx with
  | ok h a =>
    refine (hf a rfl).congr ⟨fun hr => ⟨h, ?_⟩, fun hr => hr.2 a rfl⟩
    intro a' ha'
    cases ha'
    exact hr
  | error h e he => exact .error (fun hp => h hp.1) e he

theorem exists_ok (h : Decides P x) (hp : P) : ∃ a, x = .ok a := by
  cases h with
  | ok _ a => exact ⟨a, rfl⟩
  | error h _ _ => exact absurd hp h

theorem seq (hx : Decides P x) (hf : ∀ a, Decides Q (f a)) :
    Decides (P ∧ Q) (x >>= f) := by
  refine (hx.bind (R := fun _ => Q) fun a _ => hf a).congr (and_congr_right fun hp => ?_)
  obtain ⟨a, ha⟩ := hx.exists_ok hp
  exact ⟨fun h => h a ha, fun h _ _ => h⟩

theorem andThen (hx : Decides P x) (hf : ∀ a, ∃ b, f a = .ok b) :
    Decides P (x >>= f) := by
  refine (hx.seq (Q := True) fun a => ?_).congr (and_iff_left trivial)
  obtain ⟨b, hb⟩ := hf a
  rw [hb]
  exact .ok trivial b

theorem map (h : Decides P x) (f : α → β) : Decides P (x.map f) := by
  cases h with
  | ok h a => exact .ok h (f a)
  | error h e he => exact .error h e he

theorem mapM {Good : α → Prop} {l : List α} (hf : ∀ a ∈ l, Decides (Good a) (f a)) :
    Decides (∀ a ∈ l, Good a) (l.mapM f) := by
  induction l with
  | nil => exact .ok (fun _ h => (nomatch h)) []
  | cons a l ih =>
    rw [List.mapM_cons, List.forall_mem_cons]
    exact (hf a List.mem_cons_self).seq fun b =>
      (ih fun a' ha' => hf a' (List.mem_cons_of_mem a ha')).andThen fun bs => ⟨_, rfl⟩

end Decides

section Loop

variable {Data Seen : Type} {rows : List (Dict Cell)}
  {validateRow : Seen → Nat → Dict Cell → Except Error (RowResult Data × Seen)}

theorem validateRows_decides {Good : Dict Cell → Prop}
    (hrow : ∀ seen number, ∀ row ∈ rows, Decides (Good row) (validateRow seen number row))
    (seen : Seen) (number : Nat) :
    Decides (∀ row ∈ rows, Good row) (validateRows validateRow seen number rows) := by
  induction rows generalizing seen number with
  | nil => exact .ok (fun _ h => (nomatch h)) []
  | cons row rows ih =>
    have hrest : ∀ x : RowResult Data × Seen,
        Decides (∀ row ∈ rows, Good row) (validateRows validateRow x.2 (number + 1) rows) :=
      fun x => ih (fun seen number row h => hrow seen number row (List.mem_cons_of_mem _ h)) x.2 _
    rw [validateRows, List.forall_mem_cons]
    exact (hrow seen number row List.mem_cons_self).seq fun x =>
      (hrest x).andThen fun results => ⟨_, rfl⟩

theorem forall₂_of_validateRows {R : Dict Cell → RowResult Data → Prop}
    (hrow : ∀ seen number row r seen', validateRow seen number row = .ok (r, seen') → R row r) :
    ∀ (seen : Seen) (number : Nat) (results : List (RowResult Data)),
      validateRows validateRow seen number rows = .ok results → List.Forall₂ R rows results := by
  induction rows with
  | nil =>
    intro seen number results h
    cases h
    exact .nil
  | cons row rows ih =>
    intro seen number results h
    obtain ⟨r, seen', rest, hone, hrest, rfl⟩ := validateRows_cons_eq_ok h
    exact .cons (hrow seen number row r seen' hone) (ih seen' (number + 1) rest hrest)

theorem all_iff_of_forall₂ {Storable : Dict Cell → Prop} {fits : RowResult Data → Bool}
    {results : List (RowResult Data)}
    (h : List.Forall₂ (fun row r => fits r = true ↔ Storable row) rows results) :
    results.all fits = true ↔ ∀ row ∈ rows, Storable row := by
  induction h with
  | nil => exact iff_of_true rfl fun _ h => (nomatch h)
  | cons hone _ ih => rw [List.all_cons, Bool.and_eq_true, List.forall_mem_cons, hone, ih]

end Loop

/-! ## Flight rows -/

section Flights

variable {py : Interpreter} {row : Dict Cell}

theorem caught_decides (r : FloatRead) : Decides (r ≠ .overflowError) (caught r) := by
  cases r with
  | value n => exact .ok (fun h => (nomatch h)) (some n)
  | valueError => exact .ok (fun h => (nomatch h)) none
  | overflowError => exact .error (fun h => h rfl) .overflowError rfl

theorem readDuration_decides (read : String → FloatRead) (val : Option Cell) :
    Decides (NumberReadable py read val) (readDuration py read val) := by
  rw [readDuration]
  cases hgiven : py.given val with
  | none =>
    refine .ok (fun s hs => ?_) none
    rw [hgiven] at hs
    cases hs
  | some s =>
    have hiff : (s.toList.contains ':' = false → read s ≠ .overflowError) ↔
        NumberReadable py read val := by
      rw [NumberReadable, hgiven]
      exact ⟨fun h _ hs => Option.some.inj hs ▸ h, fun h => h s rfl⟩
    dsimp only
    cases hcolon : s.toList.contains ':' with
    | true =>
      rw [hcolon] at hiff
      rw [if_pos rfl]
      exact .ok (hiff.1 fun h => (nomatch h)) _
    | false =>
      rw [hcolon] at hiff
      rw [if_neg Bool.false_ne_true]
      exact (caught_decides (read s)).congr ⟨fun h => hiff.1 fun _ => h, fun h => hiff.2 h rfl⟩

theorem parseDurationMinutes_decides :
    Decides (DurationReadable py row) (parseDurationMinutes py row) := by
  rw [parseDurationMinutes]
  refine ((readDuration_decides _ _).bind
    (R := fun n => n = none → NumberReadable py py.floatMinutes (row.get "flight_hours"))
    fun n _ => ?_).congr ⟨fun h => ⟨h.1, fun hn => h.2 none hn rfl⟩,
      fun h => ⟨h.minutes, fun n hn heq => h.hours (heq ▸ hn)⟩⟩
  cases n with
  | some n => exact .ok (fun h => (nomatch h)) (some n)
  | none => exact (readDuration_decides _ _).congr ⟨fun h _ => h, fun h => h rfl⟩

theorem parseCycles_decides :
    Decides (∀ s, py.given (row.get "cycles") = some s → py.floatInt s ≠ .overflowError)
      (parseCycles py row) := by
  rw [parseCycles]
  cases hgiven : py.given (row.get "cycles") with
  | none => exact .ok (fun s hs => (nomatch hs)) none
  | some s =>
    exact (caught_decides (py.floatInt s)).congr
      ⟨fun h _ hs => Option.some.inj hs ▸ h, fun h => h s rfl⟩

theorem readFlight_decides (h : IsText row) :
    Decides (DurationReadable py row ∧
        ∀ s, py.given (row.get "cycles") = some s → py.floatInt s ≠ .overflowError)
      (readFlight py row) := by
  obtain ⟨registration, h₁⟩ : ∃ s, py.stripped (row.get "registration") = .ok s :=
    (h.get _).stripped
  obtain ⟨flightNumber, h₂⟩ : ∃ s, py.stripped (row.get "flight_number") = .ok s :=
    (h.get _).stripped
  obtain ⟨origin, h₃⟩ : ∃ s, py.stripped (row.get "origin") = .ok s := (h.get _).stripped
  obtain ⟨destination, h₄⟩ : ∃ s, py.stripped (row.get "destination") = .ok s :=
    (h.get _).stripped
  obtain ⟨missionType, h₅⟩ : ∃ s, py.stripped (row.get "mission_type") = .ok s :=
    (h.get _).stripped
  obtain ⟨status, h₆⟩ : ∃ s, py.stripped (row.get "status") = .ok s := (h.get _).stripped
  obtain ⟨notes, h₇⟩ : ∃ s, py.stripped (row.get "notes") = .ok s := (h.get _).stripped
  obtain ⟨pilot, h₈⟩ : ∃ s, py.stripped (row.get "pilot") = .ok s := (h.get _).stripped
  rw [readFlight, h₁, ok_bind]
  refine parseDurationMinutes_decides.seq fun durationMinutes =>
    parseCycles_decides.andThen fun cycles => ?_
  rw [h₂, ok_bind, h₃, ok_bind, h₄, ok_bind, h₅, ok_bind, h₆, ok_bind, h₇, ok_bind, h₈, ok_bind]
  exact ⟨_, rfl⟩

/-- A text that is read as `None` where it is empty. -/
def ReadsText (py : Interpreter) (c : Option Cell) (text : Option String) : Prop :=
  ∃ s, py.stripped c = .ok s ∧ orNone s = text

/-- What is read of a row is what its cells say. -/
structure ReadsFlight (py : Interpreter) (row : Dict Cell) (r : FlightReading) : Prop where
  registration : py.stripped (row.get "registration") = .ok r.registration
  durationMinutes : parseDurationMinutes py row = .ok r.durationMinutes
  cycles : parseCycles py row = .ok r.cycles
  flightNumber : ReadsText py (row.get "flight_number") r.flightNumber
  origin : ReadsText py (row.get "origin") r.origin
  destination : ReadsText py (row.get "destination") r.destination
  missionType : ReadsText py (row.get "mission_type") r.missionType
  status : ∃ s, py.stripped (row.get "status") = .ok s ∧
    (orNone (py.upper s)).getD "COMPLETED" = r.status
  notes : ReadsText py (row.get "notes") r.notes

theorem readsFlight_of_readFlight {r : FlightReading} (h : readFlight py row = .ok r) :
    ReadsFlight py row r := by
  obtain ⟨registration, h₁, h⟩ := bind_eq_ok.1 h
  obtain ⟨durationMinutes, hduration, h⟩ := bind_eq_ok.1 h
  obtain ⟨cycles, hcycles, h⟩ := bind_eq_ok.1 h
  obtain ⟨flightNumber, h₂, h⟩ := bind_eq_ok.1 h
  obtain ⟨origin, h₃, h⟩ := bind_eq_ok.1 h
  obtain ⟨destination, h₄, h⟩ := bind_eq_ok.1 h
  obtain ⟨missionType, h₅, h⟩ := bind_eq_ok.1 h
  obtain ⟨status, h₆, h⟩ := bind_eq_ok.1 h
  obtain ⟨notes, h₇, h⟩ := bind_eq_ok.1 h
  obtain ⟨pilot, -, h⟩ := bind_eq_ok.1 h
  cases h
  exact
    { registration := h₁, durationMinutes := hduration, cycles := hcycles
      flightNumber := ⟨flightNumber, h₂, rfl⟩, origin := ⟨origin, h₃, rfl⟩
      destination := ⟨destination, h₄, rfl⟩, missionType := ⟨missionType, h₅, rfl⟩
      status := ⟨status, h₆, rfl⟩, notes := ⟨notes, h₇, rfl⟩ }

theorem durationWarning_decides (durationMinutes : Option Int) :
    Decides (∀ n, durationMinutes = some n → 1440 < n → py.hours? n ≠ none)
      (durationWarning py durationMinutes) := by
  cases durationMinutes with
  | none => exact .ok (fun n hn => (nomatch hn)) []
  | some n =>
    have hiff : (1440 < n → py.hours? n ≠ none) ↔
        ∀ m, some n = some m → 1440 < m → py.hours? m ≠ none :=
      ⟨fun h _ hm => Option.some.inj hm ▸ h, fun h => h n rfl⟩
    rw [durationWarning]
    by_cases hlong : 1440 < n
    · rw [if_pos hlong]
      cases hhours : py.hours? n with
      | none => exact .error (fun h => hiff.2 h hlong hhours) .overflowError rfl
      | some hours =>
        refine .ok (hiff.1 fun _ => ?_) _
        rw [hhours]
        exact Option.some_ne_none hours
    · rw [if_neg hlong]
      exact .ok (hiff.1 fun h => absurd h hlong) []

variable {db : Database} {organizationId : UUID} {known : FlightLookups}
  {columnMapping strategy : Dict String} {now : Nat → PyDateTime}

theorem validateFlightRow_decides (h : IsText row) (seen : List String) (number : Nat) :
    Decides (FlightReadable py (applyMapping py row columnMapping))
      (validateFlightRow py db organizationId known columnMapping strategy now seen number
        row) := by
  rw [validateFlightRow]
  refine ((readFlight_decides (h.applyMapping columnMapping)).bind
    (R := fun r => ∀ n, r.durationMinutes = some n → 1440 < n → py.hours? n ≠ none)
    fun r _ => ?_).congr ⟨?_, ?_⟩
  · rw [judgeFlight]
    exact ((durationWarning_decides _).andThen fun long => ⟨_, rfl⟩).andThen fun result => ⟨_, rfl⟩
  · rintro ⟨hnumbers, hlong⟩
    refine ⟨hnumbers.1, hnumbers.2, fun n hn => ?_⟩
    obtain ⟨r, hr⟩ := (readFlight_decides (h.applyMapping columnMapping)).exists_ok hnumbers
    refine hlong r hr n ?_
    rw [(readsFlight_of_readFlight hr).durationMinutes] at hn
    exact Except.ok.inj hn
  · intro hreadable
    refine ⟨⟨hreadable.duration, hreadable.cycles⟩, fun r hr n hn => hreadable.long n ?_⟩
    rw [(readsFlight_of_readFlight hr).durationMinutes, hn]

end Flights

/-! ## What is stored of the rows -/

section Stored

variable {py : Interpreter} {row : Dict Cell}

theorem storableCell_iff {c : Option Cell} {s : String} (h : py.stripped c = .ok s) :
    jsonText s = true ↔ StorableCell py c := by
  rw [StorableCell, forall_eq_ok h]

theorem storableStatus_iff {s : String} (h : py.stripped (row.get "status") = .ok s) :
    jsonText (py.upper s) = true ↔ StorableStatus py row := by
  rw [StorableStatus, forall_eq_ok h]

theorem jsonText_getD {s text : String} (hd : jsonText text = true) :
    jsonText ((orNone s).getD text) = true ↔ jsonText s = true := by
  rw [orNone]
  split
  · rename_i hs
    rw [hs]
    exact iff_of_true hd rfl
  · exact Iff.rfl

theorem ReadsText.all_jsonText {c : Option Cell} {text : Option String} (h : ReadsText py c text) :
    text.all jsonText = true ↔ StorableCell py c := by
  obtain ⟨s, hs, rfl⟩ := h
  rw [← storableCell_iff hs, orNone]
  split
  · rename_i hempty
    rw [hempty]
    exact iff_of_true rfl rfl
  · exact Iff.rfl

theorem jsonAircraft_iff {r : AircraftReading} (h : readAircraft py row = .ok r) :
    jsonAircraft ⟨r.registration, r.msn, r.aircraftType, statusOrActive r.status⟩ = true ↔
      AircraftStorable py row := by
  obtain ⟨registration, h₁, h⟩ := bind_eq_ok.1 h
  obtain ⟨msn, h₂, h⟩ := bind_eq_ok.1 h
  obtain ⟨aircraftType, h₃, h⟩ := bind_eq_ok.1 h
  obtain ⟨status, h₄, h⟩ := bind_eq_ok.1 h
  cases h
  have hactive : statusOrActive (py.upper status) = (orNone (py.upper status)).getD "ACTIVE" := by
    rw [statusOrActive, orNone]
    split <;> rfl
  have hstatus : jsonText (statusOrActive (py.upper status)) = true ↔ StorableStatus py row := by
    rw [hactive, jsonText_getD (by decide), storableStatus_iff h₄]
  rw [jsonAircraft, Bool.and_eq_true, Bool.and_eq_true, Bool.and_eq_true, hstatus,
    storableCell_iff h₁, storableCell_iff h₂, storableCell_iff h₃]
  exact ⟨fun h => ⟨h.1.1.1, h.1.1.2, h.1.2, h.2⟩,
    fun h => ⟨⟨⟨h.registration, h.msn⟩, h.aircraftType⟩, h.status⟩⟩

theorem jsonNumber_of_natAbs_le_one {n : Int} (h : n.natAbs ≤ 1) : jsonNumber n = true := by
  rw [jsonNumber, decide_eq_true_eq]
  exact lt_of_le_of_lt h (one_lt_pow₀ (by decide) (Nat.succ_ne_zero 4299))

theorem jsonNumber_getD {minutes : Option Int} :
    jsonNumber (minutes.getD 0) = true ↔ ∀ n, minutes = some n → jsonNumber n = true := by
  cases minutes with
  | none => exact iff_of_true (jsonNumber_of_natAbs_le_one (Nat.zero_le 1)) fun n hn => (nomatch hn)
  | some m => exact ⟨fun h n hn => Option.some.inj hn ▸ h, fun h => h m rfl⟩

theorem jsonNumber_cyclesOrOne {cycles : Option Int} :
    jsonNumber (cyclesOrOne cycles) = true ↔ ∀ n, cycles = some n → jsonNumber n = true := by
  rw [cyclesOrOne]
  split
  · rename_i hzero
    refine iff_of_true (jsonNumber_of_natAbs_le_one le_rfl) fun n hn => ?_
    cases hzero.symm.trans hn
    exact jsonNumber_of_natAbs_le_one (Nat.zero_le 1)
  · cases cycles with
    | none => exact iff_of_true (jsonNumber_of_natAbs_le_one le_rfl) fun n hn => (nomatch hn)
    | some m => exact ⟨fun h n hn => Option.some.inj hn ▸ h, fun h => h m rfl⟩

theorem jsonFlight_iff {known : FlightLookups} {now : PyDateTime} {r : FlightReading}
    (h : readFlight py row = .ok r) :
    jsonFlight (flightData known now r) = true ↔ FlightStorable py row := by
  have hread := readsFlight_of_readFlight h
  obtain ⟨status, hstripped, hdefault⟩ := hread.status
  have hstatus : jsonText r.status = true ↔ StorableStatus py row := by
    rw [← hdefault, jsonText_getD (by decide), storableStatus_iff hstripped]
  have hminutes : jsonNumber (r.durationMinutes.getD 0) = true ↔
      ∀ n, parseDurationMinutes py row = .ok (some n) → jsonNumber n = true := by
    rw [jsonNumber_getD, hread.durationMinutes]
    exact forall_congr' fun n => by rw [Except.ok.injEq]
  have hcycles : jsonNumber (cyclesOrOne r.cycles) = true ↔
      ∀ n, parseCycles py row = .ok (some n) → jsonNumber n = true := by
    rw [jsonNumber_cyclesOrOne, hread.cycles]
    exact forall_congr' fun n => by rw [Except.ok.injEq]
  simp only [jsonFlight, flightData, Bool.and_eq_true, storableCell_iff hread.registration,
    hread.flightNumber.all_jsonText, hread.origin.all_jsonText, hread.destination.all_jsonText,
    hread.missionType.all_jsonText, hstatus, hread.notes.all_jsonText, hminutes, hcycles]
  constructor
  · rintro ⟨⟨⟨⟨⟨⟨⟨⟨h₁, h₂⟩, h₃⟩, h₄⟩, h₅⟩, h₆⟩, h₇⟩, h₈⟩, h₉⟩
    exact ⟨h₁, h₂, h₃, h₄, h₅, h₆, h₇, h₈, h₉⟩
  · rintro ⟨h₁, h₂, h₃, h₄, h₅, h₆, h₇, h₈, h₉⟩
    exact ⟨⟨⟨⟨⟨⟨⟨⟨h₁, h₂⟩, h₃⟩, h₄⟩, h₅⟩, h₆⟩, h₇⟩, h₈⟩, h₉⟩

end Stored

/-! ## The validator of a domain -/

section Domain

variable {py : Interpreter} {db : Database} {organizationId : UUID} {now : Nat → PyDateTime}
  {d : ImportDomain} {rows : List (Dict Cell)} {columnMapping strategy : Dict String}

theorem flightLookups_decides :
    Decides (Registered db organizationId) (flightLookups py db organizationId) := by
  rw [flightLookups]
  refine (Decides.mapM fun a _ => ?_).andThen fun assetsByReg => ⟨_, rfl⟩
  rw [assetKey]
  cases a.registration with
  | none => exact .error (fun h => h rfl) .attributeError rfl
  | some registration => exact .ok (Option.some_ne_none registration) _

theorem validateDomain_decides (hd : d ≠ .drone) (htext : ∀ row ∈ rows, IsText row) :
    Decides (Readable py db organizationId columnMapping rows d)
      (validateDomain py db organizationId now d rows columnMapping strategy) := by
  cases d with
  | drone => exact absurd rfl hd
  | aircraft =>
    have hrow : ∀ (seen : List String) (number : Nat), ∀ row ∈ rows, Decides True
        (validateAircraftRow py (existingRegistrations py db organizationId) columnMapping seen
          number row) := by
      intro seen number row hrow
      obtain ⟨r, hr⟩ : ∃ r, readAircraft py (applyMapping py row columnMapping) = .ok r :=
        exists_readAircraft ((htext row hrow).applyMapping columnMapping)
      rw [validateAircraftRow, hr]
      exact .ok trivial _
    exact ((validateRows_decides hrow [] 1).congr (iff_true_intro fun _ _ => trivial)).map _
  | flight =>
    refine (flightLookups_decides.seq fun known => ?_).map _
    exact validateRows_decides
      (fun seen number row hrow => validateFlightRow_decides (htext row hrow) seen number) [] 1

theorem results_of_validateDomain {results : RowResults}
    (h : validateDomain py db organizationId now d rows columnMapping strategy = .ok results) :
    RowResults.count results = rows.length ∧
      (jsonRows results = true ↔ Storable py columnMapping rows d) := by
  cases d with
  | drone => cases h
  | aircraft =>
    obtain ⟨results, hrows, rfl⟩ := map_eq_ok.1 h
    have hall := forall₂_of_validateRows (R := fun row r => jsonAircraft r.data = true ↔
      AircraftStorable py (applyMapping py row columnMapping)) ?_ _ _ _ hrows
    · exact ⟨hall.length_eq.symm, all_iff_of_forall₂ hall⟩
    · intro seen number row r seen' hrow
      obtain ⟨reading, hread, hrow⟩ := bind_eq_ok.1 hrow
      cases hrow
      exact jsonAircraft_iff hread
  | flight =>
    obtain ⟨results, hrows, rfl⟩ := map_eq_ok.1 h
    obtain ⟨known, -, hrows⟩ := bind_eq_ok.1 hrows
    have hall := forall₂_of_validateRows (R := fun row r => jsonFlight r.data = true ↔
      FlightStorable py (applyMapping py row columnMapping)) ?_ _ _ _ hrows
    · exact ⟨hall.length_eq.symm, all_iff_of_forall₂ hall⟩
    · intro seen number row r seen' hrow
      obtain ⟨reading, hread, hrow⟩ := bind_eq_ok.1 hrow
      obtain ⟨result, hjudge, hrow⟩ := bind_eq_ok.1 hrow
      obtain ⟨long, -, rfl⟩ := (judgeFlight_eq_ok py).1 hjudge
      cases hrow
      exact jsonFlight_iff hread

end Domain

/-! ## Which files are handled -/

section Handled

variable (py : Interpreter) (db : Database) (organizationId : UUID) (d : ImportDomain)
  (filename : String) (columnMapping matchStrategy : Option (Dict String))

/-- The rows of a file, with the mapping that is in force, make a job: no number overflows, and what
is read can be stored. -/
structure Accepted (rawRows : List (Dict String)) (mapping strategy : Dict String) : Prop where
  readable : Readable py db organizationId mapping (rawRows.map textRow) d
  storable : Storable py mapping (rawRows.map textRow) d
  filename_length : filename.length ≤ 255
  filename_json : jsonText filename = true
  mapping_json : jsonDict mapping = true
  strategy_json : jsonDict strategy = true

/-- The required columns are not all there. -/
def Incomplete (rawRows : List (Dict String)) (mapping : Dict String) : Prop :=
  rawRows ≠ [] ∧ missingColumns py d (headersOf rawRows) mapping ≠ []

/-- A file without a header is.  Another must have no record of which only the surplus could have
a text, and then too many rows, or too few columns, or rows that are accepted, with no text of a
record lost to a later column of the same name. -/
def Handled (csv : CsvFile) : Prop :=
  ∀ fieldnames, csv.fieldnames = some fieldnames →
    let rawRows := rawRowsOf py fieldnames csv.records
    let mapping := effectiveMapping py db organizationId d (headersOf rawRows) columnMapping
    ¬Overhanging py fieldnames 0 csv.records ∧
      (maxImportRows < csv.records.countP (keeps py fieldnames) ∨
        Incomplete py d rawRows mapping ∨
        (∀ record ∈ csv.records, isNonBlank py record = true →
            keeps py fieldnames record = true) ∧
          Accepted py db organizationId d filename rawRows mapping
            (matchStrategy.getD Table.empty))

end Handled

section Handling

variable {py : Interpreter} {db : Database} {newId organizationId : UUID} {now : Nat → PyDateTime}
  {actorUserId : Option UUID} {domain filename fileHash : String} {d : ImportDomain} {csv : CsvFile}
  {columnMapping matchStrategy : Option (Dict String)}

/-- How the creation of a job ends, given the mapping and the strategy that are in force. -/
inductive CreationEnds (py : Interpreter) (db : Database) (newId organizationId : UUID)
    (now : Nat → PyDateTime) (actorUserId : Option UUID) (filename : String) (file : ParsedFile)
    (d : ImportDomain) (mapping strategy : Dict String) : Except Error (Database × ImportJob) → Prop
  | incomplete (h : Incomplete py d file.rawRows mapping) (message code : String) :
      CreationEnds py db newId organizationId now actorUserId filename file d mapping strategy
        (.error (.aeroComply message code))
  | unreadable (h : ¬Incomplete py d file.rawRows mapping)
      (hread : ¬Readable py db organizationId mapping (file.rawRows.map textRow) d) (e : Error)
      (he : e.isAeroComply = false) :
      CreationEnds py db newId organizationId now actorUserId filename file d mapping strategy
        (.error e)
  | tooLong (h : ¬Incomplete py d file.rawRows mapping) (hlong : ¬filename.length ≤ 255) :
      CreationEnds py db newId organizationId now actorUserId filename file d mapping strategy
        (.error .dataError)
  | created (h : ¬Incomplete py d file.rawRows mapping)
      (hread : Readable py db organizationId mapping (file.rawRows.map textRow) d)
      (hshort : filename.length ≤ 255) (results : RowResults)
      (hresults : validateDomain py db organizationId now d (file.rawRows.map textRow) mapping
        strategy = .ok results) (db' : Database) :
      CreationEnds py db newId organizationId now actorUserId filename file d mapping strategy
        (.ok (db',
          newImportJob newId organizationId actorUserId filename file mapping strategy results))

variable {file : ParsedFile}

theorem createImportJob_cases (hdomain : ImportDomain.ofText? (py.upper domain) = some d)
    (hd : d ≠ .drone) (hnew : newId ∉ db.importJobs.rows.map ImportJob.id)
    (hsheet : file.selectedSheet.length ≤ 255) :
    CreationEnds py db newId organizationId now actorUserId filename file d
      (effectiveMapping py db organizationId d (headersOf file.rawRows) columnMapping)
      (matchStrategy.getD Table.empty)
      (createImportJob py db newId now organizationId actorUserId domain filename file columnMapping
        matchStrategy) := by
  have htext : ∀ row ∈ file.rawRows.map textRow, IsText row := by
    intro row hrow
    obtain ⟨row', -, rfl⟩ := List.mem_map.1 hrow
    exact isText_textRow row'
  rw [createImportJob, hdomain]
  dsimp only
  generalize effectiveMapping py db organizationId d (headersOf file.rawRows) columnMapping
    = mapping
  generalize matchStrategy.getD Table.empty = strategy
  by_cases hmissing : file.rawRows ≠ [] ∧ missingColumns py d (headersOf file.rawRows) mapping ≠ []
  · rw [raiseIf, if_pos hmissing]
    exact .incomplete hmissing _ _
  rw [raiseIf, if_neg hmissing, ok_bind]
  have hvalidate : Decides (Readable py db organizationId mapping (file.rawRows.map textRow) d)
      (validateDomain py db organizationId now d (file.rawRows.map textRow) mapping strategy) :=
    validateDomain_decides hd htext
  cases hresults : validateDomain py db organizationId now d (file.rawRows.map textRow) mapping
      strategy with
  | error e =>
    rw [hresults] at hvalidate
    cases hvalidate with
    | error hread e he => exact .unreadable hmissing hread e he
  | ok results =>
    rw [hresults] at hvalidate
    cases hvalidate with
    | ok hread results =>
      rw [ok_bind]
      by_cases hlong : 255 < filename.length ∨ 255 < file.selectedSheet.length
      · rw [raiseIf, if_pos hlong]
        exact .tooLong hmissing (by omega)
      rw [raiseIf, if_neg hlong, ok_bind, addRow, addRowOrRaise]
      cases hinsert : db.importJobs.insert?
          (newImportJob newId organizationId actorUserId filename file mapping strategy
            results) with
      | none =>
        obtain ⟨job, hjob, hid⟩ := Table.insert?_eq_none.1 hinsert
        exact absurd (List.mem_map.2 ⟨job, hjob, hid⟩) hnew
      | some importJobs => exact .created hmissing hread (by omega) results hresults _

theorem jsonJob_newImportJob {mapping strategy : Dict String} {results : RowResults} :
    jsonJob (newImportJob newId organizationId actorUserId filename file mapping strategy results)
      = (jsonText filename && jsonDict mapping && jsonDict strategy && jsonRows results) := rfl

theorem handles_parsed_iff (hdomain : ImportDomain.ofText? (py.upper domain) = some d)
    (hd : d ≠ .drone) (hnew : newId ∉ db.importJobs.rows.map ImportJob.id)
    (hsheet : file.selectedSheet.length ≤ 255) {mapping : Dict String}
    (hmapping : effectiveMapping py db organizationId d (headersOf file.rawRows) columnMapping
      = mapping) :
    Handles py csv (do
      let created ← createImportJob py db newId now organizationId actorUserId domain filename file
        columnMapping matchStrategy
      raiseIf (jsonJob created.2 = false) .dataError
      pure created) ↔
    Incomplete py d file.rawRows mapping ∨
      file.rawRows.length = csv.records.countP (isNonBlank py) ∧
        Accepted py db organizationId d filename file.rawRows mapping
          (matchStrategy.getD Table.empty) := by
  have hends : CreationEnds py db newId organizationId now actorUserId filename file d mapping
      (matchStrategy.getD Table.empty) (createImportJob py db newId now organizationId actorUserId
        domain filename file columnMapping matchStrategy) :=
    hmapping ▸ createImportJob_cases hdomain hd hnew hsheet
  generalize matchStrategy.getD Table.empty = strategy at hends ⊢
  generalize createImportJob py db newId now organizationId actorUserId domain filename file
    columnMapping matchStrategy = result at hends ⊢
  cases hends with
  | incomplete h message code => exact iff_of_true rfl (Or.inl h)
  | unreadable h hread e he =>
    rw [or_iff_right h]
    exact iff_of_false (fun h => Bool.false_ne_true (he.symm.trans h)) fun h => hread h.2.readable
  | tooLong h hlong =>
    rw [or_iff_right h]
    exact iff_of_false Bool.false_ne_true fun h => hlong h.2.filename_length
  | created h hread hshort results hresults db' =>
    obtain ⟨hcount, hstored⟩ := results_of_validateDomain hresults
    rw [List.length_map] at hcount
    rw [or_iff_right h, ok_bind]
    have hjson : jsonJob (newImportJob newId organizationId actorUserId filename file mapping
        strategy results) = true ↔ Accepted py db organizationId d filename file.rawRows mapping
          strategy := by
      rw [jsonJob_newImportJob, Bool.and_eq_true, Bool.and_eq_true, Bool.and_eq_true, hstored]
      exact ⟨fun h => ⟨hread, h.2, hshort, h.1.1.1, h.1.1.2, h.1.2⟩,
        fun h => ⟨⟨⟨h.filename_json, h.mapping_json⟩, h.strategy_json⟩, h.storable⟩⟩
    by_cases hfits : jsonJob (newImportJob newId organizationId actorUserId filename file mapping
        strategy results) = true
    · rw [raiseIf, if_neg (fun hfalse => Bool.false_ne_true (hfalse.symm.trans hfits)), ok_bind,
        and_iff_left (hjson.1 hfits), ← hcount]
      exact Iff.rfl
    · rw [raiseIf, if_pos (Bool.eq_false_iff.2 hfits)]
      exact iff_of_false Bool.false_ne_true fun h => hfits (hjson.2 h.2)

/-- **A CSV FILE IS HANDLED** exactly when nothing that is not meant can be raised, and no row is
lost. -/
theorem handles_iff (hdomain : ImportDomain.ofText? (py.upper domain) = some d) (hd : d ≠ .drone)
    (hnew : newId ∉ db.importJobs.rows.map ImportJob.id) :
    Handles py csv (importCsv py db newId now organizationId actorUserId domain filename csv
        fileHash columnMapping matchStrategy) ↔
      Handled py db organizationId d filename columnMapping matchStrategy csv := by
  have hsupported : ¬ImportDomain.ofText? (py.upper domain) = none := by
    rw [hdomain]
    exact Option.some_ne_none d
  rw [importCsv, raiseIf, if_neg hsupported, ok_bind, parseFileContent, Handled]
  cases csv.fieldnames with
  | none =>
    refine iff_of_true rfl fun fieldnames h => ?_
    cases h
  | some fieldnames =>
    dsimp only
    have hparse : Parsed py fieldnames 0 csv.records
        (parseRecords py fieldnames 0 csv.records) := parseRecords_cases (Nat.zero_le _)
    generalize parseRecords py fieldnames 0 csv.records = parsed at hparse ⊢
    cases hparse with
    | crashed h => exact iff_of_false Bool.false_ne_true fun hall => (hall fieldnames rfl).1 h
    | tooLarge h hcount =>
      refine iff_of_true rfl fun fieldnames' heq => ?_
      cases heq
      exact ⟨h, Or.inl (by omega)⟩
    | rows h hcount =>
      rw [Nat.zero_add] at hcount
      have hsheet : "Default".length ≤ 255 := by decide
      rw [ok_bind, pure_bind, handles_parsed_iff hdomain hd hnew hsheet rfl,
        length_rawRowsOf_eq_iff]
      constructor
      · intro hhandled fieldnames' heq
        cases heq
        exact ⟨h, Or.inr hhandled⟩
      · intro hall
        exact ((hall fieldnames rfl).2).resolve_left (Nat.not_lt.2 hcount)

end Handling

/-! ## Files that are not handled, and one that is -/

/-- `float("inf")` is a float that `int` takes no integer of. -/
def withInfinity : Interpreter :=
  { Interpreter.ascii with
    floatInt := fun s => if s = "inf" then .overflowError else Interpreter.ascii.floatInt s }

/-- A file of flights. -/
def flightCsv (records : List (List String)) : CsvFile where
  fieldnames := some ["registration", "flown_at", "duration_minutes"]
  records

/-- The import of such a file for the tenant of the fleet. -/
def importFlightCsv (py : Interpreter) (records : List (List String)) :
    Except Error (Database × ImportJob) :=
  importCsv py fleetDatabase 9 (fun _ => Interpreter.newYear) 1 none "flight" "flights.csv"
    (flightCsv records) "" (some ownNames) none

/-- A record of which only a surplus cell has a text, and a flight without end. -/
theorem surplus_and_infinity_escape :
    ¬Handles withInfinity (flightCsv [["", "", "", "x"]])
        (importFlightCsv withInfinity [["", "", "", "x"]]) ∧
      ¬Handles withInfinity (flightCsv [["VT-A", "2026-01-01", "inf"]])
        (importFlightCsv withInfinity [["VT-A", "2026-01-01", "inf"]]) := by
  have hsurplus : importFlightCsv withInfinity [["", "", "", "x"]] = .error .attributeError := rfl
  have hinfinite : importFlightCsv withInfinity [["VT-A", "2026-01-01", "inf"]]
      = .error .overflowError := rfl
  rw [hsurplus, hinfinite]
  exact ⟨Bool.false_ne_true, Bool.false_ne_true⟩

theorem getD_value_ne_overflow (o : Option Int) (f : Int → Int) :
    ((o.map fun n => FloatRead.value (f n)).getD .valueError) ≠ .overflowError := by
  cases o with
  | none => exact fun h => (nomatch h)
  | some n => exact fun h => (nomatch h)

theorem flightReadable_ascii (row : Dict Cell) : FlightReadable .ascii row where
  duration :=
    { minutes := fun s _ _ => getD_value_ne_overflow (Interpreter.digits? s) id
      hours := fun _ s _ _ => getD_value_ne_overflow (Interpreter.digits? s) (60 * ·) }
  cycles s _ := getD_value_ne_overflow (Interpreter.digits? s) id
  long _ _ _ := Option.some_ne_none _

/-- The record of an hour's flight. -/
def hourRecord : List String := ["VT-A", "2026-01-01", "60"]

/-- Its file is handled. -/
theorem handles_hourRecord :
    Handles .ascii (flightCsv [hourRecord]) (importFlightCsv .ascii [hourRecord]) := by
  have hkeeps : keeps .ascii ["registration", "flown_at", "duration_minutes"] hourRecord
      = true := by
    decide
  refine (handles_iff (d := .flight) rfl (fun h => (nomatch h)) List.not_mem_nil).2 ?_
  intro fieldnames heq
  cases heq
  refine ⟨?_, Or.inr (Or.inr ⟨?_, ?_⟩)⟩
  · rintro ⟨before, record, after, hrecords, hover, -⟩
    cases before with
    | nil =>
      cases hrecords
      cases hkeeps.symm.trans hover.1
    | cons b before =>
      cases before with
      | nil => cases hrecords
      | cons b' before => cases hrecords
  · intro record hrecord _
    cases List.mem_singleton.1 hrecord
    exact hkeeps
  · have hrows : (rawRowsOf .ascii ["registration", "flown_at", "duration_minutes"]
        (flightCsv [hourRecord]).records).map textRow = [textRow (hourFlight "VT-A")] := by
      decide
    have hrow : applyMapping .ascii (textRow (hourFlight "VT-A")) ownNames
        = textRow (hourFlight "VT-A") := by
      decide
    refine ⟨⟨?_, fun row _ => flightReadable_ascii _⟩, ?_, by decide, by decide,
      by decide, by decide⟩
    · intro a ha
      cases List.mem_singleton.1 (Table.mem_select.1 ha).1
      exact Option.some_ne_none _
    · show ∀ row ∈ _, FlightStorable .ascii (applyMapping .ascii row ownNames)
      rw [hrows]
      intro row hmem
      cases List.mem_singleton.1 hmem
      rw [hrow]
      exact
        { registration := (storableCell_iff (s := "VT-A") rfl).1 (by decide)
          flightNumber := (storableCell_iff (s := "") rfl).1 rfl
          origin := (storableCell_iff (s := "") rfl).1 rfl
          destination := (storableCell_iff (s := "") rfl).1 rfl
          missionType := (storableCell_iff (s := "") rfl).1 rfl
          status := (storableStatus_iff (s := "") rfl).1 rfl
          notes := (storableCell_iff (s := "") rfl).1 rfl
          minutes := by
            intro n hn
            have hsixty : parseDurationMinutes .ascii (textRow (hourFlight "VT-A"))
                = .ok (some 60) := rfl
            cases hsixty.symm.trans hn
            decide +kernel
          cycles := by
            intro n hn
            have hnone : parseCycles .ascii (textRow (hourFlight "VT-A")) = .ok none := rfl
            cases hnone.symm.trans hn }

end ImportService
end AeroComply
