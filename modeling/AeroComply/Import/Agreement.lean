import AeroComply.Lib.Lockstep
import AeroComply.Import.Validation

/-!
# Agreement — when two readings of a row get the same verdict

A validator reads a row and then judges what it has read.  A verdict shows less than
the reading: a missing status becomes `ACTIVE`, missing cycles one, and a pilot that
is not known nobody.  `SameAircraft` and `SameFlight` say exactly which readings are
judged alike after the same earlier rows.
-/

namespace AeroComply

namespace ImportService

/-- Status, errors, data and match action of a row. -/
def shown {Data : Type} (r : RowResult Data) :
    RowStatus × List String × Data × Option MatchAction :=
  (r.status, r.errors, r.data, r.matchAction)

theorem rowStatus_inj {errors w w' : List String} :
    rowStatus errors w' = rowStatus errors w ↔ (errors = [] → (w' = [] ↔ w = [])) := by
  rw [rowStatus, rowStatus]
  by_cases he : errors = []
  · by_cases hw : w = [] <;> by_cases hw' : w' = [] <;> simp [he, hw, hw']
  · simp [he]

theorem validateRows_eq_ok {Data Reading Seen : Type} (read : Dict Cell → Except Error Reading)
    (judge : Seen → Nat → Reading → Except Error (RowResult Data))
    (remember : Seen → Reading → Seen) (rows : List (Dict Cell)) :
    ∀ (seen : Seen) (number : Nat) (results : List (RowResult Data)),
      validateRows (fun seen number row => do
          let r ← read row
          let result ← judge seen number r
          pure (result, remember seen r)) seen number rows = .ok results ↔
        ∃ readings, rows.mapM read = .ok readings ∧
          Lockstep.run judge remember seen number readings = .ok results := by
  induction rows with
  | nil =>
    intro seen number results
    constructor
    · intro h
      exact ⟨[], rfl, h⟩
    · rintro ⟨readings, hread, hrun⟩
      cases hread
      exact hrun
  | cons row rows ih =>
    intro seen number results
    constructor
    · intro h
      obtain ⟨result, seen', rest, hone, hrest, rfl⟩ := validateRows_cons_eq_ok h
      obtain ⟨r, hr, hone⟩ := bind_eq_ok.1 hone
      obtain ⟨result', hjudge, hone⟩ := bind_eq_ok.1 hone
      cases hone
      obtain ⟨readings, hread, hrun⟩ := (ih _ _ _).1 hrest
      refine ⟨r :: readings, ?_, Lockstep.run_cons_eq_ok.2 ⟨result, rest, hjudge, hrun, rfl⟩⟩
      rw [List.mapM_cons, hr, ok_bind, hread, ok_bind]
      rfl
    · rintro ⟨readings, hread, hrun⟩
      rw [List.mapM_cons] at hread
      obtain ⟨r, hr, hread⟩ := bind_eq_ok.1 hread
      obtain ⟨rest, hrest, hread⟩ := bind_eq_ok.1 hread
      cases hread
      obtain ⟨result, results', hjudge, hruns, rfl⟩ := Lockstep.run_cons_eq_ok.1 hrun
      rw [validateRows, hr, ok_bind, hjudge, ok_bind]
      show (validateRows _ _ _ _ >>= _) = _
      rw [(ih _ _ _).2 ⟨rest, hrest, hruns⟩]
      rfl

section Aircraft

variable (py : Interpreter) (existing : List String)

/-- Two readings of an aircraft row are judged alike after the same rows: the texts are the same,
but for a missing status, which shows only where there is no error. -/
structure SameAircraft (earlier : List AircraftReading) (p q : AircraftReading) : Prop where
  registration : q.registration = p.registration
  msn : q.msn = p.msn
  aircraftType : q.aircraftType = p.aircraftType
  status : statusOrActive q.status = statusOrActive p.status
  given : aircraftErrors py existing (earlier.foldl (seenAircraft py) []) p = [] →
    (q.status = "" ↔ p.status = "")

variable {py existing}

theorem shown_judgeAircraft_iff (earlier : List AircraftReading) (p q : AircraftReading)
    (number : Nat) :
    SameAircraft py existing earlier p q ↔
      shown (judgeAircraft py existing (earlier.foldl (seenAircraft py) []) number q)
        = shown (judgeAircraft py existing (earlier.foldl (seenAircraft py) []) number p) := by
  constructor
  · intro h
    have herrors : aircraftErrors py existing (earlier.foldl (seenAircraft py) []) q
        = aircraftErrors py existing (earlier.foldl (seenAircraft py) []) p := by
      rw [aircraftErrors, aircraftErrors, h.registration, h.msn, h.aircraftType]
    simp only [shown, judgeAircraft, herrors, h.registration, h.msn, h.aircraftType, h.status,
      Prod.mk.injEq, and_true]
    rw [rowStatus_inj]
    intro he
    rw [noteIf_eq_nil, noteIf_eq_nil]
    exact not_congr (h.given he)
  · intro h
    simp only [shown, judgeAircraft, Prod.mk.injEq, AircraftData.mk.injEq, and_true] at h
    obtain ⟨hstatus, herrors, hregistration, hmsn, htype, hshown⟩ := h
    refine ⟨hregistration, hmsn, htype, hshown, ?_⟩
    intro he
    rw [herrors, rowStatus_inj] at hstatus
    have hnotes := hstatus he
    rw [noteIf_eq_nil, noteIf_eq_nil] at hnotes
    exact not_iff_not.1 hnotes

/-- The readings of the rows under a mapping. -/
def aircraftReadings (py : Interpreter) (rows : List (Dict Cell)) (columnMapping : Dict String) :
    Except Error (List AircraftReading) :=
  rows.mapM fun row => readAircraft py (applyMapping py row columnMapping)

/-- The rows can be read, each under its mapping, and the readings are judged alike. -/
def AircraftAlike (py : Interpreter) (existing : List String) (rows rows' : List (Dict Cell))
    (columnMapping columnMapping' : Dict String) : Prop :=
  ∃ ps qs, aircraftReadings py rows columnMapping = .ok ps ∧
    aircraftReadings py rows' columnMapping' = .ok qs ∧
    Lockstep.AllAgree (SameAircraft py existing) [] ps qs

/-- The judge as the loop calls it: it never raises. -/
def judgeAircraftRow (py : Interpreter) (existing seen : List String) (number : Nat)
    (r : AircraftReading) : Except Error (RowResult AircraftData) :=
  .ok (judgeAircraft py existing seen number r)

variable {organizationId : UUID} {db : Database}

theorem validateAircraftRows_eq_ok {rows : List (Dict Cell)} {columnMapping : Dict String}
    {results : List (RowResult AircraftData)} :
    validateAircraftRows py db organizationId rows columnMapping = .ok results ↔
      ∃ ps, aircraftReadings py rows columnMapping = .ok ps ∧
        Lockstep.run (judgeAircraftRow py (existingRegistrations py db organizationId))
          (seenAircraft py) [] 1 ps = .ok results :=
  validateRows_eq_ok (fun row => readAircraft py (applyMapping py row columnMapping))
    (judgeAircraftRow py (existingRegistrations py db organizationId)) (seenAircraft py) rows [] 1
    results

/-- Two lists of rows get the same verdicts exactly when they are read alike. -/
theorem aircraftAlike_iff {rows rows' : List (Dict Cell)}
    {columnMapping columnMapping' : Dict String} :
    (∃ results results', validateAircraftRows py db organizationId rows columnMapping = .ok results ∧
      validateAircraftRows py db organizationId rows' columnMapping' = .ok results' ∧
      results'.map shown = results.map shown) ↔
    AircraftAlike py (existingRegistrations py db organizationId) rows rows' columnMapping
      columnMapping' := by
  have hrule := Lockstep.shown_eq_iff
    (judgeAircraftRow py (existingRegistrations py db organizationId)) (seenAircraft py) shown
    (SameAircraft py (existingRegistrations py db organizationId)) []
    (fun earlier p q number => by
      rw [shown_judgeAircraft_iff earlier p q number]
      simp [judgeAircraftRow])
    (fun earlier p q h seen => by rw [seenAircraft, seenAircraft, h.registration])
  constructor
  · rintro ⟨results, results', hrows, hrows', hshown⟩
    obtain ⟨ps, hps, hrun⟩ := validateAircraftRows_eq_ok.1 hrows
    obtain ⟨qs, hqs, hrun'⟩ := validateAircraftRows_eq_ok.1 hrows'
    exact ⟨ps, qs, hps, hqs, (hrule ps qs [] 1).1 ⟨results, results', hrun, hrun', hshown⟩⟩
  · rintro ⟨ps, qs, hps, hqs, hall⟩
    obtain ⟨results, results', hrun, hrun', hshown⟩ := (hrule ps qs [] 1).2 hall
    exact ⟨results, results', validateAircraftRows_eq_ok.2 ⟨ps, hps, hrun⟩,
      validateAircraftRows_eq_ok.2 ⟨qs, hqs, hrun'⟩, hshown⟩

end Aircraft

section Flight

variable (py : Interpreter) (db : Database) (organizationId : UUID) (known : FlightLookups)
  (strategy : Dict String)

/-- Two readings of a flight row are judged alike after the same rows: the same is read, but for
the text of a date that can be read, one cycle for none, and a pilot who is nobody's user; that
one shows in a row without an error, unless there is another warning. -/
structure SameFlight (earlier : List FlightReading) (p q : FlightReading) : Prop where
  registration : q.registration = p.registration
  flightNumber : q.flightNumber = p.flightNumber
  origin : q.origin = p.origin
  destination : q.destination = p.destination
  departureTime : q.departureTime = p.departureTime
  arrivalTime : q.arrivalTime = p.arrivalTime
  flownAt : q.flownAt = p.flownAt
  flownAtRaw : p.flownAt = none → q.flownAtRaw = p.flownAtRaw
  durationMinutes : q.durationMinutes = p.durationMinutes
  cycles : q.cycles.getD 1 = p.cycles.getD 1
  missionType : q.missionType = p.missionType
  status : q.status = p.status
  pilot : pilotUserId known q.pilot = pilotUserId known p.pilot
  notes : q.notes = p.notes
  warned : ∃ long, durationWarning py p.durationMinutes = .ok long ∧
    (flightErrors (matchAsset py db organizationId known strategy p.registration) p = [] →
      (flightWarnings py known (matchAsset py db organizationId known strategy p.registration) long
          (earlier.foldl (seenFlights py) []) q = [] ↔
        flightWarnings py known (matchAsset py db organizationId known strategy p.registration) long
          (earlier.foldl (seenFlights py) []) p = []))

theorem mem_noteIf {c : Prop} [Decidable c] {m message : String} :
    m ∈ noteIf c message ↔ c ∧ m = message := by
  rw [noteIf]
  split <;> simp [*]

variable {now : Nat → PyDateTime} {matched : AssetMatch}

/-- Of one registration, two readings have the same errors exactly when the same is wrong with
their dates, durations and cycles. -/
theorem flightErrors_inj {p q : FlightReading} (hregistration : q.registration = p.registration) :
    flightErrors matched q = flightErrors matched p ↔
      (q.flownAt = none ↔ p.flownAt = none) ∧
      (p.flownAt = none → q.flownAtRaw = p.flownAtRaw) ∧
      (q.durationMinutes = none ↔ p.durationMinutes = none) ∧
      (q.durationMinutes.any (· ≤ 0) = p.durationMinutes.any (· ≤ 0)) ∧
      (q.cycles.any (· ≤ 0) = p.cycles.any (· ≤ 0)) := by
  constructor
  · intro h
    rw [flightErrors, flightErrors, hregistration] at h
    simp only [List.append_assoc, List.append_cancel_left_eq] at h
    have hmem := fun m => (congrArg (fun l => m ∈ l) h)
    simp only [List.mem_append, mem_noteIf, eq_iff_iff] at hmem
    have hne₁ : ∀ {raw : String}, "Invalid flight date format: " ++ raw
        ≠ "Flight duration (duration_minutes or flight_hours) is required and must be positive" :=
      append_ne (c := 'I') (by decide) (by decide)
    have hne₂ : ∀ {raw : String}, "Invalid flight date format: " ++ raw
        ≠ "Flight duration must be strictly greater than 0" :=
      append_ne (c := 'I') (by decide) (by decide)
    have hne₃ : ∀ {raw : String}, "Invalid flight date format: " ++ raw
        ≠ "Cycles must be a positive integer" := append_ne (c := 'I') (by decide) (by decide)
    have hdate : ∀ raw, (q.flownAt = none ∧ raw = q.flownAtRaw) ↔
        (p.flownAt = none ∧ raw = p.flownAtRaw) := by
      intro raw
      simpa [hne₁, hne₂, hne₃] using hmem ("Invalid flight date format: " ++ raw)
    have hnone : q.durationMinutes = none ↔ p.durationMinutes = none := by
      simpa [hne₁.symm] using
        hmem "Flight duration (duration_minutes or flight_hours) is required and must be positive"
    have hzero : q.durationMinutes.any (· ≤ 0) = true ↔ p.durationMinutes.any (· ≤ 0) = true := by
      simpa [hne₂.symm] using hmem "Flight duration must be strictly greater than 0"
    have hcycles : q.cycles.any (· ≤ 0) = true ↔ p.cycles.any (· ≤ 0) = true := by
      simpa [hne₃.symm] using hmem "Cycles must be a positive integer"
    refine ⟨⟨fun hq => ((hdate _).1 ⟨hq, rfl⟩).1, fun hp => ((hdate _).2 ⟨hp, rfl⟩).1⟩, ?_, hnone,
      Bool.eq_iff_iff.2 hzero, Bool.eq_iff_iff.2 hcycles⟩
    exact fun hp => (((hdate _).2 ⟨hp, rfl⟩).2).symm
  · rintro ⟨hdate, hraw, hnone, hzero, hcycles⟩
    have hdates : noteIf (q.flownAt = none) ("Invalid flight date format: " ++ q.flownAtRaw)
        = noteIf (p.flownAt = none) ("Invalid flight date format: " ++ p.flownAtRaw) := by
      by_cases hp : p.flownAt = none
      · rw [noteIf, noteIf, if_pos (hdate.2 hp), if_pos hp, hraw hp]
      · rw [noteIf, noteIf, if_neg fun hq => hp (hdate.1 hq), if_neg hp]
    rw [flightErrors, flightErrors, hregistration, hdates, hzero, hcycles]
    simp only [hnone]

theorem eq_of_getD {α : Type} {a b : Option α} {d : α} (hnone : a = none ↔ b = none)
    (h : a.getD d = b.getD d) : a = b := by
  cases a with
  | none => exact (hnone.1 rfl).symm
  | some x =>
    cases b with
    | none => cases hnone.2 rfl
    | some y => exact congrArg some h

theorem cycles_iff {a b : Option Int} :
    cyclesOrOne a = cyclesOrOne b ∧ a.any (· ≤ 0) = b.any (· ≤ 0) ↔ a.getD 1 = b.getD 1 := by
  have hsplit : ∀ c : Option Int, c.any (· ≤ 0) = decide (c.getD 1 ≤ 0) := by
    intro c
    cases c <;> rfl
  have hstored : ∀ c : Option Int, cyclesOrOne c = if c.getD 1 = 0 then 1 else c.getD 1 := by
    intro c
    cases c <;> simp [cyclesOrOne]
  rw [hsplit, hsplit, hstored, hstored, decide_eq_decide]
  constructor
  · rintro ⟨hstored, hsign⟩
    split at hstored <;> split at hstored <;> omega
  · intro h
    rw [h]
    exact ⟨rfl, Iff.rfl⟩

variable {py db organizationId known strategy}

theorem shown_flightVerdict_iff {now : PyDateTime} {long seen : List String} {number : Nat}
    {p q : FlightReading} :
    shown (flightVerdict py known matched now long seen number q)
        = shown (flightVerdict py known matched now long seen number p) ↔
      flightErrors matched q = flightErrors matched p ∧ flightData known now q = flightData known now p ∧
        (flightErrors matched p = [] → (flightWarnings py known matched long seen q = [] ↔
          flightWarnings py known matched long seen p = [])) := by
  simp only [shown, flightVerdict, Prod.mk.injEq, and_true]
  constructor
  · rintro ⟨hstatus, herrors, hdata⟩
    rw [herrors, rowStatus_inj] at hstatus
    exact ⟨herrors, hdata, hstatus⟩
  · rintro ⟨herrors, hdata, hwarned⟩
    refine ⟨?_, herrors, hdata⟩
    rw [herrors, rowStatus_inj]
    exact hwarned

theorem shown_judgeFlight_iff (now : PyDateTime) (earlier : List FlightReading)
    (p q : FlightReading) (number : Nat) :
    SameFlight py db organizationId known strategy earlier p q ↔
      ∃ o o', judgeFlight py db organizationId known strategy now
          (earlier.foldl (seenFlights py) []) number p = .ok o ∧
        judgeFlight py db organizationId known strategy now
          (earlier.foldl (seenFlights py) []) number q = .ok o' ∧ shown o' = shown o := by
  constructor
  · intro h
    obtain ⟨long, hlong, hwarned⟩ := h.warned
    refine ⟨_, _, (judgeFlight_eq_ok py).2 ⟨long, hlong, rfl⟩, (judgeFlight_eq_ok py).2 ⟨long, ?_, rfl⟩, ?_⟩
    · rw [h.durationMinutes]
      exact hlong
    · rw [h.registration]
      refine shown_flightVerdict_iff.2 ⟨?_, ?_, hwarned⟩
      · rw [flightErrors_inj h.registration, h.flownAt, h.durationMinutes, (cycles_iff.2 h.cycles).2]
        exact ⟨Iff.rfl, h.flownAtRaw, Iff.rfl, rfl, rfl⟩
      · simp only [flightData, h.registration, h.flightNumber, h.origin, h.destination,
          h.departureTime, h.arrivalTime, h.flownAt, h.durationMinutes, (cycles_iff.2 h.cycles).1,
          h.missionType, h.status, h.pilot, h.notes]
  · rintro ⟨o, o', ho, ho', hshown⟩
    obtain ⟨long, hlong, rfl⟩ := (judgeFlight_eq_ok py).1 ho
    obtain ⟨long', hlong', rfl⟩ := (judgeFlight_eq_ok py).1 ho'
    have hdata : flightData known now q = flightData known now p :=
      congrArg (fun s => s.2.2.1) hshown
    simp only [flightData, FlightData.mk.injEq] at hdata
    obtain ⟨hregistration, hnumber, horigin, hdestination, hdeparture, harrival, hflown, hduration,
      hcycles, hmission, hstatus, hpilot, hnotes⟩ := hdata
    have herrors := congrArg (fun s => s.2.1) hshown
    dsimp only [shown, flightVerdict] at herrors
    rw [hregistration, flightErrors_inj hregistration] at herrors
    obtain ⟨hdate, hraw, hnone, _, hsign⟩ := herrors
    have hminutes : q.durationMinutes = p.durationMinutes := eq_of_getD hnone hduration
    rw [hminutes, hlong] at hlong'
    cases hlong'
    rw [hregistration] at hshown
    exact
      { registration := hregistration, flightNumber := hnumber, origin := horigin
        destination := hdestination, departureTime := hdeparture, arrivalTime := harrival
        flownAt := eq_of_getD hdate hflown, flownAtRaw := hraw, durationMinutes := hminutes
        cycles := cycles_iff.1 ⟨hcycles, hsign⟩, missionType := hmission, status := hstatus
        pilot := hpilot, notes := hnotes
        warned := ⟨long, hlong, (shown_flightVerdict_iff.1 hshown).2.2⟩ }

theorem seenFlights_eq {earlier : List FlightReading} {p q : FlightReading}
    (h : SameFlight py db organizationId known strategy earlier p q) (seen : List String) :
    seenFlights py seen q = seenFlights py seen p := by
  rw [seenFlights, seenFlights, dedupKey, dedupKey, h.registration, h.flightNumber, h.flownAt]

/-- The readings of the rows under a mapping. -/
def flightReadings (py : Interpreter) (rows : List (Dict Cell)) (columnMapping : Dict String) :
    Except Error (List FlightReading) :=
  rows.mapM fun row => readFlight py (applyMapping py row columnMapping)

/-- The rows can be read, each under its mapping, and the readings are judged alike. -/
def FlightsAlike (py : Interpreter) (db : Database) (organizationId : UUID)
    (strategy : Dict String) (rows rows' : List (Dict Cell))
    (columnMapping columnMapping' : Dict String) : Prop :=
  ∃ known ps qs, flightLookups py db organizationId = .ok known ∧
    flightReadings py rows columnMapping = .ok ps ∧
    flightReadings py rows' columnMapping' = .ok qs ∧
    Lockstep.AllAgree (SameFlight py db organizationId known strategy) [] ps qs

theorem validateFlightRows_eq_ok {rows : List (Dict Cell)} {columnMapping : Dict String}
    {results : List (RowResult FlightData)} :
    validateFlightRows py db organizationId now rows columnMapping strategy = .ok results ↔
      ∃ known, flightLookups py db organizationId = .ok known ∧
        ∃ ps, flightReadings py rows columnMapping = .ok ps ∧
          Lockstep.run (fun seen number r => judgeFlight py db organizationId known strategy
            (now number) seen number r) (seenFlights py) [] 1 ps = .ok results := by
  rw [validateFlightRows, bind_eq_ok]
  refine exists_congr fun known => and_congr_right fun _ => ?_
  exact validateRows_eq_ok (fun row => readFlight py (applyMapping py row columnMapping))
    (fun seen number r => judgeFlight py db organizationId known strategy (now number) seen number r)
    (seenFlights py) rows [] 1 results

theorem flightsAlike_iff {rows rows' : List (Dict Cell)}
    {columnMapping columnMapping' : Dict String} :
    (∃ results results',
      validateFlightRows py db organizationId now rows columnMapping strategy = .ok results ∧
      validateFlightRows py db organizationId now rows' columnMapping' strategy = .ok results' ∧
      results'.map shown = results.map shown) ↔
    FlightsAlike py db organizationId strategy rows rows' columnMapping columnMapping' := by
  have hrule := fun known => Lockstep.shown_eq_iff
    (fun seen number r => judgeFlight py db organizationId known strategy (now number) seen number r)
    (seenFlights py) shown (SameFlight py db organizationId known strategy) []
    (fun earlier p q number => shown_judgeFlight_iff (now number) earlier p q number)
    (fun _ _ _ h seen => seenFlights_eq h seen)
  constructor
  · rintro ⟨results, results', hrows, hrows', hshown⟩
    obtain ⟨known, hknown, ps, hps, hrun⟩ := validateFlightRows_eq_ok.1 hrows
    obtain ⟨known', hknown', qs, hqs, hrun'⟩ := validateFlightRows_eq_ok.1 hrows'
    cases hknown.symm.trans hknown'
    exact ⟨known, ps, qs, hknown, hps, hqs,
      (hrule known ps qs [] 1).1 ⟨results, results', hrun, hrun', hshown⟩⟩
  · rintro ⟨known, ps, qs, hknown, hps, hqs, hall⟩
    obtain ⟨results, results', hrun, hrun', hshown⟩ := (hrule known ps qs [] 1).2 hall
    exact ⟨results, results', validateFlightRows_eq_ok.2 ⟨known, hknown, ps, hps, hrun⟩,
      validateFlightRows_eq_ok.2 ⟨known, hknown, qs, hqs, hrun'⟩, hshown⟩

end Flight

end ImportService
end AeroComply
