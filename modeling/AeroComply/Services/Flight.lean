import AeroComply.Lib.Rounding
import AeroComply.Lib.WindowSum
import AeroComply.Models.Database

/-!
# Flight — utilization from flights and the carry-in baseline

`record_flight` and `get_utilization` of `app/services/flight_service.py`, and
`record_asset_flight` of `asset_service.py`.  `fl` rounds an exact product to the
float the interpreter computes; nothing is assumed of it.
-/

namespace AeroComply

namespace FlightService

open Relational (Table)
open WindowSum (total within)

/-- `FlightCreateRequest` and `AssetFlightCreateRequest`: the two quantities are positive. -/
structure FlightCreateRequest where
  flownAt : DateTime
  durationMinutes : Int
  cycles : Int := 1
  pilotUserId : Option UUID := none
  missionId : Option UUID := none
  duration_pos : 0 < durationMinutes := by decide
  cycles_pos : 0 < cycles := by decide

/-- The pilot, if one is named, is a user of the tenant. -/
def checkPilot (db : Database) (organizationId : UUID) : Option UUID → Except Error Unit
  | none => .ok ()
  | some pilot => do
    let _ ← oneOrRaise
      (db.users.select fun u => u.id = pilot && u.organizationId = organizationId)
      (.notFound "Pilot user not found in organization")
    pure ()

/-- The mission, if one is named, is the tenant's and flies this asset. -/
def checkMission (db : Database) (organizationId assetId : UUID) :
    Option UUID → Except Error Unit
  | none => .ok ()
  | some missionId => do
    let mission ← oneOrRaise
      (db.missions.select fun m => m.id = missionId && m.organizationId = organizationId)
      (.notFound "Mission not found")
    raiseIf (mission.assetId ≠ assetId)
      (.aeroComply "Mission is not assigned to this drone asset")

def newFlight (newId organizationId assetId : UUID) (payload : FlightCreateRequest) : Flight where
  id := newId
  organizationId
  assetId
  missionId := payload.missionId
  flownAt := payload.flownAt
  durationMinutes := payload.durationMinutes
  cycles := payload.cycles

/-- `record_flight`: the batteries on the asset are charged with the cycles. -/
def recordFlight (db : Database) (newId organizationId : UUID) (actorUserId : Option UUID)
    (assetId : UUID) (payload : FlightCreateRequest) (updateBattery : Bool) :
    Except Error Database := do
  let _ ← db.getAsset organizationId assetId
  checkPilot db organizationId payload.pilotUserId
  checkMission db organizationId assetId payload.missionId
  let flights ← addRow db.flights
    { newFlight newId organizationId assetId payload with pilotUserId := payload.pilotUserId }
  let batteries := if updateBattery then
    db.batteries.updateWhere
      (fun b => b.organizationId = organizationId && b.assetId = some assetId)
      (fun b => { b with cycleCount := b.cycleCount + payload.cycles }) (fun _ => rfl)
  else db.batteries
  pure (({ db with flights, batteries }).recordAuditEvent organizationId actorUserId
    "flight.recorded" "Flight" (some newId))

/-- The arguments of `record_flight` that make the row. -/
structure FlightRecord where
  flownAt : DateTime
  durationMinutes : Int
  cycles : Int
  pilotUserId : Option UUID := none
  notes : Option String := none
  missionId : Option UUID := none
  flightNumber : Option String := none
  origin : Option String := none
  destination : Option String := none
  departureTime : Option DateTime := none
  arrivalTime : Option DateTime := none
  missionType : Option String := none
  status : String := "COMPLETED"
  source : String := "MANUAL"
  sourceRowId : Option String := none

def FlightCreateRequest.record (payload : FlightCreateRequest) : FlightRecord where
  flownAt := payload.flownAt
  durationMinutes := payload.durationMinutes
  cycles := payload.cycles
  pilotUserId := payload.pilotUserId
  missionId := payload.missionId

def flightRow (u : UnicodeTables) (newId organizationId assetId : UUID) (r : FlightRecord) :
    Flight where
  id := newId
  organizationId
  assetId
  missionId := r.missionId
  flightNumber := u.stripOrNone r.flightNumber
  origin := u.stripOrNone r.origin
  destination := u.stripOrNone r.destination
  departureTime := r.departureTime
  arrivalTime := r.arrivalTime
  flownAt := r.flownAt
  durationMinutes := r.durationMinutes
  cycles := r.cycles
  missionType := u.stripOrNone r.missionType
  status := r.status
  source := r.source
  sourceRowId := r.sourceRowId
  pilotUserId := r.pilotUserId
  notes := u.stripOrNone r.notes

/-- The texts and numbers of a flight fit their columns; a `source_row_id` names a job and a
row, and always does. -/
def flightColumnsFit (f : Flight) : Bool :=
  let fits (width : Nat) (s : Option String) : Bool := s.all fun s => s.length ≤ width
  fits 64 f.flightNumber && fits 64 f.origin && fits 64 f.destination && fits 64 f.missionType &&
    fits 32 (some f.status) && fits 32 (some f.source) && fitsInteger f.durationMinutes &&
    fitsInteger f.cycles

/-- The batteries of the tenant on the asset. -/
def carriedBy (organizationId assetId : UUID) (b : Battery) : Bool :=
  b.organizationId = organizationId && b.assetId = some assetId

def charged (cycles : Int) (b : Battery) : Battery :=
  { b with cycleCount := b.cycleCount + cycles }

/-- `record_flight` with all its arguments, the widths of the columns included. -/
def recordFlightRecord (u : UnicodeTables) (db : Database) (newId organizationId : UUID)
    (actorUserId : Option UUID) (assetId : UUID) (r : FlightRecord) (updateBattery : Bool) :
    Except Error Database := do
  let _ ← db.getAsset organizationId assetId
  checkPilot db organizationId r.pilotUserId
  checkMission db organizationId assetId r.missionId
  let flight := flightRow u newId organizationId assetId r
  raiseIf (flightColumnsFit flight = false) .dataError
  let flights ← addRow db.flights flight
  let onAsset := carriedBy organizationId assetId
  raiseIf ((updateBattery && db.batteries.rows.any fun b =>
      onAsset b && !fitsInteger (charged r.cycles b).cycleCount) = true) .dataError
  let batteries := if updateBattery then
    db.batteries.updateWhere onAsset (charged r.cycles) (fun _ => rfl)
  else db.batteries
  pure (({ db with flights, batteries }).recordAuditEvent organizationId actorUserId
    "flight.recorded" "Flight" (some newId))

section Record

variable {u : UnicodeTables} {db : Database} {newId organizationId assetId : UUID}
  {actorUserId : Option UUID}

theorem charge_eq_false {cycles : Int} :
    (db.batteries.rows.any fun b =>
      carriedBy organizationId assetId b && !fitsInteger (charged cycles b).cycleCount) = false ↔
    ∀ b ∈ db.batteries.rows, carriedBy organizationId assetId b = true →
      fitsInteger (charged cycles b).cycleCount = true := by
  rw [List.any_eq_false]
  simp

theorem recordFlightRecord_eq (u : UnicodeTables) {payload : FlightCreateRequest}
    {updateBattery : Bool} (hduration : fitsInteger payload.durationMinutes = true)
    (hcycles : fitsInteger payload.cycles = true)
    (hbatteries : ∀ b ∈ db.batteries.rows, carriedBy organizationId assetId b = true →
      fitsInteger (charged payload.cycles b).cycleCount = true) :
    recordFlightRecord u db newId organizationId actorUserId assetId payload.record updateBattery
      = recordFlight db newId organizationId actorUserId assetId payload updateBattery := by
  have hfit : flightColumnsFit (flightRow u newId organizationId assetId payload.record) = true := by
    simp [flightColumnsFit, flightRow, FlightCreateRequest.record, UnicodeTables.stripOrNone,
      hduration, hcycles]
    decide
  have hcharge : (updateBattery && db.batteries.rows.any fun b =>
      carriedBy organizationId assetId b &&
        !fitsInteger (charged payload.record.cycles b).cycleCount) = false := by
    cases updateBattery with
    | false => rfl
    | true => exact charge_eq_false.2 hbatteries
  rw [recordFlightRecord, recordFlight]
  simp only [hfit, hcharge, raiseIf, Bool.false_eq_true, Bool.true_eq_false, if_false, ok_bind]
  rfl

/-- The asset is live, and the flight and the batteries on the asset fit their columns. -/
structure Recordable (u : UnicodeTables) (db : Database) (newId organizationId assetId : UUID)
    (r : FlightRecord) : Prop where
  asset : ∃ asset, db.getAsset organizationId assetId = .ok asset
  fits : flightColumnsFit (flightRow u newId organizationId assetId r) = true
  batteries : ∀ b ∈ db.batteries.rows, carriedBy organizationId assetId b = true →
    fitsInteger (charged r.cycles b).cycleCount = true

theorem recordFlightRecord_cases (u : UnicodeTables) (actorUserId : Option UUID) (assetId : UUID)
    {r : FlightRecord} (hnew : newId ∉ db.flights.rows.map Flight.id)
    (hpilot : checkPilot db organizationId r.pilotUserId = .ok ()) (hmission : r.missionId = none) :
    (Recordable u db newId organizationId assetId r ∧
      ∃ flights batteries auditEvents,
        recordFlightRecord u db newId organizationId actorUserId assetId r true
          = .ok { db with flights, batteries, auditEvents } ∧
        flights.rows = db.flights.rows ++ [flightRow u newId organizationId assetId r] ∧
        batteries.rows = db.batteries.rows.map fun b =>
          if carriedBy organizationId assetId b then charged r.cycles b else b) ∨
    (¬Recordable u db newId organizationId assetId r ∧
      ∃ e, recordFlightRecord u db newId organizationId actorUserId assetId r true = .error e) := by
  rw [recordFlightRecord]
  cases hasset : db.getAsset organizationId assetId with
  | error e =>
    refine Or.inr ⟨?_, e, rfl⟩
    rintro ⟨⟨asset, hok⟩, _, _⟩
    rw [hasset] at hok
    cases hok
  | ok asset =>
    rw [ok_bind, hpilot, ok_bind, hmission, checkMission, ok_bind]
    dsimp only
    cases hfit : flightColumnsFit (flightRow u newId organizationId assetId r) with
    | false =>
      refine Or.inr ⟨fun h => ?_, .dataError, rfl⟩
      have hfits := h.fits
      rw [hfit] at hfits
      cases hfits
    | true =>
      rw [raiseIf, if_neg (by simp), ok_bind]
      cases hins : db.flights.insert? (flightRow u newId organizationId assetId r) with
      | none =>
        obtain ⟨y, hy, hid⟩ := Table.insert?_eq_none.1 hins
        exact absurd (List.mem_map.2 ⟨y, hy, hid⟩) hnew
      | some flights =>
        rw [addRow, addRowOrRaise_eq_ok.2 hins, ok_bind, Bool.true_and]
        cases hcharge : db.batteries.rows.any fun b =>
            carriedBy organizationId assetId b && !fitsInteger (charged r.cycles b).cycleCount with
        | true =>
          refine Or.inr ⟨fun h => ?_, .dataError, rfl⟩
          rw [charge_eq_false.2 h.batteries] at hcharge
          cases hcharge
        | false =>
          exact Or.inl ⟨⟨⟨asset, hasset⟩, hfit, charge_eq_false.1 hcharge⟩, flights, _, _, rfl,
            (Table.insert?_eq_some hins).2, rfl⟩

end Record

/-- `record_asset_flight`, for every asset type but drones. -/
def recordAssetFlight (db : Database) (newId organizationId : UUID)
    (actorUserId : Option UUID) (assetId : UUID) (payload : FlightCreateRequest) :
    Except Error Database := do
  let asset ← db.getAsset organizationId assetId
  raiseIf (asset.assetType = AssetType.drone)
    (.aeroComply ("Drone flights must be recorded via POST /drones/\x7basset_id\x7d/flights, "
      ++ "which also maintains attached battery cycle counts.") "use_drone_flight_endpoint")
  let flights ← addRow db.flights
    { newFlight newId organizationId asset.id payload with
      pilotUserId := payload.pilotUserId.or actorUserId }
  pure (({ db with flights }).recordAuditEvent organizationId actorUserId
    "asset.flight_recorded" "Asset" (some asset.id))

/-- `round` of a float: to the nearest integer, halves to the even one. -/
def roundHalfEven (q : ℚ) : Int :=
  if q - q.floor < 1 / 2 then q.floor
  else if 1 / 2 < q - q.floor then q.floor + 1
  else if q.floor % 2 = 0 then q.floor
  else q.floor + 1

theorem nearest_roundHalfEven : Rounding.Nearest roundHalfEven := by
  refine ⟨fun q => ?_⟩
  have hlo : (⌊q⌋ : ℚ) ≤ q := Int.floor_le q
  have hhi : q < ⌊q⌋ + 1 := Int.lt_floor_add_one q
  have hfloor : (q.floor : ℚ) = ⌊q⌋ := rfl
  rw [abs_le, roundHalfEven]
  split_ifs with hdown hup heven
  · rw [hfloor] at *
    constructor <;> linarith
  · push_cast
    rw [hfloor] at *
    constructor <;> linarith
  · rw [hfloor] at *
    constructor <;> linarith
  · push_cast
    rw [hfloor] at *
    constructor <;> linarith

structure Utilization where
  totalFlights : Nat
  totalMinutes : Int
  totalCycles : Int
  baselineHours : ℚ
  baselineCycles : Int
  baselineEffectiveAt : Option DateTime

/-- `ORDER BY effective_at DESC` and the first row. -/
def latestEffective : List AssetHistoricalBaseline → Option AssetHistoricalBaseline
  | [] => none
  | b :: bs =>
    match latestEffective bs with
    | none => some b
    | some b' => if b.effectiveAt < b'.effectiveAt then some b' else some b

theorem mem_of_latestEffective {bs : List AssetHistoricalBaseline} {b : AssetHistoricalBaseline}
    (h : latestEffective bs = some b) : b ∈ bs := by
  have hnewest : ∀ bs, latestEffective bs = newestBy AssetHistoricalBaseline.effectiveAt bs := by
    intro bs
    induction bs with
    | nil => rfl
    | cons b bs ih =>
      rw [latestEffective, newestBy, ih]
      cases newestBy AssetHistoricalBaseline.effectiveAt bs with
      | none => rfl
      | some b' => rfl
  rw [hnewest] at h
  exact mem_of_newestBy h

def activeBaseline (db : Database) (organizationId assetId : UUID) :
    Option AssetHistoricalBaseline :=
  latestEffective (db.baselines.select fun b =>
    b.organizationId = organizationId && b.assetId = assetId && b.isActive)

/-- The filter on a flight's tenant and asset. -/
def ofAsset (organizationId assetId : UUID) (f : Flight) : Bool :=
  f.organizationId = organizationId && f.assetId = assetId

section Service

variable (fl : ℚ → ℚ)

/-- The minutes and cycles a baseline carries in. -/
def carryIn (b : AssetHistoricalBaseline) : Int × Int :=
  (roundHalfEven (fl (b.flightHours * 60)), b.flightCycles)

/-- What the baseline adds, and the lower bound on `flown_at`: a period that is open
below, or starts at or before the effective date, carries the baseline in. -/
def baselineTerms (baseline : Option AssetHistoricalBaseline) (since : Option DateTime) :
    (Int × Int) × Option DateTime :=
  match baseline, since with
  | some b, none => (carryIn fl b, some b.effectiveAt)
  | some b, some a =>
    if a ≤ b.effectiveAt then (carryIn fl b, some b.effectiveAt) else ((0, 0), some a)
  | none, since => ((0, 0), since)

/-- `get_utilization`; `hi` is the argument `until`. -/
def getUtilization (db : Database) (organizationId assetId : UUID)
    (since hi : Option DateTime) : Except Error Utilization := do
  let _ ← db.getAsset organizationId assetId
  let baseline := activeBaseline db organizationId assetId
  let terms := baselineTerms fl baseline since
  let inPeriod := fun f : Flight => ofAsset organizationId assetId f && within terms.2 hi f.flownAt
  let postBaselineMinutes := total inPeriod Flight.durationMinutes db.flights.rows
  let postBaselineCycles := total inPeriod Flight.cycles db.flights.rows
  pure {
    totalFlights := (db.flights.select (ofAsset organizationId assetId)).length
    totalMinutes := terms.1.1 + postBaselineMinutes
    totalCycles := terms.1.2 + postBaselineCycles
    baselineHours := (baseline.map AssetHistoricalBaseline.flightHours).getD 0
    baselineCycles := (baseline.map AssetHistoricalBaseline.flightCycles).getD 0
    baselineEffectiveAt := baseline.map AssetHistoricalBaseline.effectiveAt }

/-- The two totals of the answer. -/
def totals (db : Database) (organizationId assetId : UUID) (since hi : Option DateTime) :
    Except Error (Int × Int) :=
  (getUtilization fl db organizationId assetId since hi).map
    fun u => (u.totalMinutes, u.totalCycles)

/-- The flights of the asset in a period, in minutes and in cycles. -/
def flownTotals (db : Database) (organizationId assetId : UUID) (lo hi : Option DateTime) :
    Int × Int :=
  (total (fun f => ofAsset organizationId assetId f && within lo hi f.flownAt)
      Flight.durationMinutes db.flights.rows,
   total (fun f => ofAsset organizationId assetId f && within lo hi f.flownAt)
      Flight.cycles db.flights.rows)

/-! ## What the service answers -/

variable {db : Database} {org assetId : UUID} {lo hi : Option DateTime}

theorem totals_of_live {asset : Asset} (h : db.getAsset org assetId = .ok asset) :
    totals fl db org assetId lo hi
      = .ok ((baselineTerms fl (activeBaseline db org assetId) lo).1
          + flownTotals db org assetId (baselineTerms fl (activeBaseline db org assetId) lo).2
              hi) := by
  rw [totals, getUtilization]
  rw [h]
  rfl

variable {baseline : AssetHistoricalBaseline} {since : DateTime} {x : Int × Int}

theorem totals_eq_ok : totals fl db org assetId lo hi = .ok x ↔
    ∃ u, getUtilization fl db org assetId lo hi = .ok u ∧ (u.totalMinutes, u.totalCycles) = x := by
  rw [totals]
  cases h : getUtilization fl db org assetId lo hi with
  | ok u =>
    constructor
    · intro hx
      cases hx
      exact ⟨u, rfl, rfl⟩
    · rintro ⟨u', hu', rfl⟩
      cases hu'
      rfl
  | error e =>
    constructor
    · intro hx
      cases hx
    · rintro ⟨u', hu', _⟩
      cases hu'

theorem totals_ok (h : totals fl db org assetId lo hi = .ok x) :
    ∃ asset, db.getAsset org assetId = .ok asset := by
  cases ha : db.getAsset org assetId with
  | ok asset => exact ⟨asset, rfl⟩
  | error e =>
    rw [totals, getUtilization] at h
    rw [ha] at h
    cases h

theorem flownTotals_split {a b c : DateTime} (hab : a ≤ b) (hbc : b ≤ c) :
    flownTotals db org assetId (some a) (some c)
      = flownTotals db org assetId (some a) (some b)
        + flownTotals db org assetId (some b) (some c) := by
  rw [flownTotals]
  rw [WindowSum.total_within_split hab hbc, WindowSum.total_within_split hab hbc]
  rfl

theorem flownTotals_empty {a b : DateTime} (hba : b ≤ a) :
    flownTotals db org assetId (some a) (some b) = 0 := by
  rw [flownTotals]
  rw [WindowSum.total_within_empty hba, WindowSum.total_within_empty hba]
  rfl

/-! ## Splitting a period -/

/-- The two parts of a period add up to the whole, in minutes and in cycles. -/
def Additive (db : Database) (org assetId : UUID) (a b c : DateTime) : Prop :=
  ∃ x y, totals fl db org assetId (some a) (some b) = .ok x ∧
    totals fl db org assetId (some b) (some c) = .ok y ∧
    totals fl db org assetId (some a) (some c) = .ok (x + y)

theorem baselineTerms_carried (h : since ≤ baseline.effectiveAt) :
    baselineTerms fl (some baseline) (some since)
      = (carryIn fl baseline, some baseline.effectiveAt) := if_pos h

theorem baselineTerms_past (h : ¬since ≤ baseline.effectiveAt) :
    baselineTerms fl (some baseline) (some since) = ((0, 0), some since) := if_neg h

/-- The same split, read off the terms the three calls add. -/
theorem terms_split_iff {baseline : Option AssetHistoricalBaseline} {a b c : DateTime}
    (hab : a ≤ b) (hbc : b ≤ c) :
    ((baselineTerms fl baseline (some a)).1
        + flownTotals db org assetId (baselineTerms fl baseline (some a)).2 (some b))
      + ((baselineTerms fl baseline (some b)).1
        + flownTotals db org assetId (baselineTerms fl baseline (some b)).2 (some c))
      = (baselineTerms fl baseline (some a)).1
        + flownTotals db org assetId (baselineTerms fl baseline (some a)).2 (some c) ↔
    ∀ bl ∈ baseline, bl.effectiveAt < b ∨ carryIn fl bl = (0, 0) := by
  cases baseline with
  | none =>
    refine iff_of_true ?_ (fun bl h => nomatch h)
    show ((0, 0) + flownTotals db org assetId (some a) (some b))
      + ((0, 0) + flownTotals db org assetId (some b) (some c))
      = (0, 0) + flownTotals db org assetId (some a) (some c)
    rw [flownTotals_split hab hbc]
    show (0 + _) + (0 + _) = (0 : Int × Int) + _
    simp only [zero_add]
  | some bl =>
    have hgoal : (∀ bl' ∈ some bl, bl'.effectiveAt < b ∨ carryIn fl bl' = (0, 0)) ↔
        (bl.effectiveAt < b ∨ carryIn fl bl = (0, 0)) := by
      constructor
      · exact fun h => h bl rfl
      · rintro h bl' hbl
        cases hbl
        exact h
    rw [hgoal]
    by_cases hb : b ≤ bl.effectiveAt
    · -- both parts carry the baseline in, and the first one holds no flight
      have ha : a ≤ bl.effectiveAt := le_trans hab hb
      rw [baselineTerms_carried fl ha, baselineTerms_carried fl hb]
      dsimp only
      rw [flownTotals_empty hb]
      constructor
      · intro h
        right
        rw [add_zero] at h
        exact add_eq_right.1 h
      · rintro (hlt | hz)
        · exact absurd hb (not_le.2 hlt)
        · rw [hz]
          show (0 + 0) + (0 + _) = (0 : Int × Int) + _
          simp only [zero_add]
    · have hlt : bl.effectiveAt < b := not_le.1 hb
      refine iff_of_true ?_ (Or.inl hlt)
      rw [baselineTerms_past fl hb]
      by_cases ha : a ≤ bl.effectiveAt
      · rw [baselineTerms_carried fl ha]
        dsimp only
        rw [flownTotals_split (le_of_lt hlt) hbc]
        show _ + (0 + _) = _
        rw [zero_add, add_assoc]
      · rw [baselineTerms_past fl ha]
        dsimp only
        rw [flownTotals_split hab hbc]
        show (0 + _) + (0 + _) = (0 : Int × Int) + _
        simp only [zero_add]

end Service

/-- One asset with a carry-in of 100 hours and 50 cycles effective at instant 1000. -/
def carryInDatabase : Database where
  assets := .single { id := 1, organizationId := 1 }
  baselines := .single
    { id := 5, organizationId := 1, assetId := 1, flightHours := 100,
      flightCycles := 50, effectiveAt := 1000 }

end FlightService
end AeroComply
