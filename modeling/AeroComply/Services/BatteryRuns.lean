import AeroComply.Lib.Runs
import AeroComply.Lib.Stays
import AeroComply.Services.Flight
import AeroComply.Services.Installation

/-!
# BatteryRuns — the cycles of a battery over sequences of calls

`record_flight` of `app/services/flight_service.py` charges the batteries that are on the asset
when the flight is recorded; the flight was flown at `flown_at`.  `cycles_exact_iff` says which
sequences of calls keep the count of every battery what its flights add up to.
-/

namespace AeroComply

open Relational (Keyed Table)

namespace BatteryService

open InstallationService (findItem)

structure BatteryUpdateRequest where
  healthPercent : Option Int := none
  status : Option String := none
  notes : Option String := none

/-- The battery with the fields that are given. -/
def updatedBattery (battery : Battery) (payload : BatteryUpdateRequest) : Battery :=
  { battery with
    healthPercent := payload.healthPercent.or battery.healthPercent
    status := payload.status.getD battery.status
    notes := payload.notes.or battery.notes }

def updateBattery (db : Database) (organizationId : UUID) (actorUserId : Option UUID)
    (batteryId : UUID) (payload : BatteryUpdateRequest) : Except Error Database := do
  let battery ← findItem db.batteries organizationId batteryId (.notFound "Battery not found")
  raiseIf (payload.status.any (fun t => 16 < t.length) = true) .dataError
  raiseIf (payload.healthPercent.any (fun n => !fitsInteger n) = true) .dataError
  let written := { db with batteries := db.batteries.save (updatedBattery battery payload) }
  if payload.healthPercent.isSome || payload.status.isSome || payload.notes.isSome then
    pure (written.recordAuditEvent organizationId actorUserId "battery.updated" "Battery"
      (some batteryId))
  else pure written

end BatteryService

namespace BatteryRuns

open BatteryService InstallationService
open FlightService (FlightRecord flightRow flightColumnsFit carriedBy charged checkPilot checkMission
  recordFlightRecord charge_eq_false)
open Runs (StepsMeet attempt visited)
open Stays (Stay Tracks Past move isAt met atInstant)

/-! ## Calls, and what is kept of them -/

inductive BatteryCall where
  | attachBattery (newId : UUID) (now : DateTime) (organizationId : UUID) (actor : Option UUID)
      (assetId : UUID) (args : BatteryAttach)
  | installBattery (newId : UUID) (now : DateTime) (organizationId : UUID) (actor : Option UUID)
      (batteryId assetId : UUID)
  | removeBattery (now : DateTime) (organizationId : UUID) (actor : Option UUID)
      (batteryId assetId : UUID)
  | updateBattery (now : DateTime) (organizationId : UUID) (actor : Option UUID)
      (batteryId : UUID) (payload : BatteryUpdateRequest)
  | recordFlight (newId : UUID) (now : DateTime) (organizationId : UUID) (actor : Option UUID)
      (assetId : UUID) (flight : FlightRecord)

/-- When the call is made. -/
def BatteryCall.now : BatteryCall → DateTime
  | .attachBattery _ now .. | .installBattery _ now .. | .removeBattery now ..
  | .updateBattery now .. | .recordFlight _ now .. => now

/-- A flight is recorded after it was flown. -/
def BatteryCall.Flown : BatteryCall → Prop
  | .recordFlight _ now _ _ _ flight => flight.flownAt ≤ now
  | _ => True

/-- The database, and beside it where each battery has been, the counts they began with, and the
time of the last call. -/
structure History where
  db : Database
  stays : List (Stay UUID UUID DateTime) := []
  initial : UUID → Int := fun _ => 0
  clock : DateTime := 0

/-- The columns hold the battery. -/
def attachable (args : BatteryAttach) : Bool :=
  let fits (s : Option String) : Bool := s.all fun s => s.length ≤ 128
  fits (some args.serialNumber) && fits args.manufacturer && fits args.model &&
    args.capacityMah.all fitsInteger && args.voltage.all fitsInteger

/-- `attach_battery`, the widths of the columns included. -/
def attach (db : Database) (newId : UUID) (now : DateTime) (organizationId : UUID)
    (actor : Option UUID) (assetId : UUID) (args : BatteryAttach) : Except Error Database := do
  let db' ← attachBattery db newId now organizationId actor assetId args
  raiseIf (attachable args = false) .dataError
  pure db'

def step (u : UnicodeTables) (h : History) : BatteryCall → Except Error History
  | .attachBattery newId now organizationId actor assetId args => do
    let db ← attach h.db newId now organizationId actor assetId args
    pure { db, stays := move h.stays newId now (some assetId)
           initial := fun id => if id = newId then 0 else h.initial id, clock := now }
  | .installBattery newId now organizationId actor batteryId assetId => do
    let db ← installBattery h.db newId now organizationId actor batteryId assetId
    pure { h with db, stays := move h.stays batteryId now (some assetId), clock := now }
  | .removeBattery now organizationId actor batteryId assetId => do
    let db ← removeBattery h.db now organizationId actor batteryId assetId
    pure { h with db, stays := move h.stays batteryId now none, clock := now }
  | .updateBattery now organizationId actor batteryId payload => do
    let db ← updateBattery h.db organizationId actor batteryId payload
    pure { h with db, clock := now }
  | .recordFlight newId now organizationId actor assetId flight => do
    let db ← recordFlightRecord u h.db newId organizationId actor assetId flight true
    pure { h with db, clock := now }

/-- The cycles of the flights that a battery was on board of. -/
def flown (h : History) (batteryId : UUID) : Int :=
  met Flight.assetId Flight.flownAt Flight.cycles (fun _ => true) h.stays batteryId
    h.db.flights.rows

/-- The cycles of the flights at one instant of the asset, if one is given. -/
def flownAtInstant (db : Database) (now : DateTime) (assetId : Option UUID) : Int :=
  atInstant Flight.assetId Flight.flownAt Flight.cycles (fun _ => true) now assetId db.flights.rows

/-- Each battery counts what it began with and the flights it was on board of. -/
def CyclesExact (h : History) : Prop :=
  ∀ b ∈ h.db.batteries.rows, b.cycleCount = h.initial b.id + flown h b.id

/-- The stays are those of the batteries, and nothing lies in the future. -/
structure Consistent (h : History) : Prop where
  tracked : ∀ b ∈ h.db.batteries.rows, Tracks h.stays b.id b.assetId
  known : ∀ s ∈ h.stays, ∃ b ∈ h.db.batteries.rows, b.id = s.item
  past : Past h.stays h.clock
  flights : ∀ f ∈ h.db.flights.rows, f.flownAt ≤ h.clock

/-! ## When a call goes through -/

structure Attaches (db : Database) (newId organizationId assetId : UUID) (args : BatteryAttach) :
    Prop where
  drone : ∃ drone, db.getDrone organizationId assetId = .ok drone
  fresh : ∀ b ∈ db.batteries.rows, b.id ≠ newId
  fits : attachable args = true

structure Installs (db : Database) (newId organizationId batteryId assetId : UUID) (b : Battery) :
    Prop where
  drone : ∃ drone, db.getDrone organizationId assetId = .ok drone
  row : b ∈ db.batteries.rows
  id : b.id = batteryId
  organization : b.organizationId = organizationId
  notInstalled : ∀ r ∈ db.batteryInstallations.rows, r.itemId = batteryId → r.removedAt ≠ none
  fresh : ∀ r ∈ db.batteryInstallations.rows, r.id ≠ newId

structure Removes (db : Database) (organizationId batteryId assetId : UUID) (b : Battery) :
    Prop where
  row : b ∈ db.batteries.rows
  id : b.id = batteryId
  organization : b.organizationId = organizationId
  on : b.assetId = some assetId
  installed : ∃ r, db.batteryInstallations.select
    (fun r => isOpenRow organizationId batteryId r && r.assetId = assetId) = [r]

structure Records (u : UnicodeTables) (db : Database) (newId organizationId assetId : UUID)
    (flight : FlightRecord) : Prop where
  asset : ∃ asset, db.getAsset organizationId assetId = .ok asset
  pilot : checkPilot db organizationId flight.pilotUserId = .ok ()
  mission : checkMission db organizationId assetId flight.missionId = .ok ()
  fits : flightColumnsFit (flightRow u newId organizationId assetId flight) = true
  fresh : ∀ f ∈ db.flights.rows, f.id ≠ newId
  batteries : ∀ b ∈ db.batteries.rows, carriedBy organizationId assetId b = true →
    fitsInteger (charged flight.cycles b).cycleCount = true

/-- A flight that is recorded finds on the asset the batteries that were there when it was flown.
A battery that is placed or removed at the very instant of flights that are recorded already leaves
and finds equal cycles of them. -/
def KeepsCycles (u : UnicodeTables) (h : History) : BatteryCall → Prop
  | .attachBattery newId now organizationId _ assetId args =>
    Attaches h.db newId organizationId assetId args →
      flownAtInstant h.db now (some assetId) = 0
  | .installBattery newId now organizationId _ batteryId assetId =>
    ∀ b, Installs h.db newId organizationId batteryId assetId b →
      flownAtInstant h.db now b.assetId = flownAtInstant h.db now (some assetId)
  | .removeBattery now organizationId _ batteryId assetId =>
    ∀ b, Removes h.db organizationId batteryId assetId b →
      flownAtInstant h.db now (some assetId) = 0
  | .updateBattery .. => True
  | .recordFlight newId _ organizationId _ assetId flight =>
    Records u h.db newId organizationId assetId flight → flight.cycles ≠ 0 →
      ∀ b ∈ h.db.batteries.rows, carriedBy organizationId assetId b =
        isAt h.stays b.id assetId flight.flownAt

/-! ## What the calls do -/

section Steps

variable {u : UnicodeTables} {db db' : Database} {h h' : History}
  {newId organizationId batteryId assetId : UUID} {now : DateTime} {actor : Option UUID}

theorem attach_cases (actor : Option UUID) (args : BatteryAttach) :
    (Attaches db newId organizationId assetId args ∧
      ∃ db', attach db newId now organizationId actor assetId args = .ok db' ∧
        db'.flights = db.flights ∧
        ∃ b : Battery, b.id = newId ∧ b.assetId = some assetId ∧ b.cycleCount = 0 ∧
          db'.batteries.rows = db.batteries.rows ++ [b]) ∨
    (¬Attaches db newId organizationId assetId args ∧
      ∃ e, attach db newId now organizationId actor assetId args = .error e) := by
  rw [attach, attachBattery, attachItem]
  cases hdrone : db.getDrone organizationId assetId with
  | error e =>
    refine Or.inr ⟨?_, e, rfl⟩
    rintro ⟨⟨drone, hok⟩, _, _⟩
    rw [hdrone] at hok
    cases hok
  | ok drone =>
    let b : Battery :=
      { id := newId, organizationId, assetId := some assetId, serialNumber := args.serialNumber
        manufacturer := args.manufacturer, model := args.model, capacityMah := args.capacityMah
        voltage := args.voltage, createdAt := now }
    cases hinsert : db.batteries.insert? b with
    | none =>
      have hadd : addRow (batteryPlacement db).items b = .error .integrity := by
        show addRow db.batteries b = _
        rw [addRow, addRowOrRaise, hinsert]
      rw [ok_bind, hadd]
      refine Or.inr ⟨fun hattaches => ?_, _, rfl⟩
      obtain ⟨x, hx, hid⟩ := Table.insert?_eq_none.1 hinsert
      exact hattaches.fresh x hx hid
    | some items =>
      have hadd : addRow (batteryPlacement db).items b = .ok items :=
        addRowOrRaise_eq_ok.2 hinsert
      obtain ⟨hnew, hrows⟩ := Table.insert?_eq_some hinsert
      rw [ok_bind, hadd]
      cases hfits : attachable args with
      | false =>
        refine Or.inr ⟨fun hattaches => ?_, .dataError, rfl⟩
        have hok := hattaches.fits
        rw [hfits] at hok
        cases hok
      | true =>
        exact Or.inl ⟨⟨⟨drone, hdrone⟩, fun x hx hid => hnew (List.mem_map.2 ⟨x, hx, hid⟩), hfits⟩,
          _, rfl, rfl, b, rfl, rfl, rfl, hrows⟩

/-- What a placement writes: one battery, which is somewhere else. -/
structure Places (db db' : Database) (b : Battery) (dest : Option UUID) : Prop where
  row : b ∈ db.batteries.rows
  written : ∃ b', b'.id = b.id ∧ b'.assetId = dest ∧ b'.cycleCount = b.cycleCount ∧
    db'.batteries = db.batteries.save b'
  flights : db'.flights = db.flights

theorem installBattery_places
    (hcall : installBattery db newId now organizationId actor batteryId assetId = .ok db') :
    ∃ b, Installs db newId organizationId batteryId assetId b ∧ Places db db' b (some assetId) := by
  obtain ⟨drone, hdrone, hcall⟩ := bind_eq_ok.1 hcall
  obtain ⟨p, hinstall, hcall⟩ := bind_eq_ok.1 hcall
  cases pure_eq_ok.1 hcall
  obtain ⟨b, hrow, history, hid, horg, hadd, rfl⟩ := installItem_eq_ok hinstall
  obtain ⟨hopen, hinsert⟩ := addInstallation_eq_ok hadd
  have hfresh : ∀ r ∈ db.batteryInstallations.rows, r.id ≠ newId :=
    fun r hr hrid => (Table.insert?_eq_some hinsert).1 (List.mem_map.2 ⟨r, hr, hrid⟩)
  exact ⟨b, ⟨⟨drone, hdrone⟩, hrow, hid, horg, hopen, hfresh⟩, hrow,
    ⟨{ b with assetId := some assetId, installedAt := some now }, rfl, rfl, rfl, rfl⟩, rfl⟩

variable {dest : Option UUID} {b : Battery} {payload : BatteryUpdateRequest}

theorem findItem_of_mem {e : Error} (hrow : b ∈ db.batteries.rows) (hid : b.id = batteryId)
    (horg : b.organizationId = organizationId) :
    findItem db.batteries organizationId batteryId e = .ok b := by
  refine oneOrRaise_of_key hrow ?_ ?_
  · show (decide (b.id = batteryId) && decide (b.organizationId = organizationId)) = true
    rw [hid, horg]
    simp
  · intro x _ hx
    simp only [Bool.and_eq_true, decide_eq_true_eq] at hx
    exact hx.1.trans hid.symm

theorem installBattery_of_installs
    (hinstalls : Installs db newId organizationId batteryId assetId b) (now : DateTime)
    (actor : Option UUID) :
    ∃ db', installBattery db newId now organizationId actor batteryId assetId = .ok db' := by
  obtain ⟨⟨drone, hdrone⟩, hrow, hid, horg, hclosed, hfresh⟩ := hinstalls
  let row : Installation :=
    { id := newId, organizationId, itemId := batteryId, assetId, installedAt := now
      installedBy := actor }
  have hnone : db.batteryInstallations.select (isOpenRow organizationId batteryId) = [] := by
    refine List.filter_eq_nil_iff.2 fun r hr hopen => ?_
    simp only [isOpenRow, Bool.and_eq_true, decide_eq_true_eq, Option.isNone_iff_eq_none] at hopen
    exact hclosed r hr hopen.1.1 hopen.2
  have hindex : (db.batteryInstallations.rows.any fun r =>
      r.itemId = row.itemId && r.removedAt.isNone) = false := by
    refine List.any_eq_false.2 fun r hr hopen => ?_
    simp only [Bool.and_eq_true, decide_eq_true_eq, Option.isNone_iff_eq_none] at hopen
    exact hclosed r hr hopen.1 hopen.2
  cases hinsert : db.batteryInstallations.insert? row with
  | none =>
    obtain ⟨r, hr, hrid⟩ := Table.insert?_eq_none.1 hinsert
    exact absurd hrid (hfresh r hr)
  | some history =>
    have hadd : addInstallation db.batteryInstallations row = .ok history := by
      rw [addInstallation, hindex]
      exact addRowOrRaise_eq_ok.2 hinsert
    have hitem : ∀ e e' (place : Battery → Battery), installItem (batteryPlacement db) row place e e'
        = .ok { items := db.batteries.save (place b), history } := by
      intro e e' place
      rw [installItem]
      show (do
        let item ← findItem db.batteries organizationId batteryId e
        let openInstallation ← scalarOneOrNone
          (db.batteryInstallations.select (isOpenRow organizationId batteryId))
        raiseIf (openInstallation.isSome = true) e'
        let history ← addInstallation db.batteryInstallations row
        pure ({ items := db.batteries.save (place item), history } : Placement Battery)) = _
      rw [findItem_of_mem hrow hid horg, hnone, hadd]
      rfl
    rw [installBattery, hdrone, ok_bind, hitem]
    exact ⟨_, rfl⟩

theorem removeBattery_places
    (hcall : removeBattery db now organizationId actor batteryId assetId = .ok db') :
    ∃ b, Removes db organizationId batteryId assetId b ∧ Places db db' b none := by
  obtain ⟨p, hremove, hcall⟩ := bind_eq_ok.1 hcall
  cases pure_eq_ok.1 hcall
  obtain ⟨b, hfind, hremove⟩ := bind_eq_ok.1 hremove
  obtain ⟨installation, hopen, hremove⟩ := bind_eq_ok.1 hremove
  obtain ⟨hrow, hid, horg⟩ := findItem_eq_ok hfind
  cases installation with
  | none => cases hremove
  | some r =>
    obtain ⟨_, hon, hremove⟩ := bind_eq_ok.1 hremove
    cases pure_eq_ok.1 hremove
    exact ⟨b, ⟨hrow, hid, horg, not_not.1 (raiseIf_eq_ok.1 hon), r,
      scalarOneOrNone_eq_some hopen⟩, hrow,
      ⟨{ b with assetId := none, installedAt := none }, rfl, rfl, rfl, rfl⟩, rfl⟩

theorem removeBattery_of_removes (hremoves : Removes db organizationId batteryId assetId b)
    (now : DateTime) (actor : Option UUID) :
    ∃ db', removeBattery db now organizationId actor batteryId assetId = .ok db' := by
  obtain ⟨hrow, hid, horg, hon, r, hselect⟩ := hremoves
  have hitem : ∀ e e' (unplace : Battery → Battery),
      removeItem (batteryPlacement db) organizationId batteryId assetId now actor unplace e e'
        = .ok { items := db.batteries.save (unplace b)
                history := db.batteryInstallations.save (closed now actor r) } := by
    intro e e' unplace
    have hfind : findItem (batteryPlacement db).items organizationId batteryId e = .ok b :=
      findItem_of_mem hrow hid horg
    have hplaced : raiseIf (Placeable.assetId b ≠ some assetId) e' = .ok () :=
      raiseIf_eq_ok.2 (not_not.2 hon)
    rw [removeItem, hfind, ok_bind]
    show (do
      let installation ← scalarOneOrNone (db.batteryInstallations.select
        fun r => isOpenRow organizationId batteryId r && r.assetId = assetId)
      _) = _
    rw [hselect]
    show (do
      raiseIf (Placeable.assetId b ≠ some assetId) e'
      pure _) = _
    rw [hplaced]
    rfl
  rw [removeBattery, hitem]
  exact ⟨_, rfl⟩

theorem recordFlight_cases (u : UnicodeTables) (actor : Option UUID) (flight : FlightRecord) :
    (Records u db newId organizationId assetId flight ∧
      ∃ db', recordFlightRecord u db newId organizationId actor assetId flight true = .ok db' ∧
        db'.flights.rows = db.flights.rows ++ [flightRow u newId organizationId assetId flight] ∧
        db'.batteries.rows = db.batteries.rows.map fun b =>
          if carriedBy organizationId assetId b then charged flight.cycles b else b) ∨
    (¬Records u db newId organizationId assetId flight ∧
      ∃ e, recordFlightRecord u db newId organizationId actor assetId flight true = .error e) := by
  rw [recordFlightRecord]
  cases hasset : db.getAsset organizationId assetId with
  | error e =>
    refine Or.inr ⟨fun hrecords => ?_, e, rfl⟩
    obtain ⟨asset, hok⟩ := hrecords.asset
    rw [hasset] at hok
    cases hok
  | ok asset =>
    rw [ok_bind]
    cases hpilot : checkPilot db organizationId flight.pilotUserId with
    | error e =>
      refine Or.inr ⟨fun hrecords => ?_, e, rfl⟩
      have hok := hrecords.pilot
      rw [hpilot] at hok
      cases hok
    | ok _ =>
      rw [ok_bind]
      cases hmission : checkMission db organizationId assetId flight.missionId with
      | error e =>
        refine Or.inr ⟨fun hrecords => ?_, e, rfl⟩
        have hok := hrecords.mission
        rw [hmission] at hok
        cases hok
      | ok _ =>
        rw [ok_bind]
        dsimp only
        cases hfits : flightColumnsFit (flightRow u newId organizationId assetId flight) with
        | false =>
          refine Or.inr ⟨fun hrecords => ?_, .dataError, rfl⟩
          have hok := hrecords.fits
          rw [hfits] at hok
          cases hok
        | true =>
          rw [raiseIf, if_neg (by decide), ok_bind]
          cases hinsert : db.flights.insert? (flightRow u newId organizationId assetId flight) with
          | none =>
            rw [addRow, addRowOrRaise, hinsert]
            refine Or.inr ⟨fun hrecords => ?_, .integrity, rfl⟩
            obtain ⟨f, hf, hid⟩ := Table.insert?_eq_none.1 hinsert
            exact hrecords.fresh f hf hid
          | some flights =>
            rw [addRow, addRowOrRaise_eq_ok.2 hinsert, ok_bind, Bool.true_and]
            obtain ⟨hnew, hrows⟩ := Table.insert?_eq_some hinsert
            cases hcharge : db.batteries.rows.any fun b => carriedBy organizationId assetId b &&
                !fitsInteger (charged flight.cycles b).cycleCount with
            | true =>
              refine Or.inr ⟨fun hrecords => ?_, .dataError, rfl⟩
              rw [charge_eq_false.2 hrecords.batteries] at hcharge
              cases hcharge
            | false =>
              exact Or.inl ⟨⟨⟨asset, hasset⟩, hpilot, hmission, hfits,
                fun f hf hid => hnew (List.mem_map.2 ⟨f, hf, hid⟩), charge_eq_false.1 hcharge⟩,
                _, rfl, hrows, rfl⟩

/-! ## Placements -/

theorem mem_places {b x : Battery} (hplaces : Places db db' b dest) (hx : x ∈ db'.batteries.rows) :
    (x ∈ db.batteries.rows ∧ x.id ≠ b.id) ∨
      (x.id = b.id ∧ x.assetId = dest ∧ x.cycleCount = b.cycleCount) := by
  obtain ⟨b', hid, hasset, hcount, hsaved⟩ := hplaces.written
  rw [hsaved] at hx
  rcases Table.mem_save.1 hx with ⟨hx, hne⟩ | ⟨rfl, _⟩
  · refine Or.inl ⟨hx, fun heq => hne ?_⟩
    show x.id = b'.id
    rw [hid, heq]
  · exact Or.inr ⟨hid, hasset, hcount⟩

theorem placed_mem (hplaces : Places db db' b dest) :
    ∃ x ∈ db'.batteries.rows, x.id = b.id ∧ x.assetId = dest ∧ x.cycleCount = b.cycleCount := by
  obtain ⟨b', hid, hasset, hcount, hsaved⟩ := hplaces.written
  have hkey : Keyed.key b = Keyed.key b' := hid.symm
  refine ⟨b', ?_, hid, hasset, hcount⟩
  rw [hsaved]
  exact (Table.mem_save_of_mem hplaces.row hkey).2 (Or.inr rfl)

theorem kept_mem {b x : Battery} (hplaces : Places db db' b dest) (hx : x ∈ db.batteries.rows)
    (hne : x.id ≠ b.id) : x ∈ db'.batteries.rows := by
  obtain ⟨b', hid, _, _, hsaved⟩ := hplaces.written
  rw [hsaved]
  refine Table.mem_save.2 (Or.inl ⟨hx, fun heq => hne ?_⟩)
  have heq' : x.id = b'.id := heq
  rw [heq', hid]

/-- The history after a placement. -/
def placed (h : History) (db' : Database) (batteryId : UUID) (now : DateTime)
    (dest : Option UUID) : History :=
  { h with db := db', stays := move h.stays batteryId now dest, clock := now }

theorem consistent_placed (hconsistent : Consistent h) (hclock : h.clock ≤ now)
    (hplaces : Places h.db db' b dest) :
    Consistent (placed h db' b.id now dest) := by
  constructor
  · intro x hx
    rcases mem_places hplaces hx with ⟨hx, hne⟩ | ⟨hid, hasset, _⟩
    · exact Stays.tracks_move_of_ne hne now dest (hconsistent.tracked x hx)
    · rw [hid, hasset]
      exact Stays.tracks_move h.stays b.id now dest
  · intro s hs
    rcases Stays.mem_move.1 hs with ⟨x, hx, rfl⟩ | ⟨a, _, rfl⟩
    · obtain ⟨y, hy, hid⟩ := hconsistent.known x hx
      have hitem : (if x.item = b.id && x.leftAt.isNone then { x with leftAt := some now }
          else x).item = x.item := by
        split <;> rfl
      rw [hitem]
      by_cases hsame : y.id = b.id
      · obtain ⟨x', hx', hid', _⟩ := placed_mem hplaces
        exact ⟨x', hx', hid'.trans (hsame.symm.trans hid)⟩
      · exact ⟨y, kept_mem hplaces hy hsame, hid⟩
    · obtain ⟨x', hx', hid', _⟩ := placed_mem hplaces
      exact ⟨x', hx', hid'⟩
  · exact Stays.past_move (hconsistent.past.mono hclock)
  · intro f hf
    have hf' : f ∈ h.db.flights.rows := by
      rw [← hplaces.flights]
      exact hf
    exact le_trans (hconsistent.flights f hf') hclock

theorem flown_placed {link : Option UUID} (dest : Option UUID) (hconsistent : Consistent h)
    (htracks : Tracks h.stays batteryId link) (hclock : h.clock ≤ now)
    (hflights : db'.flights = h.db.flights) :
    flown (placed h db' batteryId now dest) batteryId + flownAtInstant h.db now link
      = flown h batteryId + flownAtInstant h.db now dest := by
  have hrows : ∀ f ∈ h.db.flights.rows, f.flownAt ≤ now :=
    fun f hf => le_trans (hconsistent.flights f hf) hclock
  rw [flown, placed, hflights]
  exact Stays.met_move dest htracks (hconsistent.past.mono hclock) hrows

theorem flown_placed_of_ne {x : UUID} (hne : x ≠ batteryId)
    (hflights : db'.flights = h.db.flights) :
    flown (placed h db' batteryId now dest) x = flown h x := by
  rw [flown, placed, hflights]
  exact Stays.met_move_of_ne hne now dest h.db.flights.rows

/-- **A PLACEMENT**: the counts stay exact exactly when it leaves and finds equal flights of its
instant. -/
theorem exact_placed_iff (hconsistent : Consistent h) (hexact : CyclesExact h)
    (hclock : h.clock ≤ now) (hplaces : Places h.db db' b dest) :
    CyclesExact (placed h db' b.id now dest) ↔
      flownAtInstant h.db now b.assetId = flownAtInstant h.db now dest := by
  have hflown := flown_placed dest hconsistent (hconsistent.tracked b hplaces.row) hclock
    hplaces.flights
  have hcount := hexact b hplaces.row
  constructor
  · intro hafter
    obtain ⟨x, hx, hid, _, hsame⟩ := placed_mem hplaces
    have hcount' : x.cycleCount = h.initial x.id + flown (placed h db' b.id now dest) x.id :=
      hafter x hx
    rw [hid, hsame] at hcount'
    omega
  · intro hequal x hx
    rcases mem_places hplaces hx with ⟨hx, hne⟩ | ⟨hid, _, hsame⟩
    · rw [flown_placed_of_ne hne hplaces.flights]
      exact hexact x hx
    · show x.cycleCount = h.initial x.id + _
      rw [hid, hsame]
      omega

/-! ## A new battery -/

theorem flownAtInstant_none (db : Database) (now : DateTime) : flownAtInstant db now none = 0 :=
  WindowSum.total_false fun _ _ => by simp

/-- The history after a battery is attached. -/
def attached (h : History) (db' : Database) (newId : UUID) (now : DateTime) (assetId : UUID) :
    History :=
  { placed h db' newId now (some assetId) with
    initial := fun id => if id = newId then 0 else h.initial id }

variable {b : Battery} (hfresh : ∀ x ∈ h.db.batteries.rows, x.id ≠ newId) (hid : b.id = newId)
  (hrows : db'.batteries.rows = h.db.batteries.rows ++ [b])

include hfresh

theorem no_stays (hconsistent : Consistent h) : ∀ s ∈ h.stays, s.item ≠ newId := by
  intro s hs hitem
  obtain ⟨x, hx, hxid⟩ := hconsistent.known s hs
  exact hfresh x hx (hxid.trans hitem)

include hid hrows

theorem consistent_attached (hconsistent : Consistent h) (hclock : h.clock ≤ now)
    (hasset : b.assetId = some assetId) (hflights : db'.flights = h.db.flights) :
    Consistent (attached h db' newId now assetId) := by
  have hnew : b ∈ db'.batteries.rows := by
    rw [hrows]
    exact List.mem_append_right _ (List.mem_singleton_self b)
  constructor
  · intro x hx
    have hx' : x ∈ h.db.batteries.rows ++ [b] := by
      rw [← hrows]
      exact hx
    rcases List.mem_append.1 hx' with hold | hx'
    · exact Stays.tracks_move_of_ne (hfresh x hold) now _ (hconsistent.tracked x hold)
    · rw [List.mem_singleton.1 hx', hid, hasset]
      exact Stays.tracks_move h.stays newId now (some assetId)
  · intro s hs
    rcases Stays.mem_move.1 hs with ⟨x, hx, rfl⟩ | ⟨a, _, rfl⟩
    · obtain ⟨y, hy, hyid⟩ := hconsistent.known x hx
      refine ⟨y, ?_, ?_⟩
      · show y ∈ db'.batteries.rows
        rw [hrows]
        exact List.mem_append_left _ hy
      · split
        · exact hyid
        · exact hyid
    · exact ⟨b, hnew, hid⟩
  · exact Stays.past_move (hconsistent.past.mono hclock)
  · intro f hf
    have hf' : f ∈ h.db.flights.rows := by
      rw [← hflights]
      exact hf
    exact le_trans (hconsistent.flights f hf') hclock

theorem exact_attached_iff (hconsistent : Consistent h) (hexact : CyclesExact h)
    (hclock : h.clock ≤ now) (hcount : b.cycleCount = 0) (hflights : db'.flights = h.db.flights) :
    CyclesExact (attached h db' newId now assetId) ↔
      flownAtInstant h.db now (some assetId) = 0 := by
  have hnone := no_stays hfresh hconsistent
  have htracks : Tracks h.stays newId none := by
    refine ⟨fun s hs hitem => absurd hitem (hnone s hs), fun a ha => ?_⟩
    cases ha
  have hbefore : flown h newId = 0 := by
    refine WindowSum.total_false fun f _ => ?_
    rw [Bool.true_and, Bool.eq_false_iff]
    intro hat
    obtain ⟨s, hs, hitem, _⟩ := Stays.isAt_eq_true.1 hat
    exact hnone s hs hitem
  have hflown := flown_placed (some assetId) hconsistent htracks hclock hflights
  rw [hbefore, flownAtInstant_none] at hflown
  have hsame : ∀ x, flown (attached h db' newId now assetId) x
      = flown (placed h db' newId now (some assetId)) x := fun _ => rfl
  constructor
  · intro hafter
    have hnew : b ∈ db'.batteries.rows := by
      rw [hrows]
      exact List.mem_append_right _ (List.mem_singleton_self b)
    have hcount' := hafter b hnew
    rw [hcount, hid, hsame] at hcount'
    have hzero : (attached h db' newId now assetId).initial newId = 0 := if_pos rfl
    omega
  · intro hzero x hx
    have hx' : x ∈ h.db.batteries.rows ++ [b] := by
      rw [← hrows]
      exact hx
    rw [hsame]
    rcases List.mem_append.1 hx' with hold | hx'
    · have hinitial : (attached h db' newId now assetId).initial x.id = h.initial x.id :=
        if_neg (hfresh x hold)
      rw [hinitial, flown_placed_of_ne (hfresh x hold) hflights]
      exact hexact x hold
    · have hinitial : (attached h db' newId now assetId).initial newId = 0 := if_pos rfl
      rw [List.mem_singleton.1 hx', hid, hcount, hinitial]
      omega

omit hfresh hid hrows

/-! ## The other calls -/

theorem consistent_of_links
    (hbefore : ∀ x ∈ db'.batteries.rows, ∃ x₀ ∈ h.db.batteries.rows, x₀.id = x.id ∧
      x₀.assetId = x.assetId)
    (hafter : ∀ x₀ ∈ h.db.batteries.rows, ∃ x ∈ db'.batteries.rows, x.id = x₀.id)
    (hflights : ∀ f ∈ db'.flights.rows, f.flownAt ≤ now) (hconsistent : Consistent h)
    (hclock : h.clock ≤ now) : Consistent { h with db := db', clock := now } := by
  constructor
  · intro x hx
    obtain ⟨x₀, hx₀, hxid, hlink⟩ := hbefore x hx
    rw [← hxid, ← hlink]
    exact hconsistent.tracked x₀ hx₀
  · intro s hs
    obtain ⟨x₀, hx₀, hxid⟩ := hconsistent.known s hs
    obtain ⟨x, hx, hsame⟩ := hafter x₀ hx₀
    exact ⟨x, hx, hsame.trans hxid⟩
  · exact hconsistent.past.mono hclock
  · exact hflights

theorem updateBattery_keeps
    (hcall : updateBattery db organizationId actor batteryId payload = .ok db') :
    db'.flights = db.flights ∧
      ∃ b ∈ db.batteries.rows, db'.batteries = db.batteries.save (updatedBattery b payload) := by
  obtain ⟨b, hfind, hcall⟩ := bind_eq_ok.1 hcall
  obtain ⟨_, _, hcall⟩ := bind_eq_ok.1 hcall
  obtain ⟨_, _, hcall⟩ := bind_eq_ok.1 hcall
  have hrow := (findItem_eq_ok hfind).1
  dsimp only at hcall
  split at hcall
  · cases pure_eq_ok.1 hcall
    exact ⟨rfl, b, hrow, rfl⟩
  · cases pure_eq_ok.1 hcall
    exact ⟨rfl, b, hrow, rfl⟩

theorem updated_before (hrow : b ∈ db.batteries.rows)
    (hsaved : db'.batteries = db.batteries.save (updatedBattery b payload)) {x : Battery}
    (hx : x ∈ db'.batteries.rows) : ∃ x₀ ∈ db.batteries.rows, x₀.id = x.id ∧
      x₀.assetId = x.assetId ∧ x₀.cycleCount = x.cycleCount := by
  rw [hsaved] at hx
  rcases Table.mem_save.1 hx with ⟨hx, _⟩ | ⟨rfl, _⟩
  · exact ⟨x, hx, rfl, rfl, rfl⟩
  · exact ⟨b, hrow, rfl, rfl, rfl⟩

theorem updated_after {b x₀ : Battery} (hrow : b ∈ db.batteries.rows)
    (hsaved : db'.batteries = db.batteries.save (updatedBattery b payload))
    (hx₀ : x₀ ∈ db.batteries.rows) : ∃ x ∈ db'.batteries.rows, x.id = x₀.id := by
  rw [hsaved]
  rcases Table.kept_or_replaced (r := updatedBattery b payload) hrow rfl hx₀ with hx | ⟨rfl, hx⟩
  · exact ⟨x₀, hx, rfl⟩
  · exact ⟨_, hx, rfl⟩

/-- **A FLIGHT**: the counts stay exact exactly when it charges the batteries that it had on
board. -/
theorem exact_flight_iff {flight : FlightRecord} (hexact : CyclesExact h)
    (hflights : db'.flights.rows
      = h.db.flights.rows ++ [flightRow u newId organizationId assetId flight])
    (hbatteries : db'.batteries.rows = h.db.batteries.rows.map fun b =>
      if carriedBy organizationId assetId b then charged flight.cycles b else b) :
    CyclesExact { h with db := db', clock := now } ↔
      (flight.cycles ≠ 0 → ∀ b ∈ h.db.batteries.rows, carriedBy organizationId assetId b =
        isAt h.stays b.id assetId flight.flownAt) := by
  have hflown : ∀ id, flown { h with db := db', clock := now } id = flown h id +
      if isAt h.stays id assetId flight.flownAt = true then flight.cycles else 0 := by
    intro id
    rw [flown, hflights]
    exact Stays.met_append h.db.flights.rows (flightRow u newId organizationId assetId flight)
  -- the count of one battery, before and after
  have hone : ∀ b ∈ h.db.batteries.rows,
      ((if carriedBy organizationId assetId b then charged flight.cycles b else b).cycleCount
        = h.initial b.id + flown { h with db := db', clock := now } b.id ↔
      (flight.cycles ≠ 0 → carriedBy organizationId assetId b =
        isAt h.stays b.id assetId flight.flownAt)) := by
    intro b hb
    rw [hflown, ← Int.add_assoc, ← hexact b hb]
    cases carriedBy organizationId assetId b <;>
      cases isAt h.stays b.id assetId flight.flownAt <;>
      simp [charged]
  have hid : ∀ b : Battery,
      (if carriedBy organizationId assetId b then charged flight.cycles b else b).id = b.id := by
    intro b
    split <;> rfl
  constructor
  · intro hafter hcycles b hb
    refine (hone b hb).1 ?_ hcycles
    have hx := hafter (if carriedBy organizationId assetId b then charged flight.cycles b else b) (by
      show _ ∈ db'.batteries.rows
      rw [hbatteries]
      exact List.mem_map_of_mem hb)
    rw [hid] at hx
    exact hx
  · intro hkeeps x hx
    have hx' : x ∈ db'.batteries.rows := hx
    rw [hbatteries] at hx'
    obtain ⟨b, hb, rfl⟩ := List.mem_map.1 hx'
    rw [hid]
    exact (hone b hb).2 fun hcycles => hkeeps hcycles b hb

end Steps

/-! ## One call -/

section Calls

variable {u : UnicodeTables} {h : History}

/-- The call is made after the last one, and its flight is over. -/
def Timely (h : History) (c : BatteryCall) : Prop := h.clock ≤ c.now ∧ c.Flown

theorem consistent_attempt (c : BatteryCall) (hconsistent : Consistent h) (htimely : Timely h c) :
    Consistent (attempt (step u) h c) := by
  rcases Runs.attempt_cases (step u) h c with hfailed | hcall
  · rw [hfailed]
    exact hconsistent
  obtain ⟨hclock, hflown⟩ := htimely
  cases c with
  | attachBattery newId now organizationId actor assetId args =>
    obtain ⟨db', hattach, heq⟩ := bind_eq_ok.1 hcall
    rw [← pure_eq_ok.1 heq]
    rcases attach_cases actor args with
      ⟨hattaches, _, hok, hflights, b, hid, hasset, _, hrows⟩ | ⟨_, e, herror⟩
    · rw [hok] at hattach
      cases hattach
      exact consistent_attached hattaches.fresh hid hrows hconsistent hclock hasset hflights
    · rw [herror] at hattach
      cases hattach
  | installBattery newId now organizationId actor batteryId assetId =>
    obtain ⟨db', hinstall, heq⟩ := bind_eq_ok.1 hcall
    rw [← pure_eq_ok.1 heq]
    obtain ⟨b, hinstalls, hplaces⟩ := installBattery_places hinstall
    rw [← hinstalls.id]
    exact consistent_placed hconsistent hclock hplaces
  | removeBattery now organizationId actor batteryId assetId =>
    obtain ⟨db', hremove, heq⟩ := bind_eq_ok.1 hcall
    rw [← pure_eq_ok.1 heq]
    obtain ⟨b, hremoves, hplaces⟩ := removeBattery_places hremove
    rw [← hremoves.id]
    exact consistent_placed hconsistent hclock hplaces
  | updateBattery now organizationId actor batteryId payload =>
    obtain ⟨db', hupdate, heq⟩ := bind_eq_ok.1 hcall
    rw [← pure_eq_ok.1 heq]
    obtain ⟨hflights, b, hrow, hsaved⟩ := updateBattery_keeps hupdate
    refine consistent_of_links (fun x hx => ?_) (fun x₀ hx₀ => updated_after hrow hsaved hx₀) ?_
      hconsistent hclock
    · obtain ⟨x₀, hx₀, hid, hlink, _⟩ := updated_before hrow hsaved hx
      exact ⟨x₀, hx₀, hid, hlink⟩
    · rw [hflights]
      exact fun f hf => le_trans (hconsistent.flights f hf) hclock
  | recordFlight newId now organizationId actor assetId flight =>
    obtain ⟨db', hrecord, heq⟩ := bind_eq_ok.1 hcall
    rw [← pure_eq_ok.1 heq]
    rcases recordFlight_cases u actor flight with ⟨_, _, hok, hflights, hbatteries⟩ | ⟨_, e, herror⟩
    · rw [hok] at hrecord
      cases hrecord
      refine consistent_of_links (fun x hx => ?_) (fun x₀ hx₀ => ?_) ?_ hconsistent hclock
      · rw [hbatteries] at hx
        obtain ⟨b, hb, rfl⟩ := List.mem_map.1 hx
        refine ⟨b, hb, ?_⟩
        split
        · exact ⟨rfl, rfl⟩
        · exact ⟨rfl, rfl⟩
      · rw [hbatteries]
        refine ⟨_, List.mem_map_of_mem hx₀, ?_⟩
        split
        · rfl
        · rfl
      · intro f hf
        rw [hflights, List.mem_append, List.mem_singleton] at hf
        rcases hf with hf | rfl
        · exact le_trans (hconsistent.flights f hf) hclock
        · exact hflown
    · rw [herror] at hrecord
      cases hrecord

theorem exact_of_cases {c : BatteryCall} {Fits Keeps : Prop} (hexact : CyclesExact h)
    (hcases : (Fits ∧ ∃ h', step u h c = .ok h' ∧ (CyclesExact h' ↔ Keeps)) ∨
      (¬Fits ∧ ∃ e, step u h c = .error e)) :
    CyclesExact (attempt (step u) h c) ↔ (Fits → Keeps) := by
  rcases hcases with ⟨hfits, h', hok, hkeeps⟩ | ⟨hnot, e, herror⟩
  · rw [attempt, hok]
    exact ⟨fun hafter _ => hkeeps.1 hafter, fun hall => hkeeps.2 (hall hfits)⟩
  · rw [attempt, herror]
    exact ⟨fun _ hfits => absurd hfits hnot, fun _ => hexact⟩

theorem exact_moving_iff {c : BatteryCall} {run : Except Error Database} {Fits : Battery → Prop}
    {dest : Option UUID}
    (hstep : step u h c = run >>= fun db => pure (placed h db batteryId now dest))
    (hfits : ∀ b, Fits b → b ∈ h.db.batteries.rows ∧ b.id = batteryId)
    (hruns : ∀ b, Fits b → ∃ db', run = .ok db')
    (hplaces : ∀ db', run = .ok db' → ∃ b, Fits b ∧ Places h.db db' b dest)
    (hconsistent : Consistent h) (hexact : CyclesExact h) (hclock : h.clock ≤ now) :
    CyclesExact (attempt (step u) h c) ↔
      ∀ b, Fits b → flownAtInstant h.db now b.assetId = flownAtInstant h.db now dest := by
  rw [attempt, hstep]
  cases hrun : run with
  | error e =>
    refine ⟨fun _ b hb => ?_, fun _ => hexact⟩
    obtain ⟨db', hok⟩ := hruns b hb
    rw [hrun] at hok
    cases hok
  | ok db' =>
    obtain ⟨b, hb, hplaced⟩ := hplaces db' hrun
    obtain ⟨hrow, hid⟩ := hfits b hb
    have hiff := exact_placed_iff hconsistent hexact hclock hplaced
    rw [hid] at hiff
    refine hiff.trans ⟨fun hequal b' hb' => ?_, fun hall => hall b hb⟩
    -- the battery is the only one with its id
    obtain ⟨hrow', hid'⟩ := hfits b' hb'
    rw [Table.eq_of_key_eq hrow' hrow (hid'.trans hid.symm)]
    exact hequal

/-- **ONE CALL**: the counts stay exact exactly when it keeps them. -/
theorem exact_attempt_iff (c : BatteryCall) (hconsistent : Consistent h) (hexact : CyclesExact h)
    (htimely : Timely h c) : CyclesExact (attempt (step u) h c) ↔ KeepsCycles u h c := by
  obtain ⟨hclock, _⟩ := htimely
  cases c with
  | attachBattery newId now organizationId actor assetId args =>
    have hnow : h.clock ≤ now := hclock
    refine exact_of_cases hexact ?_
    rcases attach_cases actor args with
      ⟨hattaches, db', hok, hflights, b, hid, hasset, hcount, hrows⟩ | ⟨hnot, e, herror⟩
    · refine Or.inl ⟨hattaches, attached h db' newId now assetId, ?_, ?_⟩
      · rw [step, hok]
        rfl
      · exact exact_attached_iff hattaches.fresh hid hrows hconsistent hexact hnow hcount hflights
    · refine Or.inr ⟨hnot, e, ?_⟩
      rw [step, herror]
      rfl
  | installBattery newId now organizationId actor batteryId assetId =>
    exact exact_moving_iff rfl (fun b hb => ⟨hb.row, hb.id⟩)
      (fun b hb => installBattery_of_installs hb now actor)
      (fun db' hok => installBattery_places hok) hconsistent hexact hclock
  | removeBattery now organizationId actor batteryId assetId =>
    have hmoves := exact_moving_iff (u := u)
      (c := .removeBattery now organizationId actor batteryId assetId) rfl
      (fun b (hb : Removes h.db organizationId batteryId assetId b) => ⟨hb.row, hb.id⟩)
      (fun b hb => removeBattery_of_removes hb now actor)
      (fun db' hok => removeBattery_places hok) hconsistent hexact hclock
    rw [hmoves, KeepsCycles]
    -- a removed battery is on no asset, and finds no cycles there
    refine forall₂_congr fun b hremoves => ?_
    rw [hremoves.on, flownAtInstant_none]
  | updateBattery now organizationId actor batteryId payload =>
    refine ⟨fun _ => trivial, fun _ => ?_⟩
    rcases Runs.attempt_cases (step u) h
      (.updateBattery now organizationId actor batteryId payload) with hfailed | hcall
    · rw [hfailed]
      exact hexact
    · obtain ⟨db', hupdate, heq⟩ := bind_eq_ok.1 hcall
      rw [← pure_eq_ok.1 heq]
      obtain ⟨hflights, b, hrow, hsaved⟩ := updateBattery_keeps hupdate
      intro x hx
      obtain ⟨x₀, hx₀, hid, _, hcount⟩ := updated_before hrow hsaved hx
      rw [flown, hflights, ← hid, ← hcount]
      exact hexact x₀ hx₀
  | recordFlight newId now organizationId actor assetId flight =>
    refine exact_of_cases hexact ?_
    rcases recordFlight_cases u actor flight with
      ⟨hrecords, db', hok, hflights, hbatteries⟩ | ⟨hnot, e, herror⟩
    · refine Or.inl ⟨hrecords, { h with db := db', clock := now }, ?_, ?_⟩
      · rw [step, hok]
        rfl
      · exact exact_flight_iff hexact hflights hbatteries
    · refine Or.inr ⟨hnot, e, ?_⟩
      rw [step, herror]
      rfl

/-! ## Sequences -/

theorem clock_attempt (c : BatteryCall) :
    (attempt (step u) h c).clock = h.clock ∨ (attempt (step u) h c).clock = c.now := by
  rcases Runs.attempt_cases (step u) h c with hfailed | hcall
  · exact Or.inl (congrArg History.clock hfailed)
  · refine Or.inr ?_
    cases c <;>
      (obtain ⟨db', _, heq⟩ := bind_eq_ok.1 hcall
       rw [← pure_eq_ok.1 heq]
       rfl)

theorem timely_of_clock {calls : List BatteryCall} :
    ∀ {h : History}, (h.clock :: calls.map BatteryCall.now).Pairwise (· ≤ ·) →
      (∀ c ∈ calls, c.Flown) → StepsMeet (step u) Timely h calls := by
  induction calls with
  | nil =>
    intro h _ _
    trivial
  | cons c calls ih =>
    intro h hclock hflown
    obtain ⟨hfirst, hrest⟩ := List.pairwise_cons.1 hclock
    have hnow : h.clock ≤ c.now := hfirst _ List.mem_cons_self
    refine ⟨⟨hnow, hflown c List.mem_cons_self⟩,
      ih ?_ fun c' hc' => hflown c' (List.mem_cons_of_mem c hc')⟩
    obtain ⟨hsecond, hrest⟩ := List.pairwise_cons.1 hrest
    refine List.pairwise_cons.2 ⟨fun t ht => ?_, hrest⟩
    rcases clock_attempt (u := u) (h := h) c with heq | heq
    · rw [heq]
      exact hfirst t (List.mem_cons_of_mem _ ht)
    · rw [heq]
      exact hsecond t ht

/-- **WHEN THE CYCLES DO NOT DRIFT**: in a sequence of calls, each of them made no earlier than the
one before, exactly when every call keeps them. -/
theorem cycles_exact_iff (u : UnicodeTables) (h : History) (calls : List BatteryCall)
    (hconsistent : Consistent h) (hexact : CyclesExact h)
    (hclock : (h.clock :: calls.map BatteryCall.now).Pairwise (· ≤ ·))
    (hflown : ∀ c ∈ calls, c.Flown) :
    (∀ h' ∈ visited (step u) h calls, CyclesExact h') ↔
      StepsMeet (step u) (KeepsCycles u) h calls :=
  Runs.forall_visited_iff_of_kept Consistent
    (fun _ c hs htimely => consistent_attempt c hs htimely) calls h hconsistent hexact
    (timely_of_clock hclock hflown) fun _ c hs hP htimely => exact_attempt_iff c hs hP htimely

end Calls

/-- A drone, and a battery in the inventory. -/
def oneBattery : History where
  db :=
    { assets := .single { id := 1, organizationId := 0, assetType := AssetType.drone }
      batteries := .single { id := 5, organizationId := 0, serialNumber := "B-1" } }

def installation : BatteryCall := .installBattery 7 10 0 none 5 1

def flightAt (flownAt : DateTime) : BatteryCall :=
  .recordFlight 9 20 0 none 1 { flownAt, durationMinutes := 30, cycles := 1 }

theorem oneBattery_consistent : Consistent oneBattery := by
  constructor
  · intro b hb
    cases List.mem_singleton.1 hb
    refine ⟨fun s hs => ?_, fun a ha => ?_⟩
    · cases hs
    · cases ha
  · intro s hs
    cases hs
  · intro s hs
    cases hs
  · intro f hf
    cases hf

theorem oneBattery_exact : CyclesExact oneBattery := by
  intro b hb
  cases List.mem_singleton.1 hb
  rfl

/-- A flight flown after the installation. -/
theorem flight_after_installation_exact :
    Consistent oneBattery ∧ CyclesExact oneBattery ∧
      ∀ h' ∈ visited (step .ascii) oneBattery [installation, flightAt 15], CyclesExact h' := by
  refine ⟨oneBattery_consistent, oneBattery_exact, (cycles_exact_iff .ascii oneBattery _
    oneBattery_consistent oneBattery_exact (by decide) ?_).2 ⟨?_, ?_, trivial⟩⟩
  · intro c hc
    rcases List.mem_cons.1 hc with rfl | hc
    · trivial
    · cases List.mem_singleton.1 hc
      show (15 : DateTime) ≤ 20
      decide
  · intro b hinstalls
    cases List.mem_singleton.1 hinstalls.row
    rfl
  · intro _ _ b hb
    cases List.mem_singleton.1 hb
    decide

/-- A flight flown before it, and recorded after it. -/
theorem flight_before_installation_drifts :
    ¬∀ h' ∈ visited (step .ascii) oneBattery [installation, flightAt 5], CyclesExact h' := by
  intro hall
  have hlast := hall _ (List.mem_cons_of_mem _ (List.mem_cons_of_mem _ (List.mem_singleton_self _)))
  have hcount := hlast _ (List.mem_singleton_self _)
  exact absurd hcount (by decide)

end BatteryRuns
end AeroComply
