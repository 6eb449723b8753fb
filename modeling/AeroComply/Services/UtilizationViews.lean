import AeroComply.Services.Flight

/-!
# UtilizationViews — the utilization of an asset, told twice

`get_asset_utilization` of `app/services/asset_service.py` keeps the same accounts as
`get_utilization` of `flight_service.py`: the carry-in of the active baseline, and the flights from
its effective date on.  `get_utilization` counts every flight of the asset; the other view counts
those that it adds up.

`views_agree_iff` says when the two tell the same.
-/

namespace AeroComply

open Relational (Table)

namespace FlightService

structure AssetHistoricalBaselineCreateRequest where
  flightHours : ℚ
  flightCycles : Int := 0
  effectiveAt : DateTime
  hours_nonneg : 0 ≤ flightHours := by decide
  cycles_nonneg : 0 ≤ flightCycles := by decide

/-- `create_asset_baseline`: the ones before it are no longer active. -/
def createAssetBaseline (db : Database) (newId organizationId : UUID) (actorUserId : Option UUID)
    (assetId : UUID) (payload : AssetHistoricalBaselineCreateRequest) : Except Error Database := do
  let _ ← db.getAsset organizationId assetId
  let superseded := db.baselines.updateWhere
    (fun b => b.organizationId = organizationId && b.assetId = assetId)
    (fun b => { b with isActive := false }) (fun _ => rfl)
  let baselines ← addRow superseded
    { id := newId, organizationId, assetId, flightHours := max 0 payload.flightHours
      flightCycles := max 0 payload.flightCycles, effectiveAt := payload.effectiveAt }
  pure (({ db with baselines }).recordAuditEvent organizationId actorUserId
    "asset.baseline_created" "AssetHistoricalBaseline" (some newId))

theorem activeBaseline_of_create {db db' : Database} {newId org assetId : UUID}
    {actor : Option UUID} {payload : AssetHistoricalBaselineCreateRequest}
    (h : createAssetBaseline db newId org actor assetId payload = .ok db') :
    ∃ b, db'.baselines.select (fun b =>
        b.organizationId = org && b.assetId = assetId && b.isActive) = [b] ∧
      activeBaseline db' org assetId = some b ∧ b.effectiveAt = payload.effectiveAt ∧
      b.flightHours = payload.flightHours ∧ b.flightCycles = payload.flightCycles := by
  obtain ⟨_, _, h⟩ := bind_eq_ok.1 h
  obtain ⟨baselines, hadd, h⟩ := bind_eq_ok.1 h
  cases h
  have hnone : (db.baselines.updateWhere
      (fun b => b.organizationId = org && b.assetId = assetId)
      (fun b => { b with isActive := false }) (fun _ => rfl)).select (fun b =>
        b.organizationId = org && b.assetId = assetId && b.isActive) = [] := by
    refine List.filter_eq_nil_iff.2 fun x hx => ?_
    obtain ⟨b, _, rfl⟩ := Table.mem_updateWhere.1 hx
    split
    · simp
    · next hother =>
      rw [Bool.and_eq_true]
      exact fun hactive => hother hactive.1
  have hselect := Table.select_insert? (addRowOrRaise_eq_ok.1 hadd) (fun b =>
    b.organizationId = org && b.assetId = assetId && b.isActive)
  rw [hnone, List.filter_cons_of_pos (by simp)] at hselect
  refine ⟨_, hselect, ?_, rfl, max_eq_right payload.hours_nonneg,
    max_eq_right payload.cycles_nonneg⟩
  show latestEffective (baselines.select _) = _
  rw [hselect]
  rfl

end FlightService

namespace AssetService

open FlightService (activeBaseline carryIn getUtilization ofAsset roundHalfEven)
open WindowSum (total within)

structure UsageMetricItem where
  metricKey : String
  metricLabel : String
  value : ℚ
  unit : String
  source : String
  isMetered : Bool := true

structure AssetUtilizationResponse where
  assetId : UUID
  assetType : String
  totalFlightHours : ℚ
  totalMinutes : Int
  totalCycles : Int
  totalFlights : Nat
  totalLandings : Int
  metrics : List UsageMetricItem := []

/-- `round(x, 2)` of a float. -/
def roundHundredth (fl : ℚ → ℚ) (x : ℚ) : ℚ := fl (roundHalfEven (x * 100) / 100)

/-- The metrics of a response. -/
def usageMetrics (fl : ℚ → ℚ) (totalFlightHours : ℚ) (totalCycles : Int) (totalFlights : Nat) :
    List UsageMetricItem :=
  [{ metricKey := "TOTAL_FLIGHT_HOURS", metricLabel := "Airframe Time in Service"
     value := totalFlightHours, unit := "hours", source := "FLIGHT" },
   { metricKey := "TOTAL_CYCLES", metricLabel := "Flight Operating Cycles"
     value := fl totalCycles, unit := "cycles", source := "FLIGHT" },
   { metricKey := "TOTAL_FLIGHTS", metricLabel := "Completed Sorties / Sectors"
     value := fl totalFlights, unit := "sorties", source := "FLIGHT" },
   { metricKey := "TOTAL_LANDINGS", metricLabel := "Total Landing Touchdowns"
     value := fl totalCycles, unit := "landings", source := "FLIGHT" }]

def getAssetUtilization (fl : ℚ → ℚ) (db : Database) (organizationId assetId : UUID) :
    Except Error AssetUtilizationResponse := do
  let asset ← db.getAsset organizationId assetId
  let baseline := activeBaseline db organizationId asset.id
  let carried := match baseline with
    | none => (0, 0)
    | some b => carryIn fl b
  -- from the effective date on, if there is one
  let counted := fun f : Flight => ofAsset organizationId asset.id f &&
    within (baseline.map AssetHistoricalBaseline.effectiveAt) none f.flownAt
  let totalFlights := (db.flights.select counted).length
  let totalMinutes := carried.1 + total counted Flight.durationMinutes db.flights.rows
  let totalCycles := carried.2 + total counted Flight.cycles db.flights.rows
  let totalFlightHours := roundHundredth fl (fl (totalMinutes / 60))
  pure { assetId := asset.id, assetType := asset.assetType, totalFlightHours, totalMinutes
         totalCycles, totalFlights, totalLandings := totalCycles
         metrics := usageMetrics fl totalFlightHours totalCycles totalFlights }

/-! ## The two views -/

section Views

variable (fl : ℚ → ℚ) (db : Database) (org assetId : UUID)

/-- The minutes, cycles and flights of `get_utilization` without bounds. -/
def operationalView : Except Error (Int × Int × Nat) := do
  let u ← getUtilization fl db org assetId none none
  pure (u.totalMinutes, u.totalCycles, u.totalFlights)

/-- The minutes, cycles and flights of `get_asset_utilization`. -/
def assetView : Except Error (Int × Int × Nat) := do
  let u ← getAssetUtilization fl db org assetId
  pure (u.totalMinutes, u.totalCycles, u.totalFlights)

/-- The flights that both views add up. -/
def counted (f : Flight) : Bool :=
  ofAsset org assetId f &&
    within ((activeBaseline db org assetId).map AssetHistoricalBaseline.effectiveAt) none f.flownAt

variable {fl db org assetId}

theorem getAsset_id {asset : Asset} (h : db.getAsset org assetId = .ok asset) :
    asset.id = assetId := by
  have hfound := (mem_of_oneOrRaise h).2
  simp only [Bool.and_eq_true, decide_eq_true_eq] at hfound
  exact hfound.1.1

theorem views_of_live (fl : ℚ → ℚ) {asset : Asset} (h : db.getAsset org assetId = .ok asset) :
    ∃ minutes cycles,
      operationalView fl db org assetId =
        .ok (minutes, cycles, (db.flights.select (ofAsset org assetId)).length) ∧
      assetView fl db org assetId =
        .ok (minutes, cycles, (db.flights.select (counted db org assetId)).length) := by
  have hid := getAsset_id h
  rw [operationalView, getUtilization, h, assetView, getAssetUtilization, h]
  dsimp only [ok_bind]
  rw [hid]
  cases hbl : activeBaseline db org assetId with
  | none =>
    refine ⟨_, _, rfl, ?_⟩
    rw [show counted db org assetId
        = fun f => ofAsset org assetId f && within none none f.flownAt by
      funext f
      rw [counted, hbl]
      rfl]
    rfl
  | some bl =>
    refine ⟨_, _, rfl, ?_⟩
    rw [show counted db org assetId = fun f =>
        ofAsset org assetId f && within (some bl.effectiveAt) none f.flownAt by
      funext f
      rw [counted, hbl]
      rfl]
    rfl

theorem length_counted_iff :
    (db.flights.select (ofAsset org assetId)).length =
        (db.flights.select (counted db org assetId)).length ↔
      ∀ bl ∈ activeBaseline db org assetId, ∀ f ∈ db.flights.rows,
        ofAsset org assetId f = true → bl.effectiveAt ≤ f.flownAt := by
  have hselect : db.flights.select (counted db org assetId) =
      (db.flights.select (ofAsset org assetId)).filter fun f =>
        within ((activeBaseline db org assetId).map AssetHistoricalBaseline.effectiveAt) none
          f.flownAt := by
    rw [Table.select, Table.select, List.filter_filter]
    exact List.filter_congr fun f _ => Bool.and_comm _ _
  rw [hselect, eq_comm, List.length_filter_eq_length_iff]
  cases activeBaseline db org assetId with
  | none => exact iff_of_true (fun _ _ => rfl) (by rintro _ ⟨⟩)
  | some bl =>
    simp only [Table.mem_select, Option.map_some, within, Bool.and_true, decide_eq_true_eq,
      Option.mem_some, forall_eq', and_imp]

/-- **THE VIEWS AGREE** on a live asset exactly when no flight of it is from before its active
baseline. -/
theorem views_agree_iff (fl : ℚ → ℚ) (db : Database) (org assetId : UUID) :
    operationalView fl db org assetId = assetView fl db org assetId ↔
      ((∃ asset, db.getAsset org assetId = .ok asset) →
        ∀ bl ∈ activeBaseline db org assetId, ∀ f ∈ db.flights.rows,
          ofAsset org assetId f = true → bl.effectiveAt ≤ f.flownAt) := by
  cases hasset : db.getAsset org assetId with
  | error e =>
    refine iff_of_true ?_ ?_
    · rw [operationalView, getUtilization, hasset, assetView, getAssetUtilization, hasset]
      rfl
    · rintro ⟨_, hlive⟩
      cases hlive
  | ok asset =>
    obtain ⟨minutes, cycles, hoperational, hview⟩ := views_of_live fl hasset
    rw [hoperational, hview, ← length_counted_iff]
    constructor
    · intro h _
      exact congrArg (fun x : Int × Int × Nat => x.2.2) (Except.ok.inj h)
    · intro h
      rw [h ⟨asset, rfl⟩]

end Views

/-- A flight from before the carry-in of its asset. -/
def earlyFlight : Database where
  assets := .single { id := 1, organizationId := 1 }
  flights := .single
    { id := 3, organizationId := 1, assetId := 1, flownAt := 500, durationMinutes := 60 }
  baselines := .single
    { id := 5, organizationId := 1, assetId := 1, flightHours := 100, flightCycles := 50
      effectiveAt := 1000 }

/-- **THE VIEWS DIFFER**: one counts the flight, the other does not. -/
theorem earlyFlight_views_differ :
    operationalView id earlyFlight 1 1 ≠ assetView id earlyFlight 1 1 := by
  intro h
  have hoperational : (operationalView id earlyFlight 1 1).map (fun x => x.2.2) = .ok 1 := by
    rfl
  have hview : (assetView id earlyFlight 1 1).map (fun x => x.2.2) = .ok 0 := by
    rfl
  rw [h, hview] at hoperational
  cases hoperational

end AssetService
end AeroComply
