import AeroComply.Services.ControlCenter
import AeroComply.Services.MaintenanceDue

/-!
# FleetTotals — the totals of the fleet against those of its assets

The summary adds all flights and all active baselines of the organization.  The
utilization of an asset leaves out the flights before its baseline, rounds the hours of
the baseline to minutes, and exists for live assets only.  `fleet_totals_iff` says when
the two add up to the same.
-/

namespace AeroComply

open Relational (Table)
open WindowSum (total within)

namespace FleetTotals

open ControlCenterService (liveAssets flightsAll activeBaselines totalFlightMinutesRaw
  totalFlightCyclesRaw baselineHoursSum baselineCyclesSum totalCycles)
open FlightService (getUtilization activeBaseline mem_of_latestEffective ofAsset carryIn
  baselineTerms Utilization)

section Statement

variable (fl : ℚ → ℚ) (db : Database) (organizationId : UUID)

/-- The minutes of the summary, before they are rounded to hours. -/
def fleetMinutes : ℚ :=
  60 * baselineHoursSum db organizationId id + totalFlightMinutesRaw db organizationId

/-- The summary shows the sums of what the live assets show. -/
def FleetTotalsAgree : Prop :=
  ∃ us, (liveAssets db organizationId).mapM
      (fun a => getUtilization fl db organizationId a.id none none) = .ok us ∧
    totalCycles db organizationId = (us.map Utilization.totalCycles).sum ∧
    fleetMinutes db organizationId = ((us.map Utilization.totalMinutes).sum : Int)

/-- The asset counts the flight: it is not before the active baseline. -/
def counts (assetId : UUID) (f : Flight) : Bool :=
  ofAsset organizationId assetId f &&
    within ((activeBaseline db organizationId assetId).map AssetHistoricalBaseline.effectiveAt) none
      f.flownAt

def isCounted (f : Flight) : Bool :=
  (liveAssets db organizationId).any fun a => counts db organizationId a.id f

def carries (assetId : UUID) (b : AssetHistoricalBaseline) : Bool :=
  (activeBaseline db organizationId assetId).any fun active => active.id = b.id

def isCarriedIn (b : AssetHistoricalBaseline) : Bool :=
  (liveAssets db organizationId).any fun a => carries db organizationId a.id b

/-- What the summary adds of a baseline beyond the minutes that are carried in. -/
def residue (b : AssetHistoricalBaseline) : ℚ :=
  60 * b.flightHours - if isCarriedIn db organizationId b then (carryIn fl b).1 else 0

/-- Every flight is counted; a baseline that is not carried in has no cycles; and what the baselines
weigh beyond the minutes that are carried in cancels out. -/
structure Accounted : Prop where
  flights : ∀ f ∈ flightsAll db organizationId, isCounted db organizationId f = true
  baselines : ∀ b ∈ activeBaselines db organizationId, isCarriedIn db organizationId b = false →
    b.flightCycles = 0
  minutes : ((activeBaselines db organizationId).map (residue fl db organizationId)).sum = 0

end Statement

section Totals

variable {fl : ℚ → ℚ} {db : Database} {organizationId : UUID}

theorem mem_of_activeBaseline {assetId : UUID} {b : AssetHistoricalBaseline}
    (h : activeBaseline db organizationId assetId = some b) :
    b ∈ activeBaselines db organizationId ∧ b.assetId = assetId := by
  obtain ⟨hrow, hb⟩ := Table.mem_select.1 (mem_of_latestEffective h)
  simp only [Bool.and_eq_true, decide_eq_true_eq] at hb
  exact ⟨Table.mem_select.2 ⟨hrow, by simp [hb.1.1, hb.2]⟩, hb.1.2⟩

theorem liveAssets_pairwise (db : Database) (organizationId : UUID) :
    (liveAssets db organizationId).Pairwise fun a a' => a.id ≠ a'.id := by
  have hrows : db.assets.rows.Pairwise fun a a' => a.id ≠ a'.id := List.pairwise_map.1 db.assets.nodup
  exact hrows.sublist List.filter_sublist

theorem getAsset_of_liveAsset {a : Asset} (h : a ∈ liveAssets db organizationId) :
    db.getAsset organizationId a.id = .ok a := by
  obtain ⟨hrow, ha⟩ := Table.mem_select.1 h
  simp only [Bool.and_eq_true, decide_eq_true_eq] at ha
  refine oneOrRaise_of_key hrow (by simp [ha]) fun x _ hx => ?_
  simp only [Bool.and_eq_true, decide_eq_true_eq] at hx
  exact hx.1.1

/-- **THE FLIGHTS THAT ARE COUNTED** add up to what the live assets count. -/
theorem total_isCounted (val : Flight → Int) :
    total (isCounted db organizationId) val db.flights.rows
      = ((liveAssets db organizationId).map
          fun a => total (counts db organizationId a.id) val db.flights.rows).sum := by
  have hexclusive : ((liveAssets db organizationId).map
      fun a => counts db organizationId a.id).Pairwise
        fun p q => ∀ f ∈ db.flights.rows, p f = true → q f = false := by
    rw [List.pairwise_map]
    refine (liveAssets_pairwise db organizationId).imp fun {a a'} hne f _ hf => ?_
    simp only [counts, ofAsset, Bool.and_eq_true, decide_eq_true_eq] at hf
    have hother : decide (f.assetId = a'.id) = false :=
      decide_eq_false fun h => hne (hf.1.2.symm.trans h)
    simp [counts, ofAsset, hother]
  have hany : _ = (List.map (fun p => total p val db.flights.rows) _).sum :=
    WindowSum.total_any hexclusive
  simp only [List.any_map, List.map_map] at hany
  exact hany

theorem total_carries (val : AssetHistoricalBaseline → Int) (assetId : UUID) :
    total (carries db organizationId assetId) val (activeBaselines db organizationId)
      = ((activeBaseline db organizationId assetId).map val).getD 0 := by
  cases hactive : activeBaseline db organizationId assetId with
  | none => exact WindowSum.total_false fun b _ => by simp [carries, hactive]
  | some b =>
    obtain ⟨hb, _⟩ := mem_of_activeBaseline hactive
    have hrow : b ∈ db.baselines.rows := (Table.mem_select.1 hb).1
    have hone : db.baselines.select (fun x => (decide (x.organizationId = organizationId) &&
        x.isActive) && decide (b.id = x.id)) = [b] := by
      refine Table.select_eq_singleton hrow ?_ fun x hx hp => ?_
      · have horg := (Table.mem_select.1 hb).2
        simp only [Bool.and_eq_true, decide_true, and_true]
        simpa using horg
      · simp only [Bool.and_eq_true, decide_eq_true_eq] at hp
        exact Table.eq_of_key_eq hx hrow hp.2.symm
    show (((activeBaselines db organizationId).filter _).map val).sum = val b
    have hfilter : (activeBaselines db organizationId).filter (carries db organizationId assetId)
        = [b] := by
      rw [← hone, activeBaselines, Table.select, Table.select, List.filter_filter]
      refine List.filter_congr fun x _ => ?_
      rw [carries, hactive, Option.any_some, Bool.and_comm]
    rw [hfilter]
    simp

/-- **THE BASELINES THAT ARE CARRIED IN** add up to what the live assets carry in. -/
theorem total_isCarriedIn (val : AssetHistoricalBaseline → Int) :
    total (isCarriedIn db organizationId) val (activeBaselines db organizationId)
      = ((liveAssets db organizationId).map
          fun a => ((activeBaseline db organizationId a.id).map val).getD 0).sum := by
  have hexclusive : ((liveAssets db organizationId).map
      fun a => carries db organizationId a.id).Pairwise
        fun p q => ∀ b ∈ activeBaselines db organizationId, p b = true → q b = false := by
    rw [List.pairwise_map]
    refine (liveAssets_pairwise db organizationId).imp fun {a a'} hne b hb hcarried => ?_
    have hrow : b ∈ db.baselines.rows := (Table.mem_select.1 hb).1
    have hof : ∀ assetId, carries db organizationId assetId b = true → b.assetId = assetId := by
      intro assetId h
      obtain ⟨active, hactive, hid⟩ := Option.any_eq_true _ _ |>.1 h
      obtain ⟨hmem, hasset⟩ := mem_of_activeBaseline hactive
      have hsame : active = b := Table.eq_of_key_eq (Table.mem_select.1 hmem).1 hrow
        (of_decide_eq_true hid)
      rw [← hsame]
      exact hasset
    refine Bool.eq_false_iff.2 fun h => hne ?_
    rw [← hof a.id hcarried, hof a'.id h]
  have hany : _ = (List.map (fun p => total p val (activeBaselines db organizationId)) _).sum :=
    WindowSum.total_any hexclusive
  simp only [List.any_map, List.map_map] at hany
  refine hany.trans (congrArg List.sum (List.map_congr_left fun a _ => ?_))
  exact total_carries val a.id

/-- The minutes of a live asset. -/
def minutesOf (fl : ℚ → ℚ) (db : Database) (organizationId : UUID) (a : Asset) : Int :=
  ((activeBaseline db organizationId a.id).map fun b => (carryIn fl b).1).getD 0 +
    total (counts db organizationId a.id) Flight.durationMinutes db.flights.rows

/-- The cycles of a live asset. -/
def cyclesOf (db : Database) (organizationId : UUID) (a : Asset) : Int :=
  ((activeBaseline db organizationId a.id).map AssetHistoricalBaseline.flightCycles).getD 0 +
    total (counts db organizationId a.id) Flight.cycles db.flights.rows

theorem getUtilization_of_liveAsset (fl : ℚ → ℚ) {a : Asset} (h : a ∈ liveAssets db organizationId) :
    ∃ u, getUtilization fl db organizationId a.id none none = .ok u ∧
      u.totalMinutes = minutesOf fl db organizationId a ∧
      u.totalCycles = cyclesOf db organizationId a := by
  have hcounts : counts db organizationId a.id = fun f => ofAsset organizationId a.id f &&
      within (baselineTerms fl (activeBaseline db organizationId a.id) none).2 none f.flownAt := by
    funext f
    rw [counts]
    cases activeBaseline db organizationId a.id with
    | none => rfl
    | some b => rfl
  rw [getUtilization, getAsset_of_liveAsset h, minutesOf, cyclesOf, hcounts]
  refine ⟨_, rfl, ?_, ?_⟩
  · cases activeBaseline db organizationId a.id with
    | none => rfl
    | some b => rfl
  · cases activeBaseline db organizationId a.id with
    | none => rfl
    | some b => rfl

theorem mapM_getUtilization (fl : ℚ → ℚ) :
    ∀ as : List Asset, (∀ a ∈ as, a ∈ liveAssets db organizationId) →
      ∃ us, as.mapM (fun a => getUtilization fl db organizationId a.id none none) = .ok us ∧
        us.map Utilization.totalMinutes = as.map (minutesOf fl db organizationId) ∧
        us.map Utilization.totalCycles = as.map (cyclesOf db organizationId) := by
  intro as
  induction as with
  | nil => exact fun _ => ⟨[], rfl, rfl, rfl⟩
  | cons a as ih =>
    intro hlive
    obtain ⟨u, hu, hminutes, hcycles⟩ := getUtilization_of_liveAsset fl (hlive a List.mem_cons_self)
    obtain ⟨us, hus, hrestMinutes, hrestCycles⟩ :=
      ih fun x hx => hlive x (List.mem_cons_of_mem a hx)
    refine ⟨u :: us, ?_, ?_, ?_⟩
    · rw [List.mapM_cons, hu, hus]
      rfl
    · rw [List.map_cons, List.map_cons, hminutes, hrestMinutes]
    · rw [List.map_cons, List.map_cons, hcycles, hrestCycles]

theorem sum_flightsAll (db : Database) (organizationId : UUID) (val : Flight → Int) :
    ((flightsAll db organizationId).map val).sum
      = total (isCounted db organizationId) val db.flights.rows
        + total (fun f => !isCounted db organizationId f) val (flightsAll db organizationId) := by
  have hall : ((flightsAll db organizationId).map val).sum
      = total (fun _ => true) val (flightsAll db organizationId) := by
    show _ = (((flightsAll db organizationId).filter fun _ => true).map val).sum
    rw [List.filter_true]
  have hcounted : total (isCounted db organizationId) val (flightsAll db organizationId)
      = total (isCounted db organizationId) val db.flights.rows := by
    show (((db.flights.rows.filter _).filter (isCounted db organizationId)).map val).sum = _
    rw [List.filter_filter]
    refine WindowSum.total_congr fun f _ => ?_
    cases hf : isCounted db organizationId f with
    | false => rfl
    | true =>
      obtain ⟨a, _, ha⟩ := List.any_eq_true.1 hf
      simp only [counts, ofAsset, Bool.and_eq_true] at ha
      rw [ha.1.1]
      rfl
  rw [hall, WindowSum.total_split _ (isCounted db organizationId), ← hcounted]
  simp only [Bool.true_and]

theorem sum_activeBaselines (db : Database) (organizationId : UUID)
    (val : AssetHistoricalBaseline → Int) :
    ((activeBaselines db organizationId).map val).sum
      = total (isCarriedIn db organizationId) val (activeBaselines db organizationId)
        + total (fun b => !isCarriedIn db organizationId b) val (activeBaselines db organizationId) := by
  have hall : ((activeBaselines db organizationId).map val).sum
      = total (fun _ => true) val (activeBaselines db organizationId) := by
    show _ = (((activeBaselines db organizationId).filter fun _ => true).map val).sum
    rw [List.filter_true]
  rw [hall, WindowSum.total_split _ (isCarriedIn db organizationId)]
  simp only [Bool.true_and]

theorem totalCycles_eq (db : Database) (organizationId : UUID) :
    totalCycles db organizationId
      = ((liveAssets db organizationId).map (cyclesOf db organizationId)).sum
        + (total (fun b => !isCarriedIn db organizationId b) AssetHistoricalBaseline.flightCycles
            (activeBaselines db organizationId)
          + total (fun f => !isCounted db organizationId f) Flight.cycles
            (flightsAll db organizationId)) := by
  have hassets : ((liveAssets db organizationId).map (cyclesOf db organizationId)).sum
      = total (isCarriedIn db organizationId) AssetHistoricalBaseline.flightCycles
          (activeBaselines db organizationId)
        + total (isCounted db organizationId) Flight.cycles db.flights.rows := by
    rw [total_isCarriedIn, total_isCounted, ← List.sum_map_add]
    rfl
  rw [totalCycles, baselineCyclesSum, totalFlightCyclesRaw, sum_activeBaselines, sum_flightsAll,
    hassets]
  omega

theorem sum_residue (fl : ℚ → ℚ) (db : Database) (organizationId : UUID)
    (bs : List AssetHistoricalBaseline) :
    (bs.map (residue fl db organizationId)).sum
      = 60 * (bs.map AssetHistoricalBaseline.flightHours).sum
        - total (isCarriedIn db organizationId) (fun b => (carryIn fl b).1) bs := by
  induction bs with
  | nil => simp [total]
  | cons b bs ih =>
    rw [List.map_cons, List.sum_cons, ih, List.map_cons, List.sum_cons, residue]
    by_cases hb : isCarriedIn db organizationId b = true
    · rw [WindowSum.total_cons_pos hb, if_pos hb]
      push_cast
      ring
    · rw [WindowSum.total_cons_neg hb, if_neg hb]
      ring

/-- The minutes that the summary adds beyond those of the assets. -/
theorem fleetMinutes_eq (fl : ℚ → ℚ) (db : Database) (organizationId : UUID) :
    fleetMinutes db organizationId
      = (((liveAssets db organizationId).map (minutesOf fl db organizationId)).sum : Int)
        + (((activeBaselines db organizationId).map (residue fl db organizationId)).sum
          + (total (fun f => !isCounted db organizationId f) Flight.durationMinutes
            (flightsAll db organizationId) : Int)) := by
  have hassets : ((liveAssets db organizationId).map (minutesOf fl db organizationId)).sum
      = total (isCarriedIn db organizationId) (fun b => (carryIn fl b).1)
          (activeBaselines db organizationId)
        + total (isCounted db organizationId) Flight.durationMinutes db.flights.rows := by
    rw [total_isCarriedIn, total_isCounted, ← List.sum_map_add]
    rfl
  have hhours : baselineHoursSum db organizationId id
      = ((activeBaselines db organizationId).map AssetHistoricalBaseline.flightHours).sum := by
    rw [baselineHoursSum, List.sum_eq_foldl, List.foldl_map]
    rfl
  rw [fleetMinutes, hhours, totalFlightMinutesRaw, sum_flightsAll, hassets, sum_residue]
  push_cast
  ring

theorem fleetTotalsAgree_iff (fl : ℚ → ℚ) (db : Database) (organizationId : UUID) :
    FleetTotalsAgree fl db organizationId ↔
      total (fun b => !isCarriedIn db organizationId b) AssetHistoricalBaseline.flightCycles
          (activeBaselines db organizationId)
        + total (fun f => !isCounted db organizationId f) Flight.cycles
          (flightsAll db organizationId) = 0 ∧
      ((activeBaselines db organizationId).map (residue fl db organizationId)).sum
        + (total (fun f => !isCounted db organizationId f) Flight.durationMinutes
          (flightsAll db organizationId) : Int) = 0 := by
  obtain ⟨us, hus, hminutes, hcycles⟩ := mapM_getUtilization fl (liveAssets db organizationId)
    fun a ha => ha
  constructor
  · rintro ⟨us', hus', htotalCycles, htotalMinutes⟩
    rw [hus] at hus'
    cases hus'
    rw [hcycles, totalCycles_eq] at htotalCycles
    rw [hminutes, fleetMinutes_eq fl] at htotalMinutes
    exact ⟨by omega, by linarith⟩
  · rintro ⟨hnoCycles, hnoMinutes⟩
    refine ⟨us, hus, ?_, ?_⟩
    · rw [hcycles, totalCycles_eq, hnoCycles, Int.add_zero]
    · rw [hminutes, fleetMinutes_eq fl, hnoMinutes, add_zero]

end Totals

/-- Ten hours and five cycles, at the time 1000. -/
def tenHours : AssetHistoricalBaseline where
  id := 0
  organizationId := 0
  assetId := 0
  flightHours := 10
  flightCycles := 5
  effectiveAt := 1000

def oneFlight (flownAt : DateTime) : Database where
  assets := Table.single { id := 0, organizationId := 0 }
  baselines := Table.single tenHours
  flights := Table.single
    { id := 0, organizationId := 0, assetId := 0, flownAt, durationMinutes := 60 }

end FleetTotals
end AeroComply
