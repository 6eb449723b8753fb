import Mathlib.Algebra.Order.Monoid.Prod
import AeroComply.Services.MaintenanceDue

/-!
# DueOrder — which way the due status of an asset moves

The usage of `_evaluate_for_asset` is that since the day of the last accomplishment.  A baseline
that takes effect on or after that day is carried in, so the usage goes down as the day moves on
wherever the baseline lies.

`due_status_ordered`: a flight never lowers the status, an accomplishment never raises it, and one
that is older than the latest changes nothing.
-/

namespace AeroComply

open Relational (Table)
open WindowSum (NoEarlier)

namespace FlightService

/-! ## Usage since an instant -/

section Since

variable {fl : ℚ → ℚ} {db : Database} {org assetId : UUID} {since since' hi : Option DateTime}

/-- No flight and no baseline counts backwards. -/
structure NonNegative (db : Database) : Prop where
  flights : ∀ f ∈ db.flights.rows, 0 ≤ f.durationMinutes ∧ 0 ≤ f.cycles
  baselines : ∀ b ∈ db.baselines.rows, 0 ≤ b.flightHours ∧ 0 ≤ b.flightCycles

/-- What `get_utilization` adds up, in minutes and in cycles. -/
def usageSince (fl : ℚ → ℚ) (db : Database) (org assetId : UUID) (since hi : Option DateTime) :
    Int × Int :=
  (baselineTerms fl (activeBaseline db org assetId) since).1 +
    flownTotals db org assetId (baselineTerms fl (activeBaseline db org assetId) since).2 hi

theorem flownTotals_nonneg (h : NonNegative db) : 0 ≤ flownTotals db org assetId since hi :=
  ⟨WindowSum.total_nonneg fun f hf => (h.flights f hf).1,
    WindowSum.total_nonneg fun f hf => (h.flights f hf).2⟩

theorem flownTotals_anti (h : NonNegative db) (hlater : NoEarlier since since') :
    flownTotals db org assetId since' hi ≤ flownTotals db org assetId since hi :=
  ⟨WindowSum.total_within_anti hlater hi _ _ fun f hf => (h.flights f hf).1,
    WindowSum.total_within_anti hlater hi _ _ fun f hf => (h.flights f hf).2⟩

theorem carryIn_nonneg (hfl : Monotone fl) (hzero : fl 0 = 0) {b : AssetHistoricalBaseline}
    (h : 0 ≤ b.flightHours ∧ 0 ≤ b.flightCycles) : 0 ≤ carryIn fl b := by
  refine ⟨?_, h.2⟩
  have hhours : (0 : ℚ) ≤ fl (b.flightHours * 60) := by
    rw [← hzero]
    exact hfl (mul_nonneg h.1 (by norm_num))
  have hround := nearest_roundHalfEven.monotone hhours
  have hzero' := nearest_roundHalfEven.intCast 0
  rw [Int.cast_zero] at hzero'
  rwa [hzero'] at hround

theorem carried_nonneg (hfl : Monotone fl) (hzero : fl 0 = 0) (h : NonNegative db)
    {b : AssetHistoricalBaseline} (hb : activeBaseline db org assetId = some b) :
    0 ≤ carryIn fl b :=
  carryIn_nonneg hfl hzero (h.baselines b (Table.mem_select.1 (mem_of_latestEffective hb)).1)

/-- **USAGE GOES DOWN AS ITS START MOVES ON**, wherever the baseline lies. -/
theorem usageSince_anti (db : Database) (org assetId : UUID) (hi : Option DateTime)
    (hfl : Monotone fl) (hzero : fl 0 = 0) (h : NonNegative db) (hlater : NoEarlier since since') :
    usageSince fl db org assetId since' hi ≤ usageSince fl db org assetId since hi := by
  rw [usageSince, usageSince]
  cases hbl : activeBaseline db org assetId with
  | none => exact add_le_add le_rfl (flownTotals_anti h hlater)
  | some b =>
    have hcarried := carried_nonneg hfl hzero h hbl
    -- past the baseline, its carry-in is gone and the window starts later
    have hpast : ∀ a, ¬a ≤ b.effectiveAt →
        (0, 0) + flownTotals db org assetId (some a) hi ≤
          carryIn fl b + flownTotals db org assetId (some b.effectiveAt) hi := by
      intro a ha
      refine add_le_add hcarried (flownTotals_anti h ?_)
      rintro _ ⟨⟩
      exact ⟨a, rfl, le_of_lt (not_le.1 ha)⟩
    cases since' with
    | none =>
      cases since with
      | none => exact le_rfl
      | some a =>
        obtain ⟨_, hnone, _⟩ := hlater a rfl
        cases hnone
    | some a' =>
      by_cases ha' : a' ≤ b.effectiveAt
      · -- both windows start with the baseline
        rw [baselineTerms_carried fl ha']
        cases since with
        | none => exact le_rfl
        | some a =>
          obtain ⟨_, ⟨⟩, hle⟩ := hlater a rfl
          rw [baselineTerms_carried fl (le_trans hle ha')]
      · rw [baselineTerms_past fl ha']
        cases since with
        | none => exact hpast a' ha'
        | some a =>
          by_cases ha : a ≤ b.effectiveAt
          · rw [baselineTerms_carried fl ha]
            exact hpast a' ha'
          · rw [baselineTerms_past fl ha]
            exact add_le_add le_rfl (flownTotals_anti h hlater)

theorem usageSince_le_of_flight {f : Flight} {flights : Table Flight}
    (hadd : db.flights.insert? f = some flights) (hf : 0 ≤ f.durationMinutes ∧ 0 ≤ f.cycles) :
    usageSince fl db org assetId since hi
      ≤ usageSince fl { db with flights } org assetId since hi := by
  have hmore : ∀ x ∈ [f], 0 ≤ x.durationMinutes ∧ 0 ≤ x.cycles := by
    intro x hx
    rw [List.mem_singleton.1 hx]
    exact hf
  refine add_le_add le_rfl ?_
  rw [flownTotals, flownTotals]
  dsimp only
  rw [(Table.insert?_eq_some hadd).2]
  exact ⟨WindowSum.total_append_le fun x hx => (hmore x hx).1,
    WindowSum.total_append_le fun x hx => (hmore x hx).2⟩

theorem getUtilization_usage (fl : ℚ → ℚ) {asset : Asset}
    (h : db.getAsset org assetId = .ok asset) :
    ∃ u, getUtilization fl db org assetId since hi = .ok u ∧
      (u.totalMinutes, u.totalCycles) = usageSince fl db org assetId since hi :=
  (totals_eq_ok fl).1 (totals_of_live fl h)

end Since

end FlightService

namespace MaintenanceService

open FlightService (NonNegative usageSince usageSince_anti usageSince_le_of_flight
  getUtilization_usage getUtilization)

/-! ## The order of the statuses -/

/-- NOT_DUE, DUE_SOON and OVERDUE in their order; UNKNOWN has no place in it. -/
def DueStatus.severity : DueStatus → Option Nat
  | .notDue => some 0
  | .dueSoon => some 1
  | .overdue => some 2
  | .unknown => none

/-- Both statuses are known, and the second is no lower. -/
def DueStatus.AtMost (s s' : DueStatus) : Prop :=
  ∃ m n, s.severity = some m ∧ s'.severity = some n ∧ m ≤ n

/-- The two evaluations fail alike, or give statuses in this order. -/
def StatusAtMost : (x y : Except Error MaintenanceDueItem) → Prop
  | .ok i, .ok j => i.dueStatus.AtMost j.dueStatus
  | .error e, .error e' => e = e'
  | _, _ => False

/-- FLIGHT_HOURS or FLIGHT_CYCLES, with its interval. -/
def UsageBased (r : MaintenanceRequirement) : Prop :=
  (r.intervalType = MaintenanceIntervalType.flightHours ∧ r.fhInterval ≠ none) ∨
    (r.intervalType = MaintenanceIntervalType.flightCycles ∧ r.fcInterval ≠ none)

section Order

variable {fl : ℚ → ℚ} {db : Database} {today : Date} {org assetId : UUID}
  {requirement : MaintenanceRequirement}

theorem usageInterval_of_usageBased (h : UsageBased requirement) :
    ∃ interval, usageInterval requirement = some interval := by
  rw [usageInterval]
  rcases h with ⟨htype, hinterval⟩ | ⟨htype, hinterval⟩
  · rw [htype, if_pos (by decide)]
    exact Option.ne_none_iff_exists'.1 hinterval
  · rw [htype, if_neg (by decide), if_pos (by decide)]
    exact Option.ne_none_iff_exists'.1 hinterval

theorem UsageBased.ne_calendar (h : UsageBased requirement) :
    requirement.intervalType ≠ MaintenanceIntervalType.calendar := by
  rcases h with ⟨htype, _⟩ | ⟨htype, _⟩
  · rw [htype]
    decide
  · rw [htype]
    decide

theorem usageDueStatusFor_atMost (h : UsageBased requirement) {usage usage' : ℚ}
    (hle : usage ≤ usage') :
    (usageDueStatusFor fl requirement usage).1.AtMost
      (usageDueStatusFor fl requirement usage').1 := by
  obtain ⟨interval, hinterval⟩ := usageInterval_of_usageBased h
  rw [usageDueStatusFor, usageDueStatusFor, hinterval]
  dsimp only
  by_cases hover : (interval : ℚ) ≤ usage
  · rw [if_pos hover, if_pos (hover.trans hle)]
    exact ⟨2, 2, rfl, rfl, le_rfl⟩
  rw [if_neg hover]
  by_cases hover' : (interval : ℚ) ≤ usage'
  · rw [if_pos hover']
    split
    · exact ⟨1, 2, rfl, rfl, by decide⟩
    · exact ⟨0, 2, rfl, rfl, by decide⟩
  rw [if_neg hover']
  by_cases hsoon : fl (fl interval * fl (9 / 10)) ≤ usage
  · rw [if_pos hsoon, if_pos (hsoon.trans hle)]
    exact ⟨1, 1, rfl, rfl, le_rfl⟩
  rw [if_neg hsoon]
  split
  · exact ⟨0, 1, rfl, rfl, by decide⟩
  · exact ⟨0, 0, rfl, rfl, le_rfl⟩

/-- The minutes in hours, or the cycles. -/
def usageFigure (fl : ℚ → ℚ) (requirement : MaintenanceRequirement) (x : Int × Int) : ℚ :=
  if requirement.intervalType = MaintenanceIntervalType.flightHours then fl (x.1 / 60) else fl x.2

theorem usageFigure_mono (hfl : Monotone fl) {x y : Int × Int} (h : x ≤ y) :
    usageFigure fl requirement x ≤ usageFigure fl requirement y := by
  have hminutes : (x.1 : ℚ) ≤ y.1 := Int.cast_le.2 h.1
  rw [usageFigure, usageFigure]
  split
  · exact hfl (by linarith)
  · exact hfl (Int.cast_le.2 h.2)

/-- The usage that decides. -/
def usageSinceLast (fl : ℚ → ℚ) (db : Database) (org assetId : UUID)
    (requirement : MaintenanceRequirement) : Int × Int :=
  usageSince fl db org assetId ((lastDate db org assetId requirement.id).map midnight) none

/-- **THE STATUS OF AN ASSET** is that of its usage since the last accomplishment. -/
theorem evaluateForAsset_usage (today : Date) (h : UsageBased requirement) {asset : Asset}
    (hasset : db.getAsset org assetId = .ok asset) :
    ∃ item, evaluateForAsset fl db today org assetId requirement = .ok item ∧
      item.dueStatus = (usageDueStatusFor fl requirement
        (usageFigure fl requirement (usageSinceLast fl db org assetId requirement))).1 := by
  obtain ⟨u, hu, husage⟩ := getUtilization_usage fl hasset
  rw [evaluateForAsset, if_neg h.ne_calendar, hu]
  refine ⟨_, rfl, ?_⟩
  rw [usageFigure, usageSinceLast, ← husage]

theorem evaluateForAsset_gone (h : UsageBased requirement) {e : Error}
    (hasset : db.getAsset org assetId = .error e) :
    evaluateForAsset fl db today org assetId requirement = .error e := by
  rw [evaluateForAsset, if_neg h.ne_calendar, getUtilization, hasset]
  rfl

theorem statusAtMost_of_usage (hfl : Monotone fl) (h : UsageBased requirement) {db' : Database}
    (hassets : db'.assets = db.assets)
    (hle : usageSinceLast fl db org assetId requirement ≤
      usageSinceLast fl db' org assetId requirement) :
    StatusAtMost (evaluateForAsset fl db today org assetId requirement)
      (evaluateForAsset fl db' today org assetId requirement) := by
  have hsame : db'.getAsset org assetId = db.getAsset org assetId := by
    rw [Database.getAsset, Database.getAsset, hassets]
  cases hasset : db.getAsset org assetId with
  | error e =>
    rw [evaluateForAsset_gone h hasset, evaluateForAsset_gone h (hsame.trans hasset)]
    exact rfl
  | ok asset =>
    obtain ⟨item, hitem, hstatus⟩ := evaluateForAsset_usage today h hasset
    obtain ⟨item', hitem', hstatus'⟩ :=
      evaluateForAsset_usage today h (hsame.trans hasset)
    rw [hitem, hitem']
    show item.dueStatus.AtMost item'.dueStatus
    rw [hstatus, hstatus']
    exact usageDueStatusFor_atMost h (usageFigure_mono hfl hle)

/-! ## The day of the last accomplishment -/

theorem midnight_mono {d d' : Date} (h : d ≤ d') : midnight d ≤ midnight d' :=
  Int.mul_le_mul_of_nonneg_right h (by decide)

def accomplishes (org assetId requirementId : UUID) (a : MaintenanceAccomplishment) : Bool :=
  a.organizationId = org && a.requirementId = requirementId && a.assetId = some assetId

theorem latest_eq (db : Database) (org assetId requirementId : UUID) :
    latestAccomplishmentForAsset db org assetId requirementId =
      newestBy MaintenanceAccomplishment.accomplishedAt
        (db.accomplishments.select (accomplishes org assetId requirementId)) := rfl

variable {accomplishments : Table MaintenanceAccomplishment}

theorem latest_of_accomplishment {a : MaintenanceAccomplishment}
    (hadd : db.accomplishments.insert? a = some accomplishments) (requirementId : UUID) :
    (∀ latest, latestAccomplishmentForAsset db org assetId requirementId = some latest →
        latest.accomplishedAt < a.accomplishedAt) ∧
      latestAccomplishmentForAsset { db with accomplishments } org assetId requirementId = some a ∨
    latestAccomplishmentForAsset { db with accomplishments } org assetId requirementId =
      latestAccomplishmentForAsset db org assetId requirementId := by
  rw [latest_eq, latest_eq, Table.select_insert? hadd]
  by_cases ha : accomplishes org assetId requirementId a = true
  · rw [List.filter_cons_of_pos ha, List.filter_nil, newestBy_append_singleton]
    cases newestBy MaintenanceAccomplishment.accomplishedAt
        (db.accomplishments.select (accomplishes org assetId requirementId)) with
    | none =>
      refine Or.inl ⟨?_, rfl⟩
      intro _ hnone
      cases hnone
    | some latest =>
      dsimp only
      by_cases hlt : latest.accomplishedAt < a.accomplishedAt
      · rw [if_pos hlt]
        refine Or.inl ⟨?_, rfl⟩
        rintro _ ⟨⟩
        exact hlt
      · rw [if_neg hlt]
        exact Or.inr rfl
  · rw [List.filter_cons_of_neg ha, List.filter_nil, List.append_nil]
    exact Or.inr rfl

theorem lastDate_of_accomplishment {a : MaintenanceAccomplishment}
    (hadd : db.accomplishments.insert? a = some accomplishments) (requirementId : UUID) :
    NoEarlier ((lastDate db org assetId requirementId).map midnight)
      ((lastDate { db with accomplishments } org assetId requirementId).map midnight) := by
  rw [lastDate, lastDate]
  intro t ht
  obtain ⟨d, hd, rfl⟩ := Option.map_eq_some_iff.1 ht
  obtain ⟨latest, hlatest, rfl⟩ := Option.map_eq_some_iff.1 hd
  rcases latest_of_accomplishment hadd requirementId with ⟨hlt, hnew⟩ | hsame
  · rw [hnew]
    exact ⟨_, rfl, midnight_mono (le_of_lt (hlt latest hlatest))⟩
  · rw [hsame, hlatest]
    exact ⟨_, rfl, le_rfl⟩

theorem lastDate_of_older {a latest : MaintenanceAccomplishment} {requirementId : UUID}
    (hadd : db.accomplishments.insert? a = some accomplishments)
    (hlatest : latestAccomplishmentForAsset db org assetId requirementId = some latest)
    (hold : a.accomplishedAt < latest.accomplishedAt) :
    lastDate { db with accomplishments } org assetId requirementId =
      lastDate db org assetId requirementId := by
  rw [lastDate, lastDate]
  rcases latest_of_accomplishment hadd requirementId with ⟨hlt, _⟩ | hsame
  · exact absurd (hlt latest hlatest) (lt_asymm hold)
  · rw [hsame]

/-- **WHICH WAY THE STATUS MOVES**: a flight never lowers it, an accomplishment never raises it, and
one that is older than the latest changes nothing. -/
structure MovesRightWay (db : Database) (today : Date) (org assetId : UUID)
    (requirement : MaintenanceRequirement) : Prop where
  flight : ∀ f flights, db.flights.insert? f = some flights →
    0 ≤ f.durationMinutes ∧ 0 ≤ f.cycles →
    StatusAtMost (evaluateForAsset id db today org assetId requirement)
      (evaluateForAsset id { db with flights } today org assetId requirement)
  accomplishment : ∀ a accomplishments, db.accomplishments.insert? a = some accomplishments →
    StatusAtMost (evaluateForAsset id { db with accomplishments } today org assetId requirement)
      (evaluateForAsset id db today org assetId requirement)
  older : ∀ a accomplishments latest, db.accomplishments.insert? a = some accomplishments →
    latestAccomplishmentForAsset db org assetId requirement.id = some latest →
    a.accomplishedAt < latest.accomplishedAt →
    evaluateForAsset id { db with accomplishments } today org assetId requirement =
      evaluateForAsset id db today org assetId requirement

/-- **DUE STATUS**: it moves the right way, wherever the baseline lies. -/
theorem due_status_ordered (hdb : NonNegative db) (h : UsageBased requirement) (today : Date)
    (org assetId : UUID) : MovesRightWay db today org assetId requirement := by
  refine ⟨?_, ?_, ?_⟩
  · intro f flights hadd hf
    exact statusAtMost_of_usage monotone_id h rfl (usageSince_le_of_flight hadd hf)
  · intro a accomplishments hadd
    refine statusAtMost_of_usage monotone_id h rfl ?_
    exact usageSince_anti db org assetId none monotone_id rfl hdb
      (lastDate_of_accomplishment hadd requirement.id)
  · intro a accomplishments latest hadd hlatest hold
    rw [evaluateForAsset, evaluateForAsset, lastDate_of_older hadd hlatest hold]
    rfl

end Order

/-- A drone with a carry-in, a flight after it, and an accomplishment between the two. -/
def agedDrone : Database where
  assets := .single { id := 1, organizationId := 1, assetType := AssetType.drone }
  flights := .single
    { id := 3, organizationId := 1, assetId := 1, flownAt := 300000000000, durationMinutes := 90 }
  baselines := .single
    { id := 5, organizationId := 1, assetId := 1, flightHours := 100, flightCycles := 50
      effectiveAt := 1000 }
  accomplishments := .single
    { id := 6, organizationId := 1, requirementId := 4, assetId := some 1, accomplishedAt := 2 }

def hundredHours : MaintenanceRequirement :=
  { id := 4, organizationId := 1, intervalType := MaintenanceIntervalType.flightHours
    fhInterval := some 100 }

theorem agedDrone_nonNegative : NonNegative agedDrone := by
  refine ⟨?_, ?_⟩
  · intro f hf
    rw [List.mem_singleton.1 hf]
    exact ⟨by decide, by decide⟩
  · intro b hb
    rw [List.mem_singleton.1 hb]
    exact ⟨by decide, by decide⟩

theorem agedDrone_ordered : MovesRightWay agedDrone 10 1 1 hundredHours :=
  due_status_ordered agedDrone_nonNegative (Or.inl ⟨rfl, by decide⟩) 10 1 1

end MaintenanceService
end AeroComply
