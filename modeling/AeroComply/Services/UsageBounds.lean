import AeroComply.Services.PartWindows
import AeroComply.Services.UtilizationViews

/-!
# UsageBounds — usage since maintenance against lifetime usage

`_evaluate_for_component` takes both figures of an item from the same windows, at two cut-offs.
`_evaluate_for_battery` takes the usage since the last accomplishment from the windows and the
lifetime usage from `cycle_count`, which `record_flight` raises for the batteries that are on the
asset when the flight is recorded.

`Covers` says that the counter of a battery covers what its windows can be charged with.  A call
breaks it by recording a flight that a window contains and no counter is raised for, by opening a
window on flights or carry-ins that lie ahead, or by a carry-in on a window that is there.
-/

namespace AeroComply

open Relational (Table)
open WindowSum (total within NoEarlier)

namespace UsageBounds

open FlightService InstallationService MaintenanceService PartWindows

/-! ## What the loop charges since a cut-off -/

section Loop

variable {fl : ℚ → ℚ} {db : Database} {org : UUID} {since : Option DateTime}

/-- What the loop adds for a window. -/
def charge (fl : ℚ → ℚ) (db : Database) (org : UUID) (since : Option DateTime)
    (w : InstallationWindow) : Int × Int :=
  if isSkipped w since then 0
  else usageSince fl db org w.assetId (some (windowStart w since)) w.removedAt

theorem usageSince_of_ok {assetId : UUID} {lo hi : Option DateTime} {u : Utilization}
    (h : getUtilization fl db org assetId lo hi = .ok u) :
    (u.totalMinutes, u.totalCycles) = usageSince fl db org assetId lo hi := by
  have htotals := (totals_eq_ok fl).2 ⟨u, h, rfl⟩
  obtain ⟨asset, hasset⟩ := totals_ok fl htotals
  rw [totals_of_live fl hasset] at htotals
  exact (Except.ok.inj htotals).symm

variable {windows : List InstallationWindow}

theorem addWindows_eq_ok :
    ∀ {acc x : Int × Int}, addWindows fl db org since windows acc = .ok x →
      x = acc + (windows.map (charge fl db org since)).sum := by
  induction windows with
  | nil =>
    intro acc x h
    cases h
    exact (add_zero acc).symm
  | cons w windows ih =>
    intro acc x h
    rw [addWindows] at h
    rw [List.map_cons, List.sum_cons, charge]
    by_cases hskip : isSkipped w since = true
    · rw [if_pos hskip] at h ⊢
      rw [zero_add]
      exact ih h
    · rw [if_neg hskip] at h ⊢
      obtain ⟨u, hu, h⟩ := bind_eq_ok.1 h
      rw [ih h, ← usageSince_of_ok hu, ← add_assoc]
      rfl

theorem usageAcrossWindows_eq_ok {x : ℚ × ℚ}
    (h : usageAcrossWindows fl db org windows since = .ok x) :
    x = (fl ((windows.map (charge fl db org since)).sum.1 / 60),
      fl (windows.map (charge fl db org since)).sum.2) := by
  obtain ⟨totals, htotals, h⟩ := bind_eq_ok.1 h
  cases h
  rw [addWindows_eq_ok htotals]
  simp only [Prod.mk_zero_zero, zero_add]

theorem usageSince_nonneg (hfl : Monotone fl) (hzero : fl 0 = 0) (hdb : NonNegative db)
    (assetId : UUID) (lo hi : Option DateTime) : 0 ≤ usageSince fl db org assetId lo hi := by
  rw [usageSince]
  refine add_nonneg ?_ (flownTotals_nonneg hdb)
  cases hbl : activeBaseline db org assetId with
  | none => exact le_rfl
  | some b =>
    have hcarried := carried_nonneg hfl hzero hdb hbl
    cases lo with
    | none => exact hcarried
    | some a =>
      by_cases ha : a ≤ b.effectiveAt
      · rw [baselineTerms_carried fl ha]
        exact hcarried
      · rw [baselineTerms_past fl ha]
        exact le_rfl

theorem charge_anti (hfl : Monotone fl) (hzero : fl 0 = 0) (hdb : NonNegative db)
    (since : Option DateTime) (w : InstallationWindow) :
    charge fl db org since w ≤ charge fl db org none w := by
  cases since with
  | none => exact le_rfl
  | some s =>
    rw [charge, charge]
    have hstart : windowStart w none ≤ windowStart w (some s) := le_max_left _ _
    by_cases hskip : isSkipped w none = true
    · have hskip' : isSkipped w (some s) = true := by
        rw [isSkipped] at hskip ⊢
        cases hr : w.removedAt with
        | none =>
          rw [hr] at hskip
          cases hskip
        | some removedAt =>
          rw [hr] at hskip
          exact decide_eq_true (le_trans (of_decide_eq_true hskip) hstart)
      rw [if_pos hskip, if_pos hskip']
    · rw [if_neg hskip]
      split
      · exact usageSince_nonneg hfl hzero hdb _ _ _
      · refine usageSince_anti db org w.assetId w.removedAt hfl hzero hdb ?_
        intro a ha
        cases ha
        exact ⟨_, rfl, hstart⟩

theorem sum_charge_anti (hfl : Monotone fl) (hzero : fl 0 = 0) (hdb : NonNegative db)
    (org : UUID) (since : Option DateTime) (windows : List InstallationWindow) :
    (windows.map (charge fl db org since)).sum ≤ (windows.map (charge fl db org none)).sum :=
  List.sum_le_sum fun w _ => charge_anti hfl hzero hdb since w

end Loop

/-! ## The two figures of an item -/

/-- If the item has both figures, the usage since maintenance is no more than the lifetime's. -/
def FiguresOrdered (item : PartDueItem) : Prop :=
  ∀ current ∈ item.currentUsage, ∀ lifetime ∈ item.lifetimeUsage, current ≤ lifetime

theorem ordered_of_known {known : Bool} {current lifetime : ℚ} (h : current ≤ lifetime) :
    ∀ x ∈ (if known then some current else none), ∀ y ∈ (if known then some lifetime else none),
      x ≤ y := by
  cases known with
  | false =>
    intro x hx
    cases hx
  | true =>
    rintro _ ⟨⟩ _ ⟨⟩
    exact h

section Figures

variable {fl : ℚ → ℚ} {db : Database} {org : UUID}

variable {requirement : MaintenanceRequirement} {windows : List InstallationWindow} {count : Int}
  {w : InstallationWindow} {item : PartDueItem}

theorem evaluateForComponent_ordered (hfl : Monotone fl) (hzero : fl 0 = 0) (hdb : NonNegative db)
    {component : Component} (h : evaluateForComponent fl db org component requirement = .ok item) :
    FiguresOrdered item := by
  obtain ⟨usage, husage, h⟩ := bind_eq_ok.1 h
  obtain ⟨lifetime, hlifetime, h⟩ := bind_eq_ok.1 h
  cases h
  have hle := sum_charge_anti hfl hzero hdb org
    ((lastDateForComponent db org requirement.id component.id).map midnight)
    (windowsOfComponent db org component)
  have hhours : usage.1 ≤ lifetime.1 := by
    rw [usageAcrossWindows_eq_ok husage, usageAcrossWindows_eq_ok hlifetime]
    refine hfl ?_
    gcongr
    exact hle.1
  have hcycles : usage.2 ≤ lifetime.2 := by
    rw [usageAcrossWindows_eq_ok husage, usageAcrossWindows_eq_ok hlifetime]
    exact hfl (Int.cast_le.2 hle.2)
  have hfigure : (if requirement.intervalType = MaintenanceIntervalType.componentHours then usage.1
      else usage.2) ≤ if requirement.intervalType = MaintenanceIntervalType.componentHours then
        lifetime.1 else lifetime.2 := by
    split
    · exact hhours
    · exact hcycles
  exact ordered_of_known hfigure

/-- The cycles of the flights in some windows. -/
def cyclesFlown (db : Database) (org : UUID) (windows : List InstallationWindow) : Int :=
  (windows.map fun w => (flownOf db org w).2).sum

/-- No carry-in of the asset counts for the window. -/
def CarriesNothing (db : Database) (org : UUID) (w : InstallationWindow) : Prop :=
  ∀ bl ∈ activeBaseline db org w.assetId, w.installedAt ≤ bl.effectiveAt → bl.flightCycles = 0

/-- A counter covers what the windows can be charged with. -/
structure Covers (db : Database) (org : UUID) (windows : List InstallationWindow) (count : Int) :
    Prop where
  flown : cyclesFlown db org windows ≤ count
  carriesNothing : ∀ w ∈ windows, isSkipped w none = false → CarriesNothing db org w

theorem flownOf_nonneg (hdb : NonNegative db) (w : InstallationWindow) : 0 ≤ flownOf db org w :=
  flownTotals_nonneg hdb

/-- Without a carry-in, a window is charged with its own flights at most. -/
theorem charge_le_flown (hdb : NonNegative db)
    (hcarry : isSkipped w none = false → CarriesNothing db org w) :
    (charge fl db org none w).2 ≤ (flownOf db org w).2 := by
  rw [charge]
  cases hskip : isSkipped w none with
  | true => exact (flownOf_nonneg hdb w).2
  | false =>
    have hlater : ∀ hi : Option DateTime, NoEarlier (some w.installedAt) hi →
        (flownTotals db org w.assetId hi w.removedAt).2 ≤ (flownOf db org w).2 :=
      fun hi h => (flownTotals_anti hdb h).2
    rw [if_neg Bool.false_ne_true, usageSince]
    show (baselineTerms fl _ (some w.installedAt)).1.2
      + (flownTotals db org w.assetId (baselineTerms fl _ (some w.installedAt)).2 w.removedAt).2 ≤ _
    cases hbl : activeBaseline db org w.assetId with
    | none =>
      rw [baselineTerms, zero_add]
      refine hlater _ fun a ha => ⟨a, ha, le_rfl⟩
    | some bl =>
      by_cases hle : w.installedAt ≤ bl.effectiveAt
      · rw [baselineTerms_carried fl hle]
        dsimp only [carryIn]
        rw [hcarry hskip bl hbl hle, zero_add]
        refine hlater _ fun a ha => ⟨_, rfl, ?_⟩
        cases ha
        exact hle
      · rw [baselineTerms_past fl hle]
        dsimp only
        rw [zero_add]
        exact hlater _ fun a ha => ⟨a, ha, le_rfl⟩

theorem Covers.charge_le (h : Covers db org windows count) (hdb : NonNegative db) :
    (windows.map (charge fl db org none)).sum.2 ≤ count := by
  have hsnd : (windows.map (charge fl db org none)).sum.2
      = (windows.map fun w => (charge fl db org none w).2).sum := by
    rw [← AddMonoidHom.coe_snd, map_list_sum, List.map_map]
    rfl
  rw [hsnd]
  refine le_trans (List.sum_le_sum fun w hw => ?_) h.flown
  exact charge_le_flown hdb (h.carriesNothing w hw)

theorem evaluateForBattery_ordered (hfl : Monotone fl) (hzero : fl 0 = 0) (hdb : NonNegative db)
    {battery : Battery}
    (hcovers : Covers db org (windowsOfBattery db org battery) battery.cycleCount)
    (h : evaluateForBattery fl db org battery requirement = .ok item) : FiguresOrdered item := by
  obtain ⟨usage, husage, h⟩ := bind_eq_ok.1 h
  cases h
  have hle := sum_charge_anti hfl hzero hdb org
    ((lastDateForBattery db org requirement.id battery.id).map midnight)
    (windowsOfBattery db org battery)
  have hcycles : usage.2 ≤ fl battery.cycleCount := by
    rw [usageAcrossWindows_eq_ok husage]
    exact hfl (Int.cast_le.2 (le_trans hle.2 (hcovers.charge_le hdb)))
  intro current hcurrent total htotal
  cases htotal
  rw [Option.mem_def, Option.ite_none_right_eq_some] at hcurrent
  cases hcurrent.2
  exact hcycles

/-! ## What keeps a counter covering its windows -/

theorem flownOf_le_of_shortened (hdb : NonNegative db) {w w' : InstallationWindow}
    (h : Shortened w w') : (flownOf db org w').2 ≤ (flownOf db org w).2 := by
  refine WindowSum.total_mono (fun f hf => (hdb.flights f hf).2) ?_
  intro f _ hin
  simp only [flownIn, within, Bool.and_eq_true] at hin ⊢
  rw [h.assetId, h.installedAt] at hin
  refine ⟨hin.1, hin.2.1, ?_⟩
  rcases h.removedAt with hsame | hnone
  · rw [← hsame]
    exact hin.2.2
  · rw [hnone]

theorem Covers.trim (hdb : NonNegative db) {old new : List InstallationWindow}
    (h : Covers db org old count) (htrim : Trimmed old new) : Covers db org new count := by
  refine ⟨le_trans ?_ h.flown, ?_⟩
  · clear h
    induction htrim with
    | nil =>
      refine List.sum_nonneg ?_
      intro x hx
      obtain ⟨w, _, rfl⟩ := List.mem_map.1 hx
      exact (flownOf_nonneg hdb w).2
    | cons hshort _ ih =>
      rw [cyclesFlown, cyclesFlown, List.map_cons, List.map_cons, List.sum_cons, List.sum_cons]
      exact add_le_add (flownOf_le_of_shortened hdb hshort) ih
    | @cons_right w new old _ ih =>
      rw [cyclesFlown, cyclesFlown, List.map_cons, List.sum_cons]
      exact le_trans ih (le_add_of_nonneg_left (flownOf_nonneg hdb w).2)
  · intro w' hw' hskip bl hbl hle
    obtain ⟨w, hw, hshort⟩ := htrim.exists_mem hw'
    refine h.carriesNothing w hw ?_ bl (hshort.assetId ▸ hbl) (hshort.installedAt ▸ hle)
    refine Bool.eq_false_iff.2 fun hskipped => ?_
    rw [hshort.isSkipped hskipped] at hskip
    cases hskip

theorem Covers.open (h : Covers db org windows count) (hflown : (flownOf db org w).2 = 0)
    (hcarry : CarriesNothing db org w) : Covers db org (windows ++ [w]) count := by
  refine ⟨?_, ?_⟩
  · rw [cyclesFlown, List.map_append, List.sum_append, List.map_singleton, List.sum_singleton,
      hflown, add_zero]
    exact h.flown
  · intro w' hw' hskip
    rcases List.mem_append.1 hw' with hw' | hw'
    · exact h.carriesNothing w' hw' hskip
    · rw [List.mem_singleton.1 hw']
      exact hcarry

theorem Covers.empty (db : Database) (org : UUID) : Covers db org [] 0 := by
  refine ⟨le_rfl, ?_⟩
  intro w hw
  cases hw

end Figures

/-! ## Sequences of calls -/

inductive Action
  | part (a : PartAction)
  | createBaseline (newId : UUID) (organizationId : UUID) (actor : Option UUID) (assetId : UUID)
      (payload : AssetHistoricalBaselineCreateRequest)

def step (u : UnicodeTables) (db : Database) : Action → Except Error Database
  | .part a => PartWindows.step u db a
  | .createBaseline newId org actor assetId payload =>
    createAssetBaseline db newId org actor assetId payload

/-- The windows of a battery, as `_evaluate_for_battery` reads them in its own tenant. -/
def batteryWindows (db : Database) (b : Battery) : List InstallationWindow :=
  windowsOfBattery db b.organizationId b

/-- Nothing of the asset counts from `now` on: no flight that is recorded already, and no cycles
of the baseline. -/
def NothingAhead (db : Database) (org assetId : UUID) (now : DateTime) : Prop :=
  (∀ f ∈ db.flights.rows, ofAsset org assetId f = true → f.flownAt < now) ∧
    ∀ bl ∈ activeBaseline db org assetId, now ≤ bl.effectiveAt → bl.flightCycles = 0

/-- The flight is in no more windows of a battery than its counter is raised for it. -/
def Credited (db : Database) (f : Flight) (updateBattery : Bool) : Prop :=
  ∀ b ∈ db.batteries.rows,
    ((batteryWindows db b).filter fun w => flownIn b.organizationId w f).length
      ≤ if updateBattery && carriedBy f.organizationId f.assetId b then 1 else 0

/-- The cycles of the baseline are carried into no window of a battery. -/
def CarriedIntoNone (db : Database) (org assetId : UUID)
    (payload : AssetHistoricalBaselineCreateRequest) : Prop :=
  payload.flightCycles = 0 ∨ ∀ b ∈ db.batteries.rows, b.organizationId = org →
    ∀ w ∈ batteryWindows db b, w.assetId = assetId → isSkipped w none = false →
      payload.effectiveAt < w.installedAt

/-- What keeps the counter of every battery covering its windows. -/
def KeepsCover (db : Database) : Action → Prop
  | .part (.attachBattery _ now org _ assetId _) => NothingAhead db org assetId now
  | .part (.installBattery _ now org _ _ assetId) => NothingAhead db org assetId now
  | .part (.component (.recordFlight newId _ org _ assetId payload updateBattery)) =>
    Credited db (newFlight newId org assetId payload) updateBattery
  | .part (.component (.recordAssetFlight newId _ org _ assetId payload)) =>
    Credited db (newFlight newId org assetId payload) false
  | .createBaseline _ org _ assetId payload => CarriedIntoNone db org assetId payload
  | _ => True

/-- A call that goes through keeps it. -/
def Careful (u : UnicodeTables) (db : Database) (a : Action) : Prop :=
  (step u db a).isOk = true → KeepsCover db a

instance (db : Database) (org assetId : UUID) (now : DateTime) :
    Decidable (NothingAhead db org assetId now) := inferInstanceAs (Decidable (_ ∧ _))

instance (db : Database) (f : Flight) (updateBattery : Bool) :
    Decidable (Credited db f updateBattery) := inferInstanceAs (Decidable (∀ _ ∈ _, _))

instance (db : Database) (org assetId : UUID) (payload : AssetHistoricalBaselineCreateRequest) :
    Decidable (CarriedIntoNone db org assetId payload) := inferInstanceAs (Decidable (_ ∨ _))

instance (db : Database) (a : Action) : Decidable (KeepsCover db a) := by
  unfold KeepsCover
  split <;> infer_instance

instance (u : UnicodeTables) (db : Database) (a : Action) : Decidable (Careful u db a) :=
  inferInstanceAs (Decidable (_ → _))

/-- The counter of every battery covers its windows. -/
structure Inv (db : Database) : Prop where
  nonneg : NonNegative db
  owned : Owned (batteryPlacement db)
  covers : ∀ b ∈ db.batteries.rows, Covers db b.organizationId (batteryWindows db b) b.cycleCount

section Steps

variable {u : UnicodeTables} {db db' : Database} {org assetId : UUID} {now : DateTime}

theorem Covers.congr {windows : List InstallationWindow} {count : Int}
    (h : Covers db org windows count) (hflights : db'.flights = db.flights)
    (hbaselines : db'.baselines = db.baselines) : Covers db' org windows count := by
  refine ⟨?_, ?_⟩
  · have hflown : cyclesFlown db' org windows = cyclesFlown db org windows := by
      rw [cyclesFlown, cyclesFlown]
      refine congrArg List.sum (List.map_congr_left fun w _ => ?_)
      rw [flownOf, flownOf, hflights]
    rw [hflown]
    exact h.flown
  · intro w hw hskip bl hbl
    refine h.carriesNothing w hw hskip bl ?_
    rw [activeBaseline, hbaselines] at hbl
    exact hbl

theorem NothingAhead.opened (h : NothingAhead db org assetId now) :
    (flownOf db org ⟨assetId, now, none⟩).2 = 0 ∧ CarriesNothing db org ⟨assetId, now, none⟩ := by
  refine ⟨?_, h.2⟩
  refine WindowSum.total_false ?_
  intro f hf
  refine Bool.eq_false_iff.2 fun hin => ?_
  simp only [flownIn, within, Bool.and_eq_true, decide_eq_true_eq] at hin
  exact absurd (h.1 f hf hin.1) (not_lt.2 hin.2.1)

theorem Inv.frame (hinv : Inv db) (hbatteries : db'.batteries = db.batteries)
    (hrows : db'.batteryInstallations = db.batteryInstallations)
    (hflights : db'.flights = db.flights) (hbaselines : db'.baselines = db.baselines) :
    Inv db' := by
  refine ⟨⟨?_, ?_⟩, ?_, ?_⟩
  · rw [hflights]
    exact hinv.nonneg.flights
  · rw [hbaselines]
    exact hinv.nonneg.baselines
  · have hsame : batteryPlacement db' = batteryPlacement db := by
      rw [batteryPlacement, batteryPlacement, hbatteries, hrows]
    rw [hsame]
    exact hinv.owned
  · intro b hb
    rw [hbatteries] at hb
    have hwindows : batteryWindows db' b = batteryWindows db b := by
      rw [batteryWindows, batteryWindows, windowsOfBattery, windowsOfBattery, hrows]
    rw [hwindows]
    exact (hinv.covers b hb).congr hflights hbaselines

theorem covers_placed (b : Battery) (p : Placement Battery) :
    batteryWindows (withBatteries db p) b = partWindows batteryStart p b :=
  windowsOfBattery_eq (withBatteries db p) b

variable {payload : AssetHistoricalBaselineCreateRequest} {p : Placement Battery}
  {actor : Option UUID} {newId : UUID} {f : Flight}

theorem Inv.moves (hinv : Inv db) {move : Battery → Battery} {opened : List InstallationWindow}
    (howned : Owned p) (hmoves : Moves batteryStart (batteryPlacement db) p org move opened)
    (hsame : ∀ b, (move b).organizationId = b.organizationId ∧ (move b).cycleCount = b.cycleCount)
    (hopened : ∀ windows count, Covers db org windows count →
      Covers db org (windows ++ opened) count) :
    Inv (withBatteries db p) := by
  refine ⟨⟨hinv.nonneg.flights, hinv.nonneg.baselines⟩, howned, ?_⟩
  intro b' hb'
  suffices hcovers : Covers db b'.organizationId (batteryWindows (withBatteries db p) b')
      b'.cycleCount from hcovers.congr rfl rfl
  rw [covers_placed]
  rcases hmoves b' hb' with ⟨hb, hwindows⟩ | ⟨b, hb, rfl, rfl, kept, htrim, hwindows⟩
  · rw [hwindows]
    have hcovers := hinv.covers b' hb
    rw [batteryWindows, windowsOfBattery_eq] at hcovers
    exact hcovers
  · have hcovers := hinv.covers b hb
    rw [batteryWindows, windowsOfBattery_eq] at hcovers
    rw [hwindows, (hsame b).1, (hsame b).2]
    exact hopened kept _ (hcovers.trim hinv.nonneg htrim)

theorem Inv.creates (hinv : Inv db) {item : Battery} {opened : InstallationWindow}
    (howned : Owned p) (hcreates : Creates batteryStart (batteryPlacement db) p item opened)
    (hcount : item.cycleCount = 0) (hopened : Covers db item.organizationId [opened] 0) :
    Inv (withBatteries db p) := by
  refine ⟨⟨hinv.nonneg.flights, hinv.nonneg.baselines⟩, howned, ?_⟩
  intro b' hb'
  suffices hcovers : Covers db b'.organizationId (batteryWindows (withBatteries db p) b')
      b'.cycleCount from hcovers.congr rfl rfl
  rw [covers_placed]
  rcases hcreates b' hb' with ⟨hb, hwindows⟩ | ⟨rfl, hwindows⟩
  · rw [hwindows]
    have hcovers := hinv.covers b' hb
    rw [batteryWindows, windowsOfBattery_eq] at hcovers
    exact hcovers
  · rw [hwindows, hcount]
    exact hopened

theorem cyclesFlown_fly (org : UUID) (hflights : db.flights.insert? f = some db'.flights)
    (windows : List InstallationWindow) :
    cyclesFlown db' org windows
      = cyclesFlown db org windows
        + f.cycles * (windows.filter fun w => flownIn org w f).length := by
  induction windows with
  | nil => simp [cyclesFlown]
  | cons w windows ih =>
    rw [cyclesFlown, cyclesFlown, List.map_cons, List.map_cons, List.sum_cons, List.sum_cons]
    rw [cyclesFlown, cyclesFlown] at ih
    rw [ih, flownOf, flownOf, (Table.insert?_eq_some hflights).2]
    dsimp only
    rw [WindowSum.total_append_singleton]
    by_cases hin : flownIn org w f = true
    · rw [if_pos hin, List.filter_cons_of_pos (p := fun w => flownIn org w f) hin,
        List.length_cons]
      push_cast
      ring
    · rw [if_neg hin, List.filter_cons_of_neg (p := fun w => flownIn org w f) hin]
      ring

/-- A flight is recorded; the batteries that it is credited to count its cycles. -/
theorem Inv.fly (hinv : Inv db) {updateBattery : Bool}
    (hflights : db.flights.insert? f = some db'.flights)
    (hpos : 0 ≤ f.durationMinutes ∧ 0 ≤ f.cycles) (hcredited : Credited db f updateBattery)
    (hrows : db'.batteryInstallations = db.batteryInstallations)
    (hbaselines : db'.baselines = db.baselines)
    (hbatteries : db'.batteries = if updateBattery then
      db.batteries.updateWhere (carriedBy f.organizationId f.assetId) (charged f.cycles)
        (fun _ => rfl) else db.batteries) :
    Inv db' := by
  have hnonneg : NonNegative db' := by
    refine ⟨?_, ?_⟩
    · intro x hx
      rcases (Table.mem_insert? hflights).1 hx with hx | rfl
      · exact hinv.nonneg.flights x hx
      · exact hpos
    · rw [hbaselines]
      exact hinv.nonneg.baselines
  -- a battery keeps its windows, and counts the cycles if they are credited to it
  have hbattery : ∀ b' ∈ db'.batteries.rows, ∃ b ∈ db.batteries.rows,
      b' = if updateBattery && carriedBy f.organizationId f.assetId b then charged f.cycles b
        else b := by
    intro b' hb'
    rw [hbatteries] at hb'
    cases updateBattery with
    | false => exact ⟨b', hb', rfl⟩
    | true =>
      obtain ⟨b, hb, rfl⟩ := List.mem_map.1 hb'
      exact ⟨b, hb, by rw [Bool.true_and]⟩
  have hkeys : ∀ id, (∃ b ∈ db.batteries.rows, b.id = id) →
      ∃ b ∈ db'.batteries.rows, b.id = id := by
    rintro id ⟨b, hb, hid⟩
    rw [hbatteries]
    cases updateBattery with
    | false => exact ⟨b, hb, hid⟩
    | true =>
      refine ⟨_, List.mem_map.2 ⟨b, hb, rfl⟩, ?_⟩
      split
      · exact hid
      · exact hid
  refine ⟨hnonneg, ?_, ?_⟩
  · intro r hr
    refine hkeys r.itemId (hinv.owned r ?_)
    rw [batteryPlacement] at hr ⊢
    rw [hrows] at hr
    exact hr
  · intro b' hb'
    obtain ⟨b, hb, rfl⟩ := hbattery b' hb'
    have hcovers := hinv.covers b hb
    have hsame : ∀ b' : Battery, b'.id = b.id → b'.organizationId = b.organizationId →
        b'.assetId = b.assetId → b'.installedAt = b.installedAt → b'.createdAt = b.createdAt →
        batteryWindows db' b' = batteryWindows db b := by
      intro b' hid horg hasset hinstalled hcreated
      rw [batteryWindows, batteryWindows, windowsOfBattery, windowsOfBattery, hrows, hid, horg,
        hasset, hinstalled, hcreated]
    have hcharge := hcredited b hb
    have hflown := cyclesFlown_fly b.organizationId hflights (batteryWindows db b)
    have hcarries : ∀ w ∈ batteryWindows db b, isSkipped w none = false →
        CarriesNothing db' b.organizationId w := by
      intro w hw hskip bl hbl
      refine hcovers.carriesNothing w hw hskip bl ?_
      rw [activeBaseline, hbaselines] at hbl
      exact hbl
    by_cases hcarried : (updateBattery && carriedBy f.organizationId f.assetId b) = true
    · rw [if_pos hcarried] at hcharge ⊢
      rw [hsame (charged f.cycles b) rfl rfl rfl rfl rfl]
      refine ⟨?_, hcarries⟩
      show cyclesFlown db' b.organizationId _ ≤ b.cycleCount + f.cycles
      rw [hflown]
      refine add_le_add hcovers.flown ?_
      calc f.cycles * ((batteryWindows db b).filter fun w => flownIn b.organizationId w f).length
          ≤ f.cycles * 1 := mul_le_mul_of_nonneg_left (by exact_mod_cast hcharge) hpos.2
        _ = f.cycles := mul_one _
    · rw [if_neg hcarried] at hcharge ⊢
      rw [hsame b rfl rfl rfl rfl rfl]
      refine ⟨?_, hcarries⟩
      rw [hflown, Nat.le_zero.1 hcharge]
      simpa using hcovers.flown

theorem activeBaseline_of_create_other {org' assetId' : UUID}
    (h : createAssetBaseline db newId org actor assetId payload = .ok db')
    (hne : ¬(org' = org ∧ assetId' = assetId)) :
    activeBaseline db' org' assetId' = activeBaseline db org' assetId' := by
  obtain ⟨_, _, h⟩ := bind_eq_ok.1 h
  obtain ⟨baselines, hadd, h⟩ := bind_eq_ok.1 h
  cases h
  have hselect := Table.select_insert? (addRowOrRaise_eq_ok.1 hadd) (fun b =>
    b.organizationId = org' && b.assetId = assetId' && b.isActive)
  rw [List.filter_cons_of_neg (by simp; intro h h'; exact absurd ⟨h.symm, h'.symm⟩ hne),
    List.filter_nil, List.append_nil] at hselect
  rw [activeBaseline, activeBaseline]
  refine congrArg latestEffective (hselect.trans ?_)
  refine Table.select_updateWhere_other ?_
  intro x _ hx
  rw [Bool.and_eq_true, decide_eq_true_eq, decide_eq_true_eq] at hx
  have hout : ∀ active : Bool, (decide (x.organizationId = org') && decide (x.assetId = assetId')
      && active) = false := by
    intro active
    rw [hx.1, hx.2]
    simp only [Bool.and_eq_false_iff, decide_eq_false_iff_not]
    by_cases horg : org = org'
    · exact Or.inl (Or.inr fun hasset => hne ⟨horg.symm, hasset.symm⟩)
    · exact Or.inl (Or.inl horg)
  exact ⟨hout x.isActive, hout false⟩

theorem Inv.baseline (hinv : Inv db)
    (h : createAssetBaseline db newId org actor assetId payload = .ok db')
    (hcarried : CarriedIntoNone db org assetId payload) : Inv db' := by
  obtain ⟨_, hactive, hat, _, hcycles⟩ := (activeBaseline_of_create h).imp fun _ h => h.2
  have hother : ∀ org' assetId', ¬(org' = org ∧ assetId' = assetId) →
      activeBaseline db' org' assetId' = activeBaseline db org' assetId' :=
    fun org' assetId' hne => activeBaseline_of_create_other h hne
  obtain ⟨_, _, h⟩ := bind_eq_ok.1 h
  obtain ⟨baselines, hadd, h⟩ := bind_eq_ok.1 h
  cases h
  refine ⟨⟨hinv.nonneg.flights, ?_⟩, hinv.owned, ?_⟩
  · intro b hb
    rcases (Table.mem_insert? (addRowOrRaise_eq_ok.1 hadd)).1 hb with hb | rfl
    · obtain ⟨old, hold, rfl⟩ := List.mem_map.1 hb
      have hnonneg := hinv.nonneg.baselines old hold
      split
      · exact hnonneg
      · exact hnonneg
    · exact ⟨le_max_left _ _, le_max_left _ _⟩
  · intro b hb
    have hcovers := hinv.covers b hb
    refine ⟨hcovers.flown, ?_⟩
    intro w hw hskip bl hbl hle
    by_cases hsame : b.organizationId = org ∧ w.assetId = assetId
    · rw [hsame.1, hsame.2, hactive] at hbl
      cases hbl
      rw [hcycles]
      rcases hcarried with hzero | hnone
      · exact hzero
      · rw [hat] at hle
        exact absurd hle (not_le.2 (hnone b hb hsame.1 w hw hsame.2 hskip))
    · rw [hother _ _ hsame] at hbl
      exact hcovers.carriesNothing w hw hskip bl hbl hle

/-- **ONE CALL**: a careful call keeps the counter of every battery covering its windows. -/
theorem step_inv {a : Action} (hinv : Inv db) (hcareful : Careful u db a)
    (h : step u db a = .ok db') : Inv db' := by
  have hkeeps : KeepsCover db a := hcareful (by rw [h]; rfl)
  cases a with
  | createBaseline newId org actor assetId payload => exact hinv.baseline h hkeeps
  | part a =>
    cases a with
    | attachBattery newId now org actor assetId args =>
      obtain ⟨_, _, h⟩ := bind_eq_ok.1 h
      obtain ⟨p, hp, h⟩ := bind_eq_ok.1 h
      cases h
      obtain ⟨howned, hcreates⟩ := attachItem_creates batteryStart hinv.owned hp rfl
      obtain ⟨hflown, hcarry⟩ := NothingAhead.opened hkeeps
      exact (hinv.creates howned hcreates rfl
        ((Covers.empty db org).open hflown hcarry)).frame rfl rfl rfl rfl
    | installBattery newId now org actor batteryId assetId =>
      obtain ⟨_, _, h⟩ := bind_eq_ok.1 h
      obtain ⟨p, hp, h⟩ := bind_eq_ok.1 h
      cases h
      obtain ⟨howned, hmoves⟩ := installItem_moves batteryStart hinv.owned hp
        (fun _ => rfl) (fun _ => rfl) (fun _ => rfl) rfl
      obtain ⟨hflown, hcarry⟩ := NothingAhead.opened hkeeps
      exact (hinv.moves howned hmoves (fun _ => ⟨rfl, rfl⟩)
        (fun _ _ hcovers => hcovers.open hflown hcarry)).frame rfl rfl rfl rfl
    | removeBattery now org actor batteryId assetId =>
      obtain ⟨p, hp, h⟩ := bind_eq_ok.1 h
      cases h
      obtain ⟨item, hmem, r, hr, ⟨hid, rfl, _⟩, ⟨hitem, _, hopen⟩, rfl⟩ := removeItem_eq_ok hp
      obtain ⟨howned, hmoves⟩ := moves_of_close batteryStart hinv.owned
        (fun b => { b with assetId := none, installedAt := none }) now actor hmem (fun _ => rfl)
        (fun _ => rfl) (fun _ => rfl) hr (hitem.trans hid.symm) hopen
      refine (hinv.moves howned hmoves (fun _ => ⟨rfl, rfl⟩) ?_).frame rfl rfl rfl rfl
      intro windows count hcovers
      rw [List.append_nil]
      exact hcovers
    | component a =>
      cases a with
      | attachComponent newId now org actor assetId args =>
        obtain ⟨_, _, h⟩ := bind_eq_ok.1 h
        obtain ⟨_, _, h⟩ := bind_eq_ok.1 h
        cases h
        exact hinv.frame rfl rfl rfl rfl
      | installComponent newId now org actor componentId assetId =>
        obtain ⟨_, _, h⟩ := bind_eq_ok.1 h
        obtain ⟨_, _, h⟩ := bind_eq_ok.1 h
        cases h
        exact hinv.frame rfl rfl rfl rfl
      | removeComponent now org actor componentId assetId =>
        obtain ⟨_, _, h⟩ := bind_eq_ok.1 h
        cases h
        exact hinv.frame rfl rfl rfl rfl
      | installAssetComponent newId newRowId now org actor assetId payload =>
        obtain ⟨_, _, h⟩ := bind_eq_ok.1 h
        obtain ⟨_, _, h⟩ := bind_eq_ok.1 h
        cases h
        exact hinv.frame rfl rfl rfl rfl
      | removeAssetComponent now org actor assetId componentId =>
        obtain ⟨_, _, h⟩ := bind_eq_ok.1 h
        obtain ⟨_, _, h⟩ := bind_eq_ok.1 h
        cases h
        exact hinv.frame rfl rfl rfl rfl
      | recordFlight newId now org actor assetId payload updateBattery =>
        obtain ⟨_, _, h⟩ := bind_eq_ok.1 h
        obtain ⟨_, _, h⟩ := bind_eq_ok.1 h
        obtain ⟨_, _, h⟩ := bind_eq_ok.1 h
        obtain ⟨flights, hadd, h⟩ := bind_eq_ok.1 h
        cases h
        exact hinv.fly (addRowOrRaise_eq_ok.1 hadd)
          ⟨le_of_lt payload.duration_pos, le_of_lt payload.cycles_pos⟩ hkeeps rfl rfl rfl
      | recordAssetFlight newId now org actor assetId payload =>
        obtain ⟨asset, hasset, h⟩ := bind_eq_ok.1 h
        obtain ⟨_, _, h⟩ := bind_eq_ok.1 h
        obtain ⟨flights, hadd, h⟩ := bind_eq_ok.1 h
        cases h
        have hid : asset.id = assetId := by
          have hfound := (mem_of_oneOrRaise hasset).2
          simp only [Bool.and_eq_true, decide_eq_true_eq] at hfound
          exact hfound.1.1
        rw [hid] at hadd
        have hcredited : Credited db (newFlight newId org assetId payload) false := hkeeps
        exact hinv.fly (addRowOrRaise_eq_ok.1 hadd)
          ⟨le_of_lt payload.duration_pos, le_of_lt payload.cycles_pos⟩ hcredited rfl rfl rfl

end Steps

/-! ## What the service answers -/

/-- The state, with these requirements and this history of their accomplishment. -/
def maintained (db : Database) (maintenanceRequirements : Table MaintenanceRequirement)
    (requirementApplicabilities : Table MaintenanceRequirementApplicability)
    (accomplishments : Table MaintenanceAccomplishment) : Database :=
  { db with maintenanceRequirements, requirementApplicabilities, accomplishments }

/-- Whatever is required and was accomplished, no item of a battery or a component has more usage
since its maintenance than in its lifetime. -/
def LifetimeBounds (fl : ℚ → ℚ) (db : Database) : Prop :=
  ∀ requirements applicabilities accomplishments org id items,
    getMaintenanceDueForBattery fl (maintained db requirements applicabilities accomplishments)
          org id = .ok items ∨
        getMaintenanceDueForComponent fl
          (maintained db requirements applicabilities accomplishments) org id = .ok items →
      ∀ item ∈ items, FiguresOrdered item

theorem Inv.lifetimeBounds {fl : ℚ → ℚ} {db : Database} (hinv : Inv db) (hfl : Monotone fl)
    (hzero : fl 0 = 0) : LifetimeBounds fl db := by
  intro requirements applicabilities accomplishments org id items hitems item hitem
  have hnonneg : NonNegative (maintained db requirements applicabilities accomplishments) :=
    ⟨hinv.nonneg.flights, hinv.nonneg.baselines⟩
  rcases hitems with hitems | hitems
  · obtain ⟨battery, hbattery, hitems⟩ := bind_eq_ok.1 hitems
    obtain ⟨_, _, hrun⟩ := exists_of_mapM hitems item hitem
    obtain ⟨_, _, hrun⟩ := bind_eq_ok.1 hrun
    obtain ⟨hmem, hfound⟩ := mem_of_oneOrRaise hbattery
    simp only [Bool.and_eq_true, decide_eq_true_eq] at hfound
    obtain ⟨_, rfl⟩ := hfound
    exact evaluateForBattery_ordered hfl hzero hnonneg
      ((hinv.covers battery hmem).congr rfl rfl) hrun
  · obtain ⟨component, _, hitems⟩ := bind_eq_ok.1 hitems
    obtain ⟨_, _, hrun⟩ := exists_of_mapM hitems item hitem
    obtain ⟨_, _, hrun⟩ := bind_eq_ok.1 hrun
    exact evaluateForComponent_ordered hfl hzero hnonneg hrun

/-- The state has no battery yet. -/
structure NoBatteries (db : Database) : Prop where
  batteries : db.batteries.rows = []
  rows : db.batteryInstallations.rows = []
  nonneg : NonNegative db

theorem NoBatteries.inv {db : Database} (h : NoBatteries db) : Inv db := by
  refine ⟨h.nonneg, ?_, ?_⟩
  · intro r hr
    rw [batteryPlacement, h.rows] at hr
    cases hr
  · intro b hb
    rw [h.batteries] at hb
    cases hb

/-- **USAGE SINCE MAINTENANCE**: over careful calls, no item of a battery or a component ever has
more usage since its maintenance than in its lifetime. -/
theorem usage_within_lifetime (u : UnicodeTables) {fl : ℚ → ℚ} (hfl : Monotone fl)
    (hzero : fl 0 = 0) {db : Database} (hstart : NoBatteries db) (as : List Action)
    (hcareful : Runs.StepsMeet (step u) (Careful u) db as) :
    ∀ db' ∈ Runs.visited (step u) db as, LifetimeBounds fl db' := by
  intro db' hdb'
  have hinv : Inv db' :=
    Runs.visited_invariant (fun _ _ _ hinv hok h => step_inv hinv hok h) as db hstart.inv hcareful
      db' hdb'
  exact hinv.lifetimeBounds hfl hzero

def batteryAttached : Action :=
  .part (.attachBattery 10 0 1 none 1 { serialNumber := "B-10" })

def batteryInstalled : Action := .part (.installBattery 20 1 1 none 10 1)

def batteryRemoved : Action := .part (.removeBattery 10 1 none 10 1)

/-- A flight of one cycle, flown at 5. -/
def flownAtFive : Action :=
  .part (.component
    (.recordFlight 30 12 1 none 1
      { flownAt := 5, durationMinutes := 1, duration_pos := Int.one_pos,
        cycles_pos := Int.one_pos } true))

theorem twoDrones_noBatteries : NoBatteries InstallationRuns.twoDrones := by
  refine ⟨rfl, rfl, ?_, ?_⟩
  · intro f hf
    cases hf
  · intro b hb
    cases hb

/-- Recorded while the battery is installed. -/
theorem flownAtFive_bounded :
    NoBatteries InstallationRuns.twoDrones ∧
      ∀ db' ∈ Runs.visited (step .ascii) InstallationRuns.twoDrones
        [batteryAttached, batteryInstalled, flownAtFive, batteryRemoved], LifetimeBounds id db' :=
  ⟨twoDrones_noBatteries,
    usage_within_lifetime .ascii monotone_id rfl twoDrones_noBatteries _ (by decide)⟩

/-- After every cycle, of battery 10. -/
def everyCycle : Table MaintenanceRequirement :=
  .single { id := 4, organizationId := 1, intervalType := MaintenanceIntervalType.flightCycles
            fcInterval := some 1 }

def ofBatteryTen : Table MaintenanceRequirementApplicability :=
  .single { id := 5, organizationId := 1, requirementId := 4, batteryId := some 10 }

/-- Recorded after the battery is removed: one cycle since maintenance, none in its lifetime. -/
theorem flownAtFive_unbounded :
    ¬∀ db' ∈ Runs.visited (step .ascii) InstallationRuns.twoDrones
        [batteryAttached, batteryInstalled, batteryRemoved, flownAtFive],
      LifetimeBounds id db' := by
  intro h
  have hlast := h _ (List.mem_of_getElem? (i := 4) rfl) everyCycle ofBatteryTen .empty 1 10 _
    (Or.inl rfl) _ List.mem_cons_self
  have hle : (1 : ℚ) ≤ 0 := hlast 1 (by decide) 0 rfl
  exact absurd hle (by norm_num)

end UsageBounds
end AeroComply
