import AeroComply.Services.Flight

/-!
# Maintenance — the usage of a part over its installation windows

`_installation_windows` and `_usage_across_windows` of
`app/services/maintenance_service.py`: the windows a component was installed in,
and the sum of `get_utilization` over them, each bounded to
`[max(installed_at, since), removed_at)`.

What the part flew is `flownInWindows`, stated on the flights alone; the rest of
the module measures how far the sum of the service is from it.
-/

namespace AeroComply

namespace MaintenanceService

open FlightService
open WindowSum (total within)

/-- One installation: the asset, and when the part was on it. -/
structure InstallationWindow where
  assetId : UUID
  installedAt : DateTime
  removedAt : Option DateTime

def windowOf (r : Installation) : InstallationWindow := ⟨r.assetId, r.installedAt, r.removedAt⟩

def isOpenOn (assetId : UUID) (w : InstallationWindow) : Bool :=
  w.assetId = assetId && w.removedAt.isNone

/-- `_installation_windows`: the history rows, and one synthesized open window for a current
placement that no row records. -/
def installationWindows (installations : List Installation) (currentAssetId : Option UUID)
    (currentInstalledAt : Option DateTime) (fallbackInstalledAt : DateTime) :
    List InstallationWindow :=
  let windows := installations.map windowOf
  match currentAssetId with
  | none => windows
  | some assetId =>
    if windows.any (isOpenOn assetId) then windows
    else windows ++ [⟨assetId, currentInstalledAt.getD fallbackInstalledAt, none⟩]

section Service

variable (fl : ℚ → ℚ)

/-- `installed_at if since is None else max(installed_at, since)`. -/
def windowStart (w : InstallationWindow) : Option DateTime → DateTime
  | none => w.installedAt
  | some since => max w.installedAt since

/-- `removed_at is not None and window_start >= removed_at`: the loop skips the window. -/
def isSkipped (w : InstallationWindow) (since : Option DateTime) : Bool :=
  match w.removedAt with
  | none => false
  | some removedAt => decide (removedAt ≤ windowStart w since)

/-- The loop over the windows, with `total_minutes` and `total_cycles` so far. -/
def addWindows (db : Database) (organizationId : UUID) (since : Option DateTime) :
    List InstallationWindow → Int × Int → Except Error (Int × Int)
  | [], acc => .ok acc
  | w :: windows, acc =>
    if isSkipped w since then addWindows db organizationId since windows acc
    else do
      let utilization ← getUtilization fl db organizationId w.assetId
        (some (windowStart w since)) w.removedAt
      addWindows db organizationId since windows
        (acc.1 + utilization.totalMinutes, acc.2 + utilization.totalCycles)

/-- `_usage_across_windows`: hours and cycles. -/
def usageAcrossWindows (db : Database) (organizationId : UUID)
    (windows : List InstallationWindow) (since : Option DateTime) : Except Error (ℚ × ℚ) := do
  let totals ← addWindows fl db organizationId since windows (0, 0)
  pure (fl (totals.1 / 60), fl totals.2)

end Service

/-! ## What the part flew -/

/-- The flight was flown on the window's asset while the part was installed. -/
def flownIn (org : UUID) (w : InstallationWindow) (f : Flight) : Bool :=
  ofAsset org w.assetId f && within (some w.installedAt) w.removedAt f.flownAt

/-- The flights of all windows, each counted once. -/
def flownInWindows (db : Database) (org : UUID) (windows : List InstallationWindow) : Int × Int :=
  (total (fun f => windows.any (fun w => flownIn org w f)) Flight.durationMinutes db.flights.rows,
   total (fun f => windows.any (fun w => flownIn org w f)) Flight.cycles db.flights.rows)

/-- No instant lies in two windows. -/
def DisjointInTime (windows : List InstallationWindow) : Prop :=
  windows.Pairwise fun w w' => ∀ t, within (some w.installedAt) w.removedAt t = true →
    within (some w'.installedAt) w'.removedAt t = false

/-- What one window's flights add up to. -/
def flownOf (db : Database) (org : UUID) (w : InstallationWindow) : Int × Int :=
  (total (flownIn org w) Flight.durationMinutes db.flights.rows,
   total (flownIn org w) Flight.cycles db.flights.rows)

theorem flownInWindows_eq_sum (db : Database) (org : UUID) {windows : List InstallationWindow}
    (hd : DisjointInTime windows) :
    flownInWindows db org windows = (windows.map (flownOf db org)).sum := by
  have hps : (windows.map (flownIn org)).Pairwise
      (fun p q => ∀ f ∈ db.flights.rows, p f = true → q f = false) := by
    rw [List.pairwise_map]
    refine hd.imp ?_
    intro w w' hww f _ hp
    obtain ⟨_, hin⟩ := Bool.and_eq_true_iff.1 hp
    rw [flownIn, hww f.flownAt hin, Bool.and_false]
  have hany : ∀ f, windows.any (fun w => flownIn org w f)
      = (windows.map (flownIn org)).any (fun p => p f) := by
    intro f
    rw [List.any_map]
    rfl
  have hsum : ∀ val : Flight → Int,
      total (fun f => windows.any (fun w => flownIn org w f)) val db.flights.rows
        = (windows.map (fun w => total (flownIn org w) val db.flights.rows)).sum := by
    intro val
    simp only [hany]
    rw [WindowSum.total_any hps, List.map_map]
    rfl
  rw [flownInWindows, hsum, hsum]
  clear hps hany hsum hd
  induction windows with
  | nil => rfl
  | cons w windows ih =>
    rw [List.map_cons, List.map_cons, List.map_cons, List.sum_cons, List.sum_cons,
      List.sum_cons, ← ih]
    rfl

/-! ## What the loop charges -/

section Charges

variable (fl : ℚ → ℚ) (db : Database) (org : UUID)

/-- What the baseline of the window's asset adds when the window is charged. -/
def carryInOf (w : InstallationWindow) : Int × Int :=
  (baselineTerms fl (activeBaseline db org w.assetId) (some w.installedAt)).1

/-- The flights of the window that the baseline hides: flown before it took effect. -/
def hiddenIn (w : InstallationWindow) (f : Flight) : Bool :=
  match activeBaseline db org w.assetId with
  | none => false
  | some bl => flownIn org w f && decide (f.flownAt < bl.effectiveAt)

/-- The hidden flights count when the window starts no later than the effective date. -/
def hiddenOf (w : InstallationWindow) : Int × Int :=
  match activeBaseline db org w.assetId with
  | none => 0
  | some bl =>
    if w.installedAt ≤ bl.effectiveAt then
      (total (hiddenIn db org w) Flight.durationMinutes db.flights.rows,
       total (hiddenIn db org w) Flight.cycles db.flights.rows)
    else 0

variable {w : InstallationWindow}

/-- From the effective date on, the window's flights are the ones not hidden. -/
theorem flownTotals_from_effective {bl : AssetHistoricalBaseline}
    (hbl : activeBaseline db org w.assetId = some bl) (hle : w.installedAt ≤ bl.effectiveAt) :
    flownTotals db org w.assetId (some bl.effectiveAt) w.removedAt + hiddenOf db org w
      = flownOf db org w := by
  have hsum : ∀ val : Flight → Int,
      total (fun f => ofAsset org w.assetId f &&
          within (some bl.effectiveAt) w.removedAt f.flownAt) val db.flights.rows
        + total (hiddenIn db org w) val db.flights.rows
        = total (flownIn org w) val db.flights.rows := by
    intro val
    have hhid : ∀ f ∈ db.flights.rows, hiddenIn db org w f
        = (flownIn org w f && decide (f.flownAt < bl.effectiveAt)) := by
      intro f _
      rw [hiddenIn, hbl]
    have hrest : ∀ f ∈ db.flights.rows,
        (ofAsset org w.assetId f && within (some bl.effectiveAt) w.removedAt f.flownAt)
          = (flownIn org w f && !decide (f.flownAt < bl.effectiveAt)) := by
      intro f _
      rw [Bool.eq_iff_iff]
      simp only [flownIn, within, Bool.and_eq_true, decide_eq_true_iff, Bool.not_eq_true',
        decide_eq_false_iff_not, not_lt]
      constructor
      · rintro ⟨ha, hlo, hhi⟩
        exact ⟨⟨ha, le_trans hle hlo, hhi⟩, hlo⟩
      · rintro ⟨⟨ha, _, hhi⟩, hlo⟩
        exact ⟨ha, hlo, hhi⟩
    rw [WindowSum.total_congr hhid, WindowSum.total_congr hrest,
      WindowSum.total_split (flownIn org w) (fun f => decide (f.flownAt < bl.effectiveAt))]
    exact add_comm _ _
  rw [hiddenOf, hbl]
  dsimp only
  rw [if_pos hle]
  exact Prod.ext (hsum Flight.durationMinutes) (hsum Flight.cycles)

/-- **ONE WINDOW**: a charged window adds the carry-in and the window's flights less the
hidden ones. -/
theorem totals_of_window {asset : Asset} (hlive : db.getAsset org w.assetId = .ok asset) :
    ∃ x, totals fl db org w.assetId (some w.installedAt) w.removedAt = .ok x ∧
      x + hiddenOf db org w = carryInOf fl db org w + flownOf db org w := by
  refine ⟨_, totals_of_live fl hlive, ?_⟩
  rw [carryInOf]
  cases hbl : activeBaseline db org w.assetId with
  | none =>
    rw [hiddenOf, hbl]
    exact add_zero _
  | some bl =>
    by_cases hle : w.installedAt ≤ bl.effectiveAt
    · rw [baselineTerms_carried fl hle]
      dsimp only
      rw [add_assoc, flownTotals_from_effective db org hbl hle]
    · rw [baselineTerms_past fl hle, hiddenOf, hbl]
      dsimp only
      rw [if_neg hle]
      exact add_zero _

theorem within_of_skipped (h : isSkipped w none = true) (t : DateTime) :
    within (some w.installedAt) w.removedAt t = false := by
  rw [isSkipped] at h
  cases hr : w.removedAt with
  | none =>
    rw [hr] at h
    cases h
  | some removedAt =>
    rw [hr] at h
    have hle : removedAt ≤ w.installedAt := of_decide_eq_true h
    by_contra hin
    obtain ⟨hlo, hhi⟩ := WindowSum.within_some_some.1 (Bool.of_not_eq_false hin)
    exact lt_irrefl t (lt_of_lt_of_le hhi (le_trans hle hlo))

theorem flownIn_of_skipped (h : isSkipped w none = true) (f : Flight) :
    flownIn org w f = false := by
  rw [flownIn, within_of_skipped h, Bool.and_false]

theorem flownOf_of_skipped (h : isSkipped w none = true) :
    flownOf db org w = 0 := by
  have hnone : ∀ f ∈ db.flights.rows, flownIn org w f = false :=
    fun f _ => flownIn_of_skipped org h f
  rw [flownOf, WindowSum.total_false hnone, WindowSum.total_false hnone]
  rfl

theorem hiddenOf_of_skipped (h : isSkipped w none = true) :
    hiddenOf db org w = 0 := by
  have hnone : ∀ f ∈ db.flights.rows, hiddenIn db org w f = false := by
    intro f _
    rw [hiddenIn]
    cases activeBaseline db org w.assetId with
    | none => rfl
    | some bl =>
      dsimp only
      rw [flownIn_of_skipped org h f]
      rfl
  rw [hiddenOf]
  cases activeBaseline db org w.assetId with
  | none => rfl
  | some bl =>
    dsimp only
    rw [WindowSum.total_false hnone, WindowSum.total_false hnone]
    split
    · rfl
    · rfl

/-! ## The whole loop -/

/-- The asset of every window that is charged can be read. -/
def AssetsLive (windows : List InstallationWindow) : Prop :=
  ∀ w ∈ windows, isSkipped w none = false → ∃ asset, db.getAsset org w.assetId = .ok asset

/-- What a window's carry-in contributes; a skipped window contributes nothing. -/
def chargedCarryIn (w : InstallationWindow) : Int × Int :=
  if isSkipped w none then 0 else carryInOf fl db org w

/-- **THE LOOP**: when the assets are live, the accumulators end with the carry-ins
and the flights of all windows, less the hidden flights. -/
theorem addWindows_of_live : ∀ (windows : List InstallationWindow) (acc : Int × Int),
    AssetsLive db org windows →
    ∃ x, addWindows fl db org none windows acc = .ok x ∧
      x + (windows.map (hiddenOf db org)).sum
        = acc + (windows.map (chargedCarryIn fl db org)).sum
          + (windows.map (flownOf db org)).sum := by
  intro windows
  induction windows with
  | nil =>
    intro acc _
    refine ⟨acc, rfl, ?_⟩
    show acc + 0 = acc + 0 + 0
    simp only [add_zero]
  | cons w windows ih =>
    intro acc hlive
    have htail : AssetsLive db org windows :=
      fun w' hw' => hlive w' (List.mem_cons_of_mem _ hw')
    simp only [List.map_cons, List.sum_cons]
    by_cases hs : isSkipped w none = true
    · obtain ⟨x, hx, hsum⟩ := ih acc htail
      refine ⟨x, ?_, ?_⟩
      · rw [addWindows, if_pos hs]
        exact hx
      · rw [hiddenOf_of_skipped db org hs, flownOf_of_skipped db org hs, chargedCarryIn,
          if_pos hs]
        simpa only [zero_add] using hsum
    · obtain ⟨asset, hasset⟩ := hlive w List.mem_cons_self (Bool.of_not_eq_true hs)
      obtain ⟨y, hy, hycharge⟩ := totals_of_window fl db org hasset
      obtain ⟨u, hu, huy⟩ := (totals_eq_ok fl).1 hy
      obtain ⟨x, hx, hsum⟩ := ih (acc.1 + u.totalMinutes, acc.2 + u.totalCycles) htail
      refine ⟨x, ?_, ?_⟩
      · rw [addWindows, if_neg hs]
        show (getUtilization fl db org w.assetId (some w.installedAt) w.removedAt >>= _) = _
        rw [hu]
        exact hx
      · have hacc : (acc.1 + u.totalMinutes, acc.2 + u.totalCycles) = acc + y := by
          rw [← huy]
          rfl
        rw [hacc] at hsum
        rw [chargedCarryIn, if_neg hs]
        calc x + (hiddenOf db org w + (windows.map (hiddenOf db org)).sum)
            = x + (windows.map (hiddenOf db org)).sum + hiddenOf db org w := by abel
          _ = acc + (y + hiddenOf db org w) + (windows.map (chargedCarryIn fl db org)).sum
              + (windows.map (flownOf db org)).sum := by
                rw [hsum]
                abel
          _ = _ := by
                rw [hycharge]
                abel

theorem assetsLive_of_addWindows : ∀ (windows : List InstallationWindow) (acc x : Int × Int),
    addWindows fl db org none windows acc = .ok x → AssetsLive db org windows := by
  intro windows
  induction windows with
  | nil => exact fun _ _ _ w hw => nomatch hw
  | cons w windows ih =>
    intro acc x hx w' hw' hs'
    rw [addWindows] at hx
    by_cases hs : isSkipped w none = true
    · rw [if_pos hs] at hx
      rcases List.mem_cons.1 hw' with rfl | htl
      · rw [hs] at hs'
        cases hs'
      · exact ih acc x hx w' htl hs'
    · rw [if_neg hs] at hx
      obtain ⟨u, hu, hrest⟩ := bind_eq_ok.1 hx
      rcases List.mem_cons.1 hw' with rfl | htl
      · exact totals_ok fl ((totals_eq_ok fl).2 ⟨u, hu, rfl⟩)
      · exact ih _ x hrest w' htl hs'

/-! ## The part is charged with what it flew -/

/-- The part is charged with exactly the flights it flew: the loop's totals, and so the
hours and cycles returned, are those of the flights inside its windows, and no window
charges a carry-in. -/
structure ChargesOnlyFlown (windows : List InstallationWindow) : Prop where
  totals : addWindows fl db org none windows (0, 0) = .ok (flownInWindows db org windows)
  returned : usageAcrossWindows fl db org windows none
    = .ok (fl ((flownInWindows db org windows).1 / 60), fl (flownInWindows db org windows).2)
  noCarryIn : ∀ w ∈ windows, isSkipped w none = false → carryInOf fl db org w = (0, 0)

theorem carryInOf_eq_zero_iff :
    carryInOf fl db org w = (0, 0) ↔
      ∀ bl ∈ activeBaseline db org w.assetId, w.installedAt ≤ bl.effectiveAt →
        carryIn fl bl = (0, 0) := by
  rw [carryInOf]
  cases activeBaseline db org w.assetId with
  | none => exact iff_of_true rfl (fun bl h => nomatch h)
  | some bl =>
    by_cases hle : w.installedAt ≤ bl.effectiveAt
    · rw [baselineTerms_carried fl hle]
      constructor
      · intro h bl' hbl' _
        cases hbl'
        exact h
      · exact fun h => h bl rfl hle
    · rw [baselineTerms_past fl hle]
      refine iff_of_true rfl ?_
      intro bl' hbl' hle'
      cases hbl'
      exact absurd hle' hle

theorem chargedCarryIn_sum_eq_zero {windows : List InstallationWindow}
    (h : ∀ w ∈ windows, isSkipped w none = false → carryInOf fl db org w = (0, 0)) :
    (windows.map (chargedCarryIn fl db org)).sum = 0 := by
  refine List.sum_eq_zero ?_
  intro x hx
  obtain ⟨w, hw, rfl⟩ := List.mem_map.1 hx
  rw [chargedCarryIn]
  by_cases hs : isSkipped w none = true
  · rw [if_pos hs]
  · rw [if_neg hs]
    exact h w hw (Bool.of_not_eq_true hs)

/-- **CHARGES ONLY WHAT WAS FLOWN**: over disjoint windows, exactly when every charged
window has a live asset and a baseline, if any is in effect on or after the installation,
that carries nothing in, and the flights flown inside such windows before the baseline
took effect total nothing. -/
theorem charges_only_flown_iff {windows : List InstallationWindow}
    (hd : DisjointInTime windows) :
    ChargesOnlyFlown fl db org windows ↔
      AssetsLive db org windows ∧
      (∀ w ∈ windows, isSkipped w none = false →
        ∀ bl ∈ activeBaseline db org w.assetId, w.installedAt ≤ bl.effectiveAt →
          carryIn fl bl = (0, 0)) ∧
      (windows.map (hiddenOf db org)).sum = 0 := by
  have hflown := flownInWindows_eq_sum db org hd
  constructor
  · rintro ⟨htotals, _, hcarry⟩
    have hlive := assetsLive_of_addWindows fl db org windows _ _ htotals
    refine ⟨hlive, fun w hw hs => (carryInOf_eq_zero_iff fl db org).1 (hcarry w hw hs), ?_⟩
    obtain ⟨x, hx, hsum⟩ := addWindows_of_live fl db org windows (0, 0) hlive
    rw [htotals] at hx
    cases hx
    rw [chargedCarryIn_sum_eq_zero fl db org hcarry, ← hflown] at hsum
    have hzero : flownInWindows db org windows + (windows.map (hiddenOf db org)).sum
        = 0 + 0 + flownInWindows db org windows := hsum
    rw [zero_add, zero_add] at hzero
    exact add_eq_left.1 hzero
  · rintro ⟨hlive, hcarry, hhidden⟩
    have hcarry' : ∀ w ∈ windows, isSkipped w none = false → carryInOf fl db org w = (0, 0) :=
      fun w hw hs => (carryInOf_eq_zero_iff fl db org).2 (hcarry w hw hs)
    obtain ⟨x, hx, hsum⟩ := addWindows_of_live fl db org windows (0, 0) hlive
    rw [hhidden, chargedCarryIn_sum_eq_zero fl db org hcarry', ← hflown, add_zero] at hsum
    have heq : x = flownInWindows db org windows := by
      rw [hsum]
      show (0 + 0) + _ = _
      rw [zero_add, zero_add]
    rw [heq] at hx
    refine ⟨hx, ?_, hcarry'⟩
    rw [usageAcrossWindows]
    rw [hx]
    rfl

end Charges

/-- A part on the asset of `carryInDatabase` from before to after the baseline. -/
def straddlingWindow : InstallationWindow := ⟨1, 0, some 2000⟩

/-- The part flew nothing and is charged with 6000 minutes of the asset's carry-in. -/
theorem straddlingWindow_charged_carryIn :
    ¬ChargesOnlyFlown id carryInDatabase 1 [straddlingWindow] := by
  intro h
  have hloop : (addWindows id carryInDatabase 1 none [straddlingWindow] (0, 0)).toOption
      = some (6000, 50) := by decide +kernel
  have hflown : flownInWindows carryInDatabase 1 [straddlingWindow] = (0, 0) := by decide
  rw [h.totals, hflown] at hloop
  exact absurd hloop (by decide)

/-- Installed after the effective date, a part is charged with its own flights. -/
theorem late_window_charges_only_flown :
    ChargesOnlyFlown id carryInDatabase 1 [⟨1, 1500, some 2000⟩] := by
  refine (charges_only_flown_iff id carryInDatabase 1 (List.pairwise_singleton _ _)).2
    ⟨?_, ?_, rfl⟩
  · intro w hw _
    rw [List.mem_singleton.1 hw]
    exact ⟨_, rfl⟩
  · intro w hw _ bl hbl hle
    rw [List.mem_singleton.1 hw] at hbl hle
    cases hbl
    exact absurd hle (by decide)

end MaintenanceService
end AeroComply
