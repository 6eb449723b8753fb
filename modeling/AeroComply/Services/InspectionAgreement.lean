import AeroComply.Services.InspectionHours

/-!
# InspectionAgreement — inspection alarms against the maintenance engine

The alarm of a requirement goes by what the total hours of the asset leave of the last
full interval, the engine by the hours since the requirement was last accomplished.  The
alarm considers the requirements of the asset and of its aircraft, or all of the
organization when there is none; the engine, those of the asset.
`inspections_agree_iff` says where the two agree: exactly, in the floats that both
compute, and in whole minutes away from the ties.
-/

namespace AeroComply

open Relational (Table)

namespace ProactiveIntelligenceService

open FlightService MaintenanceService
open Rounding (Rounds toBinary)

section Statement

variable (py : Interpreter) (fl : ℚ → ℚ) (db : Database) (today : Date) (organizationId : UUID)
  (asset : Asset) (req : MaintenanceRequirement)

/-- The key of an overdue inspection. -/
def dueKey : String := "insp_due:" ++ py.uuidText asset.id ++ ":" ++ py.uuidText req.id

/-- The key of an inspection that approaches. -/
def approachingKey : String :=
  "insp_approaching:" ++ py.uuidText asset.id ++ ":" ++ py.uuidText req.id

/-- The evaluator returns, with a signal of that key. -/
def Emits (key : String) : Prop :=
  ∃ items, evaluateInspectionThresholds py fl db organizationId asset = .ok items ∧
    ∃ item ∈ items, item.signalKey = key

/-- The engine returns, with that status. -/
def ReportedAs (status : DueStatus) : Prop :=
  ∃ item, evaluateForAsset fl db today organizationId asset.id req = .ok item ∧
    item.dueStatus = status

def Applies : Prop := req.id ∈ applicableRequirementIds db organizationId asset.id

/-- The alarms of a requirement are the engine's. -/
structure InspectionsAgree : Prop where
  overdue : Emits py fl db organizationId asset (dueKey py asset req) ↔
    Applies db organizationId asset req ∧ ReportedAs fl db today organizationId asset req .overdue
  silent : ReportedAs fl db today organizationId asset req .notDue ∨
      ¬Applies db organizationId asset req →
    ¬Emits py fl db organizationId asset (dueKey py asset req) ∧
      ¬Emits py fl db organizationId asset (approachingKey py asset req)

def Names (a : MaintenanceRequirementApplicability) : Prop :=
  a.organizationId = organizationId ∧ (a.assetId = some asset.id ∨
    ∃ ac ∈ db.aircraft.rows, ac.organizationId = organizationId ∧ ac.assetId = some asset.id ∧
      a.aircraftId = some ac.id)

/-- The alarm considers the requirement: a row names it for the asset, or no row names any. -/
def Considered : Prop :=
  (∀ a ∈ db.requirementApplicabilities.rows, ¬Names db organizationId asset a) ∨
    ∃ a ∈ db.requirementApplicabilities.rows, Names db organizationId asset a ∧
      a.requirementId = req.id

/-- Where the asset is live and the requirement considered: what is alarmed as due is overdue and
what is alarmed as approaching is nearly so, if the requirement applies; nothing is alarmed, if
it does not. -/
def Aligned (due soon overdue nearly : Int → Prop) : Prop :=
  (∃ a, db.getAsset organizationId asset.id = .ok a) → Considered db organizationId asset req →
    ∀ I, req.fhInterval = some I →
      (Applies db organizationId asset req → (due I ↔ overdue I) ∧ (soon I → nearly I)) ∧
      (¬Applies db organizationId asset req → ¬due I ∧ ¬soon I)

/-- The total hours of the alarm. -/
def totalHours : ℚ := roundTo fl 2 (fl (minutesSince fl db organizationId asset.id none / 60))

/-- The minutes flown in all. -/
def totalMinutes : Int := minutesSince fl db organizationId asset.id none

/-- The minutes flown since the requirement was last accomplished. -/
def minutesSinceCheck : Int :=
  minutesSince fl db organizationId asset.id
    ((lastDate db organizationId asset.id req.id).map midnight)

end Statement

/-- `uq_aircraft_asset_id`. -/
def AircraftUnique (db : Database) : Prop :=
  ∀ a ∈ db.aircraft.rows, ∀ b ∈ db.aircraft.rows, a.assetId = b.assetId → a.assetId ≠ none → a = b

/-! ## What the evaluator emits -/

section Emission

variable {py : Interpreter} {fl : ℚ → ℚ} {db : Database} {organizationId : UUID} {asset : Asset}
  {req r : MaintenanceRequirement}

/-- The interval is due, by the total hours. -/
def DueInHours (fl : ℚ → ℚ) (T : ℚ) (I : Int) : Prop := 0 < fl I ∧ isInspectionDue fl T (fl I) = true

/-- It approaches. -/
def SoonInHours (fl : ℚ → ℚ) (T : ℚ) (I : Int) : Prop :=
  0 < fl I ∧ isInspectionDue fl T (fl I) = false ∧ hoursRemaining fl T (fl I) ≤ 25

theorem dueKey_inj (h : dueKey py asset r = dueKey py asset req) :
    py.uuidText r.id = py.uuidText req.id :=
  (String.append_right_inj _).1 h

theorem approachingKey_inj (h : approachingKey py asset r = approachingKey py asset req) :
    py.uuidText r.id = py.uuidText req.id :=
  (String.append_right_inj _).1 h

/-- The two kinds of text differ in their sixth letter. -/
theorem insp_due_ne (s t : String) : "insp_due:" ++ s ≠ "insp_approaching:" ++ t := by
  intro h
  have hlists := congrArg (fun s : String => s.toList.drop 5) h
  have hdue : "insp_due:".toList = "insp_".toList ++ 'd' :: "ue:".toList := by decide
  have happroaching :
      "insp_approaching:".toList = "insp_".toList ++ 'a' :: "pproaching:".toList := by decide
  simp [hdue, happroaching] at hlists

theorem dueKey_ne_approachingKey : dueKey py asset r ≠ approachingKey py asset req := by
  intro h
  have hdue : dueKey py asset r
      = "insp_due:" ++ (py.uuidText asset.id ++ (":" ++ py.uuidText r.id)) := by
    rw [dueKey, String.append_assoc, String.append_assoc]
  have happroaching : approachingKey py asset req
      = "insp_approaching:" ++ (py.uuidText asset.id ++ (":" ++ py.uuidText req.id)) := by
    rw [← String.append_assoc, ← String.append_assoc]
    rfl
  exact insp_due_ne _ _ (hdue.symm.trans (h.trans happroaching))

theorem inspectionSignal_key (T : ℚ) :
    (inspectionSignal py fl asset T r).map SignalItem.signalKey =
      r.fhInterval.bind fun I =>
        if fl I ≤ 0 then none
        else if isInspectionDue fl T (fl I) then some (dueKey py asset r)
        else if hoursRemaining fl T (fl I) ≤ 25 then some (approachingKey py asset r)
        else none := by
  rw [inspectionSignal]
  cases r.fhInterval with
  | none => rfl
  | some I =>
    simp only [Option.bind_some]
    split_ifs <;> rfl

theorem alarmed_iff {T : ℚ} {key : String} :
    (∃ item, inspectionSignal py fl asset T r = some item ∧ item.signalKey = key) ↔
      ∃ I, r.fhInterval = some I ∧ ((DueInHours fl T I ∧ dueKey py asset r = key) ∨
        (SoonInHours fl T I ∧ approachingKey py asset r = key)) := by
  rw [← Option.map_eq_some_iff, inspectionSignal_key, Option.bind_eq_some_iff]
  refine exists_congr fun I => and_congr_right fun _ => ?_
  rw [DueInHours, SoonInHours]
  split_ifs with hneg hdue hsoon
  · simp [not_lt.2 hneg]
  · simp [not_le.1 hneg, hdue]
  · simp [not_le.1 hneg, hdue, hsoon]
  · simp [hdue, hsoon]

theorem aircraft_of_unique (hunique : AircraftUnique db) (organizationId assetId : UUID) :
    ∃ aircraft, scalarOneOrNone (db.aircraft.select fun a =>
        a.organizationId = organizationId && a.assetId = some assetId) = .ok aircraft ∧
      ∀ ac, aircraft = some ac ↔ ac ∈ db.aircraft.rows ∧ ac.organizationId = organizationId ∧
        ac.assetId = some assetId := by
  cases hselect : db.aircraft.select fun a =>
      a.organizationId = organizationId && a.assetId = some assetId with
  | nil =>
    refine ⟨none, rfl, fun ac => ?_⟩
    constructor
    · intro h
      cases h
    · rintro ⟨hac, horg, hasset⟩
      have hmem : ac ∈ ([] : List Aircraft) := by
        rw [← hselect, Table.mem_select]
        exact ⟨hac, by simp [horg, hasset]⟩
      cases hmem
  | cons a rest =>
    have hmem : ∀ ac, ac ∈ a :: rest ↔ ac ∈ db.aircraft.rows ∧
        ac.organizationId = organizationId ∧ ac.assetId = some assetId := by
      intro ac
      rw [← hselect, Table.mem_select]
      simp
    obtain ⟨ha, horg, hasset⟩ := (hmem a).1 List.mem_cons_self
    have honly : ∀ ac ∈ db.aircraft.rows, ac.assetId = some assetId → ac = a := by
      intro ac hac hacasset
      refine hunique ac hac a ha (hacasset.trans hasset.symm) ?_
      rw [hacasset]
      exact Option.some_ne_none assetId
    have hone : a :: rest = [a] := by
      rw [← hselect]
      refine Table.select_eq_singleton ha (by simp [horg, hasset]) fun ac hac hp => ?_
      simp only [Bool.and_eq_true, decide_eq_true_eq] at hp
      exact honly ac hac hp.2
    refine ⟨some a, ?_, fun ac => ?_⟩
    · rw [hone]
      rfl
    · constructor
      · intro h
        cases h
        exact ⟨ha, horg, hasset⟩
      · rintro ⟨hac, _, hacasset⟩
        rw [honly ac hac hacasset]

theorem mem_requirementsInScope {aircraft : Option Aircraft}
    (haircraft : ∀ ac, aircraft = some ac ↔ ac ∈ db.aircraft.rows ∧
      ac.organizationId = organizationId ∧ ac.assetId = some asset.id) :
    r ∈ requirementsInScope db organizationId asset aircraft ↔
      r ∈ db.maintenanceRequirements.rows ∧ r.organizationId = organizationId ∧
        Considered db organizationId asset r := by
  have hnames : ∀ a : MaintenanceRequirementApplicability,
      (a.organizationId = organizationId && (a.assetId = some asset.id ||
        aircraft.any fun ac => a.aircraftId = some ac.id)) = true ↔
      Names db organizationId asset a := by
    intro a
    rw [Names, Bool.and_eq_true, Bool.or_eq_true, decide_eq_true_iff, decide_eq_true_iff,
      Option.any_eq_true]
    refine and_congr_right fun _ => or_congr_right ?_
    simp only [decide_eq_true_eq, haircraft, and_assoc]
  simp only [requirementsInScope, Table.mem_select, Bool.and_eq_true, Bool.or_eq_true,
    decide_eq_true_eq, List.isEmpty_iff, List.map_eq_nil_iff, List.contains_iff_mem, List.mem_map,
    Considered]
  refine and_congr_right fun _ => and_congr_right fun _ => or_congr ?_ ?_
  · rw [List.eq_nil_iff_forall_not_mem]
    simp only [Table.mem_select, not_and]
    exact forall_congr' fun a => forall_congr' fun _ => not_congr (hnames a)
  · refine exists_congr fun a => ?_
    rw [and_assoc, ← hnames, Bool.and_eq_true, Bool.or_eq_true, decide_eq_true_iff,
      decide_eq_true_iff]

/-- **WHAT THE EVALUATOR EMITS**, for the requirements of a database whose ids have texts of their
own. -/
theorem emits_iff (hunique : AircraftUnique db) {key : String} :
    Emits py fl db organizationId asset key ↔
      (∃ a, db.getAsset organizationId asset.id = .ok a) ∧
        ∃ r ∈ db.maintenanceRequirements.rows, r.organizationId = organizationId ∧
          Considered db organizationId asset r ∧
          ∃ I, r.fhInterval = some I ∧
            ((DueInHours fl (totalHours fl db organizationId asset) I ∧ dueKey py asset r = key) ∨
              (SoonInHours fl (totalHours fl db organizationId asset) I ∧
                approachingKey py asset r = key)) := by
  obtain ⟨aircraft, haircraft, hspec⟩ :=
    aircraft_of_unique hunique organizationId asset.id
  have hscope := fun r => mem_requirementsInScope (r := r) hspec
  cases hasset : db.getAsset organizationId asset.id with
  | error e =>
    constructor
    · rintro ⟨items, hitems, _⟩
      rw [evaluateInspectionThresholds, assetHours, getUtilization, hasset] at hitems
      cases hitems
    · rintro ⟨⟨_, hlive⟩, _⟩
      cases hlive
  | ok a =>
    obtain ⟨u, hu⟩ := getUtilization_of_live fl hasset none
    have hitems : evaluateInspectionThresholds py fl db organizationId asset
        = .ok ((requirementsInScope db organizationId asset aircraft).filterMap
            (inspectionSignal py fl asset (totalHours fl db organizationId asset))) := by
      rw [evaluateInspectionThresholds, assetHours, hu, ok_bind, haircraft, totalMinutes_eq hu]
      rfl
    rw [Emits, hitems]
    constructor
    · rintro ⟨_, h, item, hitem, hkey⟩
      cases h
      obtain ⟨r, hr, hsignal⟩ := List.mem_filterMap.1 hitem
      obtain ⟨hrow, horg, hconsidered⟩ := (hscope r).1 hr
      exact ⟨⟨a, rfl⟩, r, hrow, horg, hconsidered, alarmed_iff.1 ⟨item, hsignal, hkey⟩⟩
    · rintro ⟨_, r, hrow, horg, hconsidered, halarmed⟩
      obtain ⟨item, hsignal, hkey⟩ := alarmed_iff.2 halarmed
      exact ⟨_, rfl, item, List.mem_filterMap.2 ⟨r, (hscope r).2 ⟨hrow, horg, hconsidered⟩, hsignal⟩,
        hkey⟩

/-- The ids of the requirements have texts of their own. -/
def DistinctTexts (py : Interpreter) (db : Database) : Prop :=
  ∀ r ∈ db.maintenanceRequirements.rows, ∀ s ∈ db.maintenanceRequirements.rows,
    py.uuidText r.id = py.uuidText s.id → r.id = s.id

theorem emits_due_iff (fl : ℚ → ℚ) (asset : Asset) (hunique : AircraftUnique db) (htexts : DistinctTexts py db)
    (hreq : req ∈ db.maintenanceRequirements.rows) (horg : req.organizationId = organizationId) :
    Emits py fl db organizationId asset (dueKey py asset req) ↔
      (∃ a, db.getAsset organizationId asset.id = .ok a) ∧ Considered db organizationId asset req ∧
        ∃ I, req.fhInterval = some I ∧
          DueInHours fl (totalHours fl db organizationId asset) I := by
  rw [emits_iff hunique]
  refine and_congr_right fun _ => ?_
  constructor
  · rintro ⟨r, hr, _, hconsidered, I, hI, ⟨hdue, hkey⟩ | ⟨_, hkey⟩⟩
    · have hrr : r = req := Table.eq_of_key_eq hr hreq (htexts r hr req hreq (dueKey_inj hkey))
      subst hrr
      exact ⟨hconsidered, I, hI, hdue⟩
    · exact absurd hkey.symm dueKey_ne_approachingKey
  · rintro ⟨hconsidered, I, hI, hdue⟩
    exact ⟨req, hreq, horg, hconsidered, I, hI, Or.inl ⟨hdue, rfl⟩⟩

theorem emits_approaching_iff (fl : ℚ → ℚ) (asset : Asset) (hunique : AircraftUnique db) (htexts : DistinctTexts py db)
    (hreq : req ∈ db.maintenanceRequirements.rows) (horg : req.organizationId = organizationId) :
    Emits py fl db organizationId asset (approachingKey py asset req) ↔
      (∃ a, db.getAsset organizationId asset.id = .ok a) ∧ Considered db organizationId asset req ∧
        ∃ I, req.fhInterval = some I ∧
          SoonInHours fl (totalHours fl db organizationId asset) I := by
  rw [emits_iff hunique]
  refine and_congr_right fun _ => ?_
  constructor
  · rintro ⟨r, hr, _, hconsidered, I, hI, ⟨_, hkey⟩ | ⟨hsoon, hkey⟩⟩
    · exact absurd hkey dueKey_ne_approachingKey
    · have hrr : r = req :=
        Table.eq_of_key_eq hr hreq (htexts r hr req hreq (approachingKey_inj hkey))
      subst hrr
      exact ⟨hconsidered, I, hI, hsoon⟩
  · rintro ⟨hconsidered, I, hI, hsoon⟩
    exact ⟨req, hreq, horg, hconsidered, I, hI, Or.inr ⟨hsoon, rfl⟩⟩

end Emission

/-! ## What the engine reports -/

section Reporting

variable {fl : ℚ → ℚ} {db : Database} {today : Date} {organizationId : UUID} {asset : Asset}
  {req : MaintenanceRequirement}

/-- The interval is used up, by the hours since the last accomplishment. -/
def OverdueInHours (U : ℚ) (I : Int) : Prop := I ≤ U

/-- Nine tenths of it are. -/
def NearlyInHours (fl : ℚ → ℚ) (U : ℚ) (I : Int) : Prop := I ≤ U ∨ fl (fl I * fl (9 / 10)) ≤ U

theorem reportedAs_iff (fl : ℚ → ℚ) (db : Database) (today : Date) (organizationId : UUID)
    (asset : Asset) (htype : req.intervalType = MaintenanceIntervalType.flightHours)
    (status : DueStatus) : ReportedAs fl db today organizationId asset req status ↔
      (∃ a, db.getAsset organizationId asset.id = .ok a) ∧
        (usageDueStatusFor fl req
          (usageHours fl db organizationId asset.id req.id)).1 = status := by
  cases hasset : db.getAsset organizationId asset.id with
  | error e =>
    constructor
    · rintro ⟨item, hitem, _⟩
      rw [evaluateForAsset_of_gone htype hasset] at hitem
      cases hitem
    · rintro ⟨⟨_, hlive⟩, _⟩
      cases hlive
  | ok a =>
    obtain ⟨item, hitem, hstatus⟩ :=
      evaluateForAsset_flightHours fl today htype hasset
    rw [ReportedAs, hitem, ← hstatus]
    constructor
    · rintro ⟨_, h, hreported⟩
      cases h
      exact ⟨⟨a, rfl⟩, hreported⟩
    · rintro ⟨_, hreported⟩
      exact ⟨item, rfl, hreported⟩

theorem status_overdue_iff (htype : req.intervalType = MaintenanceIntervalType.flightHours)
    {U : ℚ} : (usageDueStatusFor fl req U).1 = .overdue ↔
      ∃ I, req.fhInterval = some I ∧ OverdueInHours U I := by
  rw [usageDueStatusFor, usageInterval_flightHours htype]
  cases req.fhInterval with
  | none => simp
  | some I =>
    simp only [Option.some.injEq, exists_eq_left', OverdueInHours]
    split_ifs with hover hnear
    · simp [hover]
    · simp [hover]
    · simp [hover]

theorem status_notDue_iff (htype : req.intervalType = MaintenanceIntervalType.flightHours)
    {U : ℚ} : (usageDueStatusFor fl req U).1 = .notDue ↔
      ∃ I, req.fhInterval = some I ∧ ¬NearlyInHours fl U I := by
  rw [usageDueStatusFor, usageInterval_flightHours htype]
  cases req.fhInterval with
  | none => simp
  | some I =>
    simp only [Option.some.injEq, exists_eq_left', NearlyInHours]
    split_ifs with hover hnear
    · simp [hover]
    · simp [hover, hnear]
    · simp [hover, hnear]

end Reporting

/-! ## Where the two agree -/

section Agreement

variable {py : Interpreter} {fl : ℚ → ℚ} {db : Database} {today : Date} {organizationId : UUID}
  {asset : Asset} {req : MaintenanceRequirement}

theorem considered_of_applies (h : Applies db organizationId asset req) :
    Considered db organizationId asset req := by
  obtain ⟨a, ha, hid⟩ := List.mem_map.1 h
  obtain ⟨hrow, hnamed⟩ := Table.mem_select.1 ha
  simp only [Bool.and_eq_true, decide_eq_true_eq] at hnamed
  exact Or.inr ⟨a, hrow, ⟨hnamed.1, Or.inl hnamed.2⟩, hid⟩

theorem exists_interval_iff {I : Int} (hI : req.fhInterval = some I) {P : Int → Prop} :
    (∃ J, req.fhInterval = some J ∧ P J) ↔ P I := by
  rw [hI]
  constructor
  · rintro ⟨J, hJ, h⟩
    cases hJ
    exact h
  · intro h
    exact ⟨I, rfl, h⟩

theorem aligned_congr {due soon overdue nearly due' soon' overdue' nearly' : Int → Prop}
    (h : ∀ I, req.fhInterval = some I →
      (due I ↔ due' I) ∧ (soon I ↔ soon' I) ∧ (overdue I ↔ overdue' I) ∧ (nearly I ↔ nearly' I)) :
    Aligned db organizationId asset req due soon overdue nearly ↔
      Aligned db organizationId asset req due' soon' overdue' nearly' := by
  refine forall_congr' fun _ => forall_congr' fun _ => forall_congr' fun I =>
    forall_congr' fun hI => ?_
  obtain ⟨hdue, hsoon, hover, hnear⟩ := h I hI
  rw [hdue, hsoon, hover, hnear]

/-- In the floats that both compute. -/
theorem agree_iff_in_hours (today : Date) (hunique : AircraftUnique db)
    (htexts : DistinctTexts py db) (hreq : req ∈ db.maintenanceRequirements.rows)
    (horg : req.organizationId = organizationId)
    (htype : req.intervalType = MaintenanceIntervalType.flightHours) :
    InspectionsAgree py fl db today organizationId asset req ↔
      Aligned db organizationId asset req (DueInHours fl (totalHours fl db organizationId asset))
        (SoonInHours fl (totalHours fl db organizationId asset))
        (OverdueInHours (usageHours fl db organizationId asset.id req.id))
        (NearlyInHours fl (usageHours fl db organizationId asset.id req.id)) := by
  have hdue := emits_due_iff fl asset hunique htexts hreq horg
  have hsoon := emits_approaching_iff fl asset hunique htexts hreq horg
  have hover := (reportedAs_iff fl db today organizationId asset htype .overdue).trans
    (and_congr_right' (status_overdue_iff htype))
  have hnot := (reportedAs_iff fl db today organizationId asset htype .notDue).trans
    (and_congr_right' (status_notDue_iff htype))
  constructor
  · rintro ⟨hagree, hsilent⟩ hlive hconsidered I hI
    rw [and_iff_right hlive, exists_interval_iff hI] at hover hnot
    rw [and_iff_right hlive, and_iff_right hconsidered, exists_interval_iff hI] at hdue hsoon
    refine ⟨fun happlies => ⟨?_, fun happroaching => ?_⟩, fun hnone => ?_⟩
    · rw [← hdue, ← hover, hagree, and_iff_right happlies]
    · by_contra hfar
      exact (hsilent (Or.inl (hnot.2 hfar))).2 (hsoon.2 happroaching)
    · obtain ⟨hnodue, hnosoon⟩ := hsilent (Or.inr hnone)
      exact ⟨fun h => hnodue (hdue.2 h), fun h => hnosoon (hsoon.2 h)⟩
  · intro haligned
    refine ⟨?_, ?_⟩
    · constructor
      · intro hemits
        obtain ⟨hlive, hconsidered, I, hI, halarm⟩ := hdue.1 hemits
        obtain ⟨hif, hifnot⟩ := haligned hlive hconsidered I hI
        by_cases happlies : Applies db organizationId asset req
        · exact ⟨happlies, hover.2 ⟨hlive, I, hI, (hif happlies).1.1 halarm⟩⟩
        · exact absurd halarm (hifnot happlies).1
      · rintro ⟨happlies, hreported⟩
        obtain ⟨hlive, I, hI, hused⟩ := hover.1 hreported
        have hconsidered := considered_of_applies happlies
        exact hdue.2 ⟨hlive, hconsidered, I, hI,
          ((haligned hlive hconsidered I hI).1 happlies).1.2 hused⟩
    · intro hquiet
      refine ⟨fun hemits => ?_, fun hemits => ?_⟩
      · obtain ⟨hlive, hconsidered, I, hI, halarm⟩ := hdue.1 hemits
        obtain ⟨hif, hifnot⟩ := haligned hlive hconsidered I hI
        by_cases happlies : Applies db organizationId asset req
        · rcases hquiet with hreported | hnone
          · rw [and_iff_right hlive, exists_interval_iff hI] at hnot
            exact hnot.1 hreported (Or.inl ((hif happlies).1.1 halarm))
          · exact hnone happlies
        · exact (hifnot happlies).1 halarm
      · obtain ⟨hlive, hconsidered, I, hI, halarm⟩ := hsoon.1 hemits
        obtain ⟨hif, hifnot⟩ := haligned hlive hconsidered I hI
        by_cases happlies : Applies db organizationId asset req
        · rcases hquiet with hreported | hnone
          · rw [and_iff_right hlive, exists_interval_iff hI] at hnot
            exact hnot.1 hreported ((hif happlies).2 halarm)
          · exact hnone happlies
        · exact (hifnot happlies).2 halarm

/-- The totals are in range, and no tie. -/
structure InRange (M s I : Int) : Prop where
  pos : 0 < I
  total : 0 ≤ M ∧ M + 60 * I ≤ 2 ^ 40
  since : 0 ≤ s ∧ s + 60 * I ≤ 2 ^ 40
  noTie : NoTie M I
  noTieSince : s ≠ 54 * I

theorem agree_iff_in_minutes (today : Date) (hunique : AircraftUnique db)
    (htexts : DistinctTexts py db) (hreq : req ∈ db.maintenanceRequirements.rows)
    (horg : req.organizationId = organizationId)
    (htype : req.intervalType = MaintenanceIntervalType.flightHours) (hfl : Rounds 53 1022 fl)
    (hrange : ∀ I, req.fhInterval = some I →
      InRange (totalMinutes fl db organizationId asset)
        (minutesSinceCheck fl db organizationId asset req) I) :
    InspectionsAgree py fl db today organizationId asset req ↔
      Aligned db organizationId asset req
        (fun I => IsDueInMinutes (totalMinutes fl db organizationId asset) I)
        (fun I => ¬IsDueInMinutes (totalMinutes fl db organizationId asset) I ∧
          minutesLeft (totalMinutes fl db organizationId asset) I ≤ 1502)
        (fun I => 60 * I ≤ minutesSinceCheck fl db organizationId asset req)
        (fun I => 54 * I ≤ minutesSinceCheck fl db organizationId asset req) := by
  rw [agree_iff_in_hours today hunique htexts hreq horg htype]
  refine aligned_congr fun I hI => ?_
  obtain ⟨hpos, ⟨hM, hMmax⟩, ⟨hs, hsmax⟩, htie, htieSince⟩ := hrange I hI
  have hexact : fl I = I := hfl.exact I (by rw [abs_of_pos hpos]; omega)
  have hposq : (0 : ℚ) < I := by exact_mod_cast hpos
  obtain ⟨hdue, hsoon⟩ := alarm_in_minutes hfl hpos hM hMmax htie
  have hused := interval_used_iff hfl hs hsmax hpos
  have hmost := most_used_iff hfl hs hsmax hpos htieSince
  rw [DueInHours, SoonInHours, OverdueInHours, NearlyInHours, hexact, totalHours, usageHours]
  rw [totalMinutes] at *
  rw [minutesSinceCheck] at *
  rw [and_iff_right hposq, and_iff_right hposq, ← Bool.not_eq_true, hdue, hsoon, hused, hmost]
  refine ⟨Iff.rfl, Iff.rfl, Iff.rfl, ?_⟩
  omega

/-- **WHERE ALARMS AND ENGINE AGREE** on a requirement of flight hours: in the floats that both
compute, and in whole minutes where no total is a tie. -/
theorem inspections_agree_iff (py : Interpreter) (fl : ℚ → ℚ) (today : Date) (asset : Asset)
    (hunique : AircraftUnique db) (htexts : DistinctTexts py db)
    (hreq : req ∈ db.maintenanceRequirements.rows) (horg : req.organizationId = organizationId)
    (htype : req.intervalType = MaintenanceIntervalType.flightHours) :
    (InspectionsAgree py fl db today organizationId asset req ↔
      Aligned db organizationId asset req (DueInHours fl (totalHours fl db organizationId asset))
        (SoonInHours fl (totalHours fl db organizationId asset))
        (OverdueInHours (usageHours fl db organizationId asset.id req.id))
        (NearlyInHours fl (usageHours fl db organizationId asset.id req.id))) ∧
    (Rounds 53 1022 fl →
      (∀ I, req.fhInterval = some I → InRange (totalMinutes fl db organizationId asset)
        (minutesSinceCheck fl db organizationId asset req) I) →
      (InspectionsAgree py fl db today organizationId asset req ↔
        Aligned db organizationId asset req
          (fun I => IsDueInMinutes (totalMinutes fl db organizationId asset) I)
          (fun I => ¬IsDueInMinutes (totalMinutes fl db organizationId asset) I ∧
            minutesLeft (totalMinutes fl db organizationId asset) I ≤ 1502)
          (fun I => 60 * I ≤ minutesSinceCheck fl db organizationId asset req)
          (fun I => 54 * I ≤ minutesSinceCheck fl db organizationId asset req))) :=
  ⟨agree_iff_in_hours today hunique htexts hreq horg htype,
    agree_iff_in_minutes today hunique htexts hreq horg htype⟩

end Agreement

/-- The float of the interpreter, of its normal numbers. -/
def binary64 : ℚ → ℚ := toBinary FlightService.roundHalfEven 53

theorem binary64_rounds : Rounds 53 1022 binary64 :=
  Rounding.toBinary_rounds nearest_roundHalfEven 53 1022

/-- A drone with one flight. -/
def checkedDrone : Asset :=
  { id := 0, organizationId := 1, assetType := AssetType.drone, registration := some "DR-1" }

/-- Its inspection, every 100 hours of flight. -/
def hundredHours : MaintenanceRequirement :=
  { id := 0, organizationId := 1, intervalType := MaintenanceIntervalType.flightHours
    fhInterval := some 100 }

/-- The drone has flown so many minutes, and the inspection has never been accomplished. -/
def uninspected (minutes : Int) : Database :=
  { assets := .single checkedDrone
    flights := .single { id := 0, organizationId := 1, assetId := 0, flownAt := 0
                         durationMinutes := minutes }
    maintenanceRequirements := .single hundredHours
    requirementApplicabilities :=
      .single { id := 0, organizationId := 1, requirementId := 0, assetId := some 0 } }

section Examples

variable (minutes : Int)

theorem uninspected_unique : AircraftUnique (uninspected minutes) := by
  intro a ha
  cases ha

theorem uninspected_texts : DistinctTexts .ascii (uninspected minutes) := by
  intro r hr s hs _
  rw [List.mem_singleton.1 hr, List.mem_singleton.1 hs]

theorem uninspected_total :
    totalMinutes binary64 (uninspected minutes) 1 checkedDrone = 0 + (minutes + 0) := rfl

theorem uninspected_since :
    minutesSinceCheck binary64 (uninspected minutes) 1 checkedDrone hundredHours
      = 0 + (minutes + 0) := rfl

theorem uninspected_inRange (h : 0 ≤ minutes) (hmax : minutes ≤ 2 ^ 39) (htie : NoTie minutes 100)
    (htie' : minutes ≠ 5400) (I : Int) (hI : hundredHours.fhInterval = some I) :
    InRange (totalMinutes binary64 (uninspected minutes) 1 checkedDrone)
      (minutesSinceCheck binary64 (uninspected minutes) 1 checkedDrone hundredHours) I := by
  cases hI
  rw [uninspected_total, uninspected_since, zero_add, add_zero]
  exact ⟨by norm_num, ⟨h, by omega⟩, ⟨h, by omega⟩, htie, htie'⟩

theorem uninspected_live :
    ∃ a, (uninspected minutes).getAsset 1 checkedDrone.id = .ok a := ⟨checkedDrone, rfl⟩

theorem uninspected_applies : Applies (uninspected minutes) 1 checkedDrone hundredHours :=
  List.mem_singleton_self _

end Examples

/-- After 150 hours the inspection is overdue, and no alarm says so. -/
theorem uninspected_silent :
    ¬∀ (py : Interpreter) (fl : ℚ → ℚ) (db : Database) (today : Date) (organizationId : UUID)
      (asset : Asset) (req : MaintenanceRequirement), AircraftUnique db → DistinctTexts py db →
      req ∈ db.maintenanceRequirements.rows → req.organizationId = organizationId →
      req.intervalType = MaintenanceIntervalType.flightHours → Rounds 53 1022 fl →
      InspectionsAgree py fl db today organizationId asset req := by
  intro hall
  have hagree := hall .ascii binary64 (uninspected 9000) 0 1 checkedDrone hundredHours
    (uninspected_unique 9000) (uninspected_texts 9000) (List.mem_singleton_self _) rfl rfl
    binary64_rounds
  have haligned := (agree_iff_in_minutes 0 (uninspected_unique 9000) (uninspected_texts 9000)
    (List.mem_singleton_self _) rfl rfl binary64_rounds
    (uninspected_inRange 9000 (by norm_num) (by norm_num)
      ⟨by decide, by decide, by decide⟩ (by norm_num))).1 hagree
  obtain ⟨hif, _⟩ := haligned (uninspected_live 9000)
    (considered_of_applies (uninspected_applies 9000)) 100 rfl
  have hdue : IsDueInMinutes 9000 100 := (hif (uninspected_applies 9000)).1.2 (by decide)
  exact absurd hdue (by decide)

/-- After 100 hours both say so. -/
theorem uninspected_alarmed :
    InspectionsAgree .ascii binary64 (uninspected 6000) 0 1 checkedDrone hundredHours := by
  refine ((inspections_agree_iff .ascii binary64 0 checkedDrone (uninspected_unique 6000)
    (uninspected_texts 6000) (List.mem_singleton_self _) rfl rfl).2 binary64_rounds
    (uninspected_inRange 6000 (by norm_num) (by norm_num)
      ⟨by decide, by decide, by decide⟩ (by norm_num))).2 ?_
  intro _ _ I hI
  cases hI
  refine ⟨fun _ => ⟨?_, ?_⟩, fun hnone => absurd (uninspected_applies 6000) hnone⟩
  · show IsDueInMinutes 6000 100 ↔ (60 : Int) * 100 ≤ 6000
    decide
  · intro _
    show (54 : Int) * 100 ≤ 6000
    decide

end ProactiveIntelligenceService
end AeroComply
