import AeroComply.Import.Service

/-!
# Importable — validated rows, and the services that must take them

A row without an error is committed through the service of its domain, which checks
again: the schema and the columns bound the lengths, the plan bounds the number of
assets, and registrations are compared exactly, with deleted assets too.  The
validation looks at none of this.  Here are the aircraft rows: what the validation
ensures of one, and when its commit goes through after the rows before it.
-/

namespace AeroComply

open Relational (Table)
open Sessions (Call)
open LimitEnforcementService (liveAssets ceilingInForce checkAssetCreationLimit
  checkCreationLimit_eq_ok)

namespace ImportService

/-- The identifiers of new rows are not in use, and no two import rows are given the same. -/
structure FreshIds (run : CommitRun) (db : Database) : Prop where
  asset : ∀ n, (run.ids n).assetId ∉ db.assets.rows.map Asset.id
  aircraft : ∀ n, (run.ids n).aircraftId ∉ db.aircraft.rows.map Aircraft.id
  flight : ∀ n, (run.ids n).flightId ∉ db.flights.rows.map Flight.id
  assetId_injective : ∀ n m, (run.ids n).assetId = (run.ids m).assetId → n = m
  aircraftId_injective : ∀ n m, (run.ids n).aircraftId = (run.ids m).aircraftId → n = m
  flightId_injective : ∀ n m, (run.ids n).flightId = (run.ids m).flightId → n = m
  notAircraft : ∀ n, ∀ a ∈ db.aircraft.rows,
    a.id ≠ (run.ids n).assetId ∧ a.assetId ≠ some (run.ids n).assetId
  notCarrying : ∀ n, ∀ b ∈ db.batteries.rows, b.assetId ≠ some (run.ids n).assetId

variable {c : Call Database Error Unit} {Data : Type}

theorem result_of_ok {w w' : Database} (h : c ⟨w, w⟩ = (.ok (), ⟨w', w'⟩)) :
    (Sessions.answer c w, Sessions.left c w) = (.ok (), w') := by
  rw [Sessions.answer, Sessions.left, h]

theorem result_of_error {w : Database} {s : Sessions.Session Database} {e : Error}
    (h : c ⟨w, w⟩ = (.error e, s)) :
    (Sessions.answer c w, Sessions.left c w) = (.error e, s.committed) := by
  rw [Sessions.answer, Sessions.left, h]

/-- The limit on the assets, with some more of them than the tables hold. -/
def BelowLimit (db : Database) (organizationId : UUID) (now : DateTime) (more : Nat) : Prop :=
  ((((liveAssets db organizationId).length + more : Nat) : Int) : WithTop Int)
    < ceilingInForce db organizationId now "max_assets"

theorem checkLimit_of_added {db w : Database} {organizationId : UUID} {now : DateTime}
    {added : List Asset} (hceiling : ceilingInForce w organizationId now "max_assets"
      = ceilingInForce db organizationId now "max_assets")
    (hassets : w.assets.rows = db.assets.rows ++ added)
    (hadded : ∀ a ∈ added, a.organizationId = organizationId ∧ a.deletedAt = none) {x : Unit} :
    checkAssetCreationLimit w organizationId now = .ok x ↔
      BelowLimit db organizationId now added.length := by
  have hlive : (liveAssets w organizationId).length
      = (liveAssets db organizationId).length + added.length := by
    rw [liveAssets, Table.select, hassets, List.filter_append, List.length_append]
    congr 2
    refine List.filter_eq_self.2 ?_
    intro a ha
    obtain ⟨horg, hlive⟩ := hadded a ha
    simp [horg, hlive]
  rw [checkAssetCreationLimit, checkCreationLimit_eq_ok, hceiling, hlive, BelowLimit]

theorem notMem_of_fresh {Row Data : Type} {rows : List Row} {earlier : List (RowResult Data)}
    {row : RowResult Data → Row} {key : Row → UUID} {id : UUID} (hold : id ∉ rows.map key)
    (hearlier : ∀ e ∈ earlier, key (row e) ≠ id) : id ∉ (rows ++ earlier.map row).map key := by
  rw [List.map_append, List.mem_append, List.map_map]
  rintro (h | h)
  · exact hold h
  · obtain ⟨e, he, hid⟩ := List.mem_map.1 h
    exact hearlier e he hid

theorem kept_of_split {rows earlier rest : List (RowResult Data)} {row : RowResult Data}
    (hsplit : importable rows = earlier ++ row :: rest) :
    row ∈ rows ∧ row.status ≠ .invalid ∧ row.matchAction ≠ some .skip := by
  have hmem : row ∈ importable rows := by
    rw [hsplit]
    exact List.mem_append_right _ List.mem_cons_self
  simpa [importable] using hmem

theorem ne_of_split {R : RowResult Data → RowResult Data → Prop}
    {rows earlier rest : List (RowResult Data)} {row : RowResult Data}
    (h : rows.Pairwise fun a b => a.status ≠ .invalid → b.status ≠ .invalid → R a b)
    (hsplit : importable rows = earlier ++ row :: rest) : ∀ e ∈ earlier, R e row := by
  intro e he
  have hgood : ∀ r ∈ importable rows, r.status ≠ .invalid := by
    intro r hr
    obtain ⟨earlier, rest, hsplit⟩ := List.append_of_mem hr
    exact (kept_of_split hsplit).2.1
  have hpairs : (importable rows).Pairwise
      fun a b => a.status ≠ .invalid → b.status ≠ .invalid → R a b := h.filter _
  rw [hsplit] at hgood hpairs
  exact (List.pairwise_append.1 hpairs).2.2 e he row List.mem_cons_self
    (hgood e (List.mem_append_left _ he))
    (hgood row (List.mem_append_right _ List.mem_cons_self))

/-! ## Aircraft -/

section Aircraft

variable (db : Database) (run : CommitRun) (organizationId : UUID)

def importedAsset (row : RowResult AircraftData) : Asset where
  id := (run.ids row.rowNumber).assetId
  organizationId
  assetType := AssetType.aircraft
  registration := some row.data.registration
  model := some row.data.aircraftType
  serialNumber := some row.data.msn
  status := row.data.status
  createdAt := run.clock row.rowNumber

def importedAircraft (row : RowResult AircraftData) : Aircraft where
  id := (run.ids row.rowNumber).aircraftId
  organizationId
  registration := row.data.registration
  msn := row.data.msn
  aircraftType := row.data.aircraftType
  status := row.data.status
  assetId := some (run.ids row.rowNumber).assetId

/-- The texts of an aircraft are not too long for the schema. -/
def aircraftFits (d : AircraftData) : Bool :=
  d.registration.length ≤ 16 && d.msn.length ≤ 64 && d.aircraftType.length ≤ 128 &&
    d.status.length ≤ 32

/-- The row can be committed after the earlier ones: its texts fit, the limit leaves room, and no
asset of the organization, deleted or not, has its registration. -/
def AircraftAccepted (earlier : List (RowResult AircraftData)) (row : RowResult AircraftData) :
    Prop :=
  aircraftFits row.data = true ∧
    BelowLimit db organizationId (run.clock row.rowNumber) earlier.length ∧
    ∀ a ∈ db.assets.rows, a.organizationId = organizationId →
      a.registration ≠ some row.data.registration

/-- The tables after rows that were all committed; the job of the commit is among what changes. -/
structure AircraftReached (earlier : List (RowResult AircraftData)) (w : Database) : Prop where
  frame : ∃ assets aircraft importJobs auditEvents,
    w = { db with assets, aircraft, importJobs, auditEvents }
  assets : w.assets.rows = db.assets.rows ++ earlier.map (importedAsset run organizationId)
  aircraft : w.aircraft.rows = db.aircraft.rows ++ earlier.map (importedAircraft run organizationId)

/-- What the validation ensures of a row that it finds no error in. -/
structure AircraftChecked (row : RowResult AircraftData) : Prop where
  registration : row.data.registration ≠ ""
  msn : row.data.msn ≠ ""
  aircraftType : row.data.aircraftType ≠ ""
  free : ∀ a ∈ db.aircraft.rows, a.organizationId = organizationId →
    a.registration ≠ row.data.registration

variable {db run organizationId}

theorem aircraftReached_nil (importJobs : Table ImportJob) :
    AircraftReached db run organizationId [] { db with importJobs } where
  frame := ⟨db.assets, db.aircraft, importJobs, db.auditEvents, rfl⟩
  assets := by simp
  aircraft := by simp

/-- The schema takes the row exactly when its texts are not too long: none of them is empty. -/
theorem aircraftRequest_cases {d : AircraftData} (hregistration : d.registration ≠ "")
    (hmsn : d.msn ≠ "") (htype : d.aircraftType ≠ "") :
    (aircraftFits d = true ∧ ∃ payload, aircraftRequest d = .ok payload ∧
      payload.registration = d.registration ∧ payload.msn = d.msn ∧
      payload.aircraftType = d.aircraftType ∧ payload.status = d.status) ∨
    (aircraftFits d = false ∧ ∃ e, aircraftRequest d = .error e) := by
  have hpos : ∀ {s : String}, s ≠ "" → 1 ≤ s.length :=
    fun hs => Nat.one_le_iff_ne_zero.2 fun h => hs (String.length_eq_zero_iff.1 h)
  rw [aircraftRequest]
  by_cases h : (1 ≤ d.registration.length ∧ d.registration.length ≤ 16) ∧
      (1 ≤ d.msn.length ∧ d.msn.length ≤ 64) ∧
      (1 ≤ d.aircraftType.length ∧ d.aircraftType.length ≤ 128) ∧ d.status.length ≤ 32
  · rw [dif_pos h]
    refine Or.inl ⟨?_, _, rfl, rfl, rfl, rfl, rfl⟩
    simp only [aircraftFits, Bool.and_eq_true, decide_eq_true_eq]
    exact ⟨⟨⟨h.1.2, h.2.1.2⟩, h.2.2.1.2⟩, h.2.2.2⟩
  · rw [dif_neg h]
    refine Or.inr ⟨?_, _, rfl⟩
    rw [Bool.eq_false_iff]
    intro hfit
    simp only [aircraftFits, Bool.and_eq_true, decide_eq_true_eq] at hfit
    exact h ⟨⟨hpos hregistration, hfit.1.1.1⟩, ⟨hpos hmsn, hfit.1.1.2⟩, ⟨hpos htype, hfit.1.2⟩,
      hfit.2⟩

variable {earlier : List (RowResult AircraftData)} {row : RowResult AircraftData} {w : Database}

theorem creatable_iff (hw : AircraftReached db run organizationId earlier w)
    (hrow : AircraftChecked db organizationId row)
    (hearlier : ∀ e ∈ earlier, e.data.registration ≠ row.data.registration) :
    AircraftService.Creatable w organizationId (run.clock row.rowNumber) row.data.registration ↔
      BelowLimit db organizationId (run.clock row.rowNumber) earlier.length ∧
        ∀ a ∈ db.assets.rows, a.organizationId = organizationId →
          a.registration ≠ some row.data.registration := by
  have hceiling : ceilingInForce w organizationId (run.clock row.rowNumber) "max_assets"
      = ceilingInForce db organizationId (run.clock row.rowNumber) "max_assets" := by
    obtain ⟨_, _, _, _, rfl⟩ := hw.frame
    rfl
  have hlimit := checkLimit_of_added hceiling hw.assets (x := ()) (by
    intro a ha
    obtain ⟨e, _, rfl⟩ := List.mem_map.1 ha
    exact ⟨rfl, rfl⟩)
  rw [List.length_map] at hlimit
  constructor
  · intro h
    refine ⟨hlimit.1 h.limit, fun a ha => h.asset a ?_⟩
    rw [hw.assets]
    exact List.mem_append_left _ ha
  · rintro ⟨hbelow, hfree⟩
    refine ⟨hlimit.2 hbelow, ?_, ?_⟩
    · intro a ha horg
      rw [hw.assets] at ha
      rcases List.mem_append.1 ha with ha | ha
      · exact hfree a ha horg
      · obtain ⟨e, he, rfl⟩ := List.mem_map.1 ha
        exact fun h => hearlier e he (Option.some.inj h)
    · intro a ha horg
      rw [hw.aircraft] at ha
      rcases List.mem_append.1 ha with ha | ha
      · exact hrow.free a ha horg
      · obtain ⟨e, he, rfl⟩ := List.mem_map.1 ha
        exact hearlier e he

theorem commitAircraftRow_cases (hfresh : FreshIds run db)
    (hw : AircraftReached db run organizationId earlier w)
    (hrow : AircraftChecked db organizationId row)
    (hearlier : ∀ e ∈ earlier, e.rowNumber ≠ row.rowNumber ∧
      e.data.registration ≠ row.data.registration) :
    (AircraftAccepted db run organizationId earlier row ∧
      ∃ w', (Sessions.answer (commitAircraftRow run organizationId row) w,
          Sessions.left (commitAircraftRow run organizationId row) w) = (.ok (), w') ∧
        AircraftReached db run organizationId (earlier ++ [row]) w') ∨
    (¬AircraftAccepted db run organizationId earlier row ∧
      ∃ e w', (Sessions.answer (commitAircraftRow run organizationId row) w,
          Sessions.left (commitAircraftRow run organizationId row) w) = (.error e, w')) := by
  have hcreatable := creatable_iff hw hrow fun e he => (hearlier e he).2
  rcases aircraftRequest_cases hrow.registration hrow.msn hrow.aircraftType with
    ⟨hfit, payload, hpayload, hregistration, hmsn, htype, hstatus⟩ | ⟨hfit, e, hpayload⟩
  · -- the identifiers are new among the rows of the earlier import rows, too
    have hassetId : (run.ids row.rowNumber).assetId ∉ w.assets.rows.map Asset.id := by
      rw [hw.assets]
      exact notMem_of_fresh (hfresh.asset _) fun e he hid =>
        (hearlier e he).1 (hfresh.assetId_injective _ _ hid)
    have haircraftId : (run.ids row.rowNumber).aircraftId ∉ w.aircraft.rows.map Aircraft.id := by
      rw [hw.aircraft]
      exact notMem_of_fresh (hfresh.aircraft _) fun e he hid =>
        (hearlier e he).1 (hfresh.aircraftId_injective _ _ hid)
    have hlink : ∀ a ∈ w.aircraft.rows, a.assetId ≠ some (run.ids row.rowNumber).assetId := by
      intro a ha
      rw [hw.aircraft] at ha
      rcases List.mem_append.1 ha with ha | ha
      · exact (hfresh.notAircraft _ a ha).2
      · obtain ⟨e, he, rfl⟩ := List.mem_map.1 ha
        exact fun h => (hearlier e he).1 (hfresh.assetId_injective _ _ (Option.some.inj h))
    have hasset : AircraftService.newAsset (run.ids row.rowNumber).assetId organizationId
        (run.clock row.rowNumber) payload = importedAsset run organizationId row := by
      rw [AircraftService.newAsset, hregistration, hmsn, htype, hstatus]
      rfl
    have haircraft : AircraftService.newAircraft (run.ids row.rowNumber).aircraftId
        (run.ids row.rowNumber).assetId organizationId payload
          = importedAircraft run organizationId row := by
      rw [AircraftService.newAircraft, hregistration, hmsn, htype, hstatus]
      rfl
    rcases AircraftService.createAircraft_cases none payload hassetId haircraftId hlink with
      ⟨hcan, assets, aircraft, auditEvents, row', hcreate, hassets, haircraftRows⟩ |
      ⟨hcannot, e, hcreate⟩
    · rw [hregistration] at hcan
      refine Or.inl ⟨⟨hfit, hcreatable.1 hcan⟩, { w with assets, aircraft, auditEvents }, ?_, ?_⟩
      · refine result_of_ok (Sessions.transaction_of_ok ?_)
        rw [hpayload, ok_bind]
        dsimp only
        rw [hcreate]
        rfl
      · refine ⟨?_, ?_, ?_⟩
        · obtain ⟨_, _, importJobs, _, rfl⟩ := hw.frame
          exact ⟨assets, aircraft, importJobs, auditEvents, rfl⟩
        · rw [List.map_append, ← List.append_assoc, ← hw.assets, List.map_singleton, ← hasset]
          exact hassets
        · rw [List.map_append, ← List.append_assoc, ← hw.aircraft, List.map_singleton, ← haircraft]
          exact haircraftRows
    · rw [hregistration] at hcannot
      refine Or.inr ⟨fun h => hcannot (hcreatable.2 h.2), e, w, ?_⟩
      refine result_of_error (Sessions.transaction_of_error ?_)
      rw [hpayload, ok_bind]
      dsimp only
      rw [hcreate]
      rfl
  · refine Or.inr ⟨?_, e, w, ?_⟩
    · rintro ⟨hfit', _⟩
      rw [hfit] at hfit'
      cases hfit'
    · refine result_of_error (Sessions.transaction_of_error ?_)
      rw [hpayload]
      rfl

theorem aircraft_validated {py : Interpreter} {rawRows : List (Dict Cell)}
    {columnMapping : Dict String} {rows : List (RowResult AircraftData)}
    (h : validateAircraftRows py db organizationId rawRows columnMapping = .ok rows) :
    (∀ r ∈ rows, r.status ≠ .invalid → AircraftChecked db organizationId r) ∧
      rows.Pairwise fun a b => a.status ≠ .invalid → b.status ≠ .invalid →
        a.rowNumber ≠ b.rowNumber ∧ a.data.registration ≠ b.data.registration := by
  have hpass : ∀ {existing seen : List String} {number : Nat} {rawRow : Dict Cell}
      {r : RowResult AircraftData} {seen' : List String},
      validateAircraftRow py existing columnMapping seen number rawRow = .ok (r, seen') →
      ∃ reading, r = judgeAircraft py existing seen number reading ∧
        seen' = seenAircraft py seen reading := by
    intro existing seen number rawRow r seen' hone
    obtain ⟨reading, _, hone⟩ := bind_eq_ok.1 hone
    cases hone
    exact ⟨reading, rfl, rfl⟩
  constructor
  · refine forall_of_validateRows (P := fun r => r.status ≠ .invalid →
      AircraftChecked db organizationId r) ?_ rawRows [] 1 rows h
    intro seen number rawRow r seen' hone hvalid
    obtain ⟨reading, rfl, _⟩ := hpass hone
    obtain ⟨hregistration, hmsn, htype, hnew, _⟩ := judgeAircraft_ne_invalid py hvalid
    refine ⟨hregistration, hmsn, htype, ?_⟩
    intro a ha horg heq
    refine hnew (List.mem_map.2 ⟨a, Table.mem_select.2 ⟨ha, by simp [horg]⟩, ?_⟩)
    rw [heq]
    rfl
  · have hnumbers : rows.Pairwise fun a b => a.rowNumber ≠ b.rowNumber := by
      refine ne_rowNumber_of_validateRows ?_ rawRows [] 1 rows h
      intro seen number rawRow r seen' hone
      obtain ⟨reading, rfl, _⟩ := hpass hone
      rfl
    have hkeys := (pairwise_of_validateRows (fun seen k => k ∈ seen) (fun r => r.status ≠ .invalid)
      (fun r => py.upper r.data.registration) ?_ rawRows [] 1 rows h).2
    · refine hnumbers.imp₂ ?_ hkeys
      intro a b hnumber hkey ha hb
      exact ⟨hnumber, fun heq => hkey ha hb (congrArg py.upper heq)⟩
    · intro seen number rawRow r seen' hone
      obtain ⟨reading, rfl, rfl⟩ := hpass hone
      constructor
      · intro k hk
        rw [seenAircraft]
        split
        · exact hk
        · exact List.mem_append_left _ hk
      · intro hvalid
        obtain ⟨hregistration, _, _, _, hseen⟩ := judgeAircraft_ne_invalid py hvalid
        refine ⟨hseen, ?_⟩
        rw [seenAircraft, if_neg hregistration]
        exact List.mem_append_right _ (List.mem_singleton.2 rfl)

end Aircraft

end ImportService
end AeroComply
