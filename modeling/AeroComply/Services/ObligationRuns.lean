import AeroComply.Lib.Runs
import AeroComply.Services.Obligation

/-!
# ObligationRuns — obligations over sequences of creations

`create_obligation` checks the requirement, the aircraft and, if there is no aircraft,
the asset; it looks for an obligation of the asset, if there is one, and of the aircraft
otherwise.  An asset that is named beside an aircraft is taken as it is.
`obligations_proper_iff` says which sequences keep obligations inside their tenant and
unique.
-/

namespace AeroComply

open Relational (Table)

namespace ObligationService

open Runs (StepsMeet attempt visited)

/-- A call of `create_obligation`. -/
structure ObligationCall where
  today : Date
  newId : UUID
  organizationId : UUID
  actorUserId : Option UUID := none
  payload : ComplianceObligationCreateRequest

/-- The foreign keys of a new obligation that the call leaves to the server. -/
def referencesHold (db : Database) (o : ComplianceObligation) : Bool :=
  o.assetId.all (fun id => (db.assets.find? id).isSome) &&
    o.applicabilityEvaluationId.all (fun id => (db.evaluations.find? id).isSome) &&
    o.assignedUserId.all (fun id => (db.users.find? id).isSome)

/-- `create_obligation`, with these foreign keys. -/
def create (db : Database) (c : ObligationCall) : Except Error Database := do
  let result ← createObligation db c.today c.newId c.organizationId c.actorUserId c.payload
  raiseIf ((db.obligations.find? result.2.id).isNone && !referencesHold db result.2) .integrity
  pure result.1

/-! ## The promises -/

/-- The obligation is inside its tenant, and its asset is its aircraft's own. -/
structure Isolated (db : Database) (o : ComplianceObligation) : Prop where
  requirement : ∃ r ∈ db.requirements.rows, r.id = o.requirementId ∧
    r.organizationId = o.organizationId
  asset : ∀ s, o.assetId = some s → ∃ a ∈ db.assets.rows, a.id = s ∧
    a.organizationId = o.organizationId
  aircraft : ∀ c, o.aircraftId = some c → ∃ ac ∈ db.aircraft.rows, ac.id = c ∧
    ac.organizationId = o.organizationId
  own : ∀ c s, o.aircraftId = some c → o.assetId = some s → ∃ ac ∈ db.aircraft.rows, ac.id = c ∧
    ac.assetId = some s

/-- All obligations are, and there is one for a requirement and an asset or an aircraft. -/
structure Proper (db : Database) : Prop where
  isolated : ∀ o ∈ db.obligations.rows, Isolated db o
  onePerAsset : ∀ o ∈ db.obligations.rows, ∀ o' ∈ db.obligations.rows,
    o.requirementId = o'.requirementId → o.assetId ≠ none → o.assetId = o'.assetId → o.id = o'.id
  onePerAircraft : ∀ o ∈ db.obligations.rows, ∀ o' ∈ db.obligations.rows,
    o.requirementId = o'.requirementId → o.aircraftId ≠ none → o.aircraftId = o'.aircraftId →
      o.id = o'.id

/-- The row that a call adds. -/
def newObligation (c : ObligationCall) (req : RegulatoryRequirement) (assetId : Option UUID) :
    ComplianceObligation where
  id := c.newId
  organizationId := c.organizationId
  requirementId := c.payload.requirementId
  ruleId := c.payload.ruleId
  assetId
  aircraftId := c.payload.aircraftId
  applicabilityEvaluationId := c.payload.applicabilityEvaluationId
  status := initialStatus c.today c.payload.dueDate
  priority := textOr "MEDIUM" (some c.payload.priority)
  dueDate := c.payload.dueDate
  recurrence := c.payload.recurrence
  responsibleRole := c.payload.responsibleRole
  assignedUserId := c.payload.assignedUserId
  requiredAction := some (textOr req.description c.payload.requiredAction)
  evidenceRequirements := some (c.payload.evidenceRequirements.getD .null)
  notes := c.payload.notes

/-- The checks of the call pass, and no obligation is found: one is added. -/
structure Inserts (db : Database) (c : ObligationCall) (req : RegulatoryRequirement)
    (assetId : Option UUID) : Prop where
  requirement : oneOrRaise (db.requirements.select fun r =>
    r.id = c.payload.requirementId && r.organizationId = c.organizationId)
      (.notFound "Regulatory requirement not found") = .ok req
  target : resolveTarget db c.organizationId c.payload = .ok assetId
  rule : requireRule db c.organizationId c.payload.ruleId = .ok ()
  free : existingObligations db c.organizationId c.payload.requirementId assetId
    c.payload.aircraftId = []
  references : referencesHold db (newObligation c req assetId) = true
  fresh : ∀ o ∈ db.obligations.rows, o.id ≠ c.newId

/-- A call that names an aircraft and an asset, and adds an obligation, names the aircraft's own
asset. -/
def NamesOwnAsset (db : Database) (c : ObligationCall) : Prop :=
  ∀ req assetId, Inserts db c req assetId →
    ∀ aircraftId s, c.payload.aircraftId = some aircraftId → c.payload.assetId = some s →
      ∃ ac ∈ db.aircraft.rows, ac.id = aircraftId ∧ ac.assetId = some s

def AircraftLinked (db : Database) : Prop :=
  ∀ ac ∈ db.aircraft.rows, ∀ s, ac.assetId = some s → ∃ a ∈ db.assets.rows, a.id = s ∧
    a.organizationId = ac.organizationId

/-- An obligation of an aircraft without an asset is of an aircraft that has none. -/
structure Resolved (db : Database) : Prop where
  linked : AircraftLinked db
  noAsset : ∀ o ∈ db.obligations.rows, ∀ c, o.aircraftId = some c → o.assetId = none →
    ∃ ac ∈ db.aircraft.rows, ac.id = c ∧ ac.assetId = none

section Calls

variable {db db' : Database} {c : ObligationCall} {req : RegulatoryRequirement}
  {assetId : Option UUID}

/-- The tables that a creation only reads. -/
structure SameSubjects (db db' : Database) : Prop where
  requirements : db'.requirements = db.requirements
  assets : db'.assets = db.assets
  aircraft : db'.aircraft = db.aircraft

theorem create_of_inserts (h : Inserts db c req assetId) :
    ∃ db', create db c = .ok db' ∧ SameSubjects db db' ∧
      db'.obligations.rows = db.obligations.rows ++ [newObligation c req assetId] := by
  have hexisting : scalarOneOrNone (existingObligations db c.organizationId
      c.payload.requirementId assetId c.payload.aircraftId) = .ok none := by
    rw [h.free]
    rfl
  cases hinsert : db.obligations.insert? (newObligation c req assetId) with
  | none =>
    obtain ⟨o, ho, hid⟩ := Table.insert?_eq_none.1 hinsert
    exact absurd hid (h.fresh o ho)
  | some obligations =>
    have hadd : addRow db.obligations (newObligation c req assetId) = .ok obligations :=
      addRowOrRaise_eq_ok.2 hinsert
    have hcreated : createObligation db c.today c.newId c.organizationId c.actorUserId c.payload
        = .ok (({ db with obligations }).recordAuditEvent c.organizationId c.actorUserId
          "compliance_obligation.created" "ComplianceObligation" (some c.newId),
          newObligation c req assetId) := by
      rw [createObligation, h.requirement, ok_bind, h.target, ok_bind, h.rule, ok_bind, hexisting,
        ok_bind]
      show (do
        let obligations ← addRow db.obligations (newObligation c req assetId)
        pure _) = _
      rw [hadd]
      rfl
    have hraise : raiseIf (((db.obligations.find? (newObligation c req assetId).id).isNone &&
        !referencesHold db (newObligation c req assetId)) = true) .integrity = .ok () :=
      raiseIf_eq_ok.2 (by simp [h.references])
    have hcreate : create db c = .ok (({ db with obligations }).recordAuditEvent c.organizationId
        c.actorUserId "compliance_obligation.created" "ComplianceObligation" (some c.newId)) := by
      rw [create, hcreated, ok_bind, hraise]
      rfl
    exact ⟨_, hcreate, ⟨rfl, rfl, rfl⟩, (Table.insert?_eq_some hinsert).2⟩

/-- **WHAT A CREATION DOES**: it adds an obligation, or writes into the one that it finds. -/
theorem create_cases (h : create db c = .ok db') : SameSubjects db db' ∧
    ((∃ req assetId, Inserts db c req assetId ∧
        db'.obligations.rows = db.obligations.rows ++ [newObligation c req assetId]) ∨
      ∃ existing ∈ db.obligations.rows,
        db'.obligations = db.obligations.save (mergedObligation existing c.payload)) := by
  obtain ⟨⟨created, row⟩, hcreated, h⟩ := bind_eq_ok.1 h
  obtain ⟨_, hreferences, h⟩ := bind_eq_ok.1 h
  cases pure_eq_ok.1 h
  obtain ⟨req, hreq, hcreated⟩ := bind_eq_ok.1 hcreated
  obtain ⟨assetId, htarget, hcreated⟩ := bind_eq_ok.1 hcreated
  obtain ⟨_, hrule, hcreated⟩ := bind_eq_ok.1 hcreated
  obtain ⟨existing, hexisting, hcreated⟩ := bind_eq_ok.1 hcreated
  cases existing with
  | some existing =>
    cases pure_eq_ok.1 hcreated
    have hmem := List.mem_singleton_self existing
    rw [← scalarOneOrNone_eq_some hexisting, existingObligations, Table.mem_select] at hmem
    exact ⟨⟨rfl, rfl, rfl⟩, Or.inr ⟨existing, hmem.1, rfl⟩⟩
  | none =>
    obtain ⟨obligations, hadd, hcreated⟩ := bind_eq_ok.1 hcreated
    cases pure_eq_ok.1 hcreated
    obtain ⟨hnew, hrows⟩ := Table.insert?_eq_some (addRowOrRaise_eq_ok.1 hadd)
    have hfresh : ∀ o ∈ db.obligations.rows, o.id ≠ c.newId :=
      fun o ho hid => hnew (List.mem_map.2 ⟨o, ho, hid⟩)
    have hunknown : (db.obligations.find? c.newId).isNone = true := by
      rw [Option.isNone_iff_eq_none, Table.find?_eq_none]
      exact hfresh
    have hheld : ¬((db.obligations.find? c.newId).isNone &&
        !referencesHold db (newObligation c req assetId)) = true := raiseIf_eq_ok.1 hreferences
    rw [hunknown] at hheld
    refine ⟨⟨rfl, rfl, rfl⟩, Or.inl ⟨req, assetId, ⟨hreq, htarget, hrule,
      scalarOneOrNone_eq_none hexisting, ?_, hfresh⟩, hrows⟩⟩
    simpa using hheld

variable {payload : ComplianceObligationCreateRequest}

theorem resolveTarget_cases {organizationId : UUID}
    (h : resolveTarget db organizationId payload = .ok assetId) :
    (∃ ac ∈ db.aircraft.rows, payload.aircraftId = some ac.id ∧
        ac.organizationId = organizationId ∧ assetId = payload.assetId.or ac.assetId) ∨
      (payload.aircraftId = none ∧ ∃ a ∈ db.assets.rows, a.organizationId = organizationId ∧
        assetId = some a.id) := by
  rw [resolveTarget] at h
  cases haircraft : payload.aircraftId with
  | some aircraftId =>
    rw [haircraft] at h
    obtain ⟨ac, hac, h⟩ := bind_eq_ok.1 h
    obtain ⟨hrow, hfound⟩ := mem_of_oneOrRaise hac
    simp only [Bool.and_eq_true, decide_eq_true_eq] at hfound
    exact Or.inl ⟨ac, hrow, congrArg some hfound.1.1.symm, hfound.1.2, (pure_eq_ok.1 h).symm⟩
  | none =>
    rw [haircraft] at h
    cases hasset : payload.assetId with
    | some s =>
      rw [hasset] at h
      obtain ⟨a, ha, h⟩ := bind_eq_ok.1 h
      obtain ⟨hrow, hfound⟩ := mem_of_oneOrRaise ha
      simp only [Bool.and_eq_true, decide_eq_true_eq] at hfound
      refine Or.inr ⟨rfl, a, hrow, hfound.1.2, ?_⟩
      rw [hfound.1.1]
      exact (pure_eq_ok.1 h).symm
    | none =>
      have htarget := payload.target
      simp [haircraft, hasset] at htarget

theorem requirement_of_inserts (h : Inserts db c req assetId) :
    ∃ r ∈ db.requirements.rows, r.id = c.payload.requirementId ∧
      r.organizationId = c.organizationId := by
  have hfound := mem_of_oneOrRaise h.requirement
  simp only [Bool.and_eq_true, decide_eq_true_eq] at hfound
  exact ⟨req, hfound.1, hfound.2⟩

theorem isolated_of_same (hsame : SameSubjects db db') {o o' : ComplianceObligation}
    (horg : o'.organizationId = o.organizationId) (hreq : o'.requirementId = o.requirementId)
    (hasset : o'.assetId = o.assetId) (haircraft : o'.aircraftId = o.aircraftId)
    (h : Isolated db o) : Isolated db' o' := by
  obtain ⟨hrequirement, hassets, haircrafts, hown⟩ := h
  constructor
  · rw [hsame.requirements, hreq, horg]
    exact hrequirement
  · rw [hsame.assets, hasset, horg]
    exact hassets
  · rw [hsame.aircraft, haircraft, horg]
    exact haircrafts
  · rw [hsame.aircraft, haircraft, hasset]
    exact hown

variable {existing : ComplianceObligation} {o : ComplianceObligation}

theorem exists_unmerged (hexisting : existing ∈ db.obligations.rows)
    (hsaved : db'.obligations = db.obligations.save (mergedObligation existing payload))
    {o' : ComplianceObligation} (ho' : o' ∈ db'.obligations.rows) :
    ∃ o ∈ db.obligations.rows, o'.id = o.id ∧ o'.organizationId = o.organizationId ∧
      o'.requirementId = o.requirementId ∧ o'.assetId = o.assetId ∧
      o'.aircraftId = o.aircraftId := by
  rw [hsaved] at ho'
  rcases Table.mem_save.1 ho' with ⟨ho, _⟩ | ⟨rfl, _⟩
  · exact ⟨o', ho, rfl, rfl, rfl, rfl, rfl⟩
  · exact ⟨existing, hexisting, rfl, rfl, rfl, rfl, rfl⟩

/-- Writing into an obligation that is there changes none of its keys. -/
theorem proper_merge (hsame : SameSubjects db db') (hexisting : existing ∈ db.obligations.rows)
    (hsaved : db'.obligations = db.obligations.save (mergedObligation existing payload))
    (hproper : Proper db) : Proper db' := by
  constructor
  · intro o' ho'
    obtain ⟨o, ho, _, horg, hreq, hasset, haircraft⟩ := exists_unmerged hexisting hsaved ho'
    exact isolated_of_same hsame horg hreq hasset haircraft (hproper.isolated o ho)
  · intro o₁ h₁ o₂ h₂ hreq hnone hasset
    obtain ⟨x₁, hx₁, hid₁, _, hreq₁, hasset₁, _⟩ := exists_unmerged hexisting hsaved h₁
    obtain ⟨x₂, hx₂, hid₂, _, hreq₂, hasset₂, _⟩ := exists_unmerged hexisting hsaved h₂
    rw [hid₁, hid₂]
    rw [hreq₁, hreq₂] at hreq
    rw [hasset₁] at hnone
    rw [hasset₁, hasset₂] at hasset
    exact hproper.onePerAsset x₁ hx₁ x₂ hx₂ hreq hnone hasset
  · intro o₁ h₁ o₂ h₂ hreq hnone haircraft
    obtain ⟨x₁, hx₁, hid₁, _, hreq₁, _, haircraft₁⟩ := exists_unmerged hexisting hsaved h₁
    obtain ⟨x₂, hx₂, hid₂, _, hreq₂, _, haircraft₂⟩ := exists_unmerged hexisting hsaved h₂
    rw [hid₁, hid₂]
    rw [hreq₁, hreq₂] at hreq
    rw [haircraft₁] at hnone
    rw [haircraft₁, haircraft₂] at haircraft
    exact hproper.onePerAircraft x₁ hx₁ x₂ hx₂ hreq hnone haircraft

theorem isolated_new (hlinked : AircraftLinked db) (h : Inserts db c req assetId)
    (hown : ∀ aircraftId s, c.payload.aircraftId = some aircraftId → c.payload.assetId = some s →
      ∃ ac ∈ db.aircraft.rows, ac.id = aircraftId ∧ ac.assetId = some s) :
    Isolated db (newObligation c req assetId) := by
  rcases resolveTarget_cases h.target with
    ⟨ac, hac, haircraft, horg, rfl⟩ | ⟨hnone, a, ha, horg, rfl⟩
  · -- the asset is the aircraft's, named or not
    have hasset : ∀ s, c.payload.assetId.or ac.assetId = some s → ac.assetId = some s := by
      intro s hs
      cases hnamed : c.payload.assetId with
      | none =>
        rw [hnamed] at hs
        exact hs
      | some s' =>
        rw [hnamed] at hs
        cases hs
        obtain ⟨ac', hac', hid, hlink⟩ := hown ac.id s haircraft hnamed
        rw [← Table.eq_of_key_eq hac' hac hid]
        exact hlink
    refine ⟨requirement_of_inserts h, fun s hs => ?_, fun x hx => ?_, fun x s hx hs => ?_⟩
    · obtain ⟨a, ha, hid, haorg⟩ := hlinked ac hac s (hasset s hs)
      exact ⟨a, ha, hid, haorg.trans horg⟩
    · have hid : c.payload.aircraftId = some x := hx
      rw [haircraft] at hid
      exact ⟨ac, hac, Option.some.inj hid, horg⟩
    · have hid : c.payload.aircraftId = some x := hx
      rw [haircraft] at hid
      exact ⟨ac, hac, Option.some.inj hid, hasset s hs⟩
  · refine ⟨requirement_of_inserts h, fun s hs => ?_, fun x hx => ?_, fun x s hx => ?_⟩
    · cases hs
      exact ⟨a, ha, rfl, horg⟩
    · have hid : c.payload.aircraftId = some x := hx
      rw [hnone] at hid
      cases hid
    · have hid : c.payload.aircraftId = some x := hx
      rw [hnone] at hid
      cases hid

theorem unmatched_of_existing {organizationId requirementId : UUID} {aircraftId : Option UUID}
    (hfree : existingObligations db organizationId requirementId assetId aircraftId = [])
    (ho : o ∈ db.obligations.rows) (horg : o.organizationId = organizationId)
    (hreq : o.requirementId = requirementId) :
    (∀ s, assetId = some s → o.assetId ≠ some s) ∧
      (assetId = none → ∀ x, aircraftId = some x → o.aircraftId ≠ some x) := by
  have hout := List.filter_eq_nil_iff.1 hfree o ho
  refine ⟨?_, ?_⟩
  · rintro s rfl hasset
    exact hout (by simp [horg, hreq, hasset])
  · rintro rfl x rfl haircraft
    exact hout (by simp [horg, hreq, haircraft])

theorem subject_free (hresolved : Resolved db) (hproper : Proper db) (h : Inserts db c req assetId)
    (hnew : Isolated db (newObligation c req assetId)) (ho : o ∈ db.obligations.rows)
    (hreq : o.requirementId = c.payload.requirementId) :
    (∀ s, assetId = some s → o.assetId ≠ some s) ∧
      ∀ x, c.payload.aircraftId = some x → o.aircraftId ≠ some x := by
  -- an obligation of the requirement is of its organization
  have horg : o.organizationId = c.organizationId := by
    obtain ⟨r, hr, hid, hro⟩ := (hproper.isolated o ho).requirement
    obtain ⟨r', hr', hid', hro'⟩ := requirement_of_inserts h
    rw [← hro, ← hro', Table.eq_of_key_eq hr hr' (hid.trans (hreq.trans hid'.symm))]
  have hunmatched := unmatched_of_existing h.free ho horg hreq
  have hasset : ∀ s, assetId = some s → o.assetId ≠ some s := hunmatched.1
  refine ⟨hasset, fun x hx haircraft => ?_⟩
  cases hs : assetId with
  | none =>
    exact hunmatched.2 hs x hx haircraft
  | some s =>
    -- both are obligations of the aircraft's asset
    obtain ⟨ac, hac, hid, hlink⟩ := hnew.own x s hx hs
    cases hos : o.assetId with
    | none =>
      obtain ⟨ac', hac', hid', hnone⟩ := hresolved.noAsset o ho x haircraft hos
      rw [Table.eq_of_key_eq hac' hac (hid'.trans hid.symm), hlink] at hnone
      cases hnone
    | some s' =>
      obtain ⟨ac', hac', hid', hlink'⟩ := (hproper.isolated o ho).own x s' haircraft hos
      rw [Table.eq_of_key_eq hac' hac (hid'.trans hid.symm), hlink] at hlink'
      exact hasset s hs (hos.trans hlink'.symm)

/-- An insertion keeps the promises when the new obligation meets its own. -/
theorem proper_insert (hsame : SameSubjects db db') (hresolved : Resolved db) (hproper : Proper db)
    (h : Inserts db c req assetId)
    (hrows : db'.obligations.rows = db.obligations.rows ++ [newObligation c req assetId])
    (hnew : Isolated db (newObligation c req assetId)) : Proper db' := by
  have hmem : ∀ o, o ∈ db'.obligations.rows ↔
      o ∈ db.obligations.rows ∨ o = newObligation c req assetId := by
    intro o
    rw [hrows, List.mem_append, List.mem_singleton]
  have hfree : ∀ o ∈ db.obligations.rows, o.requirementId = c.payload.requirementId → _ :=
    fun o ho hreq => subject_free hresolved hproper h hnew ho hreq
  constructor
  · intro o ho
    rcases (hmem o).1 ho with hold | rfl
    · exact isolated_of_same hsame rfl rfl rfl rfl (hproper.isolated o hold)
    · exact isolated_of_same hsame rfl rfl rfl rfl hnew
  · intro o₁ h₁ o₂ h₂ hreq hnone hasset
    obtain ⟨s, hs⟩ := Option.ne_none_iff_exists'.1 hnone
    rcases (hmem o₁).1 h₁ with hold₁ | rfl <;> rcases (hmem o₂).1 h₂ with hold₂ | rfl
    · exact hproper.onePerAsset o₁ hold₁ o₂ hold₂ hreq hnone hasset
    · exact absurd hs ((hfree o₁ hold₁ hreq).1 s (hasset.symm.trans hs))
    · exact absurd (hasset.symm.trans hs) ((hfree o₂ hold₂ hreq.symm).1 s hs)
    · rfl
  · intro o₁ h₁ o₂ h₂ hreq hnone haircraft
    obtain ⟨x, hx⟩ := Option.ne_none_iff_exists'.1 hnone
    rcases (hmem o₁).1 h₁ with hold₁ | rfl <;> rcases (hmem o₂).1 h₂ with hold₂ | rfl
    · exact hproper.onePerAircraft o₁ hold₁ o₂ hold₂ hreq hnone haircraft
    · exact absurd hx ((hfree o₁ hold₁ hreq).2 x (haircraft.symm.trans hx))
    · exact absurd (haircraft.symm.trans hx) ((hfree o₂ hold₂ hreq.symm).2 x hx)
    · rfl

/-- An obligation of an aircraft without an asset is made for an aircraft that has none. -/
theorem resolved_create (hresolved : Resolved db) (h : create db c = .ok db') : Resolved db' := by
  obtain ⟨hsame, hcases⟩ := create_cases h
  refine ⟨?_, fun o' ho' x hx hnone => ?_⟩
  · rw [AircraftLinked, hsame.aircraft, hsame.assets]
    exact hresolved.linked
  · rw [hsame.aircraft]
    rcases hcases with ⟨req, assetId, hins, hrows⟩ | ⟨existing, hexisting, hsaved⟩
    · rw [hrows, List.mem_append, List.mem_singleton] at ho'
      rcases ho' with hold | rfl
      · exact hresolved.noAsset o' hold x hx hnone
      · have hassetId : assetId = none := hnone
        have hnamed : c.payload.aircraftId = some x := hx
        rcases resolveTarget_cases hins.target with
          ⟨ac, hac, haircraft, _, hor⟩ | ⟨haircraft, _⟩
        · rw [haircraft] at hnamed
          refine ⟨ac, hac, Option.some.inj hnamed, ?_⟩
          rw [hassetId] at hor
          exact (Option.or_eq_none_iff.1 hor.symm).2
        · rw [haircraft] at hnamed
          cases hnamed
    · obtain ⟨o, ho, _, _, _, hasset, haircraft⟩ := exists_unmerged hexisting hsaved ho'
      rw [haircraft] at hx
      rw [hasset] at hnone
      exact hresolved.noAsset o ho x hx hnone

/-- **ONE CALL**: the promises are kept exactly when an asset named beside an aircraft is the
aircraft's own. -/
theorem proper_attempt_iff (hresolved : Resolved db) (hproper : Proper db) (c : ObligationCall) :
    Proper (attempt create db c) ↔ NamesOwnAsset db c := by
  constructor
  · intro hafter req assetId hins x s hx hs
    obtain ⟨db', hcreate, hsame, hrows⟩ := create_of_inserts hins
    rw [attempt, hcreate] at hafter
    have hnew : newObligation c req assetId ∈ db'.obligations.rows := by
      rw [hrows]
      exact List.mem_append_right _ (List.mem_singleton_self _)
    have hassetId : assetId = some s := by
      rcases resolveTarget_cases hins.target with ⟨ac, _, _, _, hor⟩ | ⟨hnone, _⟩
      · rw [hor, hs]
        rfl
      · rw [hx] at hnone
        cases hnone
    obtain ⟨ac, hac, hid, hlink⟩ := (hafter.isolated _ hnew).own x s hx hassetId
    rw [hsame.aircraft] at hac
    exact ⟨ac, hac, hid, hlink⟩
  · intro hown
    rcases Runs.attempt_cases create db c with hfailed | hcreate
    · rw [hfailed]
      exact hproper
    · obtain ⟨hsame, ⟨req, assetId, hins, hrows⟩ | ⟨existing, hexisting, hsaved⟩⟩ :=
        create_cases hcreate
      · exact proper_insert hsame hresolved hproper hins hrows
          (isolated_new hresolved.linked hins (hown req assetId hins))
      · exact proper_merge hsame hexisting hsaved hproper

end Calls

/-! ## Sequences -/

/-- **WHEN OBLIGATIONS STAY PROPER**: exactly when every call that adds an obligation for an
aircraft and a named asset names the aircraft's own asset. -/
theorem obligations_proper_iff (db : Database) (calls : List ObligationCall)
    (hlinked : AircraftLinked db) (hnone : db.obligations.rows = []) :
    (∀ db' ∈ visited create db calls, Proper db') ↔ StepsMeet create NamesOwnAsset db calls := by
  have hno : ∀ o : ComplianceObligation, o ∉ db.obligations.rows := by
    intro o ho
    rw [hnone] at ho
    cases ho
  have hresolved : Resolved db := ⟨hlinked, fun o ho => absurd ho (hno o)⟩
  have hproper : Proper db := ⟨fun o ho => absurd ho (hno o), fun o ho => absurd ho (hno o),
    fun o ho => absurd ho (hno o)⟩
  refine Runs.forall_visited_iff ?_ calls db hresolved hproper
    fun s hs hP c _ => proper_attempt_iff hs hP c
  intro s c hs
  rcases Runs.attempt_cases create s c with hfailed | hcreate
  · rw [hfailed]
    exact hs
  · exact resolved_create hs hcreate

/-- An aircraft with its asset, another asset of the organization, and a requirement. -/
def twoAssets : Database where
  requirements := .single
    { id := 5, organizationId := 0, requirementNumber := "AD-1", title := "Inspect"
      description := "Inspect the spar" }
  aircraft := .single
    { id := 3, organizationId := 0, registration := "N1", msn := "1", aircraftType := "A1"
      assetId := some 1 }
  assets := ⟨[{ id := 1, organizationId := 0 }, { id := 2, organizationId := 0 }], by decide⟩

/-- An obligation for the aircraft, with an asset named beside it. -/
def forAircraft (assetId : Option UUID) : ObligationCall where
  today := 0
  newId := 7
  organizationId := 0
  payload := { requirementId := 5, aircraftId := some 3, assetId, target := Or.inl rfl }

theorem twoAssets_linked : AircraftLinked twoAssets := by
  intro ac hac s hs
  cases List.mem_singleton.1 hac
  cases hs
  exact ⟨_, List.mem_cons_self, rfl, rfl⟩

/-- The aircraft's own asset is named. -/
theorem own_asset_proper :
    AircraftLinked twoAssets ∧
      ∀ db' ∈ visited create twoAssets [forAircraft (some 1)], Proper db' := by
  refine ⟨twoAssets_linked, (obligations_proper_iff twoAssets _ twoAssets_linked rfl).2
    ⟨?_, trivial⟩⟩
  intro req assetId _ x s hx hs
  cases hx
  cases hs
  exact ⟨_, List.mem_singleton_self _, rfl, rfl⟩

/-- Another asset is named. -/
theorem other_asset_not_proper :
    ¬∀ db' ∈ visited create twoAssets [forAircraft (some 2)], Proper db' := by
  intro hall
  have hlast := hall _ (List.mem_cons_of_mem _ (List.mem_singleton_self _))
  obtain ⟨ac, hac, _, hlink⟩ :=
    (hlast.isolated _ (List.mem_singleton_self _)).own 3 2 rfl rfl
  cases List.mem_singleton.1 hac
  cases hlink

end ObligationService
end AeroComply
