import Mathlib.Data.List.Sort
import AeroComply.Lib.Runs
import AeroComply.Services.Inspection

/-!
# FindingLifecycle — findings, their dispositions and their closure

`app/services/finding_service.py`.  The dispositions are a trail of their own:
one is added to a finding that is not closed, and closing stamps the latest.
-/

namespace AeroComply

open Relational (Keyed Table)
open InspectionService (requireFound)

inductive DispositionType
  | correctiveAction
  | noActionRequired
  | deferred
  deriving DecidableEq, Repr

structure FindingDisposition where
  id : UUID
  organizationId : UUID
  findingId : UUID
  dispositionType : DispositionType
  correctiveAction : Option String
  evidenceId : Option UUID
  closedAt : Option DateTime := none
  closedByUserId : Option UUID := none
  createdAt : DateTime

instance : Keyed FindingDisposition UUID := ⟨FindingDisposition.id⟩

namespace FindingService

/-- The tables of the service, `finding_dispositions` beside the ones of the other services. -/
structure Store where
  db : Database
  dispositions : Table FindingDisposition

/-- `ALL_FINDING_SEVERITIES`, and what each text stands for. -/
def parseSeverity (text : String) : Except Error FindingSeverity :=
  match text with
  | "CRITICAL" => .ok .critical
  | "MAJOR" => .ok .major
  | "MINOR" => .ok .minor
  | "OBSERVATION" => .ok .observation
  | "INFORMATIONAL" => .ok .informational
  | _ => .error (.conflict ("Invalid severity: " ++ text))

/-- `ALL_DISPOSITION_TYPES`, and what each text stands for. -/
def parseDispositionType (text : String) : Except Error DispositionType :=
  match text with
  | "CORRECTIVE_ACTION" => .ok .correctiveAction
  | "NO_ACTION_REQUIRED" => .ok .noActionRequired
  | "DEFERRED" => .ok .deferred
  | _ => .error (.conflict ("Invalid disposition_type: " ++ text))

def assertReferenceInOrganization {α : Type} [Keyed α UUID] (rows : Table α) (tenant : α → UUID)
    (label : String) (organizationId resourceId : UUID) : Except Error α :=
  oneOrRaise (rows.select fun r => Keyed.key r = resourceId && tenant r = organizationId)
    (.notFound (label ++ " not found"))

def assertUserInOrganization (db : Database) (organizationId userId : UUID) : Except Error User :=
  oneOrRaise (db.users.select fun u => u.id = userId && u.organizationId = organizationId)
    (.conflict "Referenced user_id does not belong to this organization")

/-- The arguments of `create_finding`. -/
structure FindingCreate where
  title : String
  description : String
  severity : String
  aircraftId : Option UUID := none
  assetId : Option UUID := none
  componentId : Option UUID := none
  inspectionRequirementId : Option UUID := none
  workOrderId : Option UUID := none
  taskId : Option UUID := none
  responsibleUserId : Option UUID := none
  complianceObligationId : Option UUID := none
  regulatoryRequirementId : Option UUID := none
  safetySignificance : Option String := none
  complianceRelevance : Option String := none

/-- The row of `create_finding`; `discovered_by_user_id` and the responsible user, which
nothing reads, are no columns of the model. -/
def FindingCreate.row (args : FindingCreate) (id organizationId : UUID) (severity : FindingSeverity)
    (now : DateTime) : Finding :=
  { args with id, organizationId, severity, status := .open, createdAt := now }

def createFinding (s : Store) (newId organizationId : UUID) (actor : Option UUID)
    (now : DateTime) (args : FindingCreate) : Except Error Store := do
  let db := s.db
  let severity ← parseSeverity args.severity
  requireFound (assertReferenceInOrganization db.aircraft (·.organizationId) "Aircraft"
    organizationId) args.aircraftId
  requireFound (assertReferenceInOrganization db.assets (·.organizationId) "Asset"
    organizationId) args.assetId
  requireFound (assertReferenceInOrganization db.components (·.organizationId) "Component"
    organizationId) args.componentId
  requireFound (assertReferenceInOrganization db.inspections (·.organizationId)
    "Inspection requirement" organizationId) args.inspectionRequirementId
  requireFound (assertReferenceInOrganization db.tasks (·.organizationId) "Task"
    organizationId) args.taskId
  requireFound (assertReferenceInOrganization db.obligations (·.organizationId)
    "Compliance obligation" organizationId) args.complianceObligationId
  requireFound (assertReferenceInOrganization db.requirements (·.organizationId)
    "Regulatory requirement" organizationId) args.regulatoryRequirementId
  requireFound (db.getWorkOrder organizationId) args.workOrderId
  requireFound (assertUserInOrganization db organizationId) args.responsibleUserId
  let findings ← addRow db.findings (args.row newId organizationId severity now)
  pure { s with
    db := ({ db with findings }).recordAuditEvent organizationId actor "finding.created" "Finding"
      (some newId) }

def getFinding (db : Database) (organizationId findingId : UUID) : Except Error Finding :=
  oneOrRaise (db.findings.select fun f => f.id = findingId && f.organizationId = organizationId)
    (.notFound "Finding not found")

/-- The arguments of `correlate_compliance`. -/
structure Correlation where
  complianceObligationId : Option UUID := none
  regulatoryRequirementId : Option UUID := none
  safetySignificance : Option String := none
  complianceRelevance : Option String := none

/-- The links a correlation leaves: an obligation brings its requirement, unless one is given. -/
def correlated (finding : Finding) (args : Correlation) (obligation : Option ComplianceObligation) :
    Finding :=
  { finding with
    complianceObligationId := args.complianceObligationId.or finding.complianceObligationId
    regulatoryRequirementId := args.regulatoryRequirementId.or
      ((obligation.map (·.requirementId)).getD finding.regulatoryRequirementId)
    safetySignificance := args.safetySignificance.or finding.safetySignificance
    complianceRelevance := args.complianceRelevance.or finding.complianceRelevance }

def correlateCompliance (s : Store) (finding : Finding) (actor : Option UUID) (args : Correlation) :
    Except Error Store := do
  let obligation ← args.complianceObligationId.mapM (assertReferenceInOrganization s.db.obligations
    (·.organizationId) "Compliance obligation" finding.organizationId)
  requireFound (assertReferenceInOrganization s.db.requirements (·.organizationId)
    "Regulatory requirement" finding.organizationId) args.regulatoryRequirementId
  pure { s with
    db := ({ s.db with findings := s.db.findings.save (correlated finding args obligation) }
      ).recordAuditEvent finding.organizationId actor "finding.compliance_correlated" "Finding"
      (some finding.id) }

/-- `finding.dispositions`, in the order of the relationship. -/
def dispositions (s : Store) (finding : Finding) : List FindingDisposition :=
  (s.dispositions.select (·.findingId = finding.id)).insertionSort fun d d' =>
    d.createdAt ≤ d'.createdAt

/-- The arguments of `add_disposition`. -/
structure DispositionArgs where
  dispositionType : String
  correctiveAction : Option String := none
  evidenceId : Option UUID := none

/-- `corrective_action` is there and not empty. -/
def hasText (correctiveAction : Option String) : Bool := correctiveAction.any (· ≠ "")

/-- `if finding.status == OPEN: finding.status = IN_PROGRESS`. -/
def started (finding : Finding) : Finding :=
  { finding with status := if finding.status = .open then .inProgress else finding.status }

def addDisposition (s : Store) (finding : Finding) (newId : UUID) (actor : Option UUID)
    (now : DateTime) (args : DispositionArgs) : Except Error Store := do
  raiseIf (finding.status = .closed) (.conflict "Cannot add a disposition to a closed finding")
  let dispositionType ← parseDispositionType args.dispositionType
  raiseIf (dispositionType = .correctiveAction ∧ hasText args.correctiveAction = false)
    (.conflict "corrective_action is required for a CORRECTIVE_ACTION disposition")
  requireFound (assertReferenceInOrganization s.db.evidence (·.organizationId) "Evidence"
    finding.organizationId) args.evidenceId
  let dispositions ← addRow s.dispositions
    { args with
      id := newId, organizationId := finding.organizationId, findingId := finding.id
      dispositionType, createdAt := now }
  pure
    { dispositions
      db := ({ s.db with findings := s.db.findings.save (started finding) }).recordAuditEvent
        finding.organizationId actor "finding.disposition_added" "Finding" (some finding.id) }

/-- The row that closing writes over the latest disposition. -/
def stamped (d : FindingDisposition) (actor : Option UUID) (now : DateTime) : FindingDisposition :=
  { d with closedAt := some now, closedByUserId := actor }

def closeFinding (s : Store) (finding : Finding) (actor : Option UUID) (now : DateTime) :
    Except Error Store := do
  raiseIf (finding.status = .closed) (.conflict "Finding is already closed")
  match (dispositions s finding).getLast? with
  | none =>
    .error (.conflict "A finding must have at least one disposition before it can be closed")
  | some latest =>
    pure
      { dispositions := s.dispositions.save (stamped latest actor now)
        db := ({ s.db with findings := s.db.findings.save { finding with status := .closed } }
          ).recordAuditEvent finding.organizationId actor "finding.closed" "Finding"
          (some finding.id) }

/-! ## The requests as actions -/

/-- A request to the findings API, or a commit of any other service: none of them writes
findings or dispositions. -/
inductive Action
  | createFinding (newId organizationId : UUID) (actor : Option UUID) (now : DateTime)
      (args : FindingCreate)
  | correlateCompliance (organizationId findingId : UUID) (actor : Option UUID)
      (args : Correlation)
  | addDisposition (organizationId findingId newId : UUID) (actor : Option UUID) (now : DateTime)
      (args : DispositionArgs)
  | closeFinding (organizationId findingId : UUID) (actor : Option UUID) (now : DateTime)
  | elsewhere (db : Database)

def step (s : Store) : Action → Except Error Store
  | .createFinding newId org actor now args => createFinding s newId org actor now args
  | .correlateCompliance org findingId actor args => do
    let finding ← getFinding s.db org findingId
    correlateCompliance s finding actor args
  | .addDisposition org findingId newId actor now args => do
    let finding ← getFinding s.db org findingId
    addDisposition s finding newId actor now args
  | .closeFinding org findingId actor now => do
    let finding ← getFinding s.db org findingId
    closeFinding s finding actor now
  | .elsewhere db => .ok { s with db := { db with findings := s.db.findings } }

/-! ## The status is what the trail tells -/

/-- The dispositions of a finding, in row order. -/
def trail (s : Store) (findingId : UUID) : List FindingDisposition :=
  s.dispositions.select (·.findingId = findingId)

/-- What a status tells of the trail: it is empty, or none of it is closed, or exactly one of it
is, and none is later than that one. -/
def Tells (trail : List FindingDisposition) : FindingStatus → Prop
  | .open => trail = []
  | .inProgress => trail ≠ [] ∧ ∀ d ∈ trail, d.closedAt = none
  | .closed => ∃ d ∈ trail, d.closedAt ≠ none ∧
      ∀ d' ∈ trail, d'.createdAt ≤ d.createdAt ∧ (d'.closedAt ≠ none → d' = d)

/-- The disposition is of a finding of its organization, and a corrective action has a text. -/
def Proper (findings : Table Finding) (d : FindingDisposition) : Prop :=
  (∃ f ∈ findings.rows, f.id = d.findingId ∧ f.organizationId = d.organizationId) ∧
    (d.dispositionType = .correctiveAction → hasText d.correctiveAction = true)

structure Sound (s : Store) : Prop where
  tells : ∀ f ∈ s.db.findings.rows, Tells (trail s f.id) f.status
  proper : ∀ d ∈ s.dispositions.rows, Proper s.db.findings d

/-- A finding without its status and its links. -/
def unlinked (f : Finding) : Finding :=
  { f with
    status := .open, complianceObligationId := none, regulatoryRequirementId := none
    safetySignificance := none, complianceRelevance := none }

/-- A disposition without its closure. -/
def unclosed (d : FindingDisposition) : FindingDisposition :=
  { d with closedAt := none, closedByUserId := none }

/-- The order of the life cycle. -/
def place : FindingStatus → Nat
  | .open => 0
  | .inProgress => 1
  | .closed => 2

/-- The finding is still there: it has kept what is neither status nor link, and its status
has not gone back. -/
def Kept (findings : Table Finding) (f : Finding) : Prop :=
  ∃ f' ∈ findings.rows, unlinked f' = unlinked f ∧ place f.status ≤ place f'.status

/-- Nothing is lost, and the trail of a closed finding stays as it is. -/
structure Later (s s' : Store) : Prop where
  findings : ∀ f ∈ s.db.findings.rows, Kept s'.db.findings f
  dispositions : ∀ d ∈ s.dispositions.rows, ∃ d' ∈ s'.dispositions.rows, unclosed d' = unclosed d
  frozen : ∀ f ∈ s.db.findings.rows, f.status = .closed → trail s' f.id = trail s f.id

theorem id_of_unlinked {f f' : Finding} (h : unlinked f' = unlinked f) : f'.id = f.id := by
  have hid := congrArg Finding.id h
  exact hid

theorem Later.refl (s : Store) : Later s s where
  findings f hf := ⟨f, hf, rfl, le_refl _⟩
  dispositions d hd := ⟨d, hd, rfl⟩
  frozen _ _ _ := rfl

theorem Later.trans {s₁ s₂ s₃ : Store} (h : Later s₁ s₂) (h' : Later s₂ s₃) : Later s₁ s₃ where
  findings f hf := by
    obtain ⟨f', hf', hsame, hplace⟩ := h.findings f hf
    obtain ⟨f'', hf'', hsame', hplace'⟩ := h'.findings f' hf'
    exact ⟨f'', hf'', hsame'.trans hsame, hplace.trans hplace'⟩
  dispositions d hd := by
    obtain ⟨d', hd', hsame⟩ := h.dispositions d hd
    obtain ⟨d'', hd'', hsame'⟩ := h'.dispositions d' hd'
    exact ⟨d'', hd'', hsame'.trans hsame⟩
  frozen f hf hclosed := by
    obtain ⟨f', hf', hsame, hplace⟩ := h.findings f hf
    have hclosed' : f'.status = .closed := by
      rw [hclosed] at hplace
      cases hstatus : f'.status with
      | closed => rfl
      | «open» | inProgress => rw [hstatus] at hplace; exact absurd hplace (by decide)
    have hlater := h'.frozen f' hf' hclosed'
    rw [id_of_unlinked hsame] at hlater
    exact hlater.trans (h.frozen f hf hclosed)

/-! ## What the requests keep -/

section Writes

variable {s s' : Store} {f f' : Finding} {d d' : FindingDisposition} {actor : Option UUID}
  {now : DateTime}

theorem proper_of_kept {t t' : Table Finding} (h : Proper t d) (hkept : ∀ f ∈ t.rows, Kept t' f)
    (hsame : unclosed d' = unclosed d) : Proper t' d' := by
  obtain ⟨⟨f, hf, hid, htenant⟩, htext⟩ := h
  obtain ⟨f', hf', hsame', _⟩ := hkept f hf
  have horganization := congrArg Finding.organizationId hsame'
  have hparent := congrArg FindingDisposition.findingId hsame
  have htenant' := congrArg FindingDisposition.organizationId hsame
  have htype := congrArg FindingDisposition.dispositionType hsame
  have haction := congrArg FindingDisposition.correctiveAction hsame
  exact ⟨⟨f', hf', (id_of_unlinked hsame').trans (hid.trans hparent.symm),
    horganization.trans (htenant.trans htenant'.symm)⟩,
    fun h => (congrArg hasText haction).trans (htext (htype.symm.trans h))⟩

/-- A write that leaves the dispositions alone. -/
theorem sound_later_of_same (hs : Sound s) (hsame : s'.dispositions = s.dispositions)
    (hkept : ∀ f ∈ s.db.findings.rows, Kept s'.db.findings f)
    (htells : ∀ f ∈ s'.db.findings.rows, Tells (trail s f.id) f.status) :
    Sound s' ∧ Later s s' := by
  have htrail : ∀ id, trail s' id = trail s id := fun id => by rw [trail, hsame, trail]
  refine ⟨⟨fun f hf => ?_, fun d hd => ?_⟩, hkept, fun d hd => ?_, fun _ _ _ => htrail _⟩
  · rw [htrail]
    exact htells f hf
  · exact proper_of_kept (hs.proper d (hsame ▸ hd)) hkept rfl
  · exact ⟨d, hsame ▸ hd, rfl⟩

theorem kept_save {t : Table Finding} (hmem : f ∈ t.rows) (hsame : unlinked f' = unlinked f)
    (hplace : place f.status ≤ place f'.status) : ∀ x ∈ t.rows, Kept (t.save f') x := by
  intro x hx
  rcases Table.kept_or_replaced hmem (id_of_unlinked hsame).symm hx with hkept | ⟨rfl, hnew⟩
  · exact ⟨x, hkept, rfl, le_refl _⟩
  · exact ⟨f', hnew, hsame, hplace⟩

/-- A write to a finding that is not closed and to its trail. -/
theorem sound_later_of_save (hs : Sound s) (hmem : f ∈ s.db.findings.rows)
    (hlive : f.status ≠ .closed) (hsame : unlinked f' = unlinked f)
    (hplace : place f.status ≤ place f'.status) (hsave : s'.db.findings = s.db.findings.save f')
    (hothers : ∀ id, id ≠ f.id → trail s' id = trail s id) (hone : Tells (trail s' f.id) f'.status)
    (hrows : ∀ d ∈ s'.dispositions.rows, Proper s.db.findings d)
    (hlost : ∀ d ∈ s.dispositions.rows, ∃ d' ∈ s'.dispositions.rows, unclosed d' = unclosed d) :
    Sound s' ∧ Later s s' := by
  have hid := id_of_unlinked hsame
  have hkept : ∀ x ∈ s.db.findings.rows, Kept s'.db.findings x :=
    hsave ▸ kept_save hmem hsame hplace
  refine ⟨⟨fun x hx => ?_, fun d hd => proper_of_kept (hrows d hd) hkept rfl⟩, hkept, hlost,
    fun x hx hclosed => hothers x.id fun hxf => hlive ?_⟩
  · rw [hsave] at hx
    rcases (Table.mem_save_of_mem hmem hid.symm).1 hx with ⟨hx, hne⟩ | rfl
    · rw [hothers x.id fun h => hne (h.trans hid.symm)]
      exact hs.tells x hx
    · rw [hid]
      exact hone
  · rw [← Table.eq_of_key_eq hx hmem hxf]
    exact hclosed

theorem createFinding_sound (hs : Sound s) {newId org : UUID} {args : FindingCreate}
    (h : createFinding s newId org actor now args = .ok s') : Sound s' ∧ Later s s' := by
  obtain ⟨severity, _, h⟩ := bind_eq_ok.1 h
  -- nine references
  iterate 9 obtain ⟨_, _, h⟩ := bind_eq_ok.1 h
  obtain ⟨findings, hadd, h⟩ := bind_eq_ok.1 h
  have hinsert := addRowOrRaise_eq_ok.1 hadd
  cases h
  refine sound_later_of_same hs rfl
    (fun x hx => ⟨x, (Table.mem_insert? hinsert).2 (Or.inl hx), rfl, le_refl _⟩) fun x hx => ?_
  rcases (Table.mem_insert? hinsert).1 hx with hx | rfl
  · exact hs.tells x hx
  · -- a disposition under the new identifier would have had a finding before
    refine List.filter_eq_nil_iff.2 fun d hd hparent => ?_
    obtain ⟨⟨y, hy, hid, _⟩, _⟩ := hs.proper d hd
    exact (Table.insert?_eq_some hinsert).1
      (List.mem_map.2 ⟨y, hy, hid.trans (of_decide_eq_true hparent)⟩)

theorem correlateCompliance_sound (hs : Sound s) (hmem : f ∈ s.db.findings.rows)
    {args : Correlation} (h : correlateCompliance s f actor args = .ok s') :
    Sound s' ∧ Later s s' := by
  obtain ⟨obligation, _, h⟩ := bind_eq_ok.1 h
  obtain ⟨_, _, h⟩ := bind_eq_ok.1 h
  cases h
  have hsame : unlinked (correlated f args obligation) = unlinked f := rfl
  refine sound_later_of_same hs rfl (kept_save hmem hsame (le_refl _)) fun x hx => ?_
  rcases (Table.mem_save_of_mem (r := correlated f args obligation) hmem rfl).1 hx with
    ⟨hx, _⟩ | rfl
  · exact hs.tells x hx
  · exact hs.tells f hmem

theorem closedAt_of_live (hs : Sound s) (hmem : f ∈ s.db.findings.rows)
    (hlive : f.status ≠ .closed) : ∀ d ∈ trail s f.id, d.closedAt = none := by
  have htells := hs.tells f hmem
  cases hstatus : f.status with
  | «open» =>
    rw [hstatus] at htells
    rw [htells]
    exact fun _ hd => nomatch hd
  | inProgress =>
    rw [hstatus] at htells
    exact htells.2
  | closed => exact absurd hstatus hlive

theorem addDisposition_sound (hs : Sound s) (hmem : f ∈ s.db.findings.rows) {newId : UUID}
    {args : DispositionArgs} (h : addDisposition s f newId actor now args = .ok s') :
    Sound s' ∧ Later s s' := by
  obtain ⟨_, hclosed, h⟩ := bind_eq_ok.1 h
  obtain ⟨dispositionType, _, h⟩ := bind_eq_ok.1 h
  obtain ⟨_, htext, h⟩ := bind_eq_ok.1 h
  obtain ⟨_, _, h⟩ := bind_eq_ok.1 h
  obtain ⟨rows, hadd, h⟩ := bind_eq_ok.1 h
  have hlive := raiseIf_eq_ok.1 hclosed
  have hinsert := addRowOrRaise_eq_ok.1 hadd
  cases h
  have hstatus : (started f).status = .inProgress := by
    cases hstatus : f.status with
    | closed => exact absurd hstatus hlive
    | «open» | inProgress => simp [started, hstatus]
  have hplace : place f.status ≤ place (started f).status := by
    rw [hstatus]
    cases hold : f.status with
    | closed => exact absurd hold hlive
    | «open» | inProgress => decide
  have hsame : unlinked (started f) = unlinked f := rfl
  refine sound_later_of_save hs hmem hlive hsame hplace rfl ?_ ?_ ?_
    fun x hx => ⟨x, (Table.mem_insert? hinsert).2 (Or.inl hx), rfl⟩
  · intro id hid
    rw [trail, Table.select_insert? hinsert, List.filter_cons_of_neg fun h =>
      hid (of_decide_eq_true h).symm, List.filter_nil, List.append_nil, trail]
  · rw [hstatus, trail, Table.select_insert? hinsert]
    refine ⟨by simp, fun x hx => ?_⟩
    rcases List.mem_append.1 hx with hx | hx
    · exact closedAt_of_live hs hmem hlive x hx
    · rw [List.mem_singleton.1 (List.mem_filter.1 hx).1]
  · intro x hx
    rcases (Table.mem_insert? hinsert).1 hx with hx | rfl
    · exact hs.proper x hx
    · exact ⟨⟨f, hmem, rfl, rfl⟩, fun hcorrective => Bool.eq_true_of_not_eq_false fun hempty =>
        raiseIf_eq_ok.1 htext ⟨hcorrective, hempty⟩⟩

/-- `finding.dispositions[-1]` is of the trail, and none of it is later. -/
theorem latest_of_getLast? (h : (dispositions s f).getLast? = some d) :
    d ∈ trail s f.id ∧ ∀ d' ∈ trail s f.id, d'.createdAt ≤ d.createdAt := by
  have htotal : Std.Total fun d d' : FindingDisposition => d.createdAt ≤ d'.createdAt :=
    ⟨fun d d' => le_total d.createdAt d'.createdAt⟩
  have htrans : IsTrans FindingDisposition fun d d' => d.createdAt ≤ d'.createdAt :=
    ⟨fun _ _ _ => le_trans⟩
  have hmem : ∀ x, x ∈ dispositions s f ↔ x ∈ trail s f.id := fun x => List.mem_insertionSort _
  have hsorted : (dispositions s f).Pairwise fun d d' => d.createdAt ≤ d'.createdAt :=
    List.pairwise_insertionSort _ _
  obtain ⟨before, hlast⟩ := List.getLast?_eq_some_iff.1 h
  rw [hlast] at hsorted
  refine ⟨(hmem d).1 (List.mem_of_getLast? h), fun d' hd' => ?_⟩
  rcases List.mem_append.1 (hlast ▸ (hmem d').2 hd') with hbefore | hd'
  · exact (List.pairwise_append.1 hsorted).2.2 d' hbefore d List.mem_cons_self
  · rw [List.mem_singleton.1 hd']

theorem closeFinding_sound (hs : Sound s) (hmem : f ∈ s.db.findings.rows)
    (h : closeFinding s f actor now = .ok s') : Sound s' ∧ Later s s' := by
  obtain ⟨_, hclosed, h⟩ := bind_eq_ok.1 h
  have hlive := raiseIf_eq_ok.1 hclosed
  split at h
  · cases h
  · next d hlast =>
    cases h
    obtain ⟨hd, hlatest⟩ := latest_of_getLast? hlast
    obtain ⟨hrow, hparent⟩ := Table.mem_select.1 hd
    have honly : ∀ x ∈ s.dispositions.rows, x.id = d.id → x = d :=
      fun x hx hkey => Table.eq_of_key_eq hx hrow hkey
    have hsame : unlinked { f with status := .closed } = unlinked f := rfl
    refine sound_later_of_save hs hmem hlive hsame ?_ rfl ?_ ?_ ?_ ?_
    · cases f.status <;> simp [place]
    · intro id hid
      have hnot : decide (d.findingId = id) = false :=
        decide_eq_false fun h => hid (h.symm.trans (of_decide_eq_true hparent))
      exact Table.select_save_of_not hnot fun x hx hkey => honly x hx hkey ▸ hnot
    · have hmap := Table.select_save (t := s.dispositions) (r := stamped d actor now)
        (p := fun x => x.findingId = f.id) fun x hx hkey => by rw [honly x hx hkey]; rfl
      rw [trail, hmap]
      refine ⟨stamped d actor now, List.mem_map.2 ⟨d, hd, if_pos rfl⟩, Option.some_ne_none _, ?_⟩
      intro x hx
      obtain ⟨y, hy, rfl⟩ := List.mem_map.1 hx
      split
      · exact ⟨le_refl _, fun _ => rfl⟩
      · exact ⟨hlatest y hy, fun h => absurd (closedAt_of_live hs hmem hlive y hy) h⟩
    · intro x hx
      rcases (Table.mem_save_of_mem (r := stamped d actor now) hrow rfl).1 hx with ⟨hx, _⟩ | rfl
      · exact hs.proper x hx
      · exact hs.proper d hrow
    · intro x hx
      rcases Table.kept_or_replaced (r := stamped d actor now) hrow rfl hx with hkept | ⟨rfl, hnew⟩
      · exact ⟨x, hkept, rfl⟩
      · exact ⟨_, hnew, rfl⟩

theorem mem_of_getFinding {db : Database} {org findingId : UUID}
    (h : getFinding db org findingId = .ok f) : f ∈ db.findings.rows := (mem_of_oneOrRaise h).1

theorem step_sound (hs : Sound s) {a : Action} (h : step s a = .ok s') :
    Sound s' ∧ Later s s' := by
  cases a with
  | createFinding newId org actor now args => exact createFinding_sound hs h
  | correlateCompliance org findingId actor args =>
    obtain ⟨f, hf, h⟩ := bind_eq_ok.1 h
    exact correlateCompliance_sound hs (mem_of_getFinding hf) h
  | addDisposition org findingId newId actor now args =>
    obtain ⟨f, hf, h⟩ := bind_eq_ok.1 h
    exact addDisposition_sound hs (mem_of_getFinding hf) h
  | closeFinding org findingId actor now =>
    obtain ⟨f, hf, h⟩ := bind_eq_ok.1 h
    exact closeFinding_sound hs (mem_of_getFinding hf) h
  | elsewhere db =>
    cases h
    exact sound_later_of_same hs rfl (fun f hf => ⟨f, hf, rfl, le_refl _⟩) hs.tells

end Writes

/-- **THE LIFE CYCLE OF FINDINGS**: from a database without findings, whatever is requested and
whatever the other services commit, every status tells of the trail, and of any two states the
later one has lost nothing, has no status back, and has kept the trails of closed findings. -/
theorem findings_lifecycle (db : Database) (as : List Action) :
    let states := Runs.visited step ⟨{ db with findings := Table.empty }, Table.empty⟩ as
    (∀ s ∈ states, Sound s) ∧ states.Pairwise Later := by
  exact Runs.pairwise_visited .refl (fun _ _ _ => .trans) (fun _ _ _ hs h => step_sound hs h) as
    ⟨fun _ hf => (nomatch hf), fun _ hd => (nomatch hd)⟩

end FindingService
end AeroComply
