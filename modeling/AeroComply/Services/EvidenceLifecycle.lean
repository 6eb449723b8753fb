import AeroComply.Services.ComplianceRuns

/-!
# EvidenceLifecycle — the status of an evidence row over time

The status column has two writers.  `transition_evidence` moves along
`_ALLOWED_TRANSITIONS`; `verify_evidence` and `reject_evidence` are decisions,
and write ACCEPTED and REJECTED whatever was there before.  Histories are those of
`ComplianceRuns`: the operations on obligations leave evidence alone.

`status_changes` lists the ways a status can change when rejected evidence is not
verified as it stands, and `resubmitted_before_accepted` is what then remains of the
way from REJECTED to ACCEPTED.
-/

namespace AeroComply

open Relational (Keyed Table)

namespace EvidenceLifecycle

open ApplicabilityService ObligationService EvidenceService
open ComplianceRuns (Action step getEvidence_eq_ok resolveObligationCompliance_frame)

/-- The status of the evidence row `id`, once there is one. -/
def statusOf (id : UUID) (db : Database) : Option EvidenceStatus :=
  (db.evidence.find? id).map Evidence.status

/-- The ways the status of a row can change under a call. -/
inductive Change : Action → Option EvidenceStatus → Option EvidenceStatus → Prop
  | stays (call : Action) (s : Option EvidenceStatus) : Change call s s
  | created {now : DateTime} {today : Date} {newId org : UUID} {args : EvidenceCreate} :
      Change (.createEvidence now today newId org args) none (some .uploaded)
  | moved {org evidenceId : UUID} {actor : Option UUID} {reason : Option String}
      {s t : EvidenceStatus} (h : canTransition s t = true) :
      Change (.transitionEvidence org evidenceId t actor reason) (some s) (some t)
  | verified {now : DateTime} {today : Date} {org evidenceId : UUID} {verifier : Option UUID}
      {notes : Option String} {s : EvidenceStatus} (h : s ≠ .rejected) :
      Change (.verifyEvidence now today org evidenceId verifier notes) (some s) (some .accepted)
  | rejected {now : DateTime} {today : Date} {org evidenceId : UUID} {verifier : Option UUID}
      {reason : String} {s : EvidenceStatus} :
      Change (.rejectEvidence now today org evidenceId verifier reason) (some s) (some .rejected)

/-- Rejected evidence is not verified as it stands. -/
def NotReinstated (id : UUID) (db : Database) : Action → Prop
  | .verifyEvidence _ _ org evidenceId _ _ => ∀ e ∈ db.evidence.rows, e.id = id →
      evidenceId = id → e.organizationId = org → e.status ≠ .rejected
  | _ => True

instance (id : UUID) (db : Database) (call : Action) : Decidable (NotReinstated id db call) :=
  match call with
  | .verifyEvidence .. => inferInstanceAs (Decidable (∀ e ∈ _, _ → _ → _ → ¬_))
  | .createObligation .. | .updateObligation .. | .evaluateAndSyncObligation ..
  | .createEvidence .. | .transitionEvidence .. | .rejectEvidence .. =>
    inferInstanceAs (Decidable True)

/-! ## What the calls write -/

section Writes

variable {u : UnicodeTables} {db db' : Database} {id : UUID}

theorem statusOf_of_evidence_eq (h : db'.evidence = db.evidence) :
    statusOf id db' = statusOf id db := by
  rw [statusOf, statusOf, h]

theorem statusOf_of_mem {e : Evidence} (hmem : e ∈ db.evidence.rows) (hid : e.id = id) :
    statusOf id db = some e.status := by
  rw [statusOf, Table.find?_eq_some.2 ⟨hmem, hid⟩]
  rfl

theorem statusOf_save {old new : Evidence} (hold : old ∈ db.evidence.rows)
    (hid : old.id = new.id) (h : db'.evidence = db.evidence.save new) :
    statusOf id db' = if new.id = id then some new.status else statusOf id db := by
  rw [statusOf, h, Table.find?_save hold hid]
  show Option.map _ (if new.id = id then _ else _) = _
  split
  · rfl
  · rfl

theorem resolve_evidence (now : DateTime) (today : Date) (o : ComplianceObligation)
    (actor : Option UUID) :
    (resolveObligationCompliance db now today o actor).1.evidence = db.evidence := by
  obtain ⟨_, h⟩ := resolveObligationCompliance_frame db now today o actor
  rw [h]

theorem resolveLinked_evidence (now : DateTime) (today : Date) (actor : Option UUID)
    (o : Option ComplianceObligation) :
    (resolveLinked db now today actor o).evidence = db.evidence := by
  cases o with
  | none => rfl
  | some o => exact resolve_evidence now today o actor

variable {actor : Option UUID} {row : ComplianceObligation} {call : Action} {today : Date}
  {now : DateTime}

theorem createObligation_evidence {newId org : UUID} {payload : ComplianceObligationCreateRequest}
    (h : createObligation db today newId org actor payload = .ok (db', row)) :
    db'.evidence = db.evidence := by
  obtain ⟨_, _, h⟩ := bind_eq_ok.1 h
  obtain ⟨_, _, h⟩ := bind_eq_ok.1 h
  obtain ⟨_, _, h⟩ := bind_eq_ok.1 h
  obtain ⟨existing, _, h⟩ := bind_eq_ok.1 h
  cases existing with
  | some existing =>
    rw [pure_eq_ok] at h
    obtain ⟨rfl, rfl⟩ := Prod.mk.inj h
    rfl
  | none =>
    obtain ⟨_, _, h⟩ := bind_eq_ok.1 h
    rw [pure_eq_ok] at h
    obtain ⟨rfl, rfl⟩ := Prod.mk.inj h
    rfl

theorem updateObligation_evidence {org : UUID} {obligationId : UUID}
    {payload : ComplianceObligationUpdateRequest}
    (h : updateObligation db org actor obligationId payload = .ok (db', row)) :
    db'.evidence = db.evidence := by
  obtain ⟨_, _, h⟩ := bind_eq_ok.1 h
  dsimp only at h
  split at h
  · rw [pure_eq_ok] at h
    obtain ⟨rfl, rfl⟩ := Prod.mk.inj h
    rfl
  · rw [pure_eq_ok] at h
    obtain ⟨rfl, rfl⟩ := Prod.mk.inj h
    rfl

theorem evaluateAndSync_evidence {newId org : UUID} {obligationId : UUID}
    (h : evaluateAndSyncObligation u db now today newId org actor obligationId = .ok (db', row)) :
    db'.evidence = db.evidence := by
  obtain ⟨_, _, h⟩ := bind_eq_ok.1 h
  obtain ⟨rule, _, h⟩ := bind_eq_ok.1 h
  cases rule with
  | none =>
    rw [pure_eq_ok] at h
    obtain ⟨rfl, rfl⟩ := Prod.mk.inj h
    rfl
  | some rule =>
    obtain ⟨_, _, h⟩ := bind_eq_ok.1 h
    obtain ⟨⟨evaluated, evaluation⟩, heval, h⟩ := bind_eq_ok.1 h
    rw [pure_eq_ok] at h
    obtain ⟨rfl, rfl⟩ := Prod.mk.inj h
    obtain ⟨_, _, rfl⟩ := evaluateApplicability_frame heval
    exact resolve_evidence now today _ actor

theorem createEvidence_status {newId org : UUID} {args : EvidenceCreate} {row : Evidence}
    (h : createEvidence db now today newId org args = .ok (db', row)) :
    Change (.createEvidence now today newId org args) (statusOf id db) (statusOf id db') := by
  obtain ⟨_, _, h⟩ := bind_eq_ok.1 h
  obtain ⟨obligation, _, h⟩ := bind_eq_ok.1 h
  obtain ⟨evidence, hadd, h⟩ := bind_eq_ok.1 h
  rw [pure_eq_ok] at h
  obtain ⟨rfl, rfl⟩ := Prod.mk.inj h
  have hins := addRowOrRaise_eq_ok.1 hadd
  rw [statusOf_of_evidence_eq (resolveLinked_evidence now today _ obligation)]
  show Change _ _ ((evidence.find? id).map Evidence.status)
  have hkey : Keyed.key (newEvidence newId org args obligation) = newId := rfl
  rw [Table.find?_insert? hins, hkey]
  by_cases hid : newId = id
  · have hfree : statusOf id db = none := by
      rw [statusOf, Option.map_eq_none_iff, Table.find?_eq_none]
      intro y hy hyid
      exact (Table.insert?_eq_some hins).1 (List.mem_map.2 ⟨y, hy, hyid.trans hid.symm⟩)
    rw [if_pos hid, hfree]
    exact .created
  · rw [if_neg hid]
    exact .stays _ _

theorem settle_evidence {new row : Evidence} {action : String}
    (h : settle db now today new actor action = .ok (db', row)) :
    db'.evidence = db.evidence.save new := by
  obtain ⟨obligation, _, h⟩ := bind_eq_ok.1 h
  rw [pure_eq_ok] at h
  obtain ⟨rfl, rfl⟩ := Prod.mk.inj h
  exact resolveLinked_evidence now today actor obligation

theorem transitionEvidence_evidence {old row : Evidence} {target : EvidenceStatus}
    {reason : Option String} (h : transitionEvidence db old target actor reason = .ok (db', row)) :
    canTransition old.status target = true ∧
      db'.evidence = db.evidence.save (transitioned old target actor reason) := by
  obtain ⟨_, hcan, h⟩ := bind_eq_ok.1 h
  have hcan : canTransition old.status target = true := by
    simpa using raiseIf_eq_ok.1 hcan
  dsimp only at h
  split at h
  · rw [pure_eq_ok] at h
    obtain ⟨rfl, rfl⟩ := Prod.mk.inj h
    exact ⟨hcan, rfl⟩
  · rw [pure_eq_ok] at h
    obtain ⟨rfl, rfl⟩ := Prod.mk.inj h
    exact ⟨hcan, rfl⟩

theorem change_of_save {old new : Evidence} (hold : old ∈ db.evidence.rows) (hid : old.id = new.id)
    (h : db'.evidence = db.evidence.save new)
    (hchange : old.id = id → Change call (some old.status) (some new.status)) :
    Change call (statusOf id db) (statusOf id db') := by
  rw [statusOf_save hold hid h]
  by_cases hrow : new.id = id
  · rw [if_pos hrow, statusOf_of_mem hold (hid.trans hrow)]
    exact hchange (hid.trans hrow)
  · rw [if_neg hrow]
    exact .stays _ _

/-- **STEP**: a call that reinstates no rejected evidence changes a status in one of the listed
ways. -/
theorem step_change (hok : NotReinstated id db call) (h : step u db call = .ok db') :
    Change call (statusOf id db) (statusOf id db') := by
  cases call with
  | createObligation today newId org actor payload =>
    obtain ⟨_, h⟩ := map_fst_eq_ok h
    rw [statusOf_of_evidence_eq (createObligation_evidence h)]
    exact .stays _ _
  | updateObligation org actor obligationId payload =>
    obtain ⟨_, h⟩ := map_fst_eq_ok h
    rw [statusOf_of_evidence_eq (updateObligation_evidence h)]
    exact .stays _ _
  | evaluateAndSyncObligation now today newId org actor obligationId =>
    obtain ⟨_, h⟩ := map_fst_eq_ok h
    rw [statusOf_of_evidence_eq (evaluateAndSync_evidence h)]
    exact .stays _ _
  | createEvidence now today newId org args =>
    obtain ⟨_, h⟩ := map_fst_eq_ok h
    exact createEvidence_status h
  | transitionEvidence org evidenceId target actor reason =>
    obtain ⟨e, hget, h⟩ := bind_eq_ok.1 h
    obtain ⟨_, h⟩ := map_fst_eq_ok h
    obtain ⟨hcan, hsave⟩ := transitionEvidence_evidence h
    refine change_of_save (getEvidence_eq_ok hget).1 (transitioned_id _ _ _ _).symm hsave
      fun _ => ?_
    rw [transitioned_status]
    exact .moved hcan
  | verifyEvidence now today org evidenceId verifier notes =>
    obtain ⟨e, hget, h⟩ := bind_eq_ok.1 h
    obtain ⟨_, h⟩ := map_fst_eq_ok h
    obtain ⟨hmem, heid, horg⟩ := getEvidence_eq_ok hget
    rw [verifyEvidence] at h
    refine change_of_save hmem (by rfl) (settle_evidence h) fun hid => ?_
    exact .verified (hok e hmem hid (heid.symm.trans hid) horg)
  | rejectEvidence now today org evidenceId verifier reason =>
    obtain ⟨e, hget, h⟩ := bind_eq_ok.1 h
    obtain ⟨_, h⟩ := map_fst_eq_ok h
    rw [rejectEvidence] at h
    refine change_of_save (getEvidence_eq_ok hget).1 (by rfl) (settle_evidence h) fun _ => ?_
    exact .rejected

theorem attempt_change (hok : NotReinstated id db call) :
    Change call (statusOf id db) (statusOf id (Runs.attempt (step u) db call)) := by
  rcases Runs.attempt_cases (step u) db call with h | h
  · rw [h]
    exact .stays _ _
  · exact step_change hok h

theorem change_from_rejected {s t : Option EvidenceStatus} (h : Change call s t)
    (hs : s = some .rejected) :
    t = some .rejected ∨ t = some .uploaded ∨ t = some .submitted := by
  cases h with
  | stays call s => exact Or.inl hs
  | created => cases hs
  | moved hcan =>
    cases hs
    next t =>
    cases t with
    | uploaded => exact Or.inr (Or.inl rfl)
    | submitted => exact Or.inr (Or.inr rfl)
    | required | awaitingReview | accepted | rejected => cases hcan
  | verified hne =>
    cases hs
    exact absurd rfl hne
  | rejected => exact Or.inl rfl

end Writes

/-! ## Histories -/

/-- The database that a history leaves. -/
def after (u : UnicodeTables) (db : Database) (calls : List Action) : Database :=
  calls.foldl (Runs.attempt (step u)) db

section Histories

variable {u : UnicodeTables} {db : Database} {id : UUID}

/-- **CHANGES**: in a history that verifies no rejected evidence as it stands, each call changes
the status of a row in one of the listed ways. -/
theorem status_changes {before rest : List Action} {call : Action}
    (hok : Runs.StepsMeet (step u) (NotReinstated id) db (before ++ call :: rest)) :
    Change call (statusOf id (after u db before)) (statusOf id (after u db (before ++ [call]))) := by
  obtain ⟨_, hcall, _⟩ := Runs.stepsMeet_append.1 hok
  have hlast : after u db (before ++ [call])
      = Runs.attempt (step u) (after u db before) call := List.foldl_append
  rw [hlast]
  exact attempt_change hcall

/-- **RESUBMISSION**: between REJECTED and ACCEPTED the row was UPLOADED or SUBMITTED. -/
theorem resubmitted_before_accepted {before mid : List Action}
    (hok : Runs.StepsMeet (step u) (NotReinstated id) db (before ++ mid))
    (hrejected : statusOf id (after u db before) = some .rejected)
    (haccepted : statusOf id (after u db (before ++ mid)) = some .accepted) :
    ∃ mid₁ mid₂, mid = mid₁ ++ mid₂ ∧
      (statusOf id (after u db (before ++ mid₁)) = some .uploaded ∨
        statusOf id (after u db (before ++ mid₁)) = some .submitted) := by
  have happend : ∀ l, after u db (before ++ l)
      = l.foldl (Runs.attempt (step u)) (after u db before) := fun _ => List.foldl_append
  have hpass := Runs.stays_or_passes
    (A := fun s => statusOf id s = some .rejected)
    (B := fun s => statusOf id s = some .uploaded ∨ statusOf id s = some .submitted)
    (fun s call hs hcall => change_from_rejected (attempt_change hcall) hs)
    mid (after u db before) hrejected (Runs.stepsMeet_append.1 hok).2
  rcases hpass with hend | ⟨mid₁, mid₂, heq, hmid⟩
  · rw [happend, hend] at haccepted
    cases haccepted
  · exact ⟨mid₁, mid₂, heq, by rw [happend]; exact hmid⟩

/-- **LIFECYCLE**: both, of one history. -/
theorem evidence_follows_lifecycle (calls : List Action)
    (hok : Runs.StepsMeet (step u) (NotReinstated id) db calls) :
    (∀ before call rest, calls = before ++ call :: rest →
      Change call (statusOf id (after u db before)) (statusOf id (after u db (before ++ [call]))))
    ∧ ∀ before mid rest, calls = before ++ mid ++ rest →
      statusOf id (after u db before) = some .rejected →
      statusOf id (after u db (before ++ mid)) = some .accepted →
      ∃ mid₁ mid₂, mid = mid₁ ++ mid₂ ∧
        (statusOf id (after u db (before ++ mid₁)) = some .uploaded ∨
          statusOf id (after u db (before ++ mid₁)) = some .submitted) := by
  constructor
  · rintro before call rest rfl
    exact status_changes hok
  · rintro before mid rest rfl
    exact resubmitted_before_accepted (Runs.stepsMeet_append.1 hok).1

end Histories

/-- One row of evidence, uploaded. -/
def uploaded : Database where
  evidence := .single { id := 20, organizationId := 1, status := .uploaded }

/-- The row is verified as it was uploaded: UPLOADED to ACCEPTED is no edge. -/
theorem verified_without_review :
    ¬∀ (db : Database) (id : UUID) (calls : List Action) (before rest : List Action) (call : Action),
      (∀ a ∈ calls, match a with
        | .createEvidence .. | .transitionEvidence .. | .verifyEvidence .. | .rejectEvidence .. =>
          True
        | _ => False) → calls = before ++ call :: rest →
      ∀ s t, statusOf id (after .ascii db before) = some s →
        statusOf id (after .ascii db (before ++ [call])) = some t →
        s = t ∨ canTransition s t = true := by
  intro h
  have hedge := h uploaded 20 [.verifyEvidence 0 0 1 20 (some 9) none] [] [] _ (by simp) rfl
    .uploaded .accepted rfl rfl
  revert hedge
  decide

/-- The row goes through review, is rejected in the end, submitted again, and verified. -/
def secondReview : List Action :=
  [ .transitionEvidence 1 20 .submitted none none,
    .rejectEvidence 1 0 1 20 (some 9) "illegible",
    .transitionEvidence 1 20 .submitted none none,
    .transitionEvidence 1 20 .awaitingReview none none,
    .verifyEvidence 2 0 1 20 (some 9) none ]

theorem secondReview_resubmitted :
    ∃ mid₁ mid₂, secondReview.drop 2 = mid₁ ++ mid₂ ∧
      (statusOf 20 (after .ascii uploaded (secondReview.take 2 ++ mid₁)) = some .uploaded ∨
        statusOf 20 (after .ascii uploaded (secondReview.take 2 ++ mid₁)) = some .submitted) :=
  (evidence_follows_lifecycle secondReview (by decide)).2 (secondReview.take 2)
    (secondReview.drop 2) [] (by rfl) (by rfl) (by rfl)

end EvidenceLifecycle
end AeroComply
