import AeroComply.Services.ComplianceRuns

/-!
# ReviewRequired — how an obligation gets out of review

`ComplianceState` asks that an obligation in REVIEW_REQUIRED stays there until an
authorized workflow resolves it.  The histories here are the calls that are no
such workflow: evaluations and evidence.  Between two calls anything but the
obligations and the evidence may change, rules and configurations included.

`kept_from_verdicts_iff` says which histories never make a verdict of the
obligation, NOT_APPLICABLE or COMPLIANT.
-/

namespace AeroComply

open Relational (Table)

namespace ReviewRequired

open ApplicabilityService ObligationService EvidenceService
open ComplianceRuns (getObligation_eq_ok getEvidence_eq_ok mem_linkedEvidence
  resolvedStatus_compliant resolveObligationCompliance_frame resolvedObligation_id)

/-- The status is a verdict: the obligation is met, or it is none. -/
def IsVerdict (status : String) : Prop :=
  status = ComplianceState.notApplicable ∨ status = ComplianceState.compliant

instance (status : String) : Decidable (IsVerdict status) := inferInstanceAs (Decidable (_ ∨ _))

/-- Of the items, one is verified and none is rejected. -/
def Supports (items : List Evidence) : Prop :=
  (∃ e ∈ items, isVerified e = true) ∧ ∀ e ∈ items, isRejected e = false

instance (items : List Evidence) : Decidable (Supports items) := inferInstanceAs (Decidable (_ ∧ _))

/-! ## The resolver -/

section Resolver

variable {db : Database} {now : DateTime} {today : Date} {o : ComplianceObligation}

variable {dueDate : Option Date} {items : List Evidence}

theorem resolvedStatus_eq_compliant :
    resolvedStatus today dueDate items = ComplianceState.compliant ↔ Supports items := by
  refine ⟨resolvedStatus_compliant, fun h => ?_⟩
  have hclean : items.any isRejected = false := by
    rw [List.any_eq_false]
    intro e he
    rw [h.2 e he]
    exact Bool.false_ne_true
  rw [resolvedStatus, hclean, List.any_eq_true.2 h.1]
  rfl

theorem resolvedStatus_ne_notApplicable :
    resolvedStatus today dueDate items ≠ ComplianceState.notApplicable := by
  rw [resolvedStatus]
  split
  · decide
  · split
    · decide
    · split
      · decide
      · split <;> decide

theorem resolvedObligation_status : (resolvedObligation db now today o).status
    = if isUnresolvable o.status then o.status
      else resolvedStatus today o.dueDate (linkedEvidence db o) := by
  rw [resolvedObligation]
  split
  · rfl
  · dsimp only
    split
    · rfl
    · rfl

theorem resolved_isVerdict_iff : IsVerdict (resolvedObligation db now today o).status ↔
    o.status = ComplianceState.notApplicable ∨
      (isUnresolvable o.status = false ∧ Supports (linkedEvidence db o)) := by
  rw [resolvedObligation_status]
  cases hun : isUnresolvable o.status with
  | true =>
    rw [if_pos rfl]
    constructor
    · rintro (h | h)
      · exact Or.inl h
      · rw [h] at hun
        exact absurd hun (by decide)
    · rintro (h | ⟨h, _⟩)
      · exact Or.inl h
      · cases h
  | false =>
    rw [if_neg Bool.false_ne_true]
    constructor
    · rintro (h | h)
      · exact absurd h resolvedStatus_ne_notApplicable
      · exact Or.inr ⟨rfl, resolvedStatus_eq_compliant.1 h⟩
    · rintro (h | ⟨_, h⟩)
      · rw [h] at hun
        exact absurd hun (by decide)
      · exact Or.inr (resolvedStatus_eq_compliant.2 h)

/-- The result of an evaluation leaves the obligation without a verdict: it is not
NOT_APPLICABLE, and where it is APPLICABLE and the obligation is not in REVIEW_REQUIRED, the
evidence does not support it. -/
def Withholds (db : Database) (o : ComplianceObligation) : EvaluationResult → Prop
  | .notApplicable => False
  | .applicable => o.status = ComplianceState.reviewRequired ∨ ¬Supports (linkedEvidence db o)
  | .insufficientData | .reviewRequired => True

instance (db : Database) (o : ComplianceObligation) (result : EvaluationResult) :
    Decidable (Withholds db o result) :=
  match result with
  | .notApplicable => inferInstanceAs (Decidable False)
  | .applicable => inferInstanceAs (Decidable (_ ∨ ¬_))
  | .insufficientData | .reviewRequired => inferInstanceAs (Decidable True)

theorem syncedStatus_applicable : isUnresolvable (syncedStatus today o .applicable)
    = decide (o.status = ComplianceState.reviewRequired) := by
  rw [syncedStatus]
  split
  · next hopen =>
    have hnot : decide (o.status = ComplianceState.reviewRequired) = false := by
      rcases hopen with hs | hs | hs
      · rw [hs]; decide
      · rw [hs]; decide
      · rw [hs]; decide
    rw [hnot]
    split
    · decide
    · decide
  · next hopen =>
    rw [not_or, not_or] at hopen
    rw [isUnresolvable, decide_eq_false hopen.2.1, decide_eq_false hopen.2.2]
    rfl

theorem syncedStatus_applicable_ne :
    syncedStatus today o .applicable ≠ ComplianceState.notApplicable := by
  rw [syncedStatus]
  split
  · split
    · decide
    · decide
  · next hopen =>
    rw [not_or, not_or] at hopen
    exact hopen.2.1

theorem synced_isVerdict_iff {ruleId evaluationId : Option UUID} {result : EvaluationResult} :
    ¬IsVerdict (resolvedObligation db now today { o with
        ruleId, applicabilityEvaluationId := evaluationId
        status := syncedStatus today o result }).status ↔ Withholds db o result := by
  rw [resolved_isVerdict_iff]
  show ¬(syncedStatus today o result = ComplianceState.notApplicable ∨
    (isUnresolvable (syncedStatus today o result) = false ∧ Supports (linkedEvidence db o))) ↔ _
  have hblocked : ¬(ComplianceState.blocked = ComplianceState.notApplicable ∨
      (isUnresolvable ComplianceState.blocked = false ∧ Supports (linkedEvidence db o))) := by
    rintro (h | ⟨h, _⟩)
    · exact absurd h (by decide)
    · exact absurd h (by decide)
  have hreview : ¬(ComplianceState.reviewRequired = ComplianceState.notApplicable ∨
      (isUnresolvable ComplianceState.reviewRequired = false ∧
        Supports (linkedEvidence db o))) := by
    rintro (h | ⟨h, _⟩)
    · exact absurd h (by decide)
    · exact absurd h (by decide)
  cases result with
  | notApplicable => exact iff_of_false (fun hn => hn (Or.inl rfl)) id
  | insufficientData => exact iff_of_true hblocked trivial
  | reviewRequired => exact iff_of_true hreview trivial
  | applicable =>
    rw [syncedStatus_applicable, or_iff_right syncedStatus_applicable_ne, not_and,
      decide_eq_false_iff_not]
    exact imp_iff_not_or.trans (or_congr_left not_not)

end Resolver

/-! ## The calls -/

/-- What the rule of an obligation says of its configuration, if it has a rule. -/
def overallKleene (u : UnicodeTables) (db : Database) (now : DateTime) (organizationId : UUID)
    (o : ComplianceObligation) : Except Error (Option KleeneValue) := do
  match ← ruleToEvaluate db organizationId o with
  | none => pure none
  | some rule =>
    let (aircraft, asset) ← resolveSubject db organizationId o.aircraftId o.assetId
    let root ← rootCondition db organizationId rule
    let (overall, _) ←
      evaluateRoot u (captureConfigurationSnapshot db now organizationId aircraft asset) root
    pure (some overall)

/-- The obligations that `create_or_sync_from_evaluation` finds for an evaluation. -/
def syncTargets (db : Database) (organizationId : UUID) (evaluation : ApplicabilityEvaluation) :
    List ComplianceObligation :=
  match ruleOfEvaluation db organizationId evaluation with
  | .ok (some rule) =>
    match rule.regulatoryRequirementId with
    | some requirementId => existingObligations db organizationId requirementId evaluation.assetId
        evaluation.aircraftId
    | none => []
  | _ => []

/-- The calls on obligations and evidence that resolve no review, and whatever else happens to
the database in between. -/
inductive ReviewCall
  | change (other : Database)
  | evaluateAndSyncObligation (now : DateTime) (today : Date) (newId organizationId : UUID)
      (actor : Option UUID) (obligationId : UUID)
  | createOrSyncFromEvaluation (now : DateTime) (today : Date) (newId organizationId : UUID)
      (actor : Option UUID) (evaluation : ApplicabilityEvaluation)
  | createEvidence (now : DateTime) (today : Date) (newId organizationId : UUID)
      (args : EvidenceCreate)
  | verifyEvidence (now : DateTime) (today : Date) (organizationId evidenceId : UUID)
      (verifier : Option UUID) (verificationNotes : Option String)
  | rejectEvidence (now : DateTime) (today : Date) (organizationId evidenceId : UUID)
      (verifier : Option UUID) (rejectionReason : String)

def step (u : UnicodeTables) (db : Database) : ReviewCall → Except Error Database
  | .change other => .ok { other with obligations := db.obligations, evidence := db.evidence }
  | .evaluateAndSyncObligation now today newId org actor obligationId =>
    (evaluateAndSyncObligation u db now today newId org actor obligationId).map Prod.fst
  | .createOrSyncFromEvaluation now today newId org actor evaluation =>
    (createOrSyncFromEvaluation db now today newId org actor evaluation).map Prod.fst
  | .createEvidence now today newId org args =>
    (createEvidence db now today newId org args).map Prod.fst
  | .verifyEvidence now today org evidenceId verifier notes => do
    let evidence ← getEvidence db org evidenceId
    (verifyEvidence db now today evidence verifier notes).map Prod.fst
  | .rejectEvidence now today org evidenceId verifier reason => do
    let evidence ← getEvidence db org evidenceId
    (rejectEvidence db now today evidence verifier reason).map Prod.fst

/-- The evaluated rule, if there is one, leaves `o` without a verdict. -/
def EvaluationWithholds (db : Database) (o : ComplianceObligation) :
    Except Error (Option KleeneValue) → Prop
  | .ok (some overall) => Withholds db o (systemResult false overall)
  | _ => True

instance (db : Database) (o : ComplianceObligation) (overall : Except Error (Option KleeneValue)) :
    Decidable (EvaluationWithholds db o overall) :=
  match overall with
  | .ok (some overall) => inferInstanceAs (Decidable (Withholds db o (systemResult false overall)))
  | .ok none | .error _ => inferInstanceAs (Decidable True)

/-- The call leaves the obligation `id` without a verdict: an evaluation of it withholds one, and
new or verified evidence of it either meets an obligation that is NOT_APPLICABLE, BLOCKED or
in REVIEW_REQUIRED, or does not support it. -/
def KeepsFromVerdict (u : UnicodeTables) (id : UUID) (db : Database) : ReviewCall → Prop
  | .change _ | .rejectEvidence .. => True
  | .evaluateAndSyncObligation now _ _ org _ obligationId =>
    ∀ o ∈ db.obligations.rows, o.id = id → obligationId = id → o.organizationId = org →
      EvaluationWithholds db o (overallKleene u db now org o)
  | .createOrSyncFromEvaluation _ _ _ org _ evaluation =>
    ∀ o ∈ syncTargets db org evaluation, o.id = id → Withholds db o evaluation.systemResult
  | .createEvidence _ _ _ org args =>
    ∀ o ∈ db.obligations.rows, o.id = id → args.complianceObligationId = some id →
      o.organizationId = org →
      isUnresolvable o.status = true ∨ ¬Supports (linkedEvidence db o)
  | .verifyEvidence _ _ org evidenceId _ _ =>
    ∀ o ∈ db.obligations.rows, o.id = id → ∀ e ∈ linkedEvidence db o, e.id = evidenceId →
      e.organizationId = org →
      isUnresolvable o.status = true ∨
        ∃ e' ∈ linkedEvidence db o, e'.id ≠ evidenceId ∧ isRejected e' = true

instance (u : UnicodeTables) (id : UUID) (db : Database) (call : ReviewCall) :
    Decidable (KeepsFromVerdict u id db call) :=
  match call with
  | .change _ | .rejectEvidence .. => inferInstanceAs (Decidable True)
  | .evaluateAndSyncObligation .. => inferInstanceAs (Decidable (∀ o ∈ _, _ → _ → _ → _))
  | .createOrSyncFromEvaluation .. => inferInstanceAs (Decidable (∀ o ∈ _, _ → _))
  | .createEvidence .. => inferInstanceAs (Decidable (∀ o ∈ _, _ → _ → _ → _ ∨ ¬_))
  | .verifyEvidence .. =>
    inferInstanceAs (Decidable (∀ o ∈ _, _ → ∀ e ∈ _, _ → _ → _ ∨ ∃ e' ∈ _, _ ∧ _))

/-- The obligation `id` is on record, without a verdict. -/
def Unsettled (id : UUID) (obligations : Table ComplianceObligation) : Prop :=
  ∃ o ∈ obligations.rows, o.id = id ∧ ¬IsVerdict o.status

section Steps

variable {u : UnicodeTables} {db db' : Database} {id : UUID} {o : ComplianceObligation}

variable {now : DateTime} {today : Date} {t : Table ComplianceObligation} {actor : Option UUID}

variable {evaluation : ApplicabilityEvaluation} {old : ComplianceObligation}
  {rule : ApplicabilityRule} {verifier : Option UUID} {args : EvidenceCreate}

theorem unsettled_save_same (hold : old ∈ t.rows) (hid : old.id = o.id) (h : o.id = id) :
    Unsettled id (t.save o) ↔ ¬IsVerdict o.status := by
  have hmem : o ∈ (t.save o).rows := (Table.mem_save_of_mem hold hid).2 (Or.inr rfl)
  constructor
  · rintro ⟨x, hx, hxid, hstatus⟩
    have hxo : x = o := Table.eq_of_key_eq hx hmem (hxid.trans h.symm)
    rw [← hxo]
    exact hstatus
  · exact fun hstatus => ⟨o, hmem, h, hstatus⟩

theorem unsettled_save_other (h : o.id ≠ id) :
    Unsettled id (t.save o) ↔ Unsettled id t := by
  constructor
  · rintro ⟨x, hx, hxid, hstatus⟩
    rcases Table.mem_save.1 hx with ⟨hx, _⟩ | ⟨rfl, _⟩
    · exact ⟨x, hx, hxid, hstatus⟩
    · exact absurd hxid h
  · rintro ⟨x, hx, hxid, hstatus⟩
    exact ⟨x, Table.mem_save.2 (Or.inl ⟨hx, fun hk => h (hk.symm.trans hxid)⟩), hxid, hstatus⟩

theorem unsettled_save_iff {Ok : Prop} (hu : Unsettled id t) (hold : old ∈ t.rows)
    (hid : old.id = o.id) (hsame : old.id = id → (¬IsVerdict o.status ↔ Ok))
    (hother : old.id ≠ id → Ok) :
    Unsettled id (t.save o) ↔ Ok := by
  by_cases h : old.id = id
  · rw [unsettled_save_same hold hid (hid.symm.trans h)]
    exact hsame h
  · rw [unsettled_save_other (fun ho => h (hid.trans ho))]
    exact iff_of_true hu (hother h)

theorem resolve_obligations (now : DateTime) (today : Date) (o : ComplianceObligation)
    (actor : Option UUID) : (resolveObligationCompliance db now today o actor).1.obligations
      = db.obligations.save (resolvedObligation db now today o) := by
  obtain ⟨_, h⟩ := resolveObligationCompliance_frame db now today o actor
  rw [h]

theorem ruleToEvaluate_mem {org : UUID} (h : ruleToEvaluate db org o = .ok (some rule)) :
    rule ∈ db.rules.rows := by
  have hsel : ∀ {p : ApplicabilityRule → Bool},
      scalarOneOrNone (db.rules.select p) = .ok (some rule) → rule ∈ db.rules.rows := by
    intro p hp
    have hmem : rule ∈ db.rules.select p := by
      rw [scalarOneOrNone_eq_some hp]
      exact List.mem_singleton_self rule
    exact (Table.mem_select.1 hmem).1
  obtain ⟨own, hown, h⟩ := bind_eq_ok.1 h
  cases own with
  | some own =>
    rw [pure_eq_ok] at h
    cases h
    cases hrule : o.ruleId with
    | none =>
      rw [hrule] at hown
      cases hown
    | some ruleId =>
      rw [hrule] at hown
      exact hsel hown
  | none => exact hsel h

theorem evaluateApplicability_result {newId org : UUID} {request : ApplicabilityEvaluationRequest}
    (hrule : rule ∈ db.rules.rows)
    (hrequest : evaluationRequest rule.id o.aircraftId o.assetId = .ok request)
    (hfound : ruleToEvaluate db org o = .ok (some rule))
    (h : evaluateApplicability u db now newId org actor request = .ok (db', evaluation)) :
    ∃ overall, overallKleene u db now org o = .ok (some overall) ∧
      evaluation.systemResult = systemResult false overall := by
  rw [evaluationRequest] at hrequest
  split at hrequest
  · cases hrequest
    obtain ⟨rule', hget, h⟩ := bind_eq_ok.1 h
    obtain ⟨_, _, h⟩ := bind_eq_ok.1 h
    obtain ⟨⟨aircraft, asset⟩, hsubject, h⟩ := bind_eq_ok.1 h
    obtain ⟨root, hroot, h⟩ := bind_eq_ok.1 h
    obtain ⟨⟨overall, trace⟩, heval, h⟩ := bind_eq_ok.1 h
    obtain ⟨_, _, h⟩ := bind_eq_ok.1 h
    rw [pure_eq_ok] at h
    obtain ⟨rfl, rfl⟩ := Prod.mk.inj h
    have hsame : rule' = rule := by
      obtain ⟨hmem, hp⟩ := mem_of_oneOrRaise hget
      rw [Bool.and_eq_true, decide_eq_true_eq] at hp
      exact Table.eq_of_key_eq hmem hrule hp.1
    rw [hsame] at hroot
    refine ⟨overall, ?_, rfl⟩
    rw [overallKleene, hfound, ok_bind]
    show (resolveSubject db org o.aircraftId o.assetId >>= _) = _
    rw [hsubject, ok_bind]
    show (rootCondition db org rule >>= _) = _
    rw [hroot, ok_bind]
    show (evaluateRoot u _ root >>= _) = _
    rw [heval]
    rfl
  · cases hrequest

theorem evaluateAndSync_unsettled {newId org : UUID} {obligationId : UUID}
    {row : ComplianceObligation} (hu : Unsettled id db.obligations)
    (h : evaluateAndSyncObligation u db now today newId org actor obligationId = .ok (db', row)) :
    Unsettled id db'.obligations ↔ KeepsFromVerdict u id db
      (.evaluateAndSyncObligation now today newId org actor obligationId) := by
  obtain ⟨o, hget, h⟩ := bind_eq_ok.1 h
  obtain ⟨hmem, hid, horg⟩ := getObligation_eq_ok hget
  obtain ⟨rule, hfound, h⟩ := bind_eq_ok.1 h
  -- the condition is about the one row under the identifier
  have hcond : o.id = id → (EvaluationWithholds db o (overallKleene u db now org o) ↔
      KeepsFromVerdict u id db
        (.evaluateAndSyncObligation now today newId org actor obligationId)) := by
    intro hoid
    constructor
    · intro hw x hx hxid _ _
      have hxo : x = o := Table.eq_of_key_eq hx hmem (hxid.trans hoid.symm)
      rw [hxo]
      exact hw
    · exact fun hk => hk o hmem hoid (hid.symm.trans hoid) horg
  have hother : o.id ≠ id → KeepsFromVerdict u id db
      (.evaluateAndSyncObligation now today newId org actor obligationId) :=
    fun hne x _ _ heq _ => absurd (hid.trans heq) hne
  cases rule with
  | none =>
    rw [pure_eq_ok] at h
    obtain ⟨rfl, rfl⟩ := Prod.mk.inj h
    refine unsettled_save_iff hu hmem rfl (fun hoid => ?_) hother
    have hnone : overallKleene u db now org o = .ok none := by
      rw [overallKleene, hfound]
      rfl
    rw [← hcond hoid, hnone]
    have hreview : ¬IsVerdict ComplianceState.reviewRequired := by decide
    exact iff_of_true hreview trivial
  | some rule =>
    obtain ⟨request, hrequest, h⟩ := bind_eq_ok.1 h
    obtain ⟨⟨evaluated, evaluation⟩, heval, h⟩ := bind_eq_ok.1 h
    rw [pure_eq_ok] at h
    obtain ⟨rfl, rfl⟩ := Prod.mk.inj h
    obtain ⟨overall, hoverall, hresult⟩ :=
      evaluateApplicability_result (ruleToEvaluate_mem hfound) hrequest hfound heval
    obtain ⟨evaluations, log, rfl⟩ := evaluateApplicability_frame heval
    show Unsettled id (resolveObligationCompliance _ now today _ actor).1.obligations ↔ _
    rw [resolve_obligations]
    refine unsettled_save_iff hu hmem (by rw [resolvedObligation_id]) (fun hoid => ?_) hother
    rw [← hcond hoid, hoverall, EvaluationWithholds, ← hresult]
    exact synced_isVerdict_iff

theorem createOrSync_unsettled {newId org : UUID} {row : Option ComplianceObligation}
    (hu : Unsettled id db.obligations)
    (h : createOrSyncFromEvaluation db now today newId org actor evaluation = .ok (db', row)) :
    Unsettled id db'.obligations ↔ KeepsFromVerdict u id db
      (.createOrSyncFromEvaluation now today newId org actor evaluation) := by
  obtain ⟨rule, hrule, h⟩ := bind_eq_ok.1 h
  have htargets : ∀ targets, syncTargets db org evaluation = targets →
      (KeepsFromVerdict u id db
        (.createOrSyncFromEvaluation now today newId org actor evaluation) ↔
      ∀ o ∈ targets, o.id = id → Withholds db o evaluation.systemResult) := by
    rintro _ rfl
    exact Iff.rfl
  cases rule with
  | none =>
    rw [pure_eq_ok] at h
    obtain ⟨rfl, rfl⟩ := Prod.mk.inj h
    rw [htargets [] (by rw [syncTargets, hrule])]
    exact iff_of_true hu fun _ ho => nomatch ho
  | some rule =>
    dsimp only at h
    cases hreq : rule.regulatoryRequirementId with
    | none =>
      rw [hreq, pure_eq_ok] at h
      obtain ⟨rfl, rfl⟩ := Prod.mk.inj h
      rw [htargets [] (by rw [syncTargets, hrule]; dsimp only; rw [hreq])]
      exact iff_of_true hu fun _ ho => nomatch ho
    | some requirementId =>
      rw [hreq] at h
      obtain ⟨existing, hex, h⟩ := bind_eq_ok.1 h
      have hlist : syncTargets db org evaluation
          = existingObligations db org requirementId evaluation.assetId evaluation.aircraftId := by
        rw [syncTargets, hrule]
        dsimp only
        rw [hreq]
      cases existing with
      | none =>
        obtain ⟨obligations, hadd, h⟩ := bind_eq_ok.1 h
        rw [pure_eq_ok] at h
        obtain ⟨rfl, rfl⟩ := Prod.mk.inj h
        rw [htargets [] (hlist.trans (scalarOneOrNone_eq_none hex))]
        refine iff_of_true ?_ fun _ ho => nomatch ho
        obtain ⟨o, ho, hid, hstatus⟩ := hu
        exact ⟨o, (Table.mem_insert? (addRowOrRaise_eq_ok.1 hadd)).2 (Or.inl ho), hid, hstatus⟩
      | some o =>
        rw [pure_eq_ok] at h
        obtain ⟨rfl, rfl⟩ := Prod.mk.inj h
        have hone := scalarOneOrNone_eq_some hex
        have hmem : o ∈ db.obligations.rows := by
          have hsel := List.mem_singleton_self o
          rw [← hone, existingObligations, Table.mem_select] at hsel
          exact hsel.1
        rw [htargets [o] (hlist.trans hone), resolve_obligations]
        refine unsettled_save_iff hu hmem (by rw [resolvedObligation_id]) (fun hoid => ?_)
          (fun hne x hx hxid => absurd (List.mem_singleton.1 hx ▸ hxid) hne)
        rw [List.forall_mem_singleton]
        exact synced_isVerdict_iff.trans ⟨fun hw _ => hw, fun hw => hw hoid⟩

theorem Unsettled.not_verdict (hu : Unsettled id db.obligations) (hmem : o ∈ db.obligations.rows)
    (hid : o.id = id) : ¬IsVerdict o.status := by
  obtain ⟨x, hx, hxid, hstatus⟩ := hu
  have hxo : x = o := Table.eq_of_key_eq hx hmem (hxid.trans hid.symm)
  rw [← hxo]
  exact hstatus

theorem resolve_withholds_iff (h : ¬IsVerdict o.status) :
    ¬IsVerdict (resolvedObligation db now today o).status ↔
      isUnresolvable o.status = true ∨ ¬Supports (linkedEvidence db o) := by
  rw [resolved_isVerdict_iff, or_iff_right (fun hna => h (Or.inl hna)), not_and_or,
    Bool.not_eq_false]

theorem supports_append_new {newId org : UUID} {obligation : Option ComplianceObligation}
    {items : List Evidence} {p : Evidence → Bool} :
    Supports (items ++ [newEvidence newId org args obligation].filter p) ↔ Supports items := by
  have hnew : ∀ e ∈ [newEvidence newId org args obligation].filter p,
      isVerified e = false ∧ isRejected e = false := by
    intro e he
    rw [List.mem_singleton.1 (List.mem_filter.1 he).1]
    exact ⟨rfl, rfl⟩
  constructor
  · rintro ⟨⟨e, he, hver⟩, hrej⟩
    refine ⟨?_, fun x hx => hrej x (List.mem_append_left _ hx)⟩
    rcases List.mem_append.1 he with he | he
    · exact ⟨e, he, hver⟩
    · rw [(hnew e he).1] at hver
      cases hver
  · rintro ⟨⟨e, he, hver⟩, hrej⟩
    refine ⟨⟨e, List.mem_append_left _ he, hver⟩, fun x hx => ?_⟩
    rcases List.mem_append.1 hx with hx | hx
    · exact hrej x hx
    · exact (hnew x hx).2

theorem createEvidence_unsettled {newId org : UUID} {row : Evidence}
    (hu : Unsettled id db.obligations)
    (h : createEvidence db now today newId org args = .ok (db', row)) :
    Unsettled id db'.obligations ↔
      KeepsFromVerdict u id db (.createEvidence now today newId org args) := by
  obtain ⟨_, _, h⟩ := bind_eq_ok.1 h
  obtain ⟨obligation, hobl, h⟩ := bind_eq_ok.1 h
  obtain ⟨evidence, hadd, h⟩ := bind_eq_ok.1 h
  rw [pure_eq_ok] at h
  obtain ⟨rfl, rfl⟩ := Prod.mk.inj h
  cases hlink : args.complianceObligationId with
  | none =>
    rw [hlink] at hobl
    cases hobl
    refine iff_of_true hu fun x _ _ hsome _ => ?_
    rw [hlink] at hsome
    cases hsome
  | some obligationId =>
    rw [hlink] at hobl
    obtain ⟨o, hget, hobl⟩ := bind_eq_ok.1 hobl
    cases hobl
    obtain ⟨hmem, hid, horg⟩ := getObligation_eq_ok hget
    rw [resolveLinked, resolve_obligations]
    refine unsettled_save_iff hu hmem (by rw [resolvedObligation_id]) (fun hoid => ?_)
      (fun hne x _ _ hsome _ => ?_)
    · have hitems := Table.select_insert? (addRowOrRaise_eq_ok.1 hadd) fun e =>
        e.complianceObligationId = some o.id && e.organizationId = o.organizationId
      rw [resolve_withholds_iff (hu.not_verdict hmem hoid), linkedEvidence]
      show _ ∨ ¬Supports (evidence.select _) ↔ _
      rw [hitems, supports_append_new]
      constructor
      · intro hw x hx hxid _ _
        have hxo : x = o := Table.eq_of_key_eq hx hmem (hxid.trans hoid.symm)
        rw [hxo]
        exact hw
      · exact fun hk => hk o hmem hoid (hlink.trans (congrArg some (hid.symm.trans hoid))) horg
    · rw [hlink] at hsome
      exact absurd (hid.trans (Option.some.inj hsome)) hne

/-- The settled row `new` stands in the place of `old`, and its obligation is resolved. -/
theorem settle_unsettled {new row : Evidence} {action : String} (hu : Unsettled id db.obligations)
    (h : settle db now today new actor action = .ok (db', row)) :
    Unsettled id db'.obligations ↔ ∀ o ∈ db.obligations.rows, o.id = id →
      new.complianceObligationId = some o.id → new.organizationId = o.organizationId →
        isUnresolvable o.status = true ∨
          ¬Supports (linkedEvidence { db with evidence := db.evidence.save new } o) := by
  obtain ⟨obligation, hobl, h⟩ := bind_eq_ok.1 h
  rw [pure_eq_ok] at h
  obtain ⟨rfl, rfl⟩ := Prod.mk.inj h
  rw [obligationOf] at hobl
  cases hl : new.complianceObligationId with
  | none =>
    rw [hl] at hobl
    cases hobl
    refine iff_of_true hu fun _ _ _ hsome _ => ?_
    cases hsome
  | some obligationId =>
    rw [hl] at hobl
    -- the query finds the row that the link and the organization name, if there is one
    have hfound : ∀ x, x ∈ obligation.toList ↔
        x ∈ db.obligations.rows ∧ x.id = obligationId ∧ x.organizationId = new.organizationId := by
      intro x
      have hsel : x ∈ db.obligations.select (fun o =>
          o.id = obligationId && o.organizationId = new.organizationId) ↔
          x ∈ obligation.toList := by
        cases obligation with
        | none => rw [scalarOneOrNone_eq_none hobl]; exact Iff.rfl
        | some o => rw [scalarOneOrNone_eq_some hobl]; exact Iff.rfl
      rw [← hsel, Table.mem_select, Bool.and_eq_true, decide_eq_true_eq, decide_eq_true_eq]
    cases obligation with
    | none =>
      refine iff_of_true hu fun x hx _ hsome horg => ?_
      have hnone := (hfound x).2 ⟨hx, (Option.some.inj hsome).symm, horg.symm⟩
      cases hnone
    | some o =>
      obtain ⟨hmem, hid, horg⟩ := (hfound o).1 (List.mem_singleton_self o)
      rw [resolveLinked, resolve_obligations]
      refine unsettled_save_iff hu hmem (by rw [resolvedObligation_id]) (fun hoid => ?_)
        (fun hne x _ hxid hsome _ => ?_)
      · rw [resolve_withholds_iff (hu.not_verdict hmem hoid)]
        constructor
        · intro hw x hx hxid _ _
          have hxo : x = o := Table.eq_of_key_eq hx hmem (hxid.trans hoid.symm)
          rw [hxo]
          exact hw
        · exact fun hk => hk o hmem hoid (congrArg some hid.symm) horg.symm
      · exact absurd (hid.trans ((Option.some.inj hsome).trans hxid)) hne

theorem supports_verified_iff {old new : Evidence} (hold : old ∈ db.evidence.rows)
    (hid : old.id = new.id) (hlink : new.complianceObligationId = some o.id)
    (horg : new.organizationId = o.organizationId) (hver : isVerified new = true)
    (hrej : isRejected new = false) :
    Supports (linkedEvidence { db with evidence := db.evidence.save new } o) ↔
      ¬∃ e ∈ linkedEvidence db o, e.id ≠ new.id ∧ isRejected e = true := by
  have hmem : ∀ x, x ∈ linkedEvidence { db with evidence := db.evidence.save new } o ↔
      (x ∈ linkedEvidence db o ∧ x.id ≠ new.id) ∨ x = new := by
    intro x
    rw [mem_linkedEvidence, mem_linkedEvidence]
    show x ∈ (db.evidence.save new).rows ∧ _ ↔ _
    rw [Table.mem_save_of_mem hold hid]
    constructor
    · rintro ⟨⟨hx, hne⟩ | rfl, hx', hx''⟩
      · exact Or.inl ⟨⟨hx, hx', hx''⟩, hne⟩
      · exact Or.inr rfl
    · rintro (⟨⟨hx, hx', hx''⟩, hne⟩ | rfl)
      · exact ⟨Or.inl ⟨hx, hne⟩, hx', hx''⟩
      · exact ⟨Or.inr rfl, hlink, horg⟩
  constructor
  · rintro ⟨_, hclean⟩ ⟨e, he, hne, herej⟩
    rw [hclean e ((hmem e).2 (Or.inl ⟨he, hne⟩))] at herej
    cases herej
  · intro hnone
    refine ⟨⟨new, (hmem new).2 (Or.inr rfl), hver⟩, fun x hx => ?_⟩
    rcases (hmem x).1 hx with ⟨hx, hne⟩ | rfl
    · exact Bool.eq_false_iff.2 fun hr => hnone ⟨x, hx, hne, hr⟩
    · exact hrej

theorem verifyEvidence_unsettled {org evidenceId : UUID} {e row : Evidence} {notes : Option String}
    (hu : Unsettled id db.obligations) (hget : getEvidence db org evidenceId = .ok e)
    (h : verifyEvidence db now today e verifier notes = .ok (db', row)) :
    Unsettled id db'.obligations ↔
      KeepsFromVerdict u id db (.verifyEvidence now today org evidenceId verifier notes) := by
  obtain ⟨hmem, hid, horg⟩ := getEvidence_eq_ok hget
  -- all that matters of the verified row
  obtain ⟨new, hnewid, hlink', horg', hver, hrej, h⟩ : ∃ new : Evidence, e.id = new.id ∧
      new.complianceObligationId = e.complianceObligationId ∧
      new.organizationId = e.organizationId ∧ isVerified new = true ∧ isRejected new = false ∧
      settle db now today new verifier "evidence.verified" = .ok (db', row) :=
    ⟨_, by rfl, by rfl, by rfl, by rfl, by rfl, h⟩
  rw [settle_unsettled hu h]
  rw [hlink', horg']
  constructor
  · intro hw o ho hoid x hx hxid _
    obtain ⟨hx, hlink, hxorg⟩ := mem_linkedEvidence.1 hx
    have hxe : x = e := Table.eq_of_key_eq hx hmem (hxid.trans hid.symm)
    rw [hxe] at hlink hxorg
    refine (hw o ho hoid hlink hxorg).imp_right fun hns => ?_
    rw [supports_verified_iff hmem hnewid (hlink'.trans hlink) (horg'.trans hxorg) hver hrej,
      not_not, ← hnewid, hid] at hns
    exact hns
  · intro hk o ho hoid hlink hxorg
    refine (hk o ho hoid e (mem_linkedEvidence.2 ⟨hmem, hlink, hxorg⟩) hid horg).imp_right
      fun hex => ?_
    rw [supports_verified_iff hmem hnewid (hlink'.trans hlink) (horg'.trans hxorg) hver hrej,
      not_not, ← hnewid, hid]
    exact hex

theorem rejectEvidence_unsettled {org evidenceId : UUID} {e row : Evidence} {reason : String}
    (hu : Unsettled id db.obligations) (hget : getEvidence db org evidenceId = .ok e)
    (h : rejectEvidence db now today e verifier reason = .ok (db', row)) :
    Unsettled id db'.obligations := by
  obtain ⟨hmem, _, _⟩ := getEvidence_eq_ok hget
  rw [rejectEvidence] at h
  rw [settle_unsettled hu h]
  intro o _ _ hlink horg
  refine Or.inr fun hs => ?_
  have hrejected := hs.2 _ (mem_linkedEvidence.2
    ⟨(Table.mem_save_of_mem hmem (by rfl)).2 (Or.inr rfl), hlink, horg⟩)
  cases hrejected

/-- **STEP**: a call that goes through leaves the obligation without a verdict exactly when it
keeps it from one. -/
theorem step_unsettled_iff {call : ReviewCall} (hu : Unsettled id db.obligations)
    (h : step u db call = .ok db') :
    Unsettled id db'.obligations ↔ KeepsFromVerdict u id db call := by
  cases call with
  | change other =>
    cases h
    exact iff_of_true hu trivial
  | evaluateAndSyncObligation now today newId org actor obligationId =>
    obtain ⟨_, h⟩ := map_fst_eq_ok h
    exact evaluateAndSync_unsettled hu h
  | createOrSyncFromEvaluation now today newId org actor evaluation =>
    obtain ⟨_, h⟩ := map_fst_eq_ok h
    exact createOrSync_unsettled hu h
  | createEvidence now today newId org args =>
    obtain ⟨_, h⟩ := map_fst_eq_ok h
    exact createEvidence_unsettled hu h
  | verifyEvidence now today org evidenceId verifier notes =>
    obtain ⟨e, hget, h⟩ := bind_eq_ok.1 h
    obtain ⟨_, h⟩ := map_fst_eq_ok h
    exact verifyEvidence_unsettled hu hget h
  | rejectEvidence now today org evidenceId verifier reason =>
    obtain ⟨e, hget, h⟩ := bind_eq_ok.1 h
    obtain ⟨_, h⟩ := map_fst_eq_ok h
    exact iff_of_true (rejectEvidence_unsettled hu hget h) trivial

/-- The call raises, or it keeps the obligation from a verdict. -/
def Withheld (u : UnicodeTables) (id : UUID) (db : Database) (call : ReviewCall) : Prop :=
  (step u db call).isOk = true → KeepsFromVerdict u id db call

instance (u : UnicodeTables) (id : UUID) (db : Database) (call : ReviewCall) :
    Decidable (Withheld u id db call) := inferInstanceAs (Decidable (_ → _))

/-- **REVIEW**: an obligation in REVIEW_REQUIRED is never NOT_APPLICABLE or COMPLIANT in the
course of a history exactly when every call of it that goes through withholds a verdict. -/
theorem kept_from_verdicts_iff (calls : List ReviewCall) (hmem : o ∈ db.obligations.rows)
    (hreview : o.status = ComplianceState.reviewRequired) :
    (∀ db' ∈ Runs.visited (step u) db calls,
        ∃ o' ∈ db'.obligations.rows, o'.id = o.id ∧
          o'.status ≠ ComplianceState.notApplicable ∧ o'.status ≠ ComplianceState.compliant) ↔
      Runs.StepsMeet (step u) (Withheld u o.id) db calls := by
  have hstart : Unsettled o.id db.obligations := by
    refine ⟨o, hmem, rfl, ?_⟩
    rw [hreview]
    decide
  have hrun := Runs.forall_visited_iff (P := fun db => Unsettled o.id db.obligations)
    (fun _ _ (_ : True) => trivial) calls db trivial hstart fun s _ hs call _ => by
      show Unsettled o.id (Runs.attempt (step u) s call).obligations ↔ Withheld u o.id s call
      rw [Runs.attempt, Withheld]
      cases h : step u s call with
      | ok s' => exact (step_unsettled_iff hs h).trans ⟨fun hk _ => hk, fun hk => hk rfl⟩
      | error e =>
        refine iff_of_true hs fun hok => ?_
        cases hok
  refine Iff.trans (forall₂_congr fun db' _ => ?_) hrun
  simp only [Unsettled, IsVerdict, not_or]

end Steps

def reviewedObligation : ComplianceObligation :=
  { id := 4, organizationId := 1, requirementId := 2, aircraftId := some 3,
    status := ComplianceState.reviewRequired }

/-- Its requirement has a rule for another type of aircraft. -/
def inReview : Database where
  requirements := .single
    { id := 2, organizationId := 1, requirementNumber := "AD-1", title := "AD",
      description := "Inspect" }
  aircraft := .single
    { id := 3, organizationId := 1, registration := "N1", msn := "100", aircraftType := "B737" }
  rules := .single
    { id := 5, organizationId := 1, ruleCode := "R-1", regulatoryRequirementId := some 2,
      rootConditionId := some 6 }
  conditions := .single
    (.mk 6 1 "AIRCRAFT_VARIANT" "A320 only" (some [("variant", .str "A320")]) [])
  obligations := .single reviewedObligation

/-- One evaluation takes the obligation out of review: NOT_APPLICABLE. -/
theorem review_ends_not_applicable :
    ¬∀ (db : Database) (o : ComplianceObligation) (calls : List ReviewCall),
      o ∈ db.obligations.rows → o.status = ComplianceState.reviewRequired →
      ∀ db' ∈ Runs.visited (step .ascii) db calls, ∀ o' ∈ db'.obligations.rows, o'.id = o.id →
        o'.status ≠ ComplianceState.notApplicable ∧ o'.status ≠ ComplianceState.compliant := by
  intro h
  have hlast := h inReview reviewedObligation [.evaluateAndSyncObligation 0 0 7 1 none 4]
    (List.mem_singleton_self _) rfl
    (Runs.attempt (step .ascii) inReview (.evaluateAndSyncObligation 0 0 7 1 none 4))
    (by simp [Runs.visited])
  revert hlast
  decide

/-- Evidence comes in and is verified, the rule is withdrawn, and an evaluation finds none. -/
def ruleWithdrawn : List ReviewCall :=
  [ .createEvidence 1 0 20 1 { complianceObligationId := some 4 },
    .verifyEvidence 2 0 1 20 (some 9) none,
    .change { inReview with rules := .empty },
    .evaluateAndSyncObligation 3 0 7 1 none 4,
    .rejectEvidence 4 0 1 20 (some 9) "superseded" ]

theorem ruleWithdrawn_kept :
    Runs.StepsMeet (step .ascii) (Withheld .ascii reviewedObligation.id) inReview ruleWithdrawn ∧
      ∀ db' ∈ Runs.visited (step .ascii) inReview ruleWithdrawn,
        ∃ o' ∈ db'.obligations.rows, o'.id = reviewedObligation.id ∧
          o'.status ≠ ComplianceState.notApplicable ∧ o'.status ≠ ComplianceState.compliant := by
  have hheld : Runs.StepsMeet (step .ascii) (Withheld .ascii reviewedObligation.id) inReview
      ruleWithdrawn := by decide
  have hmem : reviewedObligation ∈ inReview.obligations.rows := List.mem_singleton_self _
  exact ⟨hheld, (kept_from_verdicts_iff ruleWithdrawn hmem rfl).2 hheld⟩

end ReviewRequired
end AeroComply
