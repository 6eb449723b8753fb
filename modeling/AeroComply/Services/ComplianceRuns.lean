import AeroComply.Lib.Runs
import AeroComply.Services.Evidence

/-!
# ComplianceRuns — a compliant obligation has its evidence

Histories of the seven operations on obligations and evidence.  The invariant is
that a COMPLIANT obligation has verified evidence and no rejected evidence, and
that linked evidence is of its obligation's organization, which is what makes
the resolver's query see all of it.

An operation on evidence upsets at most the obligation it is linked to; the
resolver puts that one right.  Two operations skip the resolver: a transition to
REJECTED, and an update that writes a status by hand.
-/

namespace AeroComply

open Relational (Table)

namespace ComplianceRuns

open ApplicabilityService ObligationService EvidenceService

def Supported (evidence : Table Evidence) (obligationId : UUID) : Prop :=
  (∃ e ∈ evidence.rows, e.complianceObligationId = some obligationId ∧ isVerified e = true) ∧
  ∀ e ∈ evidence.rows, e.complianceObligationId = some obligationId → isRejected e = false

/-- Every compliant obligation other than `x` is supported. -/
def SoundExcept (x : Option UUID) (db : Database) : Prop :=
  ∀ o ∈ db.obligations.rows, some o.id ≠ x → o.status = ComplianceState.compliant →
    Supported db.evidence o.id

def Sound (db : Database) : Prop :=
  ∀ o ∈ db.obligations.rows, o.status = ComplianceState.compliant → Supported db.evidence o.id

def LinksInOrg (db : Database) : Prop :=
  ∀ e ∈ db.evidence.rows, ∀ id, e.complianceObligationId = some id →
    ∃ o ∈ db.obligations.rows, o.id = id ∧ o.organizationId = e.organizationId

structure Inv (db : Database) : Prop where
  sound : Sound db
  links : LinksInOrg db

instance (evidence : Table Evidence) (id : UUID) : Decidable (Supported evidence id) :=
  inferInstanceAs (Decidable ((∃ e ∈ evidence.rows, _ ∧ _) ∧ ∀ e ∈ evidence.rows, _ → _))

instance (db : Database) : Decidable (Sound db) :=
  inferInstanceAs (Decidable (∀ o ∈ db.obligations.rows, _ → _))

/-! ## The operations as actions -/

inductive Action
  | createObligation (today : Date) (newId organizationId : UUID) (actor : Option UUID)
      (payload : ComplianceObligationCreateRequest)
  | updateObligation (organizationId : UUID) (actor : Option UUID) (obligationId : UUID)
      (payload : ComplianceObligationUpdateRequest)
  | evaluateAndSyncObligation (now : DateTime) (today : Date) (newId organizationId : UUID)
      (actor : Option UUID) (obligationId : UUID)
  | createEvidence (now : DateTime) (today : Date) (newId organizationId : UUID)
      (args : EvidenceCreate)
  | transitionEvidence (organizationId evidenceId : UUID) (target : EvidenceStatus)
      (actor : Option UUID) (rejectionReason : Option String)
  | verifyEvidence (now : DateTime) (today : Date) (organizationId evidenceId : UUID)
      (verifier : Option UUID) (verificationNotes : Option String)
  | rejectEvidence (now : DateTime) (today : Date) (organizationId evidenceId : UUID)
      (verifier : Option UUID) (rejectionReason : String)

/-- One operation; an evidence row is fetched within the caller's organization. -/
def step (u : UnicodeTables) (db : Database) : Action → Except Error Database
  | .createObligation today newId org actor payload =>
    (createObligation db today newId org actor payload).map Prod.fst
  | .updateObligation org actor obligationId payload =>
    (updateObligation db org actor obligationId payload).map Prod.fst
  | .evaluateAndSyncObligation now today newId org actor obligationId =>
    (evaluateAndSyncObligation u db now today newId org actor obligationId).map Prod.fst
  | .createEvidence now today newId org args =>
    (createEvidence db now today newId org args).map Prod.fst
  | .transitionEvidence org evidenceId target actor reason => do
    let evidence ← getEvidence db org evidenceId
    (transitionEvidence db evidence target actor reason).map Prod.fst
  | .verifyEvidence now today org evidenceId verifier notes => do
    let evidence ← getEvidence db org evidenceId
    (verifyEvidence db now today evidence verifier notes).map Prod.fst
  | .rejectEvidence now today org evidenceId verifier reason => do
    let evidence ← getEvidence db org evidenceId
    (rejectEvidence db now today evidence verifier reason).map Prod.fst

/-- What the two operations that skip the resolver must respect. -/
def Careful (db : Database) : Action → Prop
  | .updateObligation org _ obligationId payload =>
    -- COMPLIANT is written by hand only where the evidence says so
    payload.status = some ComplianceState.compliant →
      ∀ o ∈ db.obligations.rows, o.id = obligationId → o.organizationId = org →
        Supported db.evidence o.id
  | .transitionEvidence org evidenceId target _ _ =>
    -- evidence of a compliant obligation is not moved to REJECTED
    target = .rejected →
      ∀ e ∈ db.evidence.rows, e.id = evidenceId → e.organizationId = org →
        canTransition e.status .rejected = true →
        ∀ o ∈ db.obligations.rows, e.complianceObligationId = some o.id →
          o.status ≠ ComplianceState.compliant
  | _ => True

instance (db : Database) (a : Action) : Decidable (Careful db a) :=
  match a with
  | .createObligation .. => isTrue trivial
  | .updateObligation org _ obligationId payload =>
    inferInstanceAs (Decidable (payload.status = some ComplianceState.compliant →
      ∀ o ∈ db.obligations.rows, o.id = obligationId → o.organizationId = org →
        Supported db.evidence o.id))
  | .evaluateAndSyncObligation .. => isTrue trivial
  | .createEvidence .. => isTrue trivial
  | .transitionEvidence org evidenceId target _ _ =>
    inferInstanceAs (Decidable (target = .rejected →
      ∀ e ∈ db.evidence.rows, e.id = evidenceId → e.organizationId = org →
        canTransition e.status .rejected = true →
        ∀ o ∈ db.obligations.rows, e.complianceObligationId = some o.id →
          o.status ≠ ComplianceState.compliant))
  | .verifyEvidence .. => isTrue trivial
  | .rejectEvidence .. => isTrue trivial

/-! ## Writes to the two tables -/

section Writes

variable {db : Database}

theorem Supported.insert {evidence evidence' : Table Evidence} {row : Evidence} {id : UUID}
    (h : Supported evidence id) (hins : evidence.insert? row = some evidence')
    (hne : some id ≠ row.complianceObligationId) : Supported evidence' id := by
  obtain ⟨⟨e, he, hlink, hver⟩, hrej⟩ := h
  refine ⟨⟨e, (Table.mem_insert? hins).2 (Or.inl he), hlink, hver⟩, ?_⟩
  intro x hx hxlink
  rcases (Table.mem_insert? hins).1 hx with hx | rfl
  · exact hrej x hx hxlink
  · exact absurd hxlink.symm hne

theorem Supported.save {evidence : Table Evidence} {old new : Evidence} {id : UUID}
    (h : Supported evidence id) (hold : old ∈ evidence.rows) (hid : old.id = new.id)
    (hlink : new.complianceObligationId = old.complianceObligationId)
    (hquiet : new.complianceObligationId = some id →
      isVerified old = false ∧ isRejected new = false) :
    Supported (evidence.save new) id := by
  obtain ⟨⟨e, he, helink, hver⟩, hrej⟩ := h
  constructor
  · refine ⟨e, (Table.mem_save_of_mem hold hid).2 (Or.inl ⟨he, ?_⟩), helink, hver⟩
    intro hkey
    have heo : e = old := Table.eq_of_key_eq he hold (hkey.trans hid.symm)
    rw [heo] at helink hver
    rw [(hquiet (hlink.trans helink)).1] at hver
    cases hver
  · intro x hx hxlink
    rcases (Table.mem_save_of_mem hold hid).1 hx with ⟨hx, -⟩ | rfl
    · exact hrej x hx hxlink
    · exact (hquiet hxlink).2

theorem sound_saveObligation {new : ComplianceObligation} (hs : SoundExcept (some new.id) db)
    (hnew : new.status = ComplianceState.compliant → Supported db.evidence new.id) :
    Sound { db with obligations := db.obligations.save new } := by
  intro o ho hst
  rcases Table.mem_save.1 ho with ⟨ho, hne⟩ | ⟨rfl, -⟩
  · refine hs o ho ?_ hst
    intro heq
    exact hne (Option.some.inj heq)
  · exact hnew hst

theorem linksInOrg_saveObligation {old new : ComplianceObligation} (hl : LinksInOrg db)
    (hold : old ∈ db.obligations.rows) (hid : old.id = new.id)
    (horg : old.organizationId = new.organizationId) :
    LinksInOrg { db with obligations := db.obligations.save new } := by
  intro e he id hlink
  obtain ⟨o, ho, hoid, hoorg⟩ := hl e he id hlink
  rcases Table.kept_or_replaced hold hid ho with ho | ⟨rfl, hnew⟩
  · exact ⟨o, ho, hoid, hoorg⟩
  · exact ⟨new, hnew, hid.symm.trans hoid, horg.symm.trans hoorg⟩

theorem soundExcept_of_sound (hs : Sound db) (x : Option UUID) : SoundExcept x db :=
  fun o ho _ hst => hs o ho hst

theorem soundExcept_saveEvidence {old new : Evidence} (hs : Sound db)
    (hold : old ∈ db.evidence.rows) (hid : old.id = new.id)
    (hlink : new.complianceObligationId = old.complianceObligationId) :
    SoundExcept new.complianceObligationId { db with evidence := db.evidence.save new } := by
  intro o ho hne hst
  exact (hs o ho hst).save hold hid hlink (fun h => absurd h.symm hne)

theorem linksInOrg_saveEvidence {old new : Evidence} (hl : LinksInOrg db)
    (hold : old ∈ db.evidence.rows) (hid : old.id = new.id)
    (hlink : new.complianceObligationId = old.complianceObligationId)
    (horg : new.organizationId = old.organizationId) :
    LinksInOrg { db with evidence := db.evidence.save new } := by
  intro e he id helink
  rcases (Table.mem_save_of_mem hold hid).1 he with ⟨he, -⟩ | rfl
  · exact hl e he id helink
  · obtain ⟨o, ho, hoid, hoorg⟩ := hl old hold id (hlink.symm.trans helink)
    exact ⟨o, ho, hoid, hoorg.trans horg.symm⟩

end Writes

/-! ## The resolver -/

section Resolver

variable {db : Database} {now : DateTime} {today : Date} {o : ComplianceObligation}

theorem mem_linkedEvidence {e : Evidence} :
    e ∈ linkedEvidence db o ↔
      e ∈ db.evidence.rows ∧ e.complianceObligationId = some o.id ∧
        e.organizationId = o.organizationId := by
  simp [linkedEvidence, Table.mem_select]

theorem resolvedStatus_compliant {dueDate : Option Date} {items : List Evidence}
    (h : resolvedStatus today dueDate items = ComplianceState.compliant) :
    (∃ e ∈ items, isVerified e = true) ∧ ∀ e ∈ items, isRejected e = false := by
  rw [resolvedStatus] at h
  split at h
  · exact absurd h (by decide)
  · next hrej =>
    have hnone : ∀ e ∈ items, isRejected e = false := by
      intro e he
      exact Bool.eq_false_iff.2 (fun hr => hrej (List.any_eq_true.2 ⟨e, he, hr⟩))
    split at h
    · next hver => exact ⟨List.any_eq_true.1 hver, hnone⟩
    · split at h
      · exact absurd h (by decide)
      · split at h
        · exact absurd h (by decide)
        · exact absurd h (by decide)

@[simp] theorem resolvedObligation_id : (resolvedObligation db now today o).id = o.id := by
  rw [resolvedObligation]
  split
  · rfl
  · dsimp only
    split
    · rfl
    · rfl

@[simp] theorem resolvedObligation_organizationId :
    (resolvedObligation db now today o).organizationId = o.organizationId := by
  rw [resolvedObligation]
  split
  · rfl
  · dsimp only
    split
    · rfl
    · rfl

theorem resolvedObligation_compliant
    (h : (resolvedObligation db now today o).status = ComplianceState.compliant) :
    (∃ e ∈ linkedEvidence db o, isVerified e = true) ∧
      ∀ e ∈ linkedEvidence db o, isRejected e = false := by
  rw [resolvedObligation] at h
  split at h
  · next hun =>
    rw [h] at hun
    exact absurd hun (by decide)
  · dsimp only at h
    split at h
    · next hst => exact resolvedStatus_compliant hst
    · next hst => exact absurd h hst

theorem resolveObligationCompliance_frame (db : Database) (now : DateTime) (today : Date)
    (o : ComplianceObligation) (actor : Option UUID) :
    ∃ auditEvents, (resolveObligationCompliance db now today o actor).1 =
      { db with
        obligations := db.obligations.save (resolvedObligation db now today o), auditEvents } := by
  rw [resolveObligationCompliance]
  split
  · exact ⟨_, rfl⟩
  · exact ⟨_, rfl⟩

/-- **RESOLVER**: when every other obligation is sound, the resolver restores the invariant. -/
theorem inv_resolve {old : ComplianceObligation} (actor : Option UUID)
    (hs : SoundExcept (some o.id) db) (hl : LinksInOrg db) (hold : old ∈ db.obligations.rows)
    (hid : old.id = o.id) (horg : old.organizationId = o.organizationId) :
    Inv (resolveObligationCompliance db now today o actor).1 := by
  obtain ⟨log, hdb⟩ := resolveObligationCompliance_frame db now today o actor
  rw [hdb]
  constructor
  · refine sound_saveObligation ?_ ?_
    · rw [resolvedObligation_id]
      exact hs
    · intro hst
      obtain ⟨⟨e, he, hver⟩, hrej⟩ := resolvedObligation_compliant hst
      obtain ⟨hmem, hlink, -⟩ := mem_linkedEvidence.1 he
      rw [resolvedObligation_id]
      refine ⟨⟨e, hmem, hlink, hver⟩, ?_⟩
      intro x hx hxlink
      -- the query is by organization too, and linked evidence is all of one organization
      obtain ⟨o', ho', hid', horg'⟩ := hl x hx o.id hxlink
      have hoo : o' = old := Table.eq_of_key_eq ho' hold (hid'.trans hid.symm)
      refine hrej x (mem_linkedEvidence.2 ⟨hx, hxlink, ?_⟩)
      rw [← horg', hoo, horg]
  · exact linksInOrg_saveObligation hl hold (hid.trans resolvedObligation_id.symm)
      (horg.trans resolvedObligation_organizationId.symm)

end Resolver

/-! ## One operation -/

section Steps

variable {u : UnicodeTables} {db db' : Database}

theorem getObligation_eq_ok {org obligationId : UUID} {o : ComplianceObligation}
    (h : getObligation db org obligationId = .ok o) :
    o ∈ db.obligations.rows ∧ o.id = obligationId ∧ o.organizationId = org := by
  simpa using mem_of_oneOrRaise h

theorem getEvidence_eq_ok {org evidenceId : UUID} {e : Evidence}
    (h : getEvidence db org evidenceId = .ok e) :
    e ∈ db.evidence.rows ∧ e.id = evidenceId ∧ e.organizationId = org := by
  simpa using mem_of_oneOrRaise h

theorem initialStatus_ne_compliant (today : Date) (dueDate : Option Date) :
    initialStatus today dueDate ≠ ComplianceState.compliant := by
  rw [initialStatus]
  split
  · decide
  · split
    · decide
    · decide

variable {actor : Option UUID} {row : ComplianceObligation} {today : Date} {now : DateTime}

theorem inv_createObligation {newId org : UUID} {payload : ComplianceObligationCreateRequest}
    (hinv : Inv db) (h : createObligation db today newId org actor payload = .ok (db', row)) :
    Inv db' := by
  obtain ⟨req, _, h⟩ := bind_eq_ok.1 h
  obtain ⟨assetId, _, h⟩ := bind_eq_ok.1 h
  obtain ⟨_, _, h⟩ := bind_eq_ok.1 h
  obtain ⟨existing, hex, h⟩ := bind_eq_ok.1 h
  cases existing with
  | some existing =>
    rw [pure_eq_ok] at h
    obtain ⟨rfl, rfl⟩ := Prod.mk.inj h
    have hmem := List.mem_singleton_self existing
    rw [← scalarOneOrNone_eq_some hex, existingObligations, Table.mem_select] at hmem
    -- the fields of a repeated creation do not include the status
    exact ⟨sound_saveObligation (soundExcept_of_sound hinv.sound _)
        (fun hst => hinv.sound existing hmem.1 hst),
      linksInOrg_saveObligation hinv.links hmem.1 rfl rfl⟩
  | none =>
    obtain ⟨obligations, hadd, h⟩ := bind_eq_ok.1 h
    rw [pure_eq_ok] at h
    obtain ⟨rfl, rfl⟩ := Prod.mk.inj h
    have hins := addRowOrRaise_eq_ok.1 hadd
    constructor
    · intro o ho hst
      rcases (Table.mem_insert? hins).1 ho with ho | rfl
      · exact hinv.sound o ho hst
      · exact absurd hst (initialStatus_ne_compliant today payload.dueDate)
    · intro e he id hlink
      obtain ⟨o, ho, hoid, hoorg⟩ := hinv.links e he id hlink
      exact ⟨o, (Table.mem_insert? hins).2 (Or.inl ho), hoid, hoorg⟩

theorem inv_updateObligation {org : UUID} {obligationId : UUID}
    {payload : ComplianceObligationUpdateRequest} (hinv : Inv db)
    (hok : Careful db (.updateObligation org actor obligationId payload))
    (h : updateObligation db org actor obligationId payload = .ok (db', row)) : Inv db' := by
  obtain ⟨o, hget, h⟩ := bind_eq_ok.1 h
  obtain ⟨hmem, hid, horg⟩ := getObligation_eq_ok hget
  have hsaved : Inv { db with
      obligations := db.obligations.save (updatedObligation o payload) } := by
    refine ⟨sound_saveObligation (soundExcept_of_sound hinv.sound _) ?_,
      linksInOrg_saveObligation hinv.links hmem rfl rfl⟩
    intro hst
    cases hp : payload.status with
    | some status =>
      have hst' : payload.status.getD o.status = ComplianceState.compliant := hst
      rw [hp] at hst'
      exact hok (hp.trans (congrArg some hst')) o hmem hid horg
    | none =>
      have hst' : payload.status.getD o.status = ComplianceState.compliant := hst
      rw [hp] at hst'
      exact hinv.sound o hmem hst'
  dsimp only at h
  split at h
  · rw [pure_eq_ok] at h
    obtain ⟨rfl, rfl⟩ := Prod.mk.inj h
    exact hsaved
  · rw [pure_eq_ok] at h
    obtain ⟨rfl, rfl⟩ := Prod.mk.inj h
    exact ⟨hsaved.sound, hsaved.links⟩

theorem inv_evaluateAndSync {newId org : UUID} {obligationId : UUID} (hinv : Inv db)
    (h : evaluateAndSyncObligation u db now today newId org actor obligationId = .ok (db', row)) :
    Inv db' := by
  obtain ⟨o, hget, h⟩ := bind_eq_ok.1 h
  obtain ⟨hmem, hid, horg⟩ := getObligation_eq_ok hget
  obtain ⟨rule, _, h⟩ := bind_eq_ok.1 h
  cases rule with
  | none =>
    rw [pure_eq_ok] at h
    obtain ⟨rfl, rfl⟩ := Prod.mk.inj h
    refine ⟨sound_saveObligation (soundExcept_of_sound hinv.sound _) ?_,
      linksInOrg_saveObligation hinv.links hmem rfl rfl⟩
    intro hst
    exact absurd (show ComplianceState.reviewRequired = ComplianceState.compliant from hst)
      (by decide)
  | some rule =>
    obtain ⟨request, _, h⟩ := bind_eq_ok.1 h
    obtain ⟨⟨evaluated, evaluation⟩, heval, h⟩ := bind_eq_ok.1 h
    rw [pure_eq_ok] at h
    obtain ⟨rfl, rfl⟩ := Prod.mk.inj h
    obtain ⟨evaluations, log, rfl⟩ := evaluateApplicability_frame heval
    have hres : Inv (resolveObligationCompliance
        { db with evaluations, auditEvents := log } now today
        { o with
          ruleId := some rule.id
          applicabilityEvaluationId := some evaluation.id
          status := syncedStatus today o evaluation.systemResult } actor).1 :=
      inv_resolve actor (soundExcept_of_sound hinv.sound _) hinv.links hmem rfl rfl
    exact ⟨hres.sound, hres.links⟩

theorem inv_createEvidence {newId org : UUID} {args : EvidenceCreate} {row : Evidence}
    (hinv : Inv db) (h : createEvidence db now today newId org args = .ok (db', row)) :
    Inv db' := by
  obtain ⟨_, _, h⟩ := bind_eq_ok.1 h
  obtain ⟨obligation, hobl, h⟩ := bind_eq_ok.1 h
  obtain ⟨evidence, hadd, h⟩ := bind_eq_ok.1 h
  rw [pure_eq_ok] at h
  obtain ⟨rfl, rfl⟩ := Prod.mk.inj h
  have hins := addRowOrRaise_eq_ok.1 hadd
  have hlinkNew : ∀ ob, (newEvidence newId org args ob).complianceObligationId
      = args.complianceObligationId := fun _ => rfl
  have hsound : ∀ o ∈ db.obligations.rows, some o.id ≠ args.complianceObligationId →
      o.status = ComplianceState.compliant → Supported evidence o.id := by
    intro o ho hne hst
    exact (hinv.sound o ho hst).insert hins hne
  cases hlink : args.complianceObligationId with
  | none =>
    rw [hlink] at hobl hsound
    cases hobl
    constructor
    · intro o ho hst
      exact hsound o ho (fun h => nomatch h) hst
    · intro e he id helink
      rcases (Table.mem_insert? hins).1 he with he | rfl
      · exact hinv.links e he id helink
      · rw [hlinkNew, hlink] at helink
        cases helink
  | some obligationId =>
    rw [hlink] at hobl hsound
    obtain ⟨o, hget, hobl⟩ := bind_eq_ok.1 hobl
    cases hobl
    obtain ⟨hmem, hid, horg⟩ := getObligation_eq_ok hget
    refine inv_resolve _ ?_ ?_ hmem rfl rfl
    · rw [hid]
      exact hsound
    · intro e he id helink
      rcases (Table.mem_insert? hins).1 he with he | rfl
      · exact hinv.links e he id helink
      · rw [hlinkNew, hlink] at helink
        exact ⟨o, hmem, hid.trans (Option.some.inj helink), horg⟩

theorem inv_settle {old new : Evidence} {action : String} {row : Evidence} (hinv : Inv db)
    (hold : old ∈ db.evidence.rows) (hid : old.id = new.id)
    (hlink : new.complianceObligationId = old.complianceObligationId)
    (horg : new.organizationId = old.organizationId)
    (h : settle db now today new actor action = .ok (db', row)) : Inv db' := by
  obtain ⟨obligation, hobl, h⟩ := bind_eq_ok.1 h
  rw [pure_eq_ok] at h
  obtain ⟨rfl, rfl⟩ := Prod.mk.inj h
  have hsound := soundExcept_saveEvidence hinv.sound hold hid hlink
  have hlinks := linksInOrg_saveEvidence hinv.links hold hid hlink horg
  rw [obligationOf] at hobl
  cases hl : new.complianceObligationId with
  | none =>
    rw [hl] at hobl hsound
    cases hobl
    exact ⟨fun o ho hst => hsound o ho (fun h => nomatch h) hst, hlinks⟩
  | some obligationId =>
    rw [hl] at hobl hsound
    obtain ⟨o, ho, hoid, hoorg⟩ := hinv.links old hold obligationId (hlink.symm.trans hl)
    have hsel : o ∈ db.obligations.select (fun o =>
        o.id = obligationId && o.organizationId = new.organizationId) := by
      rw [Table.mem_select]
      simp [ho, hoid, hoorg, horg]
    dsimp only at hobl
    cases obligation with
    | none =>
      rw [scalarOneOrNone_eq_none hobl] at hsel
      cases hsel
    | some o' =>
      rw [scalarOneOrNone_eq_some hobl, List.mem_singleton] at hsel
      subst hsel
      rw [← hoid] at hsound
      exact inv_resolve actor hsound hlinks ho rfl rfl

theorem inv_transitionEvidence {old : Evidence} {target : EvidenceStatus} {reason : Option String}
    {row : Evidence} (hinv : Inv db) (hold : old ∈ db.evidence.rows)
    (hok : target = .rejected → canTransition old.status .rejected = true →
      ∀ o ∈ db.obligations.rows, old.complianceObligationId = some o.id →
        o.status ≠ ComplianceState.compliant)
    (h : transitionEvidence db old target actor reason = .ok (db', row)) : Inv db' := by
  obtain ⟨_, hcan, h⟩ := bind_eq_ok.1 h
  have hcan : canTransition old.status target = true := by
    simpa using raiseIf_eq_ok.1 hcan
  have hid := (transitioned_id old target actor reason).symm
  have hlink := transitioned_complianceObligationId old target actor reason
  have hsaved : Inv { db with
      evidence := db.evidence.save (transitioned old target actor reason) } := by
    refine ⟨?_, linksInOrg_saveEvidence hinv.links hold hid hlink
      (transitioned_organizationId old target actor reason)⟩
    intro o ho hst
    have hsup := hinv.sound o ho hst
    refine hsup.save hold hid hlink ?_
    intro hlinked
    have holink : old.complianceObligationId = some o.id := hlink.symm.trans hlinked
    have hclean := hsup.2 old hold holink
    -- accepted evidence cannot move, so the row is not the verified one
    have hnotVer : isVerified old = false := by
      cases hs : old.status with
      | accepted =>
        rw [hs] at hcan
        cases target <;> cases hcan
      | required | uploaded | submitted | awaitingReview | rejected => simp [isVerified, hs]
    have hne : target ≠ .rejected := by
      rintro rfl
      exact hok rfl hcan o ho holink hst
    refine ⟨hnotVer, ?_⟩
    simp only [isRejected, Bool.or_eq_false_iff, decide_eq_false_iff_not] at hclean ⊢
    rw [transitioned_verificationStatus, transitioned_status]
    exact ⟨hclean.1, hne⟩
  dsimp only at h
  split at h
  · rw [pure_eq_ok] at h
    obtain ⟨rfl, rfl⟩ := Prod.mk.inj h
    exact ⟨hsaved.sound, hsaved.links⟩
  · rw [pure_eq_ok] at h
    obtain ⟨rfl, rfl⟩ := Prod.mk.inj h
    exact hsaved

/-- **ONE OPERATION**: a careful operation keeps the invariant. -/
theorem inv_step {a : Action} (hinv : Inv db) (hok : Careful db a)
    (h : step u db a = .ok db') : Inv db' := by
  cases a with
  | createObligation today newId org actor payload =>
    obtain ⟨_, h⟩ := map_fst_eq_ok h
    exact inv_createObligation hinv h
  | updateObligation org actor obligationId payload =>
    obtain ⟨_, h⟩ := map_fst_eq_ok h
    exact inv_updateObligation hinv hok h
  | evaluateAndSyncObligation now today newId org actor obligationId =>
    obtain ⟨_, h⟩ := map_fst_eq_ok h
    exact inv_evaluateAndSync hinv h
  | createEvidence now today newId org args =>
    obtain ⟨_, h⟩ := map_fst_eq_ok h
    exact inv_createEvidence hinv h
  | transitionEvidence org evidenceId target actor reason =>
    obtain ⟨e, hget, h⟩ := bind_eq_ok.1 h
    obtain ⟨_, h⟩ := map_fst_eq_ok h
    obtain ⟨hmem, hid, horg⟩ := getEvidence_eq_ok hget
    have hcare : target = .rejected → canTransition e.status .rejected = true →
        ∀ o ∈ db.obligations.rows, e.complianceObligationId = some o.id →
          o.status ≠ ComplianceState.compliant :=
      fun ht => hok ht e hmem hid horg
    exact inv_transitionEvidence hinv hmem hcare h
  | verifyEvidence now today org evidenceId verifier notes =>
    obtain ⟨e, hget, h⟩ := bind_eq_ok.1 h
    obtain ⟨_, h⟩ := map_fst_eq_ok h
    rw [verifyEvidence] at h
    exact inv_settle hinv (getEvidence_eq_ok hget).1 (by rfl) (by rfl) (by rfl) h
  | rejectEvidence now today org evidenceId verifier reason =>
    obtain ⟨e, hget, h⟩ := bind_eq_ok.1 h
    obtain ⟨_, h⟩ := map_fst_eq_ok h
    rw [rejectEvidence] at h
    exact inv_settle hinv (getEvidence_eq_ok hget).1 (by rfl) (by rfl) (by rfl) h

/-! ## Histories -/

/-- **COMPLIANT MEANS EVIDENCED**: from a state without obligations, where evidence can be
linked to none, every state of a careful history is sound. -/
theorem compliant_supported (as : List Action) (hnone : db.obligations.rows = [])
    (hfk : ∀ e ∈ db.evidence.rows, ∀ id, e.complianceObligationId = some id →
      ∃ o ∈ db.obligations.rows, o.id = id)
    (hok : Runs.StepsMeet (step u) Careful db as) :
    ∀ db' ∈ Runs.visited (step u) db as, Sound db' := by
  have hstart : Inv db := by
    constructor
    · intro o ho
      rw [hnone] at ho
      cases ho
    · intro e he id hlink
      obtain ⟨o, ho, _⟩ := hfk e he id hlink
      rw [hnone] at ho
      cases ho
  intro db' hdb'
  exact (Runs.visited_invariant (fun _ _ _ hinv hok h => inv_step hinv hok h)
    as db hstart hok db' hdb').sound

end Steps

/-- One requirement and one asset, nothing tracked yet. -/
def untracked : Database where
  requirements := .single
    { id := 2, organizationId := 1, requirementNumber := "AD-1", title := "AD",
      description := "Inspect" }
  assets := .single { id := 3, organizationId := 1 }

/-- An obligation becomes compliant on one piece of evidence; a second one is submitted. -/
def submitSecond : List Action :=
  [ .createObligation 0 10 1 none { requirementId := 2, assetId := some 3, target := Or.inr rfl },
    .createEvidence 5 0 20 1 { complianceObligationId := some 10 },
    .verifyEvidence 6 0 1 20 (some 9) none,
    .createEvidence 7 0 21 1 { complianceObligationId := some 10 },
    .transitionEvidence 1 21 .submitted (some 8) none ]

/-- Rejecting the second one by a transition leaves the obligation COMPLIANT. -/
theorem compliant_with_rejected_evidence :
    ¬∀ db' ∈ Runs.visited (step .ascii) untracked
        (submitSecond ++ [.transitionEvidence 1 21 .rejected (some 9) (some "illegible")]),
      Sound db' := by
  decide

/-- Rejecting it by `reject_evidence` does not. -/
theorem rejected_evidence_resolved :
    (Runs.visited (step .ascii) untracked
      (submitSecond ++ [.rejectEvidence 8 0 1 21 (some 9) "illegible"])).Forall Sound :=
  List.forall_iff_forall_mem.2
    (compliant_supported _ rfl (fun e he => nomatch he) (by decide))

end ComplianceRuns
end AeroComply
