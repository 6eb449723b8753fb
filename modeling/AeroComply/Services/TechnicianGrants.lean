import AeroComply.Services.Technician

/-!
# TechnicianGrants — which grants authorize a technician

`grant_qualification` and `revoke_qualification` of `app/services/technician_service.py`, and what
`check_authorization` makes of the grants.  It looks at their revocation and their expiry, and not
at the time from which they are granted: `decidesExactly_iff` says of which grants that makes no
difference.
-/

namespace AeroComply

open Relational (Table)

namespace TechnicianService

/-! ## Granting and revoking -/

structure TechnicianQualificationCreateRequest where
  userId : UUID
  aircraftType : String
  qualificationType : String
  grantedAt : Option DateTime := none
  expiresAt : Option DateTime := none
  aircraftType_length : 1 ≤ aircraftType.length ∧ aircraftType.length ≤ 128
  qualificationType_length : 1 ≤ qualificationType.length ∧ qualificationType.length ≤ 64

/-- The grant that a request asks for. -/
def newQualification (newId : UUID) (now : DateTime) (organizationId : UUID)
    (payload : TechnicianQualificationCreateRequest) : TechnicianQualification where
  id := newId
  organizationId := organizationId
  userId := payload.userId
  aircraftType := payload.aircraftType
  qualificationType := payload.qualificationType
  grantedAt := payload.grantedAt.getD now
  expiresAt := payload.expiresAt
  revoked := false

def grantQualification (db : Database) (newId : UUID) (now : DateTime) (organizationId : UUID)
    (actorUserId : Option UUID) (payload : TechnicianQualificationCreateRequest) :
    Except Error (Database × TechnicianQualification) := do
  let _ ← oneOrRaise
    (db.users.select fun u => u.id = payload.userId && u.organizationId = organizationId)
    (.notFound "User not found in this organization")
  let qualification := newQualification newId now organizationId payload
  let qualifications ← addRow db.qualifications qualification
  pure (({ db with qualifications }).recordAuditEvent organizationId actorUserId
    "technician_qualification.granted" "TechnicianQualification" (some qualification.id),
    qualification)

def revokeQualification (db : Database) (organizationId : UUID) (actorUserId : Option UUID)
    (qualificationId : UUID) : Except Error (Database × TechnicianQualification) := do
  let qualification ← oneOrRaise
    (db.qualifications.select fun q => q.id = qualificationId && q.organizationId = organizationId)
    (.notFound "Technician qualification not found")
  let revoked := { qualification with revoked := true }
  pure (({ db with qualifications := db.qualifications.save revoked }).recordAuditEvent
    organizationId actorUserId "technician_qualification.revoked" "TechnicianQualification"
    (some qualification.id), revoked)

/-! ## What the grants say -/

section Judge

variable {now : DateTime} {taskId technicianUserId : UUID} {aircraftType : String}
  {qualifications : List TechnicianQualification}

/-- The grants that are not revoked and not expired. -/
def validGrants (now : DateTime) (qualifications : List TechnicianQualification) :
    List TechnicianQualification :=
  (qualifications.filter fun q => !q.revoked).filter (isValid now)

theorem judge_status :
    (judge now taskId technicianUserId aircraftType qualifications).status
      = if qualifications.isEmpty then .missing
        else if (qualifications.filter fun q => !q.revoked).isEmpty then .notAuthorized
        else if (validGrants now qualifications).isEmpty then .expired
        else .authorized := by
  have hsome : ∀ {l : List TechnicianQualification} {q : TechnicianQualification},
      q ∈ l → ¬l.isEmpty = true :=
    fun hq hempty => List.ne_nil_of_mem hq (List.isEmpty_iff.1 hempty)
  rw [judge]
  cases hall : newestBy TechnicianQualification.grantedAt qualifications with
  | none => rw [if_pos (List.isEmpty_iff.2 (newestBy_eq_none.1 hall))]
  | some latest =>
    rw [if_neg (hsome (mem_of_newestBy hall))]
    dsimp only
    cases hactive : newestBy (fun q => q.expiresAt.getD q.grantedAt)
        (qualifications.filter fun q => !q.revoked) with
    | none => rw [if_pos (List.isEmpty_iff.2 (newestBy_eq_none.1 hactive))]
    | some expired =>
      rw [if_neg (hsome (mem_of_newestBy hactive)), validGrants]
      dsimp only
      cases hvalid : newestBy TechnicianQualification.grantedAt
          ((qualifications.filter fun q => !q.revoked).filter (isValid now)) with
      | none => rw [if_pos (List.isEmpty_iff.2 (newestBy_eq_none.1 hvalid))]
      | some chosen => rw [if_neg (hsome (mem_of_newestBy hvalid))]

theorem mem_validGrants {q : TechnicianQualification} :
    q ∈ validGrants now qualifications ↔
      q ∈ qualifications ∧ q.revoked = false ∧ isValid now q = true := by
  rw [validGrants, List.mem_filter, List.mem_filter, Bool.not_eq_true', and_assoc]

theorem judge_status_eq_authorized :
    (judge now taskId technicianUserId aircraftType qualifications).status = .authorized ↔
      ∃ q ∈ qualifications, q.revoked = false ∧ isValid now q = true := by
  rw [judge_status]
  constructor
  · intro h
    split_ifs at h with hall hactive hvalid
    obtain ⟨q, hq⟩ := List.exists_mem_of_ne_nil _ (mt List.isEmpty_iff.2 hvalid)
    exact ⟨q, mem_validGrants.1 hq⟩
  · rintro ⟨q, hq, hlive, hvalid⟩
    have hsome : ∀ {l : List TechnicianQualification}, q ∈ l → ¬l.isEmpty = true :=
      fun hmem hempty => List.ne_nil_of_mem hmem (List.isEmpty_iff.1 hempty)
    have hmem : q ∈ validGrants now qualifications := mem_validGrants.2 ⟨hq, hlive, hvalid⟩
    rw [if_neg (hsome hq), if_neg (hsome (List.mem_filter.1 hmem).1), if_neg (hsome hmem)]

theorem judge_status_eq_missing :
    (judge now taskId technicianUserId aircraftType qualifications).status = .missing ↔
      qualifications = [] := by
  rw [judge_status]
  constructor
  · intro h
    split_ifs at h with hall
    exact List.isEmpty_iff.1 hall
  · exact fun h => if_pos (List.isEmpty_iff.2 h)

theorem judge_status_perm {qualifications' : List TechnicianQualification}
    (h : qualifications'.Perm qualifications) :
    (judge now taskId technicianUserId aircraftType qualifications').status
      = (judge now taskId technicianUserId aircraftType qualifications).status := by
  rw [judge_status, judge_status, validGrants, validGrants, h.isEmpty_eq,
    (h.filter _).isEmpty_eq, ((h.filter _).filter _).isEmpty_eq]

end Judge

/-! ## The answer, over the tables -/

section Authorization

variable {db db' : Database} {now : DateTime} {organizationId taskId technicianUserId : UUID}
  {aircraftType : String}

/-- The task is on an aircraft of this type, and the technician is a user of the organization. -/
structure Concerns (db : Database) (organizationId taskId technicianUserId : UUID)
    (aircraftType : String) : Prop where
  task : ∃ task workOrder aircraft, db.getTask organizationId taskId = .ok task ∧
    db.workOrders.find? task.workOrderId = some workOrder ∧
    workOrder.aircraftId.bind db.aircraft.find? = some aircraft ∧
    aircraft.aircraftType = aircraftType
  technician : ∃ u ∈ db.users.rows, u.id = technicianUserId ∧ u.organizationId = organizationId

def Answers (db : Database) (now : DateTime) (organizationId taskId technicianUserId : UUID)
    (status : AuthorizationStatus) : Prop :=
  ∃ answer, checkAuthorization db now organizationId taskId technicianUserId = .ok answer ∧
    answer.status = status

theorem checkAuthorization_of_concerns
    (h : Concerns db organizationId taskId technicianUserId aircraftType) :
    checkAuthorization db now organizationId taskId technicianUserId
      = .ok (judge now taskId technicianUserId aircraftType
          (qualificationsFor db organizationId technicianUserId aircraftType)) := by
  obtain ⟨task, workOrder, aircraft, htask, hworkOrder, haircraft, rfl⟩ := h.task
  obtain ⟨u, hu, hid, horg⟩ := h.technician
  have huser : db.users.select
      (fun u => u.id = technicianUserId && u.organizationId = organizationId) = [u] := by
    refine Table.select_eq_singleton hu (by simp [hid, horg]) fun x hx hfound => ?_
    rw [Bool.and_eq_true, decide_eq_true_eq] at hfound
    exact Table.eq_of_key_eq hx hu (hfound.1.trans hid.symm)
  rw [checkAuthorization, htask, ok_bind, huser]
  dsimp only [scalarOneOrNone, ok_bind]
  rw [hworkOrder]
  dsimp only
  rw [haircraft]
  rfl

theorem answers_iff (h : Concerns db organizationId taskId technicianUserId aircraftType)
    {status : AuthorizationStatus} :
    Answers db now organizationId taskId technicianUserId status ↔
      (judge now taskId technicianUserId aircraftType
        (qualificationsFor db organizationId technicianUserId aircraftType)).status = status := by
  rw [Answers, checkAuthorization_of_concerns h]
  constructor
  · rintro ⟨answer, hanswer, hstatus⟩
    cases hanswer
    exact hstatus
  · exact fun hstatus => ⟨_, rfl, hstatus⟩

theorem Concerns.congr (h : Concerns db organizationId taskId technicianUserId aircraftType)
    (htasks : db'.tasks = db.tasks) (husers : db'.users = db.users)
    (hworkOrders : db'.workOrders = db.workOrders) (haircraft : db'.aircraft = db.aircraft) :
    Concerns db' organizationId taskId technicianUserId aircraftType where
  task := by
    rw [Database.getTask, htasks, hworkOrders, haircraft]
    exact h.task
  technician := by
    rw [husers]
    exact h.technician

/-- A grant that is in force: granted, not revoked, and not expired. -/
structure IsCurrent (now : DateTime) (q : TechnicianQualification) : Prop where
  live : q.revoked = false
  begun : q.grantedAt ≤ now
  valid : isValid now q = true

/-- **DECIDED EXACTLY**: AUTHORIZED means that a grant is in force, MISSING that there is none at
all, in whatever order the grants are; a further grant that is in force takes no authorization
away, and a revocation gives none. -/
structure DecidesExactly (db : Database) (now : DateTime)
    (organizationId taskId technicianUserId : UUID) (aircraftType : String) : Prop where
  authorized : Answers db now organizationId taskId technicianUserId .authorized ↔
    ∃ q ∈ qualificationsFor db organizationId technicianUserId aircraftType, IsCurrent now q
  missing : Answers db now organizationId taskId technicianUserId .missing →
    qualificationsFor db organizationId technicianUserId aircraftType = []
  ordered : ∀ t : Table TechnicianQualification, t.rows.Perm db.qualifications.rows →
    ∀ status, Answers { db with qualifications := t } now organizationId taskId technicianUserId
      status ↔ Answers db now organizationId taskId technicianUserId status
  granted : ∀ newId grantedNow actorUserId payload db' q,
    grantQualification db newId grantedNow organizationId actorUserId payload = .ok (db', q) →
    IsCurrent now q → Answers db now organizationId taskId technicianUserId .authorized →
    Answers db' now organizationId taskId technicianUserId .authorized
  revoked : ∀ actorUserId qualificationId db' q,
    revokeQualification db organizationId actorUserId qualificationId = .ok (db', q) →
    Answers db' now organizationId taskId technicianUserId .authorized →
    Answers db now organizationId taskId technicianUserId .authorized

/-- A grant that is neither revoked nor expired, of which the time is still to come. -/
structure IsFuture (now : DateTime) (q : TechnicianQualification) : Prop where
  live : q.revoked = false
  notBegun : now < q.grantedAt
  valid : isValid now q = true

theorem answers_authorized_iff
    (h : Concerns db organizationId taskId technicianUserId aircraftType) :
    Answers db now organizationId taskId technicianUserId .authorized ↔
      ∃ q ∈ qualificationsFor db organizationId technicianUserId aircraftType,
        q.revoked = false ∧ isValid now q = true := by
  rw [answers_iff h, judge_status_eq_authorized]

variable {q : TechnicianQualification}

theorem mem_qualificationsFor :
    q ∈ qualificationsFor db organizationId technicianUserId aircraftType ↔
      q ∈ db.qualifications.rows ∧ q.organizationId = organizationId ∧
        q.userId = technicianUserId ∧ q.aircraftType = aircraftType := by
  rw [qualificationsFor, Table.mem_select, Bool.and_eq_true, Bool.and_eq_true, decide_eq_true_eq,
    decide_eq_true_eq, decide_eq_true_eq, and_assoc]

theorem answers_of_perm (h : Concerns db organizationId taskId technicianUserId aircraftType)
    {t : Table TechnicianQualification} (hperm : t.rows.Perm db.qualifications.rows)
    (status : AuthorizationStatus) :
    Answers { db with qualifications := t } now organizationId taskId technicianUserId status ↔
      Answers db now organizationId taskId technicianUserId status := by
  have h' : Concerns { db with qualifications := t } organizationId taskId technicianUserId
      aircraftType := h.congr rfl rfl rfl rfl
  have hgrants : (qualificationsFor { db with qualifications := t } organizationId technicianUserId
      aircraftType).Perm (qualificationsFor db organizationId technicianUserId aircraftType) :=
    hperm.filter _
  rw [answers_iff h', answers_iff h, judge_status_perm hgrants]

theorem authorized_of_granted (h : Concerns db organizationId taskId technicianUserId aircraftType)
    {newId : UUID} {grantedNow : DateTime} {grantOrganizationId : UUID} {actorUserId : Option UUID}
    {payload : TechnicianQualificationCreateRequest}
    (hgrant : grantQualification db newId grantedNow grantOrganizationId actorUserId payload
      = .ok (db', q))
    (hbefore : Answers db now organizationId taskId technicianUserId .authorized) :
    Answers db' now organizationId taskId technicianUserId .authorized := by
  obtain ⟨_, -, hgrant⟩ := bind_eq_ok.1 hgrant
  obtain ⟨qualifications, hadd, hgrant⟩ := bind_eq_ok.1 hgrant
  obtain ⟨g, hg, hlive, hvalid⟩ := (answers_authorized_iff h).1 hbefore
  obtain ⟨hrow, hmine⟩ := mem_qualificationsFor.1 hg
  cases hgrant
  refine (answers_authorized_iff ?_).2 ⟨g, mem_qualificationsFor.2 ⟨?_, hmine⟩, hlive, hvalid⟩
  · exact h.congr rfl rfl rfl rfl
  · exact (Table.mem_insert? (addRowOrRaise_eq_ok.1 hadd)).2 (Or.inl hrow)

theorem authorized_of_revoked (h : Concerns db organizationId taskId technicianUserId aircraftType)
    {revokeOrganizationId : UUID} {actorUserId : Option UUID} {qualificationId : UUID}
    (hrevoke : revokeQualification db revokeOrganizationId actorUserId qualificationId
      = .ok (db', q))
    (hafter : Answers db' now organizationId taskId technicianUserId .authorized) :
    Answers db now organizationId taskId technicianUserId .authorized := by
  obtain ⟨old, -, hrevoke⟩ := bind_eq_ok.1 hrevoke
  have h' : Concerns db' organizationId taskId technicianUserId aircraftType := by
    cases hrevoke
    exact h.congr rfl rfl rfl rfl
  obtain ⟨g, hg, hlive, hvalid⟩ := (answers_authorized_iff h').1 hafter
  obtain ⟨hrow, hmine⟩ := mem_qualificationsFor.1 hg
  cases hrevoke
  rcases Table.mem_save.1 hrow with ⟨hrow, -⟩ | ⟨rfl, -⟩
  · exact (answers_authorized_iff h).2 ⟨g, mem_qualificationsFor.2 ⟨hrow, hmine⟩, hlive, hvalid⟩
  · cases hlive

/-- **AUTHORIZATION IS DECIDED EXACTLY** unless a grant that only begins later stands in for one
that is in force. -/
theorem decidesExactly_iff
    (h : Concerns db organizationId taskId technicianUserId aircraftType) :
    DecidesExactly db now organizationId taskId technicianUserId aircraftType ↔
      (∃ q ∈ qualificationsFor db organizationId technicianUserId aircraftType,
        IsCurrent now q) ∨
      ∀ q ∈ qualificationsFor db organizationId technicianUserId aircraftType,
        ¬IsFuture now q := by
  constructor
  · intro hexact
    by_cases hcurrent : ∃ q ∈ qualificationsFor db organizationId technicianUserId aircraftType,
        IsCurrent now q
    · exact Or.inl hcurrent
    · refine Or.inr fun q hq hfuture => hcurrent (hexact.authorized.1 ?_)
      exact (answers_authorized_iff h).2 ⟨q, hq, hfuture.live, hfuture.valid⟩
  · intro hcondition
    refine
      { authorized := ?_
        missing := fun hmissing => judge_status_eq_missing.1 ((answers_iff h).1 hmissing)
        ordered := fun t hperm status => answers_of_perm h hperm status
        granted := fun _ _ _ _ _ _ hgrant _ hbefore => authorized_of_granted h hgrant hbefore
        revoked := fun _ _ _ _ hrevoke hafter => authorized_of_revoked h hrevoke hafter }
    rw [answers_authorized_iff h]
    constructor
    · rintro ⟨q, hq, hlive, hvalid⟩
      rcases hcondition with hcurrent | hfuture
      · exact hcurrent
      · by_cases hbegun : q.grantedAt ≤ now
        · exact ⟨q, hq, hlive, hbegun, hvalid⟩
        · exact absurd ⟨hlive, not_le.1 hbegun, hvalid⟩ (hfuture q hq)
    · rintro ⟨q, hq, hcurrent⟩
      exact ⟨q, hq, hcurrent.live, hcurrent.valid⟩

end Authorization

/-! ## A grant that begins tomorrow -/

/-- A task on an aircraft, and a technician with one grant of its type. -/
def withGrant (grantedAt : DateTime) : Database where
  users := .single { id := 2, organizationId := 1 }
  aircraft := .single
    { id := 3, organizationId := 1, registration := "VT-A", msn := "1", aircraftType := "A320" }
  workOrders := .single { id := 4, organizationId := 1, aircraftId := some 3 }
  tasks := .single { id := 5, organizationId := 1, workOrderId := 4 }
  qualifications := .single
    { id := 6, organizationId := 1, userId := 2, aircraftType := "A320", grantedAt }

theorem concerns_withGrant (grantedAt : DateTime) :
    Concerns (withGrant grantedAt) 1 5 2 "A320" where
  task := ⟨_, _, _, rfl, rfl, rfl, rfl⟩
  technician := ⟨_, List.mem_singleton_self _, rfl, rfl⟩

/-- The grant counts before it begins. -/
theorem future_grant_authorizes : ¬DecidesExactly (withGrant 1) 0 1 5 2 "A320" := by
  intro h
  obtain ⟨q, hq, hcurrent⟩ := h.authorized.1 ⟨_, rfl, rfl⟩
  cases List.mem_singleton.1 hq
  exact absurd hcurrent.begun (by decide)

/-- A grant that has begun. -/
theorem decidesExactly_withGrant : DecidesExactly (withGrant 0) 0 1 5 2 "A320" :=
  (decidesExactly_iff (concerns_withGrant 0)).2 <| Or.inl
    ⟨_, List.mem_singleton_self _, rfl, le_rfl, rfl⟩

end TechnicianService
end AeroComply
