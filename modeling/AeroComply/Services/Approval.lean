import AeroComply.Services.EntitlementRuns

/-!
# Approval — requests for expansive entitlement changes

`app/services/approval_service.py`.  A request is created PENDING when the
entitlement classifier calls the change expansive, and a decision claims it.
Approval then runs the ordinary mutation in the same transaction.

The mutation never touches the expiry of an existing override, so an approval
over an expired override row takes no effect.
-/

namespace AeroComply

namespace ApprovalService

open EntitlementService TenantEntitlementAdminService

def getApprovalRequest (db : Database) (approvalId : UUID) : Except Error ApprovalRequest :=
  match db.approvalRequests.find? approvalId with
  | some approval => .ok approval
  | none => .error (.notFound "Approval request not found")

/-- `is_expansive` of `create_approval_request`. -/
def isExpansiveRequest (db : Database) (now : DateTime) (organizationId : UUID)
    (requestType featureKey : String) (requestedEnabled : Option Bool) (limitKey : Option String)
    (requestedLimitValue : Option Int) (requestedIsUnlimited : Option Bool) :
    Except Error Bool := do
  if requestType = ApprovalRequestType.featureOverrideExpansion then
    pure (classifyFeatureOverride db now organizationId featureKey (requestedEnabled.getD false))
  else
    -- `limit_key == None` in a query selects nothing
    let existing ← scalarOneOrNone
      ((limitKey.map (usageLimitsFor db organizationId featureKey)).getD [])
    pure (classifyUsageLimit (existing.bind TenantUsageLimit.limitValue)
      ((existing.map TenantUsageLimit.isUnlimited).getD false) requestedLimitValue
      (requestedIsUnlimited.getD false) existing.isSome)

def createApprovalRequest (db : Database) (now : DateTime) (newId : UUID)
    (actorUserId : Option UUID) (organizationId : UUID) (requestType featureKey : String)
    (reason : Option String) (requestedEnabled : Option Bool) (limitKey : Option String)
    (requestedLimitValue : Option Int) (requestedIsUnlimited : Option Bool) :
    Except Error (Database × ApprovalRequest) := do
  let _ ← requireOrganization db organizationId
  raiseIf (requestType ≠ ApprovalRequestType.featureOverrideExpansion ∧
      requestType ≠ ApprovalRequestType.usageLimitExpansion)
    (.conflict ("Invalid request_type " ++ pyRepr requestType) "invalid_request_type")
  let isExpansive ← isExpansiveRequest db now organizationId requestType featureKey
    requestedEnabled limitKey requestedLimitValue requestedIsUnlimited
  raiseIf (isExpansive = false)
    (.conflict ("The requested change is not expansive per existing entitlement " ++
      "classification -- it does not require approval. Use the direct " ++
      "administration endpoint instead.") "not_expansive")
  let approval : ApprovalRequest :=
    { id := newId, organizationId, requestType, featureKey, requestedEnabled, limitKey,
      requestedLimitValue, requestedIsUnlimited, reason, requestedByUserId := actorUserId }
  let approvalRequests ← addRow db.approvalRequests approval
  pure (({ db with approvalRequests }).recordAuditEvent organizationId actorUserId
    "platform.approval_request.created" "ApprovalRequest" (some newId), approval)

/-! ## Decisions -/

def notPending (approvalId : UUID) (status : ApprovalRequestStatus) : Error :=
  .conflict ("Approval request " ++ toString approvalId ++ " is not PENDING (current status: "
    ++ status.value ++ ")") "invalid_transition"

/-- `_claim_pending`, writing `decided approval`. -/
def claimPending (db : Database) (approvalId : UUID)
    (decided : ApprovalRequest → ApprovalRequest) : Except Error (Database × ApprovalRequest) := do
  let approval ← getApprovalRequest db approvalId
  raiseIf (approval.status ≠ .pending) (notPending approvalId approval.status)
  pure ({ db with approvalRequests := db.approvalRequests.save (decided approval) },
    decided approval)

/-- The request with the fields of a decision. -/
def decision (status : ApprovalRequestStatus) (now : DateTime) (actorUserId : Option UUID)
    (decisionReason : Option String) (approval : ApprovalRequest) : ApprovalRequest :=
  { approval with
    status, reviewedByUserId := actorUserId, reviewedAt := some now, decisionReason }

/-- The reviewer is the requester. -/
def isSelfApproval (approval : ApprovalRequest) (actorUserId : Option UUID) : Prop :=
  approval.requestedByUserId.isSome = true ∧ approval.requestedByUserId = actorUserId

instance (approval : ApprovalRequest) (actorUserId : Option UUID) :
    Decidable (isSelfApproval approval actorUserId) := inferInstanceAs (Decidable (_ ∧ _))

/-- The mutation of an approved feature request. -/
def executeFeatureOverride (db : Database) (now : DateTime) (newId : UUID)
    (actorUserId : Option UUID) (callerRoles : List String) (approval : ApprovalRequest) :
    Except Error (Database × TenantFeatureOverride) := do
  match ← scalarOneOrNone (overridesFor db approval.organizationId approval.featureKey) with
  | some _ =>
    updateFeatureOverride db now actorUserId callerRoles approval.organizationId
      approval.featureKey (some true) approval.reason none
  | none =>
    createFeatureOverride db now newId actorUserId callerRoles approval.organizationId
      approval.featureKey true approval.reason none

/-- The mutation of an approved limit request. -/
def executeUsageLimit (db : Database) (newId : UUID) (actorUserId : Option UUID)
    (callerRoles : List String) (approval : ApprovalRequest) :
    Except Error (Database × TenantUsageLimit) := do
  match approval.limitKey with
  | none => .error .assertionError
  | some limitKey =>
    match ← scalarOneOrNone
        (usageLimitsFor db approval.organizationId approval.featureKey limitKey) with
    | some _ =>
      updateUsageLimit db actorUserId callerRoles approval.organizationId
        approval.featureKey limitKey approval.requestedLimitValue approval.requestedIsUnlimited
    | none =>
      createUsageLimit db newId actorUserId callerRoles approval.organizationId
        approval.featureKey limitKey approval.requestedLimitValue
        (approval.requestedIsUnlimited.getD false)

def approveApprovalRequest (db : Database) (now : DateTime) (newId : UUID)
    (actorUserId : Option UUID) (callerRoles : List String) (approvalId : UUID)
    (decisionReason : Option String) : Except Error (Database × ApprovalRequest) := do
  let approval ← getApprovalRequest db approvalId
  raiseIf (approval.status ≠ .pending) (notPending approvalId approval.status)
  raiseIf (isSelfApproval approval actorUserId)
    (.forbidden "You cannot approve your own approval request; a different reviewer is required."
      "self_approval_forbidden")
  let (claimed, approval) ← claimPending db approvalId
    (decision .approved now actorUserId decisionReason)
  let logged := claimed.recordAuditEvent approval.organizationId actorUserId
    "platform.approval_request.approved" "ApprovalRequest" (some approval.id)
  if approval.requestType = ApprovalRequestType.featureOverrideExpansion then
    let (db', _) ← executeFeatureOverride logged now newId actorUserId callerRoles approval
    pure (db', approval)
  else
    let (db', _) ← executeUsageLimit logged newId actorUserId callerRoles approval
    pure (db', approval)

def rejectApprovalRequest (db : Database) (now : DateTime) (actorUserId : Option UUID)
    (approvalId : UUID) (decisionReason : Option String) :
    Except Error (Database × ApprovalRequest) := do
  let (claimed, approval) ← claimPending db approvalId
    (decision .rejected now actorUserId decisionReason)
  pure (claimed.recordAuditEvent approval.organizationId actorUserId
    "platform.approval_request.rejected" "ApprovalRequest" (some approval.id), approval)

/-- `cancel_approval_request`; it keeps the stored decision reason. -/
def cancelApprovalRequest (db : Database) (now : DateTime) (actorUserId : Option UUID)
    (approvalId : UUID) : Except Error (Database × ApprovalRequest) := do
  let (claimed, approval) ← claimPending db approvalId
    (fun approval => decision .canceled now actorUserId approval.decisionReason approval)
  pure (claimed.recordAuditEvent approval.organizationId actorUserId
    "platform.approval_request.canceled" "ApprovalRequest" (some approval.id), approval)

/-! ## What an approval changes -/

section Approving

variable {db db' : Database} {now : DateTime} {newId : UUID} {actor : Option UUID}
  {roles : List String} {approval decided : ApprovalRequest}

theorem getApprovalRequest_eq_ok {approvalId : UUID} :
    getApprovalRequest db approvalId = .ok approval ↔
      db.approvalRequests.find? approvalId = some approval := by
  rw [getApprovalRequest]
  cases db.approvalRequests.find? approvalId with
  | none => exact ⟨fun h => (nomatch h), fun h => (nomatch h)⟩
  | some a =>
    constructor
    · intro h
      cases h
      rfl
    · intro h
      cases h
      rfl

theorem claimPending_spec {approvalId : UUID} {f : ApprovalRequest → ApprovalRequest}
    (h : claimPending db approvalId f = .ok (db', decided)) :
    ∃ a, db.approvalRequests.find? approvalId = some a ∧ a.status = .pending ∧
      decided = f a ∧
      db' = { db with approvalRequests := db.approvalRequests.save (f a) } := by
  obtain ⟨a, hget, h⟩ := bind_eq_ok.1 h
  obtain ⟨_, hpend, h⟩ := bind_eq_ok.1 h
  rw [pure_eq_ok] at h
  obtain ⟨rfl, rfl⟩ := Prod.mk.inj h
  exact ⟨a, getApprovalRequest_eq_ok.1 hget, not_not.1 (raiseIf_eq_ok.1 hpend), rfl, rfl⟩

theorem executeFeatureOverride_spec {row' : TenantFeatureOverride}
    (h : executeFeatureOverride db now newId actor roles approval = .ok (db', row')) :
    EditsOverrides db db' approval.organizationId approval.featureKey [row'] ∧
    row'.enabled = true ∧
    (isActiveOverride now row' = true ↔
      ∀ row ∈ overridesFor db approval.organizationId approval.featureKey,
        isActiveOverride now row = true) := by
  obtain ⟨existing, hex, h⟩ := bind_eq_ok.1 h
  cases existing with
  | none =>
    obtain ⟨hnone, hrow, hedit, _⟩ := createFeatureOverride_spec h
    refine ⟨hedit, by rw [hrow], ?_⟩
    rw [hnone, hrow]
    exact iff_of_true rfl (fun row hr => nomatch hr)
  | some _ =>
    obtain ⟨row, hrows, hrow', hedit, _⟩ := updateFeatureOverride_spec h
    refine ⟨hedit, ?_, ?_⟩
    · rw [hrow', EntitlementRuns.updatedOverride_enabled]
      rfl
    · rw [hrow', EntitlementRuns.isActiveOverride_updated, hrows]
      simp [EntitlementRuns.activeWithExpiry]

/-- The tenant gets what its override rows grant, and the approved feature is granted: no
override of it has expired, or the plan has it anyway. -/
def TakesEffect (db : Database) (t : DateTime) (approval : ApprovalRequest) : Prop :=
  ∃ plan, planInForce db approval.organizationId t = some plan ∧
    ((∀ row ∈ overridesFor db approval.organizationId approval.featureKey,
        isActiveOverride t row = true) ∨
      planEnables (planFeaturesOf db plan.id) approval.featureKey = true)

/-- **APPROVED FEATURES**: an approval that returns normally turns the feature on exactly
when the organization has a plan in force and no expired override row stands in the way. -/
theorem approved_feature_enabled_iff {approvalId : UUID} {decisionReason : Option String}
    (h : approveApprovalRequest db now newId actor roles approvalId decisionReason
      = .ok (db', decided))
    (hfind : db.approvalRequests.find? approvalId = some approval)
    (htype : approval.requestType = ApprovalRequestType.featureOverrideExpansion) :
    featureEnabled (resolveEntitlements db' approval.organizationId now) approval.featureKey
      = true ↔ TakesEffect db now approval := by
  obtain ⟨a, hget, h⟩ := bind_eq_ok.1 h
  obtain ⟨_, _, h⟩ := bind_eq_ok.1 h
  obtain ⟨_, _, h⟩ := bind_eq_ok.1 h
  obtain ⟨⟨claimed, d⟩, hclaim, h⟩ := bind_eq_ok.1 h
  obtain ⟨b, hb, _, hd, hclaimed⟩ := claimPending_spec hclaim
  rw [hfind] at hb
  cases hb
  dsimp only at h
  have hd' : d.requestType = ApprovalRequestType.featureOverrideExpansion := by
    rw [hd]
    exact htype
  rw [if_pos hd'] at h
  obtain ⟨⟨db₁, row'⟩, hexec, h⟩ := bind_eq_ok.1 h
  rw [pure_eq_ok] at h
  obtain ⟨rfl, rfl⟩ := Prod.mk.inj h
  obtain ⟨hedit, hon, hactive⟩ := executeFeatureOverride_spec hexec
  subst hd
  subst hclaimed
  -- the claim and its log entry touch neither the plan nor the override rows
  have hplan : planInForce db₁ approval.organizationId now
      = planInForce db approval.organizationId now := hedit.planInForce_eq now
  show featureEnabled (resolveEntitlements db₁ approval.organizationId now) approval.featureKey
    = true ↔ _
  constructor
  · intro hen
    cases hp : planInForce db approval.organizationId now with
    | none =>
      rw [featureEnabled_of_no_plan (hplan.trans hp)] at hen
      cases hen
    | some plan =>
      refine ⟨plan, hp, ?_⟩
      have hset := (EntitlementRuns.featureEnabled_of_edit hedit hp).symm.trans hen
      cases hact : isActiveOverride now row' with
      | true => exact Or.inl (hactive.1 hact)
      | false =>
        rw [EntitlementRuns.settingFrom_expired hact] at hset
        exact Or.inr hset
  · rintro ⟨plan, hp, hcase⟩
    refine (EntitlementRuns.featureEnabled_of_edit hedit hp).trans ?_
    cases hact : isActiveOverride now row' with
    | true => exact (EntitlementRuns.settingFrom_active hact).trans hon
    | false =>
      refine (EntitlementRuns.settingFrom_expired hact).trans ?_
      rcases hcase with hall | hplanOn
      · exact absurd (hactive.2 hall) (by rw [hact]; exact Bool.false_ne_true)
      · exact hplanOn

end Approving

/-- An organization on a plan without features, with a grant of "ai" that expired at 5. -/
def expiredGrant : Database where
  organizations := .single { id := 1 }
  plans := .single { id := 2, code := "BASIC" }
  subscriptions := .single
    { id := 4, organizationId := 1, planId := 2, status := .active, startsAt := 0 }
  featureOverrides := .single
    { id := 5, organizationId := 1, featureKey := "ai", enabled := true, expiresAt := some 5 }

/-- The same organization with a block of "ai" that does not expire, and a request to lift it. -/
def blockRequest : ApprovalRequest :=
  { id := 7, organizationId := 1, featureKey := "ai", requestedEnabled := some true,
    requestType := ApprovalRequestType.featureOverrideExpansion, requestedByUserId := some 8 }

def pendingOverBlock : Database :=
  { expiredGrant with
    featureOverrides := .single
      { id := 5, organizationId := 1, featureKey := "ai", enabled := false }
    approvalRequests := .single blockRequest }

/-- A request over an expired grant is accepted as expansive and approved by a second user,
and the feature is off afterwards as it was before. -/
theorem approved_over_expired_grant :
    ∃ db₁ db₂ approval decided,
      createApprovalRequest expiredGrant 10 7 (some 8) 1
        ApprovalRequestType.featureOverrideExpansion "ai" none (some true) none none none
          = .ok (db₁, approval) ∧
      approveApprovalRequest db₁ 10 20 (some 9) ["PLATFORM_ADMIN"] 7 none = .ok (db₂, decided) ∧
      decided.status = .approved ∧
      (resolveEntitlements db₂ 1 10).resolutionStatus = .active ∧
      featureEnabled (resolveEntitlements db₁ 1 10) "ai" = false ∧
      featureEnabled (resolveEntitlements db₂ 1 10) "ai" = false :=
  ⟨_, _, _, _, rfl, rfl, rfl, by decide, by decide, by decide⟩

/-- A block that has not expired is turned into a grant. -/
theorem approved_over_block :
    ∃ db' decided,
      approveApprovalRequest pendingOverBlock 10 20 (some 9) ["PLATFORM_ADMIN"] 7 none
        = .ok (db', decided) ∧
      featureEnabled (resolveEntitlements db' 1 10) "ai" = true := by
  have hfind : pendingOverBlock.approvalRequests.find? 7 = some blockRequest := rfl
  have heffect : TakesEffect pendingOverBlock 10 blockRequest := by
    refine ⟨_, rfl, Or.inl ?_⟩
    intro row hrow
    have hrows : overridesFor pendingOverBlock 1 "ai"
        = [{ id := 5, organizationId := 1, featureKey := "ai", enabled := false }] := by decide
    have hmem : row ∈ overridesFor pendingOverBlock 1 "ai" := hrow
    rw [hrows, List.mem_singleton] at hmem
    rw [hmem]
    rfl
  have henabled : ∀ db' decided,
      approveApprovalRequest pendingOverBlock 10 20 (some 9) ["PLATFORM_ADMIN"] 7 none
        = .ok (db', decided) →
      featureEnabled (resolveEntitlements db' 1 10) "ai" = true :=
    fun _ _ h => (approved_feature_enabled_iff h hfind rfl).2 heffect
  exact ⟨_, _, rfl, henabled _ _ rfl⟩

end ApprovalService
end AeroComply
