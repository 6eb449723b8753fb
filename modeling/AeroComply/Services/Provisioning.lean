import AeroComply.Services.Subscription
import AeroComply.Services.TenantUsers

/-!
# Provisioning — a tenant in one transaction

`provision_organization` of `app/services/provisioning_service.py`, with the three
services it composes: `create_organization` and `create_organization_admin` of
`platform_service.py` and `create_subscription` of `subscription_service.py`, called
without a commit of their own.

What is not in the repository can fail at any point: the database raises at a
`FailurePoint`, the mail server at a message.  `createSubscription_agrees`: without a
failure the subscription is the one the service writes.
-/

namespace AeroComply

open Relational (Table)
open Sessions (Call)

/-- Where the database can raise: before the statements of a step, in the `flush` of
`create_subscription`, which is guarded, and in a commit. -/
inductive FailurePoint
  | preflight
  | createOrganization
  | createOrganizationAdmin
  | createSubscription
  | subscriptionFlush
  | resolveEntitlements
  | commit
  | compensation
  | requestAccountOnboarding
  | onboardingFailure
  deriving DecidableEq, Repr

/-- What the services run on. -/
structure Platform where
  py : Interpreter
  /-- `lower()` of the database server. -/
  sqlLower : String → String
  passwords : PasswordContext
  fault : FailurePoint → Option Error
  /-- `send_verification_code_email`. -/
  send : CodeEmail → Option Error

/-- What is drawn in a call. -/
structure ProvisioningIds where
  organizationId : UUID
  account : NewAccount
  subscriptionId : UUID
  onboarding : GeneratedCode

structure ProvisionOrganizationRequest where
  organizationName : String
  planId : UUID
  subscriptionStatus : String
  adminEmail : String
  adminFullName : String

structure ProvisionOrganizationResult where
  organization : Organization
  subscription : Subscription
  admin : User
  onboardingEmailSent : Bool
  planCode : Option String := none
  featuresCount : Nat := 0
  limitsCount : Nat := 0

namespace PlatformService

open TenantEntitlementAdminService (requireOrganization)

/-- `create_organization(…, commit=False)`. -/
def createOrganization (db : Database) (newId : UUID) (actorUserId : Option UUID) (name : String) :
    Except Error (Database × Organization) := do
  let org : Organization := { id := newId, name, status := OrganizationStatus.active }
  let organizations ← addRow db.organizations org
  pure (({ db with organizations }).recordAuditEvent org.id actorUserId
    "platform.organization.create" "Organization" (some org.id), org)

/-- `create_organization_admin(…, commit=False)`; the role goes out with the next flush, and
nothing reads it before. -/
def createOrganizationAdmin (ctx : PasswordContext) (db : Database) (account : NewAccount)
    (actorUserId : Option UUID) (organizationId : UUID) (email fullName : String) :
    Except Error (Database × User) := do
  let _ ← requireOrganization db organizationId
  let existing ← scalarOneOrNone (db.users.select fun u => u.email = email)
  raiseIf existing.isSome (.conflict "A user with this email already exists")
  let user : User := {
    id := account.id
    organizationId
    email
    hashedPassword := ctx.hash account.salt account.password
    fullName
    isActive := true }
  let users ← addRow db.users user
  let userRoles ← addRow db.userRoles ⟨user.id, "ORG_ADMIN", organizationId⟩
  pure (({ db with users, userRoles }).recordAuditEvent organizationId actorUserId
    "platform.organization.admin_created" "User" (some user.id), user)

end PlatformService

namespace ProvisioningService

open EntitlementService (EntitlementResolution resolveEntitlements)
open PlatformService (createOrganization createOrganizationAdmin)
open SubscriptionService (requirePlan validateStatus assertNoAmbiguity)
open TenantEntitlementAdminService (requireOrganization)

section Calls

variable (platform : Platform)

def mayFail (point : FailurePoint) : Call Database Error Unit :=
  match platform.fault point with
  | some e => Sessions.raise e
  | none => pure ()

/-- What `create_subscription` checks before it inserts. -/
def checkSubscription (db : Database) (organizationId planId : UUID) (status : String)
    (startsAt : DateTime) (endsAt : Option DateTime) : Except Error SubscriptionStatus := do
  let _ ← requireOrganization db organizationId
  requirePlan db planId
  let status ← validateStatus status
  assertNoAmbiguity db organizationId status startsAt endsAt none
  pure status

/-- The insert and its flush; a row that the server refuses is rolled back here, and with it
everything the session has not committed. -/
def flushSubscription (sub : Subscription) : Call Database Error Unit :=
  Sessions.rescue
    (do
      mayFail platform .subscriptionFlush
      Sessions.update fun db => do
        let subscriptions ← addRow db.subscriptions sub
        pure { db with subscriptions })
    fun e =>
      match e with
      | .integrity => do
        Sessions.rollback
        Sessions.raise (.conflict "Could not create subscription" "subscription_conflict")
      | e => Sessions.raise e

/-- `create_subscription(…, commit=False)`. -/
def createSubscription (newId : UUID) (actorUserId : Option UUID) (organizationId planId : UUID)
    (status : String) (startsAt : DateTime) (endsAt : Option DateTime) :
    Call Database Error Subscription := do
  mayFail platform .createSubscription
  let status ← Sessions.query fun db =>
    checkSubscription db organizationId planId status startsAt endsAt
  let sub : Subscription := { id := newId, organizationId, planId, status, startsAt, endsAt }
  flushSubscription platform sub
  Sessions.update fun db => .ok (db.recordAuditEvent organizationId actorUserId
    "platform.subscription.created" "Subscription" (some sub.id))
  pure sub

/-- The pre-flight checks: the plan exists and is active, and neither the name nor the address is
taken. -/
def preflight (db : Database) (request : ProvisionOrganizationRequest) : Except Error Plan :=
  match db.plans.find? request.planId with
  -- a NotFoundError with a code of its own
  | none => .error (.aeroComply
      s!"Commercial plan '{platform.py.uuidText request.planId}' does not exist" "plan_not_found")
  | some plan => do
    raiseIf (plan.isActive = false)
      (.conflict (s!"Commercial plan '{plan.name}' ({plan.code}) is inactive and cannot be " ++
        "assigned to new provisions") "inactive_plan")
    let cleanOrgName := platform.py.unicode.strip request.organizationName
    let existingOrg := (db.organizations.select fun o =>
      platform.sqlLower o.name = platform.py.lower cleanOrgName && o.deletedAt.isNone).head?
    raiseIf existingOrg.isSome
      (.conflict s!"An active organization named '{cleanOrgName}' already exists"
        "duplicate_organization_name")
    let cleanAdminEmail := AuthService.cleanEmail platform.py request.adminEmail
    let existingUser := (db.users.select fun u =>
      platform.sqlLower u.email = cleanAdminEmail).head?
    raiseIf existingUser.isSome
      (.conflict s!"A user with email '{request.adminEmail}' already exists"
        "duplicate_admin_email")
    pure plan

/-- What the transaction hands to the rest of the call. -/
structure Provisioned where
  plan : Plan
  organization : Organization
  admin : User
  subscription : Subscription
  entitlements : EntitlementResolution

/-- The result of the call. -/
def Provisioned.result (done : Provisioned) (onboardingEmailSent : Bool) :
    ProvisionOrganizationResult where
  organization := done.organization
  subscription := done.subscription
  admin := done.admin
  onboardingEmailSent := onboardingEmailSent
  planCode := some done.plan.code
  featuresCount := done.entitlements.effectiveFeatures.rows.length
  limitsCount := done.entitlements.usageLimits.length

variable (actorUserId : UUID) (now : DateTime) (ids : ProvisioningIds)
  (request : ProvisionOrganizationRequest)

/-- The transaction from `create_organization_admin` to its commit. -/
def provisionTenant (plan : Plan) (org : Organization) : Call Database Error Provisioned := do
  mayFail platform .createOrganizationAdmin
  let admin ← Sessions.act fun db => createOrganizationAdmin platform.passwords db ids.account
    (some actorUserId) org.id (AuthService.cleanEmail platform.py request.adminEmail)
    (platform.py.unicode.strip request.adminFullName)
  let subscription ← createSubscription platform ids.subscriptionId (some actorUserId) org.id
    request.planId request.subscriptionStatus now none
  mayFail platform .resolveEntitlements
  let entitlements ← Sessions.query fun db => .ok (resolveEntitlements db org.id now)
  Sessions.update fun db => .ok (db.recordAuditEvent org.id (some actorUserId)
    "platform.organization.provisioned" "Organization" (some org.id))
  mayFail platform .commit
  Sessions.commit
  pure ⟨plan, org, admin, subscription, entitlements⟩

/-- The rows that `_rollback_partial_provisioning` deletes; roles and codes go with their user. -/
def deletePartial (db : Database) (organizationId : UUID) : Database :=
  let isMember (userId : UUID) : Bool :=
    (db.users.find? userId).any fun u => u.organizationId = organizationId
  { db with
    subscriptions := db.subscriptions.deleteWhere fun s => s.organizationId = organizationId
    users := db.users.deleteWhere fun u => u.organizationId = organizationId
    userRoles := db.userRoles.deleteWhere fun r => isMember r.userId
    authVerificationCodes := db.authVerificationCodes.deleteWhere fun c => isMember c.userId
    organizations := db.organizations.deleteWhere fun o => o.id = organizationId }

def rollbackPartialProvisioning : Option UUID → Call Database Error Unit
  | none => pure ()
  | some organizationId =>
    Sessions.rescue
      (do
        Sessions.rollback
        mayFail platform .compensation
        Sessions.transaction fun db => .ok (deletePartial db organizationId))
      fun _ => Sessions.rollback

/-- The call up to its commit.  `org` is bound once `create_organization` has answered. -/
def provisionTransaction : Call Database Error Provisioned := do
  mayFail platform .preflight
  let plan ← Sessions.query fun db => preflight platform db request
  let org ← Sessions.rescue
    (do
      mayFail platform .createOrganization
      Sessions.act fun db => createOrganization db ids.organizationId (some actorUserId)
        (platform.py.unicode.strip request.organizationName))
    fun e => do
      Sessions.rollback
      Sessions.raise e
  Sessions.rescue (provisionTenant platform actorUserId now ids request plan org)
    fun e => do
      Sessions.rollback
      rollbackPartialProvisioning platform (some org.id)
      Sessions.raise e

/-- The onboarding mail; whether it was sent. -/
def inviteAdmin (org : Organization) (admin : User) : Call Database Error Bool :=
  Sessions.rescue
    (do
      mayFail platform .requestAccountOnboarding
      let email ← AuthService.requestAccountOnboarding platform.passwords now admin.id
        ids.onboarding
      match platform.send email with
      | some e => Sessions.raise e
      | none => pure true)
    fun _ => do
      mayFail platform .onboardingFailure
      Sessions.transaction fun db => .ok (db.recordAuditEvent org.id (some actorUserId)
        "platform.organization.onboarding_email_failed" "User" (some admin.id))
      pure false

def provisionOrganization : Call Database Error ProvisionOrganizationResult := do
  let done ← provisionTransaction platform actorUserId now ids request
  let onboardingEmailSent ← inviteAdmin platform actorUserId now ids done.organization done.admin
  pure (done.result onboardingEmailSent)

end Calls

/-! ## The subscription service in a session -/

section Agreement

variable {platform : Platform} {s : Sessions.Session Database} {newId : UUID}
  {actorUserId : Option UUID} {organizationId planId : UUID} {status : String}
  {startsAt : DateTime} {endsAt : Option DateTime}

theorem createSubscription_eq_checked (db : Database) :
    SubscriptionService.createSubscription db newId actorUserId organizationId planId status startsAt
        endsAt
      = checkSubscription db organizationId planId status startsAt endsAt >>= fun status =>
          SubscriptionService.addSubscription db actorUserId
            { id := newId, organizationId, planId, status, startsAt, endsAt }
            "Could not create subscription" "platform.subscription.created" := by
  rw [SubscriptionService.createSubscription, checkSubscription, bind_assoc]
  congr 1
  funext _
  rw [bind_assoc]
  congr 1
  funext _
  rw [bind_assoc]
  congr 1
  funext _
  rw [bind_assoc]
  rfl

theorem mayFail_of_none {point : FailurePoint} (h : platform.fault point = none) :
    mayFail platform point s = (.ok (), s) := by
  rw [mayFail, h]
  rfl

theorem flushSubscription_of_some (hflush : platform.fault .subscriptionFlush = none)
    {sub : Subscription} {subscriptions : Table Subscription}
    (h : s.working.subscriptions.insert? sub = some subscriptions) :
    flushSubscription platform sub s
      = (.ok (), { s with working := { s.working with subscriptions } }) := by
  refine Sessions.rescue_of_ok ?_
  rw [Sessions.bind_of_ok (mayFail_of_none hflush)]
  refine Sessions.update_of_ok ?_
  rw [addRow, addRowOrRaise_eq_ok.2 h]
  rfl

/-- What the server refuses is rolled back, and with it all that was not committed. -/
theorem flushSubscription_of_none (hflush : platform.fault .subscriptionFlush = none)
    {sub : Subscription} (h : s.working.subscriptions.insert? sub = none) :
    flushSubscription platform sub s
      = (.error (.conflict "Could not create subscription" "subscription_conflict"),
          ⟨s.committed, s.committed⟩) := by
  have hrefused : (do
      mayFail platform .subscriptionFlush
      Sessions.update fun db => do
        let subscriptions ← addRow db.subscriptions sub
        pure { db with subscriptions } : Call Database Error Unit) s = (.error .integrity, s) := by
    rw [Sessions.bind_of_ok (mayFail_of_none hflush)]
    refine Sessions.update_of_error ?_
    rw [addRow, addRowOrRaise, h]
    rfl
  rw [flushSubscription, Sessions.rescue_of_error hrefused]
  rfl

/-- Without a commit, and on a database that does not fail, the call answers or raises what the
service does, and writes what it writes. -/
theorem createSubscription_agrees (hreads : platform.fault .createSubscription = none)
    (hflush : platform.fault .subscriptionFlush = none) :
    match SubscriptionService.createSubscription s.working newId actorUserId organizationId planId
      status startsAt endsAt with
    | .ok (db, sub) =>
      createSubscription platform newId actorUserId organizationId planId status startsAt endsAt s
        = (.ok sub, { s with working := db })
    | .error e =>
      (createSubscription platform newId actorUserId organizationId planId status startsAt endsAt
        s).1 = .error e := by
  rw [createSubscription_eq_checked, createSubscription,
    Sessions.bind_of_ok (mayFail_of_none hreads)]
  cases hcheck : checkSubscription s.working organizationId planId status startsAt endsAt with
  | error e =>
    rw [Sessions.bind_of_error (Sessions.query_of hcheck)]
    rfl
  | ok named =>
    rw [Sessions.bind_of_ok (Sessions.query_of hcheck), ok_bind,
      SubscriptionService.addSubscription, addRowOrRaise]
    let sub : Subscription :=
      { id := newId, organizationId, planId, status := named, startsAt, endsAt }
    cases hinsert : s.working.subscriptions.insert? sub with
    | none =>
      rw [Sessions.bind_of_error (flushSubscription_of_none hflush hinsert)]
      rfl
    | some subscriptions =>
      rw [Sessions.bind_of_ok (flushSubscription_of_some hflush hinsert)]
      rfl

end Agreement

end ProvisioningService
end AeroComply
