import AeroComply.Services.LostSubscription
import AeroComply.Services.TenantUsers

/-!
# Access — tokens, and who a request is made by

The tokens of `app/core/security.py`, the part of `app/services/auth_service.py` that
issues them, `restore_organization` of `app/services/restoration_service.py`, and the two
dependencies of `app/core/deps.py` that a request passes.

An access token carries the roles it was issued with and is not compared with the user
again; the organization is looked up at every request.  The signature is that of a library
outside the repository: `Jwt`.
-/

namespace AeroComply

/-- The claims of a token; what a refresh token does not carry has the value that
`payload.get` falls back on. -/
structure TokenPayload where
  sub : UUID
  iat : DateTime
  exp : DateTime
  jti : UUID
  type : String
  organizationId : UUID
  roles : List String := []
  email : String := ""
  fullName : String := ""
  emailVerified : Bool := false
  deriving DecidableEq

/-- `jwt.encode` and `jwt.decode` with the secret key.  A token that has expired is not
decoded. -/
structure Jwt (Token : Type) where
  encode : TokenPayload → Token
  decode : DateTime → Token → Option TokenPayload
  decode_exp : ∀ now token payload, decode now token = some payload → now ≤ payload.exp

/-- A token that is its claims. -/
def Jwt.plain : Jwt TokenPayload where
  encode payload := payload
  decode now payload := if now ≤ payload.exp then some payload else none
  decode_exp := by
    intro now token payload h
    split at h
    · cases h
      assumption
    · cases h

structure TokenSettings where
  accessTokenExpireMinutes : Int
  refreshTokenExpireDays : Int

def oneMinute : Int := 60 * AuthService.oneSecond

/-- `timedelta(minutes=settings.access_token_expire_minutes)`. -/
def TokenSettings.accessLifetime (settings : TokenSettings) : Int :=
  settings.accessTokenExpireMinutes * oneMinute

/-- `timedelta(days=settings.refresh_token_expire_days)`. -/
def TokenSettings.refreshLifetime (settings : TokenSettings) : Int :=
  settings.refreshTokenExpireDays * (24 * 60 * oneMinute)

/-- The claims that `create_access_token` signs. -/
def accessPayload (settings : TokenSettings) (now : DateTime) (jti : UUID) (user : User)
    (roles : List String) : TokenPayload where
  sub := user.id
  iat := now
  exp := now + settings.accessLifetime
  jti := jti
  type := "access"
  organizationId := user.organizationId
  roles := roles
  email := user.email
  fullName := user.fullName
  emailVerified := user.emailVerified

/-- The claims that `create_refresh_token` signs. -/
def refreshPayload (settings : TokenSettings) (now : DateTime) (jti : UUID) (user : User) :
    TokenPayload where
  sub := user.id
  iat := now
  exp := now + settings.refreshLifetime
  jti := jti
  type := "refresh"
  organizationId := user.organizationId

/-- What is drawn for a pair of tokens. -/
structure TokenIds where
  access : UUID
  refresh : UUID

/-- What is drawn for a registration. -/
structure RegistrationIds where
  organizationId : UUID
  userId : UUID
  salt : Nat
  planId : UUID
  featureId : Nat → UUID
  subscriptionId : UUID

structure RegisterOrganizationRequest where
  organizationName : String
  adminEmail : String
  adminFullName : String
  adminPassword : String

namespace AuthService

/-- `_DEFAULT_REGISTRATION_PLAN_FEATURES`; all of them are on. -/
def defaultRegistrationPlanFeatures : List String :=
  ["drone_fleet_management", "flight_telemetry", "battery_analytics", "work_order_management",
    "inspections_management", "compliance_management", "advanced_compliance_intelligence",
    "procurement_management", "ai_assistant", "predictive_maintenance"]

/-- The rows of the features of a new default plan. -/
def defaultFeatures (ids : RegistrationIds) : List PlanFeature :=
  defaultRegistrationPlanFeatures.zipIdx.map fun (featureKey, n) =>
    { id := ids.featureId n, planId := ids.planId, featureKey, enabled := true }

def getOrCreateDefaultPlan (db : Database) (ids : RegistrationIds) :
    Except Error (Database × Plan) := do
  match ← scalarOneOrNone (db.plans.select fun p => p.code = "DEFAULT_PLAN") with
  | some plan => pure (db, plan)
  | none => do
    let plan : Plan :=
      { id := ids.planId, code := "DEFAULT_PLAN", name := "Default Standard Plan", isActive := true }
    let plans ← addRow db.plans plan
    let planFeatures ← (defaultFeatures ids).foldlM addRow db.planFeatures
    pure ({ db with plans, planFeatures }, plan)

/-- `register_organization`, up to the tokens of the new administrator. -/
def registerOrganization (ctx : PasswordContext) (db : Database) (now : DateTime)
    (ids : RegistrationIds) (payload : RegisterOrganizationRequest) :
    Except Error (Database × User) := do
  let existing ← scalarOneOrNone (db.users.select fun u => u.email = payload.adminEmail)
  raiseIf existing.isSome (.conflict "A user with this email already exists")
  let org : Organization := { id := ids.organizationId, name := payload.organizationName }
  let organizations ← addRow db.organizations org
  let user : User := {
    id := ids.userId
    organizationId := org.id
    email := payload.adminEmail
    hashedPassword := ctx.hash ids.salt payload.adminPassword
    fullName := payload.adminFullName
    isActive := true }
  let users ← addRow db.users user
  let userRoles ← addRow db.userRoles ⟨user.id, "ORG_ADMIN", org.id⟩
  let (db, plan) ← getOrCreateDefaultPlan { db with organizations, users, userRoles } ids
  let subscriptions ← addRow db.subscriptions {
    id := ids.subscriptionId
    organizationId := org.id
    planId := plan.id
    status := .active
    startsAt := now - oneMinute }
  pure ((({ db with subscriptions }).recordAuditEvent org.id (some user.id) "organization.register"
    "Organization" (some org.id)).recordAuditEvent org.id (some user.id)
    "platform.subscription.created" "Subscription" (some ids.subscriptionId), user)

/-- The organization, where there is one, is neither suspended nor deletion-requested. -/
def requireLive (db : Database) (organizationId : UUID) : Except Error Unit :=
  match db.organizations.find? organizationId with
  | none => .ok ()
  | some org => do
    raiseIf (org.status = OrganizationStatus.suspended)
      (.unauthorized "This organization has been suspended")
    raiseIf org.deletedAt.isSome
      (.unauthorized "This organization has requested deletion and is pending review")

/-- `authenticate`, up to the tokens: the user and the roles they are issued for. -/
def authenticate (ctx : PasswordContext) (db : Database) (email password : String) :
    Except Error (Database × User × List String) := do
  match ← scalarOneOrNone (db.users.select fun u => u.email = email) with
  | none => .error (.unauthorized "Invalid email or password")
  | some user => do
    raiseIf (user.isActive = false ∨ ctx.verify password user.hashedPassword = false)
      (.unauthorized "Invalid email or password")
    requireLive db user.organizationId
    pure (recordUserEvent db user "auth.login", user, rolesForUser db user.id)

/-- `refresh_access_token`, up to the tokens. -/
def refreshAccessToken {Token : Type} (jwt : Jwt Token) (db : Database) (now : DateTime)
    (refreshToken : Token) : Except Error (User × List String) :=
  match jwt.decode now refreshToken with
  | none => .error (.unauthorized "Invalid or expired refresh token")
  | some payload => do
    raiseIf (payload.type ≠ "refresh") (.unauthorized "Token is not a refresh token")
    match db.users.find? payload.sub with
    | none => .error (.unauthorized "User no longer active")
    | some user => do
      raiseIf (user.isActive = false) (.unauthorized "User no longer active")
      requireLive db user.organizationId
      pure (user, rolesForUser db user.id)

end AuthService

namespace RestorationService

open TenantEntitlementAdminService (requireOrganization)

/-- `restore_organization`; the policy of organizations permits it. -/
def restoreOrganization (db : Database) (now : DateTime) (actorUserId : Option UUID)
    (organizationId : UUID) : Except Error Database := do
  let org ← requireOrganization db organizationId
  raiseIf org.deletedAt.isNone (.conflict "Organization is not currently deleted" "not_deleted")
  let restored := { org with
    deletedAt := none
    deletedBy := none
    deletionReason := none
    restoredAt := some now
    restoredBy := actorUserId }
  pure (({ db with organizations := db.organizations.save restored }).recordAuditEvent org.id
    actorUserId "organization.restored" "Organization" (some org.id))

end RestorationService

namespace Deps

open AuthService (requireLive)

def getCurrentUser {Token : Type} (jwt : Jwt Token) (db : Database) (now : DateTime)
    (credentials : Option Token) : Except Error CurrentUser :=
  match credentials with
  | none => .error (.unauthorized "Missing bearer token")
  | some token =>
    match jwt.decode now token with
    | none => .error (.unauthorized "Invalid or expired token")
    | some payload => do
      raiseIf (payload.type ≠ "access") (.unauthorized "Token is not an access token")
      requireLive db payload.organizationId
      pure {
        id := payload.sub
        organizationId := payload.organizationId
        email := payload.email
        fullName := payload.fullName
        roles := payload.roles
        emailVerified := payload.emailVerified
        pendingEmail := none }

/-- `require_permission`, of a user that `get_current_user` has answered. -/
def requirePermission (permission : Permission) (user : CurrentUser) : Except Error CurrentUser := do
  raiseIf (permission ∉ permissionsForRoles user.roles)
    (.forbidden ("Missing required permission: " ++ permission.value))
  pure user

end Deps
end AeroComply
