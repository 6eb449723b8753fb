import AeroComply.Lib.Table
import AeroComply.Core.Base

/-!
# Organization — tenants, plans, subscriptions and entitlement rows

`app/models/organization.py`, `user.py`, `auth_verification.py`, `plan.py`,
`subscription.py`, `tenant_entitlement.py` and `approval_request.py`.
-/

namespace AeroComply

open Relational (Keyed)

namespace OrganizationStatus

def active : String := "ACTIVE"
def suspended : String := "SUSPENDED"

end OrganizationStatus

structure Organization where
  id : UUID
  name : String := ""
  status : String := OrganizationStatus.active
  deletedAt : Option DateTime := none
  deletedBy : Option UUID := none
  deletionReason : Option String := none
  restoredAt : Option DateTime := none
  restoredBy : Option UUID := none

structure User where
  id : UUID
  organizationId : UUID
  email : String := ""
  hashedPassword : String := ""
  fullName : String := ""
  isActive : Bool := true
  emailVerified : Bool := false
  pendingEmail : Option String := none
  deriving DecidableEq

/-- A user holds a role within their organization. -/
structure UserRole where
  userId : UUID
  roleName : String
  organizationId : UUID
  deriving DecidableEq

namespace VerificationPurpose

def emailVerification : String := "email_verification"
def passwordReset : String := "password_reset"
def accountOnboarding : String := "account_onboarding"
def emailChange : String := "email_change"

end VerificationPurpose

structure AuthVerificationCode where
  id : UUID
  userId : UUID
  purpose : String
  codeHash : String
  expiresAt : DateTime
  consumedAt : Option DateTime := none
  attempts : Nat := 0
  createdAt : DateTime
  deriving DecidableEq

structure Plan where
  id : UUID
  code : String
  name : String := ""
  isActive : Bool := true

structure PlanFeature where
  id : UUID
  planId : UUID
  featureKey : String
  enabled : Bool := true

structure PlanLimit where
  id : UUID
  planId : UUID
  limitKey : String
  limitValue : Option Int := none
  isUnlimited : Bool := false

inductive SubscriptionStatus
  | trialing
  | active
  | pastDue
  | canceled
  | scheduled
  deriving DecidableEq, Repr

namespace SubscriptionStatus

def value : SubscriptionStatus → String
  | .trialing => "TRIALING"
  | .active => "ACTIVE"
  | .pastDue => "PAST_DUE"
  | .canceled => "CANCELED"
  | .scheduled => "SCHEDULED"

/-- The status that a text names. -/
def ofText? (text : String) : Option SubscriptionStatus :=
  match text with
  | "TRIALING" => some .trialing
  | "ACTIVE" => some .active
  | "PAST_DUE" => some .pastDue
  | "CANCELED" => some .canceled
  | "SCHEDULED" => some .scheduled
  | _ => none

theorem ofText?_value (status : SubscriptionStatus) : ofText? status.value = some status := by
  cases status <;> rfl

end SubscriptionStatus

structure Subscription where
  id : UUID
  organizationId : UUID
  planId : UUID
  status : SubscriptionStatus
  startsAt : DateTime
  endsAt : Option DateTime := none

structure TenantFeatureOverride where
  id : UUID
  organizationId : UUID
  featureKey : String
  enabled : Bool
  reason : Option String := none
  createdByUserId : Option UUID := none
  expiresAt : Option DateTime := none
  deriving DecidableEq

structure TenantUsageLimit where
  id : UUID
  organizationId : UUID
  featureKey : String
  limitKey : String
  limitValue : Option Int := none
  isUnlimited : Bool := false
  deriving DecidableEq

inductive ApprovalRequestStatus
  | pending
  | approved
  | rejected
  | canceled
  deriving DecidableEq, Repr

def ApprovalRequestStatus.value : ApprovalRequestStatus → String
  | .pending => "PENDING"
  | .approved => "APPROVED"
  | .rejected => "REJECTED"
  | .canceled => "CANCELED"

namespace ApprovalRequestType

def featureOverrideExpansion : String := "feature_override_expansion"
def usageLimitExpansion : String := "usage_limit_expansion"

end ApprovalRequestType

structure ApprovalRequest where
  id : UUID
  organizationId : UUID
  requestType : String
  status : ApprovalRequestStatus := .pending
  featureKey : String
  requestedEnabled : Option Bool := none
  limitKey : Option String := none
  requestedLimitValue : Option Int := none
  requestedIsUnlimited : Option Bool := none
  reason : Option String := none
  requestedByUserId : Option UUID := none
  reviewedByUserId : Option UUID := none
  reviewedAt : Option DateTime := none
  decisionReason : Option String := none

instance : Keyed Organization UUID := ⟨Organization.id⟩
instance : Keyed User UUID := ⟨User.id⟩
instance : Keyed UserRole (UUID × String) := ⟨fun r => (r.userId, r.roleName)⟩
instance : Keyed AuthVerificationCode UUID := ⟨AuthVerificationCode.id⟩
instance : Keyed Plan UUID := ⟨Plan.id⟩
instance : Keyed PlanFeature UUID := ⟨PlanFeature.id⟩
instance : Keyed PlanLimit UUID := ⟨PlanLimit.id⟩
instance : Keyed Subscription UUID := ⟨Subscription.id⟩
instance : Keyed TenantFeatureOverride UUID := ⟨TenantFeatureOverride.id⟩
instance : Keyed TenantUsageLimit UUID := ⟨TenantUsageLimit.id⟩
instance : Keyed ApprovalRequest UUID := ⟨ApprovalRequest.id⟩

end AeroComply
