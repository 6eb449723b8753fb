import AeroComply.Services.Entitlement
import Mathlib.Order.ConditionallyCompleteLattice.Finset
import Mathlib.Data.Int.ConditionallyCompleteOrder

/-!
# LimitEnforcement — the ceilings of a plan

`app/services/limit_enforcement_service.py`: the limits on the assets and the
user seats of a tenant, and on the work orders of a calendar month.  A day is
counted from 1970-01-01, in UTC.

`checkCreation_eq_ok` says what the three checks have in common: a creation
passes exactly when what is in use is below the ceiling in force, and where no
plan is in force there is no ceiling.
-/

namespace AeroComply

namespace LimitEnforcementService

open EntitlementService (resolveEntitlements)

def getEffectiveLimit (db : Database) (organizationId : UUID) (now : DateTime)
    (limitKey : String) : Option UsageLimitConfiguration :=
  (resolveEntitlements db organizationId now).usageLimits.find? fun l => l.limitKey = limitKey

/-- The day of the month, in the Gregorian calendar. -/
def dayOfMonth (day : Int) : Int :=
  -- years start in March, so the leap day is the last one; 146097 days make 400 years
  let dayOfEra := (day + 719468) % 146097
  let yearOfEra :=
    (dayOfEra - dayOfEra / 1460 + dayOfEra / 36524 - dayOfEra / 146096) / 365
  let dayOfYear := dayOfEra - (365 * yearOfEra + yearOfEra / 4 - yearOfEra / 100)
  let month := (5 * dayOfYear + 2) / 153
  dayOfYear - (153 * month + 2) / 5 + 1

-- 2024-02-29, 2024-03-01, 1999-12-31
example : [19782, 19783, 10956].map dayOfMonth = [29, 1, 31] := by decide

/-- `datetime(now.year, now.month, 1, tzinfo=UTC)`. -/
def startOfMonth (now : DateTime) : DateTime :=
  let day := now / 86400000000
  (day - (dayOfMonth day - 1)) * 86400000000

def checkWorkOrderCreationLimit (db : Database) (organizationId : UUID) (now : DateTime) :
    Except Error Unit :=
  match getEffectiveLimit db organizationId now "monthly_work_orders" with
  | none => .ok ()
  | some limit =>
    match limit.isUnlimited, limit.limitValue with
    | false, some value =>
      let count := (db.workOrders.select fun w =>
        w.organizationId = organizationId && w.deletedAt.isNone &&
          startOfMonth now ≤ w.createdAt).length
      raiseIf (value ≤ count)
        (.aeroComply (s!"Monthly work order limit of {value} reached for this billing period "
          ++ s!"({count} created). Please upgrade your commercial plan to create additional "
          ++ "work orders.") "usage_limit_exceeded")
    | _, _ => .ok ()

/-- What the checks of a creation share: the limit is resolved, and what is in use is
counted against it. -/
def checkCreationLimit (db : Database) (organizationId : UUID) (now : DateTime)
    (limitKey : String) (currentCount : Nat) (message : Int → Nat → String) :
    Except Error Unit :=
  match getEffectiveLimit db organizationId now limitKey with
  | none => .ok ()
  | some limit =>
    match limit.isUnlimited, limit.limitValue with
    | false, some value =>
      raiseIf (value ≤ currentCount)
        (.aeroComply (message value currentCount) "usage_limit_exceeded")
    | _, _ => .ok ()

/-- The assets of the organization that are not soft-deleted. -/
def liveAssets (db : Database) (organizationId : UUID) : List Asset :=
  db.assets.select fun a => a.organizationId = organizationId && a.deletedAt.isNone

def checkAssetCreationLimit (db : Database) (organizationId : UUID) (now : DateTime) :
    Except Error Unit :=
  checkCreationLimit db organizationId now "max_assets" (liveAssets db organizationId).length
    fun value count =>
      s!"Asset limit of {value} reached for this organization ({count} active assets). " ++
      "Please upgrade your commercial plan to add more assets."

def checkUserCreationLimit (db : Database) (organizationId : UUID) (now : DateTime) :
    Except Error Unit :=
  checkCreationLimit db organizationId now "max_users"
    (db.users.select fun v => v.organizationId = organizationId && v.isActive).length
    fun value count =>
      s!"User seat limit of {value} reached for this organization ({count} active users). " ++
      "Please upgrade your commercial plan to invite more team members."

/-! ## The three checks as one -/

/-- What a plan puts a ceiling on when it is created. -/
inductive Creation
  | asset
  | user
  | workOrder
  deriving DecidableEq, Repr

namespace Creation

def limitKey : Creation → String
  | asset => "max_assets"
  | user => "max_users"
  | workOrder => "monthly_work_orders"

end Creation

/-- What counts against the ceiling. -/
def usageCount (db : Database) (organizationId : UUID) (now : DateTime) : Creation → Nat
  | .asset => (liveAssets db organizationId).length
  | .user => (db.users.select fun v => v.organizationId = organizationId && v.isActive).length
  | .workOrder =>
    (db.workOrders.select fun w =>
      w.organizationId = organizationId && w.deletedAt.isNone &&
        startOfMonth now ≤ w.createdAt).length

/-- The check that the creation passes. -/
def checkCreation (db : Database) (organizationId : UUID) (now : DateTime) :
    Creation → Except Error Unit
  | .asset => checkAssetCreationLimit db organizationId now
  | .user => checkUserCreationLimit db organizationId now
  | .workOrder => checkWorkOrderCreationLimit db organizationId now

section Ceilings

open EntitlementService (planInForce storedCeiling planLimitsOf usageLimitsOf effectiveCeiling
  effectiveCeiling_of_plan effectiveCeiling_of_no_plan)

variable {db : Database} {org : UUID} {now : DateTime}

/-- The ceiling that the stored rows set while a plan is in force, and none otherwise. -/
def ceilingInForce (db : Database) (organizationId : UUID) (now : DateTime) (limitKey : String) :
    WithTop Int :=
  match planInForce db organizationId now with
  | some plan =>
    storedCeiling (planLimitsOf db plan.id) (usageLimitsOf db organizationId) limitKey
  | none => ⊤

theorem effectiveCeiling_eq (limitKey : String) :
    effectiveCeiling (resolveEntitlements db org now) limitKey
      = ceilingInForce db org now limitKey := by
  rw [ceilingInForce]
  cases h : planInForce db org now with
  | some plan => exact effectiveCeiling_of_plan h limitKey
  | none => exact effectiveCeiling_of_no_plan h limitKey

theorem checkCreationLimit_eq_ok {limitKey : String} {count : Nat} {message : Int → Nat → String}
    {x : Unit} :
    checkCreationLimit db org now limitKey count message = .ok x ↔
      ((count : Int) : WithTop Int) < ceilingInForce db org now limitKey := by
  rw [checkCreationLimit, ← effectiveCeiling_eq, effectiveCeiling, getEffectiveLimit]
  have htop : ((count : Int) : WithTop Int) < ⊤ := WithTop.coe_lt_top _
  cases (resolveEntitlements db org now).usageLimits.find? fun l => l.limitKey = limitKey with
  | none => exact ⟨fun _ => htop, fun _ => rfl⟩
  | some limit =>
    obtain ⟨featureKey, limitKey, limitValue, isUnlimited⟩ := limit
    cases isUnlimited with
    | true => exact ⟨fun _ => htop, fun _ => rfl⟩
    | false =>
      cases limitValue with
      | none => exact ⟨fun _ => htop, fun _ => rfl⟩
      | some value =>
        show raiseIf (value ≤ count) _ = .ok x ↔ ((count : Int) : WithTop Int) < (value : WithTop Int)
        rw [raiseIf_eq_ok, not_le, WithTop.coe_lt_coe]

theorem checkWorkOrderCreationLimit_eq : checkWorkOrderCreationLimit db org now
    = checkCreationLimit db org now "monthly_work_orders" (usageCount db org now .workOrder)
        fun value count =>
          s!"Monthly work order limit of {value} reached for this billing period " ++
          s!"({count} created). Please upgrade your commercial plan to create additional " ++
          "work orders." := by
  rw [checkWorkOrderCreationLimit, checkCreationLimit]
  cases getEffectiveLimit db org now "monthly_work_orders" with
  | none => rfl
  | some limit =>
    obtain ⟨featureKey, limitKey, limitValue, isUnlimited⟩ := limit
    cases isUnlimited with
    | true => rfl
    | false =>
      cases limitValue with
      | none => rfl
      | some value => rfl

/-- **CHECKS**: a creation passes exactly when what is in use is below the ceiling in
force. -/
theorem checkCreation_eq_ok {creation : Creation} {x : Unit} :
    checkCreation db org now creation = .ok x ↔
      ((usageCount db org now creation : Int) : WithTop Int)
        < ceilingInForce db org now creation.limitKey := by
  cases creation with
  | asset =>
    rw [checkCreation, checkAssetCreationLimit, checkCreationLimit_eq_ok]
    rfl
  | user =>
    rw [checkCreation, checkUserCreationLimit, checkCreationLimit_eq_ok]
    rfl
  | workOrder =>
    rw [checkCreation, checkWorkOrderCreationLimit_eq, checkCreationLimit_eq_ok]
    rfl

end Ceilings

end LimitEnforcementService
end AeroComply
