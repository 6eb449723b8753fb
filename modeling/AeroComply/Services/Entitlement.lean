import Mathlib.Data.List.Sort
import Mathlib.Order.WithBot
import AeroComply.Models.Database

/-!
# Entitlement — what a tenant is entitled to

`resolve_entitlements` of `app/services/entitlement_service.py`: the plan of the
one current subscription, with the tenant's own overrides and limits layered
over it.

The second half states what the two loops over the rows compute.  A feature is
what the last active override of it says, or else the plan; a limit key that the
plan lists has the ceiling of the tenant's last row for it, or else the plan's;
any other limit key has the ceiling of the tenant's first row, or none at all.
-/

namespace AeroComply

open Relational (Keyed Table)

/-- An entry of `effective_features`. -/
structure FeatureSetting where
  featureKey : String
  enabled : Bool

instance : Keyed FeatureSetting String := ⟨FeatureSetting.featureKey⟩

structure UsageLimitConfiguration where
  featureKey : String
  limitKey : String
  limitValue : Option Int
  isUnlimited : Bool

instance : Keyed UsageLimitConfiguration String := ⟨UsageLimitConfiguration.limitKey⟩

namespace EntitlementService

inductive EntitlementResolutionStatus
  | active
  | inactivePlan
  | suspended
  | noSubscription
  | ambiguous
  | invalid
  deriving DecidableEq, Repr

/-- The `reason` text, with the values it shows. -/
inductive ResolutionReason
  | organizationNotFound
  | organizationSuspended
  | organizationDeleted
  | noCurrentSubscription
  | multipleCurrentSubscriptions (ids : List UUID)
  | planNotFound (subscriptionId : UUID)
  | planInactive (planCode : String)
  | subscriptionCurrent (subscriptionId : UUID) (planCode : String)

structure EntitlementResolution where
  organizationId : UUID
  resolutionStatus : EntitlementResolutionStatus
  organizationStatus : String
  subscriptionId : Option UUID := none
  subscriptionStatus : Option SubscriptionStatus := none
  planId : Option UUID := none
  planCode : Option String := none
  effectiveFeatures : Table FeatureSetting := Table.empty
  usageLimits : List UsageLimitConfiguration := []
  reason : ResolutionReason

/-- `_CURRENT_GRANTING_STATUSES`. -/
def isGrantingStatus : SubscriptionStatus → Bool
  | .trialing | .active | .pastDue => true
  | .canceled | .scheduled => false

def isCurrent (asOf : DateTime) (sub : Subscription) : Bool :=
  isGrantingStatus sub.status && decide (sub.startsAt ≤ asOf) &&
    (match sub.endsAt with
      | none => true
      | some endsAt => decide (asOf < endsAt))

/-- The subscriptions the resolver chooses among. -/
def currentSubscriptions (db : Database) (organizationId : UUID) (asOf : DateTime) :
    List Subscription :=
  (db.subscriptions.select fun s =>
    s.organizationId = organizationId && isGrantingStatus s.status &&
      decide (s.startsAt ≤ asOf)).filter (isCurrent asOf)

/-- The override is in force at `asOf`. -/
def isActiveOverride (asOf : DateTime) (o : TenantFeatureOverride) : Bool :=
  match o.expiresAt with
  | none => true
  | some expiresAt => decide (asOf < expiresAt)

def planFeaturesOf (db : Database) (planId : UUID) : List PlanFeature :=
  db.planFeatures.select fun pf => pf.planId = planId

def planLimitsOf (db : Database) (planId : UUID) : List PlanLimit :=
  db.planLimits.select fun pl => pl.planId = planId

def overridesOf (db : Database) (organizationId : UUID) : List TenantFeatureOverride :=
  db.featureOverrides.select fun o => o.organizationId = organizationId

def usageLimitsOf (db : Database) (organizationId : UUID) : List TenantUsageLimit :=
  db.usageLimits.select fun tl => tl.organizationId = organizationId

/-- Plan features, then the active overrides written over them. -/
def effectiveFeaturesFrom (planFeatures : List PlanFeature)
    (activeOverrides : List TenantFeatureOverride) : Table FeatureSetting :=
  let fromPlan := (planFeatures.map fun pf => FeatureSetting.mk pf.featureKey pf.enabled).foldl
    Table.upsert Table.empty
  (activeOverrides.map fun o => FeatureSetting.mk o.featureKey o.enabled).foldl
    Table.upsert fromPlan

/-- The tenant's row for a limit key: `{row.limit_key: row for row in usage_limit_rows}`. -/
def tenantOverride (usageLimitRows : List TenantUsageLimit) (limitKey : String) :
    Option TenantUsageLimit :=
  usageLimitRows.reverse.find? fun tl => tl.limitKey = limitKey

def planEntry (usageLimitRows : List TenantUsageLimit) (pl : PlanLimit) :
    UsageLimitConfiguration :=
  match tenantOverride usageLimitRows pl.limitKey with
  | some tl => ⟨tl.featureKey, pl.limitKey, tl.limitValue, tl.isUnlimited⟩
  | none => ⟨pl.limitKey, pl.limitKey, pl.limitValue, pl.isUnlimited⟩

def tenantEntry (tl : TenantUsageLimit) : UsageLimitConfiguration :=
  ⟨tl.featureKey, tl.limitKey, tl.limitValue, tl.isUnlimited⟩

/-- `effective_limits_map`: the plan's keys, then the tenant's keys not yet there. -/
def effectiveLimitsFrom (planLimits : List PlanLimit) (usageLimitRows : List TenantUsageLimit) :
    Table UsageLimitConfiguration :=
  let fromPlan := (planLimits.map (planEntry usageLimitRows)).foldl Table.upsert Table.empty
  (usageLimitRows.map tenantEntry).foldl Table.insertNew fromPlan

/-- The sort key `(feature_key, limit_key)`. -/
def entryLe (r r' : UsageLimitConfiguration) : Prop :=
  r.featureKey < r'.featureKey ∨ (r.featureKey = r'.featureKey ∧ r.limitKey ≤ r'.limitKey)

instance (r r' : UsageLimitConfiguration) : Decidable (entryLe r r') :=
  inferInstanceAs (Decidable (_ ∨ (_ ∧ _)))

def resolveEntitlements (db : Database) (organizationId : UUID) (asOf : DateTime) :
    EntitlementResolution :=
  match db.organizations.find? organizationId with
  | none =>
    { organizationId, resolutionStatus := .invalid, organizationStatus := "UNKNOWN",
      reason := .organizationNotFound }
  | some organization =>
    if organization.status = OrganizationStatus.suspended then
      { organizationId, resolutionStatus := .suspended,
        organizationStatus := organization.status, reason := .organizationSuspended }
    else if organization.deletedAt.isSome then
      { organizationId, resolutionStatus := .suspended, organizationStatus := "DELETED",
        reason := .organizationDeleted }
    else
      match currentSubscriptions db organizationId asOf with
      | [] =>
        { organizationId, resolutionStatus := .noSubscription,
          organizationStatus := organization.status, reason := .noCurrentSubscription }
      | [subscription] =>
        match db.plans.find? subscription.planId with
        | none =>
          { organizationId, resolutionStatus := .invalid,
            organizationStatus := organization.status, subscriptionId := some subscription.id,
            subscriptionStatus := some subscription.status,
            planId := some subscription.planId, reason := .planNotFound subscription.id }
        | some plan =>
          { organizationId,
            resolutionStatus := if plan.isActive then .active else .inactivePlan
            organizationStatus := organization.status
            subscriptionId := some subscription.id
            subscriptionStatus := some subscription.status
            planId := some plan.id
            planCode := some plan.code
            effectiveFeatures := effectiveFeaturesFrom (planFeaturesOf db plan.id)
              ((overridesOf db organizationId).filter (isActiveOverride asOf))
            usageLimits := (effectiveLimitsFrom (planLimitsOf db plan.id)
              (usageLimitsOf db organizationId)).rows.insertionSort entryLe
            reason := if plan.isActive then .subscriptionCurrent subscription.id plan.code
              else .planInactive plan.code }
      | candidates =>
        { organizationId, resolutionStatus := .ambiguous,
          organizationStatus := organization.status,
          reason := .multipleCurrentSubscriptions (candidates.map Subscription.id) }

/-! ## The plan in force -/

/-- The plan whose features the tenant gets: the organization is neither suspended nor
deleted, and has exactly one current subscription, to a plan that exists. -/
def planInForce (db : Database) (organizationId : UUID) (asOf : DateTime) : Option Plan :=
  match db.organizations.find? organizationId with
  | none => none
  | some organization =>
    if organization.status = OrganizationStatus.suspended then none
    else if organization.deletedAt.isSome then none
    else
      match currentSubscriptions db organizationId asOf with
      | [subscription] => db.plans.find? subscription.planId
      | _ => none

variable {db : Database} {org : UUID} {t : DateTime}

theorem resolve_of_no_plan (h : planInForce db org t = none) :
    (resolveEntitlements db org t).effectiveFeatures = Table.empty ∧
      (resolveEntitlements db org t).usageLimits = [] := by
  simp only [planInForce, resolveEntitlements] at h ⊢
  cases ho : db.organizations.find? org with
  | none => exact ⟨rfl, rfl⟩
  | some organization =>
    rw [ho] at h
    dsimp only at h ⊢
    split at h
    · next hs =>
      rw [if_pos hs]
      exact ⟨rfl, rfl⟩
    · next hs =>
      rw [if_neg hs]
      split at h
      · next hd =>
        rw [if_pos hd]
        exact ⟨rfl, rfl⟩
      · next hd =>
        rw [if_neg hd]
        match hc : currentSubscriptions db org t with
        | [] => exact ⟨rfl, rfl⟩
        | [subscription] =>
          rw [hc] at h
          dsimp only at h ⊢
          rw [h]
          exact ⟨rfl, rfl⟩
        | _ :: _ :: _ => exact ⟨rfl, rfl⟩

theorem resolve_of_plan {plan : Plan} (h : planInForce db org t = some plan) :
    (resolveEntitlements db org t).effectiveFeatures
        = effectiveFeaturesFrom (planFeaturesOf db plan.id)
            ((overridesOf db org).filter (isActiveOverride t)) ∧
      (resolveEntitlements db org t).usageLimits
        = (effectiveLimitsFrom (planLimitsOf db plan.id)
            (usageLimitsOf db org)).rows.insertionSort entryLe := by
  simp only [planInForce, resolveEntitlements] at h ⊢
  cases ho : db.organizations.find? org with
  | none =>
    rw [ho] at h
    cases h
  | some organization =>
    rw [ho] at h
    dsimp only at h ⊢
    split at h
    · cases h
    · next hs =>
      rw [if_neg hs]
      split at h
      · cases h
      · next hd =>
        rw [if_neg hd]
        match hc : currentSubscriptions db org t with
        | [] =>
          rw [hc] at h
          cases h
        | [subscription] =>
          rw [hc] at h
          dsimp only at h ⊢
          rw [h]
          exact ⟨rfl, rfl⟩
        | _ :: _ :: _ =>
          rw [hc] at h
          cases h

/-! ## What the rows say -/

/-- `effective_features.get(feature_key, False)`. -/
def featureEnabled (r : EntitlementResolution) (featureKey : String) : Bool :=
  ((r.effectiveFeatures.find? featureKey).map FeatureSetting.enabled).getD false

/-- The plan's own setting of a feature. -/
def planEnables (planFeatures : List PlanFeature) (featureKey : String) : Bool :=
  ((planFeatures.reverse.find? fun pf => pf.featureKey = featureKey).map
    PlanFeature.enabled).getD false

/-- A feature is what its last active override says, or else the plan. -/
def storedFeature (planFeatures : List PlanFeature) (activeOverrides : List TenantFeatureOverride)
    (featureKey : String) : Bool :=
  match activeOverrides.reverse.find? fun o => o.featureKey = featureKey with
  | some o => o.enabled
  | none => planEnables planFeatures featureKey

/-- The ceiling a row sets; no value and `is_unlimited` both mean none. -/
def ceiling (limitValue : Option Int) (isUnlimited : Bool) : WithTop Int :=
  if isUnlimited then ⊤
  else match limitValue with
    | some value => (value : WithTop Int)
    | none => ⊤

/-- The effective ceiling of a limit key; a key that is not reported has none. -/
def effectiveCeiling (r : EntitlementResolution) (limitKey : String) : WithTop Int :=
  match r.usageLimits.find? fun c => c.limitKey = limitKey with
  | some c => ceiling c.limitValue c.isUnlimited
  | none => ⊤

/-- The row of the tenant that sets a limit key: the last one if the plan lists the key,
the first one otherwise. -/
def tenantRowInForce (planLimits : List PlanLimit) (rows : List TenantUsageLimit)
    (limitKey : String) : Option TenantUsageLimit :=
  if planLimits.any fun pl => pl.limitKey = limitKey then tenantOverride rows limitKey
  else rows.find? fun tl => tl.limitKey = limitKey

/-- The plan's own ceiling for a limit key. -/
def planCeiling (planLimits : List PlanLimit) (limitKey : String) : WithTop Int :=
  match planLimits.reverse.find? fun pl => pl.limitKey = limitKey with
  | some pl => ceiling pl.limitValue pl.isUnlimited
  | none => ⊤

/-- The ceiling the stored rows set for a limit key. -/
def storedCeiling (planLimits : List PlanLimit) (rows : List TenantUsageLimit)
    (limitKey : String) : WithTop Int :=
  match tenantRowInForce planLimits rows limitKey with
  | some tl => ceiling tl.limitValue tl.isUnlimited
  | none => planCeiling planLimits limitKey

theorem effectiveFeaturesFrom_find? (planFeatures : List PlanFeature)
    (activeOverrides : List TenantFeatureOverride) (featureKey : String) :
    (((effectiveFeaturesFrom planFeatures activeOverrides).find? featureKey).map
      FeatureSetting.enabled).getD false
      = storedFeature planFeatures activeOverrides featureKey := by
  rw [effectiveFeaturesFrom, Table.find?_foldl_upsert, Table.find?_foldl_upsert,
    ← List.map_reverse, ← List.map_reverse, List.find?_map, List.find?_map, storedFeature,
    planEnables]
  have hover : activeOverrides.reverse.find? (Table.hasKey featureKey ∘
      fun o => FeatureSetting.mk o.featureKey o.enabled)
      = activeOverrides.reverse.find? (fun o => o.featureKey = featureKey) := rfl
  have hplan : planFeatures.reverse.find? (Table.hasKey featureKey ∘
      fun pf => FeatureSetting.mk pf.featureKey pf.enabled)
      = planFeatures.reverse.find? (fun pf => pf.featureKey = featureKey) := rfl
  rw [hover, hplan]
  cases activeOverrides.reverse.find? (fun o => o.featureKey = featureKey) with
  | some o => rfl
  | none =>
    cases planFeatures.reverse.find? (fun pf => pf.featureKey = featureKey) with
    | some pf => rfl
    | none => rfl

theorem planEntry_limitKey (rows : List TenantUsageLimit) (pl : PlanLimit) :
    (planEntry rows pl).limitKey = pl.limitKey := by
  rw [planEntry]
  split
  · rfl
  · rfl

theorem effectiveLimitsFrom_entry (planLimits : List PlanLimit) (rows : List TenantUsageLimit)
    (limitKey : String) :
    (effectiveLimitsFrom planLimits rows).find? limitKey
      = ((planLimits.reverse.find? fun pl => pl.limitKey = limitKey).map (planEntry rows)).or
          ((rows.find? fun tl => tl.limitKey = limitKey).map tenantEntry) := by
  rw [effectiveLimitsFrom, Table.find?_foldl_insertNew, Table.find?_foldl_upsert,
    ← List.map_reverse, List.find?_map, List.find?_map]
  have hplan : planLimits.reverse.find? (Table.hasKey limitKey ∘ planEntry rows)
      = planLimits.reverse.find? (fun pl => pl.limitKey = limitKey) := by
    congr 1
    funext pl
    show decide ((planEntry rows pl).limitKey = limitKey) = _
    rw [planEntry_limitKey]
  have htenant : rows.find? (Table.hasKey limitKey ∘ tenantEntry)
      = rows.find? (fun tl => tl.limitKey = limitKey) := rfl
  rw [hplan, htenant]
  exact congrArg (Option.or · _) Option.or_none

theorem effectiveLimitsFrom_find? (planLimits : List PlanLimit) (rows : List TenantUsageLimit)
    (limitKey : String) :
    (match (effectiveLimitsFrom planLimits rows).find? limitKey with
      | some c => ceiling c.limitValue c.isUnlimited
      | none => ⊤) = storedCeiling planLimits rows limitKey := by
  rw [effectiveLimitsFrom_entry, storedCeiling, tenantRowInForce, planCeiling]
  cases hpl : planLimits.reverse.find? (fun pl => pl.limitKey = limitKey) with
  | some pl =>
    have hmem : pl ∈ planLimits := List.mem_reverse.1 (List.mem_of_find?_eq_some hpl)
    have hkey : pl.limitKey = limitKey := by simpa using List.find?_some hpl
    have hany : planLimits.any (fun pl => pl.limitKey = limitKey) = true :=
      List.any_eq_true.2 ⟨pl, hmem, decide_eq_true hkey⟩
    rw [if_pos hany]
    show ceiling (planEntry rows pl).limitValue (planEntry rows pl).isUnlimited = _
    rw [planEntry, hkey]
    cases tenantOverride rows limitKey with
    | some tl => rfl
    | none => rfl
  | none =>
    have hany : ¬planLimits.any (fun pl => pl.limitKey = limitKey) = true := by
      intro h
      obtain ⟨pl, hmem, hkey⟩ := List.any_eq_true.1 h
      exact List.find?_eq_none.1 hpl pl (List.mem_reverse.2 hmem) hkey
    rw [if_neg hany]
    cases rows.find? (fun tl => tl.limitKey = limitKey) with
    | some tl => rfl
    | none => rfl

/-- **FEATURES**: with a plan in force a feature is what the stored rows say. -/
theorem featureEnabled_of_plan {plan : Plan} (h : planInForce db org t = some plan)
    (featureKey : String) :
    featureEnabled (resolveEntitlements db org t) featureKey
      = storedFeature (planFeaturesOf db plan.id)
          ((overridesOf db org).filter (isActiveOverride t)) featureKey := by
  rw [featureEnabled, (resolve_of_plan h).1]
  exact effectiveFeaturesFrom_find? _ _ featureKey

/-- **CEILINGS**: with a plan in force a ceiling is what the stored rows say; the sorting
of the answer does not matter. -/
theorem effectiveCeiling_of_plan {plan : Plan} (h : planInForce db org t = some plan)
    (limitKey : String) :
    effectiveCeiling (resolveEntitlements db org t) limitKey
      = storedCeiling (planLimitsOf db plan.id) (usageLimitsOf db org) limitKey := by
  rw [effectiveCeiling, (resolve_of_plan h).2, ← effectiveLimitsFrom_find?]
  have hperm := List.perm_insertionSort entryLe
    (effectiveLimitsFrom (planLimitsOf db plan.id) (usageLimitsOf db org)).rows
  have hfind := Table.find?_perm hperm limitKey
  have hsame : ∀ l : List UsageLimitConfiguration,
      l.find? (fun c => c.limitKey = limitKey) = l.find? (Table.hasKey limitKey) := fun _ => rfl
  rw [hsame, hfind]

theorem featureEnabled_of_no_plan (h : planInForce db org t = none) (featureKey : String) :
    featureEnabled (resolveEntitlements db org t) featureKey = false := by
  rw [featureEnabled, (resolve_of_no_plan h).1]
  rfl

theorem effectiveCeiling_of_no_plan (h : planInForce db org t = none) (limitKey : String) :
    effectiveCeiling (resolveEntitlements db org t) limitKey = ⊤ := by
  rw [effectiveCeiling, (resolve_of_no_plan h).2]
  rfl

end EntitlementService
end AeroComply
