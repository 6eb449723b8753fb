import Mathlib.Order.ConditionallyCompleteLattice.Finset
import Mathlib.Data.Int.ConditionallyCompleteOrder
import AeroComply.Lib.Runs
import AeroComply.Services.TenantEntitlementAdmin

/-!
# EntitlementRuns — no expansion without the privilege

Histories of the six mutations of one organization, at a fixed evaluation time.
`NotMorePermissive` compares two databases by what the resolver answers; the
resolver's answer is read off the rows of each key, and each mutation changes
the rows of one key only.

`Narrows` is what a mutation must avoid: four of the six can widen an
entitlement without asking for PLATFORM_ENTITLEMENT_OVERRIDE, because the
removals, an update of the expiry alone and a first limit row are not classified
against what is in force.
-/

namespace AeroComply

open Relational (Table)

namespace EntitlementRuns

open EntitlementService TenantEntitlementAdminService

/-! ## Reading the resolver off the rows of one key -/

theorem find?_reverse_eq_getLast? {α : Type} (l : List α) (p : α → Bool) :
    l.reverse.find? p = (l.filter p).getLast? := by
  rw [← List.head?_filter, List.filter_reverse, List.head?_reverse]

/-- What the override rows of a feature key, or else the plan, say at `t`. -/
def settingFrom (planFeatures : List PlanFeature) (t : DateTime)
    (rows : List TenantFeatureOverride) (featureKey : String) : Bool :=
  match (rows.filter (isActiveOverride t)).getLast? with
  | some o => o.enabled
  | none => planEnables planFeatures featureKey

def planLists (planLimits : List PlanLimit) (limitKey : String) : Bool :=
  planLimits.any fun pl => pl.limitKey = limitKey

/-- The row in force among the tenant's rows for a limit key. -/
def rowInForce (listed : Bool) (rows : List TenantUsageLimit) : Option TenantUsageLimit :=
  if listed then rows.getLast? else rows.head?

/-- The ceiling a row sets. -/
def rowCeiling (tl : TenantUsageLimit) : WithTop Int := ceiling tl.limitValue tl.isUnlimited

/-- The ceiling of the row in force, or else the plan's. -/
def ceilingFrom (planLimits : List PlanLimit) (rows : List TenantUsageLimit)
    (limitKey : String) : WithTop Int :=
  match rowInForce (planLists planLimits limitKey) rows with
  | some tl => rowCeiling tl
  | none => planCeiling planLimits limitKey

section Reading

variable {db : Database} {org : UUID} {t : DateTime}

theorem storedFeature_eq_settingFrom (planFeatures : List PlanFeature) (featureKey : String) :
    storedFeature planFeatures ((overridesOf db org).filter (isActiveOverride t)) featureKey
      = settingFrom planFeatures t (overridesFor db org featureKey) featureKey := by
  have hrows : ((overridesOf db org).filter (isActiveOverride t)).filter
      (fun o => o.featureKey = featureKey)
      = (overridesFor db org featureKey).filter (isActiveOverride t) := by
    show ((db.featureOverrides.rows.filter _).filter _).filter _
      = (db.featureOverrides.rows.filter _).filter _
    rw [List.filter_filter, List.filter_filter, List.filter_filter]
    apply List.filter_congr
    intro o _
    simp only [Bool.and_comm, Bool.and_assoc]
  rw [storedFeature, find?_reverse_eq_getLast?, hrows]
  rfl

theorem storedCeiling_eq_ceilingFrom (planLimits : List PlanLimit) (limitKey : String) :
    storedCeiling planLimits (usageLimitsOf db org) limitKey
      = ceilingFrom planLimits (limitRows db org limitKey) limitKey := by
  have hrows : (usageLimitsOf db org).filter (fun tl => tl.limitKey = limitKey)
      = limitRows db org limitKey := by
    show (db.usageLimits.rows.filter _).filter _ = db.usageLimits.rows.filter _
    rw [List.filter_filter]
    apply List.filter_congr
    intro tl _
    exact Bool.and_comm _ _
  have hrow : tenantRowInForce planLimits (usageLimitsOf db org) limitKey
      = rowInForce (planLists planLimits limitKey) (limitRows db org limitKey) := by
    rw [tenantRowInForce, rowInForce, planLists, tenantOverride, find?_reverse_eq_getLast?,
      ← List.head?_filter, hrows]
  rw [storedCeiling, ceilingFrom, hrow]
  rfl

end Reading

/-! ## Comparing what two databases grant -/

/-- `db'` grants no feature and no headroom that `db` does not. -/
structure NotMorePermissive (org : UUID) (t : DateTime) (db db' : Database) : Prop where
  features : ∀ key, featureEnabled (resolveEntitlements db' org t) key = true →
    featureEnabled (resolveEntitlements db org t) key = true
  ceilings : ∀ key, effectiveCeiling (resolveEntitlements db' org t) key
    ≤ effectiveCeiling (resolveEntitlements db org t) key

theorem NotMorePermissive.refl (org : UUID) (t : DateTime) (db : Database) :
    NotMorePermissive org t db db :=
  ⟨fun _ h => h, fun _ => le_refl _⟩

theorem NotMorePermissive.trans {org : UUID} {t : DateTime} {db₁ db₂ db₃ : Database}
    (h : NotMorePermissive org t db₁ db₂) (h' : NotMorePermissive org t db₂ db₃) :
    NotMorePermissive org t db₁ db₃ :=
  ⟨fun key hk => h.features key (h'.features key hk),
   fun key => le_trans (h'.ceilings key) (h.ceilings key)⟩

section Comparing

variable {db db' : Database} {org : UUID} {t : DateTime} {featureKey limitKey : String}

theorem notMorePermissive_of_no_plan (hp : planInForce db org t = none)
    (hp' : planInForce db' org t = none) : NotMorePermissive org t db db' := by
  constructor
  · intro key hk
    rw [featureEnabled_of_no_plan hp'] at hk
    cases hk
  · intro key
    rw [effectiveCeiling_of_no_plan hp', effectiveCeiling_of_no_plan hp]

variable {rows : List TenantFeatureOverride}

theorem featureEnabled_of_edit {plan : Plan} (he : EditsOverrides db db' org featureKey rows)
    (hp : planInForce db org t = some plan) :
    featureEnabled (resolveEntitlements db' org t) featureKey
      = settingFrom (planFeaturesOf db plan.id) t rows featureKey := by
  rw [featureEnabled_of_plan ((he.planInForce_eq t).trans hp), he.planFeaturesOf_eq,
    storedFeature_eq_settingFrom, he.here]

theorem notMorePermissive_of_override (he : EditsOverrides db db' org featureKey rows)
    (hle : ∀ plan, planInForce db org t = some plan →
      settingFrom (planFeaturesOf db plan.id) t rows featureKey = true →
      settingFrom (planFeaturesOf db plan.id) t (overridesFor db org featureKey) featureKey
        = true) :
    NotMorePermissive org t db db' := by
  have hplan := he.planInForce_eq t
  cases hp : planInForce db org t with
  | none => exact notMorePermissive_of_no_plan hp (hplan.trans hp)
  | some plan =>
    have hp' : planInForce db' org t = some plan := hplan.trans hp
    constructor
    · intro key hk
      rw [featureEnabled_of_plan hp, storedFeature_eq_settingFrom]
      by_cases hkey : key = featureKey
      · subst hkey
        rw [featureEnabled_of_edit he hp] at hk
        exact hle plan hp hk
      · rw [featureEnabled_of_plan hp', he.planFeaturesOf_eq, storedFeature_eq_settingFrom,
          he.elsewhere key hkey] at hk
        exact hk
    · intro key
      rw [effectiveCeiling_of_plan hp', effectiveCeiling_of_plan hp, he.planLimitsOf_eq,
        he.usageLimitsOf_eq]

theorem notMorePermissive_of_limits {rows : List TenantUsageLimit}
    (he : EditsLimits db db' org limitKey rows)
    (hle : ∀ plan, planInForce db org t = some plan →
      ceilingFrom (planLimitsOf db plan.id) rows limitKey
        ≤ ceilingFrom (planLimitsOf db plan.id) (limitRows db org limitKey) limitKey) :
    NotMorePermissive org t db db' := by
  have hplan := he.planInForce_eq t
  cases hp : planInForce db org t with
  | none => exact notMorePermissive_of_no_plan hp (hplan.trans hp)
  | some plan =>
    have hp' : planInForce db' org t = some plan := hplan.trans hp
    constructor
    · intro key hk
      rw [featureEnabled_of_plan hp', he.planFeaturesOf_eq, he.overridesOf_eq] at hk
      rw [featureEnabled_of_plan hp]
      exact hk
    · intro key
      rw [effectiveCeiling_of_plan hp', effectiveCeiling_of_plan hp, he.planLimitsOf_eq,
        storedCeiling_eq_ceilingFrom, storedCeiling_eq_ceilingFrom]
      by_cases hkey : key = limitKey
      · subst hkey
        rw [he.here]
        exact hle plan hp
      · rw [he.elsewhere key hkey]

end Comparing

/-! ## The mutations as actions -/

inductive Action
  | createFeatureOverride (newId : UUID) (actor : Option UUID) (callerRoles : List String)
      (featureKey : String) (enabled : Bool) (reason : Option String)
      (expiresAt : Option DateTime)
  | updateFeatureOverride (actor : Option UUID) (callerRoles : List String)
      (featureKey : String) (enabled : Option Bool) (reason : Option String)
      (expiresAt : Option DateTime)
  | removeFeatureOverride (actor : Option UUID) (callerRoles : List String) (featureKey : String)
  | createUsageLimit (newId : UUID) (actor : Option UUID) (callerRoles : List String)
      (featureKey limitKey : String) (limitValue : Option Int) (isUnlimited : Bool)
  | updateUsageLimit (actor : Option UUID) (callerRoles : List String)
      (featureKey limitKey : String) (limitValue : Option Int) (isUnlimited : Option Bool)
  | removeUsageLimit (actor : Option UUID) (callerRoles : List String)
      (featureKey limitKey : String)

/-- One mutation of the organization at the evaluation time. -/
def step (org : UUID) (t : DateTime) (db : Database) : Action → Except Error Database
  | .createFeatureOverride newId actor roles featureKey enabled reason expiresAt =>
    (createFeatureOverride db t newId actor roles org featureKey enabled reason expiresAt).map
      Prod.fst
  | .updateFeatureOverride actor roles featureKey enabled reason expiresAt =>
    (updateFeatureOverride db t actor roles org featureKey enabled reason expiresAt).map Prod.fst
  | .removeFeatureOverride actor _ featureKey => removeFeatureOverride db actor org featureKey
  | .createUsageLimit newId actor roles featureKey limitKey limitValue isUnlimited =>
    (createUsageLimit db newId actor roles org featureKey limitKey limitValue isUnlimited).map
      Prod.fst
  | .updateUsageLimit actor roles featureKey limitKey limitValue isUnlimited =>
    (updateUsageLimit db actor roles org featureKey limitKey limitValue isUnlimited).map Prod.fst
  | .removeUsageLimit actor _ featureKey limitKey =>
    removeUsageLimit db actor org featureKey limitKey

def Action.callerRoles : Action → List String
  | .createFeatureOverride _ _ roles _ _ _ _ => roles
  | .updateFeatureOverride _ roles _ _ _ _ => roles
  | .removeFeatureOverride _ roles _ => roles
  | .createUsageLimit _ _ roles _ _ _ _ => roles
  | .updateUsageLimit _ roles _ _ _ _ => roles
  | .removeUsageLimit _ roles _ _ => roles

/-- The caller's roles do not grant PLATFORM_ENTITLEMENT_OVERRIDE. -/
def Unprivileged (a : Action) : Prop :=
  Permission.platformEntitlementOverride ∉ permissionsForRoles a.callerRoles

instance (a : Action) : Decidable (Unprivileged a) :=
  inferInstanceAs (Decidable (_ ∉ _))

/-- The override would be in force at `t` with the expiry an update gives it. -/
def activeWithExpiry (t : DateTime) (row : TenantFeatureOverride) (expiresAt : Option DateTime) :
    Bool :=
  isActiveOverride t { row with expiresAt := expiresAt.or row.expiresAt }

/-- What an update, a removal or a first limit row must avoid, given the plan in force. -/
def NarrowsUnder (org : UUID) (t : DateTime) (db : Database) (plan : Plan) : Action → Prop
  | .updateFeatureOverride _ _ featureKey enabled _ expiresAt =>
    ∀ row, overridesFor db org featureKey = [row] →
      -- it does not extend an expired grant of a feature the plan leaves off
      ¬(row.enabled = true ∧ enabled ≠ some false ∧ isActiveOverride t row = false ∧
        activeWithExpiry t row expiresAt = true ∧
        planEnables (planFeaturesOf db plan.id) featureKey = false) ∧
      -- it does not expire an active block of a feature the plan enables
      ¬(row.enabled = false ∧ enabled ≠ some true ∧ isActiveOverride t row = true ∧
        activeWithExpiry t row expiresAt = false ∧
        planEnables (planFeaturesOf db plan.id) featureKey = true)
  | .removeFeatureOverride _ _ featureKey =>
    -- it does not remove an active block of a feature the plan enables
    ∀ row, overridesFor db org featureKey = [row] →
      ¬(row.enabled = false ∧ isActiveOverride t row = true ∧
        planEnables (planFeaturesOf db plan.id) featureKey = true)
  | .createUsageLimit _ _ _ featureKey limitKey limitValue isUnlimited =>
    -- a first row for a key the plan lists is no higher than the ceiling in force
    usageLimitsFor db org featureKey limitKey = [] → isUnlimited = false →
      planLists (planLimitsOf db plan.id) limitKey = true →
      ceiling limitValue false
        ≤ ceilingFrom (planLimitsOf db plan.id) (limitRows db org limitKey) limitKey
  | .removeUsageLimit _ _ featureKey limitKey =>
    -- the row that is removed is not in force, or what takes its place is no higher
    ∀ row, usageLimitsFor db org featureKey limitKey = [row] →
      rowInForce (planLists (planLimitsOf db plan.id) limitKey) (limitRows db org limitKey)
        = some row →
      ceilingFrom (planLimitsOf db plan.id)
          ((limitRows db org limitKey).filter (fun x => !decide (x.id = row.id))) limitKey
        ≤ rowCeiling row
  | .createFeatureOverride .. | .updateUsageLimit .. => True

/-- The mutation avoids the unclassified expansions; with no plan in force there are none. -/
def Narrows (org : UUID) (t : DateTime) (db : Database) (a : Action) : Prop :=
  ∀ plan, planInForce db org t = some plan → NarrowsUnder org t db plan a

/-! ## One mutation -/

section Settings

variable {planFeatures : List PlanFeature} {t : DateTime} {featureKey : String}

theorem settingFrom_nil :
    settingFrom planFeatures t [] featureKey = planEnables planFeatures featureKey := rfl

theorem settingFrom_active {o : TenantFeatureOverride} (h : isActiveOverride t o = true) :
    settingFrom planFeatures t [o] featureKey = o.enabled := by
  rw [settingFrom, List.filter_cons_of_pos h]
  rfl

theorem settingFrom_expired {o : TenantFeatureOverride} (h : isActiveOverride t o = false) :
    settingFrom planFeatures t [o] featureKey = planEnables planFeatures featureKey := by
  rw [settingFrom, List.filter_cons_of_neg (by simp [h])]
  rfl

theorem updatedOverride_enabled (row : TenantFeatureOverride) (enabled : Option Bool)
    (reason : Option String) (expiresAt : Option DateTime) :
    (updatedOverride row enabled reason expiresAt).enabled = enabled.getD row.enabled :=
  changeOf_getD row.enabled enabled

theorem isActiveOverride_updated (row : TenantFeatureOverride) (enabled : Option Bool)
    (reason : Option String) (expiresAt : Option DateTime) :
    isActiveOverride t (updatedOverride row enabled reason expiresAt)
      = activeWithExpiry t row expiresAt := by
  have hexp : (updatedOverride row enabled reason expiresAt).expiresAt
      = expiresAt.or row.expiresAt :=
    changeOf_map_getD row.expiresAt expiresAt
  rw [isActiveOverride, hexp]
  rfl

end Settings

section Ceilings

variable {planLimits : List PlanLimit} {limitKey : String}

theorem planCeiling_of_not_listed (h : ¬planLists planLimits limitKey = true) :
    planCeiling planLimits limitKey = ⊤ := by
  have hnone : planLimits.reverse.find? (fun pl => pl.limitKey = limitKey) = none := by
    rw [List.find?_eq_none]
    intro pl hpl hkey
    exact h (List.any_eq_true.2 ⟨pl, List.mem_reverse.1 hpl, hkey⟩)
  rw [planCeiling, hnone]

variable {rows : List TenantUsageLimit} {listed : Bool}

theorem rowInForce_filter {r : TenantUsageLimit} {p : TenantUsageLimit → Bool}
    (h : rowInForce listed rows = some r) (hp : p r = true) :
    rowInForce listed (rows.filter p) = some r := by
  cases listed with
  | true =>
    obtain ⟨init, rfl⟩ := List.getLast?_eq_some_iff.1 h
    show ((init ++ [r]).filter p).getLast? = some r
    rw [List.filter_append, List.filter_cons_of_pos hp]
    simp
  | false =>
    obtain ⟨tl, rfl⟩ := List.head?_eq_some_iff.1 h
    show ((r :: tl).filter p).head? = some r
    rw [List.filter_cons_of_pos hp]
    rfl

theorem rowInForce_map (f : TenantUsageLimit → TenantUsageLimit) :
    rowInForce listed (rows.map f) = (rowInForce listed rows).map f := by
  cases listed with
  | true => exact List.getLast?_map
  | false => exact List.head?_map

theorem rowInForce_mem {r : TenantUsageLimit} (h : rowInForce listed rows = some r) : r ∈ rows := by
  cases listed with
  | true => exact List.mem_of_getLast? h
  | false => exact List.mem_of_head? h

theorem rowInForce_eq_none :
    rowInForce listed rows = none ↔ rows = [] := by
  cases listed with
  | true => exact List.getLast?_eq_none_iff
  | false => exact List.head?_eq_none_iff

theorem rowCeiling_updated_le {row : TenantUsageLimit} {limitValue : Option Int}
    {isUnlimited : Option Bool}
    (h : classifyUsageLimit row.limitValue row.isUnlimited (limitValue.or row.limitValue)
      (isUnlimited.getD row.isUnlimited) true = false) :
    rowCeiling (updatedUsageLimit row limitValue isUnlimited) ≤ rowCeiling row := by
  cases hu : row.isUnlimited with
  | true =>
    have htop : rowCeiling row = ⊤ := by
      rw [rowCeiling, hu]
      rfl
    rw [htop]
    exact le_top
  | false =>
    rw [hu] at h
    have hnot : isUnlimited.getD false = false := by
      cases hg : isUnlimited.getD false with
      | false => rfl
      | true =>
        rw [hg] at h
        cases h
    rw [hnot] at h
    have hnt : isUnlimited ≠ some true := by
      rintro rfl
      cases hnot
    have hunl : (updatedUsageLimit row limitValue isUnlimited).isUnlimited = false := by
      show (changeOf row.isUnlimited isUnlimited).getD row.isUnlimited = false
      rw [changeOf_getD, hu]
      exact hnot
    have hval : (updatedUsageLimit row limitValue isUnlimited).limitValue
        = limitValue.or row.limitValue := by
      show (if isUnlimited = some true then none
        else (changeOf row.limitValue (limitValue.map some)).getD row.limitValue) = _
      rw [if_neg hnt]
      exact changeOf_map_getD row.limitValue limitValue
    rw [rowCeiling, rowCeiling, hunl, hval, hu]
    cases hl : row.limitValue with
    | none => exact le_top
    | some current =>
      rw [hl] at h
      cases limitValue with
      | none => exact le_refl _
      | some v =>
        have hle : v ≤ current := not_lt.1 (of_decide_eq_false h)
        exact WithTop.coe_le_coe.2 hle

end Ceilings

section Steps

variable {org : UUID} {t : DateTime} {db db' : Database} {a : Action} {newId : UUID}
  {actor : Option UUID} {roles : List String} {featureKey limitKey : String}

theorem settingFrom_of_enabled {plan : Plan} (hp : planInForce db org t = some plan)
    (h : featureEnabled (resolveEntitlements db org t) featureKey = true) :
    settingFrom (planFeaturesOf db plan.id) t (overridesFor db org featureKey) featureKey
      = true := by
  rw [featureEnabled_of_plan hp, storedFeature_eq_settingFrom] at h
  exact h

variable {expiresAt : Option DateTime} {limitValue : Option Int} {reason : Option String}

theorem createFeatureOverride_notMorePermissive {enabled : Bool}
    (hun : Unprivileged
      (.createFeatureOverride newId actor roles featureKey enabled reason expiresAt))
    (h : step org t db
      (.createFeatureOverride newId actor roles featureKey enabled reason expiresAt) = .ok db') :
    NotMorePermissive org t db db' := by
  obtain ⟨row, h⟩ := map_fst_eq_ok h
  obtain ⟨hnone, hrow, hedit, hperm⟩ := createFeatureOverride_spec h
  refine notMorePermissive_of_override hedit (fun plan hp hset => ?_)
  cases hact : isActiveOverride t row with
  | true =>
    rw [settingFrom_active hact, hrow] at hset
    exact settingFrom_of_enabled hp (hperm hun hset)
  | false =>
    rw [settingFrom_expired hact] at hset
    rw [hnone]
    exact hset

theorem updateFeatureOverride_notMorePermissive {enabled : Option Bool}
    (hun : Unprivileged (.updateFeatureOverride actor roles featureKey enabled reason expiresAt))
    (hok : Narrows org t db
      (.updateFeatureOverride actor roles featureKey enabled reason expiresAt))
    (h : step org t db
      (.updateFeatureOverride actor roles featureKey enabled reason expiresAt) = .ok db') :
    NotMorePermissive org t db db' := by
  obtain ⟨row', h⟩ := map_fst_eq_ok h
  obtain ⟨row, hrows, hrow', hedit, hperm⟩ := updateFeatureOverride_spec h
  refine notMorePermissive_of_override hedit (fun plan hp hset => ?_)
  obtain ⟨hrevive, hlapse⟩ := hok plan hp row hrows
  rw [hrow'] at hset
  have hen := updatedOverride_enabled row enabled reason expiresAt
  have hexp : isActiveOverride t (updatedOverride row enabled reason expiresAt)
      = activeWithExpiry t row expiresAt := isActiveOverride_updated row enabled reason expiresAt
  cases hon : row.enabled with
  | true =>
    rw [hrows]
    cases hact : isActiveOverride t row with
    | true => rw [settingFrom_active hact, hon]
    | false =>
      -- the old row says nothing, so the plan has to enable the feature
      rw [settingFrom_expired hact]
      cases hact' : isActiveOverride t (updatedOverride row enabled reason expiresAt) with
      | false =>
        rw [settingFrom_expired hact'] at hset
        exact hset
      | true =>
        rw [settingFrom_active hact', hen] at hset
        have hne : enabled ≠ some false := by
          rintro rfl
          cases hset
        cases hpl : planEnables (planFeaturesOf db plan.id) featureKey with
        | true => rfl
        | false => exact absurd ⟨hon, hne, hact, hexp.symm.trans hact', hpl⟩ hrevive
  | false =>
    by_cases henabled : enabled = some true
    · exact settingFrom_of_enabled hp (hperm hun hon henabled)
    · have hoff : enabled.getD row.enabled = false := by
        rw [hon]
        match enabled, henabled with
        | none, _ => rfl
        | some false, _ => rfl
        | some true, hne => exact absurd rfl hne
      rw [hoff] at hen
      cases hact' : isActiveOverride t (updatedOverride row enabled reason expiresAt) with
      | true =>
        rw [settingFrom_active hact', hen] at hset
        cases hset
      | false =>
        rw [settingFrom_expired hact'] at hset
        rw [hrows]
        cases hact : isActiveOverride t row with
        | false =>
          rw [settingFrom_expired hact]
          exact hset
        | true => exact absurd ⟨hon, henabled, hact, hexp.symm.trans hact', hset⟩ hlapse

theorem removeFeatureOverride_notMorePermissive
    (hok : Narrows org t db (.removeFeatureOverride actor roles featureKey))
    (h : step org t db (.removeFeatureOverride actor roles featureKey) = .ok db') :
    NotMorePermissive org t db db' := by
  obtain ⟨row, hrows, hedit⟩ := removeFeatureOverride_spec h
  refine notMorePermissive_of_override hedit (fun plan hp hset => ?_)
  have hblock := hok plan hp row hrows
  rw [settingFrom_nil] at hset
  rw [hrows]
  cases hact : isActiveOverride t row with
  | false =>
    rw [settingFrom_expired hact]
    exact hset
  | true =>
    rw [settingFrom_active hact]
    cases hon : row.enabled with
    | true => rfl
    | false => exact absurd ⟨hon, hact, hset⟩ hblock

theorem createUsageLimit_notMorePermissive {isUnlimited : Bool}
    (hun : Unprivileged
      (.createUsageLimit newId actor roles featureKey limitKey limitValue isUnlimited))
    (hok : Narrows org t db
      (.createUsageLimit newId actor roles featureKey limitKey limitValue isUnlimited))
    (h : step org t db
      (.createUsageLimit newId actor roles featureKey limitKey limitValue isUnlimited) = .ok db') :
    NotMorePermissive org t db db' := by
  obtain ⟨row, h⟩ := map_fst_eq_ok h
  obtain ⟨hnone, hrow, hedit, hperm⟩ := createUsageLimit_spec h
  have hunl : isUnlimited = false := hperm hun
  refine notMorePermissive_of_limits hedit (fun plan hp => ?_)
  have hrc : rowCeiling row = ceiling limitValue false := by rw [hrow, hunl]; rfl
  cases hl : planLists (planLimitsOf db plan.id) limitKey with
  | true =>
    -- the plan lists the key, so the new row, the last one, is the one in force
    have hnew : ceilingFrom (planLimitsOf db plan.id) (limitRows db org limitKey ++ [row])
        limitKey = rowCeiling row := by
      rw [ceilingFrom, rowInForce, hl, if_pos rfl, List.getLast?_concat]
    rw [hnew, hrc]
    exact hok plan hp hnone hunl hl
  | false =>
    cases hrows : limitRows db org limitKey with
    | nil =>
      have htop : ceilingFrom (planLimitsOf db plan.id) [] limitKey = ⊤ := by
        rw [ceilingFrom, rowInForce_eq_none.2 rfl]
        exact planCeiling_of_not_listed (by rw [hl]; exact Bool.false_ne_true)
      rw [htop]
      exact le_top
    | cons first rest =>
      have hsame : ceilingFrom (planLimitsOf db plan.id) (first :: rest ++ [row]) limitKey
          = ceilingFrom (planLimitsOf db plan.id) (first :: rest) limitKey := by
        rw [ceilingFrom, ceilingFrom, hl]
        rfl
      rw [hsame]

theorem updateUsageLimit_notMorePermissive {isUnlimited : Option Bool}
    (hun : Unprivileged (.updateUsageLimit actor roles featureKey limitKey limitValue isUnlimited))
    (h : step org t db
      (.updateUsageLimit actor roles featureKey limitKey limitValue isUnlimited) = .ok db') :
    NotMorePermissive org t db db' := by
  obtain ⟨row', h⟩ := map_fst_eq_ok h
  obtain ⟨row, hrows, hrow', hedit, hperm⟩ := updateUsageLimit_spec h
  refine notMorePermissive_of_limits hedit (fun plan hp => ?_)
  have hle : rowCeiling row' ≤ rowCeiling row := by
    rw [hrow']
    exact rowCeiling_updated_le (hperm hun)
  have hmem := (mem_usageLimitsFor.1 (hrows ▸ List.mem_singleton_self row)).1
  rw [ceilingFrom, ceilingFrom, rowInForce_map]
  cases hf : rowInForce (planLists (planLimitsOf db plan.id) limitKey)
      (limitRows db org limitKey) with
  | none => exact le_refl _
  | some r =>
    show rowCeiling (if r.id = row.id then row' else r) ≤ rowCeiling r
    by_cases hid : r.id = row.id
    · have hr : r ∈ limitRows db org limitKey := rowInForce_mem hf
      have hrr : r = row := Table.eq_of_key_eq (mem_limitRows.1 hr).1 hmem hid
      rw [if_pos hid, hrr]
      exact hle
    · rw [if_neg hid]

theorem removeUsageLimit_notMorePermissive
    (hok : Narrows org t db (.removeUsageLimit actor roles featureKey limitKey))
    (h : step org t db (.removeUsageLimit actor roles featureKey limitKey) = .ok db') :
    NotMorePermissive org t db db' := by
  obtain ⟨row, hrows, hedit⟩ := removeUsageLimit_spec h
  refine notMorePermissive_of_limits hedit (fun plan hp => ?_)
  have hmem := (mem_usageLimitsFor.1 (hrows ▸ List.mem_singleton_self row)).1
  cases hf : rowInForce (planLists (planLimitsOf db plan.id) limitKey)
      (limitRows db org limitKey) with
  | none =>
    rw [rowInForce_eq_none] at hf
    rw [hf]
    exact le_refl _
  | some r =>
    have hr := (mem_limitRows.1 (rowInForce_mem hf)).1
    have hbefore : ceilingFrom (planLimitsOf db plan.id) (limitRows db org limitKey) limitKey
        = rowCeiling r := by rw [ceilingFrom, hf]
    rw [hbefore]
    by_cases hid : r.id = row.id
    · have hrr : r = row := Table.eq_of_key_eq hr hmem hid
      rw [hrr]
      exact hok plan hp row hrows (hrr ▸ hf)
    · have hkeep : (!decide (r.id = row.id)) = true := by simp [hid]
      have hstay : rowInForce (planLists (planLimitsOf db plan.id) limitKey)
          ((limitRows db org limitKey).filter (fun x => !decide (x.id = row.id))) = some r :=
        rowInForce_filter hf hkeep
      rw [ceilingFrom, hstay]

/-- **ONE MUTATION**: without the privilege, a mutation that narrows in the sense of
`Narrows` leaves the organization with no more than it had. -/
theorem step_notMorePermissive (hun : Unprivileged a) (hok : Narrows org t db a)
    (h : step org t db a = .ok db') : NotMorePermissive org t db db' := by
  cases a with
  | createFeatureOverride => exact createFeatureOverride_notMorePermissive hun h
  | updateFeatureOverride => exact updateFeatureOverride_notMorePermissive hun hok h
  | removeFeatureOverride => exact removeFeatureOverride_notMorePermissive hok h
  | createUsageLimit => exact createUsageLimit_notMorePermissive hun hok h
  | updateUsageLimit => exact updateUsageLimit_notMorePermissive hun h
  | removeUsageLimit => exact removeUsageLimit_notMorePermissive hok h

/-- **NO EXPANSION WITHOUT THE PRIVILEGE**: along a history of unprivileged mutations that
each narrow, every state grants no more than the first one. -/
theorem no_unprivileged_expansion (as : List Action)
    (hok : Runs.StepsMeet (step org t) (fun db a => Unprivileged a ∧ Narrows org t db a) db as) :
    ∀ db' ∈ Runs.visited (step org t) db as, NotMorePermissive org t db db' :=
  Runs.visited_preorder (fun db => NotMorePermissive.refl org t db)
    (fun _ _ _ h h' => h.trans h')
    (fun _ _ _ _ hok h => ⟨trivial, step_notMorePermissive hok.1 hok.2 h⟩)
    as db trivial hok

end Steps

/-- One organization on a plan that includes "ai", with the feature blocked for the tenant
and a granted feature "api" on top of the plan. -/
def blockedFeature : Database where
  organizations := .single { id := 1 }
  plans := .single { id := 2, code := "PRO" }
  planFeatures := .single { id := 3, planId := 2, featureKey := "ai" }
  subscriptions := .single
    { id := 4, organizationId := 1, planId := 2, status := .active, startsAt := 0 }
  featureOverrides := ⟨[{ id := 5, organizationId := 1, featureKey := "ai", enabled := false },
                        { id := 6, organizationId := 1, featureKey := "api", enabled := true }],
                       by decide⟩

/-- Platform staff, who cannot expand an entitlement, remove the block. -/
theorem unprivileged_removal_expands :
    ∃ a, Unprivileged a ∧
      ¬∀ db' ∈ Runs.visited (step 1 10) blockedFeature [a],
        NotMorePermissive 1 10 blockedFeature db' := by
  refine ⟨.removeFeatureOverride (some 9) ["PLATFORM_STAFF"] "ai", by decide, fun h => ?_⟩
  have hall := h _ (List.mem_cons_of_mem _ (List.mem_cons_self ..))
  exact absurd (hall.features "ai" (by decide)) (by decide)

/-- Removing a grant narrows. -/
theorem unprivileged_removal_of_grant :
    (Runs.visited (step 1 10) blockedFeature
      [.removeFeatureOverride (some 9) ["PLATFORM_STAFF"] "api"]).Forall
        (NotMorePermissive 1 10 blockedFeature) := by
  refine List.forall_iff_forall_mem.2 (no_unprivileged_expansion _
    ⟨⟨by decide, fun plan _ row hrow => ?_⟩, trivial⟩)
  rintro ⟨hoff, -, -⟩
  have hgrant : overridesFor blockedFeature 1 "api"
      = [{ id := 6, organizationId := 1, featureKey := "api", enabled := true }] := by decide
  rw [hgrant] at hrow
  cases hrow
  cases hoff

end EntitlementRuns
end AeroComply
