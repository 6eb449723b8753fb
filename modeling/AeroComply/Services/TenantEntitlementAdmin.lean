import AeroComply.Core.Permissions
import AeroComply.Services.Entitlement

/-!
# TenantEntitlementAdmin — the mutations of a tenant's overrides and limits

`app/services/tenant_entitlement_admin_service.py`.  A mutation that the
classifier calls expansive needs PLATFORM_ENTITLEMENT_OVERRIDE; the two removals
are never classified.  `now` is the clock the classifier reads.
-/

namespace AeroComply

open Relational (Table)

namespace TenantEntitlementAdminService

open EntitlementService

def requireExpansionPermissionIfNeeded (isExpansive : Bool) (callerRoles : List String) :
    Except Error Unit :=
  raiseIf (isExpansive = true ∧
      Permission.platformEntitlementOverride ∉ permissionsForRoles callerRoles)
    (.forbidden ("Missing required permission: " ++ Permission.platformEntitlementOverride.value
      ++ " for entitlement-expansion operation"))

def classifyFeatureOverride (db : Database) (now : DateTime) (organizationId : UUID)
    (featureKey : String) (proposedEnabled : Bool) : Bool :=
  if proposedEnabled = false then false
  else !featureEnabled (resolveEntitlements db organizationId now) featureKey

def classifyUsageLimit (currentLimitValue : Option Int) (currentIsUnlimited : Bool)
    (proposedLimitValue : Option Int) (proposedIsUnlimited hasExistingRow : Bool) : Bool :=
  if proposedIsUnlimited && !currentIsUnlimited then true
  else if currentIsUnlimited then false
  else if !hasExistingRow then false
  else match proposedLimitValue, currentLimitValue with
    | some proposed, some current => decide (current < proposed)
    | _, _ => false

/-- `db.get(Organization, organization_id)` or an error. -/
def requireOrganization (db : Database) (organizationId : UUID) : Except Error Organization :=
  match db.organizations.find? organizationId with
  | some organization => .ok organization
  | none => .error (.notFound "Organization not found")

/-- `given is not None and given != stored`: the value that replaces the stored one. -/
def changeOf {α : Type} [DecidableEq α] (stored : α) : Option α → Option α
  | some given => if given = stored then none else some given
  | none => none

theorem changeOf_getD {α : Type} [DecidableEq α] (stored : α) (given : Option α) :
    (changeOf stored given).getD stored = given.getD stored := by
  cases given with
  | none => rfl
  | some x =>
    by_cases hx : x = stored
    · rw [changeOf, if_pos hx]
      exact hx.symm
    · rw [changeOf, if_neg hx]

theorem changeOf_map_getD {α : Type} [DecidableEq α] (stored given : Option α) :
    (changeOf stored (given.map some)).getD stored = given.or stored := by
  rw [changeOf_getD]
  cases given with
  | none => rfl
  | some x => rfl

/-! ## Tenant feature overrides -/

/-- The rows of a feature key of the tenant. -/
def overridesFor (db : Database) (organizationId : UUID) (featureKey : String) :
    List TenantFeatureOverride :=
  db.featureOverrides.select fun o =>
    o.organizationId = organizationId && o.featureKey = featureKey

def getOverride (db : Database) (organizationId : UUID) (featureKey : String) :
    Except Error TenantFeatureOverride :=
  oneOrRaise (overridesFor db organizationId featureKey)
    (.notFound "Tenant feature override not found")

/-- The error for a second override of one feature. -/
def duplicateOverride (featureKey : String) : Error :=
  .conflict ("An override for feature " ++ pyRepr featureKey
    ++ " already exists on this organization") "duplicate_feature_override"

/-- `create_feature_override`; `newId` is the identifier the server generates. -/
def createFeatureOverride (db : Database) (now : DateTime) (newId : UUID)
    (actorUserId : Option UUID) (callerRoles : List String) (organizationId : UUID)
    (featureKey : String) (enabled : Bool) (reason : Option String)
    (expiresAt : Option DateTime) : Except Error (Database × TenantFeatureOverride) := do
  let _ ← requireOrganization db organizationId
  requireExpansionPermissionIfNeeded
    (classifyFeatureOverride db now organizationId featureKey enabled) callerRoles
  let existing ← scalarOneOrNone (overridesFor db organizationId featureKey)
  raiseIf (existing.isSome = true) (duplicateOverride featureKey)
  let row : TenantFeatureOverride :=
    { id := newId, organizationId, featureKey, enabled, reason,
      createdByUserId := actorUserId, expiresAt }
  let featureOverrides ← addRowOrRaise db.featureOverrides row (duplicateOverride featureKey)
  pure (({ db with featureOverrides }).recordAuditEvent organizationId actorUserId
    "platform.tenant_feature_override.created" "TenantFeatureOverride" (some newId), row)

/-- The row after the fields that were given and differ are written. -/
def updatedOverride (row : TenantFeatureOverride) (enabled : Option Bool)
    (reason : Option String) (expiresAt : Option DateTime) : TenantFeatureOverride :=
  { row with
    enabled := (changeOf row.enabled enabled).getD row.enabled
    reason := (changeOf row.reason (reason.map some)).getD row.reason
    expiresAt := (changeOf row.expiresAt (expiresAt.map some)).getD row.expiresAt }

/-- The permission check of an update: only a change of `enabled` is classified. -/
def requirePermissionForChange (db : Database) (now : DateTime) (callerRoles : List String)
    (organizationId : UUID) (featureKey : String) : Option Bool → Except Error Unit
  | some proposed => requireExpansionPermissionIfNeeded
      (classifyFeatureOverride db now organizationId featureKey proposed) callerRoles
  | none => .ok ()

def updateFeatureOverride (db : Database) (now : DateTime) (actorUserId : Option UUID)
    (callerRoles : List String) (organizationId : UUID) (featureKey : String)
    (enabled : Option Bool) (reason : Option String) (expiresAt : Option DateTime) :
    Except Error (Database × TenantFeatureOverride) := do
  let row ← getOverride db organizationId featureKey
  requirePermissionForChange db now callerRoles organizationId featureKey
    (changeOf row.enabled enabled)
  let row' := updatedOverride row enabled reason expiresAt
  let db' := { db with featureOverrides := db.featureOverrides.save row' }
  -- nothing is logged when no field changed
  if row' = row then pure (db', row')
  else pure (db'.recordAuditEvent organizationId actorUserId
    "platform.tenant_feature_override.updated" "TenantFeatureOverride" (some row.id), row')

def removeFeatureOverride (db : Database) (actorUserId : Option UUID) (organizationId : UUID)
    (featureKey : String) : Except Error Database := do
  let row ← getOverride db organizationId featureKey
  pure (({ db with featureOverrides :=
      db.featureOverrides.deleteWhere fun o => o.id = row.id }).recordAuditEvent organizationId
    actorUserId "platform.tenant_feature_override.removed" "TenantFeatureOverride" (some row.id))

/-! ## Tenant usage limits -/

/-- The rows of a feature key and limit key of the tenant. -/
def usageLimitsFor (db : Database) (organizationId : UUID) (featureKey limitKey : String) :
    List TenantUsageLimit :=
  db.usageLimits.select fun tl =>
    tl.organizationId = organizationId && tl.featureKey = featureKey && tl.limitKey = limitKey

def getUsageLimit (db : Database) (organizationId : UUID) (featureKey limitKey : String) :
    Except Error TenantUsageLimit :=
  oneOrRaise (usageLimitsFor db organizationId featureKey limitKey)
    (.notFound "Tenant usage limit not found")

/-- The error for a second row of one feature key and limit key. -/
def duplicateLimit (featureKey limitKey : String) : Error :=
  .conflict ("A usage limit for (" ++ pyRepr featureKey ++ ", " ++ pyRepr limitKey
    ++ ") already exists") "duplicate_usage_limit"

def createUsageLimit (db : Database) (newId : UUID) (actorUserId : Option UUID)
    (callerRoles : List String) (organizationId : UUID) (featureKey limitKey : String)
    (limitValue : Option Int) (isUnlimited : Bool) :
    Except Error (Database × TenantUsageLimit) := do
  let _ ← requireOrganization db organizationId
  requireExpansionPermissionIfNeeded
    (classifyUsageLimit none false limitValue isUnlimited false) callerRoles
  let existing ← scalarOneOrNone (usageLimitsFor db organizationId featureKey limitKey)
  raiseIf (existing.isSome = true) (duplicateLimit featureKey limitKey)
  let row : TenantUsageLimit :=
    { id := newId, organizationId, featureKey, limitKey,
      limitValue := if isUnlimited then none else limitValue, isUnlimited }
  let usageLimits ← addRowOrRaise db.usageLimits row (duplicateLimit featureKey limitKey)
  pure (({ db with usageLimits }).recordAuditEvent organizationId actorUserId
    "platform.tenant_usage_limit.created" "TenantUsageLimit" (some newId), row)

/-- The row after an update: `is_unlimited=True` clears the value. -/
def updatedUsageLimit (row : TenantUsageLimit) (limitValue : Option Int)
    (isUnlimited : Option Bool) : TenantUsageLimit :=
  { row with
    isUnlimited := (changeOf row.isUnlimited isUnlimited).getD row.isUnlimited
    limitValue :=
      if isUnlimited = some true then none
      else (changeOf row.limitValue (limitValue.map some)).getD row.limitValue }

def updateUsageLimit (db : Database) (actorUserId : Option UUID) (callerRoles : List String)
    (organizationId : UUID) (featureKey limitKey : String) (limitValue : Option Int)
    (isUnlimited : Option Bool) : Except Error (Database × TenantUsageLimit) := do
  let row ← getUsageLimit db organizationId featureKey limitKey
  let proposedIsUnlimited := isUnlimited.getD row.isUnlimited
  let proposedLimitValue := limitValue.or row.limitValue
  requireExpansionPermissionIfNeeded
    (classifyUsageLimit row.limitValue row.isUnlimited proposedLimitValue proposedIsUnlimited
      true) callerRoles
  let row' := updatedUsageLimit row limitValue isUnlimited
  let db' := { db with usageLimits := db.usageLimits.save row' }
  if row' = row then pure (db', row')
  else pure (db'.recordAuditEvent organizationId actorUserId
    "platform.tenant_usage_limit.updated" "TenantUsageLimit" (some row.id), row')

def removeUsageLimit (db : Database) (actorUserId : Option UUID) (organizationId : UUID)
    (featureKey limitKey : String) : Except Error Database := do
  let row ← getUsageLimit db organizationId featureKey limitKey
  pure (({ db with usageLimits :=
      db.usageLimits.deleteWhere fun tl => tl.id = row.id }).recordAuditEvent organizationId
    actorUserId "platform.tenant_usage_limit.removed" "TenantUsageLimit" (some row.id))

/-! ## What each mutation leaves behind -/

/-- `db'` is `db` with the override rows of one feature key replaced by `rows`. -/
structure EditsOverrides (db db' : Database) (org : UUID) (featureKey : String)
    (rows : List TenantFeatureOverride) : Prop where
  frame : ∃ featureOverrides auditEvents, db' = { db with featureOverrides, auditEvents }
  here : overridesFor db' org featureKey = rows
  elsewhere : ∀ key, key ≠ featureKey → overridesFor db' org key = overridesFor db org key

/-- The tenant's rows for a limit key, over all feature keys. -/
def limitRows (db : Database) (org : UUID) (limitKey : String) : List TenantUsageLimit :=
  db.usageLimits.select fun tl => tl.organizationId = org && tl.limitKey = limitKey

/-- `db'` is `db` with the limit rows of one limit key replaced by `rows`. -/
structure EditsLimits (db db' : Database) (org : UUID) (limitKey : String)
    (rows : List TenantUsageLimit) : Prop where
  frame : ∃ usageLimits auditEvents, db' = { db with usageLimits, auditEvents }
  here : limitRows db' org limitKey = rows
  elsewhere : ∀ key, key ≠ limitKey → limitRows db' org key = limitRows db org key

section Frames

variable {db db' : Database} {org : UUID} {featureKey limitKey : String}
  {overrideRows : List TenantFeatureOverride} {limitRows' : List TenantUsageLimit}

theorem EditsOverrides.planInForce_eq (he : EditsOverrides db db' org featureKey overrideRows)
    (t : DateTime) : planInForce db' org t = planInForce db org t := by
  obtain ⟨⟨_, _, rfl⟩, _, _⟩ := he
  rfl

theorem EditsOverrides.planFeaturesOf_eq (he : EditsOverrides db db' org featureKey overrideRows)
    (planId : UUID) : planFeaturesOf db' planId = planFeaturesOf db planId := by
  obtain ⟨⟨_, _, rfl⟩, _, _⟩ := he
  rfl

theorem EditsOverrides.planLimitsOf_eq (he : EditsOverrides db db' org featureKey overrideRows)
    (planId : UUID) : planLimitsOf db' planId = planLimitsOf db planId := by
  obtain ⟨⟨_, _, rfl⟩, _, _⟩ := he
  rfl

theorem EditsOverrides.usageLimitsOf_eq (he : EditsOverrides db db' org featureKey overrideRows) :
    usageLimitsOf db' org = usageLimitsOf db org := by
  obtain ⟨⟨_, _, rfl⟩, _, _⟩ := he
  rfl

theorem EditsLimits.planInForce_eq (he : EditsLimits db db' org limitKey limitRows')
    (t : DateTime) : planInForce db' org t = planInForce db org t := by
  obtain ⟨⟨_, _, rfl⟩, _, _⟩ := he
  rfl

theorem EditsLimits.planFeaturesOf_eq (he : EditsLimits db db' org limitKey limitRows')
    (planId : UUID) : planFeaturesOf db' planId = planFeaturesOf db planId := by
  obtain ⟨⟨_, _, rfl⟩, _, _⟩ := he
  rfl

theorem EditsLimits.planLimitsOf_eq (he : EditsLimits db db' org limitKey limitRows')
    (planId : UUID) : planLimitsOf db' planId = planLimitsOf db planId := by
  obtain ⟨⟨_, _, rfl⟩, _, _⟩ := he
  rfl

theorem EditsLimits.overridesOf_eq (he : EditsLimits db db' org limitKey limitRows') :
    overridesOf db' org = overridesOf db org := by
  obtain ⟨⟨_, _, rfl⟩, _, _⟩ := he
  rfl

end Frames

theorem requireExpansion_eq_ok {isExpansive : Bool} {callerRoles : List String} {x : Unit} :
    requireExpansionPermissionIfNeeded isExpansive callerRoles = .ok x ↔
      (Permission.platformEntitlementOverride ∉ permissionsForRoles callerRoles →
        isExpansive = false) := by
  rw [requireExpansionPermissionIfNeeded, raiseIf_eq_ok]
  constructor
  · intro h hp
    exact Bool.eq_false_iff.2 (fun he => h ⟨he, hp⟩)
  · rintro h ⟨he, hp⟩
    rw [h hp] at he
    cases he

theorem classifyFeatureOverride_eq_false {db : Database} {now : DateTime} {org : UUID}
    {featureKey : String} {proposed : Bool} :
    classifyFeatureOverride db now org featureKey proposed = false ↔
      (proposed = true → featureEnabled (resolveEntitlements db org now) featureKey = true) := by
  rw [classifyFeatureOverride]
  cases proposed with
  | false => exact iff_of_true rfl (fun h => nomatch h)
  | true =>
    show (!_) = false ↔ (true = true → _)
    rw [Bool.not_eq_false']
    exact ⟨fun h _ => h, fun h => h rfl⟩

section Specs

variable {db db' : Database} {now : DateTime} {newId : UUID} {actor : Option UUID}
  {roles : List String} {org : UUID} {featureKey limitKey : String}

variable {row : TenantFeatureOverride} {expiresAt : Option DateTime} {limitValue : Option Int}
  {reason : Option String}

theorem createFeatureOverride_spec {enabled : Bool}
    (h : createFeatureOverride db now newId actor roles org featureKey enabled reason expiresAt
      = .ok (db', row)) :
    overridesFor db org featureKey = [] ∧
    row = { id := newId, organizationId := org, featureKey, enabled, reason,
            createdByUserId := actor, expiresAt } ∧
    EditsOverrides db db' org featureKey [row] ∧
    (Permission.platformEntitlementOverride ∉ permissionsForRoles roles → enabled = true →
      featureEnabled (resolveEntitlements db org now) featureKey = true) := by
  obtain ⟨_, _, h⟩ := bind_eq_ok.1 h
  obtain ⟨_, hperm, h⟩ := bind_eq_ok.1 h
  obtain ⟨existing, hex, h⟩ := bind_eq_ok.1 h
  obtain ⟨_, hraise, h⟩ := bind_eq_ok.1 h
  obtain ⟨overrides, hadd, h⟩ := bind_eq_ok.1 h
  rw [pure_eq_ok] at h
  obtain ⟨rfl, rfl⟩ := Prod.mk.inj h
  have hins := addRowOrRaise_eq_ok.1 hadd
  have hnone : overridesFor db org featureKey = [] := by
    cases existing with
    | none => exact scalarOneOrNone_eq_none hex
    | some o => exact absurd rfl (raiseIf_eq_ok.1 hraise)
  refine ⟨hnone, rfl, ⟨⟨overrides, _, rfl⟩, ?_, ?_⟩, ?_⟩
  · show overrides.select _ = _
    rw [Table.select_insert? hins]
    show overridesFor db org featureKey ++ _ = _
    rw [hnone]
    simp
  · intro key hkey
    show overrides.select _ = _
    rw [Table.select_insert? hins]
    have hne : featureKey ≠ key := fun he => hkey he.symm
    simp [overridesFor, hne]
  · intro hp
    exact classifyFeatureOverride_eq_false.1 (requireExpansion_eq_ok.1 hperm hp)

theorem getOverride_eq_ok :
    getOverride db org featureKey = .ok row ↔ overridesFor db org featureKey = [row] :=
  oneOrRaise_eq_ok

theorem mem_overridesFor :
    row ∈ overridesFor db org featureKey ↔
      row ∈ db.featureOverrides.rows ∧ row.organizationId = org ∧ row.featureKey = featureKey := by
  simp [overridesFor, Table.mem_select]

theorem updateFeatureOverride_spec {enabled : Option Bool} {row' : TenantFeatureOverride}
    (h : updateFeatureOverride db now actor roles org featureKey enabled reason expiresAt
      = .ok (db', row')) :
    ∃ row, overridesFor db org featureKey = [row] ∧
      row' = updatedOverride row enabled reason expiresAt ∧
      EditsOverrides db db' org featureKey [row'] ∧
      (Permission.platformEntitlementOverride ∉ permissionsForRoles roles →
        row.enabled = false → enabled = some true →
        featureEnabled (resolveEntitlements db org now) featureKey = true) := by
  obtain ⟨row, hget, h⟩ := bind_eq_ok.1 h
  obtain ⟨_, hperm, h⟩ := bind_eq_ok.1 h
  have hrows := getOverride_eq_ok.1 hget
  obtain ⟨hmem, horg, hkey⟩ := mem_overridesFor.1 (hrows ▸ List.mem_singleton_self row)
  -- both branches write the row; they differ in the audit log only
  have hdb : ∃ log, db' = { db with
      featureOverrides := db.featureOverrides.save (updatedOverride row enabled reason expiresAt),
      auditEvents := log } ∧ row' = updatedOverride row enabled reason expiresAt := by
    dsimp only at h
    split at h
    · rw [pure_eq_ok] at h
      obtain ⟨rfl, rfl⟩ := Prod.mk.inj h
      exact ⟨_, rfl, rfl⟩
    · rw [pure_eq_ok] at h
      obtain ⟨rfl, rfl⟩ := Prod.mk.inj h
      exact ⟨_, rfl, rfl⟩
  obtain ⟨log, rfl, rfl⟩ := hdb
  have hsame : ∀ x ∈ db.featureOverrides.rows, x.id = row.id → x = row :=
    fun x hx hid => Table.eq_of_key_eq hx hmem hid
  refine ⟨row, hrows, rfl, ⟨⟨_, _, rfl⟩, ?_, ?_⟩, ?_⟩
  · show (db.featureOverrides.save _).select _ = _
    rw [Table.select_save]
    · show (overridesFor db org featureKey).map _ = _
      rw [hrows]
      exact congrArg (fun x => [x]) (if_pos rfl)
    · intro x hx hid
      rw [hsame x hx hid]
      rfl
  · intro key hne
    have hout : (decide (row.organizationId = org) && decide (row.featureKey = key)) = false := by
      have hk : ¬row.featureKey = key := fun he => hne (he.symm.trans hkey)
      rw [decide_eq_false hk, Bool.and_false]
    refine Table.select_save_of_not hout ?_
    intro x hx hid
    rw [hsame x hx hid]
    exact hout
  · intro hp hfalse henabled
    rw [henabled, hfalse] at hperm
    exact classifyFeatureOverride_eq_false.1 (requireExpansion_eq_ok.1 hperm hp) rfl

theorem removeFeatureOverride_spec (h : removeFeatureOverride db actor org featureKey = .ok db') :
    ∃ row, overridesFor db org featureKey = [row] ∧ EditsOverrides db db' org featureKey [] := by
  obtain ⟨row, hget, h⟩ := bind_eq_ok.1 h
  rw [pure_eq_ok] at h
  subst h
  have hrows := getOverride_eq_ok.1 hget
  obtain ⟨hmem, _, hkey⟩ := mem_overridesFor.1 (hrows ▸ List.mem_singleton_self row)
  refine ⟨row, hrows, ⟨⟨_, _, rfl⟩, ?_, ?_⟩⟩
  · show (db.featureOverrides.deleteWhere _).select _ = _
    rw [Table.select_deleteWhere]
    show (overridesFor db org featureKey).filter _ = _
    rw [hrows]
    simp
  · intro key hne
    show (db.featureOverrides.deleteWhere _).select _ = _
    rw [Table.select_deleteWhere]
    apply List.filter_eq_self.2
    intro x hx
    obtain ⟨hxmem, _, hxkey⟩ := mem_overridesFor.1 hx
    have hid : x.id ≠ row.id := by
      intro hid
      have hxr : x = row := Table.eq_of_key_eq hxmem hmem hid
      exact hne (hxkey.symm.trans ((congrArg _ hxr).trans hkey))
    simp [hid]

-- ── usage limits ────────────────────────────────────────────────────────────

variable {row : TenantUsageLimit}

theorem getUsageLimit_eq_ok :
    getUsageLimit db org featureKey limitKey = .ok row ↔
      usageLimitsFor db org featureKey limitKey = [row] :=
  oneOrRaise_eq_ok

theorem mem_usageLimitsFor :
    row ∈ usageLimitsFor db org featureKey limitKey ↔
      row ∈ db.usageLimits.rows ∧ row.organizationId = org ∧ row.featureKey = featureKey ∧
        row.limitKey = limitKey := by
  simp [usageLimitsFor, Table.mem_select, and_assoc]

theorem mem_limitRows :
    row ∈ limitRows db org limitKey ↔
      row ∈ db.usageLimits.rows ∧ row.organizationId = org ∧ row.limitKey = limitKey := by
  simp [limitRows, Table.mem_select]

theorem createUsageLimit_spec {isUnlimited : Bool}
    (h : createUsageLimit db newId actor roles org featureKey limitKey limitValue isUnlimited
      = .ok (db', row)) :
    usageLimitsFor db org featureKey limitKey = [] ∧
    row = { id := newId, organizationId := org, featureKey, limitKey,
            limitValue := if isUnlimited then none else limitValue, isUnlimited } ∧
    EditsLimits db db' org limitKey (limitRows db org limitKey ++ [row]) ∧
    (Permission.platformEntitlementOverride ∉ permissionsForRoles roles →
      isUnlimited = false) := by
  obtain ⟨_, _, h⟩ := bind_eq_ok.1 h
  obtain ⟨_, hperm, h⟩ := bind_eq_ok.1 h
  obtain ⟨existing, hex, h⟩ := bind_eq_ok.1 h
  obtain ⟨_, hraise, h⟩ := bind_eq_ok.1 h
  obtain ⟨limits, hadd, h⟩ := bind_eq_ok.1 h
  rw [pure_eq_ok] at h
  obtain ⟨rfl, rfl⟩ := Prod.mk.inj h
  have hins := addRowOrRaise_eq_ok.1 hadd
  refine ⟨?_, rfl, ⟨⟨limits, _, rfl⟩, ?_, ?_⟩, ?_⟩
  · cases existing with
    | none => exact scalarOneOrNone_eq_none hex
    | some tl => exact absurd rfl (raiseIf_eq_ok.1 hraise)
  · show limits.select _ = _
    rw [Table.select_insert? hins]
    simp [limitRows]
  · intro key hkey
    show limits.select _ = _
    rw [Table.select_insert? hins]
    have hne : limitKey ≠ key := fun he => hkey he.symm
    simp [limitRows, hne]
  · intro hp
    have hclass := requireExpansion_eq_ok.1 hperm hp
    cases isUnlimited with
    | false => rfl
    | true => cases hclass

theorem updateUsageLimit_spec {isUnlimited : Option Bool} {row' : TenantUsageLimit}
    (h : updateUsageLimit db actor roles org featureKey limitKey limitValue isUnlimited
      = .ok (db', row')) :
    ∃ row, usageLimitsFor db org featureKey limitKey = [row] ∧
      row' = updatedUsageLimit row limitValue isUnlimited ∧
      EditsLimits db db' org limitKey
        ((limitRows db org limitKey).map (fun x => if x.id = row.id then row' else x)) ∧
      (Permission.platformEntitlementOverride ∉ permissionsForRoles roles →
        classifyUsageLimit row.limitValue row.isUnlimited (limitValue.or row.limitValue)
          (isUnlimited.getD row.isUnlimited) true = false) := by
  obtain ⟨row, hget, h⟩ := bind_eq_ok.1 h
  obtain ⟨_, hperm, h⟩ := bind_eq_ok.1 h
  have hrows := getUsageLimit_eq_ok.1 hget
  obtain ⟨hmem, horg, _, hkey⟩ := mem_usageLimitsFor.1 (hrows ▸ List.mem_singleton_self row)
  have hdb : ∃ log, db' = { db with
      usageLimits := db.usageLimits.save (updatedUsageLimit row limitValue isUnlimited),
      auditEvents := log } ∧ row' = updatedUsageLimit row limitValue isUnlimited := by
    dsimp only at h
    split at h
    · rw [pure_eq_ok] at h
      obtain ⟨rfl, rfl⟩ := Prod.mk.inj h
      exact ⟨_, rfl, rfl⟩
    · rw [pure_eq_ok] at h
      obtain ⟨rfl, rfl⟩ := Prod.mk.inj h
      exact ⟨_, rfl, rfl⟩
  obtain ⟨log, rfl, rfl⟩ := hdb
  have hsame : ∀ x ∈ db.usageLimits.rows, x.id = row.id → x = row :=
    fun x hx hid => Table.eq_of_key_eq hx hmem hid
  refine ⟨row, hrows, rfl, ⟨⟨_, _, rfl⟩, ?_, ?_⟩, requireExpansion_eq_ok.1 hperm⟩
  · refine Table.select_save ?_
    intro x hx hid
    rw [hsame x hx hid]
    rfl
  · intro key hne
    have hout : (decide (row.organizationId = org) && decide (row.limitKey = key)) = false := by
      have hk : ¬row.limitKey = key := fun he => hne (he.symm.trans hkey)
      rw [decide_eq_false hk, Bool.and_false]
    refine Table.select_save_of_not hout ?_
    intro x hx hid
    rw [hsame x hx hid]
    exact hout

theorem removeUsageLimit_spec (h : removeUsageLimit db actor org featureKey limitKey = .ok db') :
    ∃ row, usageLimitsFor db org featureKey limitKey = [row] ∧
      EditsLimits db db' org limitKey
        ((limitRows db org limitKey).filter (fun x => !decide (x.id = row.id))) := by
  obtain ⟨row, hget, h⟩ := bind_eq_ok.1 h
  rw [pure_eq_ok] at h
  subst h
  have hrows := getUsageLimit_eq_ok.1 hget
  obtain ⟨hmem, _, _, hkey⟩ := mem_usageLimitsFor.1 (hrows ▸ List.mem_singleton_self row)
  refine ⟨row, hrows, ⟨⟨_, _, rfl⟩, Table.select_deleteWhere, ?_⟩⟩
  intro key hne
  show (db.usageLimits.deleteWhere _).select _ = _
  rw [Table.select_deleteWhere]
  apply List.filter_eq_self.2
  intro x hx
  obtain ⟨hxmem, _, hxkey⟩ := mem_limitRows.1 hx
  have hid : x.id ≠ row.id := by
    intro hid
    have hxr : x = row := Table.eq_of_key_eq hxmem hmem hid
    exact hne (hxkey.symm.trans ((congrArg _ hxr).trans hkey))
  simp [hid]

end Specs

end TenantEntitlementAdminService
end AeroComply
