import AeroComply.Lib.LoopOrder
import AeroComply.Services.TenantEntitlementAdmin

/-!
# EntitlementOrder — the answer of the resolver and the order of the rows

None of the four queries of `resolve_entitlements` has an ORDER BY.  The loops over plan features,
overrides and plan limits fill dictionaries by the keys that the tables hold once.  The tenant's
usage limits are unique by feature key and limit key, and the dictionary is by limit key alone:
`order_irrelevant_iff` says when the order shows.
-/

namespace AeroComply

open Relational (Keyed Table)

namespace EntitlementOrder

open EntitlementService TenantEntitlementAdminService

/-! ## What is compared -/

/-- What the creations admit: a plan lists a feature and a limit once, the tenant has one override
of a feature, and one usage limit for a feature key and a limit key. -/
structure Admitted (db : Database) (org : UUID) : Prop where
  planFeatures : ∀ planId, ((planFeaturesOf db planId).map PlanFeature.featureKey).Nodup
  planLimits : ∀ planId, ((planLimitsOf db planId).map PlanLimit.limitKey).Nodup
  overrides : ((overridesOf db org).map TenantFeatureOverride.featureKey).Nodup
  usageLimits : ((usageLimitsOf db org).map fun tl => (tl.featureKey, tl.limitKey)).Nodup

/-- The same rows in another order, and nothing else. -/
structure Reordered (db db' : Database) : Prop where
  planFeatures : db.planFeatures.rows.Perm db'.planFeatures.rows
  planLimits : db.planLimits.rows.Perm db'.planLimits.rows
  overrides : db.featureOverrides.rows.Perm db'.featureOverrides.rows
  usageLimits : db.usageLimits.rows.Perm db'.usageLimits.rows
  rest : db' = { db with
    planFeatures := db'.planFeatures, planLimits := db'.planLimits,
    featureOverrides := db'.featureOverrides, usageLimits := db'.usageLimits }

/-- The same dictionary of features and the same list of limits. -/
def SameEntitlements (r r' : EntitlementResolution) : Prop :=
  (∀ featureKey, r.effectiveFeatures.find? featureKey = r'.effectiveFeatures.find? featureKey) ∧
    r.usageLimits = r'.usageLimits

/-- No two usage limits of the tenant are for one limit key. -/
def LimitKeysDistinct (db : Database) (org : UUID) : Prop :=
  ((usageLimitsOf db org).map TenantUsageLimit.limitKey).Nodup

variable {db db' : Database} {org : UUID} {t : DateTime}

namespace Reordered

theorem planFeaturesOf_perm (h : Reordered db db') (planId : UUID) :
    (planFeaturesOf db planId).Perm (planFeaturesOf db' planId) := h.planFeatures.filter _

theorem planLimitsOf_perm (h : Reordered db db') (planId : UUID) :
    (planLimitsOf db planId).Perm (planLimitsOf db' planId) := h.planLimits.filter _

theorem overridesOf_perm (h : Reordered db db') (org : UUID) :
    (overridesOf db org).Perm (overridesOf db' org) := h.overrides.filter _

theorem usageLimitsOf_perm (h : Reordered db db') (org : UUID) :
    (usageLimitsOf db org).Perm (usageLimitsOf db' org) := h.usageLimits.filter _

theorem planInForce_eq (h : Reordered db db') (org : UUID) (t : DateTime) :
    planInForce db' org t = planInForce db org t := by
  rw [h.rest]
  rfl

end Reordered

/-! ## The creations -/

theorem nodup_select_insert? {α κ β : Type} [Keyed α κ] [DecidableEq κ] {rows rows' : Table α}
    {row : α} {p : α → Bool} (f : α → β) (h : rows.insert? row = some rows')
    (hn : ((rows.select p).map f).Nodup)
    (hfresh : ∀ r ∈ rows.select p, f r = f row → p row = false) : ((rows'.select p).map f).Nodup := by
  rw [Table.select_insert? h]
  cases hp : p row with
  | false =>
    rw [List.filter_cons_of_neg (by rw [hp]; exact Bool.false_ne_true), List.filter_nil,
      List.append_nil]
    exact hn
  | true =>
    rw [List.filter_cons_of_pos hp, List.filter_nil, List.map_append]
    refine hn.append (List.nodup_singleton _) (List.disjoint_singleton.2 fun hmem => ?_)
    obtain ⟨r, hr, heq⟩ := List.mem_map.1 hmem
    exact absurd hp (by rw [hfresh r hr heq]; exact Bool.false_ne_true)

variable {actor : Option UUID} {roles : List String}

theorem createUsageLimit_admitted {newId org' : UUID} {featureKey limitKey : String}
    {limitValue : Option Int} {isUnlimited : Bool} {row : TenantUsageLimit} (hdb : Admitted db org)
    (h : createUsageLimit db newId actor roles org' featureKey limitKey limitValue isUnlimited
      = .ok (db', row)) :
    Admitted db' org := by
  have hnone := (createUsageLimit_spec h).1
  obtain ⟨_, _, h⟩ := bind_eq_ok.1 h
  obtain ⟨_, _, h⟩ := bind_eq_ok.1 h
  obtain ⟨_, _, h⟩ := bind_eq_ok.1 h
  obtain ⟨_, _, h⟩ := bind_eq_ok.1 h
  obtain ⟨limits, hadd, h⟩ := bind_eq_ok.1 h
  cases h
  refine ⟨hdb.planFeatures, hdb.planLimits, hdb.overrides, ?_⟩
  refine nodup_select_insert? _ (addRowOrRaise_eq_ok.1 hadd) hdb.usageLimits fun r hr hkey => ?_
  obtain ⟨hmem, horg⟩ := Table.mem_select.1 hr
  obtain ⟨hfeature, hlimit⟩ := Prod.mk.inj hkey
  rw [decide_eq_false_iff_not]
  rintro (rfl : org' = org)
  have hin := mem_usageLimitsFor.2 ⟨hmem, of_decide_eq_true horg, hfeature, hlimit⟩
  rw [hnone] at hin
  cases hin

theorem createFeatureOverride_admitted {now : DateTime} {newId org' : UUID} {featureKey : String}
    {enabled : Bool} {reason : Option String} {expiresAt : Option DateTime}
    {row : TenantFeatureOverride} (hdb : Admitted db org)
    (h : createFeatureOverride db now newId actor roles org' featureKey enabled reason expiresAt
      = .ok (db', row)) :
    Admitted db' org := by
  have hnone := (createFeatureOverride_spec h).1
  obtain ⟨_, _, h⟩ := bind_eq_ok.1 h
  obtain ⟨_, _, h⟩ := bind_eq_ok.1 h
  obtain ⟨_, _, h⟩ := bind_eq_ok.1 h
  obtain ⟨_, _, h⟩ := bind_eq_ok.1 h
  obtain ⟨overrides, hadd, h⟩ := bind_eq_ok.1 h
  cases h
  refine ⟨hdb.planFeatures, hdb.planLimits, ?_, hdb.usageLimits⟩
  refine nodup_select_insert? _ (addRowOrRaise_eq_ok.1 hadd) hdb.overrides fun r hr hkey => ?_
  obtain ⟨hmem, horg⟩ := Table.mem_select.1 hr
  rw [decide_eq_false_iff_not]
  rintro (rfl : org' = org)
  have hin := mem_overridesFor.2 ⟨hmem, of_decide_eq_true horg, hkey⟩
  rw [hnone] at hin
  cases hin

/-! ## The loops over rows with a key of their own -/

theorem effectiveFeaturesFrom_perm {planFeatures planFeatures' : List PlanFeature}
    {overrides overrides' : List TenantFeatureOverride} (hplan : planFeatures.Perm planFeatures')
    (hover : overrides.Perm overrides')
    (hplanKeys : (planFeatures.map PlanFeature.featureKey).Nodup)
    (hoverKeys : (overrides.map TenantFeatureOverride.featureKey).Nodup) (featureKey : String) :
    (effectiveFeaturesFrom planFeatures overrides).find? featureKey
      = (effectiveFeaturesFrom planFeatures' overrides').find? featureKey := by
  refine Table.find?_foldl_upsert_perm (hover.map _) ?_ ?_ featureKey
  · rw [List.map_map]
    exact hoverKeys
  · refine Table.find?_foldl_upsert_perm (hplan.map _) ?_ fun _ => rfl
    rw [List.map_map]
    exact hplanKeys

theorem planEntry_perm {rows rows' : List TenantUsageLimit} (hrows : rows.Perm rows')
    (hkeys : (rows.map TenantUsageLimit.limitKey).Nodup) : planEntry rows = planEntry rows' := by
  have hkeys' := (hrows.map TenantUsageLimit.limitKey).nodup_iff.1 hkeys
  funext pl
  have hsame : tenantOverride rows pl.limitKey = tenantOverride rows' pl.limitKey := by
    rw [tenantOverride, tenantOverride, Table.find?_reverse_key _ hkeys,
      Table.find?_reverse_key _ hkeys']
    exact Table.find?_key_perm _ hrows hkeys _
  rw [planEntry, planEntry, hsame]

theorem effectiveLimitsFrom_perm {planLimits planLimits' : List PlanLimit}
    {rows rows' : List TenantUsageLimit} (hplan : planLimits.Perm planLimits')
    (hrows : rows.Perm rows') (hplanKeys : (planLimits.map PlanLimit.limitKey).Nodup)
    (hkeys : (rows.map TenantUsageLimit.limitKey).Nodup) (limitKey : String) :
    (effectiveLimitsFrom planLimits rows).find? limitKey
      = (effectiveLimitsFrom planLimits' rows').find? limitKey := by
  have hplanEntries : (planLimits.map (planEntry rows)).map Keyed.key
      = planLimits.map PlanLimit.limitKey := by
    rw [List.map_map]
    exact List.map_congr_left fun pl _ => planEntry_limitKey rows pl
  rw [effectiveLimitsFrom, effectiveLimitsFrom, ← planEntry_perm hrows hkeys]
  refine Table.find?_foldl_insertNew_perm (hrows.map _) ?_ ?_ limitKey
  · rw [List.map_map]
    exact hkeys
  · refine Table.find?_foldl_upsert_perm (hplan.map _) ?_ fun _ => rfl
    rw [hplanEntries]
    exact hplanKeys

/-! ## The sorted list -/

instance : Std.Total entryLe where
  total r r' := by
    by_cases h : r.featureKey < r'.featureKey
    · exact Or.inl (Or.inl h)
    · by_cases h' : r'.featureKey < r.featureKey
      · exact Or.inr (Or.inl h')
      · have heq := String.le_antisymm (String.not_lt.1 h') (String.not_lt.1 h)
        rcases String.le_total r.limitKey r'.limitKey with hle | hle
        · exact Or.inl (Or.inr ⟨heq, hle⟩)
        · exact Or.inr (Or.inr ⟨heq.symm, hle⟩)

instance : IsTrans UsageLimitConfiguration entryLe where
  trans r r' r'' := by
    rintro (h | ⟨h, hle⟩) (h' | ⟨h', hle'⟩)
    · exact Or.inl (String.lt_trans h h')
    · exact Or.inl (h' ▸ h)
    · exact Or.inl (h ▸ h')
    · exact Or.inr ⟨h.trans h', String.le_trans hle hle'⟩

theorem limitKey_eq_of_entryLe {r r' : UsageLimitConfiguration} (h : entryLe r r')
    (h' : entryLe r' r) : r.limitKey = r'.limitKey := by
  rcases h with h | ⟨heq, hle⟩
  · rcases h' with h' | ⟨heq', _⟩
    · exact absurd h' (String.lt_asymm h)
    · exact absurd (heq' ▸ h) (String.lt_irrefl _)
  · rcases h' with h' | ⟨_, hle'⟩
    · exact absurd (heq ▸ h') (String.lt_irrefl _)
    · exact String.le_antisymm hle hle'

theorem sameEntitlements_of_distinct (hdb : Admitted db org) (hkeys : LimitKeysDistinct db org)
    (h : Reordered db db') :
    SameEntitlements (resolveEntitlements db org t) (resolveEntitlements db' org t) := by
  cases hplan : planInForce db org t with
  | none =>
    obtain ⟨hfeatures, hlimits⟩ := resolve_of_no_plan hplan
    obtain ⟨hfeatures', hlimits'⟩ := resolve_of_no_plan ((h.planInForce_eq org t).trans hplan)
    exact ⟨fun featureKey => by rw [hfeatures, hfeatures'], hlimits.trans hlimits'.symm⟩
  | some plan =>
    obtain ⟨hfeatures, hlimits⟩ := resolve_of_plan hplan
    obtain ⟨hfeatures', hlimits'⟩ := resolve_of_plan ((h.planInForce_eq org t).trans hplan)
    constructor
    · intro featureKey
      rw [hfeatures, hfeatures']
      refine effectiveFeaturesFrom_perm (h.planFeaturesOf_perm plan.id)
        ((h.overridesOf_perm org).filter _) (hdb.planFeatures plan.id) ?_ featureKey
      exact hdb.overrides.sublist (List.filter_sublist.map _)
    · rw [hlimits, hlimits']
      exact Table.insertionSort_rows_eq (effectiveLimitsFrom_perm (h.planLimitsOf_perm plan.id)
        (h.usageLimitsOf_perm org) (hdb.planLimits plan.id) hkeys)
        fun _ _ => limitKey_eq_of_entryLe

/-! ## Two rows for one limit key -/

/-- The usage limits in the opposite order. -/
def reversed (db : Database) : Database :=
  { db with usageLimits :=
      ⟨db.usageLimits.rows.reverse, by
        rw [List.map_reverse]
        exact List.nodup_reverse.2 db.usageLimits.nodup⟩ }

theorem reordered_reversed (db : Database) : Reordered db (reversed db) where
  planFeatures := .refl _
  planLimits := .refl _
  overrides := .refl _
  usageLimits := (List.reverse_perm _).symm
  rest := rfl

theorem usageLimitsOf_reversed (db : Database) (org : UUID) :
    usageLimitsOf (reversed db) org = (usageLimitsOf db org).reverse := List.filter_reverse ..

theorem effectiveLimitsFrom_featureKey {planLimits : List PlanLimit}
    {rows : List TenantUsageLimit} {limitKey : String} {first last : TenantUsageLimit}
    (hfirst : rows.find? (fun tl => tl.limitKey = limitKey) = some first)
    (hlast : rows.reverse.find? (fun tl => tl.limitKey = limitKey) = some last) :
    ((effectiveLimitsFrom planLimits rows).find? limitKey).map UsageLimitConfiguration.featureKey
      = some (if planLimits.any fun pl => pl.limitKey = limitKey then last.featureKey
          else first.featureKey) := by
  rw [effectiveLimitsFrom_entry, hfirst]
  cases hpl : planLimits.reverse.find? (fun pl => pl.limitKey = limitKey) with
  | some pl =>
    have hkey : pl.limitKey = limitKey := by simpa using List.find?_some hpl
    have hmem : pl ∈ planLimits := List.mem_reverse.1 (List.mem_of_find?_eq_some hpl)
    have hany : planLimits.any (fun pl => pl.limitKey = limitKey) = true :=
      List.any_eq_true.2 ⟨pl, hmem, decide_eq_true hkey⟩
    rw [if_pos hany]
    show some (planEntry rows pl).featureKey = _
    rw [planEntry, tenantOverride, hkey, hlast]
  | none =>
    have hany : ¬planLimits.any (fun pl => pl.limitKey = limitKey) = true := by
      intro h
      obtain ⟨pl, hmem, hkey⟩ := List.any_eq_true.1 h
      exact List.find?_eq_none.1 hpl pl (List.mem_reverse.2 hmem) hkey
    rw [if_neg hany]
    rfl

/-- **THE ORDER SHOWS**: with a plan in force and the same answer in the opposite order, no two rows
are for one limit key. -/
theorem distinct_of_same_reversed {plan : Plan} (hdb : Admitted db org)
    (hplan : planInForce db org t = some plan)
    (h : (resolveEntitlements db org t).usageLimits
      = (resolveEntitlements (reversed db) org t).usageLimits) : LimitKeysDistinct db org := by
  have hrows : (usageLimitsOf db org).Nodup := hdb.usageLimits.of_map
  refine List.Nodup.map_on (fun a ha b hb hab => ?_) hrows
  have hplan' := ((reordered_reversed db).planInForce_eq org t).trans hplan
  rw [(resolve_of_plan hplan).2, (resolve_of_plan hplan').2, usageLimitsOf_reversed] at h
  -- the entry of the key is the same in both lists
  have hentry : (effectiveLimitsFrom (planLimitsOf db plan.id) (usageLimitsOf db org)).find?
      a.limitKey = (effectiveLimitsFrom (planLimitsOf db plan.id)
        (usageLimitsOf db org).reverse).find? a.limitKey := by
    rw [← Table.find?_perm (List.perm_insertionSort entryLe _), h,
      Table.find?_perm (List.perm_insertionSort entryLe _)]
    rfl
  obtain ⟨first, hfirst⟩ : ∃ first, (usageLimitsOf db org).find?
      (fun tl => tl.limitKey = a.limitKey) = some first :=
    Option.isSome_iff_exists.1 (List.find?_isSome.2 ⟨a, ha, decide_eq_true rfl⟩)
  obtain ⟨last, hlast⟩ : ∃ last, (usageLimitsOf db org).reverse.find?
      (fun tl => tl.limitKey = a.limitKey) = some last :=
    Option.isSome_iff_exists.1
      (List.find?_isSome.2 ⟨a, List.mem_reverse.2 ha, decide_eq_true rfl⟩)
  have hfeature := congrArg (Option.map UsageLimitConfiguration.featureKey) hentry
  rw [effectiveLimitsFrom_featureKey hfirst hlast,
    effectiveLimitsFrom_featureKey hlast (by rw [List.reverse_reverse]; exact hfirst)] at hfeature
  have hsame : first.featureKey = last.featureKey := by
    have hfeature := Option.some.inj hfeature
    split at hfeature
    · exact hfeature.symm
    · exact hfeature
  have hkeyOf : ∀ {l : List TenantUsageLimit} {r : TenantUsageLimit},
      l.find? (fun tl => tl.limitKey = a.limitKey) = some r → r.limitKey = a.limitKey := by
    intro l r hr
    simpa using List.find?_some hr
  -- so the first row of the key is the last one
  have hone : first = last := by
    refine List.inj_on_of_nodup_map hdb.usageLimits (List.mem_of_find?_eq_some hfirst)
      (List.mem_reverse.1 (List.mem_of_find?_eq_some hlast)) ?_
    rw [hsame, hkeyOf hfirst, hkeyOf hlast]
  have honly := Table.eq_of_find?_reverse hrows hfirst (hone ▸ hlast)
  rw [honly a ha (decide_eq_true rfl), honly b hb (decide_eq_true hab.symm)]

/-- **THE ORDER OF THE ROWS**: the answer is the same in every order of the stored rows exactly when
no plan is in force, or no two usage limits of the tenant are for one limit key. -/
theorem order_irrelevant_iff (db : Database) (org : UUID) (t : DateTime)
    (hdb : Admitted db org) :
    (∀ db', Reordered db db' →
        SameEntitlements (resolveEntitlements db org t) (resolveEntitlements db' org t)) ↔
      (planInForce db org t ≠ none → LimitKeysDistinct db org) := by
  constructor
  · intro h hsome
    obtain ⟨plan, hplan⟩ := Option.ne_none_iff_exists'.1 hsome
    exact distinct_of_same_reversed hdb hplan (h (reversed db) (reordered_reversed db)).2
  · intro h db' hdb'
    by_cases hplan : planInForce db org t = none
    · obtain ⟨hfeatures, hlimits⟩ := resolve_of_no_plan hplan
      obtain ⟨hfeatures', hlimits'⟩ := resolve_of_no_plan ((hdb'.planInForce_eq org t).trans hplan)
      exact ⟨fun featureKey => by rw [hfeatures, hfeatures'], hlimits.trans hlimits'.symm⟩
    · exact sameEntitlements_of_distinct hdb (h hplan) hdb'

/-! ## Two limits of one key -/

/-- An organization on a plan, without limits of its own. -/
def subscribed : Database where
  organizations := .single { id := 1 }
  plans := .single { id := 2, code := "PRO" }
  subscriptions := .single
    { id := 3, organizationId := 1, planId := 2, status := .active, startsAt := 0 }

def monthlyQueries : List TenantUsageLimit :=
  [{ id := 4, organizationId := 1, featureKey := "LISA", limitKey := "monthly_queries",
     limitValue := some 100 },
   { id := 5, organizationId := 1, featureKey := "REPORTS", limitKey := "monthly_queries",
     limitValue := some 5 }]

def twoLimits : Database :=
  { subscribed with usageLimits := ⟨monthlyQueries, by decide⟩ }

/-- Both limits are created one after the other, and the resolver reports the one that the database
returns first. -/
theorem first_limit_wins :
    (do
      let (db, _) ← createUsageLimit subscribed 4 none [] 1 "LISA" "monthly_queries" (some 100) false
      let (db, _) ← createUsageLimit db 5 none [] 1 "REPORTS" "monthly_queries" (some 5) false
      pure db.usageLimits.rows) = .ok twoLimits.usageLimits.rows ∧
    Reordered twoLimits (reversed twoLimits) ∧
    ¬SameEntitlements (resolveEntitlements twoLimits 1 0)
      (resolveEntitlements (reversed twoLimits) 1 0) := by
  refine ⟨by rfl, reordered_reversed twoLimits, fun h => ?_⟩
  have hvalues := congrArg (List.map UsageLimitConfiguration.limitValue) h.2
  revert hvalues
  decide

def twoKeys : Database :=
  { subscribed with usageLimits :=
      ⟨[{ id := 4, organizationId := 1, featureKey := "LISA", limitKey := "monthly_queries",
          limitValue := some 100 },
        { id := 5, organizationId := 1, featureKey := "REPORTS", limitKey := "monthly_reports",
          limitValue := some 5 }], by decide⟩ }

theorem twoKeys_admitted : Admitted twoKeys 1 where
  planFeatures _ := List.nodup_nil
  planLimits _ := List.nodup_nil
  overrides := List.nodup_nil
  usageLimits := by decide

theorem twoKeys_in_any_order :
    SameEntitlements (resolveEntitlements twoKeys 1 0)
      (resolveEntitlements (reversed twoKeys) 1 0) :=
  (order_irrelevant_iff twoKeys 1 0 twoKeys_admitted).2
    (fun _ => show List.Nodup _ by decide) (reversed twoKeys) (reordered_reversed twoKeys)

end EntitlementOrder
end AeroComply
