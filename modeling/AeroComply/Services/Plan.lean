import AeroComply.Lib.Edits
import AeroComply.Lib.Sessions
import AeroComply.Services.Entitlement

/-!
# Plan — the bulk edits of a plan

`bulk_set_plan_features` and `bulk_set_plan_limits` of `app/services/plan_service.py`.  Both read
the rows of the plan once, go through the items of the request, and commit once at the end.

The limits are checked for empty and repeated keys before anything is written; the features are
not.  A feature key that the plan does not have and that the request names twice is inserted
twice, and the unique constraint of the table answers at the flush.
-/

namespace AeroComply

open Relational (Table)
open Sessions (Call transaction query)

namespace PlanService

open EntitlementService (planFeaturesOf planLimitsOf)

def getPlan (db : Database) (planId : UUID) : Except Error Plan :=
  match db.plans.find? planId with
  | some plan => .ok plan
  | none => .error (.notFound "Plan not found")

/-- A key column, `VARCHAR(128)`. -/
def storesKey (key : String) : Bool := decide (key.length ≤ 128) && storesText key

/-- Who asks for an edit, of which plan, and the identifiers that new rows get. -/
structure Edit where
  actorUserId : Option UUID
  actorOrganizationId : UUID
  planId : UUID
  /-- The identifier of the row that is made for a key. -/
  newId : String → UUID

/-! ## Features -/

structure PlanFeatureBulkItem where
  featureKey : String
  enabled : Bool := true

/-- The loop's state: the rows as the session sees them, those to insert, and whether a row
was modified. -/
structure FeatureEdits where
  features : Table PlanFeature
  created : List PlanFeature
  modified : Bool

section Features

variable (e : Edit)

/-- One pass of the loop. -/
def setFeature (s : FeatureEdits) (item : PlanFeatureBulkItem) : FeatureEdits :=
  match s.features.rows.find? fun pf => pf.planId = e.planId && pf.featureKey = item.featureKey with
  | some pf =>
    if pf.enabled ≠ item.enabled then
      { s with features := s.features.save { pf with enabled := item.enabled }, modified := true }
    else s
  | none =>
    -- the new row does not become one of the `existing_features`
    { s with created := s.created ++
        [⟨e.newId item.featureKey, e.planId, item.featureKey, item.enabled⟩] }

/-- An insert into `plan_features`, with `uq_plan_features_plan_id_feature_key`. -/
def insertFeature (features : Table PlanFeature) (row : PlanFeature) :
    Except Error (Table PlanFeature) := do
  raiseIf (features.rows.any fun pf => pf.planId = row.planId && pf.featureKey = row.featureKey)
    .integrity
  addRow features row

/-- The flush of the new rows. -/
def flushFeatures (s : FeatureEdits) : Except Error (Table PlanFeature) := do
  raiseIf (s.created.all (fun pf => storesKey pf.featureKey) = false) .dataError
  s.created.foldlM insertFeature s.features

/-- `bulk_set_plan_features`, up to the commit. -/
def editFeatures (items : List PlanFeatureBulkItem) (db : Database) : Except Error Database := do
  let plan ← getPlan db e.planId
  let s := items.foldl (setFeature e) ⟨db.planFeatures, [], false⟩
  let planFeatures ← flushFeatures s
  let db := { db with planFeatures }
  if s.modified || !s.created.isEmpty then
    pure (db.recordAuditEvent e.actorOrganizationId e.actorUserId "platform.plan.features_updated"
      "Plan" (some plan.id))
  else pure db

def listPlanFeatures (planId : UUID) (db : Database) : Except Error (List PlanFeature) := do
  let _ ← getPlan db planId
  pure ((planFeaturesOf db planId).insertionSort fun a b => a.featureKey ≤ b.featureKey)

def bulkSetPlanFeatures (items : List PlanFeatureBulkItem) :
    Call Database Error (List PlanFeature) := do
  transaction (editFeatures e items)
  query (listPlanFeatures e.planId)

end Features

/-! ## Limits -/

structure PlanLimitItem where
  limitKey : String
  limitValue : Option Int := none
  isUnlimited : Bool := false

section Limits

variable (u : UnicodeTables) (e : Edit)

namespace PlanLimitItem

/-- The stripped `limit_key`. -/
def key (item : PlanLimitItem) : String := u.strip item.limitKey

/-- The value that is stored. -/
def value (item : PlanLimitItem) : Option Int :=
  if item.isUnlimited then none else item.limitValue

end PlanLimitItem

/-- The first loop: no key is empty and none is repeated.  It answers with `seen_keys`. -/
def checkLimitKeys : List PlanLimitItem → List String → Except Error (List String)
  | [], seenKeys => .ok seenKeys
  | item :: items, seenKeys =>
    let key := item.key u
    if key = "" then .error (.conflict "limit_key cannot be empty" "invalid_limit_key")
    else if key ∈ seenKeys then
      .error (.conflict ("Duplicate limit key " ++ pyRepr key ++ " in request")
        "duplicate_limit_key")
    else checkLimitKeys items (seenKeys ++ [key])

def recordLimitEvent (db : Database) (action : String) (limitId : UUID) : Database :=
  db.recordAuditEvent e.actorOrganizationId e.actorUserId action "PlanLimit" (some limitId)

/-- An insert into `plan_limits`, with `uq_plan_limits_plan_id_limit_key`. -/
def insertLimit (limits : Table PlanLimit) (row : PlanLimit) : Except Error (Table PlanLimit) := do
  raiseIf ((storesKey row.limitKey && row.limitValue.all fitsInteger) = false) .dataError
  raiseIf (limits.rows.any fun pl => pl.planId = row.planId && pl.limitKey = row.limitKey)
    .integrity
  addRow limits row

/-- One pass of the second loop.  The rows of a plan have different keys, so the dictionary
`existing_limits` is the list of them. -/
def setLimit (existingLimits : List PlanLimit) (db : Database) (item : PlanLimitItem) :
    Except Error Database :=
  match existingLimits.find? fun pl => pl.limitKey = item.key u with
  | some pl =>
    if pl.limitValue ≠ item.value ∨ pl.isUnlimited ≠ item.isUnlimited then do
      raiseIf (item.value.all fitsInteger = false) .dataError
      let row := { pl with limitValue := item.value, isUnlimited := item.isUnlimited }
      pure (recordLimitEvent e { db with planLimits := db.planLimits.save row }
        "platform.plan_limit.updated" pl.id)
    else pure db
  | none => do
    let row := ⟨e.newId (item.key u), e.planId, item.key u, item.value, item.isUnlimited⟩
    let planLimits ← insertLimit db.planLimits row
    pure (recordLimitEvent e { db with planLimits } "platform.plan_limit.created" row.id)

def removeLimit (db : Database) (pl : PlanLimit) : Database :=
  recordLimitEvent e { db with planLimits := db.planLimits.deleteWhere fun r => r.id = pl.id }
    "platform.plan_limit.removed" pl.id

/-- `bulk_set_plan_limits`, up to the commit. -/
def editLimits (items : List PlanLimitItem) (db : Database) : Except Error Database := do
  let plan ← getPlan db e.planId
  let seenKeys ← checkLimitKeys u items []
  let existingLimits := planLimitsOf db plan.id
  let db ← items.foldlM (setLimit u e existingLimits) db
  pure ((existingLimits.filter fun pl => pl.limitKey ∉ seenKeys).foldl (removeLimit e) db)

/-- `list_plan_limits`, in the order in which the rows were made. -/
def listPlanLimits (planId : UUID) (db : Database) : Except Error (List PlanLimit) := do
  let _ ← getPlan db planId
  pure (planLimitsOf db planId)

def bulkSetPlanLimits (items : List PlanLimitItem) : Call Database Error (List PlanLimit) := do
  transaction (editLimits u e items)
  query (listPlanLimits e.planId)

end Limits

/-! ## The rows of a plan -/

/-- The rows of a plan have different keys, as the unique constraints of the tables say. -/
structure NaturalKeys (db : Database) : Prop where
  features : ∀ a ∈ db.planFeatures.rows, ∀ b ∈ db.planFeatures.rows,
    a.planId = b.planId → a.featureKey = b.featureKey → a = b
  limits : ∀ a ∈ db.planLimits.rows, ∀ b ∈ db.planLimits.rows,
    a.planId = b.planId → a.limitKey = b.limitKey → a = b

/-- New identifiers are different, and none is in use. -/
structure FreshIds (e : Edit) (db : Database) : Prop where
  injective : ∀ k k', e.newId k = e.newId k' → k = k'
  features : ∀ pf ∈ db.planFeatures.rows, ∀ k, e.newId k ≠ pf.id
  limits : ∀ pl ∈ db.planLimits.rows, ∀ k, e.newId k ≠ pl.id

end PlanService
end AeroComply
