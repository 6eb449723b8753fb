import Mathlib.Data.Nat.Pairing
import AeroComply.Services.PlanLimits
import AeroComply.Services.PlanFeatures

/-!
# PlanBulk — bulk edits are all or nothing, and when they are exact

Each bulk edit is one transaction.  It raises and leaves the store alone, or it answers and the
plan is as the request says.  What it raises is meant to be `ConflictError`; the exceptions of
the database get through where a feature key that the plan lacks is named twice, or where a key
or a value does not fit its column.
-/

namespace AeroComply

open Relational (Table)
open Sessions (Call transaction query answer left bind_of_ok bind_of_error transaction_of_ok
  transaction_of_error)

namespace PlanService

open EntitlementService (planFeaturesOf planLimitsOf)

/-- **ATOMIC AND EXACT**: the call raises `ConflictError` and changes nothing, or it answers
and leaves what was asked for. -/
def Exact {α : Type} (call : Call Database Error α) (Done : Database → Prop) (db : Database) :
    Prop :=
  ((∃ message code, answer call db = .error (.conflict message code)) ∧ left call db = db) ∨
  ((∃ rows, answer call db = .ok rows) ∧ Done (left call db))

section Calls

variable {α : Type} {f : Database → Except Error Database} {q : Database → Except Error α}
  {db db' : Database} {Done : Database → Prop}

theorem bulk_of_ok (h : f db = .ok db') :
    (do transaction f; query q : Call Database Error α) ⟨db, db⟩ = (q db', ⟨db', db'⟩) :=
  bind_of_ok (transaction_of_ok (s := ⟨db, db⟩) h)

theorem bulk_of_error {err : Error} (h : f db = .error err) :
    (do transaction f; query q : Call Database Error α) ⟨db, db⟩ = (.error err, ⟨db, db⟩) :=
  bind_of_error (transaction_of_error (s := ⟨db, db⟩) h)

theorem exact_of_ok {rows : α} (h : f db = .ok db') (hq : q db' = .ok rows) (hdone : Done db') :
    Exact (do transaction f; query q) Done db := by
  refine Or.inr ⟨⟨rows, ?_⟩, ?_⟩
  · rw [answer, bulk_of_ok h]
    exact hq
  · rw [left, bulk_of_ok h]
    exact hdone

theorem exact_of_conflict {message code : String} (h : f db = .error (.conflict message code)) :
    Exact (do transaction f; query q) Done db := by
  refine Or.inl ⟨⟨message, code, ?_⟩, ?_⟩
  · rw [answer, bulk_of_error h]
  · rw [left, bulk_of_error h]

theorem not_exact_of_error {err : Error} (h : f db = .error err)
    (herr : ∀ message code, err ≠ .conflict message code) :
    ¬Exact (do transaction f; query q) Done db := by
  rintro (⟨⟨message, code, hanswer⟩, -⟩ | ⟨⟨rows, hanswer⟩, -⟩)
  · rw [answer, bulk_of_error h] at hanswer
    cases hanswer
    exact herr message code rfl
  · rw [answer, bulk_of_error h] at hanswer
    cases hanswer

end Calls

section Bulk

variable {u : UnicodeTables} {e : Edit} {db : Database}

theorem getPlan_of_find? {planId : UUID} (h : ∃ plan, db.plans.find? planId = some plan) :
    ∃ plan, getPlan db planId = .ok plan ∧ plan.id = planId := by
  obtain ⟨plan, hfound⟩ := h
  refine ⟨plan, ?_, (Table.find?_eq_some.1 hfound).2⟩
  rw [getPlan, hfound]

/-- The limits: the request is refused, or every item can be written. -/
theorem bulkSetPlanLimits_exact_iff (hplan : ∃ plan, db.plans.find? e.planId = some plan)
    (hnatural : NaturalKeys db) (hfresh : FreshIds e db) (items : List PlanLimitItem) :
    Exact (bulkSetPlanLimits u e items) (LimitsSet u e items db) db ↔
      ¬Accepted u items ∨ ∀ item ∈ items, item.isWritable u (planLimitsOf db e.planId) = true := by
  obtain ⟨plan, hget, hid⟩ := getPlan_of_find? hplan
  by_cases haccepted : Accepted u items
  · have houtcome := editLimits_of_accepted hplan hfresh haccepted
    rw [← List.all_eq_true]
    by_cases hall : items.all (·.isWritable u (planLimitsOf db e.planId)) = true
    · rw [if_pos hall] at houtcome
      refine iff_of_true ?_ (Or.inr hall)
      have hlist : listPlanLimits e.planId (editedLimits u e items db) =
          .ok (planLimitsOf (editedLimits u e items db) e.planId) := by
        rw [listPlanLimits, show getPlan (editedLimits u e items db) e.planId = .ok plan from hget]
        rfl
      exact exact_of_ok houtcome hlist (editedLimits_set hnatural hfresh haccepted.2)
    · rw [if_neg hall] at houtcome
      refine iff_of_false (not_exact_of_error houtcome ?_) ?_
      · intro _ _ h
        cases h
      · exact fun h => h.elim (fun hrefused => hrefused haccepted) hall
  · obtain ⟨message, code, hrun⟩ := checkLimitKeys_of_refused haccepted
    have hconflict : editLimits u e items db = .error (.conflict message code) := by
      rw [editLimits, hget, ok_bind, hrun]
      rfl
    exact iff_of_true (exact_of_conflict hconflict) (Or.inl haccepted)

theorem editFeatures_of_flush {items : List PlanFeatureBulkItem} {plan : Plan}
    {features : Table PlanFeature} (hget : getPlan db e.planId = .ok plan)
    (hflush : flushFeatures (items.foldl (setFeature e) ⟨db.planFeatures, [], false⟩) =
      .ok features) :
    ∃ db', editFeatures e items db = .ok db' ∧ db'.planFeatures = features ∧
      db'.plans = db.plans ∧
      { db' with planFeatures := db.planFeatures, auditEvents := db.auditEvents } = db := by
  rw [editFeatures, hget, ok_bind]
  dsimp only
  rw [hflush, ok_bind]
  split
  · exact ⟨_, rfl, rfl, rfl, rfl⟩
  · exact ⟨_, rfl, rfl, rfl, rfl⟩

theorem bulkSetPlanFeatures_exact_iff (hplan : ∃ plan, db.plans.find? e.planId = some plan)
    (hnatural : NaturalKeys db) (hfresh : FreshIds e db) (items : List PlanFeatureBulkItem) :
    Exact (bulkSetPlanFeatures e items) (FeaturesSet e items db) db ↔
      NamedOnce e db.planFeatures items := by
  obtain ⟨plan, hget, hid⟩ := getPlan_of_find? hplan
  rcases flushFeatures_cases hnatural hfresh items with
    ⟨honce, features, hflush, hrows⟩ | ⟨hnot, err, herr, hflush⟩
  · obtain ⟨db', hrun, hfeatures, hplans, hrest⟩ := editFeatures_of_flush hget hflush
    have hset : FeaturesSet e items db db' :=
      featuresSet_of_rows hnatural honce.2 (hfeatures ▸ hrows) hrest
    have hget' : getPlan db' e.planId = .ok plan := by
      rw [getPlan, hplans]
      exact hget
    have hlist : listPlanFeatures e.planId db' = .ok
        ((planFeaturesOf db' e.planId).insertionSort fun a b => a.featureKey ≤ b.featureKey) := by
      rw [listPlanFeatures, hget']
      rfl
    exact iff_of_true (exact_of_ok hrun hlist hset) honce
  · have hraise : editFeatures e items db = .error err := by
      rw [editFeatures, hget, ok_bind]
      dsimp only
      rw [hflush]
      rfl
    refine iff_of_false (not_exact_of_error hraise ?_) hnot
    intro _ _ h
    rcases herr with rfl | rfl
    · cases h
    · cases h

/-- **BULK EDITS, EXACTLY**: on a plan that exists, the edit of the features is atomic and exact
if and only if the request names each key that the plan lacks once, and the column holds it; the
edit of the limits if and only if it is refused for an empty or repeated key, or every limit is
already as requested or fits its columns. -/
theorem bulk_edits_exact_iff (u : UnicodeTables) (e : Edit) (db : Database)
    (hplan : ∃ plan, db.plans.find? e.planId = some plan) (hnatural : NaturalKeys db)
    (hfresh : FreshIds e db) :
    (∀ items, Exact (bulkSetPlanFeatures e items) (FeaturesSet e items db) db ↔
      NamedOnce e db.planFeatures items) ∧
    ∀ items, Exact (bulkSetPlanLimits u e items) (LimitsSet u e items db) db ↔
      ¬Accepted u items ∨
        ∀ item ∈ items, item.isWritable u (planLimitsOf db e.planId) = true :=
  ⟨bulkSetPlanFeatures_exact_iff hplan hnatural hfresh,
    bulkSetPlanLimits_exact_iff hplan hnatural hfresh⟩

end Bulk

/-! ## A plan that is edited -/

/-- A plan with one feature and two limits. -/
def catalog : Database where
  plans := .single { id := 1, code := "PRO" }
  planFeatures := .single { id := 2, planId := 1, featureKey := "LISA" }
  planLimits := ⟨[{ id := 3, planId := 1, limitKey := "max_assets", limitValue := some 10 },
    { id := 4, planId := 1, limitKey := "storage_gb", isUnlimited := true }], by decide⟩

def textNumber : List Char → Nat
  | [] => 0
  | c :: cs => Nat.pair c.toNat (textNumber cs) + 1

theorem textNumber_injective : ∀ cs ds, textNumber cs = textNumber ds → cs = ds := by
  intro cs
  induction cs with
  | nil =>
    intro ds h
    cases ds with
    | nil => rfl
    | cons d ds => cases h
  | cons c cs ih =>
    intro ds h
    cases ds with
    | nil => cases h
    | cons d ds =>
      rw [textNumber, textNumber, Nat.add_right_cancel_iff, Nat.pair_eq_pair] at h
      rw [Char.toNat_inj.1 h.1, ih ds h.2]

def catalogEdit : Edit where
  actorUserId := some 7
  actorOrganizationId := 8
  planId := 1
  newId key := 100 + textNumber key.toList

theorem catalog_naturalKeys : NaturalKeys catalog where
  features a ha b hb _ _ := (List.mem_singleton.1 ha).trans (List.mem_singleton.1 hb).symm
  limits a ha b hb _ hkey := by
    have hkeys : (catalog.planLimits.rows.map PlanLimit.limitKey).Nodup := by decide
    exact List.inj_on_of_nodup_map hkeys ha hb hkey

theorem catalog_freshIds : FreshIds catalogEdit catalog where
  injective k k' h :=
    String.ext (textNumber_injective _ _ (Nat.add_left_cancel h))
  features pf hpf k := by
    have hid : ∀ pf ∈ catalog.planFeatures.rows, pf.id < 100 := by decide
    exact Nat.ne_of_gt (Nat.lt_of_lt_of_le (hid pf hpf) (Nat.le_add_right 100 _))
  limits pl hpl k := by
    have hid : ∀ pl ∈ catalog.planLimits.rows, pl.id < 100 := by decide
    exact Nat.ne_of_gt (Nat.lt_of_lt_of_le (hid pl hpl) (Nat.le_add_right 100 _))

theorem catalog_exact_iff :
    (∀ items, Exact (bulkSetPlanFeatures catalogEdit items) (FeaturesSet catalogEdit items catalog)
        catalog ↔ NamedOnce catalogEdit catalog.planFeatures items) ∧
    ∀ items, Exact (bulkSetPlanLimits .ascii catalogEdit items)
        (LimitsSet .ascii catalogEdit items catalog) catalog ↔
      ¬Accepted .ascii items ∨ ∀ item ∈ items,
        item.isWritable .ascii (planLimitsOf catalog catalogEdit.planId) = true :=
  bulk_edits_exact_iff .ascii catalogEdit catalog ⟨_, rfl⟩ catalog_naturalKeys catalog_freshIds

/-- A new feature that is named twice. -/
def reportsTwice : List PlanFeatureBulkItem := [⟨"REPORTS", true⟩, ⟨"REPORTS", false⟩]

/-- **AN INTEGRITY ERROR GETS THROUGH**: the second row of the feature violates the constraint. -/
theorem integrity_error_escapes :
    answer (bulkSetPlanFeatures catalogEdit reportsTwice) catalog = .error .integrity ∧
    ¬Exact (bulkSetPlanFeatures catalogEdit reportsTwice)
      (FeaturesSet catalogEdit reportsTwice catalog) catalog := by
  have hraise : editFeatures catalogEdit reportsTwice catalog = .error .integrity := by rfl
  constructor
  · rw [answer, bulkSetPlanFeatures, bulk_of_error hraise]
  · refine not_exact_of_error hraise ?_
    intro _ _ h
    cases h

end PlanService
end AeroComply
