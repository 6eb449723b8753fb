import AeroComply.Services.Plan

/-!
# PlanFeatures — the edit of a plan's features

An item sets its stored row, so that the last item of a key decides (`settle`).  An item of a
key that the plan does not have is noted for insertion, each time it is named (`newItems`), and
the flush inserts the noted rows if the unique constraint tells them apart.
-/

namespace AeroComply

open Relational (Table)

namespace PlanService

open EntitlementService (planFeaturesOf)

/-- The value of the last item with the key. -/
def lastEnabled (items : List PlanFeatureBulkItem) (featureKey : String) : Option Bool :=
  (items.reverse.find? fun item => item.featureKey = featureKey).map PlanFeatureBulkItem.enabled

/-- **THE EDIT OF THE FEATURES IS EXACT**: each named feature has the value of its last item,
a feature has one row, and nothing else is different. -/
structure FeaturesSet (e : Edit) (items : List PlanFeatureBulkItem) (db db' : Database) : Prop where
  named : ∀ featureKey enabled, lastEnabled items featureKey = some enabled →
    ∃ pf ∈ planFeaturesOf db' e.planId, pf.featureKey = featureKey ∧ pf.enabled = enabled
  unique : ∀ a ∈ db'.planFeatures.rows, ∀ b ∈ db'.planFeatures.rows,
    a.planId = b.planId → a.featureKey = b.featureKey → a = b
  others : ∀ pf, pf.planId ≠ e.planId ∨ pf.featureKey ∉ items.map (·.featureKey) →
    (pf ∈ db'.planFeatures.rows ↔ pf ∈ db.planFeatures.rows)
  rest : { db' with planFeatures := db.planFeatures, auditEvents := db.auditEvents } = db

section FeatureEdit

variable {e : Edit} {items : List PlanFeatureBulkItem} {item : PlanFeatureBulkItem}
  {s : FeatureEdits} {features : Table PlanFeature} {pf : PlanFeature}

def isStored (e : Edit) (features : Table PlanFeature) (item : PlanFeatureBulkItem) : Bool :=
  features.rows.any fun pf => pf.planId = e.planId && pf.featureKey = item.featureKey

/-- The items that are not stored: each of them is inserted. -/
def newItems (e : Edit) (features : Table PlanFeature) (items : List PlanFeatureBulkItem) :
    List PlanFeatureBulkItem := items.filter fun item => !isStored e features item

def newFeature (e : Edit) (item : PlanFeatureBulkItem) : PlanFeature :=
  ⟨e.newId item.featureKey, e.planId, item.featureKey, item.enabled⟩

/-- A row after an item. -/
def setEnabled (e : Edit) (item : PlanFeatureBulkItem) (pf : PlanFeature) : PlanFeature :=
  if pf.planId = e.planId ∧ pf.featureKey = item.featureKey then { pf with enabled := item.enabled }
  else pf

/-- A row after all items. -/
def settle (e : Edit) (items : List PlanFeatureBulkItem) (pf : PlanFeature) : PlanFeature :=
  if pf.planId = e.planId then
    { pf with enabled := (lastEnabled items pf.featureKey).getD pf.enabled }
  else pf

theorem settle_nil : settle e [] pf = pf := by
  rw [settle]
  exact ite_self _

theorem setEnabled_of_same (h : pf.planId = e.planId ∧ pf.featureKey = item.featureKey) :
    setEnabled e item pf = { pf with enabled := item.enabled } := if_pos h

theorem setEnabled_of_other (h : ¬(pf.planId = e.planId ∧ pf.featureKey = item.featureKey)) :
    setEnabled e item pf = pf := if_neg h

theorem lastEnabled_cons (featureKey : String) : lastEnabled (item :: items) featureKey =
    (lastEnabled items featureKey).or
      (if item.featureKey = featureKey then some item.enabled else none) := by
  rw [lastEnabled, lastEnabled, List.reverse_cons, List.find?_append, Option.map_or]
  by_cases hkey : item.featureKey = featureKey
  · have hfound : [item].find? (fun item => item.featureKey = featureKey) = some item :=
      List.find?_cons_of_pos (decide_eq_true hkey)
    rw [if_pos hkey, hfound]
    rfl
  · have hfound : [item].find? (fun item => item.featureKey = featureKey) = none :=
      List.find?_cons_of_neg (by simpa using hkey)
    rw [if_neg hkey, hfound]
    rfl

theorem settle_cons : settle e (item :: items) pf = settle e items (setEnabled e item pf) := by
  by_cases hplan : pf.planId = e.planId
  · by_cases hkey : item.featureKey = pf.featureKey
    · rw [setEnabled_of_same ⟨hplan, hkey.symm⟩, settle, settle, if_pos hplan, if_pos hplan,
        lastEnabled_cons, if_pos hkey]
      cases lastEnabled items pf.featureKey with
      | none => rfl
      | some enabled => rfl
    · rw [setEnabled_of_other fun h => hkey h.2.symm, settle, settle, if_pos hplan, if_pos hplan,
        lastEnabled_cons, if_neg hkey, Option.or_none]
  · rw [setEnabled_of_other fun h => hplan h.1, settle, settle, if_neg hplan, if_neg hplan]

theorem setEnabled_planId : (setEnabled e item pf).planId = pf.planId := by
  rw [setEnabled]
  split
  · rfl
  · rfl

theorem setEnabled_featureKey : (setEnabled e item pf).featureKey = pf.featureKey := by
  rw [setEnabled]
  split
  · rfl
  · rfl

/-- The rows of a table of features have different keys within a plan. -/
def DistinctFeatures (features : Table PlanFeature) : Prop :=
  ∀ a ∈ features.rows, ∀ b ∈ features.rows,
    a.planId = b.planId → a.featureKey = b.featureKey → a = b

/-- **ONE ITEM**: it sets its stored row, or it is noted for insertion. -/
theorem setFeature_spec (item : PlanFeatureBulkItem) (hdistinct : DistinctFeatures s.features) :
    (setFeature e s item).features.rows = s.features.rows.map (setEnabled e item) ∧
    (setFeature e s item).created =
      s.created ++ if isStored e s.features item then [] else [newFeature e item] := by
  rw [setFeature, isStored]
  cases hfound : s.features.rows.find? fun pf =>
      pf.planId = e.planId && pf.featureKey = item.featureKey with
  | none =>
    have hnone : ∀ pf ∈ s.features.rows,
        ¬(pf.planId = e.planId ∧ pf.featureKey = item.featureKey) := by
      intro pf hpf hsame
      refine List.find?_eq_none.1 hfound pf hpf ?_
      rw [Bool.and_eq_true, decide_eq_true_iff, decide_eq_true_iff]
      exact hsame
    have hany : (s.features.rows.any fun pf =>
        pf.planId = e.planId && pf.featureKey = item.featureKey) = false := by
      rw [List.any_eq_false]
      exact fun pf hpf => List.find?_eq_none.1 hfound pf hpf
    refine ⟨?_, ?_⟩
    · have hid : ∀ pf ∈ s.features.rows, setEnabled e item pf = id pf :=
        fun pf hpf => if_neg (hnone pf hpf)
      rw [List.map_congr_left hid, List.map_id]
    · rw [hany]
      rfl
  | some pf =>
    have hmem := List.mem_of_find?_eq_some hfound
    have hsame := List.find?_some hfound
    have hany : (s.features.rows.any fun pf =>
        pf.planId = e.planId && pf.featureKey = item.featureKey) = true :=
      List.any_eq_true.2 ⟨pf, hmem, hsame⟩
    rw [Bool.and_eq_true, decide_eq_true_iff, decide_eq_true_iff] at hsame
    have honly : ∀ other ∈ s.features.rows,
        (other.planId = e.planId ∧ other.featureKey = item.featureKey ↔ other.id = pf.id) := by
      intro other ho
      constructor
      · intro h
        rw [hdistinct other ho pf hmem (h.1.trans hsame.1.symm) (h.2.trans hsame.2.symm)]
      · intro hid
        rw [Table.eq_of_key_eq ho hmem hid]
        exact hsame
    have hrows : (s.features.save { pf with enabled := item.enabled }).rows =
        s.features.rows.map (setEnabled e item) := by
      refine List.map_congr_left fun other ho => ?_
      show (if other.id = pf.id then { pf with enabled := item.enabled } else other) = _
      by_cases hid : other.id = pf.id
      · rw [if_pos hid, setEnabled_of_same ((honly other ho).2 hid),
          Table.eq_of_key_eq ho hmem hid]
      · rw [if_neg hid, setEnabled_of_other fun h => hid ((honly other ho).1 h)]
    rw [hany, if_pos rfl, List.append_nil]
    dsimp only
    by_cases hchanged : pf.enabled ≠ item.enabled
    · rw [if_pos hchanged]
      exact ⟨hrows, rfl⟩
    · rw [if_neg hchanged]
      have hpf : { pf with enabled := item.enabled } = pf := by
        rw [← not_not.1 hchanged]
      rw [hpf, Table.save_self hmem] at hrows
      exact ⟨hrows, rfl⟩

/-! ### The loop over the items -/

variable {features' : Table PlanFeature} {row : PlanFeature}

theorem DistinctFeatures.map (hdistinct : DistinctFeatures features)
    (hrows : features'.rows = features.rows.map (setEnabled e item)) :
    DistinctFeatures features' := by
  intro a ha b hb hplan hkey
  rw [hrows] at ha hb
  obtain ⟨a₀, ha₀, rfl⟩ := List.mem_map.1 ha
  obtain ⟨b₀, hb₀, rfl⟩ := List.mem_map.1 hb
  rw [setEnabled_planId, setEnabled_planId] at hplan
  rw [setEnabled_featureKey, setEnabled_featureKey] at hkey
  rw [hdistinct a₀ ha₀ b₀ hb₀ hplan hkey]

theorem isStored_map (other : PlanFeatureBulkItem)
    (hrows : features'.rows = features.rows.map (setEnabled e item)) :
    isStored e features' other = isStored e features other := by
  have hsame : ∀ pf ∈ features.rows,
      ((fun pf : PlanFeature => decide (pf.planId = e.planId) &&
        decide (pf.featureKey = other.featureKey)) ∘ setEnabled e item) pf =
          (decide (pf.planId = e.planId) && decide (pf.featureKey = other.featureKey)) := by
    intro pf _
    rw [Function.comp_apply, setEnabled_planId, setEnabled_featureKey]
  rw [isStored, isStored, hrows, List.any_map, List.any_eq, List.any_eq]
  refine decide_eq_decide.2 (exists_congr fun pf => and_congr_right fun hpf => ?_)
  rw [hsame pf hpf]

/-- **ALL ITEMS**: each stored row is settled, and the others are noted in their order. -/
theorem setFeatures_spec (items : List PlanFeatureBulkItem) : ∀ s : FeatureEdits,
    DistinctFeatures s.features →
    (items.foldl (setFeature e) s).features.rows = s.features.rows.map (settle e items) ∧
    (items.foldl (setFeature e) s).created =
      s.created ++ (newItems e s.features items).map (newFeature e) := by
  induction items with
  | nil =>
    intro s _
    refine ⟨?_, (List.append_nil _).symm⟩
    have hid : ∀ pf ∈ s.features.rows, settle e [] pf = id pf := fun pf _ => settle_nil
    rw [List.map_congr_left hid, List.map_id]
    rfl
  | cons item items ih =>
    intro s hdistinct
    obtain ⟨hrows, hcreated⟩ := setFeature_spec (e := e) item hdistinct
    obtain ⟨hrows', hcreated'⟩ := ih (setFeature e s item) (hdistinct.map hrows)
    rw [List.foldl_cons, hrows', hcreated', hrows, hcreated]
    refine ⟨?_, ?_⟩
    · rw [List.map_map]
      exact List.map_congr_left fun pf _ => settle_cons.symm
    · have hnew : newItems e (setFeature e s item).features items = newItems e s.features items :=
        List.filter_congr fun other _ => by rw [isStored_map other hrows]
      rw [hnew, newItems, newItems, List.filter_cons]
      cases hstored : isStored e s.features item with
      | true => rw [if_pos rfl, List.append_nil]; rfl
      | false => rw [if_neg Bool.false_ne_true, List.append_assoc]; rfl

/-! ### The flush -/

/-- The unique constraint tells the two rows apart. -/
def Apart (a b : PlanFeature) : Prop := ¬(a.planId = b.planId ∧ a.featureKey = b.featureKey)

theorem insertFeature_of_apart (hid : ∀ pf ∈ features.rows, pf.id ≠ row.id)
    (hapart : ∀ pf ∈ features.rows, Apart pf row) :
    ∃ features', insertFeature features row = .ok features' ∧
      features'.rows = features.rows ++ [row] := by
  have hnone : (features.rows.any fun pf =>
      pf.planId = row.planId && pf.featureKey = row.featureKey) = false := by
    rw [List.any_eq_false]
    intro pf hpf hsame
    rw [Bool.and_eq_true, decide_eq_true_iff, decide_eq_true_iff] at hsame
    exact hapart pf hpf hsame
  cases hinsert : features.insert? row with
  | none =>
    obtain ⟨pf, hpf, hkey⟩ := Table.insert?_eq_none.1 hinsert
    exact absurd hkey (hid pf hpf)
  | some features' =>
    refine ⟨features', ?_, (Table.insert?_eq_some hinsert).2⟩
    rw [insertFeature, hnone]
    exact addRowOrRaise_eq_ok.2 hinsert

theorem insertFeature_eq_ok (h : insertFeature features row = .ok features') :
    (∀ pf ∈ features.rows, Apart pf row) ∧ features'.rows = features.rows ++ [row] := by
  obtain ⟨_, hnone, hadd⟩ := bind_eq_ok.1 h
  refine ⟨?_, (Table.insert?_eq_some (addRowOrRaise_eq_ok.1 hadd)).2⟩
  intro pf hpf hsame
  refine raiseIf_eq_ok.1 hnone (List.any_eq_true.2 ⟨pf, hpf, ?_⟩)
  rw [Bool.and_eq_true, decide_eq_true_iff, decide_eq_true_iff]
  exact hsame

theorem insertFeature_eq_error {err : Error} (h : insertFeature features row = .error err) :
    err = .integrity := by
  rw [insertFeature, raiseIf] at h
  split at h
  · cases h
    rfl
  · rw [ok_bind, addRow, addRowOrRaise] at h
    cases hinsert : features.insert? row with
    | none =>
      rw [hinsert] at h
      cases h
      rfl
    | some features' =>
      rw [hinsert] at h
      cases h

theorem insertFeatures_ok (rows : List PlanFeature) : ∀ features : Table PlanFeature,
    (∀ row ∈ rows, ∀ pf ∈ features.rows, pf.id ≠ row.id ∧ Apart pf row) →
    rows.Pairwise (fun a b => a.id ≠ b.id ∧ Apart a b) →
    ∃ features', rows.foldlM insertFeature features = .ok features' ∧
      features'.rows = features.rows ++ rows := by
  induction rows with
  | nil => exact fun features _ _ => ⟨features, rfl, (List.append_nil _).symm⟩
  | cons row rows ih =>
    intro features hfree hpairwise
    obtain ⟨hrow, hrest⟩ := List.forall_mem_cons.1 hfree
    obtain ⟨hfirst, hpairwise⟩ := List.pairwise_cons.1 hpairwise
    obtain ⟨features', hinsert, hrows⟩ := insertFeature_of_apart
      (fun pf hpf => (hrow pf hpf).1) (fun pf hpf => (hrow pf hpf).2)
    obtain ⟨features'', hrun, hrows'⟩ := ih features' (by
      intro other ho pf hpf
      rw [hrows, List.mem_append, List.mem_singleton] at hpf
      rcases hpf with hpf | rfl
      · exact hrest other ho pf hpf
      · exact hfirst other ho) hpairwise
    refine ⟨features'', ?_, ?_⟩
    · rw [List.foldlM_cons, hinsert]
      exact hrun
    · rw [hrows', hrows, List.append_assoc, List.singleton_append]

theorem insertFeatures_eq_ok (rows : List PlanFeature) : ∀ {features features' : Table PlanFeature},
    rows.foldlM insertFeature features = .ok features' →
    (∀ row ∈ rows, ∀ pf ∈ features.rows, Apart pf row) ∧ rows.Pairwise Apart := by
  induction rows with
  | nil => exact fun _ => ⟨fun _ h => (nomatch h), List.Pairwise.nil⟩
  | cons row rows ih =>
    intro features features' h
    rw [List.foldlM_cons] at h
    obtain ⟨middle, hinsert, h⟩ := bind_eq_ok.1 h
    obtain ⟨hapart, hrows⟩ := insertFeature_eq_ok hinsert
    obtain ⟨hrest, hpairwise⟩ := ih h
    refine ⟨List.forall_mem_cons.2 ⟨hapart, ?_⟩, List.pairwise_cons.2 ⟨?_, hpairwise⟩⟩
    · intro other ho pf hpf
      exact hrest other ho pf (hrows ▸ List.mem_append_left _ hpf)
    · intro other ho
      exact hrest other ho row (hrows ▸ List.mem_append_right _ (List.mem_singleton_self _))

theorem insertFeatures_eq_error (rows : List PlanFeature) : ∀ {features : Table PlanFeature}
    {err : Error}, rows.foldlM insertFeature features = .error err → err = .integrity := by
  induction rows with
  | nil => exact fun h => (nomatch h)
  | cons row rows ih =>
    intro features err h
    rw [List.foldlM_cons] at h
    cases hinsert : insertFeature features row with
    | error err' =>
      rw [hinsert] at h
      cases h
      exact insertFeature_eq_error hinsert
    | ok middle =>
      rw [hinsert] at h
      exact ih h

/-! ### The edit -/

theorem isStored_iff : isStored e features item = true ↔
    ∃ pf ∈ features.rows, pf.planId = e.planId ∧ pf.featureKey = item.featureKey := by
  rw [isStored, List.any_eq_true]
  refine exists_congr fun pf => and_congr_right fun _ => ?_
  rw [Bool.and_eq_true, decide_eq_true_iff, decide_eq_true_iff]

theorem mem_newItems : item ∈ newItems e features items ↔
    item ∈ items ∧ ¬∃ pf ∈ features.rows, pf.planId = e.planId ∧
      pf.featureKey = item.featureKey := by
  rw [newItems, List.mem_filter, Bool.not_eq_true', ← Bool.not_eq_true, isStored_iff]

theorem settle_featureKey : (settle e items pf).featureKey = pf.featureKey := by
  rw [settle]
  split
  · rfl
  · rfl

theorem settle_planId : (settle e items pf).planId = pf.planId := by
  rw [settle]
  split
  · rfl
  · rfl

theorem settle_id : (settle e items pf).id = pf.id := by
  rw [settle]
  split
  · rfl
  · rfl

theorem settle_of_other (h : pf.planId ≠ e.planId ∨ pf.featureKey ∉ items.map (·.featureKey)) :
    settle e items pf = pf := by
  rw [settle]
  by_cases hplan : pf.planId = e.planId
  · have hlast : lastEnabled items pf.featureKey = none := by
      rw [lastEnabled, Option.map_eq_none_iff, List.find?_eq_none]
      intro item hitem hkey
      refine h.elim (fun hne => hne hplan) fun hunnamed => hunnamed ?_
      exact List.mem_map.2 ⟨item, List.mem_reverse.1 hitem, of_decide_eq_true hkey⟩
    rw [if_pos hplan, hlast]
    rfl
  · rw [if_neg hplan]

theorem exists_of_lastEnabled {featureKey : String} {enabled : Bool}
    (h : lastEnabled items featureKey = some enabled) :
    ∃ item ∈ items, item.featureKey = featureKey ∧ item.enabled = enabled := by
  rw [lastEnabled, Option.map_eq_some_iff] at h
  obtain ⟨item, hfound, henabled⟩ := h
  refine ⟨item, List.mem_reverse.1 (List.mem_of_find?_eq_some hfound), ?_, henabled⟩
  simpa using List.find?_some hfound

/-- The keys that the plan does not have are named once each, and the column holds them. -/
def NamedOnce (e : Edit) (features : Table PlanFeature) (items : List PlanFeatureBulkItem) : Prop :=
  (∀ item ∈ newItems e features items, storesKey item.featureKey = true) ∧
    ((newItems e features items).map (·.featureKey)).Nodup

/-- **EXACTNESS** of the edit of the features. -/
theorem featuresSet_of_rows {db db' : Database} (hnatural : NaturalKeys db)
    (hnodup : ((newItems e db.planFeatures items).map (·.featureKey)).Nodup)
    (hrows : db'.planFeatures.rows = db.planFeatures.rows.map (settle e items) ++
      (newItems e db.planFeatures items).map (newFeature e))
    (hrest : { db' with planFeatures := db.planFeatures, auditEvents := db.auditEvents } = db) :
    FeaturesSet e items db db' := by
  have hmem : ∀ pf, pf ∈ db'.planFeatures.rows ↔
      (∃ old ∈ db.planFeatures.rows, settle e items old = pf) ∨
        ∃ item ∈ newItems e db.planFeatures items, newFeature e item = pf := by
    intro pf
    rw [hrows, List.mem_append, List.mem_map, List.mem_map]
  refine ⟨?_, ?_, ?_, hrest⟩
  · intro featureKey enabled hlast
    obtain ⟨item, hitem, rfl, henabled⟩ := exists_of_lastEnabled hlast
    by_cases hstored : ∃ pf ∈ db.planFeatures.rows, pf.planId = e.planId ∧
        pf.featureKey = item.featureKey
    · obtain ⟨pf, hpf, hplan, hkey⟩ := hstored
      refine ⟨settle e items pf, ?_, settle_featureKey.trans hkey, ?_⟩
      · rw [planFeaturesOf, Table.mem_select, hmem, settle_planId]
        exact ⟨Or.inl ⟨pf, hpf, rfl⟩, decide_eq_true hplan⟩
      · rw [settle, if_pos hplan, hkey, hlast]
        rfl
    · refine ⟨newFeature e item, ?_, rfl, henabled⟩
      rw [planFeaturesOf, Table.mem_select, hmem]
      exact ⟨Or.inr ⟨item, mem_newItems.2 ⟨hitem, hstored⟩, rfl⟩, decide_eq_true rfl⟩
  · intro a ha b hb hplan hkey
    rcases (hmem a).1 ha with ⟨a₀, ha₀, rfl⟩ | ⟨x, hx, rfl⟩
    · rw [settle_planId] at hplan
      rw [settle_featureKey] at hkey
      rcases (hmem b).1 hb with ⟨b₀, hb₀, rfl⟩ | ⟨y, hy, rfl⟩
      · rw [settle_planId] at hplan
        rw [settle_featureKey] at hkey
        rw [hnatural.features a₀ ha₀ b₀ hb₀ hplan hkey]
      · exact absurd ⟨a₀, ha₀, hplan, hkey⟩ (mem_newItems.1 hy).2
    · rcases (hmem b).1 hb with ⟨b₀, hb₀, rfl⟩ | ⟨y, hy, rfl⟩
      · rw [settle_planId] at hplan
        rw [settle_featureKey] at hkey
        exact absurd ⟨b₀, hb₀, hplan.symm, hkey.symm⟩ (mem_newItems.1 hx).2
      · rw [List.inj_on_of_nodup_map hnodup hx hy hkey]
  · intro pf hother
    rw [hmem]
    constructor
    · rintro (⟨old, hold, rfl⟩ | ⟨item, hitem, rfl⟩)
      · rw [settle_planId, settle_featureKey] at hother
        rw [settle_of_other hother]
        exact hold
      · refine hother.elim (fun hplan => absurd rfl hplan) fun hkey => absurd ?_ hkey
        exact List.mem_map.2 ⟨item, (mem_newItems.1 hitem).1, rfl⟩
    · exact fun hpf => Or.inl ⟨pf, hpf, settle_of_other hother⟩

/-- **THE OUTCOME OF THE FLUSH**: with new keys named once each, the settled rows and the new
ones; otherwise an error of the database. -/
theorem flushFeatures_cases {db : Database} (hnatural : NaturalKeys db) (hfresh : FreshIds e db)
    (items : List PlanFeatureBulkItem) :
    (NamedOnce e db.planFeatures items ∧ ∃ features,
      flushFeatures (items.foldl (setFeature e) ⟨db.planFeatures, [], false⟩) = .ok features ∧
        features.rows = db.planFeatures.rows.map (settle e items) ++
          (newItems e db.planFeatures items).map (newFeature e)) ∨
    (¬NamedOnce e db.planFeatures items ∧ ∃ err, (err = .dataError ∨ err = .integrity) ∧
      flushFeatures (items.foldl (setFeature e) ⟨db.planFeatures, [], false⟩) = .error err) := by
  obtain ⟨hrows, hcreated⟩ := setFeatures_spec (e := e) items ⟨db.planFeatures, [], false⟩
    hnatural.features
  rw [List.nil_append] at hcreated
  rw [flushFeatures, hcreated]
  generalize (items.foldl (setFeature e) ⟨db.planFeatures, [], false⟩).features = features at hrows
  dsimp only at hrows ⊢
  by_cases hstores : (((newItems e db.planFeatures items).map (newFeature e)).all
      fun pf => storesKey pf.featureKey) = true
  · rw [hstores, raiseIf, if_neg (Bool.noConfusion : ¬true = false), ok_bind]
    have hall : ∀ item ∈ newItems e db.planFeatures items, storesKey item.featureKey = true :=
      fun item hitem => List.all_eq_true.1 hstores _ (List.mem_map_of_mem hitem)
    by_cases hnodup : ((newItems e db.planFeatures items).map (·.featureKey)).Nodup
    · refine Or.inl ⟨⟨hall, hnodup⟩, ?_⟩
      rw [← hrows]
      refine insertFeatures_ok _ features ?_ ?_
      · intro row hrow pf hpf
        obtain ⟨item, hitem, rfl⟩ := List.mem_map.1 hrow
        rw [hrows] at hpf
        obtain ⟨old, hold, rfl⟩ := List.mem_map.1 hpf
        refine ⟨?_, ?_⟩
        · rw [settle_id]
          exact (hfresh.features old hold _).symm
        rintro ⟨hplan, hkey⟩
        rw [settle_planId] at hplan
        rw [settle_featureKey] at hkey
        exact (mem_newItems.1 hitem).2 ⟨old, hold, hplan, hkey⟩
      · rw [List.pairwise_map]
        rw [List.nodup_iff_pairwise_ne, List.pairwise_map] at hnodup
        refine hnodup.imp fun hne => ⟨fun hid => hne (hfresh.injective _ _ hid), ?_⟩
        exact fun hsame => hne hsame.2
    · refine Or.inr ⟨fun h => hnodup h.2, ?_⟩
      cases hrun : ((newItems e db.planFeatures items).map (newFeature e)).foldlM insertFeature
          features with
      | error err => exact ⟨err, Or.inr (insertFeatures_eq_error _ hrun), rfl⟩
      | ok features' =>
        have hpairwise := (insertFeatures_eq_ok _ hrun).2
        rw [List.pairwise_map] at hpairwise
        refine absurd ?_ hnodup
        rw [List.nodup_iff_pairwise_ne, List.pairwise_map]
        exact hpairwise.imp fun hapart hkey => hapart ⟨rfl, hkey⟩
  · rw [Bool.not_eq_true] at hstores
    rw [hstores]
    refine Or.inr ⟨fun h => ?_, .dataError, Or.inl rfl, rfl⟩
    rw [List.all_eq_false] at hstores
    obtain ⟨row, hrow, hnot⟩ := hstores
    obtain ⟨item, hitem, rfl⟩ := List.mem_map.1 hrow
    exact hnot (h.1 item hitem)

end FeatureEdit

end PlanService
end AeroComply
