import AeroComply.Frontend.Kleene
import AeroComply.Applicability.Evaluation

/-!
# Frontend.Agreement — two evaluators of one tree

The browser's `visit` folds over the results of all the children of a node; the
service's `_evaluate_node` leaves its loop at an absorbing value, reads a node's
type in any case and evaluates only the first child of a NOT.  On two
representations of one tree whose leaves have the same results, both give every
visited node the same value.
-/

namespace AeroComply.Frontend

open ApplicabilityService (evaluateNode evaluateChildren)

/-- How a value is shown. -/
def ofKleene : KleeneValue → ConditionResult
  | .true => .true
  | .false => .false
  | .unknown => .unknown

/-! ## The operations -/

theorem ofKleene_kleeneAnd (a b : KleeneValue) :
    kleeneAnd (ofKleene a) (ofKleene b) = ofKleene (AeroComply.kleeneAnd a b) := by
  cases a <;> cases b <;> rfl

theorem ofKleene_kleeneOr (a b : KleeneValue) :
    kleeneOr (ofKleene a) (ofKleene b) = ofKleene (AeroComply.kleeneOr a b) := by
  cases a <;> cases b <;> rfl

theorem ofKleene_kleeneNot (a : KleeneValue) :
    kleeneNot (ofKleene a) = ofKleene (AeroComply.kleeneNot a) := by
  cases a <;> rfl

theorem ofKleene_kleeneAndAll (operands : List KleeneValue) :
    (operands.map ofKleene).foldl kleeneAnd .true = ofKleene (kleeneAndAll operands) := by
  rw [kleeneAndAll_eq_foldl, List.foldl_map]
  show operands.foldl (fun result v => kleeneAnd result (ofKleene v)) (ofKleene .true) = _
  rw [List.foldl_hom ofKleene ofKleene_kleeneAnd]

theorem ofKleene_kleeneOrAll (operands : List KleeneValue) :
    (operands.map ofKleene).foldl kleeneOr .false = ofKleene (kleeneOrAll operands) := by
  rw [kleeneOrAll_eq_foldl, List.foldl_map]
  show operands.foldl (fun result v => kleeneOr result (ofKleene v)) (ofKleene .false) = _
  rw [List.foldl_hom ofKleene ofKleene_kleeneOr]

/-! ## Two representations of a tree -/

section Mirror

variable (u : UnicodeTables) (idText : UUID → String)

/-- The combinator that a stored condition type names. -/
def combinatorOf (conditionType : String) : Option ConditionType :=
  let condType := u.upperText conditionType.toList
  if condType = "AND".toList then some .and
  else if condType = "OR".toList then some .or
  else if condType = "NOT".toList then some .not
  else none

/-- **ONE TREE TWICE**: the same identifiers and the same combinators over the same children,
in the same order, and a leaf where the other has a leaf. -/
inductive Mirrors : ApplicabilityCondition → AeroComply.ApplicabilityCondition → Prop
  | leaf {id organizationId : UUID} {stored label : String}
      {parameters : Option (List (String × Json))} {conditionType : ConditionType}
      {children : Option (List ApplicabilityCondition)}
      {conditions : List AeroComply.ApplicabilityCondition}
      (hshown : conditionType.isCombinator = false) (hstored : combinatorOf u stored = none) :
      Mirrors (.mk (idText id) conditionType children)
        (.mk id organizationId stored label parameters conditions)
  | combinator {id organizationId : UUID} {stored label : String}
      {parameters : Option (List (String × Json))} {conditionType : ConditionType}
      {children : Option (List ApplicabilityCondition)}
      {conditions : List AeroComply.ApplicabilityCondition}
      (hstored : combinatorOf u stored = some conditionType)
      (hchildren : List.Forall₂ Mirrors (children.getD []) conditions) :
      Mirrors (.mk (idText id) conditionType children)
        (.mk id organizationId stored label parameters conditions)

mutual

/-- The conditions of a stored tree from its leaves up; what stands below a leaf is not part
of the rule. -/
def conditionsOf : AeroComply.ApplicabilityCondition → List AeroComply.ApplicabilityCondition
  | .mk id organizationId stored label parameters conditions =>
    (if (combinatorOf u stored).isSome then conditionsOfAll conditions else [])
      ++ [.mk id organizationId stored label parameters conditions]

def conditionsOfAll :
    List AeroComply.ApplicabilityCondition → List AeroComply.ApplicabilityCondition
  | [] => []
  | condition :: conditions => conditionsOf condition ++ conditionsOfAll conditions

end

def isLeaf : AeroComply.ApplicabilityCondition → Bool
  | .mk _ _ stored _ _ _ => (combinatorOf u stored).isNone

/-- On a snapshot, the leaves of a stored tree have the results of the record. -/
def LeavesHave (snapshot : ConfigurationSnapshot) (leafResults : Dict ConditionResult)
    (c : AeroComply.ApplicabilityCondition) : Prop :=
  ∀ d ∈ conditionsOf u c, isLeaf u d = true →
    ∃ val trace, evaluateNode u snapshot d = .ok (val, trace) ∧
      ofKleene val = leafResult leafResults (idText d.id)

end Mirror

section Agreement

variable {u : UnicodeTables} {idText : UUID → String} {snapshot : ConfigurationSnapshot}
  {leafResults : Dict ConditionResult} {id organizationId : UUID} {stored label : String}
  {parameters : Option (List (String × Json))} {conditionType : ConditionType}
  {children : Option (List ApplicabilityCondition)}
  {conditions : List AeroComply.ApplicabilityCondition}
  {n : ApplicabilityCondition} {c d : AeroComply.ApplicabilityCondition}

theorem isCombinator_of_stored (h : combinatorOf u stored = some conditionType) :
    conditionType.isCombinator = true := by
  rw [combinatorOf] at h
  split_ifs at h
  all_goals
    cases h
    rfl

theorem conditionsOfAll_eq (conditions : List AeroComply.ApplicabilityCondition) :
    conditionsOfAll u conditions = conditions.flatMap (conditionsOf u) := by
  induction conditions with
  | nil => rfl
  | cons condition conditions ih =>
    rw [List.flatMap_cons, ← ih]
    rfl

theorem conditionsOf_of_combinator (h : combinatorOf u stored = some conditionType) :
    conditionsOf u (.mk id organizationId stored label parameters conditions) =
      conditions.flatMap (conditionsOf u)
        ++ [.mk id organizationId stored label parameters conditions] := by
  rw [conditionsOf, h, conditionsOfAll_eq]
  rfl

theorem conditionsOf_of_leaf (h : combinatorOf u stored = none) :
    conditionsOf u (.mk id organizationId stored label parameters conditions) =
      [.mk id organizationId stored label parameters conditions] := by
  rw [conditionsOf, h]
  rfl

theorem isLeaf_of_stored (h : combinatorOf u stored = none) :
    isLeaf u (.mk id organizationId stored label parameters conditions) = true := by
  rw [isLeaf, h]
  rfl

theorem LeavesHave.leaf_iff (h : combinatorOf u stored = none) :
    LeavesHave u idText snapshot leafResults
        (.mk id organizationId stored label parameters conditions) ↔
      ∃ val trace, evaluateNode u snapshot
          (.mk id organizationId stored label parameters conditions) = .ok (val, trace) ∧
        ofKleene val = leafResult leafResults (idText id) := by
  rw [LeavesHave, conditionsOf_of_leaf h, List.forall_mem_singleton]
  exact ⟨fun hroot => hroot (isLeaf_of_stored h), fun hroot _ => hroot⟩

theorem LeavesHave.combinator_iff (h : combinatorOf u stored = some conditionType) :
    LeavesHave u idText snapshot leafResults
        (.mk id organizationId stored label parameters conditions) ↔
      ∀ d ∈ conditions, LeavesHave u idText snapshot leafResults d := by
  have hroot : isLeaf u (.mk id organizationId stored label parameters conditions) = false := by
    rw [isLeaf, h]
    rfl
  rw [LeavesHave, conditionsOf_of_combinator h]
  constructor
  · intro hleaves d hd leaf hleaf
    exact hleaves leaf (List.mem_append_left _ (List.mem_flatMap.2 ⟨d, hd, hleaf⟩))
  · intro hchildren leaf hleaf hisLeaf
    rcases List.mem_append.1 hleaf with hbelow | hself
    · obtain ⟨d, hd, hleaf⟩ := List.mem_flatMap.1 hbelow
      exact hchildren d hd leaf hleaf hisLeaf
    · rw [List.mem_singleton.1 hself, hroot] at hisLeaf
      exact absurd hisLeaf Bool.false_ne_true

theorem forall₂_of_mem {α β : Type} {R S : α → β → Prop} {xs : List α} {ys : List β}
    (h : List.Forall₂ R xs ys) (hstep : ∀ x ∈ xs, ∀ y ∈ ys, R x y → S x y) :
    List.Forall₂ S xs ys := by
  rw [List.forall₂_iff_zip] at h ⊢
  refine ⟨h.1, ?_⟩
  intro x y hpair
  obtain ⟨hx, hy⟩ := List.of_mem_zip hpair
  exact hstep x hx y hy (h.2 hpair)

/-- The service gives the condition the value that the node is shown with. -/
def Agrees (u : UnicodeTables) (snapshot : ConfigurationSnapshot)
    (leafResults : Dict ConditionResult) (n : ApplicabilityCondition)
    (c : AeroComply.ApplicabilityCondition) : Prop :=
  ∃ val trace, evaluateNode u snapshot c = .ok (val, trace) ∧ ofKleene val = value leafResults n

theorem evaluateChildren_agrees {children : List ApplicabilityCondition}
    (h : List.Forall₂ (Agrees u snapshot leafResults) children conditions) :
    ∃ childResults, evaluateChildren u snapshot conditions = .ok childResults ∧
      (childResults.map Prod.fst).map ofKleene = children.map (value leafResults) := by
  induction h with
  | nil => exact ⟨[], rfl, rfl⟩
  | @cons n c children conditions hhead htail ih =>
    obtain ⟨val, trace, hrun, hval⟩ := hhead
    obtain ⟨childResults, hruns, hvals⟩ := ih
    refine ⟨(val, trace) :: childResults, ?_, ?_⟩
    · rw [evaluateChildren, hrun, ok_bind, hruns]
      rfl
    · rw [List.map_cons, List.map_cons, hvals, hval]
      rfl

/-- **ONE NODE**: over children that agree, a combinator agrees. -/
theorem combinator_agrees (hstored : combinatorOf u stored = some conditionType)
    (hchildren : List.Forall₂ (Agrees u snapshot leafResults) (children.getD []) conditions) :
    Agrees u snapshot leafResults (.mk (idText id) conditionType children)
      (.mk id organizationId stored label parameters conditions) := by
  obtain ⟨childResults, hruns, hvals⟩ := evaluateChildren_agrees hchildren
  rw [Agrees, value_mk, ← hvals]
  unfold evaluateNode
  rw [combinatorOf] at hstored
  dsimp only at hstored ⊢
  split_ifs at hstored with hand hor hnot
  · cases hstored
    rw [if_pos hand, hruns]
    exact ⟨_, _, rfl, (ofKleene_kleeneAndAll _).symm⟩
  · cases hstored
    rw [if_neg hand, if_pos hor, hruns]
    exact ⟨_, _, rfl, (ofKleene_kleeneOrAll _).symm⟩
  · cases hstored
    rw [if_neg hand, if_neg hor, if_pos hnot, hvals]
    generalize children.getD [] = nodes at hchildren
    -- the other children of a NOT have no part in its value on either side
    cases hchildren with
    | nil => exact ⟨_, _, rfl, rfl⟩
    | cons hhead _ =>
      obtain ⟨val, trace, hrun, hval⟩ := hhead
      dsimp only
      rw [hrun, ok_bind]
      refine ⟨_, _, rfl, ?_⟩
      show _ = kleeneNot (value leafResults _)
      rw [← hval]
      exact (ofKleene_kleeneNot val).symm

/-- **EVERY NODE**: by induction over the tree, the two representations agree. -/
theorem Mirrors.agrees (n : ApplicabilityCondition) : ∀ c, Mirrors u idText n c →
    LeavesHave u idText snapshot leafResults c → Agrees u snapshot leafResults n c := by
  induction n using ApplicabilityCondition.induct with
  | node id conditionType children ih =>
    intro c hmirror hleaves
    cases hmirror with
    | leaf hshown hstored =>
      obtain ⟨val, trace, hrun, hval⟩ := (LeavesHave.leaf_iff hstored).1 hleaves
      refine ⟨val, trace, hrun, ?_⟩
      rw [value_mk, hval]
      cases conditionType with
      | and | or | not => exact absurd hshown.symm Bool.false_ne_true
      | _ => rfl
    | combinator hstored hchildren =>
      refine combinator_agrees hstored (forall₂_of_mem hchildren ?_)
      intro m hm d hd hmirror
      exact ih m hm d hmirror ((LeavesHave.combinator_iff hstored).1 hleaves d hd)

theorem Mirrors.visited (n : ApplicabilityCondition) : ∀ c, Mirrors u idText n c →
    LeavesHave u idText snapshot leafResults c →
    List.Forall₂ (fun m d => Mirrors u idText m d ∧ LeavesHave u idText snapshot leafResults d)
      (visited n) (conditionsOf u c) := by
  induction n using ApplicabilityCondition.induct with
  | node id conditionType children ih =>
    intro c hmirror hleaves
    have hroot := And.intro hmirror hleaves
    cases hmirror with
    | leaf hshown hstored =>
      rw [visited_of_leaf hshown, conditionsOf_of_leaf hstored]
      exact .cons hroot .nil
    | combinator hstored hchildren =>
      rw [visited_of_combinator (isCombinator_of_stored hstored),
        conditionsOf_of_combinator hstored]
      refine List.rel_append ?_ (.cons hroot .nil)
      refine List.rel_flatMap (forall₂_of_mem hchildren ?_) fun _ _ hlists => hlists
      intro m hm d hd hmirror
      exact ih m hm d hmirror ((LeavesHave.combinator_iff hstored).1 hleaves d hd)

/-! ## Every assignment arises -/

/-- A snapshot of an A320 on which a variant can be matched, missed or left open. -/
def someSnapshot : ConfigurationSnapshot where
  aircraftId := none
  assetId := none
  registration := none
  msn := none
  aircraftType := some "A320"
  status := none
  installedEngines := []
  snapshotTimestamp := 0

/-- The parameters of a variant condition that has the result there. -/
def parametersFor : ConditionResult → Option (List (String × Json))
  | .true => some [("variant", .str "A320")]
  | .false => some [("variant", .str "B737")]
  | .unknown => none

theorem evaluateNode_parametersFor (id : UUID) (result : ConditionResult) :
    ∃ val trace, evaluateNode .ascii someSnapshot
        (.mk id 0 "AIRCRAFT_VARIANT" "" (parametersFor result) []) = .ok (val, trace) ∧
      ofKleene val = result := by
  cases result with
  | true => exact ⟨.true, _, rfl, rfl⟩
  | false => exact ⟨.false, _, rfl, rfl⟩
  | unknown => exact ⟨.unknown, _, rfl, rfl⟩

theorem exists_forall₂ {α β : Type} {R : α → β → Prop} {P : β → Prop} {xs : List α}
    (h : ∀ x ∈ xs, ∃ y, R x y ∧ P y) : ∃ ys, List.Forall₂ R xs ys ∧ ∀ y ∈ ys, P y := by
  induction xs with
  | nil => exact ⟨[], .nil, fun _ hy => (nomatch hy)⟩
  | cons x xs ih =>
    obtain ⟨hhead, htail⟩ := List.forall_mem_cons.1 h
    obtain ⟨y, hxy, hy⟩ := hhead
    obtain ⟨ys, hxys, hys⟩ := ih htail
    exact ⟨y :: ys, .cons hxy hxys, List.forall_mem_cons.2 ⟨hy, hys⟩⟩

/-- Whatever results the leaves of a tree are given, some stored rule of that tree has them. -/
theorem exists_mirror {idText : UUID → String} {leafResults : Dict ConditionResult}
    (n : ApplicabilityCondition) : (∀ m ∈ visited n, ∃ id, idText id = m.id) →
    ∃ c, Mirrors .ascii idText n c ∧ LeavesHave .ascii idText someSnapshot leafResults c := by
  induction n using ApplicabilityCondition.induct with
  | node shownId conditionType children ih =>
    intro hids
    by_cases hcombinator : conditionType.isCombinator = true
    · rw [visited_of_combinator hcombinator, List.forall_mem_append] at hids
      obtain ⟨hbelow, hroot⟩ := hids
      obtain ⟨id, hid⟩ := hroot _ (List.mem_singleton_self _)
      cases hid
      obtain ⟨conditions, hmirrors, hleaves⟩ := exists_forall₂ fun m hm => ih m hm fun m' hm' =>
        hbelow m' (List.mem_flatMap.2 ⟨m, hm, hm'⟩)
      obtain ⟨stored, hstored⟩ : ∃ stored, combinatorOf .ascii stored = some conditionType := by
        cases conditionType with
        | and => exact ⟨"AND", by decide⟩
        | or => exact ⟨"OR", by decide⟩
        | not => exact ⟨"NOT", by decide⟩
        | _ => exact absurd hcombinator Bool.false_ne_true
      exact ⟨.mk id 0 stored "" none conditions, .combinator hstored hmirrors,
        (LeavesHave.combinator_iff hstored).2 hleaves⟩
    · have hleaf := Bool.eq_false_iff.2 hcombinator
      rw [visited_of_leaf hleaf, List.forall_mem_singleton] at hids
      obtain ⟨id, hid⟩ := hids
      cases hid
      have hstored : combinatorOf .ascii "AIRCRAFT_VARIANT" = none := by decide
      exact ⟨_, .leaf hleaf hstored,
        (LeavesHave.leaf_iff hstored).2 (evaluateNode_parametersFor id _)⟩

/-! ## The record of the tree -/

theorem get_evaluateTree {m : ApplicabilityCondition} (hids : ((visited n).map (·.id)).Nodup)
    (hm : m ∈ visited n) : (evaluateTree leafResults n).get m.id = some (value leafResults m) := by
  rw [Dict.get_eq_some, rows_evaluateTree hids]
  exact List.mem_map.2 ⟨m, hm, rfl⟩

theorem Mirrors.id_eq (h : Mirrors u idText n c) : n.id = idText c.id := by
  cases h with
  | leaf => rfl
  | combinator => rfl

theorem mem_visited_self (n : ApplicabilityCondition) : n ∈ visited n := by
  cases n with
  | mk id conditionType children =>
    rw [visited]
    exact List.mem_append_right _ (List.mem_singleton_self _)

/-- **TWO EVALUATORS, ONE RESULT**: over a tree of any shape with different identifiers, and
leaves with the results of the record, the record that the browser makes has the root and
every node it visits, and nothing else, under the value that the service computes for the
node. -/
theorem evaluateTree_agrees (hmirror : Mirrors u idText n c)
    (hids : ((visited n).map (·.id)).Nodup)
    (hleaves : LeavesHave u idText snapshot leafResults c) :
    (∃ val trace, evaluateNode u snapshot c = .ok (val, trace) ∧
      (evaluateTree leafResults n).get n.id = some (ofKleene val)) ∧
    List.Forall₂ (fun m d => m.id = idText d.id ∧
        ∃ val trace, evaluateNode u snapshot d = .ok (val, trace) ∧
          (evaluateTree leafResults n).get m.id = some (ofKleene val))
      (visited n) (conditionsOf u c) ∧
    (evaluateTree leafResults n).rows.map Entry.key = (visited n).map (·.id) := by
  have hnode : ∀ m ∈ visited n, ∀ d, Mirrors u idText m d →
      LeavesHave u idText snapshot leafResults d →
      ∃ val trace, evaluateNode u snapshot d = .ok (val, trace) ∧
        (evaluateTree leafResults n).get m.id = some (ofKleene val) := by
    intro m hm d hmirror hleaves
    obtain ⟨val, trace, hrun, hval⟩ := Mirrors.agrees m d hmirror hleaves
    refine ⟨val, trace, hrun, ?_⟩
    rw [get_evaluateTree hids hm, hval]
  refine ⟨hnode n (mem_visited_self n) c hmirror hleaves, ?_, ?_⟩
  · refine forall₂_of_mem (Mirrors.visited n c hmirror hleaves) ?_
    intro m hm d _ hpair
    exact ⟨hpair.1.id_eq, hnode m hm d hpair.1 hpair.2⟩
  · rw [rows_evaluateTree hids, List.map_map]
    rfl

end Agreement

/-- How the identifiers are written. -/
def digitText (id : UUID) : String := String.singleton (Nat.digitChar id)

/-- The same rule in the browser and in the database: a NOT over two leaves, beside an empty OR. -/
def shownRule : ApplicabilityCondition :=
  .mk (digitText 1) .and (some [
    .mk (digitText 2) .not (some
      [.mk (digitText 3) .aircraftVariant none, .mk (digitText 4) .aircraftType none]),
    .mk (digitText 5) .or none ])

def storedRule : AeroComply.ApplicabilityCondition :=
  .mk 1 0 "And" "root" none [
    .mk 2 0 "NOT" "not a B737" none
      [ .mk 3 0 "AIRCRAFT_VARIANT" "B737" (parametersFor .false) [],
        .mk 4 0 "AIRCRAFT_TYPE" "Boeing" none [] ],
    .mk 5 0 "OR" "any of none" none [] ]

/-- Nothing is known of the second leaf. -/
def shownResults : Dict ConditionResult := Dict.ofEntries [⟨"3", .false⟩]

theorem storedRule_combinators : combinatorOf .ascii "And" = some .and ∧
    combinatorOf .ascii "OR" = some .or ∧ combinatorOf .ascii "NOT" = some .not := by
  decide

theorem storedRule_leafTypes : combinatorOf .ascii "AIRCRAFT_VARIANT" = none ∧
    combinatorOf .ascii "AIRCRAFT_TYPE" = none := by
  decide

theorem storedRule_mirrors : Mirrors .ascii digitText shownRule storedRule := by
  obtain ⟨hand, hor, hnot⟩ := storedRule_combinators
  obtain ⟨hvariant, htype⟩ := storedRule_leafTypes
  unfold shownRule storedRule
  apply Mirrors.combinator hand
  refine .cons ?_ (.cons ?_ .nil)
  · apply Mirrors.combinator hnot
    exact .cons (.leaf rfl hvariant) (.cons (.leaf rfl htype) .nil)
  · exact Mirrors.combinator hor .nil

theorem storedRule_leaves :
    LeavesHave .ascii digitText someSnapshot shownResults storedRule := by
  obtain ⟨hand, hor, hnot⟩ := storedRule_combinators
  obtain ⟨hvariant, htype⟩ := storedRule_leafTypes
  refine (LeavesHave.combinator_iff hand).2 (List.forall_mem_cons.2 ⟨?_, ?_⟩)
  · refine (LeavesHave.combinator_iff hnot).2 (List.forall_mem_cons.2 ⟨?_, ?_⟩)
    · exact (LeavesHave.leaf_iff hvariant).2 ⟨.false, _, rfl, by decide⟩
    · rw [List.forall_mem_singleton]
      exact (LeavesHave.leaf_iff htype).2 ⟨.unknown, _, rfl, by decide⟩
  · rw [List.forall_mem_singleton]
    exact (LeavesHave.combinator_iff hor).2 fun _ hd => (nomatch hd)

theorem storedRule_agrees :
    (∃ val trace, evaluateNode .ascii someSnapshot storedRule = .ok (val, trace) ∧
      (evaluateTree shownResults shownRule).get shownRule.id = some (ofKleene val)) ∧
    List.Forall₂ (fun m d => m.id = digitText d.id ∧
        ∃ val trace, evaluateNode .ascii someSnapshot d = .ok (val, trace) ∧
          (evaluateTree shownResults shownRule).get m.id = some (ofKleene val))
      (visited shownRule) (conditionsOf .ascii storedRule) ∧
    (evaluateTree shownResults shownRule).rows.map Entry.key = (visited shownRule).map (·.id) :=
  evaluateTree_agrees storedRule_mirrors (by decide) storedRule_leaves

end AeroComply.Frontend
