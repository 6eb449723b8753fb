import AeroComply.Core.Python

/-!
# Frontend.Kleene — the rule tree as the browser evaluates it

`frontend/lib/mock/kleene.ts`, over the types of `lib/mock/types.ts`.  The pages
evaluate a condition tree again from the results of its leaves.  `visit` writes
into the record `results` on its way up, so it is given that record and returns
it with its own result.

A `Record<string, ConditionResult>` is a dictionary with text keys.  The keys are
the identifiers of conditions, which the interface serves as the texts of UUIDs:
none of them is a property that every object has.
-/

namespace AeroComply.Frontend

open Relational (Table)

inductive ConditionResult
  | true
  | false
  | unknown
  deriving DecidableEq, Repr

inductive ConditionType
  | aircraftType
  | aircraftVariant
  | msnRange
  | engineType
  | componentPart
  | registration
  | modificationExclusion
  | and
  | or
  | not
  deriving DecidableEq, Repr

/-- A node of a condition tree; a leaf has no `children`. -/
inductive ApplicabilityCondition
  | mk (id : String) (conditionType : ConditionType)
      (children : Option (List ApplicabilityCondition))

def kleeneAnd (a b : ConditionResult) : ConditionResult :=
  if a = .false ∨ b = .false then .false
  else if a = .unknown ∨ b = .unknown then .unknown
  else .true

def kleeneOr (a b : ConditionResult) : ConditionResult :=
  if a = .true ∨ b = .true then .true
  else if a = .unknown ∨ b = .unknown then .unknown
  else .false

def kleeneNot (a : ConditionResult) : ConditionResult :=
  if a = .unknown then .unknown
  else if a = .true then .false
  else .true

/-- `leafResults[n.id] ?? "UNKNOWN"`. -/
def leafResult (leafResults : Dict ConditionResult) (id : String) : ConditionResult :=
  (leafResults.get id).getD .unknown

/-- `results[n.id] = result; return result`. -/
def record (id : String) (result : ConditionResult) (results : Dict ConditionResult) :
    ConditionResult × Dict ConditionResult :=
  (result, results.upsert ⟨id, result⟩)

section Visit

variable (leafResults : Dict ConditionResult)

mutual

def visit : ApplicabilityCondition → Dict ConditionResult →
    ConditionResult × Dict ConditionResult
  | .mk id conditionType children, results =>
    match conditionType with
    | .and =>
      let (childResults, results) := visitChildren children results
      record id (childResults.foldl kleeneAnd .true) results
    | .or =>
      let (childResults, results) := visitChildren children results
      record id (childResults.foldl kleeneOr .false) results
    | .not =>
      let (childResults, results) := visitChildren children results
      record id (kleeneNot (childResults.head?.getD .unknown)) results
    | _ => record id (leafResult leafResults id) results

/-- `(n.children ?? []).map(visit)`. -/
def visitChildren : Option (List ApplicabilityCondition) → Dict ConditionResult →
    List ConditionResult × Dict ConditionResult
  | none, results => ([], results)
  | some children, results => visitAll children results

/-- `children.map(visit)`. -/
def visitAll : List ApplicabilityCondition → Dict ConditionResult →
    List ConditionResult × Dict ConditionResult
  | [], results => ([], results)
  | child :: children, results =>
    let (result, results) := visit child results
    let (childResults, results) := visitAll children results
    (result :: childResults, results)

end

def evaluateTree (node : ApplicabilityCondition) : Dict ConditionResult :=
  (visit leafResults node Table.empty).2

end Visit

/-! ## What a visit returns and writes -/

namespace ApplicabilityCondition

def id : ApplicabilityCondition → String
  | mk id _ _ => id

theorem induct {P : ApplicabilityCondition → Prop}
    (node : ∀ id conditionType (children : Option (List ApplicabilityCondition)),
      (∀ m ∈ children.getD [], P m) → P (.mk id conditionType children)) :
    ∀ n, P n := by
  exact @ApplicabilityCondition.rec P (fun children => ∀ m ∈ children.getD [], P m)
    (fun children => ∀ m ∈ children, P m) node (fun m hm => (nomatch hm)) (fun _ ih => ih)
    (fun m hm => (nomatch hm)) (fun _ _ ih ihs => List.forall_mem_cons.2 ⟨ih, ihs⟩)

end ApplicabilityCondition

namespace ConditionType

/-- The conditions that are put together from others. -/
def isCombinator : ConditionType → Bool
  | and | or | not => true
  | _ => false

/-- The result of a node from the results of its children. -/
def combine (leafResults : Dict ConditionResult) (id : String) (conditionType : ConditionType)
    (childResults : List ConditionResult) : ConditionResult :=
  match conditionType with
  | and => childResults.foldl kleeneAnd .true
  | or => childResults.foldl kleeneOr .false
  | not => kleeneNot (childResults.head?.getD .unknown)
  | _ => leafResult leafResults id

end ConditionType

section Values

variable (leafResults : Dict ConditionResult)

mutual

/-- What a node is worth. -/
def value : ApplicabilityCondition → ConditionResult
  | .mk id conditionType children =>
    conditionType.combine leafResults id (valuesOf children)

def valuesOf : Option (List ApplicabilityCondition) → List ConditionResult
  | none => []
  | some children => valuesAll children

def valuesAll : List ApplicabilityCondition → List ConditionResult
  | [] => []
  | child :: children => value child :: valuesAll children

end

end Values

mutual

/-- The nodes that are visited, in the order in which they are recorded. -/
def visited : ApplicabilityCondition → List ApplicabilityCondition
  | .mk id conditionType children =>
    (if conditionType.isCombinator then visitedOf children else [])
      ++ [.mk id conditionType children]

def visitedOf : Option (List ApplicabilityCondition) → List ApplicabilityCondition
  | none => []
  | some children => visitedAll children

def visitedAll : List ApplicabilityCondition → List ApplicabilityCondition
  | [] => []
  | child :: children => visited child ++ visitedAll children

end

section Visited

variable {leafResults results : Dict ConditionResult} {id : String}
  {conditionType : ConditionType} {children : Option (List ApplicabilityCondition)}
  {n : ApplicabilityCondition}

theorem valuesAll_eq (children : List ApplicabilityCondition) :
    valuesAll leafResults children = children.map (value leafResults) := by
  induction children with
  | nil => rfl
  | cons child children ih => exact congrArg (value leafResults child :: ·) ih

theorem visitedAll_eq (children : List ApplicabilityCondition) :
    visitedAll children = children.flatMap visited := by
  induction children with
  | nil => rfl
  | cons child children ih =>
    rw [List.flatMap_cons, ← ih]
    rfl

theorem value_mk : value leafResults (.mk id conditionType children) =
    conditionType.combine leafResults id ((children.getD []).map (value leafResults)) := by
  cases children with
  | none => rfl
  | some children =>
    rw [value, valuesOf, valuesAll_eq]
    rfl

theorem visited_of_combinator (h : conditionType.isCombinator = true) :
    visited (.mk id conditionType children) =
      (children.getD []).flatMap visited ++ [.mk id conditionType children] := by
  rw [visited, if_pos h]
  cases children with
  | none => rfl
  | some children =>
    rw [visitedOf, visitedAll_eq]
    rfl

theorem visited_of_leaf (h : conditionType.isCombinator = false) :
    visited (.mk id conditionType children) = [.mk id conditionType children] := by
  rw [visited, h]
  rfl

/-- The entry that a visit of the node leaves. -/
def entry (leafResults : Dict ConditionResult) (n : ApplicabilityCondition) :
    Entry ConditionResult := ⟨n.id, value leafResults n⟩

theorem visitAll_eq {children : List ApplicabilityCondition}
    (h : ∀ m ∈ children, ∀ results, visit leafResults m results =
      (value leafResults m, ((visited m).map (entry leafResults)).foldl Table.upsert results)) :
    ∀ results, visitAll leafResults children results =
      (children.map (value leafResults),
        ((children.flatMap visited).map (entry leafResults)).foldl Table.upsert results) := by
  induction children with
  | nil => exact fun _ => rfl
  | cons child children ih =>
    intro results
    rw [visitAll, h child List.mem_cons_self]
    dsimp only
    rw [ih fun m hm => h m (List.mem_cons_of_mem _ hm)]
    rw [List.flatMap_cons, List.map_append, List.foldl_append]
    rfl

theorem visitChildren_eq
    (h : ∀ m ∈ children.getD [], ∀ results, visit leafResults m results =
      (value leafResults m, ((visited m).map (entry leafResults)).foldl Table.upsert results)) :
    visitChildren leafResults children results =
      ((children.getD []).map (value leafResults),
        (((children.getD []).flatMap visited).map (entry leafResults)).foldl Table.upsert
          results) := by
  cases children with
  | none => rfl
  | some children =>
    rw [visitChildren]
    exact visitAll_eq h results

/-- **A VISIT** returns what the node is worth and records each visited node. -/
theorem visit_eq (n : ApplicabilityCondition) : ∀ results, visit leafResults n results =
    (value leafResults n, ((visited n).map (entry leafResults)).foldl Table.upsert results) := by
  induction n using ApplicabilityCondition.induct with
  | node id conditionType children ih =>
    intro results
    let root : ApplicabilityCondition := .mk id conditionType children
    have hlast : ∀ nodes : List ApplicabilityCondition,
        ((nodes ++ [root]).map (entry leafResults)).foldl Table.upsert results =
          ((nodes.map (entry leafResults)).foldl Table.upsert results).upsert
            ⟨id, value leafResults root⟩ := by
      intro nodes
      rw [List.map_append, List.foldl_append]
      rfl
    by_cases hcombinator : conditionType.isCombinator = true
    · rw [visited_of_combinator hcombinator, hlast]
      cases conditionType with
      | and | or | not =>
        rw [visit]
        dsimp only
        rw [visitChildren_eq ih, value_mk]
        rfl
      | _ => exact absurd hcombinator Bool.false_ne_true
    · have hleaf := Bool.eq_false_iff.2 hcombinator
      rw [visited_of_leaf hleaf, ← List.nil_append [root], hlast]
      cases conditionType with
      | and | or | not => exact absurd rfl hcombinator
      | _ => rfl

/-- **THE RECORD** of a tree with different identifiers has one entry for each visited node. -/
theorem rows_evaluateTree (hids : ((visited n).map (·.id)).Nodup) :
    (evaluateTree leafResults n).rows = (visited n).map (entry leafResults) := by
  rw [evaluateTree, visit_eq]
  refine Dict.rows_ofEntries ?_
  rw [List.map_map]
  exact hids

end Visited

end AeroComply.Frontend
