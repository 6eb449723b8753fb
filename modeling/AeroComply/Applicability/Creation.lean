import Mathlib.Data.List.Sort
import AeroComply.Applicability.Service

/-!
# Creation — storing a rule with its condition tree

`create_rule` and `_create_condition_node` of
`app/services/applicability/evaluation_service.py`.  The schema bounds the texts
of a request; the parameters are any JSON object and the condition type is any
text the column holds.  The identifiers of the conditions come from the server,
one for each place of the tree.
-/

namespace AeroComply

open Relational (Table)

namespace ApplicabilityService

inductive ApplicabilityConditionCreateRequest
  | mk (conditionType label : String) (parameters : Option (List (String × Json)))
      (sequence : Int) (children : List ApplicabilityConditionCreateRequest)

def ApplicabilityConditionCreateRequest.sequence : ApplicabilityConditionCreateRequest → Int
  | mk _ _ _ sequence _ => sequence

mutual

/-- The schema accepts the condition and every condition below it. -/
def ApplicabilityConditionCreateRequest.accepted : ApplicabilityConditionCreateRequest → Bool
  | .mk _ label _ _ children => decide (label.length ≤ 255) && allAccepted children

def allAccepted : List ApplicabilityConditionCreateRequest → Bool
  | [] => true
  | child :: children => child.accepted && allAccepted children

end

/-- `ApplicabilityRuleCreateRequest`, as the schema lets it through. -/
structure ApplicabilityRuleCreateRequest where
  ruleCode : String
  regulatoryRequirementId : Option UUID := none
  isActive : Bool := true
  rootCondition : Option ApplicabilityConditionCreateRequest := none
  ruleCode_length : ruleCode.length ≤ 64
  rootCondition_accepted : rootCondition.all
    ApplicabilityConditionCreateRequest.accepted = true

mutual

/-- `_create_condition_node`; the `children` relationship reads them back by `sequence`, those of
one sequence in the order they were created. -/
def createConditionNode (newId : List Nat → UUID) (organizationId : UUID) (path : List Nat) :
    ApplicabilityConditionCreateRequest → Except Error ApplicabilityCondition
  | .mk conditionType label parameters sequence children => do
    raiseIf (32 < conditionType.length) .dataError
    raiseIf (fitsInteger sequence = false) .dataError
    let nodes ← createChildren newId organizationId path 0 children
    pure (.mk (newId path) organizationId conditionType label parameters
      ((nodes.insertionSort fun c d => c.1 ≤ d.1).map Prod.snd))

/-- The children of a condition, each with its `sequence`. -/
def createChildren (newId : List Nat → UUID) (organizationId : UUID) (path : List Nat) (i : Nat) :
    List ApplicabilityConditionCreateRequest → Except Error (List (Int × ApplicabilityCondition))
  | [] => .ok []
  | child :: children => do
    let node ← createConditionNode newId organizationId (path ++ [i]) child
    let nodes ← createChildren newId organizationId path (i + 1) children
    pure ((child.sequence, node) :: nodes)

end

mutual

/-- The rows of a condition tree. -/
def nodesOf : ApplicabilityCondition → List ApplicabilityCondition
  | .mk id organizationId conditionType label parameters children =>
    .mk id organizationId conditionType label parameters children :: nodesOfAll children

def nodesOfAll : List ApplicabilityCondition → List ApplicabilityCondition
  | [] => []
  | child :: children => nodesOf child ++ nodesOfAll children

end

/-- The condition tree of a new rule, with the table its rows were added to. -/
def createRoot (db : Database) (newId : List Nat → UUID) (organizationId : UUID) :
    Option ApplicabilityConditionCreateRequest →
      Except Error (Table ApplicabilityCondition × Option ApplicabilityCondition)
  | none => .ok (db.conditions, none)
  | some request => do
    let root ← createConditionNode newId organizationId [] request
    let conditions ← (nodesOf root).foldlM addRow db.conditions
    pure (conditions, some root)

def createRule (db : Database) (newRuleId : UUID) (newId : List Nat → UUID)
    (organizationId : UUID) (actorUserId : Option UUID)
    (payload : ApplicabilityRuleCreateRequest) :
    Except Error (Database × ApplicabilityRule) := do
  let existing ← scalarOneOrNone (db.rules.select fun r =>
    r.organizationId = organizationId && r.ruleCode = payload.ruleCode)
  raiseIf (existing.isSome = true)
    (.conflict ("Applicability rule with code '" ++ payload.ruleCode ++ "' already exists."))
  let rule : ApplicabilityRule :=
    { id := newRuleId, organizationId, ruleCode := payload.ruleCode
      regulatoryRequirementId := payload.regulatoryRequirementId, isActive := payload.isActive }
  raiseIf (rule.regulatoryRequirementId.any (fun id => (db.requirements.find? id).isNone) = true)
    .integrity
  -- the rule is inserted before its conditions, and its root is set once that exists
  let _ ← addRow db.rules rule
  let (conditions, root) ← createRoot db newId organizationId payload.rootCondition
  let rule := { rule with rootConditionId := root.map ApplicabilityCondition.id }
  let rules ← addRow db.rules rule
  pure (({ db with rules, conditions }).recordAuditEvent organizationId actorUserId
    "applicability_rule.created" "ApplicabilityRule" (some rule.id), rule)

theorem mem_nodesOf (c : ApplicabilityCondition) : c ∈ nodesOf c := by
  cases c with
  | mk id organizationId conditionType label parameters children => exact List.mem_cons_self

theorem organizationId_of_createConditionNode {newId : List Nat → UUID} {org : UUID}
    {path : List Nat} {request : ApplicabilityConditionCreateRequest}
    {node : ApplicabilityCondition}
    (h : createConditionNode newId org path request = .ok node) : node.organizationId = org := by
  cases request with
  | mk conditionType label parameters sequence children =>
    rw [createConditionNode] at h
    obtain ⟨_, _, h⟩ := bind_eq_ok.1 h
    obtain ⟨_, _, h⟩ := bind_eq_ok.1 h
    obtain ⟨_, _, h⟩ := bind_eq_ok.1 h
    rw [pure_eq_ok] at h
    rw [← h]
    rfl

/-- **THE TREE IS STORED**: what the root condition of a new rule is read back as is the tree that
was made of the request, and a rule without a tree has none. -/
theorem rootCondition_of_createRule {db db' : Database} {newRuleId org : UUID}
    {newId : List Nat → UUID} {actor : Option UUID} {payload : ApplicabilityRuleCreateRequest}
    {rule : ApplicabilityRule}
    (h : createRule db newRuleId newId org actor payload = .ok (db', rule)) :
    ∃ root, rootCondition db' org rule = .ok root ∧
      payload.rootCondition.mapM (createConditionNode newId org []) = .ok root := by
  obtain ⟨_, _, h⟩ := bind_eq_ok.1 h
  obtain ⟨_, _, h⟩ := bind_eq_ok.1 h
  obtain ⟨_, _, h⟩ := bind_eq_ok.1 h
  obtain ⟨_, _, h⟩ := bind_eq_ok.1 h
  obtain ⟨⟨conditions, root⟩, hroot, h⟩ := bind_eq_ok.1 h
  obtain ⟨rules, _, h⟩ := bind_eq_ok.1 h
  rw [pure_eq_ok] at h
  obtain ⟨rfl, rfl⟩ := Prod.mk.inj h
  cases hp : payload.rootCondition with
  | none =>
    rw [hp] at hroot
    cases hroot
    exact ⟨none, rfl, rfl⟩
  | some request =>
    rw [hp] at hroot
    obtain ⟨node, hnode, hroot⟩ := bind_eq_ok.1 hroot
    obtain ⟨rows, hrows, hroot⟩ := bind_eq_ok.1 hroot
    rw [pure_eq_ok] at hroot
    obtain ⟨rfl, rfl⟩ := Prod.mk.inj hroot
    have horg : node.organizationId = org := organizationId_of_createConditionNode hnode
    have hmem : node ∈ rows.rows := by
      rw [rows_of_foldlM_addRow hrows]
      exact List.mem_append_right _ (mem_nodesOf node)
    have hone : rows.select (fun c => c.id = node.id && c.organizationId = org) = [node] := by
      refine oneOrRaise_eq_ok.1 (oneOrRaise_of_key (e := .integrity) hmem (by simp [horg]) ?_)
      intro x _ hx
      simp only [Bool.and_eq_true, decide_eq_true_eq] at hx
      exact hx.1
    refine ⟨some node, ?_, ?_⟩
    · show scalarOneOrNone (rows.select _) = _
      rw [hone]
      rfl
    · show (createConditionNode newId org [] request >>= fun c => pure (some c)) = _
      rw [hnode]
      rfl

end ApplicabilityService
end AeroComply
