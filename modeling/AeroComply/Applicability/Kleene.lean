import AeroComply.Lib.FlatOrder

/-!
# Kleene — the three-valued logic of applicability rules

`app/services/applicability/kleene.py`.  The evaluator passes `KleeneValue`s
only, which `to_kleene` returns as they are, so the operations are given on
`KleeneValue`.  The two reducers return from their loop as soon as the result is
absorbing.

UNKNOWN is the least informative value: every operation here keeps the
information order of `FlatOrder`.
-/

namespace AeroComply

open FlatOrder

inductive KleeneValue
  | true
  | false
  | unknown
  deriving DecidableEq, Repr

def kleeneAnd (a b : KleeneValue) : KleeneValue :=
  if a = .false ∨ b = .false then .false
  else if a = .unknown ∨ b = .unknown then .unknown
  else .true

def kleeneOr (a b : KleeneValue) : KleeneValue :=
  if a = .true ∨ b = .true then .true
  else if a = .unknown ∨ b = .unknown then .unknown
  else .false

def kleeneNot (val : KleeneValue) : KleeneValue :=
  if val = .unknown then .unknown
  else if val = .true then .false
  else .true

/-- `kleene_and_all`, with `empty_default` left at TRUE. -/
def kleeneAndAll (operands : List KleeneValue) : KleeneValue :=
  foldUntil (fun result => decide (result = .false)) kleeneAnd .true operands

/-- `kleene_or_all`, with `empty_default` left at FALSE. -/
def kleeneOrAll (operands : List KleeneValue) : KleeneValue :=
  foldUntil (fun result => decide (result = .true)) kleeneOr .false operands

-- ── FALSE absorbs AND, TRUE absorbs OR ──────────────────────────────────────

theorem kleeneAnd_of_false (a b : KleeneValue) (h : decide (a = .false) = Bool.true) :
    kleeneAnd a b = a := by
  have ha : a = .false := of_decide_eq_true h
  rw [ha]
  exact if_pos (Or.inl rfl)

theorem kleeneOr_of_true (a b : KleeneValue) (h : decide (a = .true) = Bool.true) :
    kleeneOr a b = a := by
  have ha : a = .true := of_decide_eq_true h
  rw [ha]
  exact if_pos (Or.inl rfl)

theorem kleeneAndAll_eq_foldl (operands : List KleeneValue) :
    kleeneAndAll operands = operands.foldl kleeneAnd .true :=
  foldUntil_eq_foldl kleeneAnd_of_false operands .true

theorem kleeneOrAll_eq_foldl (operands : List KleeneValue) :
    kleeneOrAll operands = operands.foldl kleeneOr .false :=
  foldUntil_eq_foldl kleeneOr_of_true operands .false

-- ── OR is FALSE only where every operand is ─────────────────────────────────

theorem kleeneOr_eq_false {a b : KleeneValue} : kleeneOr a b = .false ↔ a = .false ∧ b = .false := by
  cases a <;> cases b <;> decide

theorem foldl_kleeneOr_eq_false {operands : List KleeneValue} {result : KleeneValue} :
    operands.foldl kleeneOr result = .false ↔ result = .false ∧ ∀ v ∈ operands, v = .false := by
  induction operands generalizing result with
  | nil => exact ⟨fun h => ⟨h, fun _ hv => (nomatch hv)⟩, fun h => h.1⟩
  | cons v operands ih =>
    rw [List.foldl_cons, ih, kleeneOr_eq_false, List.forall_mem_cons, and_assoc]

theorem kleeneOrAll_eq_false {operands : List KleeneValue} :
    kleeneOrAll operands = .false ↔ ∀ v ∈ operands, v = .false := by
  rw [kleeneOrAll_eq_foldl, foldl_kleeneOr_eq_false]
  exact and_iff_right rfl

-- ── refining the operands refines the result ────────────────────────────────

theorem kleeneAnd_monotone : Monotone₂ KleeneValue.unknown kleeneAnd := by
  rintro x x' y y' (rfl | rfl) (rfl | rfl)
  · exact Or.inl rfl
  · cases y with
    | false => exact Or.inr (by cases x' <;> rfl)
    | true | unknown => exact Or.inl rfl
  · cases x with
    | false => exact Or.inr rfl
    | true | unknown => exact Or.inl rfl
  · exact Or.inr rfl

theorem kleeneOr_monotone : Monotone₂ KleeneValue.unknown kleeneOr := by
  rintro x x' y y' (rfl | rfl) (rfl | rfl)
  · exact Or.inl rfl
  · cases y with
    | true => exact Or.inr (by cases x' <;> rfl)
    | false | unknown => exact Or.inl rfl
  · cases x with
    | true => exact Or.inr rfl
    | false | unknown => exact Or.inl rfl
  · exact Or.inr rfl

theorem kleeneNot_le {x y : KleeneValue} (h : Le .unknown x y) :
    Le .unknown (kleeneNot x) (kleeneNot y) := by
  rcases h with rfl | rfl
  · exact Or.inl rfl
  · exact Or.inr rfl

theorem kleeneAndAll_le {xs ys : List KleeneValue} (h : List.Forall₂ (Le .unknown) xs ys) :
    Le .unknown (kleeneAndAll xs) (kleeneAndAll ys) := by
  rw [kleeneAndAll_eq_foldl, kleeneAndAll_eq_foldl]
  exact foldl_le kleeneAnd_monotone h (Le.refl _ _)

theorem kleeneOrAll_le {xs ys : List KleeneValue} (h : List.Forall₂ (Le .unknown) xs ys) :
    Le .unknown (kleeneOrAll xs) (kleeneOrAll ys) := by
  rw [kleeneOrAll_eq_foldl, kleeneOrAll_eq_foldl]
  exact foldl_le kleeneOr_monotone h (Le.refl _ _)

end AeroComply
