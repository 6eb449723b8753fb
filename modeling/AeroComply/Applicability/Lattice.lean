import Mathlib.Data.Multiset.Lattice
import Mathlib.Order.Bounds.Basic
import AeroComply.Applicability.Kleene

/-!
# Lattice — the reducers as the meet and the join of the truth order

`kleene_and_all` and `kleene_or_all` of `app/services/applicability/kleene.py`.
By truth, FALSE is below UNKNOWN and UNKNOWN below TRUE; AND is the minimum and
OR the maximum of this order, so the two loops compute the least and the
greatest of their operands, and what is known of meets and joins of multisets
holds of them.
-/

namespace AeroComply

namespace KleeneValue

/-- How true a value is. -/
def rank : KleeneValue → Nat
  | .false => 0
  | .unknown => 1
  | .true => 2

theorem rank_injective : Function.Injective rank := by
  intro a b
  cases a <;> cases b <;> decide

/-- The truth order: FALSE, UNKNOWN, TRUE. -/
instance : LinearOrder KleeneValue := LinearOrder.lift' rank rank_injective

instance : BoundedOrder KleeneValue where
  top := .true
  le_top a := by cases a <;> decide
  bot := .false
  bot_le a := by cases a <;> decide

end KleeneValue

theorem kleeneAnd_eq_inf (a b : KleeneValue) : kleeneAnd a b = a ⊓ b := by
  cases a <;> cases b <;> decide

theorem kleeneOr_eq_sup (a b : KleeneValue) : kleeneOr a b = a ⊔ b := by
  cases a <;> cases b <;> decide

theorem foldl_kleeneAnd (xs : List KleeneValue) (result : KleeneValue) :
    xs.foldl kleeneAnd result = result ⊓ (xs : Multiset KleeneValue).inf := by
  induction xs generalizing result with
  | nil => exact (inf_top_eq result).symm
  | cons x xs ih =>
    rw [List.foldl_cons, ih, kleeneAnd_eq_inf, ← Multiset.cons_coe, Multiset.inf_cons, inf_assoc]

theorem foldl_kleeneOr (xs : List KleeneValue) (result : KleeneValue) :
    xs.foldl kleeneOr result = result ⊔ (xs : Multiset KleeneValue).sup := by
  induction xs generalizing result with
  | nil => exact (sup_bot_eq result).symm
  | cons x xs ih =>
    rw [List.foldl_cons, ih, kleeneOr_eq_sup, ← Multiset.cons_coe, Multiset.sup_cons, sup_assoc]

/-- **AND IS THE MEET** of its operands. -/
theorem kleeneAndAll_eq_inf (xs : List KleeneValue) :
    kleeneAndAll xs = (xs : Multiset KleeneValue).inf := by
  rw [kleeneAndAll_eq_foldl, foldl_kleeneAnd]
  exact top_inf_eq _

/-- **OR IS THE JOIN** of its operands. -/
theorem kleeneOrAll_eq_sup (xs : List KleeneValue) :
    kleeneOrAll xs = (xs : Multiset KleeneValue).sup := by
  rw [kleeneOrAll_eq_foldl, foldl_kleeneOr]
  exact bot_sup_eq _

theorem kleeneAndAll_cons (x : KleeneValue) (xs : List KleeneValue) :
    kleeneAndAll (x :: xs) = x ⊓ kleeneAndAll xs := by
  rw [kleeneAndAll_eq_inf, kleeneAndAll_eq_inf, ← Multiset.cons_coe, Multiset.inf_cons]

theorem kleeneOrAll_cons (x : KleeneValue) (xs : List KleeneValue) :
    kleeneOrAll (x :: xs) = x ⊔ kleeneOrAll xs := by
  rw [kleeneOrAll_eq_sup, kleeneOrAll_eq_sup, ← Multiset.cons_coe, Multiset.sup_cons]

/-- In a linear order the meet of some operands is one of them. -/
theorem kleeneAndAll_mem : ∀ {xs : List KleeneValue}, xs ≠ [] → kleeneAndAll xs ∈ xs := by
  intro xs
  induction xs with
  | nil => exact fun h => absurd rfl h
  | cons x xs ih =>
    intro _
    rw [kleeneAndAll_cons]
    by_cases hxs : xs = []
    · rw [hxs, kleeneAndAll_eq_inf]
      exact List.mem_cons.2 (Or.inl (inf_top_eq x))
    · rcases le_total x (kleeneAndAll xs) with h | h
      · rw [inf_eq_left.2 h]
        exact List.mem_cons_self
      · rw [inf_eq_right.2 h]
        exact List.mem_cons_of_mem x (ih hxs)

theorem kleeneOrAll_mem : ∀ {xs : List KleeneValue}, xs ≠ [] → kleeneOrAll xs ∈ xs := by
  intro xs
  induction xs with
  | nil => exact fun h => absurd rfl h
  | cons x xs ih =>
    intro _
    rw [kleeneOrAll_cons]
    by_cases hxs : xs = []
    · rw [hxs, kleeneOrAll_eq_sup]
      exact List.mem_cons.2 (Or.inl (sup_bot_eq x))
    · rcases le_total x (kleeneOrAll xs) with h | h
      · rw [sup_eq_right.2 h]
        exact List.mem_cons_of_mem x (ih hxs)
      · rw [sup_eq_left.2 h]
        exact List.mem_cons_self

theorem kleeneAndAll_isLeast {xs : List KleeneValue} (h : xs ≠ []) :
    IsLeast {x | x ∈ xs} (kleeneAndAll xs) := by
  refine ⟨kleeneAndAll_mem h, fun x hx => ?_⟩
  rw [kleeneAndAll_eq_inf]
  exact Multiset.inf_le (Multiset.mem_coe.2 hx)

theorem kleeneOrAll_isGreatest {xs : List KleeneValue} (h : xs ≠ []) :
    IsGreatest {x | x ∈ xs} (kleeneOrAll xs) := by
  refine ⟨kleeneOrAll_mem h, fun x hx => ?_⟩
  rw [kleeneOrAll_eq_sup]
  exact Multiset.le_sup (Multiset.mem_coe.2 hx)

theorem kleeneAndAll_congr {xs ys : List KleeneValue} (h : ∀ x, x ∈ xs ↔ x ∈ ys) :
    kleeneAndAll xs = kleeneAndAll ys := by
  rw [kleeneAndAll_eq_inf, kleeneAndAll_eq_inf]
  exact le_antisymm (Multiset.inf_mono fun x hx => (h x).2 hx)
    (Multiset.inf_mono fun x hx => (h x).1 hx)

theorem kleeneOrAll_congr {xs ys : List KleeneValue} (h : ∀ x, x ∈ xs ↔ x ∈ ys) :
    kleeneOrAll xs = kleeneOrAll ys := by
  rw [kleeneOrAll_eq_sup, kleeneOrAll_eq_sup]
  exact le_antisymm (Multiset.sup_mono fun x hx => (h x).1 hx)
    (Multiset.sup_mono fun x hx => (h x).2 hx)

theorem kleeneAndAll_append (xs ys : List KleeneValue) :
    kleeneAndAll (xs ++ ys) = kleeneAnd (kleeneAndAll xs) (kleeneAndAll ys) := by
  rw [kleeneAnd_eq_inf, kleeneAndAll_eq_inf, kleeneAndAll_eq_inf, kleeneAndAll_eq_inf,
    ← Multiset.coe_add, Multiset.inf_add]

theorem kleeneOrAll_append (xs ys : List KleeneValue) :
    kleeneOrAll (xs ++ ys) = kleeneOr (kleeneOrAll xs) (kleeneOrAll ys) := by
  rw [kleeneOr_eq_sup, kleeneOrAll_eq_sup, kleeneOrAll_eq_sup, kleeneOrAll_eq_sup,
    ← Multiset.coe_add, Multiset.sup_add]

theorem kleeneNot_inf (a b : KleeneValue) : kleeneNot (a ⊓ b) = kleeneNot a ⊔ kleeneNot b := by
  cases a <;> cases b <;> decide

/-- **DE MORGAN** for lists of any length. -/
theorem kleeneNot_kleeneAndAll (xs : List KleeneValue) :
    kleeneNot (kleeneAndAll xs) = kleeneOrAll (xs.map kleeneNot) := by
  induction xs with
  | nil => rfl
  | cons x xs ih => rw [List.map_cons, kleeneAndAll_cons, kleeneOrAll_cons, kleeneNot_inf, ih]

/-- **THE REDUCERS ARE THE LATTICE OPERATIONS**: minimum and maximum, of which order, repetition,
splitting and the early exits change nothing, and dual under NOT. -/
theorem reducers_lattice (xs ys : List KleeneValue) :
    (kleeneAndAll [] = .true ∧ kleeneOrAll [] = .false) ∧
    (xs ≠ [] → IsLeast {x | x ∈ xs} (kleeneAndAll xs) ∧ IsGreatest {x | x ∈ xs} (kleeneOrAll xs)) ∧
    (xs.Perm ys → kleeneAndAll xs = kleeneAndAll ys ∧ kleeneOrAll xs = kleeneOrAll ys) ∧
    ((∀ x, x ∈ xs ↔ x ∈ ys) →
      kleeneAndAll xs = kleeneAndAll ys ∧ kleeneOrAll xs = kleeneOrAll ys) ∧
    (kleeneAndAll (xs ++ ys) = kleeneAnd (kleeneAndAll xs) (kleeneAndAll ys) ∧
      kleeneOrAll (xs ++ ys) = kleeneOr (kleeneOrAll xs) (kleeneOrAll ys)) ∧
    (kleeneAndAll xs = xs.foldl kleeneAnd .true ∧ kleeneOrAll xs = xs.foldl kleeneOr .false) ∧
    kleeneNot (kleeneAndAll xs) = kleeneOrAll (xs.map kleeneNot) := by
  refine ⟨⟨rfl, rfl⟩, fun h => ⟨kleeneAndAll_isLeast h, kleeneOrAll_isGreatest h⟩, fun h => ?_,
    fun h => ⟨kleeneAndAll_congr h, kleeneOrAll_congr h⟩,
    ⟨kleeneAndAll_append xs ys, kleeneOrAll_append xs ys⟩,
    ⟨kleeneAndAll_eq_foldl xs, kleeneOrAll_eq_foldl xs⟩, kleeneNot_kleeneAndAll xs⟩
  exact ⟨kleeneAndAll_congr fun _ => h.mem_iff, kleeneOrAll_congr fun _ => h.mem_iff⟩

/-- Of UNKNOWN and TRUE twice. -/
theorem reducers_lattice_repeated :
    IsLeast {x | x ∈ [KleeneValue.unknown, .true, .true]} KleeneValue.unknown ∧
      kleeneOrAll [.unknown, .true, .true] = kleeneOrAll [.true, .unknown] := by
  obtain ⟨-, hleast, -, hsame, -⟩ :=
    reducers_lattice [.unknown, .true, .true] [.true, .unknown]
  refine ⟨(hleast (by decide)).1, (hsame ?_).2⟩
  intro x
  cases x <;> decide

end AeroComply
