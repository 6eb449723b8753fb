import Mathlib.Data.List.Forall2

/-!
# FlatOrder — gaining information

In a type with a value `u` that stands for "not known", `y` refines `x` when
`x` is not known or `y` is the same value: known values never change.  A
function that keeps this order can be evaluated on partial data and its known
results stay when the data is filled in.  A fold of such functions keeps the
order, and so does a fold that stops early at a value it could not leave.
-/

namespace FlatOrder

variable {α β : Type}

/-- `y` refines `x`: `x` is unknown, or nothing changed. -/
def Le (u : α) (x y : α) : Prop := x = u ∨ x = y

theorem Le.refl (u x : α) : Le u x x := Or.inr rfl

theorem Le.eq_of_ne {u x y : α} (h : Le u x y) (hx : x ≠ u) : y = x := by
  rcases h with h | h
  · exact absurd h hx
  · exact h.symm

/-- A binary operation that keeps the order in both arguments. -/
def Monotone₂ (u : α) (f : α → α → α) : Prop :=
  ∀ x x' y y', Le u x x' → Le u y y' → Le u (f x y) (f x' y')

theorem foldl_le {u : α} {f : α → α → α} (hf : Monotone₂ u f) {xs ys : List α}
    (h : List.Forall₂ (Le u) xs ys) :
    ∀ {a b : α}, Le u a b → Le u (xs.foldl f a) (ys.foldl f b) := by
  induction h with
  | nil => exact fun hab => hab
  | cons hxy _ ih => exact fun hab => ih (hf _ _ _ _ hab hxy)

/-! ## Folds that stop early -/

/-- A left fold that returns as soon as an intermediate result satisfies `stop`. -/
def foldUntil (stop : β → Bool) (f : β → α → β) (b : β) : List α → β
  | [] => b
  | a :: as => if stop (f b a) then f b a else foldUntil stop f (f b a) as

theorem foldUntil_eq_foldl {stop : β → Bool} {f : β → α → β}
    (habs : ∀ b a, stop b = true → f b a = b) (as : List α) :
    ∀ b, foldUntil stop f b as = as.foldl f b := by
  have hstay : ∀ (l : List α) (b : β), stop b = true → l.foldl f b = b := by
    intro l
    induction l with
    | nil => exact fun _ _ => rfl
    | cons a l ih =>
      intro b hb
      show l.foldl f (f b a) = b
      rw [habs b a hb]
      exact ih b hb
  induction as with
  | nil => exact fun _ => rfl
  | cons a as ih =>
    intro b
    show (if stop (f b a) then f b a else foldUntil stop f (f b a) as) = as.foldl f (f b a)
    by_cases hs : stop (f b a) = true
    · rw [if_pos hs, hstay as _ hs]
    · rw [if_neg hs]
      exact ih _

end FlatOrder
