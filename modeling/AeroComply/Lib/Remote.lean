import Mathlib.Data.List.Basic

/-!
# Remote — objects behind calls that can fail

A store of objects that is reached through calls only.  The `n`-th call meets its fate: it is
answered, or it raises, and a request that raised may have taken effect all the same.
-/

namespace Remote

inductive Fate
  | answers
  | raises
  -- the request took effect, and its answer did not arrive
  | raisesLate
  deriving DecidableEq

/-- The objects, by their keys, and how many calls there have been. -/
structure Bucket (Key : Type) where
  objects : List Key
  calls : Nat := 0

variable {Key : Type} [DecidableEq Key]

/-- Ask for an object; no answer if the call raises. -/
def head (fate : Nat → Fate) (key : Key) (r : Bucket Key) : Option Bool × Bucket Key :=
  (if fate r.calls = .answers then some (decide (key ∈ r.objects)) else none,
    { r with calls := r.calls + 1 })

/-- Remove an object; `false` if the call raises. -/
def delete (fate : Nat → Fate) (key : Key) (r : Bucket Key) : Bool × Bucket Key :=
  match fate r.calls with
  | .answers => (true, { objects := r.objects.filter (· ≠ key), calls := r.calls + 1 })
  | .raises => (false, { r with calls := r.calls + 1 })
  | .raisesLate => (false, { objects := r.objects.filter (· ≠ key), calls := r.calls + 1 })

section Delete

variable {fate : Nat → Fate} {key k : Key} {r : Bucket Key}

@[simp] theorem calls_delete : (delete fate key r).2.calls = r.calls + 1 := by
  rw [delete]
  cases fate r.calls with
  | answers => rfl
  | raises => rfl
  | raisesLate => rfl

theorem mem_of_mem_delete (h : k ∈ (delete fate key r).2.objects) : k ∈ r.objects := by
  rw [delete] at h
  cases hfate : fate r.calls with
  | raises =>
    rw [hfate] at h
    exact h
  | answers =>
    rw [hfate] at h
    exact (List.mem_filter.1 h).1
  | raisesLate =>
    rw [hfate] at h
    exact (List.mem_filter.1 h).1

theorem mem_delete_of_ne (hk : k ∈ r.objects) (hne : k ≠ key) :
    k ∈ (delete fate key r).2.objects := by
  have hkept : k ∈ r.objects.filter (· ≠ key) := List.mem_filter.2 ⟨hk, by simpa using hne⟩
  rw [delete]
  cases fate r.calls with
  | answers => exact hkept
  | raises => exact hk
  | raisesLate => exact hkept

theorem delete_of_answers (key : Key) (h : fate r.calls = .answers) :
    (delete fate key r).1 = true ∧ key ∉ (delete fate key r).2.objects := by
  rw [delete, h]
  refine ⟨rfl, fun hmem => ?_⟩
  have hne := (List.mem_filter.1 hmem).2
  simp at hne

end Delete

/-- What calls for one object after another answer, the first of them the `n`-th call. -/
def answers {Item : Type} (fate : Nat → Fate) (keyOf : Item → Key) (objects : List Key) :
    Nat → List Item → List (Item × Option Bool)
  | _, [] => []
  | n, item :: items =>
    (item, if fate n = .answers then some (decide (keyOf item ∈ objects)) else none)
      :: answers fate keyOf objects (n + 1) items

section Answers

variable {Item : Type} {fate : Nat → Fate} {keyOf : Item → Key} {objects : List Key}

@[simp] theorem map_fst_answers (items : List Item) :
    ∀ n, (answers fate keyOf objects n items).map Prod.fst = items := by
  induction items with
  | nil => exact fun _ => rfl
  | cons item items ih =>
    intro n
    rw [answers, List.map_cons, ih]

@[simp] theorem length_answers (items : List Item) (n : Nat) :
    (answers fate keyOf objects n items).length = items.length := by
  rw [← List.length_map Prod.fst, map_fst_answers]

theorem answers_of_answers (items : List Item) :
    ∀ n, (∀ m, n ≤ m → fate m = .answers) →
      answers fate keyOf objects n items
        = items.map fun item => (item, some (decide (keyOf item ∈ objects))) := by
  induction items with
  | nil => exact fun _ _ => rfl
  | cons item items ih =>
    intro n h
    rw [answers, if_pos (h n (Nat.le_refl n)), ih (n + 1) fun m hm => h m (by omega), List.map_cons]

end Answers
end Remote
