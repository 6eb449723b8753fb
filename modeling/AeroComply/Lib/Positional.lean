import Mathlib.Data.Nat.Digits.Defs

/-!
# Positional — numerals of a fixed width

`numeral b w n` are the last `w` digits of `n` in base `b`, the highest first; `value b` reads them
back.  A number that fits the width is the value of its numeral (`value_numeral`), so that distinct
numbers have distinct numerals.
-/

namespace Positional

variable {b : ℕ}

/-- The last `w` digits of `n`, the highest first. -/
def numeral (b : ℕ) : ℕ → ℕ → List ℕ
  | 0, _ => []
  | w + 1, n => numeral b w (n / b) ++ [n % b]

/-- The number of a list of digits, the highest first. -/
def value (b : ℕ) (digits : List ℕ) : ℕ := digits.foldl (fun n d => b * n + d) 0

@[simp] theorem length_numeral (w n : ℕ) : (numeral b w n).length = w := by
  induction w generalizing n with
  | zero => rfl
  | succ w ih => rw [numeral, List.length_append, ih, List.length_singleton]

theorem lt_of_mem_numeral (hb : 0 < b) {w n d : ℕ} (h : d ∈ numeral b w n) : d < b := by
  induction w generalizing n with
  | zero => cases h
  | succ w ih =>
    rcases List.mem_append.1 h with h | h
    · exact ih h
    · rw [List.mem_singleton.1 h]
      exact Nat.mod_lt n hb

theorem value_numeral {w n : ℕ} (h : n < b ^ w) : value b (numeral b w n) = n := by
  induction w generalizing n with
  | zero =>
    rw [pow_zero, Nat.lt_one_iff] at h
    subst h
    rfl
  | succ w ih =>
    have hdiv : n / b < b ^ w := by
      refine Nat.div_lt_of_lt_mul ?_
      rwa [pow_succ, Nat.mul_comm] at h
    have hfold : value b (numeral b w (n / b)) = n / b := ih hdiv
    rw [numeral, value, List.foldl_append, List.foldl_cons, List.foldl_nil]
    rw [value] at hfold
    rw [hfold]
    exact Nat.div_add_mod n b

end Positional
