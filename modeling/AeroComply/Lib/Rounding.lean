import Mathlib.Data.Int.ConditionallyCompleteOrder
import Mathlib.Data.Int.Log
import Mathlib.Data.Rat.Floor
import Mathlib.Tactic.Positivity

/-!
# Rounding — to integers, and to floats

`Nearest` is what every rounding to a nearest integer satisfies, however it breaks its
ties.  `Rounds p e` is what is needed of a float with `p` significant bits whose normal
numbers reach from `2 ^ -e` to `2 ^ e`: short integers are exact, and the error of any
other number is half a unit in the last place.

`toBinary` is such a float (`toBinary_rounds`).
-/

namespace Rounding

/-- The function rounds to a nearest integer. -/
structure Nearest (round : ℚ → ℤ) : Prop where
  near : ∀ q, |q - round q| ≤ 1 / 2

section Nearest

variable {round : ℚ → ℤ} {q : ℚ} {n : ℤ}

theorem Nearest.le_of_lt (h : Nearest round) (hq : q < n + 1 / 2) : round q ≤ n := by
  obtain ⟨hlo, _⟩ := abs_le.1 (h.near q)
  have hlt : (round q : ℚ) < ((n + 1 : ℤ) : ℚ) := by
    push_cast
    linarith
  have := Int.cast_lt.1 hlt
  omega

theorem Nearest.le_of_gt (h : Nearest round) (hq : n - 1 / 2 < q) : n ≤ round q := by
  obtain ⟨_, hhi⟩ := abs_le.1 (h.near q)
  have hlt : ((n - 1 : ℤ) : ℚ) < (round q : ℚ) := by
    push_cast
    linarith
  have := Int.cast_lt.1 hlt
  omega

theorem Nearest.eq_of_close (h : Nearest round) (hq : |q - n| < 1 / 2) : round q = n := by
  obtain ⟨hlo, hhi⟩ := abs_lt.1 hq
  exact le_antisymm (h.le_of_lt (by linarith)) (h.le_of_gt (by linarith))

theorem Nearest.intCast (h : Nearest round) (n : ℤ) : round (n : ℚ) = n := by
  refine h.eq_of_close ?_
  rw [sub_self, abs_zero]
  norm_num

theorem Nearest.monotone (h : Nearest round) : Monotone round := by
  intro x y hxy
  rcases hxy.eq_or_lt with rfl | hlt
  · exact le_rfl
  · obtain ⟨_, hy⟩ := abs_le.1 (h.near y)
    exact h.le_of_lt (by linarith)

end Nearest

/-- The function rounds to floats with `p` significant bits. -/
structure Rounds (p e : ℕ) (fl : ℚ → ℚ) : Prop where
  exact : ∀ n : ℤ, |n| < 2 ^ p → fl n = n
  near : ∀ x, 1 / 2 ^ e ≤ |x| → |x| ≤ 2 ^ e → |fl x - x| ≤ |x| / 2 ^ p

section Rounds

variable {p e k : ℕ} {fl : ℚ → ℚ} {x : ℚ}

theorem Rounds.zero (h : Rounds p e fl) : fl 0 = 0 := by
  have hzero := h.exact 0 (by positivity)
  rwa [Int.cast_zero] at hzero

theorem Rounds.close (h : Rounds p e fl) (hke : k ≤ e) (hlo : x = 0 ∨ 1 / 2 ^ e ≤ |x|)
    (hhi : |x| ≤ 2 ^ k) : |fl x - x| ≤ 2 ^ k / 2 ^ p := by
  rcases hlo with rfl | hlo
  · rw [h.zero, sub_zero, abs_zero]
    positivity
  · have hmax : |x| ≤ 2 ^ e := hhi.trans (pow_le_pow_right₀ (by norm_num) hke)
    refine (h.near x hlo hmax).trans ?_
    gcongr

end Rounds

/-! ## A float -/

/-- The unit in the last place of a number, `p` bits to the left of its first one. -/
def ulp (p : ℕ) (x : ℚ) : ℚ := 2 ^ (Int.log 2 |x| + 1 - p)

/-- `x` to `p` significant bits. -/
def toBinary (round : ℚ → ℤ) (p : ℕ) (x : ℚ) : ℚ :=
  if x = 0 then 0 else round (x / ulp p x) * ulp p x

section ToBinary

variable {round : ℚ → ℤ} {p : ℕ} {x : ℚ}

theorem ulp_pos (p : ℕ) (x : ℚ) : 0 < ulp p x := zpow_pos (by norm_num) _

theorem half_ulp_le (hx : x ≠ 0) : ulp p x / 2 ≤ |x| / 2 ^ p := by
  have hlog : ((2 : ℕ) : ℚ) ^ Int.log 2 |x| ≤ |x| :=
    Int.zpow_log_le_self (by norm_num) (abs_pos.2 hx)
  have hulp : ulp p x / 2 = 2 ^ Int.log 2 |x| / 2 ^ p := by
    rw [ulp, zpow_sub₀ (by norm_num), zpow_add_one₀ (by norm_num), zpow_natCast]
    field_simp
  rw [hulp]
  gcongr
  exact_mod_cast hlog

theorem exists_ulp_inv {n : ℤ} (hn : n ≠ 0) (hshort : |n| < 2 ^ p) :
    ∃ m : ℕ, ulp p (n : ℚ) * 2 ^ m = 1 := by
  have hpos : (0 : ℚ) < |(n : ℚ)| := abs_pos.2 (Int.cast_ne_zero.2 hn)
  have hlt : |(n : ℚ)| < ((2 : ℕ) : ℚ) ^ (p : ℤ) := by
    rw [zpow_natCast]
    exact_mod_cast hshort
  have hlog : Int.log 2 |(n : ℚ)| < p := (Int.lt_zpow_iff_log_lt (by norm_num) hpos).1 hlt
  refine ⟨(p - (Int.log 2 |(n : ℚ)| + 1)).toNat, ?_⟩
  rw [ulp, ← zpow_natCast, ← zpow_add₀ (by norm_num), Int.toNat_of_nonneg (by omega)]
  have hexp : Int.log 2 |(n : ℚ)| + 1 - p + (p - (Int.log 2 |(n : ℚ)| + 1)) = 0 := by omega
  rw [hexp, zpow_zero]

/-- **A FLOAT**, whatever its normal numbers: every number has the same relative error. -/
theorem toBinary_rounds (h : Nearest round) (p e : ℕ) : Rounds p e (toBinary round p) := by
  refine ⟨?_, ?_⟩
  · intro n hshort
    by_cases hn : n = 0
    · rw [toBinary, hn, Int.cast_zero, if_pos rfl]
    · obtain ⟨m, hm⟩ := exists_ulp_inv hn hshort
      have hulp := (ulp_pos p (n : ℚ)).ne'
      have hquot : (n : ℚ) / ulp p n = ((n * 2 ^ m : ℤ) : ℚ) := by
        push_cast
        rw [div_eq_iff hulp, mul_assoc, mul_comm (2 ^ m) (ulp p (n : ℚ)), hm, mul_one]
      rw [toBinary, if_neg (Int.cast_ne_zero.2 hn), hquot, h.intCast]
      push_cast
      rw [mul_assoc, mul_comm (2 ^ m) (ulp p (n : ℚ)), hm, mul_one]
  · intro x hlo _
    have hx : x ≠ 0 := by
      rintro rfl
      rw [abs_zero] at hlo
      exact absurd hlo (not_le.2 (by positivity))
    have hu := ulp_pos p x
    rw [toBinary, if_neg hx]
    have herror : (round (x / ulp p x) : ℚ) * ulp p x - x
        = -((x / ulp p x - round (x / ulp p x)) * ulp p x) := by
      field_simp
      ring
    calc |(round (x / ulp p x) : ℚ) * ulp p x - x|
        = |x / ulp p x - round (x / ulp p x)| * ulp p x := by
          rw [herror, abs_neg, abs_mul, abs_of_pos hu]
      _ ≤ 1 / 2 * ulp p x := by
          gcongr
          exact h.near _
      _ = ulp p x / 2 := by ring
      _ ≤ |x| / 2 ^ p := half_ulp_le hx

end ToBinary

end Rounding
