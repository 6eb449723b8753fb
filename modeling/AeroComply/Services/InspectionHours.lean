import AeroComply.Services.MaintenanceDue
import AeroComply.Services.ProactiveIntelligence

/-!
# InspectionHours — the hours of an inspection, in minutes

An alarm goes by what the total hours leave of the last full interval, the engine by the
hours since the last accomplishment; both compute with floats.  For floats of 53 bits
and totals up to `2 ^ 40` minutes, this module says in whole minutes what they decide:
when no hours remain, when an interval has just been completed, when 25 hours or less
remain, when an interval or nine tenths of it are used up.

At a few totals the exact number is a tie, and its float decides; they are excluded.
-/

namespace AeroComply

namespace ProactiveIntelligenceService

open FlightService (nearest_roundHalfEven roundHalfEven)
open Rounding (Rounds)

theorem roundTo_of_close {fl : ℚ → ℚ} {digits : ℕ} {x : ℚ} {n : ℤ} (h : |x * 10 ^ digits - n| < 1 / 2) :
    roundTo fl digits x = fl (n / 10 ^ digits) := by
  rw [roundTo, nearest_roundHalfEven.eq_of_close h]

theorem hoursSinceCheck_eq {T : ℚ} {I k : ℤ} (hI : 0 < I) (hlo : (I * k : ℚ) ≤ T)
    (hhi : T < I * k + I) (hk : 0 ≤ k) : hoursSinceCheck T I = T - I * k := by
  have hIq : (0 : ℚ) < I := by exact_mod_cast hI
  have hfloor : (T / I).floor = k := by
    show ⌊T / (I : ℚ)⌋ = k
    refine Int.floor_eq_iff.2 ⟨?_, ?_⟩
    · rw [le_div_iff₀ hIq]
      linarith
    · rw [div_lt_iff₀ hIq]
      linarith
  rw [hoursSinceCheck]
  split_ifs with hge
  · rw [hfloor]
  · -- less than one interval has been flown
    have hlt : (I : ℚ) * k < I * 1 := by linarith
    have hk1 : (k : ℚ) < 1 := lt_of_mul_lt_mul_left hlt hIq.le
    have hk0 : k = 0 := by
      have : k < 1 := by exact_mod_cast hk1
      omega
    rw [hk0, Int.cast_zero, mul_zero, sub_zero]

/-- The minutes that are left of the last interval. -/
def minutesLeft (M I : ℤ) : ℤ := 60 * I - M % (60 * I)

/-- At most two minutes are left, or an interval was completed at most five minutes ago. -/
def IsDueInMinutes (M I : ℤ) : Prop := minutesLeft M I ≤ 2 ∨ (60 * I ≤ M ∧ M % (60 * I) ≤ 5)

instance (M I : ℤ) : Decidable (IsDueInMinutes M I) := inferInstanceAs (Decidable (_ ∨ _))

/-- The total is no tie: a number of minutes whose float decides. -/
structure NoTie (M I : ℤ) : Prop where
  due : minutesLeft M I ≠ 3
  soon : minutesLeft M I ≠ 1503
  past : M % (60 * I) ≠ 6

section Hours

variable {fl : ℚ → ℚ} (hfl : Rounds 53 1022 fl)
include hfl

/-- The error of the numbers that occur. -/
theorem close {x : ℚ} (hlo : x = 0 ∨ 1 / 1000 ≤ |x|) (hhi : |x| ≤ 2 ^ 40) :
    |fl x - x| ≤ 1 / 8192 := by
  have htiny : (1 : ℚ) / 2 ^ 1022 ≤ 1 / 1000 := by
    rw [div_le_div_iff_of_pos_left (by norm_num) (by positivity) (by norm_num)]
    calc (1000 : ℚ) ≤ 2 ^ 10 := by norm_num
      _ ≤ 2 ^ 1022 := pow_le_pow_right₀ (by norm_num) (by norm_num)
  have hclose := hfl.close (k := 40) (by norm_num) (hlo.imp_right htiny.trans) hhi
  refine hclose.trans_eq ?_
  norm_num

/-- A float of hours: between the hundredths there is nothing. -/
theorem close_div {n : ℤ} {d : ℚ} (hd : 0 < d) (hd' : d ≤ 1000) (h0 : 0 ≤ n)
    (hn : (n : ℚ) / d ≤ 2 ^ 40) : |fl (n / d) - n / d| ≤ 1 / 8192 := by
  have hnonneg : (0 : ℚ) ≤ n / d := div_nonneg (by exact_mod_cast h0) hd.le
  refine close hfl ?_ (by rwa [abs_of_nonneg hnonneg])
  rcases h0.eq_or_lt with rfl | hpos
  · left
    rw [Int.cast_zero, zero_div]
  · right
    have hone : (1 : ℚ) ≤ n := by exact_mod_cast hpos
    rw [abs_of_nonneg hnonneg, div_le_div_iff₀ (by norm_num) hd]
    linarith

theorem totalHours_eq {M : ℤ} (h0 : 0 ≤ M) (hM : M ≤ 2 ^ 40) :
    roundTo fl 2 (fl (M / 60)) = fl (((10 * M + 3) / 6 : ℤ) / 100) := by
  have hle : (M : ℚ) ≤ 2 ^ 40 := by exact_mod_cast hM
  have hnear : |fl ((M : ℚ) / 60) - M / 60| ≤ 1 / 8192 :=
    close_div hfl (by norm_num) (by norm_num) h0 (by linarith)
  have hround : roundTo fl 2 (fl ((M : ℚ) / 60)) = fl (((10 * M + 3) / 6 : ℤ) / 10 ^ 2) := by
    refine roundTo_of_close ?_
    have hlo : (10 * M : ℚ) - 2 ≤ 6 * ((10 * M + 3) / 6 : ℤ) := by
      have : 10 * M - 2 ≤ 6 * ((10 * M + 3) / 6) := by omega
      exact_mod_cast this
    have hhi : (6 * ((10 * M + 3) / 6 : ℤ) : ℚ) ≤ 10 * M + 2 := by
      have : 6 * ((10 * M + 3) / 6) ≤ 10 * M + 2 := by omega
      exact_mod_cast this
    rw [abs_le] at hnear
    rw [abs_lt]
    constructor <;> linarith
  rw [hround]
  norm_num

theorem total_in_interval {I k n : ℤ} (hI : 0 < I) (hk : 0 ≤ k) (hn : 0 ≤ n) (hnI : n < 100 * I)
    (hmax : I * k + I ≤ 2 ^ 40) :
    |fl (((100 * (I * k) + n : ℤ) : ℚ) / 100) - (I * k + n / 100)| ≤ 1 / 8192 ∧
      (I * k : ℚ) ≤ fl (((100 * (I * k) + n : ℤ) : ℚ) / 100) ∧
      fl (((100 * (I * k) + n : ℤ) : ℚ) / 100) < I * k + I := by
  have hIk : 0 ≤ I * k := mul_nonneg hI.le hk
  have hmaxq : (I * k + I : ℚ) ≤ 2 ^ 40 := by exact_mod_cast hmax
  have hnIq : (n : ℚ) + 1 ≤ 100 * I := by exact_mod_cast hnI
  have hvalue : (((100 * (I * k) + n : ℤ) : ℚ) / 100) = I * k + n / 100 := by
    push_cast
    ring
  have hnear : |fl (((100 * (I * k) + n : ℤ) : ℚ) / 100) - (I * k + n / 100)| ≤ 1 / 8192 := by
    rw [← hvalue]
    refine close_div hfl (by norm_num) (by norm_num) (by omega) ?_
    rw [hvalue]
    linarith
  have hbounds := abs_le.1 hnear
  refine ⟨hnear, ?_, ?_⟩
  · rcases hn.eq_or_lt with rfl | hpos
    · have hexact : fl ((I * k : ℤ) : ℚ) = ((I * k : ℤ) : ℚ) := by
        refine hfl.exact _ ?_
        rw [abs_of_nonneg hIk]
        omega
      rw [hvalue, Int.cast_zero, zero_div, add_zero]
      push_cast at hexact
      exact hexact.ge
    · have hone : (1 : ℚ) ≤ n := by exact_mod_cast hpos
      linarith
  · linarith

theorem tenths_le_iff {m d : ℤ} (hm : 0 ≤ m) (hmax : (m : ℚ) / 10 ≤ 2 ^ 40) (hd : 0 ≤ d)
    (hd' : d ≤ 2 ^ 40) : fl ((m : ℚ) / 10) ≤ d ↔ m ≤ 10 * d := by
  have hnear := abs_le.1 (close_div hfl (by norm_num) (by norm_num) hm hmax)
  constructor
  · intro hle
    by_contra hgt
    have hgtq : (10 * d + 1 : ℚ) ≤ m := by
      have : 10 * d + 1 ≤ m := by omega
      exact_mod_cast this
    linarith
  · intro hle
    rcases hle.eq_or_lt with rfl | hlt
    · have hexact := hfl.exact d (by rw [abs_of_nonneg hd]; omega)
      have hvalue : ((10 * d : ℤ) : ℚ) / 10 = d := by
        push_cast
        ring
      rw [hvalue, hexact]
    · have hltq : (m : ℚ) + 1 ≤ 10 * d := by exact_mod_cast hlt
      linarith

theorem hoursRemaining_le_iff {T : ℚ} {I g d : ℤ} (hg : 1 ≤ g) (hmax : g ≤ 2 ^ 41)
    (h : |(I - hoursSinceCheck T I) - g / 100| ≤ 1 / 8192) (hd : 0 ≤ d) (hd' : d ≤ 2 ^ 40)
    (htie : g ≠ 100 * d + 5) : hoursRemaining fl T I ≤ d ↔ g < 100 * d + 5 := by
  have hgq : (1 : ℚ) ≤ g := by exact_mod_cast hg
  have hmaxq : (g : ℚ) ≤ 2 ^ 41 := by exact_mod_cast hmax
  have hleft := abs_le.1 h
  have hpos : 1 / 1000 ≤ (I : ℚ) - hoursSinceCheck T I := by linarith
  have hnear := abs_le.1 (close hfl (x := I - hoursSinceCheck T I)
    (Or.inr (by rwa [abs_of_nonneg (by linarith)]))
    (by rw [abs_of_nonneg (by linarith)]; linarith))
  generalize hy : fl (I - hoursSinceCheck T I) = y at hnear
  have hm : 0 ≤ roundHalfEven (y * 10) := by
    refine nearest_roundHalfEven.le_of_gt ?_
    rw [Int.cast_zero]
    linarith
  have hmmax : (roundHalfEven (y * 10) : ℚ) / 10 ≤ 2 ^ 40 := by
    have := abs_le.1 (nearest_roundHalfEven.near (y * 10))
    linarith
  have hiff := tenths_le_iff hfl hm hmmax hd hd'
  rw [hoursRemaining, hy, roundTo, pow_one, hiff]
  constructor
  · intro hle
    by_contra hge
    have hgeq : (100 * d + 6 : ℚ) ≤ g := by
      have : 100 * d + 6 ≤ g := by omega
      exact_mod_cast this
    have hgt : 10 * d + 1 ≤ roundHalfEven (y * 10) := by
      refine nearest_roundHalfEven.le_of_gt ?_
      push_cast
      linarith
    omega
  · intro hlt
    refine nearest_roundHalfEven.le_of_lt ?_
    have hltq : (g : ℚ) ≤ 100 * d + 4 := by
      have : g ≤ 100 * d + 4 := by omega
      exact_mod_cast this
    push_cast
    linarith

theorem just_completed_iff {h : ℚ} {n : ℤ} (hnear : |h - n / 100| ≤ 1 / 8192) (htie : n ≠ 10) :
    h < fl (1 / 10) ↔ n < 10 := by
  have hbounds := abs_le.1 hnear
  have htenth := abs_le.1 (close hfl (x := 1 / 10) (Or.inr (by norm_num)) (by norm_num))
  constructor
  · intro hlt
    by_contra hge
    have hgeq : (11 : ℚ) ≤ n := by
      have : 11 ≤ n := by omega
      exact_mod_cast this
    linarith
  · intro hlt
    have hltq : (n : ℚ) ≤ 9 := by
      have : n ≤ 9 := by omega
      exact_mod_cast this
    linarith

/-- The hours since the last full interval are its minutes, in hundredths; and an interval has been
flown in floats when it has in minutes. -/
theorem sinceCheck_in_minutes {M I : ℤ} (hI : 0 < I) (hM : 0 ≤ M) (hmax : M + 60 * I ≤ 2 ^ 40) :
    |hoursSinceCheck (roundTo fl 2 (fl (M / 60))) I
        - (((10 * (M % (60 * I)) + 3) / 6 : ℤ) : ℚ) / 100| ≤ 1 / 8192 ∧
      ((I : ℚ) ≤ roundTo fl 2 (fl (M / 60)) ↔ 60 * I ≤ M) := by
  have h60 : (0 : ℤ) < 60 * I := by omega
  have hr0 : 0 ≤ M % (60 * I) := Int.emod_nonneg M h60.ne'
  have hr1 : M % (60 * I) < 60 * I := Int.emod_lt_of_pos M h60
  have hk : 0 ≤ M / (60 * I) := Int.ediv_nonneg hM h60.le
  have hsplit : 60 * (I * (M / (60 * I))) + M % (60 * I) = M := by
    rw [← mul_assoc]
    exact Int.mul_ediv_add_emod M (60 * I)
  have hIk : 0 ≤ I * (M / (60 * I)) := mul_nonneg hI.le hk
  have hone : M / (60 * I) = 0 ∨ I ≤ I * (M / (60 * I)) := by
    rcases hk.eq_or_lt with hzero | hpos
    · exact Or.inl hzero.symm
    · exact Or.inr (le_mul_of_one_le_right hI.le hpos)
  generalize M / (60 * I) = k at *
  generalize M % (60 * I) = r at *
  have hN : (10 * M + 3) / 6 = 100 * (I * k) + (10 * r + 3) / 6 := by omega
  have htotal := totalHours_eq hfl hM (by omega)
  rw [hN] at htotal
  obtain ⟨hnear, hlo, hhi⟩ := total_in_interval hfl (n := (10 * r + 3) / 6) hI hk (by omega)
    (by omega) (by omega)
  rw [← htotal] at hnear hlo hhi
  refine ⟨?_, ?_⟩
  · rw [hoursSinceCheck_eq hI hlo hhi hk, sub_sub]
    exact hnear
  · constructor
    · intro hle
      by_contra hlt
      rcases hone with rfl | hIle
      · rw [Int.cast_zero, mul_zero] at hhi
        linarith
      · omega
    · intro hle
      rcases hone with rfl | hIle
      · rw [mul_zero] at hsplit
        omega
      · have hIleq : (I : ℚ) ≤ I * k := by exact_mod_cast hIle
        exact hIleq.trans hlo

/-- **WHAT THE ALARM GOES BY**, in minutes. -/
theorem alarm_in_minutes {M I : ℤ} (hI : 0 < I) (hM : 0 ≤ M) (hmax : M + 60 * I ≤ 2 ^ 40)
    (htie : NoTie M I) :
    (isInspectionDue fl (roundTo fl 2 (fl (M / 60))) I = true ↔ IsDueInMinutes M I) ∧
      (hoursRemaining fl (roundTo fl 2 (fl (M / 60))) I ≤ 25 ↔ minutesLeft M I ≤ 1502) := by
  obtain ⟨hflown, hpassed⟩ := sinceCheck_in_minutes hfl hI hM hmax
  obtain ⟨hdue, hsoon, hpast⟩ := htie
  have h60 : (0 : ℤ) < 60 * I := by omega
  have hr0 : 0 ≤ M % (60 * I) := Int.emod_nonneg M h60.ne'
  have hr1 : M % (60 * I) < 60 * I := Int.emod_lt_of_pos M h60
  rw [IsDueInMinutes]
  rw [minutesLeft] at *
  generalize M % (60 * I) = r at *
  generalize roundTo fl 2 (fl ((M : ℚ) / 60)) = T at *
  have hleft : |((I : ℚ) - hoursSinceCheck T I)
      - ((100 * I - (10 * r + 3) / 6 : ℤ) : ℚ) / 100| ≤ 1 / 8192 := by
    rw [abs_sub_comm] at hflown
    convert hflown using 2
    push_cast
    ring
  have hremain := fun (d : ℤ) (hd : 0 ≤ d) (hd' : d ≤ 2 ^ 40)
      (htie : 100 * I - (10 * r + 3) / 6 ≠ 100 * d + 5) =>
    hoursRemaining_le_iff hfl (by omega) (by omega) hleft hd hd' htie
  have hnone := hremain 0 (by norm_num) (by norm_num) (by omega)
  have hlittle := hremain 25 (by norm_num) (by norm_num) (by omega)
  have hjust := just_completed_iff hfl hflown (by omega)
  rw [Int.cast_zero] at hnone
  rw [Int.cast_ofNat] at hlittle
  constructor
  · rw [isInspectionDue, Bool.or_eq_true, Bool.and_eq_true, decide_eq_true_iff,
      decide_eq_true_iff, decide_eq_true_iff, hpassed, hjust, hnone]
    omega
  · rw [hlittle]
    omega

theorem interval_used_iff {s I : ℤ} (hs : 0 ≤ s) (hmax : s + 60 * I ≤ 2 ^ 40) (hI : 0 < I) :
    (I : ℚ) ≤ fl (s / 60) ↔ 60 * I ≤ s := by
  have hmaxq : (s : ℚ) + 60 * I ≤ 2 ^ 40 := by exact_mod_cast hmax
  have hIq : (0 : ℚ) < I := by exact_mod_cast hI
  have hnear := abs_le.1 (close_div hfl (by norm_num) (d := 60) (by norm_num) hs (by linarith))
  constructor
  · intro hle
    by_contra hlt
    have hltq : (s : ℚ) + 1 ≤ 60 * I := by
      have : s + 1 ≤ 60 * I := by omega
      exact_mod_cast this
    linarith
  · intro hle
    rcases hle.eq_or_lt with rfl | hlt
    · have hexact := hfl.exact I (by rw [abs_of_pos hI]; omega)
      have hvalue : ((60 * I : ℤ) : ℚ) / 60 = I := by
        push_cast
        ring
      rw [hvalue, hexact]
    · have hltq : (60 * I : ℚ) + 1 ≤ s := by exact_mod_cast hlt
      linarith

/-- Nine tenths of it are used up. -/
theorem most_used_iff {s I : ℤ} (hs : 0 ≤ s) (hmax : s + 60 * I ≤ 2 ^ 40) (hI : 0 < I)
    (htie : s ≠ 54 * I) : fl (I * fl (9 / 10)) ≤ fl (s / 60) ↔ 54 * I ≤ s := by
  have hmaxq : (s : ℚ) + 60 * I ≤ 2 ^ 40 := by exact_mod_cast hmax
  have hIq : (1 : ℚ) ≤ I := by exact_mod_cast hI
  have hsq : (0 : ℚ) ≤ s := by exact_mod_cast hs
  have hnear := abs_le.1 (close_div hfl (by norm_num) (d := 60) (by norm_num) hs (by linarith))
  -- the float of nine tenths is so close that the interval does not show it
  have hnine : |I * fl (9 / 10) - I * (9 / 10)| ≤ 1 / 8192 := by
    have hrel := hfl.near (9 / 10)
      (by rw [abs_of_pos (by norm_num)]; exact (one_div_le_one_div_of_le (by norm_num)
        (le_self_pow₀ (by norm_num) (by norm_num))).trans (by norm_num : (1 : ℚ) / 2 ≤ 9 / 10))
      (by rw [abs_of_pos (by norm_num)]; exact le_trans (by norm_num) (one_le_pow₀ (by norm_num)))
    rw [abs_of_pos (by norm_num : (0 : ℚ) < 9 / 10)] at hrel
    calc |I * fl (9 / 10) - I * (9 / 10)| = I * |fl (9 / 10) - 9 / 10| := by
          rw [← mul_sub, abs_mul, abs_of_pos (by linarith)]
      _ ≤ I * (9 / 10 / 2 ^ 53) := by gcongr
      _ ≤ 1 / 8192 := by linarith
  have hninth := abs_le.1 hnine
  have hmost := abs_le.1 (close hfl (x := I * fl (9 / 10))
    (Or.inr (by rw [abs_of_pos (by linarith)]; linarith))
    (by rw [abs_of_pos (by linarith)]; linarith))
  constructor
  · intro hle
    by_contra hlt
    have hltq : (s : ℚ) + 1 ≤ 54 * I := by
      have : s + 1 ≤ 54 * I := by omega
      exact_mod_cast this
    linarith
  · intro hle
    have hltq : (54 * I : ℚ) + 1 ≤ s := by
      have : 54 * I + 1 ≤ s := by omega
      exact_mod_cast this
    linarith

end Hours

end ProactiveIntelligenceService
end AeroComply
