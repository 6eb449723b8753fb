import Mathlib.Algebra.BigOperators.Group.List.Basic
import Mathlib.Algebra.Order.Ring.Int

/-!
# WindowSum — totals of records over half-open windows of time

`total p val rows` adds `val` over the records that satisfy `p`, as a query
`SELECT coalesce(sum(val), 0) WHERE p` does.  `within lo hi` is the filter of a
half-open window with either bound left open.

The two laws: a window splits at any instant inside it, and over pairwise
exclusive windows the total of their union is the sum of their totals.
-/

namespace WindowSum

variable {T α : Type}

/-- `coalesce(sum(val), 0)` over the records that satisfy `p`. -/
def total (p : α → Bool) (val : α → Int) (rows : List α) : Int :=
  ((rows.filter p).map val).sum

variable {val : α → Int} {rows : List α} {p : α → Bool}

theorem total_cons_pos {r : α} (h : p r = true) :
    total p val (r :: rows) = val r + total p val rows := by
  show (((r :: rows).filter p).map val).sum = _
  rw [List.filter_cons_of_pos h]
  rfl

theorem total_cons_neg {r : α} (h : ¬p r = true) :
    total p val (r :: rows) = total p val rows := by
  show (((r :: rows).filter p).map val).sum = _
  rw [List.filter_cons_of_neg h]
  rfl

theorem total_congr {p q : α → Bool} (h : ∀ r ∈ rows, p r = q r) :
    total p val rows = total q val rows := by
  show ((rows.filter p).map val).sum = ((rows.filter q).map val).sum
  rw [List.filter_congr h]

theorem total_false (h : ∀ r ∈ rows, p r = false) : total p val rows = 0 := by
  have hnil : rows.filter p = [] := by
    rw [List.filter_eq_nil_iff]
    intro r hr hp
    rw [h r hr] at hp
    cases hp
  show ((rows.filter p).map val).sum = 0
  rw [hnil]
  rfl

/-- A wider filter over values that are not negative adds up to no less. -/
theorem total_mono {p q : α → Bool} (hval : ∀ r ∈ rows, 0 ≤ val r)
    (h : ∀ r ∈ rows, p r = true → q r = true) :
    total p val rows ≤ total q val rows := by
  induction rows with
  | nil => exact le_refl _
  | cons r rows ih =>
    have hrest := ih (fun x hx => hval x (List.mem_cons_of_mem _ hx))
      (fun x hx => h x (List.mem_cons_of_mem _ hx))
    have hr := hval r List.mem_cons_self
    by_cases hp : p r = true
    · rw [total_cons_pos hp, total_cons_pos (h r List.mem_cons_self hp)]
      omega
    · rw [total_cons_neg hp]
      by_cases hq : q r = true
      · rw [total_cons_pos hq]
        omega
      · rw [total_cons_neg hq]
        exact hrest

theorem total_nonneg (hval : ∀ r ∈ rows, 0 ≤ val r) : 0 ≤ total p val rows := by
  have hnone : total (fun _ => false) val rows = 0 := total_false (fun _ _ => rfl)
  rw [← hnone]
  exact total_mono hval (fun _ _ h => (nomatch h))

theorem total_append_le {rows more : List α} (hval : ∀ r ∈ more, 0 ≤ val r) :
    total p val rows ≤ total p val (rows ++ more) := by
  have hsum : 0 ≤ total p val more := total_nonneg hval
  have hsplit : total p val (rows ++ more) = total p val rows + total p val more := by
    show (((rows ++ more).filter p).map val).sum = _
    rw [List.filter_append, List.map_append, List.sum_append]
    rfl
  rw [hsplit]
  omega

theorem total_append_singleton (r : α) :
    total p val (rows ++ [r]) = total p val rows + if p r then val r else 0 := by
  show (((rows ++ [r]).filter p).map val).sum = _
  rw [List.filter_append, List.map_append, List.sum_append, List.filter_singleton]
  by_cases hp : p r = true
  · rw [if_pos hp, hp]
    exact congrArg (total p val rows + ·) (List.sum_singleton)
  · rw [if_neg hp, Bool.eq_false_iff.2 hp]
    rfl

theorem total_eq_zero_iff (hval : ∀ r ∈ rows, 0 ≤ val r) :
    total p val rows = 0 ↔ ∀ r ∈ rows, p r = true → val r = 0 := by
  induction rows with
  | nil =>
    constructor
    · intro _ r hr
      cases hr
    · exact fun _ => rfl
  | cons r rows ih =>
    have hrest : ∀ x ∈ rows, 0 ≤ val x := fun x hx => hval x (List.mem_cons_of_mem _ hx)
    have hnonneg : 0 ≤ total p val rows := total_nonneg hrest
    have hr := hval r List.mem_cons_self
    rw [List.forall_mem_cons, ← ih hrest]
    by_cases hp : p r = true
    · rw [total_cons_pos hp]
      constructor
      · intro h
        exact ⟨fun _ => by omega, by omega⟩
      · rintro ⟨hzero, htotal⟩
        rw [hzero hp, htotal]
        rfl
    · rw [total_cons_neg hp]
      exact ⟨fun h => ⟨fun hpr => absurd hpr hp, h⟩, fun h => h.2⟩

theorem total_split (p q : α → Bool) (val : α → Int) (rows : List α) :
    total p val rows
      = total (fun r => p r && q r) val rows + total (fun r => p r && !q r) val rows := by
  induction rows with
  | nil => rfl
  | cons r rows ih =>
    by_cases hp : p r = true
    · rw [total_cons_pos hp, ih]
      by_cases hq : q r = true
      · rw [total_cons_pos (by simp [hp, hq]), total_cons_neg (by simp [hq])]
        omega
      · rw [total_cons_neg (by simp [hq]), total_cons_pos (by simp [hp, hq])]
        omega
    · rw [total_cons_neg hp, ih, total_cons_neg (by simp [hp]), total_cons_neg (by simp [hp])]

/-- **EXCLUSIVE FILTERS**: over pairwise exclusive filters, the total of the records in
some filter is the sum of the totals. -/
theorem total_any :
    ∀ {ps : List (α → Bool)}, ps.Pairwise (fun p q => ∀ r ∈ rows, p r = true → q r = false) →
      total (fun r => ps.any (fun p => p r)) val rows
        = (ps.map (fun p => total p val rows)).sum := by
  intro ps
  induction ps with
  | nil => exact fun _ => total_false (fun _ _ => rfl)
  | cons p ps ih =>
    intro hps
    obtain ⟨hp, hrest⟩ := List.pairwise_cons.1 hps
    have hin : total (fun r => (p :: ps).any (fun q => q r) && p r) val rows
        = total p val rows := by
      apply total_congr
      intro r _
      cases hpr : p r with
      | true => simp [hpr]
      | false => simp
    have hout : total (fun r => (p :: ps).any (fun q => q r) && !p r) val rows
        = total (fun r => ps.any (fun q => q r)) val rows := by
      apply total_congr
      intro r hr
      cases hpr : p r with
      | true =>
        have hnone : ps.any (fun q => q r) = false := by
          rw [List.any_eq_false]
          intro q hq
          rw [hp q hq r hr hpr]
          exact Bool.false_ne_true
        simp [hnone]
      | false => simp [hpr]
    rw [total_split _ p, hin, hout, ih hrest]
    rfl

section Windows

variable [LinearOrder T]

/-- The filter of the window `[lo, hi)`; a missing bound is open. -/
def within (lo hi : Option T) (t : T) : Bool :=
  (match lo with
    | none => true
    | some a => decide (a ≤ t)) &&
  (match hi with
    | none => true
    | some b => decide (t < b))

theorem within_some_some {a b t : T} : within (some a) (some b) t = true ↔ a ≤ t ∧ t < b := by
  simp [within]

/-- **SPLITTING**: a window splits at an instant inside it. -/
theorem total_within_split {a b c : T} (hab : a ≤ b) (hbc : b ≤ c) (p : α → Bool) (at_ : α → T)
    (val : α → Int) (rows : List α) :
    total (fun r => p r && within (some a) (some c) (at_ r)) val rows
      = total (fun r => p r && within (some a) (some b) (at_ r)) val rows
        + total (fun r => p r && within (some b) (some c) (at_ r)) val rows := by
  rw [total_split _ (fun r => decide (at_ r < b))]
  have hleft : ∀ r ∈ rows, (p r && within (some a) (some c) (at_ r) && decide (at_ r < b))
      = (p r && within (some a) (some b) (at_ r)) := by
    intro r _
    rw [Bool.eq_iff_iff]
    simp only [Bool.and_eq_true, within_some_some, decide_eq_true_iff]
    constructor
    · rintro ⟨⟨hp, ha, _⟩, hb⟩
      exact ⟨hp, ha, hb⟩
    · rintro ⟨hp, ha, hb⟩
      exact ⟨⟨hp, ha, lt_of_lt_of_le hb hbc⟩, hb⟩
  have hright : ∀ r ∈ rows, (p r && within (some a) (some c) (at_ r) && !decide (at_ r < b))
      = (p r && within (some b) (some c) (at_ r)) := by
    intro r _
    rw [Bool.eq_iff_iff]
    simp only [Bool.and_eq_true, within_some_some, Bool.not_eq_true', decide_eq_false_iff_not,
      not_lt]
    constructor
    · rintro ⟨⟨hp, _, hc⟩, hb⟩
      exact ⟨hp, hb, hc⟩
    · rintro ⟨hp, hb, hc⟩
      exact ⟨⟨hp, le_trans hab hb, hc⟩, hb⟩
  rw [total_congr hleft, total_congr hright]

theorem total_within_empty {a b : T} (hba : b ≤ a) (p : α → Bool) (at_ : α → T)
    (val : α → Int) (rows : List α) :
    total (fun r => p r && within (some a) (some b) (at_ r)) val rows = 0 := by
  apply total_false
  intro r _
  rw [Bool.and_eq_false_iff]
  right
  by_contra h
  obtain ⟨ha, hb⟩ := within_some_some.1 (Bool.of_not_eq_false h)
  exact absurd (lt_of_lt_of_le hb hba) (not_lt.2 ha)

/-- The lower bound `lo'` is no earlier than `lo`; a missing one is the earliest. -/
def NoEarlier (lo lo' : Option T) : Prop := ∀ a ∈ lo, ∃ a' ∈ lo', a ≤ a'

theorem within_of_noEarlier {lo lo' hi : Option T} (h : NoEarlier lo lo') {t : T}
    (ht : within lo' hi t = true) : within lo hi t = true := by
  obtain ⟨hlo, hhi⟩ := Bool.and_eq_true_iff.1 ht
  refine Bool.and_eq_true_iff.2 ⟨?_, hhi⟩
  cases lo with
  | none => rfl
  | some a =>
    obtain ⟨a', rfl, hle⟩ := h a rfl
    exact decide_eq_true (le_trans hle (of_decide_eq_true hlo))

/-- **LATER IS LESS**: a window that starts no earlier holds no more. -/
theorem total_within_anti {lo lo' : Option T} (h : NoEarlier lo lo') (hi : Option T) (p : α → Bool)
    (at_ : α → T) {val : α → Int} {rows : List α} (hval : ∀ r ∈ rows, 0 ≤ val r) :
    total (fun r => p r && within lo' hi (at_ r)) val rows
      ≤ total (fun r => p r && within lo hi (at_ r)) val rows := by
  refine total_mono hval fun r _ hr => ?_
  obtain ⟨hp, hin⟩ := Bool.and_eq_true_iff.1 hr
  exact Bool.and_eq_true_iff.2 ⟨hp, within_of_noEarlier h hin⟩

end Windows
end WindowSum
