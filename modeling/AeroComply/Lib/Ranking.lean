import Mathlib.Algebra.Order.BigOperators.Group.List
import Mathlib.Algebra.Order.Field.Basic
import Mathlib.Data.List.Sort
import Mathlib.Tactic.Linarith

/-!
# Ranking — sorted items with their places, and a score of what they cost

`ranked r items` sorts the items and numbers them from 1.  It is the same items
(`map_fst_ranked_perm`), the places are `1, …, n` (`map_snd_ranked`), and an item of a
smaller place comes before (`pairwise_ranked`).

`score cap cost items` is what the costs of the items leave of `cap`, at least 0.  It lies
between 0 and `cap` (`score_nonneg`, `score_le`), does not see the order of the items
(`score_perm`), and is not raised by more items (`score_anti`).
-/

namespace Ranking

variable {α : Type}

section Ranked

variable (r : α → α → Prop) [DecidableRel r]

/-- The items in order, each with its place. -/
def ranked (items : List α) : List (α × ℕ) := (items.insertionSort r).zipIdx 1

theorem length_ranked (items : List α) : (ranked r items).length = items.length := by
  rw [ranked, List.length_zipIdx, List.length_insertionSort]

theorem map_fst_ranked (items : List α) :
    (ranked r items).map Prod.fst = items.insertionSort r := List.zipIdx_map_fst 1 _

theorem map_fst_ranked_perm (items : List α) : ((ranked r items).map Prod.fst).Perm items := by
  rw [map_fst_ranked]
  exact List.perm_insertionSort r items

theorem map_snd_ranked (items : List α) :
    (ranked r items).map Prod.snd = List.range' 1 items.length := by
  rw [ranked, List.zipIdx_map_snd, List.length_insertionSort]

theorem pairwise_ranked [Std.Total r] [IsTrans α r] (items : List α) :
    (ranked r items).Pairwise fun x y => r x.1 y.1 := by
  have h := List.pairwise_insertionSort r items
  rw [← map_fst_ranked, List.pairwise_map] at h
  exact h

theorem exists_head?_insertionSort [Std.Total r] [IsTrans α r] {items : List α} (h : items ≠ []) :
    ∃ a ∈ items, (items.insertionSort r).head? = some a ∧ ∀ b ∈ items, r a b := by
  have hsorted := List.pairwise_insertionSort r items
  have hperm := List.perm_insertionSort r items
  cases hsort : items.insertionSort r with
  | nil =>
    rw [hsort] at hperm
    exact absurd hperm.symm.eq_nil h
  | cons a rest =>
    rw [hsort] at hsorted hperm
    refine ⟨a, hperm.mem_iff.1 List.mem_cons_self, rfl, fun b hb => ?_⟩
    rcases List.mem_cons.1 (hperm.mem_iff.2 hb) with rfl | hrest
    · rcases Std.Total.total (r := r) b b with hbb | hbb
      · exact hbb
      · exact hbb
    · exact List.rel_of_pairwise_cons hsorted hrest

theorem rel_of_place_lt {place : α → ℕ} {s : α → α → Prop} {l : List α}
    (h : l.Pairwise fun a b => place a < place b ∧ s a b) {a b : α} (ha : a ∈ l) (hb : b ∈ l)
    (hlt : place a < place b) : s a b := by
  obtain ⟨i, hi, rfl⟩ := List.mem_iff_getElem.1 ha
  obtain ⟨j, hj, rfl⟩ := List.mem_iff_getElem.1 hb
  have hordered := List.pairwise_iff_getElem.1 h
  rcases lt_trichotomy i j with hij | rfl | hji
  · exact (hordered i j hi hj hij).2
  · exact absurd hlt (lt_irrefl _)
  · exact absurd hlt (hordered j i hj hi hji).1.asymm

end Ranked

section Score

variable {K : Type} [Field K] [LinearOrder K]
variable {cap : K} {cost : α → K} {items items' : List α}

/-- What the costs leave of the cap. -/
def score (cap : K) (cost : α → K) (items : List α) : K := max 0 (cap - (items.map cost).sum)

theorem score_nonneg : 0 ≤ score cap cost items := le_max_left _ _

theorem score_perm (h : items.Perm items') : score cap cost items = score cap cost items' := by
  rw [score, score, (h.map cost).sum_eq]

variable [IsStrictOrderedRing K]

theorem sum_nonneg_of (hcost : ∀ a, 0 ≤ cost a) (items : List α) : 0 ≤ (items.map cost).sum := by
  refine List.sum_nonneg fun x hx => ?_
  obtain ⟨a, _, rfl⟩ := List.mem_map.1 hx
  exact hcost a

theorem score_le (hcap : 0 ≤ cap) (hcost : ∀ a, 0 ≤ cost a) : score cap cost items ≤ cap := by
  refine max_le hcap ?_
  have := sum_nonneg_of hcost items
  linarith

theorem score_anti (hcost : ∀ a, 0 ≤ cost a) (h : items.Subperm items') :
    score cap cost items' ≤ score cap cost items := by
  obtain ⟨l, hperm, hsub⟩ := h
  have hsum : (l.map cost).sum ≤ (items'.map cost).sum := by
    refine List.Sublist.sum_le_sum (hsub.map cost) fun x hx => ?_
    obtain ⟨a, _, rfl⟩ := List.mem_map.1 hx
    exact hcost a
  rw [← score_perm hperm]
  refine max_le_max le_rfl ?_
  linarith

end Score

end Ranking
