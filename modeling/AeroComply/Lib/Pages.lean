import Mathlib.Data.List.Perm.Basic

/-!
# Pages — a list read page by page

`walk size step n l` is what `n` reads of a list collect, a read taking `size` items and the next
one starting `step` items further on.  A walk collects every item exactly once, however long it
goes on, when the pages lie side by side, or when the whole list is in the first page and the
second one starts behind it (`walk_perm_iff`).
-/

namespace Pages

variable {α : Type} {size step n : Nat}

/-- `l[offset : offset + size]`. -/
def page (size offset : Nat) (l : List α) : List α := (l.drop offset).take size

variable {l : List α}

/-- **THE FIRST PAGE**: of a list in a strict order it has the items that at most `k` are no later
than, themselves among them. -/
theorem mem_take_iff {r : α → α → Prop} [DecidableRel r] (hrefl : ∀ a, r a a) {a : α} {k : Nat}
    (h : l.Pairwise fun b c => r b c ∧ ¬r c b) (ha : a ∈ l) :
    a ∈ l.take k ↔ l.countP (fun b => r b a) ≤ k := by
  induction l generalizing k with
  | nil => cases ha
  | cons b l ih =>
    obtain ⟨hhead, htail⟩ := List.pairwise_cons.1 h
    rcases List.mem_cons.1 ha with rfl | hmem
    · have hlater : l.countP (fun b => r b a) = 0 := by
        rw [List.countP_eq_zero]
        intro c hc hca
        exact (hhead c hc).2 (of_decide_eq_true hca)
      rw [List.countP_cons, if_pos (decide_eq_true (hrefl a)), hlater]
      cases k with
      | zero => exact iff_of_false List.not_mem_nil (Nat.not_succ_le_zero 0)
      | succ k => exact iff_of_true List.mem_cons_self (Nat.succ_le_succ (Nat.zero_le k))
    · have hba := hhead a hmem
      rw [List.countP_cons, if_pos (decide_eq_true hba.1)]
      cases k with
      | zero => exact iff_of_false List.not_mem_nil (Nat.not_succ_le_zero _)
      | succ k =>
        rw [List.take_succ_cons, List.mem_cons, Nat.succ_le_succ_iff, ← ih htail hmem]
        refine or_iff_right fun heq => hba.2 ?_
        rw [heq]
        exact hrefl b

/-- The pages at `0`, `step`, `2 * step` and so on, one after the other. -/
def walk (size step n : Nat) (l : List α) : List α :=
  (List.range n).flatMap fun i => page size (i * step) l

@[simp] theorem walk_zero (l : List α) : walk size step 0 l = [] := rfl

theorem walk_succ (l : List α) :
    walk size step (n + 1) l = l.take size ++ walk size step n (l.drop step) := by
  rw [walk, List.range_succ_eq_map, List.flatMap_cons, List.flatMap_map]
  congr 1
  · rw [page, Nat.zero_mul, List.drop_zero]
  · refine congrArg (List.flatMap · (List.range n)) (funext fun i => ?_)
    rw [page, page, List.drop_drop, Nat.succ_mul, Nat.add_comm]

theorem length_walk_succ (l : List α) : (walk size step (n + 1) l).length
    = min size l.length + (walk size step n (l.drop step)).length := by
  rw [walk_succ, List.length_append, List.length_take]

theorem walk_nil : walk size step n ([] : List α) = [] := by
  induction n with
  | zero => rfl
  | succ n ih => rw [walk_succ, List.take_nil, List.drop_nil, ih, List.append_nil]

/-- **SIDE BY SIDE**: the pages are the list up to where the last one ends. -/
theorem walk_self (l : List α) : walk size size n l = l.take (n * size) := by
  induction n generalizing l with
  | zero => rw [walk_zero, Nat.zero_mul, List.take_zero]
  | succ n ih => rw [walk_succ, ih, Nat.succ_mul, Nat.add_comm, List.take_add]

theorem walk_self_of_le (h : l.length ≤ n * size) : walk size size n l = l := by
  rw [walk_self, List.take_of_length_le h]

theorem walk_of_one_page (hsize : l.length ≤ size) (hstep : l.length ≤ step) :
    walk size step (n + 1) l = l := by
  rw [walk_succ, List.take_of_length_le hsize, List.drop_eq_nil_of_le hstep, walk_nil,
    List.append_nil]

/-- Pages with gaps between them collect items in their order, each at most once. -/
theorem walk_sublist (h : size ≤ step) (l : List α) : (walk size step n l).Sublist l := by
  induction n generalizing l with
  | zero => exact List.nil_sublist l
  | succ n ih =>
    have hrest : (walk size step n (l.drop step)).Sublist (l.drop size) :=
      (ih (l.drop step)).trans (List.drop_sublist_drop_left l h)
    have hall := hrest.append_left (l.take size)
    rw [List.take_append_drop] at hall
    rw [walk_succ]
    exact hall

/-- **GAPS**: what lies between the first two pages is missed. -/
theorem length_walk_lt (h : size < step) (hl : size < l.length) :
    (walk size step n l).length < l.length := by
  cases n with
  | zero => exact Nat.zero_lt_of_lt hl
  | succ n =>
    have hrest := (walk_sublist (n := n) (Nat.le_of_lt h) (l.drop step)).length_le
    rw [List.length_drop] at hrest
    rw [length_walk_succ]
    omega

theorem min_le_length_walk (hsize : 0 < size) (h : step ≤ size) (l : List α) :
    min n l.length ≤ (walk size step n l).length := by
  induction n generalizing l with
  | zero => exact Nat.le_trans (Nat.min_le_left _ _) (Nat.zero_le _)
  | succ n ih =>
    have hrest := ih (l.drop step)
    rw [List.length_drop] at hrest
    rw [length_walk_succ]
    omega

/-- **OVERLAPS**: what is in the first two pages is collected twice. -/
theorem lt_length_walk (h : step < size) (hl : step < l.length) (hn : l.length ≤ n) :
    l.length < (walk size step (n + 1) l).length := by
  have hrest := min_le_length_walk (n := n) (Nat.zero_lt_of_lt h) (Nat.le_of_lt h)
    (l.drop step)
  rw [List.length_drop] at hrest
  rw [length_walk_succ]
  omega

theorem walk_eq_self (hsize : 0 < size) (h : step = size ∨ l.length ≤ min size step) :
    ∃ enough, ∀ n ≥ enough, walk size step n l = l := by
  rcases h with rfl | hshort
  · refine ⟨l.length, fun n hn => ?_⟩
    exact walk_self_of_le (Nat.le_trans hn (Nat.le_mul_of_pos_right n hsize))
  · refine ⟨1, fun n hn => ?_⟩
    obtain ⟨m, rfl⟩ := Nat.exists_eq_add_of_le' hn
    exact walk_of_one_page (Nat.le_trans hshort (Nat.min_le_left _ _))
      (Nat.le_trans hshort (Nat.min_le_right _ _))

/-- **EXACTLY ONCE**: from some number of pages on, a walk collects every item exactly once exactly
when the pages lie side by side or the list is not longer than a page and than a step. -/
theorem walk_perm_iff (hsize : 0 < size) (l : List α) :
    (∃ enough, ∀ n ≥ enough, (walk size step n l).Perm l) ↔
      step = size ∨ l.length ≤ min size step := by
  constructor
  · rintro ⟨enough, h⟩
    by_contra hnot
    obtain ⟨hne, hlong⟩ := not_or.1 hnot
    have hlength := (h (max enough l.length + 1) (by omega)).length_eq
    rcases Nat.lt_or_gt_of_ne hne with hlt | hgt
    · have hover := lt_length_walk hlt (l := l) (n := max enough l.length) (by omega) (by omega)
      omega
    · have hgap := length_walk_lt hgt (l := l) (n := max enough l.length + 1) (by omega)
      omega
  · intro h
    obtain ⟨enough, hall⟩ := walk_eq_self hsize h
    exact ⟨enough, fun n hn => by rw [hall n hn]⟩

end Pages
