import Mathlib.Algebra.Order.BigOperators.Group.List
import Mathlib.Algebra.Order.Ring.Int

/-!
# Allocation — two parties fill the same slots in order

A list of capacities is filled from the front.  Each party plans its amounts from
what it sees of the capacities, and a slot never takes more than its capacity:
what the plans put in twice is lost.

`raced caps a b lag` is what `a` and `b` fill together when the second party has
seen the first `lag` amounts of the first one.  The result says exactly when
nothing is lost.
-/

namespace Allocation

/-- What two parties fill, the second one planning after `lag` slots of the first. -/
def raced : List Int → Int → Int → Nat → Int
  | [], _, _, _ => 0
  | cap :: caps, a, b, lag =>
    let x := min cap a
    let seen := if lag = 0 then cap else cap - x
    let y := min seen b
    min cap (x + y) + raced caps (a - x) (b - y) (lag - 1)

variable {caps : List Int}

theorem sum_nonneg (h : ∀ c ∈ caps, 0 < c) : 0 ≤ caps.sum := by
  induction caps with
  | nil => exact le_refl 0
  | cons c caps ih =>
    have hc := h c List.mem_cons_self
    have hrest := ih (fun x hx => h x (List.mem_cons_of_mem _ hx))
    rw [List.sum_cons]
    omega

theorem getLastD_le_sum (h : ∀ c ∈ caps, 0 < c) (c : Int) (hc : 0 < c) :
    (c :: caps).getLastD 0 ≤ (c :: caps).sum := by
  induction caps generalizing c with
  | nil => simp
  | cons d caps ih =>
    have hlast := ih (fun x hx => h x (List.mem_cons_of_mem _ hx)) d (h d List.mem_cons_self)
    rw [List.sum_cons]
    have hsame : (c :: d :: caps).getLastD 0 = (d :: caps).getLastD 0 := by simp
    rw [hsame]
    omega

theorem raced_zero_left (h : ∀ c ∈ caps, 0 < c) :
    ∀ {b : Int} (lag : Nat), 0 ≤ b → raced caps 0 b lag = min b caps.sum := by
  induction caps with
  | nil =>
    intro b lag hb
    simp [raced, hb]
  | cons c caps ih =>
    intro b lag hb
    have hc := h c List.mem_cons_self
    have hsum := sum_nonneg (fun x hx => h x (List.mem_cons_of_mem c hx))
    have hx : min c 0 = 0 := by omega
    simp only [raced, hx, sub_zero]
    rw [ih (fun x hx => h x (List.mem_cons_of_mem _ hx)) (lag - 1) (by omega), List.sum_cons]
    omega

theorem raced_zero_right (h : ∀ c ∈ caps, 0 < c) :
    ∀ {a : Int} (lag : Nat), 0 ≤ a → raced caps a 0 lag = min a caps.sum := by
  induction caps with
  | nil =>
    intro a lag ha
    simp [raced, ha]
  | cons c caps ih =>
    intro a lag ha
    have hc := h c List.mem_cons_self
    have hsum := sum_nonneg (fun x hx => h x (List.mem_cons_of_mem c hx))
    have hy : min (if lag = 0 then c else c - min c a) 0 = 0 := by
      split
      · omega
      · omega
    simp only [raced, hy, sub_zero, add_zero]
    rw [ih (fun x hx => h x (List.mem_cons_of_mem _ hx)) (lag - 1) (by omega), List.sum_cons]
    omega

/-- Together they fill no more than they bring, and no more than there is. -/
theorem raced_le (h : ∀ c ∈ caps, 0 < c) :
    ∀ {a b : Int} (lag : Nat), 0 ≤ a → 0 ≤ b →
      raced caps a b lag ≤ a + b ∧ raced caps a b lag ≤ caps.sum := by
  induction caps with
  | nil =>
    intro a b lag ha hb
    exact ⟨by rw [raced]; omega, le_refl 0⟩
  | cons c caps ih =>
    intro a b lag ha hb
    have hc := h c List.mem_cons_self
    simp only [raced]
    have hy : 0 ≤ (if lag = 0 then c else c - min c a) := by
      split
      · omega
      · omega
    obtain ⟨hle, hsum⟩ := ih (fun x hx => h x (List.mem_cons_of_mem _ hx)) (lag - 1)
      (show 0 ≤ a - min c a by omega)
      (show 0 ≤ b - min (if lag = 0 then c else c - min c a) b by omega)
    rw [List.sum_cons]
    exact ⟨by omega, by omega⟩

/-! ## Both plan from the full capacities -/

/-- Everything is filled exactly when one of them could do it alone, or the two together can
do it with all slots but the last one filled twice. -/
theorem raced_eq_sum_iff :
    ∀ {c a b : Int}, 0 < c → (∀ c ∈ caps, 0 < c) → 0 ≤ a → 0 ≤ b →
      (raced (c :: caps) a b 0 = (c :: caps).sum ↔
        (c :: caps).sum ≤ a ∨ (c :: caps).sum ≤ b ∨
          2 * (c :: caps).sum - (c :: caps).getLastD 0 ≤ a + b) := by
  induction caps with
  | nil =>
    intro c a b hc _ ha hb
    simp only [raced, List.sum_cons, List.sum_nil, if_pos, add_zero]
    have hlast : [c].getLastD 0 = c := rfl
    rw [hlast]
    omega
  | cons d caps ih =>
    intro c a b hc h ha hb
    have hd := h d List.mem_cons_self
    have htail : ∀ x ∈ caps, 0 < x := fun x hx => h x (List.mem_cons_of_mem _ hx)
    have hlast : (c :: d :: caps).getLastD 0 = (d :: caps).getLastD 0 := by simp
    have hle := getLastD_le_sum htail d hd
    have hpos : 0 < (d :: caps).sum := by
      rw [List.sum_cons]
      have := sum_nonneg htail
      omega
    have hstep : raced (c :: d :: caps) a b 0
        = min c (min c a + min c b) + raced (d :: caps) (a - min c a) (b - min c b) 0 := rfl
    rw [hstep, hlast, List.sum_cons]
    -- a party that does not fill the first slot leaves the rest to the other one
    by_cases hac : a < c
    · have hzero : a - min c a = 0 := by omega
      rw [hzero, raced_zero_left h 0 (by omega)]
      omega
    · by_cases hbc : b < c
      · have hzero : b - min c b = 0 := by omega
        rw [hzero, raced_zero_right h 0 (by omega)]
        omega
      · have hiff := ih (c := d) (a := a - min c a) (b := b - min c b) hd htail (by omega)
          (by omega)
        omega

/-- Nothing is lost exactly when everything is filled, or when the first slot takes it all. -/
theorem raced_eq_min_iff_of_unseen {c a b : Int} (hc : 0 < c) (h : ∀ c ∈ caps, 0 < c) (ha : 0 < a)
    (hb : 0 < b) :
    raced (c :: caps) a b 0 = min (a + b) (c :: caps).sum ↔
      (c :: caps).sum ≤ a ∨ (c :: caps).sum ≤ b ∨ a + b ≤ c ∨
        2 * (c :: caps).sum - (c :: caps).getLastD 0 ≤ a + b := by
  have hall : ∀ x ∈ c :: caps, 0 < x := List.forall_mem_cons.2 ⟨hc, h⟩
  have hfull := raced_eq_sum_iff hc h (le_of_lt ha) (le_of_lt hb)
  obtain ⟨hle, _⟩ := raced_le hall 0 (le_of_lt ha) (le_of_lt hb)
  have hlast := getLastD_le_sum h c hc
  -- enough for all slots, or what goes in is all of it
  by_cases hcover : (c :: caps).sum ≤ a + b
  · rw [min_eq_right hcover, hfull]
    have hsum : (c :: caps).sum = c + caps.sum := List.sum_cons
    have hrest := sum_nonneg h
    constructor
    · rintro (h₁ | h₂ | h₃)
      · exact Or.inl h₁
      · exact Or.inr (Or.inl h₂)
      · exact Or.inr (Or.inr (Or.inr h₃))
    · rintro (h₁ | h₂ | h₃ | h₄)
      · exact Or.inl h₁
      · exact Or.inr (Or.inl h₂)
      · -- the first slot is then the only one
        cases caps with
        | nil =>
          refine Or.inr (Or.inr ?_)
          simp only [List.sum_cons, List.sum_nil, List.getLastD_cons, List.getLastD_nil] at hcover ⊢
          omega
        | cons d caps =>
          have hd := h d List.mem_cons_self
          have hpos := sum_nonneg (fun x hx => h x (List.mem_cons_of_mem d hx))
          rw [List.sum_cons, List.sum_cons] at hcover
          omega
      · exact Or.inr (Or.inr h₄)
  · rw [min_eq_left (by omega)]
    have hrest := raced_le h 0 (show 0 ≤ a - min c a by omega) (show 0 ≤ b - min c b by omega)
    have hstep : raced (c :: caps) a b 0
        = min c (min c a + min c b) + raced caps (a - min c a) (b - min c b) 0 := rfl
    constructor
    · intro heq
      rw [hstep] at heq
      omega
    · rintro (h₁ | h₂ | h₃ | h₄)
      · omega
      · omega
      · have hxa : a - min c a = 0 := by omega
        have hxb : b - min c b = 0 := by omega
        rw [hstep, hxa, hxb, raced_zero_left h 0 (le_refl 0)]
        have := sum_nonneg h
        omega
      · omega

/-! ## The second party has seen some of the first one's amounts -/

/-- The slots that the first party has filled before are seen to be full. -/
theorem raced_lag (h : ∀ c ∈ caps, 0 < c) :
    ∀ {a b : Int} (lag : Nat), 0 < a → 0 < b →
      ((caps.take lag).sum < a → raced caps a b lag
        = (caps.take lag).sum + raced (caps.drop lag) (a - (caps.take lag).sum) b 0) ∧
      (a ≤ (caps.take lag).sum → raced caps a b lag = min (a + b) caps.sum) := by
  induction caps with
  | nil =>
    intro a b lag ha hb
    simp [raced]
    omega
  | cons c caps ih =>
    intro a b lag ha hb
    have hc := h c List.mem_cons_self
    have htail : ∀ x ∈ caps, 0 < x := fun x hx => h x (List.mem_cons_of_mem _ hx)
    cases lag with
    | zero =>
      simp only [List.take_zero, List.sum_nil, List.drop_zero, sub_zero, zero_add]
      exact ⟨fun _ => trivial, fun hle => by omega⟩
    | succ lag =>
      have hstep : raced (c :: caps) a b (lag + 1)
          = min c (min c a + min (c - min c a) b)
            + raced caps (a - min c a) (b - min (c - min c a) b) lag := rfl
      rw [hstep, List.take_succ_cons, List.drop_succ_cons, List.sum_cons, List.sum_cons]
      have hnonneg : 0 ≤ (caps.take lag).sum :=
        sum_nonneg fun x hx => htail x (List.mem_of_mem_take hx)
      have hsum := sum_nonneg htail
      -- the first slot is full when the second party reads, or the first party is done
      by_cases hlt : c < a
      · have hxa : min c a = c := by omega
        have hyb : min (c - c) b = 0 := by omega
        obtain ⟨hmore, hdone⟩ := ih htail lag (show 0 < a - c by omega) hb
        rw [hxa, hyb, sub_zero]
        constructor
        · intro hleft
          rw [hmore (by omega), show a - c - (caps.take lag).sum
            = a - (c + (caps.take lag).sum) by omega]
          omega
        · intro hleft
          rw [hdone (by omega)]
          omega
      · have hzero : a - min c a = 0 := by omega
        rw [hzero, raced_zero_left htail lag (by omega)]
        constructor
        · intro hleft
          omega
        · intro _
          omega

/-- The first party was done, or what is left can be done by one of them, or fits the next
slot, or fills everything but the last slot twice. -/
def Lossless (caps : List Int) (a b : Int) (lag : Nat) : Prop :=
  a ≤ (caps.take lag).sum ∨
  (caps.drop lag).sum ≤ a - (caps.take lag).sum ∨
  (caps.drop lag).sum ≤ b ∨
  a - (caps.take lag).sum + b ≤ (caps.drop lag).headD 0 ∨
  2 * (caps.drop lag).sum - (caps.drop lag).getLastD 0 ≤ a - (caps.take lag).sum + b

instance (caps : List Int) (a b : Int) (lag : Nat) : Decidable (Lossless caps a b lag) :=
  inferInstanceAs (Decidable (_ ∨ _ ∨ _ ∨ _ ∨ _))

/-- **NOTHING IS LOST** between two parties exactly under `Lossless`. -/
theorem raced_eq_min_iff (h : ∀ c ∈ caps, 0 < c) {a b : Int} (lag : Nat) (ha : 0 < a) (hb : 0 < b) :
    raced caps a b lag = min (a + b) caps.sum ↔ Lossless caps a b lag := by
  obtain ⟨hmore, hdone⟩ := raced_lag h lag ha hb
  by_cases hleft : a ≤ (caps.take lag).sum
  · exact iff_of_true (hdone hleft) (Or.inl hleft)
  · have hlt : (caps.take lag).sum < a := by omega
    have hsplit : (caps.take lag).sum + (caps.drop lag).sum = caps.sum := by
      rw [← List.sum_append, List.take_append_drop]
    rw [hmore hlt, Lossless]
    -- from here on neither party has seen anything of the other
    cases hdrop : caps.drop lag with
    | nil =>
      rw [hdrop, List.sum_nil] at hsplit
      refine iff_of_true ?_ (Or.inr (Or.inr (Or.inl ?_)))
      · rw [raced]
        omega
      · rw [List.sum_nil]
        omega
    | cons c rest =>
      have hmem : ∀ x ∈ c :: rest, 0 < x := by
        intro x hx
        rw [← hdrop] at hx
        exact h x (List.mem_of_mem_drop hx)
      have hiff := raced_eq_min_iff_of_unseen (hmem c List.mem_cons_self)
        (fun x hx => hmem x (List.mem_cons_of_mem _ hx))
        (show 0 < a - (caps.take lag).sum by omega) hb
      rw [hdrop] at hsplit
      have hhead : (c :: rest).headD 0 = c := rfl
      rw [hhead]
      omega

/-! ## One party alone -/

/-- What one party fills of each slot. -/
def alone : List Int → Int → List Int
  | [], _ => []
  | cap :: caps, a => min cap a :: alone caps (a - min cap a)

theorem sum_alone (h : ∀ c ∈ caps, 0 ≤ c) :
    ∀ {a : Int}, 0 ≤ a → (alone caps a).sum = min a caps.sum := by
  induction caps with
  | nil =>
    intro a ha
    rw [alone, List.sum_nil]
    omega
  | cons c caps ih =>
    intro a ha
    have hc := h c List.mem_cons_self
    have htail : ∀ x ∈ caps, 0 ≤ x := fun x hx => h x (List.mem_cons_of_mem _ hx)
    have hsum := List.sum_nonneg htail
    rw [alone, List.sum_cons, ih htail (show 0 ≤ a - min c a by omega), List.sum_cons]
    omega

section Items

variable {ι : Type} {cap given : ι → Int} {items : List ι}

theorem sum_map_filter {p : ι → Bool} (h : ∀ i ∈ items, p i = false → given i = 0) :
    ((items.filter p).map given).sum = (items.map given).sum := by
  induction items with
  | nil => rfl
  | cons i items ih =>
    have hrest := ih fun x hx => h x (List.mem_cons_of_mem _ hx)
    by_cases hi : p i = true
    · rw [List.filter_cons_of_pos hi, List.map_cons, List.sum_cons, hrest, List.map_cons,
        List.sum_cons]
    · rw [List.filter_cons_of_neg hi, hrest, List.map_cons, List.sum_cons,
        h i List.mem_cons_self (Bool.eq_false_iff.2 hi), zero_add]

theorem given_bounds (hcap : ∀ i ∈ items, 0 ≤ cap i) :
    ∀ {a : Int}, 0 ≤ a → items.map given = alone (items.map cap) a →
      ∀ i ∈ items, 0 ≤ given i ∧ given i ≤ cap i := by
  induction items with
  | nil =>
    intro a _ _ i hi
    cases hi
  | cons j items ih =>
    intro a ha h i hi
    obtain ⟨hfirst, hrest⟩ := List.cons.inj h
    have hj := hcap j List.mem_cons_self
    rcases List.mem_cons.1 hi with rfl | hi
    · rw [hfirst]
      omega
    · exact ih (fun x hx => hcap x (List.mem_cons_of_mem _ hx)) (by omega) hrest i hi

theorem given_eq_zero (hcap : ∀ i ∈ items, 0 ≤ cap i)
    (h : items.map given = alone (items.map cap) 0) : ∀ i ∈ items, given i = 0 := by
  induction items with
  | nil =>
    intro i hi
    cases hi
  | cons j items ih =>
    intro i hi
    obtain ⟨hfirst, hrest⟩ := List.cons.inj h
    have hj := hcap j List.mem_cons_self
    have hnone : min (cap j) 0 = 0 := by omega
    rw [hnone] at hfirst hrest
    rcases List.mem_cons.1 hi with rfl | hi
    · exact hfirst
    · exact ih (fun x hx => hcap x (List.mem_cons_of_mem _ hx)) hrest i hi

/-- **IN ORDER**: a slot gets something only if all slots before it are full. -/
theorem pairwise_given (hcap : ∀ i ∈ items, 0 ≤ cap i) :
    ∀ {a : Int}, 0 ≤ a → items.map given = alone (items.map cap) a →
      items.Pairwise fun i j => 0 < given j → given i = cap i := by
  induction items with
  | nil => exact fun _ _ => List.Pairwise.nil
  | cons i items ih =>
    intro a ha h
    obtain ⟨hfirst, hrest⟩ := List.cons.inj h
    have hi := hcap i List.mem_cons_self
    have htail : ∀ x ∈ items, 0 ≤ cap x := fun x hx => hcap x (List.mem_cons_of_mem _ hx)
    refine List.pairwise_cons.2 ⟨fun j hj hpos => ?_, ih htail (by omega) hrest⟩
    rw [hfirst]
    -- a slot that does not fill leaves nothing for the next ones
    by_cases hfull : cap i ≤ a
    · omega
    · have hnone : a - min (cap i) a = 0 := by omega
      have hzero := given_eq_zero htail (hnone ▸ hrest) j hj
      omega

end Items

end Allocation
