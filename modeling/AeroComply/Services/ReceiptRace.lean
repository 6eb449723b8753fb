import AeroComply.Lib.Allocation
import AeroComply.Services.PartRequirement

/-!
# ReceiptRace — two receipts for the same requirements

`fulfill_from_receipt` reads the matching requirements, plans an amount for each,
and then writes each amount by one capped `UPDATE`.  Here two calls take these
steps in any interleaving.

The cap keeps every row within what it requires.  The plan of the call that reads
second misses what the first one has not written yet, so both can plan the same
row, and what the cap cuts off there reaches no other row.
-/

namespace AeroComply

open Relational (Table)

namespace ReceiptRace

open PartRequirementService
open Allocation (raced Lossless)

/-- What a receipt is for. -/
structure Scope where
  organizationId : UUID
  partId : UUID
  workOrderId : UUID
  taskId : Option UUID := none

/-- The requirements a call reads. -/
def read (s : Scope) (rows : Table PartRequirement) : List PartRequirement :=
  matching { partRequirements := rows } s.organizationId s.partId s.workOrderId s.taskId

inductive Caller
  | one
  | two
  deriving DecidableEq, Repr

def Caller.other : Caller → Caller
  | .one => .two
  | .two => .one

/-- A call has not read yet, or has these updates to make. -/
inductive Progress
  | unread
  | applying (todo : List (UUID × Int))
  deriving DecidableEq, Repr

structure Race where
  rows : Table PartRequirement
  progress : Caller → Progress

/-- The next step of a call: it reads and plans, or makes one update. -/
def step (s : Scope) (q : Caller → Int) (r : Race) (who : Caller) : Race :=
  match r.progress who with
  | .unread =>
    let plan := allocations (read s r.rows) (q who)
    { r with progress := Function.update r.progress who (.applying plan) }
  | .applying [] => r
  | .applying (a :: todo) =>
    { rows := creditRow s.organizationId r.rows a
      progress := Function.update r.progress who (.applying todo) }

/-- The calls take steps in the order of the schedule. -/
def run (s : Scope) (q : Caller → Int) (r : Race) (schedule : List Caller) : Race :=
  schedule.foldl (step s q) r

def start (rows : Table PartRequirement) : Race := ⟨rows, fun _ => .unread⟩

/-- Both calls have made all their updates. -/
def Finished (r : Race) : Prop :=
  r.progress .one = .applying [] ∧ r.progress .two = .applying []

instance (r : Race) : Decidable (Finished r) := inferInstanceAs (Decidable (_ ∧ _))

/-- A requirement that a receipt can still go to. -/
def isOpen (r : PartRequirement) : Bool := !isSettled r.status && decide (0 < outstanding r)

/-- The open requirements that match. -/
def openRows (s : Scope) (rows : Table PartRequirement) : List PartRequirement :=
  (read s rows).filter isOpen

def fulfilledOf (rows : Table PartRequirement) (id : UUID) : Int :=
  (rows.find? id).elim 0 PartRequirement.fulfilledQuantity

/-- What the open requirements of `rows` have gained in `rows'`. -/
def increase (s : Scope) (rows rows' : Table PartRequirement) : Int :=
  ((openRows s rows).map fun r => fulfilledOf rows' r.id - r.fulfilledQuantity).sum

/-! ## Credits -/

/-- What a list of updates adds to a row. -/
def credits (as : List (UUID × Int)) (id : UUID) : Int :=
  ((as.filter fun a => a.1 = id).map Prod.snd).sum

theorem credits_cons (a : UUID × Int) (as : List (UUID × Int)) (id : UUID) :
    credits (a :: as) id = (if a.1 = id then a.2 else 0) + credits as id := by
  by_cases h : a.1 = id
  · rw [credits, List.filter_cons_of_pos (by simp [h]), if_pos h]
    rfl
  · rw [credits, List.filter_cons_of_neg (by simp [h]), if_neg h, zero_add]
    rfl

theorem credits_nonneg {as : List (UUID × Int)} (h : ∀ a ∈ as, 0 < a.2) (id : UUID) :
    0 ≤ credits as id := by
  induction as with
  | nil => exact le_refl 0
  | cons a as ih =>
    have ha := h a List.mem_cons_self
    have hrest := ih (fun x hx => h x (List.mem_cons_of_mem _ hx))
    rw [credits_cons]
    split
    · omega
    · omega

theorem credits_of_not_mem {as : List (UUID × Int)} {id : UUID} (h : ∀ a ∈ as, a.1 ≠ id) :
    credits as id = 0 := by
  induction as with
  | nil => rfl
  | cons a as ih =>
    rw [credits_cons, if_neg (h a List.mem_cons_self), zero_add]
    exact ih (fun x hx => h x (List.mem_cons_of_mem _ hx))

theorem credits_append (as bs : List (UUID × Int)) (id : UUID) :
    credits (as ++ bs) id = credits as id + credits bs id := by
  rw [credits, List.filter_append, List.map_append, List.sum_append]
  rfl

theorem credits_take_drop (as : List (UUID × Int)) (n : Nat) (id : UUID) :
    credits (as.take n) id + credits (as.drop n) id = credits as id := by
  rw [← credits_append, List.take_append_drop]

/-- A row after the updates that add `c` to it; the order of the updates does not matter. -/
def bump (c : UUID → Int) (r : PartRequirement) : PartRequirement :=
  if c r.id = 0 then r else credited (c r.id) r

@[simp] theorem bump_id (c : UUID → Int) (r : PartRequirement) : (bump c r).id = r.id := by
  rw [bump]
  split
  · rfl
  · rfl

/-- The table after such updates. -/
def bumped (c : UUID → Int) (rows : Table PartRequirement) : Table PartRequirement :=
  rows.updateWhere (fun r => c r.id ≠ 0) (fun r => credited (c r.id) r) (fun _ => rfl)

theorem bumped_rows (c : UUID → Int) (rows : Table PartRequirement) :
    (bumped c rows).rows = rows.rows.map (bump c) := by
  refine List.map_congr_left ?_
  intro r _
  rw [bump]
  by_cases h : c r.id = 0
  · simp [h]
  · simp [h]

theorem bumped_zero (rows : Table PartRequirement) : bumped (fun _ => 0) rows = rows := by
  ext1
  rw [bumped_rows]
  exact List.map_id _

theorem creditRow_bumped {org : UUID} {c : UUID → Int} {rows : Table PartRequirement}
    {a : UUID × Int} (hc : ∀ id, 0 ≤ c id) (ha : 0 < a.2)
    (horg : ∀ r ∈ rows.rows, r.id = a.1 → r.organizationId = org) :
    creditRow org (bumped c rows) a
      = bumped (fun id => c id + if a.1 = id then a.2 else 0) rows := by
  ext1
  show (bumped c rows).rows.map _ = _
  rw [bumped_rows, bumped_rows, List.map_map]
  refine List.map_congr_left ?_
  intro r hr
  rw [Function.comp_apply]
  have hsame : (bump c r).organizationId = r.organizationId := by
    rw [bump]
    split
    · rfl
    · rfl
  by_cases hid : r.id = a.1
  -- two capped additions are one: `min q (min q (f + x) + y) = min q (f + x + y)`
  · have hnonneg := hc r.id
    have hpos : c r.id + a.2 ≠ 0 := by omega
    rw [if_pos (by simp [hid, hsame, horg r hr hid]), bump, bump]
    rw [if_pos hid.symm, if_neg hpos]
    by_cases hzero : c r.id = 0
    · rw [if_pos hzero, hzero, zero_add]
    · rw [if_neg hzero]
      simp only [credited]
      have hmin : min r.requiredQuantity (min r.requiredQuantity
          (r.fulfilledQuantity + c r.id) + a.2)
          = min r.requiredQuantity (r.fulfilledQuantity + (c r.id + a.2)) := by omega
      rw [hmin]
  · have hne : ¬a.1 = r.id := fun h => hid h.symm
    rw [if_neg (by simp [hid]), bump, bump]
    simp only [if_neg hne, add_zero]

/-! ## What a call reads -/

variable {s : Scope} {rows : Table PartRequirement}

theorem mem_read {r : PartRequirement} (h : r ∈ read s rows) :
    r ∈ rows.rows ∧ r.organizationId = s.organizationId := by
  rw [read, matching, List.mem_insertionSort, Table.mem_select] at h
  simp only [Bool.and_eq_true, decide_eq_true_eq] at h
  exact ⟨h.1, h.2.1.1.1⟩

theorem read_bumped (c : UUID → Int) : read s (bumped c rows) = (read s rows).map (bump c) := by
  have hkeep : ∀ r : PartRequirement, (bump c r).organizationId = r.organizationId ∧
      (bump c r).partId = r.partId ∧ (bump c r).workOrderId = r.workOrderId ∧
      (bump c r).taskId = r.taskId ∧ (bump c r).createdAt = r.createdAt := by
    intro r
    rw [bump]
    split
    · exact ⟨rfl, rfl, rfl, rfl, rfl⟩
    · exact ⟨rfl, rfl, rfl, rfl, rfl⟩
  rw [read, read, matching, matching, Table.select_of_rows_map (bumped_rows c rows)]
  · refine (List.map_insertionSort _ _ (bump c) _ ?_).symm
    intro r _ r' _
    rw [(hkeep r).2.2.2.2, (hkeep r').2.2.2.2]
  · intro r
    obtain ⟨horg, hpart, hwo, htask, _⟩ := hkeep r
    rw [horg, hpart, hwo, htask]

theorem read_nodup : ((read s rows).map PartRequirement.id).Nodup := by
  have hperm := List.perm_insertionSort (fun r r' : PartRequirement => r.createdAt ≤ r'.createdAt)
    (rows.select fun r => r.organizationId = s.organizationId && r.partId = s.partId &&
      r.workOrderId = s.workOrderId && (s.taskId.isNone || r.taskId = s.taskId))
  refine (hperm.map PartRequirement.id).nodup_iff.2 ?_
  exact rows.nodup.sublist (List.filter_sublist.map _)

/-- What a call still has to do: positive amounts, for rows of the tenant. -/
def Planned (s : Scope) (rows : Table PartRequirement) (todo : List (UUID × Int)) : Prop :=
  ∀ a ∈ todo, 0 < a.2 ∧ ∀ r ∈ rows.rows, r.id = a.1 → r.organizationId = s.organizationId

theorem Planned.tail {todo : List (UUID × Int)} (h : Planned s rows todo) :
    Planned s rows todo.tail :=
  fun a ha => h a (List.mem_of_mem_tail ha)

theorem nonneg_take {c : UUID → Int} {todo : List (UUID × Int)} (hc : ∀ id, 0 ≤ c id)
    (h : Planned s rows todo) (id : UUID) : 0 ≤ c id + credits (todo.take 1) id := by
  have hfirst : 0 ≤ credits (todo.take 1) id :=
    credits_nonneg (fun a ha => (h a (List.mem_of_mem_take ha)).1) id
  have hid := hc id
  omega

theorem planned_allocations {c : UUID → Int} {q : Int} :
    Planned s rows (allocations (read s (bumped c rows)) q) := by
  intro a ha
  obtain ⟨hpos, x, hx, hid⟩ := mem_allocations a ha
  refine ⟨hpos, ?_⟩
  intro r hr hrid
  rw [read_bumped] at hx
  obtain ⟨y, hy, rfl⟩ := List.mem_map.1 hx
  obtain ⟨hmem, horg⟩ := mem_read hy
  rw [bump_id] at hid
  rw [Table.eq_of_key_eq hr hmem (hrid.trans hid.symm)]
  exact horg

/-! ## A run -/

theorem other_ne (who : Caller) : who.other ≠ who := by
  cases who <;> decide

theorem other_other (who : Caller) : who.other.other = who := by
  cases who <;> rfl

theorem eq_or_other (first who : Caller) : who = first ∨ who = first.other := by
  cases first <;> cases who <;> decide

theorem finished_iff {r : Race} (first : Caller) :
    Finished r ↔ r.progress first = .applying [] ∧ r.progress first.other = .applying [] := by
  cases first with
  | one => exact Iff.rfl
  | two => exact and_comm

variable {q : Caller → Int} {r : Race}

theorem step_read {who : Caller} (h : r.progress who = .unread) :
    step s q r who = ⟨r.rows, Function.update r.progress who
      (.applying (allocations (read s r.rows) (q who)))⟩ := by
  rw [step, h]

/-- A call that has read makes the first update it still has to make, if there is one. -/
theorem step_applying {who : Caller} {c : UUID → Int} {todo : List (UUID × Int)}
    (hc : ∀ id, 0 ≤ c id) (hplan : Planned s rows todo) (hrows : r.rows = bumped c rows)
    (htodo : r.progress who = .applying todo) :
    (step s q r who).rows = bumped (fun id => c id + credits (todo.take 1) id) rows ∧
      (step s q r who).progress who = .applying todo.tail ∧
      (step s q r who).progress who.other = r.progress who.other := by
  cases todo with
  | nil =>
    have hstep : step s q r who = r := by rw [step, htodo]
    rw [hstep, hrows]
    refine ⟨?_, htodo, rfl⟩
    congr 1
    funext id
    show c id = c id + 0
    omega
  | cons a todo =>
    have hstep : step s q r who
        = ⟨creditRow s.organizationId r.rows a, Function.update r.progress who (.applying todo)⟩ := by
      rw [step, htodo]
    obtain ⟨hpos, horg⟩ := hplan a List.mem_cons_self
    rw [hstep]
    refine ⟨?_, Function.update_self .., Function.update_of_ne (other_ne who) ..⟩
    show creditRow s.organizationId r.rows a = _
    rw [hrows, creditRow_bumped hc hpos horg]
    congr 1
    funext id
    rw [List.take_succ_cons, List.take_zero, credits_cons]
    show _ = c id + (_ + 0)
    omega

/-- **BOTH HAVE READ**: whatever the order of the remaining updates, each row ends with
everything that was planned for it. -/
theorem rows_of_planned (first : Caller) (schedule : List Caller) :
    ∀ (r : Race) (c : UUID → Int) (t t' : List (UUID × Int)), (∀ id, 0 ≤ c id) →
      Planned s rows t → Planned s rows t' → r.rows = bumped c rows →
      r.progress first = .applying t → r.progress first.other = .applying t' →
      Finished (run s q r schedule) →
      (run s q r schedule).rows = bumped (fun id => c id + (credits t id + credits t' id)) rows := by
  induction schedule with
  | nil =>
    intro r c t t' _ _ _ hrows ht ht' hfin
    obtain ⟨hdone, hdone'⟩ := (finished_iff first).1 hfin
    rw [show run s q r [] = r from rfl] at hdone hdone' ⊢
    rw [ht] at hdone
    rw [ht'] at hdone'
    cases hdone
    cases hdone'
    rw [hrows]
    congr 1
    funext id
    show c id = c id + (0 + 0)
    omega
  | cons who schedule ih =>
    intro r c t t' hc hplan hplan' hrows ht ht' hfin
    have hrun : run s q r (who :: schedule) = run s q (step s q r who) schedule := rfl
    rw [hrun] at hfin ⊢
    rcases eq_or_other first who with rfl | rfl
    · obtain ⟨hstep, htail, hother⟩ := step_applying (q := q) hc hplan hrows ht
      rw [ih _ _ _ _ (nonneg_take hc hplan) hplan.tail hplan' hstep htail (hother.trans ht') hfin]
      congr 1
      funext id
      have hsplit := credits_take_drop t 1 id
      rw [List.drop_one] at hsplit
      omega
    · obtain ⟨hstep, htail, hother⟩ := step_applying (q := q) hc hplan' hrows ht'
      rw [other_other] at hother
      rw [ih _ _ _ _ (nonneg_take hc hplan') hplan hplan'.tail hstep (hother.trans ht) htail hfin]
      congr 1
      funext id
      have hsplit := credits_take_drop t' 1 id
      rw [List.drop_one] at hsplit
      omega

/-- **ONE HAS READ**: the other call reads after the `lag` steps that the first one takes
before it, and plans from what these have written. -/
theorem rows_of_first (first : Caller) (schedule : List Caller) :
    ∀ (r : Race) (c : UUID → Int) (t : List (UUID × Int)), (∀ id, 0 ≤ c id) →
      Planned s rows t → r.rows = bumped c rows →
      r.progress first = .applying t → r.progress first.other = .unread →
      Finished (run s q r schedule) →
      let lag := (schedule.takeWhile fun who => who = first).length
      let seen := bumped (fun id => c id + credits (t.take lag) id) rows
      (run s q r schedule).rows = bumped (fun id => c id + (credits t id
        + credits (allocations (read s seen) (q first.other)) id)) rows := by
  induction schedule with
  | nil =>
    intro r c t _ _ _ _ hunread hfin
    obtain ⟨_, hdone⟩ := (finished_iff first).1 hfin
    rw [show run s q r [] = r from rfl, hunread] at hdone
    cases hdone
  | cons who schedule ih =>
    intro r c t hc hplan hrows ht hunread hfin
    have hrun : run s q r (who :: schedule) = run s q (step s q r who) schedule := rfl
    rw [hrun] at hfin ⊢
    rcases eq_or_other first who with rfl | rfl
    · obtain ⟨hstep, htail, hother⟩ := step_applying (q := q) hc hplan hrows ht
      have hlag : ((who :: schedule).takeWhile fun x => x = who).length
          = (schedule.takeWhile fun x => x = who).length + 1 := by
        rw [List.takeWhile_cons_of_pos (by simp), List.length_cons]
      have hrest := ih _ _ _ (nonneg_take hc hplan) hplan.tail hstep htail
        (hother.trans hunread) hfin
      have hseen : ∀ n, (fun id => c id + credits (t.take 1) id + credits (t.tail.take n) id)
          = fun id => c id + credits (t.take (n + 1)) id := by
        intro n
        funext id
        have hsplit := credits_take_drop (t.take (n + 1)) 1 id
        rw [List.take_take, List.drop_take, List.drop_one, Nat.add_sub_cancel,
          Nat.min_eq_left (Nat.le_add_left 1 n)] at hsplit
        omega
      simp only [hlag] at hrest ⊢
      rw [hrest, hseen]
      congr 1
      funext id
      have hsplit := credits_take_drop t 1 id
      rw [List.drop_one] at hsplit
      omega
    -- the second call reads now: from here on both apply what they have planned
    · have hlag : ((first.other :: schedule).takeWhile fun x => x = first).length = 0 := by
        rw [List.takeWhile_cons_of_neg (by simp [other_ne first])]
        rfl
      have hstep := step_read (s := s) (q := q) hunread
      have hsame : (fun id => c id + credits (t.take 0) id) = c := by
        funext id
        show c id + 0 = c id
        omega
      simp only [hlag, hsame]
      rw [hstep, hrows] at hfin ⊢
      refine rows_of_planned first schedule _ c t _ hc hplan planned_allocations rfl ?_
        (Function.update_self ..) hfin
      show Function.update r.progress first.other _ first = _
      rw [Function.update_of_ne (fun h => other_ne first h.symm), ht]

/-! ## What a run adds up to -/

theorem allocations_of_nonpos {a : Int} (h : a ≤ 0) (l : List PartRequirement) :
    allocations l a = [] := by
  cases l with
  | nil => rfl
  | cons r l => rw [allocations, if_pos h]

theorem allocations_of_not_open {r : PartRequirement} (h : isOpen r = false)
    (l : List PartRequirement) (a : Int) : allocations (r :: l) a = allocations l a := by
  by_cases ha : a ≤ 0
  · rw [allocations_of_nonpos ha, allocations_of_nonpos ha]
  · rw [allocations, if_neg ha]
    by_cases hset : isSettled r.status
    · rw [if_pos hset]
    · have hout : outstanding r ≤ 0 := by
        simp [isOpen, hset] at h
        exact h
      rw [if_neg hset, if_pos hout]

theorem allocations_of_open {r : PartRequirement} (h : isOpen r = true) (l : List PartRequirement)
    {a : Int} (ha : 0 < a) : allocations (r :: l) a
      = (r.id, min (outstanding r) a) :: allocations l (a - min (outstanding r) a) := by
  simp only [isOpen, Bool.and_eq_true, decide_eq_true_eq] at h
  obtain ⟨hset, hout⟩ := h
  rw [allocations, if_neg (by omega), if_neg (by simpa using hset), if_neg (by omega)]

/-- An open row comes first in the plan, if anything is left for it. -/
theorem credits_take_allocations {r : PartRequirement} (h : isOpen r = true)
    (l : List PartRequirement) {a : Int} (ha : 0 ≤ a) (n : Nat) (id : UUID) :
    credits ((allocations (r :: l) a).take n) id
      = (if r.id = id then if n = 0 then 0 else min (outstanding r) a else 0)
        + credits ((allocations l (a - min (outstanding r) a)).take (n - 1)) id := by
  have hout : 0 < outstanding r := by
    simp only [isOpen, Bool.and_eq_true, decide_eq_true_eq] at h
    exact h.2
  by_cases hzero : a = 0
  · have hmin : min (outstanding r) a = 0 := by omega
    rw [hmin, allocations_of_nonpos (by omega), allocations_of_nonpos (by omega)]
    simp [credits]
  · rw [allocations_of_open h l (by omega)]
    cases n with
    | zero => simp [credits]
    | succ n =>
      rw [List.take_succ_cons, credits_cons]
      simp

theorem credits_allocations {r : PartRequirement} (h : isSettled r.status = false)
    (hout : 0 ≤ outstanding r) (l : List PartRequirement) {a : Int} (ha : 0 ≤ a) (id : UUID) :
    credits (allocations (r :: l) a) id
      = (if r.id = id then min (outstanding r) a else 0)
        + credits (allocations l (a - min (outstanding r) a)) id := by
  by_cases hfull : outstanding r = 0
  · have hmin : min (outstanding r) a = 0 := by omega
    rw [allocations_of_not_open (by simp [isOpen, hfull]), hmin, sub_zero, ite_self, zero_add]
  · have hopen : isOpen r = true := by
      simp [isOpen, h]
      omega
    have htake := credits_take_allocations hopen l ha ((allocations (r :: l) a).length
      + (allocations l (a - min (outstanding r) a)).length + 1) id
    rw [List.take_of_length_le (by omega), List.take_of_length_le (by omega)] at htake
    rw [htake]
    simp

theorem credits_allocations_of_not_mem {l : List PartRequirement} {id : UUID}
    (h : id ∉ l.map PartRequirement.id) {a : Int} {as : List (UUID × Int)}
    (hsub : as ⊆ allocations l a) : credits as id = 0 := by
  refine credits_of_not_mem ?_
  intro x hx hid
  obtain ⟨_, r, hr, hrid⟩ := mem_allocations x (hsub hx)
  exact h (List.mem_map.2 ⟨r, hr, hrid.trans hid⟩)

theorem bump_congr {c c' : UUID → Int} {r : PartRequirement} (h : c r.id = c' r.id) :
    bump c r = bump c' r := by
  rw [bump, bump, h]

theorem isSettled_bump (c : UUID → Int) (r : PartRequirement) :
    isSettled (bump c r).status = isSettled r.status := by
  rw [bump]
  split
  · rfl
  · rfl

theorem outstanding_bump {c : UUID → Int} {r : PartRequirement} (hout : 0 ≤ outstanding r) :
    outstanding (bump c r) = outstanding r - min (outstanding r) (c r.id) := by
  rw [bump]
  split
  · next h =>
    rw [h]
    omega
  · simp only [outstanding, credited] at hout ⊢
    omega

theorem outstanding_seen {r : PartRequirement} {l : List PartRequirement} {a : Int}
    (hopen : isOpen r = true) (hnew : r.id ∉ l.map PartRequirement.id) (ha : 0 ≤ a) (lag : Nat) :
    outstanding (bump (credits ((allocations (r :: l) a).take lag)) r)
      = if lag = 0 then outstanding r else outstanding r - min (outstanding r) a := by
  have hout : 0 < outstanding r := by
    simp only [isOpen, Bool.and_eq_true, decide_eq_true_eq] at hopen
    exact hopen.2
  rw [outstanding_bump (le_of_lt hout), credits_take_allocations hopen l ha, if_pos rfl,
    credits_allocations_of_not_mem hnew (List.take_subset _ _), add_zero]
  split
  · omega
  · omega

theorem map_bump_seen {r : PartRequirement} {l : List PartRequirement} {a : Int}
    (hopen : isOpen r = true) (hne : ∀ z ∈ l, r.id ≠ z.id) (ha : 0 ≤ a) (lag : Nat) :
    l.map (bump (credits ((allocations (r :: l) a).take lag)))
      = l.map (bump (credits ((allocations l (a - min (outstanding r) a)).take (lag - 1)))) := by
  refine List.map_congr_left ?_
  intro z hz
  refine bump_congr ?_
  rw [credits_take_allocations hopen l ha, if_neg (hne z hz), zero_add]

/-- **THE SUM OF BOTH PLANS**, row by row under the cap: two parties that fill the outstanding
quantities in order. -/
theorem sum_eq_raced (l : List PartRequirement) :
    ∀ (a b : Int) (lag : Nat), (l.map PartRequirement.id).Nodup → 0 ≤ a → 0 ≤ b →
      let seen := credits ((allocations l a).take lag)
      ((l.filter isOpen).map fun r => min (outstanding r) (credits (allocations l a) r.id
          + credits (allocations (l.map (bump seen)) b) r.id)).sum
        = raced ((l.filter isOpen).map outstanding) a b lag := by
  induction l with
  | nil =>
    intro a b lag _ _ _
    rfl
  | cons r l ih =>
    intro a b lag hnodup ha hb
    rw [List.map_cons, List.nodup_cons] at hnodup
    obtain ⟨hnew, hnodup⟩ := hnodup
    have hne : ∀ z ∈ l, r.id ≠ z.id := fun z hz h => hnew (List.mem_map.2 ⟨z, hz, h.symm⟩)
    by_cases hopen : isOpen r = true
    · have hopen' := hopen
      simp only [isOpen, Bool.and_eq_true, decide_eq_true_eq, Bool.not_eq_true'] at hopen'
      obtain ⟨hset, hout⟩ := hopen'
      have hx : 0 ≤ a - min (outstanding r) a := by omega
      have hrest := ih (a - min (outstanding r) a)
        (b - min (if lag = 0 then outstanding r else outstanding r - min (outstanding r) a) b)
        (lag - 1) hnodup hx (by omega)
      intro seen
      -- the second call sees this row as it is after the first call's update, if it was made
      have hcap := outstanding_seen hopen hnew ha lag
      have hmap := map_bump_seen hopen hne ha lag
      have hcap_nonneg : 0 ≤ outstanding (bump seen r) := by
        rw [hcap]
        split
        · omega
        · omega
      have hfirst := credits_allocations hset (le_of_lt hout) l ha
      have hsecond := credits_allocations ((isSettled_bump seen r).trans hset) hcap_nonneg
        (l.map (bump seen)) hb
      have hnew' : r.id ∉ (l.map (bump seen)).map PartRequirement.id := by
        rw [List.map_map]
        refine fun hmem => hnew ?_
        rwa [show PartRequirement.id ∘ bump seen = PartRequirement.id from
          funext (bump_id seen)] at hmem
      rw [List.filter_cons_of_pos hopen, List.map_cons, List.map_cons, List.map_cons,
        List.sum_cons, raced]
      refine congrArg₂ (· + ·) ?_ ?_
      · rw [hfirst, hsecond, bump_id, if_pos rfl, if_pos rfl, hcap,
          credits_allocations_of_not_mem hnew (List.Subset.refl _),
          credits_allocations_of_not_mem hnew' (List.Subset.refl _), add_zero, add_zero]
      · refine Eq.trans (congrArg List.sum (List.map_congr_left ?_)) hrest
        intro z hz
        have hz' := hne z (List.mem_of_mem_filter hz)
        rw [hfirst, hsecond, bump_id, if_neg hz', if_neg hz', zero_add, zero_add, hmap, hcap]
    · have hclosed : isOpen r = false := by simpa using hopen
      intro seen
      have hseen : seen r.id = 0 := by
        simp only [seen]
        rw [allocations_of_not_open hclosed]
        exact credits_allocations_of_not_mem hnew (List.take_subset _ _)
      have hsame : bump seen r = r := by rw [bump, if_pos hseen]
      rw [List.filter_cons_of_neg (by simp [hclosed]), List.map_cons, hsame,
        allocations_of_not_open hclosed, allocations_of_not_open hclosed]
      have hrest := ih a b lag hnodup ha hb
      simp only [seen]
      rw [allocations_of_not_open hclosed]
      exact hrest

theorem increase_bumped (c : UUID → Int) : increase s rows (bumped c rows)
    = ((openRows s rows).map fun r => min (outstanding r) (c r.id)).sum := by
  refine congrArg List.sum (List.map_congr_left ?_)
  intro r hr
  obtain ⟨hread, hopen⟩ := List.mem_filter.1 hr
  simp only [isOpen, Bool.and_eq_true, decide_eq_true_eq] at hopen
  have hfind : (bumped c rows).find? r.id = some (bump c r) := by
    refine Table.find?_eq_some.2 ⟨?_, bump_id c r⟩
    rw [bumped_rows]
    exact List.mem_map_of_mem (mem_read hread).1
  have hout : 0 < r.requiredQuantity - r.fulfilledQuantity := hopen.2
  rw [fulfilledOf, hfind]
  show (bump c r).fulfilledQuantity - r.fulfilledQuantity = _
  rw [bump]
  split
  · next h =>
    rw [h, outstanding]
    omega
  · simp only [credited, outstanding]
    omega

/-- A finished run fills the open requirements as two parties do, the one that reads second
after `lag` updates of the other. -/
theorem increase_eq_raced (hq : ∀ who, 0 < q who) (first : Caller) (schedule : List Caller)
    (hfin : Finished (run s q (start rows) (first :: schedule))) :
    increase s rows (run s q (start rows) (first :: schedule)).rows
      = raced ((openRows s rows).map outstanding) (q first) (q first.other)
          (schedule.takeWhile fun who => who = first).length := by
  have hrun : run s q (start rows) (first :: schedule)
      = run s q (step s q (start rows) first) schedule := rfl
  have hstep : step s q (start rows) first = ⟨rows, Function.update (start rows).progress first
      (.applying (allocations (read s rows) (q first)))⟩ := rfl
  have hplan : Planned s rows (allocations (read s rows) (q first)) := by
    have hplan : Planned s rows (allocations (read s (bumped (fun _ => 0) rows)) (q first)) :=
      planned_allocations
    rwa [bumped_zero] at hplan
  rw [hrun, hstep] at hfin ⊢
  rw [rows_of_first first schedule _ (fun _ => 0) _ (fun _ => le_refl 0) hplan
    (bumped_zero rows).symm (Function.update_self ..)
    (Function.update_of_ne (other_ne first) ..) hfin, increase_bumped]
  have hsum := sum_eq_raced (read s rows) (q first) (q first.other)
    (schedule.takeWhile fun who => who = first).length read_nodup (le_of_lt (hq _))
    (le_of_lt (hq _))
  simp only [zero_add, read_bumped]
  exact hsum

/-- **NO RECEIPT IS LOST** between the requirements exactly under `Lossless`: what the second
call has not seen of the first one's plan costs nothing. -/
theorem increase_eq_min_iff (s : Scope) (rows : Table PartRequirement) (q : Caller → Int)
    (hq : ∀ who, 0 < q who) (first : Caller) (schedule : List Caller)
    (hfin : Finished (run s q (start rows) (first :: schedule))) :
    increase s rows (run s q (start rows) (first :: schedule)).rows
        = min (q .one + q .two) ((openRows s rows).map outstanding).sum ↔
      Lossless ((openRows s rows).map outstanding) (q first) (q first.other)
        (schedule.takeWhile fun who => who = first).length := by
  have hpos : ∀ c ∈ (openRows s rows).map outstanding, 0 < c := by
    intro c hc
    obtain ⟨r, hr, rfl⟩ := List.mem_map.1 hc
    have hopen := (List.mem_filter.1 hr).2
    simp only [isOpen, Bool.and_eq_true, decide_eq_true_eq] at hopen
    exact hopen.2
  have hcomm : q .one + q .two = q first + q first.other := by
    cases first with
    | one => rfl
    | two => exact add_comm _ _
  rw [increase_eq_raced hq first schedule hfin, hcomm]
  exact Allocation.raced_eq_min_iff hpos _ (hq _) (hq _)

/-! ## Two requirements of one piece each -/

def pieceFor (id : UUID) : PartRequirement :=
  { id := id, organizationId := 1, partId := 1, workOrderId := 1 }

def pieces : Table PartRequirement := ⟨[pieceFor 1, pieceFor 2], by decide⟩

/-- Two receipts of one piece each for the two requirements. -/
def piecesScope : Scope := { organizationId := 1, partId := 1, workOrderId := 1 }

/-- The second call reads after the update of the first one: both requirements are filled. -/
theorem increase_of_pieces_in_turn :
    increase piecesScope pieces
        (run piecesScope (fun _ => 1) (start pieces) [.one, .one, .two, .two]).rows
      = min (1 + 1) ((openRows piecesScope pieces).map outstanding).sum ↔
      Lossless ((openRows piecesScope pieces).map outstanding) 1 1 1 :=
  increase_eq_min_iff piecesScope pieces (fun _ => 1) (fun _ => Int.one_pos) .one
    [.one, .two, .two] (by decide)

/-- **A RECEIPT IS LOST**: both calls read before either writes, both plan the first
requirement, and the second one stays open. -/
theorem piece_lost :
    Finished (run piecesScope (fun _ => 1) (start pieces) [.one, .two, .one, .two]) ∧
    increase piecesScope pieces
        (run piecesScope (fun _ => 1) (start pieces) [.one, .two, .one, .two]).rows
      ≠ min (1 + 1) ((openRows piecesScope pieces).map outstanding).sum := by
  decide

end ReceiptRace
end AeroComply
