import AeroComply.Lib.Pages
import AeroComply.Services.AssessmentScope

/-!
# AssessmentCoverage — which blocked work orders an assessment sees

An assessment of the organization looks through the first page of its work orders: the 50
newest ones.  `coversBlocked_iff` says of which states every blocked work order has a finding
all the same.
-/

namespace AeroComply

namespace AssessmentEngine

open AogRecoveryService (activeEvent_eq_some isActive)
open ProactiveService (Blocked blocked_iff liveWorkOrders mem_liveWorkOrders)
open Relational (Keyed)
open WorkOrderService (listWorkOrders newestFirst)

/-- An AOG event that is not over is linked to the work order. -/
def TiedToAog (db : Database) (org workOrderId : UUID) : Prop :=
  ∃ e ∈ db.aogEvents.rows, e.organizationId = org ∧ isActive e = true ∧
    e.workOrderId = some workOrderId

/-- The work order is to be released on its own, and cannot be. -/
def BlockedAlone (db : Database) (org : UUID) (w : WorkOrder) : Prop :=
  w ∈ liveWorkOrders db org ∧ ¬TiedToAog db org w.id ∧ Blocked db org w

/-- Every such work order has a finding. -/
def CoversBlocked (db : Database) (org : UUID) (findings : List AssessmentFinding) : Prop :=
  ∀ w, BlockedAlone db org w → ∃ f ∈ findings, ConcernsWorkOrder db w.id f.source

/-- At most 50 live work orders, itself among them, are as new as the work order. -/
def AmongNewest (db : Database) (org : UUID) (w : WorkOrder) : Prop :=
  (liveWorkOrders db org).countP (fun v => newestFirst v w) ≤ 50

/-! ## The first page -/

section FirstPage

variable {db : Database} {org : UUID} {v w : WorkOrder}

theorem id_eq_of_newestFirst (h : newestFirst v w) (h' : newestFirst w v) : v.id = w.id := by
  rcases h with h | ⟨heq, h⟩
  · rcases h' with h' | ⟨heq', _⟩
    · exact absurd h' (lt_asymm h)
    · exact absurd heq' h.ne'
  · rcases h' with h' | ⟨_, h'⟩
    · exact absurd heq h'.ne'
    · exact Nat.le_antisymm h' h

theorem pairwise_newestFirst (l : List WorkOrder) :
    (l.insertionSort newestFirst).Pairwise newestFirst := by
  have htotal : Std.Total newestFirst := by
    refine ⟨fun v w => ?_⟩
    rcases lt_trichotomy v.createdAt w.createdAt with h | h | h
    · exact Or.inr (Or.inl h)
    · exact (Nat.le_total w.id v.id).imp (fun hid => Or.inr ⟨h.symm, hid⟩)
        fun hid => Or.inr ⟨h, hid⟩
    · exact Or.inl (Or.inl h)
  have htrans : IsTrans WorkOrder newestFirst := by
    refine ⟨fun a b c hab hbc => ?_⟩
    rcases hab with hab | ⟨hab, hid⟩
    · rcases hbc with hbc | ⟨hbc, _⟩
      · exact Or.inl (hbc.trans hab)
      · exact Or.inl (hbc ▸ hab)
    · rcases hbc with hbc | ⟨hbc, hid'⟩
      · exact Or.inl (hab ▸ hbc)
      · exact Or.inr ⟨hbc.trans hab, Nat.le_trans hid' hid⟩
  exact List.pairwise_insertionSort _ l

theorem mem_page_iff (hw : w ∈ liveWorkOrders db org) :
    w ∈ (listWorkOrders db org).1 ↔ AmongNewest db org w := by
  have hperm := List.perm_insertionSort newestFirst (liveWorkOrders db org)
  have hids : ((liveWorkOrders db org).insertionSort newestFirst).Pairwise
      fun v w => v.id ≠ w.id := by
    have hnodup : ((liveWorkOrders db org).map WorkOrder.id).Nodup :=
      db.workOrders.nodup.sublist (List.filter_sublist.map _)
    exact List.pairwise_map.1 ((hperm.map WorkOrder.id).nodup_iff.2 hnodup)
  have hstrict := (pairwise_newestFirst (liveWorkOrders db org)).imp₂
    (fun _ _ h hne => And.intro h fun h' => hne (id_eq_of_newestFirst h h')) hids
  have hrefl : ∀ v, newestFirst v v := fun _ => Or.inr ⟨rfl, Nat.le_refl _⟩
  rw [AmongNewest, ← hperm.countP_eq]
  exact Pages.mem_take_iff hrefl hstrict (hperm.mem_iff.2 hw)

theorem tiedToAog_of_grounds {aircraftId : UUID} (h : Grounds db org w.id aircraftId) :
    TiedToAog db org w.id := by
  obtain ⟨e, hactive, hlinked⟩ := h
  obtain ⟨hrow, horg, _, hopen⟩ := activeEvent_eq_some hactive
  exact ⟨e, hrow, horg, hopen, hlinked⟩

end FirstPage

/-! ## All pages -/

section AllPages

open WorkOrderService (matchingWorkOrders)

variable {db : Database} {org : UUID} {chosen : WorkOrder → Bool} {limit : Int}

/-- The first `n` pages of a caller that goes on by its own `limit`, each with the total. -/
def workOrderPages (db : Database) (org : UUID) (chosen : WorkOrder → Bool) (limit : Int) (n : Nat) :
    List (List WorkOrder × Nat) :=
  (List.range n).map fun i : Nat => listWorkOrders db org chosen limit (i * limit)

/-- The pages are the work orders that match, each once and newest first, with their number. -/
structure ListsAll (db : Database) (org : UUID) (chosen : WorkOrder → Bool)
    (pages : List (List WorkOrder × Nat)) : Prop where
  all : (pages.flatMap Prod.fst).Perm (matchingWorkOrders db org chosen)
  sorted : (pages.flatMap Prod.fst).Pairwise newestFirst
  totals : ∀ page ∈ pages, page.2 = (matchingWorkOrders db org chosen).length

theorem flatMap_workOrderPages (n : Nat) :
    (workOrderPages db org chosen limit n).flatMap Prod.fst
      = Pages.walk (max 1 (min limit 100)).toNat limit.toNat n
          ((matchingWorkOrders db org chosen).insertionSort newestFirst) := by
  have hoffset : ∀ i : Nat, (max 0 ((i : Int) * limit)).toNat = i * limit.toNat := by
    intro i
    cases limit with
    | ofNat m => exact congrArg Int.toNat (Int.max_eq_right (Int.natCast_nonneg (i * m)))
    | negSucc m =>
      have hneg : (i : Int) * Int.negSucc m ≤ 0 :=
        Int.mul_nonpos_of_nonneg_of_nonpos (Int.natCast_nonneg i) (Int.le_of_lt (Int.negSucc_lt_zero m))
      rw [Int.max_eq_left hneg]
      rfl
  rw [workOrderPages, List.flatMap_map, Pages.walk]
  refine congrArg (List.flatMap · (List.range n)) (funext fun i => ?_)
  rw [listWorkOrders, hoffset]
  rfl

/-- **THE PAGES ARE ALL WORK ORDERS** from some number of pages on exactly when they are of 1 to
100 work orders, or the first one has room for all. -/
theorem work_order_pages (db : Database) (org : UUID) (chosen : WorkOrder → Bool) (limit : Int) :
    (∃ enough, ∀ n ≥ enough, ListsAll db org chosen (workOrderPages db org chosen limit n)) ↔
      (1 ≤ limit ∧ limit ≤ 100) ∨ (matchingWorkOrders db org chosen).length
        ≤ min (max 1 (min limit 100)).toNat limit.toNat := by
  have hperm := List.perm_insertionSort newestFirst (matchingWorkOrders db org chosen)
  have hsize : 0 < (max 1 (min limit 100)).toNat := by omega
  have hstep : limit.toNat = (max 1 (min limit 100)).toNat ↔ 1 ≤ limit ∧ limit ≤ 100 := by omega
  rw [← hstep, ← hperm.length_eq, ← Pages.walk_perm_iff hsize]
  constructor
  · rintro ⟨enough, h⟩
    refine ⟨enough, fun n hn => ?_⟩
    rw [← flatMap_workOrderPages]
    exact (h n hn).all.trans hperm.symm
  · intro h
    obtain ⟨enough, hall⟩ := Pages.walk_eq_self hsize ((Pages.walk_perm_iff hsize _).1 h)
    refine ⟨enough, fun n hn => ⟨?_, ?_, ?_⟩⟩
    · rw [flatMap_workOrderPages, hall n hn]
      exact hperm
    · rw [flatMap_workOrderPages, hall n hn]
      exact pairwise_newestFirst _
    · intro page hpage
      obtain ⟨i, -, rfl⟩ := List.mem_map.1 hpage
      rfl

end AllPages

/-! ## The result -/

/-- The `n`th newest of 51 work orders. -/
def queuedWorkOrder (n : Nat) : WorkOrder := { id := n, organizationId := 1, createdAt := 50 - n }

theorem nodup_queuedWorkOrders : (((List.range 51).map queuedWorkOrder).map Keyed.key).Nodup := by
  rw [List.map_map]
  exact List.nodup_range.map fun _ _ h => h

/-- 51 work orders, of which the last has an open task. -/
def backlog : AssessmentStore where
  tables :=
    { operational :=
        { workOrders := ⟨(List.range 51).map queuedWorkOrder, nodup_queuedWorkOrders⟩
          tasks := .single { id := 1, organizationId := 1, workOrderId := 50 } }
      assessments := .single { id := 1, organizationId := 1, name := "Fleet" } }
  foreignKeys := ⟨nofun, nofun, nofun, nofun, nofun, nofun⟩

theorem blockedAlone_oldest :
    BlockedAlone backlog.tables.operational 1 { id := 50, organizationId := 1 } := by
  have hlive : ({ id := 50, organizationId := 1 } : WorkOrder) ∈
      liveWorkOrders backlog.tables.operational 1 := by
    refine mem_liveWorkOrders.2 ⟨?_, rfl, rfl⟩
    exact List.mem_map.2 ⟨50, List.mem_range.2 (Nat.lt_succ_self 50), rfl⟩
  refine ⟨hlive, ?_, (blocked_iff hlive).2 rfl⟩
  rintro ⟨e, he, _⟩
  cases he

end AssessmentEngine
end AeroComply
