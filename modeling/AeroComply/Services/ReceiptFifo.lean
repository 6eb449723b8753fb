import AeroComply.Services.ReceiptRace

/-!
# ReceiptFifo — one receipt, with no other in between

What a call of `fulfill_from_receipt` that no other call interleaves with leaves of the requirements
it is matched against: what was received goes to the open ones, oldest first.
-/

namespace AeroComply

open Relational (Table)

namespace ReceiptFifo

open Allocation (alone)
open PartRequirementService
open PartService (getPart)
open ReceiptRace

/-- The requirements that a receipt is matched against, oldest first; none if it is for no work
order. -/
def matchingRequirements (db : Database) (org partId : UUID) :
    Option UUID → Option UUID → List PartRequirement
  | none, _ => []
  | some workOrderId, taskId => matching db org partId workOrderId taskId

/-- Neither FULFILLED nor CANCELLED. -/
def unsettled (r : PartRequirement) : Bool := !isSettled r.status

/-- What a requirement has gained when the database is `db'`. -/
def gained (db' : Database) (r : PartRequirement) : Int :=
  fulfilledOf db'.partRequirements r.id - r.fulfilledQuantity

/-- **FIRST IN, FIRST OUT**: what a receipt of `q` for the requirements `rows` of `db` leaves. -/
structure Fifo (rows : List PartRequirement) (q : Int) (db db' : Database) : Prop where
  /-- All of it is used, or the unsettled requirements are covered. -/
  total : ((rows.filter unsettled).map (gained db')).sum
    = min q ((rows.filter unsettled).map outstanding).sum
  capped : ∀ r ∈ rows, 0 ≤ gained db' r ∧
    fulfilledOf db'.partRequirements r.id ≤ r.requiredQuantity
  unchanged : ∀ r ∈ db.partRequirements.rows, (r ∈ rows → unsettled r = false) →
    r ∈ db'.partRequirements.rows
  /-- A later requirement gains something only if each unsettled one before it ends covered. -/
  inOrder : rows.Pairwise fun r later => unsettled r = true → 0 < gained db' later →
    fulfilledOf db'.partRequirements r.id = r.requiredQuantity
  /-- Nothing but the fulfilled quantities and the statuses is written. -/
  frame : ∃ write : PartRequirement → PartRequirement,
    (∀ r, write r =
      { r with fulfilledQuantity := (write r).fulfilledQuantity, status := (write r).status }) ∧
    db'.partRequirements.rows = db.partRequirements.rows.map write ∧
    db' = { db with partRequirements := db'.partRequirements }

/-! ## What the loop plans -/

/-- What a requirement can take. -/
def openAmount (r : PartRequirement) : Int :=
  if unsettled r then outstanding r else 0

theorem openAmount_nonneg {l : List PartRequirement}
    (hl : ∀ r ∈ l, r.fulfilledQuantity ≤ r.requiredQuantity) : ∀ r ∈ l, 0 ≤ openAmount r := by
  intro r hr
  have hout := hl r hr
  rw [openAmount]
  split
  · rw [outstanding]
    omega
  · exact le_refl 0

/-- The plan gives each requirement what one party alone fills. -/
theorem map_credits_allocations {l : List PartRequirement} :
    ∀ {q : Int}, (l.map PartRequirement.id).Nodup →
      (∀ r ∈ l, r.fulfilledQuantity ≤ r.requiredQuantity) → 0 ≤ q →
      l.map (fun r => credits (allocations l q) r.id) = alone (l.map openAmount) q := by
  induction l with
  | nil => exact fun _ _ _ => rfl
  | cons r l ih =>
    intro q hnodup hl hq
    obtain ⟨hnew, hnodup⟩ := List.nodup_cons.1 hnodup
    have hout : 0 ≤ outstanding r := by
      have hr := hl r List.mem_cons_self
      rw [outstanding]
      omega
    have htail : ∀ x ∈ l, x.fulfilledQuantity ≤ x.requiredQuantity :=
      fun x hx => hl x (List.mem_cons_of_mem _ hx)
    have hne : ∀ x ∈ l, ¬r.id = x.id := fun x hx h => hnew (List.mem_map.2 ⟨x, hx, h.symm⟩)
    have hzero : ∀ a, credits (allocations l a) r.id = 0 := fun a =>
      credits_allocations_of_not_mem hnew (List.Subset.refl _)
    rw [List.map_cons, List.map_cons, alone]
    by_cases hsettled : isSettled r.status = true
    -- a settled requirement is passed over
    · have hclosed : isOpen r = false := by rw [isOpen, hsettled, Bool.not_true, Bool.false_and]
      have hnone : openAmount r = 0 := by
        rw [openAmount, unsettled, hsettled]
        rfl
      have hleft : q - min 0 q = q := by omega
      rw [allocations_of_not_open hclosed, hzero, hnone, hleft, ih hnodup htail hq]
      congr 1
      omega
    · have hunsettled : isSettled r.status = false := Bool.eq_false_iff.2 hsettled
      have hopen : openAmount r = outstanding r := by
        rw [openAmount, unsettled, hunsettled]
        rfl
      have hrest : l.map (fun x => credits (allocations (r :: l) q) x.id)
          = l.map (fun x => credits (allocations l (q - min (outstanding r) q)) x.id) := by
        refine List.map_congr_left fun x hx => ?_
        rw [credits_allocations hunsettled hout l hq, if_neg (hne x hx), zero_add]
      rw [hrest, hopen, credits_allocations hunsettled hout l hq, if_pos rfl, hzero, add_zero,
        ih hnodup htail (by omega)]

/-- A row is in the plan exactly when the plan adds something to it. -/
theorem contains_iff_credits {as : List (UUID × Int)} (h : ∀ a ∈ as, 0 < a.2) (id : UUID) :
    (as.map Prod.fst).contains id = true ↔ credits as id ≠ 0 := by
  rw [List.contains_iff_mem]
  constructor
  · intro hmem
    induction as with
    | nil => cases hmem
    | cons a as ih =>
      have ha := h a List.mem_cons_self
      have htail : ∀ x ∈ as, 0 < x.2 := fun x hx => h x (List.mem_cons_of_mem _ hx)
      have hrest := credits_nonneg htail id
      rw [credits_cons]
      rcases List.mem_cons.1 hmem with rfl | hmem
      · rw [if_pos rfl]
        omega
      · have hne := ih htail hmem
        split
        · omega
        · omega
  · intro hne
    by_contra hnot
    exact hne (credits_of_not_mem fun a ha hid => hnot (List.mem_map.2 ⟨a, ha, hid⟩))

/-! ## What the call writes -/

section Writes

variable {s : Scope} {rows : Table PartRequirement}

theorem foldl_creditRow (as : List (UUID × Int)) :
    ∀ {c : UUID → Int}, (∀ id, 0 ≤ c id) → Planned s rows as →
      as.foldl (creditRow s.organizationId) (bumped c rows)
        = bumped (fun id => c id + credits as id) rows := by
  induction as with
  | nil =>
    intro c _ _
    have hsame : (fun id => c id + credits [] id) = c := funext fun id => add_zero (c id)
    rw [hsame]
    rfl
  | cons a as ih =>
    intro c hc hplan
    obtain ⟨hpos, horg⟩ := hplan a List.mem_cons_self
    have hstep : ∀ id, 0 ≤ c id + if a.1 = id then a.2 else 0 := by
      intro id
      have hid := hc id
      split
      · omega
      · omega
    rw [List.foldl_cons, creditRow_bumped hc hpos horg,
      ih hstep fun x hx => hplan x (List.mem_cons_of_mem _ hx)]
    congr 1
    funext id
    rw [credits_cons, add_assoc]

/-- A row after the call: if it was planned, credited and with its status derived. -/
def receipted (c : UUID → Int) (available : Int) (r : PartRequirement) : PartRequirement :=
  if c r.id = 0 then r else derived available (credited (c r.id) r)

theorem receipted_eq (c : UUID → Int) (available : Int) (r : PartRequirement) :
    receipted c available r = { r with
      fulfilledQuantity := (receipted c available r).fulfilledQuantity
      status := (receipted c available r).status } := by
  rw [receipted]
  split
  · rfl
  · rfl

variable {r : PartRequirement} {c : UUID → Int} {q : Int}

theorem fulfilledQuantity_receipted (available : Int)
    (hle : r.fulfilledQuantity + c r.id ≤ r.requiredQuantity) :
    (receipted c available r).fulfilledQuantity = r.fulfilledQuantity + c r.id := by
  rw [receipted]
  split
  · next hzero => rw [hzero, add_zero]
  · exact min_eq_right hle

theorem rows_receipted {as : List (UUID × Int)} (hplan : Planned s rows as) (available : Int) :
    ((as.foldl (creditRow s.organizationId) rows).updateWhere
        (fun r => (as.map Prod.fst).contains r.id) (derived available) (fun _ => rfl)).rows
      = rows.rows.map (receipted (credits as) available) := by
  have hfold := foldl_creditRow as (fun _ => le_refl 0) hplan
  simp only [bumped_zero, zero_add] at hfold
  have hpos : ∀ a ∈ as, 0 < a.2 := fun a ha => (hplan a ha).1
  rw [hfold]
  show (bumped (credits as) rows).rows.map _ = _
  rw [bumped_rows, List.map_map]
  refine List.map_congr_left fun r _ => ?_
  rw [Function.comp_apply, receipted]
  simp only [bump_id]
  by_cases hzero : credits as r.id = 0
  · have hnot : ¬(as.map Prod.fst).contains r.id = true := fun h =>
      (contains_iff_credits hpos r.id).1 h hzero
    rw [if_neg hnot, if_pos hzero, bump, if_pos hzero]
  · rw [if_pos ((contains_iff_credits hpos r.id).2 hzero), if_neg hzero, bump, if_neg hzero]

theorem fulfilledOf_receipted {db db' : Database} {available : Int}
    (hrows : db'.partRequirements.rows = db.partRequirements.rows.map (receipted c available))
    (hr : r ∈ db.partRequirements.rows) (hle : r.fulfilledQuantity + c r.id ≤ r.requiredQuantity) :
    fulfilledOf db'.partRequirements r.id = r.fulfilledQuantity + c r.id := by
  have hfind : db'.partRequirements.find? r.id = some (receipted c available r) := by
    refine Table.find?_eq_some.2 ⟨?_, ?_⟩
    · rw [hrows]
      exact List.mem_map_of_mem hr
    · rw [receipted_eq]
      rfl
  rw [fulfilledOf, hfind]
  exact fulfilledQuantity_receipted available hle

/-- **THE PLAN IS FIFO**. -/
theorem fifo_receipted {db db' : Database} (available : Int) (hq : 0 ≤ q)
    (hl : ∀ r ∈ read s db.partRequirements,
      0 ≤ r.fulfilledQuantity ∧ r.fulfilledQuantity ≤ r.requiredQuantity)
    (hrows : db'.partRequirements.rows = db.partRequirements.rows.map
      (receipted (credits (allocations (read s db.partRequirements) q)) available))
    (hframe : db' = { db with partRequirements := db'.partRequirements }) :
    Fifo (read s db.partRequirements) q db db' := by
  have hwithin : ∀ r ∈ read s db.partRequirements, r.fulfilledQuantity ≤ r.requiredQuantity :=
    fun r hr => (hl r hr).2
  have hcap := openAmount_nonneg hwithin
  have hgiven := map_credits_allocations read_nodup hwithin hq
  generalize hc : credits (allocations (read s db.partRequirements) q) = c at hrows hgiven
  have hbounds := Allocation.given_bounds hcap hq hgiven
  have hopen : ∀ r, unsettled r = true → openAmount r = outstanding r := fun r h => if_pos h
  have hsettled : ∀ r, unsettled r = false → openAmount r = 0 := fun r h =>
    if_neg (Bool.eq_false_iff.1 h)
  have hle : ∀ r ∈ read s db.partRequirements, r.fulfilledQuantity + c r.id ≤ r.requiredQuantity := by
    intro r hr
    have hr' := hwithin r hr
    have hamount := (hbounds r hr).2
    cases hu : unsettled r with
    | true =>
      rw [hopen r hu, outstanding] at hamount
      omega
    | false =>
      rw [hsettled r hu] at hamount
      omega
  have hafter : ∀ r ∈ read s db.partRequirements,
      fulfilledOf db'.partRequirements r.id = r.fulfilledQuantity + c r.id := fun r hr =>
    fulfilledOf_receipted hrows (mem_read hr).1 (hle r hr)
  have hgained : ∀ r ∈ read s db.partRequirements, gained db' r = c r.id := by
    intro r hr
    rw [gained, hafter r hr]
    omega
  refine ⟨?_, fun r hr => ?_, fun r hr hnot => ?_, ?_, _, receipted_eq _ available, hrows, hframe⟩
  · have hzero : ∀ r ∈ read s db.partRequirements, unsettled r = false → c r.id = 0 := by
      intro r hr hu
      have hamount := hbounds r hr
      rw [hsettled r hu] at hamount
      omega
    have hleft : ((read s db.partRequirements).filter unsettled).map (gained db')
        = ((read s db.partRequirements).filter unsettled).map fun r => c r.id :=
      List.map_congr_left fun r hr => hgained r (List.mem_of_mem_filter hr)
    have hright : ((read s db.partRequirements).filter unsettled).map outstanding
        = ((read s db.partRequirements).filter unsettled).map openAmount :=
      List.map_congr_left fun r hr => (hopen r (List.of_mem_filter hr)).symm
    rw [hleft, hright, Allocation.sum_map_filter hzero,
      Allocation.sum_map_filter fun r _ hu => hsettled r hu, hgiven]
    refine Allocation.sum_alone (fun a ha => ?_) hq
    obtain ⟨r, hr, rfl⟩ := List.mem_map.1 ha
    exact hcap r hr
  · rw [hgained r hr, hafter r hr]
    exact ⟨(hbounds r hr).1, hle r hr⟩
  · have hzero : c r.id = 0 := by
      by_cases hread : r ∈ read s db.partRequirements
      · have hamount := hbounds r hread
        rw [hsettled r (hnot hread)] at hamount
        omega
      · rw [← hc]
        refine credits_allocations_of_not_mem (fun hmem => hread ?_) (List.Subset.refl _)
        obtain ⟨r', hr', hid⟩ := List.mem_map.1 hmem
        rw [Table.eq_of_key_eq hr (mem_read hr').1 hid.symm]
        exact hr'
    rw [hrows]
    exact List.mem_map.2 ⟨r, hr, if_pos hzero⟩
  · refine (Allocation.pairwise_given hcap hq hgiven).imp_of_mem ?_
    intro r later hr hlater horder hu hpos
    rw [hgained later hlater] at hpos
    rw [hafter r hr, horder hpos, hopen r hu, outstanding]
    omega

theorem fifo_unwritten {db : Database} (hq : 0 ≤ q)
    (hl : ∀ r ∈ read s db.partRequirements,
      0 ≤ r.fulfilledQuantity ∧ r.fulfilledQuantity ≤ r.requiredQuantity)
    (hnone : allocations (read s db.partRequirements) q = []) :
    Fifo (read s db.partRequirements) q db db := by
  refine fifo_receipted 0 hq hl ?_ rfl
  rw [hnone]
  exact (List.map_id _).symm

end Writes

theorem fifo_nil {db : Database} {q : Int} (hq : 0 ≤ q) : Fifo [] q db db := by
  refine ⟨(min_eq_right hq).symm, fun r hr => ?_, fun r hr _ => hr, List.Pairwise.nil, id,
    fun _ => rfl, (List.map_id _).symm, rfl⟩
  cases hr

/-- **A RECEIPT IS ALLOCATED FIRST IN, FIRST OUT**, unless the part is none of the tenant's: then
nothing is written. -/
theorem fulfill_fifo (db : Database) (org partId : UUID) (workOrderId taskId : Option UUID) (q : Int)
    (hq : 0 ≤ q)
    (hrows : ∀ r ∈ matchingRequirements db org partId workOrderId taskId,
      0 ≤ r.fulfilledQuantity ∧ r.fulfilledQuantity ≤ r.requiredQuantity) :
    (∃ db', fulfillFromReceipt org partId workOrderId taskId q ⟨db, db⟩ = (.ok (), ⟨db', db'⟩) ∧
      Fifo (matchingRequirements db org partId workOrderId taskId) q db db') ∨
    (∃ e, getPart db org partId = .error e ∧
      fulfillFromReceipt org partId workOrderId taskId q ⟨db, db⟩ = (.error e, ⟨db, db⟩)) := by
  cases workOrderId with
  | none => exact Or.inl ⟨db, rfl, fifo_nil hq⟩
  | some workOrderId =>
    let s : Scope := ⟨org, partId, workOrderId, taskId⟩
    rw [fulfillFromReceipt]
    by_cases hnothing : q ≤ 0
    · rw [if_pos hnothing]
      exact Or.inl ⟨db, rfl, fifo_unwritten (s := s) hq hrows (allocations_of_nonpos hnothing _)⟩
    · rw [if_neg hnothing]
      by_cases htouched : allocations (matching db org partId workOrderId taskId) q = []
      · refine Or.inl ⟨db, Sessions.transaction_of_ok ?_, fifo_unwritten (s := s) hq hrows htouched⟩
        exact if_pos htouched
      · cases hpart : getPart db org partId with
        | error e =>
          refine Or.inr ⟨e, rfl, Sessions.transaction_of_error ?_⟩
          rw [if_neg htouched, hpart]
          rfl
        | ok part =>
          let as := allocations (matching db org partId workOrderId taskId) q
          let rows := (as.foldl (creditRow org) db.partRequirements).updateWhere
            (fun r => (as.map Prod.fst).contains r.id) (derived part.availableQuantity)
            (fun _ => rfl)
          refine Or.inl ⟨{ db with partRequirements := rows }, Sessions.transaction_of_ok ?_, ?_⟩
          · rw [if_neg htouched, hpart]
            rfl
          · have hplan : Planned s db.partRequirements
                (allocations (read s (bumped (fun _ => 0) db.partRequirements)) q) :=
              planned_allocations
            rw [bumped_zero] at hplan
            exact fifo_receipted (s := s) _ hq hrows (rows_receipted hplan part.availableQuantity) rfl

/-- Two pumps are needed, then three, and a third need is cancelled; four are received. -/
def threeNeeds : Database where
  parts := .single { id := 7, organizationId := 1, partNumber := "PN-7", description := "Pump" }
  partRequirements := ⟨[
    { id := 1, organizationId := 1, workOrderId := 3, partId := 7, requiredQuantity := 2
      createdAt := 1 },
    { id := 2, organizationId := 1, workOrderId := 3, partId := 7, requiredQuantity := 5
      status := PartRequirementStatus.cancelled, createdAt := 2 },
    { id := 3, organizationId := 1, workOrderId := 3, partId := 7, requiredQuantity := 3
      createdAt := 3 }], by decide⟩

theorem threeNeeds_fifo :
    (∃ db', fulfillFromReceipt 1 7 (some 3) none 4 ⟨threeNeeds, threeNeeds⟩
        = (.ok (), ⟨db', db'⟩) ∧
      Fifo (matchingRequirements threeNeeds 1 7 (some 3) none) 4 threeNeeds db') ∨
    (∃ e, getPart threeNeeds 1 7 = .error e ∧
      fulfillFromReceipt 1 7 (some 3) none 4 ⟨threeNeeds, threeNeeds⟩
        = (.error e, ⟨threeNeeds, threeNeeds⟩)) :=
  fulfill_fifo threeNeeds 1 7 (some 3) none 4 (by decide) (by decide)

end ReceiptFifo
end AeroComply
