import Mathlib.Algebra.BigOperators.Group.List.Basic
import Mathlib.Algebra.Group.Prod
import Mathlib.Tactic.Abel
import AeroComply.Services.InventoryTransaction

/-!
# InventoryRuns — stock and ledger over sequences of calls

The nine operations keep every part's quantities valid: the seven movements check
them, and the two plain writes meet the constraints of the table.

Each movement writes the ledger row that says what it moved.  `update_part` sets
the on-hand and reserved quantities without one, so the books balance up to what
such updates changed.
-/

namespace AeroComply

open Relational (Table)

namespace InventoryRuns

open PartService InventoryTransactionService
open Sessions (Call Keeps left)

inductive Action
  | createPart (newId organizationId : UUID) (actor : Option UUID) (payload : PartCreateRequest)
  | updatePart (organizationId : UUID) (actor : Option UUID) (partId : UUID)
      (payload : PartUpdateRequest)
  | receivePart (newId organizationId : UUID) (actor : Option UUID) (partId : UUID)
      (payload : InventoryQuantityRequest)
  | reservePart (newId organizationId : UUID) (actor : Option UUID) (partId : UUID)
      (payload : InventoryQuantityRequest)
  | releaseReservation (newId organizationId : UUID) (actor : Option UUID) (partId : UUID)
      (payload : InventoryQuantityRequest)
  | consumePart (newId organizationId : UUID) (actor : Option UUID) (partId : UUID)
      (payload : InventoryQuantityRequest)
  | adjustPart (newId organizationId : UUID) (actor : Option UUID) (partId : UUID)
      (payload : InventoryAdjustRequest)
  | quarantinePart (newId organizationId : UUID) (actor : Option UUID) (partId : UUID)
      (payload : InventoryQuarantineRequest)
  | releaseQuarantine (newId organizationId : UUID) (actor : Option UUID) (partId : UUID)
      (payload : InventoryReleaseQuarantineRequest)

def call : Action → Call Database Error Unit
  | .createPart newId org actor payload => createPart newId org actor payload
  | .updatePart org actor partId payload => updatePart org actor partId payload
  | .receivePart newId org actor partId payload => receivePart newId org actor partId payload
  | .reservePart newId org actor partId payload => reservePart newId org actor partId payload
  | .releaseReservation newId org actor partId payload =>
    releaseReservation newId org actor partId payload
  | .consumePart newId org actor partId payload => consumePart newId org actor partId payload
  | .adjustPart newId org actor partId payload => adjustPart newId org actor partId payload
  | .quarantinePart newId org actor partId payload =>
    quarantinePart newId org actor partId payload
  | .releaseQuarantine newId org actor partId payload =>
    releaseQuarantine newId org actor partId payload

/-! ## The movements -/

def quantities (p : Part) : Int × Int × Int :=
  (p.quantityOnHand, p.quantityReserved, p.quantityQuarantined)

/-- What the transactions of the seven movements do to the parts and the ledger: they post a
movement, or write a part whose quantities stay, or touch neither table. -/
structure SurvivesMovements (P : Database → Prop) : Prop where
  elsewhere : ∀ db db', db'.parts = db.parts →
    db'.inventoryTransactions = db.inventoryTransactions → P db → P db'
  posted : ∀ db db' newId actor part (m : Movement), part ∈ db.parts.rows →
    post db newId part.organizationId actor part m = .ok db' → P db → P db'
  relabelled : ∀ db part part', part ∈ db.parts.rows → part'.id = part.id →
    part'.organizationId = part.organizationId → quantities part' = quantities part →
    P db → P { db with parts := db.parts.save part' }

section Movements

variable {P : Database → Prop} (h : SurvivesMovements P)
include h

theorem SurvivesMovements.moveStock (newId org : UUID) (actor : Option UUID) (partId : UUID)
    (check : Except Error Unit) (m : Movement) :
    Keeps P (moveStock newId org actor partId check m) := by
  refine (Keeps.update ?_).bind fun _ => Keeps.commit.bind fun _ => Keeps.transaction ?_
  · intro db db' hdb hstep
    obtain ⟨part, hpart, hstep⟩ := bind_eq_ok.1 hstep
    obtain ⟨_, _, hstep⟩ := bind_eq_ok.1 hstep
    obtain ⟨hmem, _, rfl⟩ := getPart_eq_ok hpart
    exact h.posted db db' newId actor part m hmem hstep hdb
  · intro db db' hdb hstep
    obtain ⟨_, _, hstep⟩ := bind_eq_ok.1 hstep
    rw [pure_eq_ok] at hstep
    subst hstep
    exact h.elsewhere db _ rfl rfl hdb

theorem SurvivesMovements.setServiceability (org partId : UUID) (status : String)
    (reason : Option String → Option String) :
    Keeps P (setServiceability org partId status reason) := by
  refine Keeps.transaction ?_
  intro db db' hdb hstep
  obtain ⟨part, hpart, hstep⟩ := bind_eq_ok.1 hstep
  rw [pure_eq_ok] at hstep
  subst hstep
  exact h.relabelled db part _ (getPart_eq_ok hpart).1 rfl rfl rfl hdb

theorem SurvivesMovements.call {a : Action}
    (hcreate : ∀ newId org actor payload, Keeps P (createPart newId org actor payload))
    (hupdate : ∀ org actor partId payload, a = .updatePart org actor partId payload →
      Keeps P (updatePart org actor partId payload)) : Keeps P (call a) := by
  cases a with
  | createPart newId org actor payload => exact hcreate newId org actor payload
  | updatePart org actor partId payload => exact hupdate org actor partId payload rfl
  | receivePart newId org actor partId payload => exact h.moveStock _ _ _ _ _ _
  | reservePart newId org actor partId payload => exact h.moveStock _ _ _ _ _ _
  | releaseReservation newId org actor partId payload => exact h.moveStock _ _ _ _ _ _
  | consumePart newId org actor partId payload => exact h.moveStock _ _ _ _ _ _
  | adjustPart newId org actor partId payload => exact h.moveStock _ _ _ _ _ _
  | quarantinePart newId org actor partId payload =>
    exact Keeps.bind (h.moveStock _ _ _ _ _ _) fun _ => h.setServiceability _ _ _ _
  | releaseQuarantine newId org actor partId payload =>
    exact Keeps.bind (h.moveStock _ _ _ _ _ _) fun _ => h.setServiceability _ _ _ _

end Movements

/-! ## The quantities stay valid -/

def AllValid (db : Database) : Prop := ∀ p ∈ db.parts.rows, StockValid p

theorem stockValid_of_quantities {p p' : Part} (hq : quantities p' = quantities p)
    (h : StockValid p) : StockValid p' := by
  simp only [quantities, Prod.mk.injEq] at hq
  obtain ⟨hon, hres, hquar⟩ := hq
  exact ⟨by rw [hres]; exact h.reserved, by rw [hquar]; exact h.quarantined,
    by rw [hon, hres, hquar]; exact h.within⟩

theorem allValid_save {db : Database} {part : Part} (hdb : AllValid db) (hpart : StockValid part) :
    AllValid { db with parts := db.parts.save part } := by
  intro p hp
  rcases Table.mem_save.1 hp with ⟨hp, _⟩ | ⟨rfl, _⟩
  · exact hdb p hp
  · exact hpart

theorem allValid_survives : SurvivesMovements AllValid where
  elsewhere db db' hparts _ hdb := by
    rw [AllValid, hparts]
    exact hdb
  posted db db' newId actor part m _ hpost hdb := by
    obtain ⟨hvalid, hparts, _⟩ := post_eq_ok hpost
    rw [AllValid, hparts]
    exact allValid_save hdb hvalid
  relabelled db part part' hmem _ _ hq hdb :=
    allValid_save hdb (stockValid_of_quantities hq (hdb part hmem))

theorem createPart_keeps_valid (newId org : UUID) (actor : Option UUID)
    (payload : PartCreateRequest) : Keeps AllValid (createPart newId org actor payload) := by
  refine Keeps.transaction ?_
  intro db db' hdb h
  obtain ⟨_, hadmitted, h⟩ := bind_eq_ok.1 h
  obtain ⟨parts, hadd, h⟩ := bind_eq_ok.1 h
  rw [pure_eq_ok] at h
  subst h
  intro p hp
  rcases (Table.mem_insert? (addRowOrRaise_eq_ok.1 hadd)).1 hp with hp | rfl
  · exact hdb p hp
  · -- the constraint of the table refuses a reservation beyond the stock
    exact ⟨payload.reserved_nonneg, le_refl 0, (not_not.1 (raiseIf_eq_ok.1 hadmitted)).2⟩

theorem updatePart_keeps_valid (org : UUID) (actor : Option UUID) (partId : UUID)
    (payload : PartUpdateRequest) : Keeps AllValid (updatePart org actor partId payload) := by
  refine Keeps.transaction ?_
  intro db db' hdb h
  obtain ⟨part, hpart, h⟩ := bind_eq_ok.1 h
  obtain ⟨part', hpart', h⟩ := bind_eq_ok.1 h
  rw [pure_eq_ok] at h
  have hold := hdb part (getPart_eq_ok hpart).1
  obtain ⟨hadmitted, _, _, _, hres, _⟩ := payload.apply_eq_ok hpart'
  have hreserved : 0 ≤ part'.quantityReserved := by
    rw [hres]
    cases hgiven : payload.quantityReserved with
    | unset => exact hold.reserved
    | null => exact hold.reserved
    | value q => exact payload.reserved_nonneg q hgiven
  have hparts : db'.parts = db.parts.save part' := by
    subst h
    split
    · rfl
    · rfl
  rw [AllValid, hparts]
  exact allValid_save hdb ⟨hreserved, hadmitted.1, hadmitted.2⟩

/-- **ONE CALL**: each of the nine operations keeps the quantities of every part valid. -/
theorem call_keeps_valid (a : Action) : Keeps AllValid (call a) :=
  allValid_survives.call createPart_keeps_valid
    (fun org actor partId payload _ => updatePart_keeps_valid org actor partId payload)

/-- **STOCK**: in every state that a sequence of calls reaches, no part has a negative
quantity, reserved and quarantined stock is on hand, and what is left is available. -/
theorem stock_valid {db : Database} (hstart : ∀ p ∈ db.parts.rows, StockValid p)
    (as : List Action) : ∀ db' ∈ Runs.visited (Sessions.step call) db as,
      ∀ p ∈ db'.parts.rows, 0 ≤ p.quantityReserved ∧ 0 ≤ p.quantityQuarantined ∧
        p.quantityReserved + p.quantityQuarantined ≤ p.quantityOnHand ∧
        0 ≤ p.availableQuantity := by
  intro db' hdb' p hp
  have hvalid := Sessions.visited_keeps call_keeps_valid as hstart db' hdb' p hp
  exact ⟨hvalid.reserved, hvalid.quarantined, hvalid.within, hvalid.available⟩

/-- A part without stock. -/
def valve : Part := { id := 7, organizationId := 1, partNumber := "PN-7", description := "Valve" }

/-- From a part without stock, through a receipt, a refused update and a quarantine. -/
theorem valve_stock_valid :
    (Runs.visited (Sessions.step call) { parts := .single valve }
      [.receivePart 20 1 none 7 { quantity := 5 },
        .updatePart 1 none 7 { quantityReserved := .value 6 },
        .quarantinePart 21 1 none 7 { quantity := 2, reason := "cracked" }]).Forall
      fun db' => ∀ p ∈ db'.parts.rows, 0 ≤ p.quantityReserved ∧ 0 ≤ p.quantityQuarantined ∧
        p.quantityReserved + p.quantityQuarantined ≤ p.quantityOnHand ∧
        0 ≤ p.availableQuantity :=
  List.forall_iff_forall_mem.2 (stock_valid
    (by intro p hp; rw [List.mem_singleton.1 hp]; exact ⟨le_refl 0, le_refl 0, le_refl 0⟩) _)

/-! ## The ledger accounts for the quantities -/

/-- `list_transactions_for_part`; the order is left out. -/
def listTransactionsForPart (db : Database) (organizationId partId : UUID) :
    List InventoryTransaction :=
  db.inventoryTransactions.select fun r =>
    r.organizationId = organizationId && r.partId = partId

/-- What a ledger row says was added to the quantities. -/
def deltas (r : InventoryTransaction) : Int × Int × Int :=
  (r.onHandDelta, r.reservedDelta, r.quarantinedDelta)

/-- What the ledger says was added to the quantities of a part. -/
def ledgerSum (db : Database) (part : Part) : Int × Int × Int :=
  ((listTransactionsForPart db part.organizationId part.id).map deltas).sum

/-- What a call of `update_part` that goes through sets the quantities of the part off by. -/
def editOf (part : Part) (db : Database) : Action → Int × Int × Int
  | .updatePart org _ partId payload =>
    if partId = part.id then
      match (do let old ← getPart db org partId; return (old, ← payload.apply old)) with
      | .ok (old, new) => quantities new - quantities old
      | .error _ => 0
    else 0
  | _ => 0

/-- What the calls of `update_part` in a sequence set the quantities of the part off by. -/
def edits (part : Part) (db : Database) : List Action → Int × Int × Int
  | [] => 0
  | a :: as => editOf part db a + edits part (left (call a) db) as

/-- The part is there, and its quantities are `base` and what the ledger says. -/
def Balanced (part : Part) (base : Int × Int × Int) (db : Database) : Prop :=
  ∃ p ∈ db.parts.rows, p.id = part.id ∧ p.organizationId = part.organizationId ∧
    quantities p = base + ledgerSum db part

section Balanced

variable {part : Part} {base : Int × Int × Int} {db db' : Database}

theorem ledgerSum_congr (h : db'.inventoryTransactions = db.inventoryTransactions) :
    ledgerSum db' part = ledgerSum db part := by
  rw [ledgerSum, listTransactionsForPart, h]
  rfl

theorem Balanced.save {old new : Part} (h : Balanced part base db)
    (hl : db'.inventoryTransactions = db.inventoryTransactions)
    (hp : db'.parts = db.parts.save new) (hold : old ∈ db.parts.rows) (hid : new.id = old.id)
    (horg : new.organizationId = old.organizationId) {edit : Int × Int × Int}
    (hedit : edit = if old.id = part.id then quantities new - quantities old else 0) :
    Balanced part (base + edit) db' := by
  obtain ⟨p, hmem, hpid, hporg, hq⟩ := h
  have hrows : ∀ x, x ∈ db'.parts.rows ↔ (x ∈ db.parts.rows ∧ x.id ≠ new.id) ∨ x = new := by
    rw [hp]
    exact fun x => Table.mem_save_of_mem hold hid.symm
  rw [Balanced, ledgerSum_congr hl]
  by_cases hsame : old.id = part.id
  · obtain rfl : p = old := Table.eq_of_key_eq hmem hold (hpid.trans hsame.symm)
    refine ⟨new, (hrows new).2 (Or.inr rfl), hid.trans hpid, horg.trans hporg, ?_⟩
    rw [hedit, if_pos hsame, hq]
    abel
  · refine ⟨p, (hrows p).2 (Or.inl ⟨hmem, ?_⟩), hpid, hporg, ?_⟩
    · rw [hid, hpid]
      exact fun h => hsame h.symm
    · rw [hedit, if_neg hsame, add_zero, hq]

/-- A movement moves the quantities and the ledger together. -/
theorem Balanced.post {newId : UUID} {actor : Option UUID} {moved : Part} {m : Movement}
    (h : Balanced part base db) (hmem : moved ∈ db.parts.rows)
    (hpost : post db newId moved.organizationId actor moved m = .ok db') :
    Balanced part base db' := by
  obtain ⟨p, hp, hpid, hporg, hq⟩ := h
  obtain ⟨_, hparts, hledger⟩ := post_eq_ok hpost
  have hrows : ∀ x, x ∈ db'.parts.rows ↔ (x ∈ db.parts.rows ∧ x.id ≠ moved.id) ∨ x = m.apply moved := by
    rw [hparts]
    exact fun x => Table.mem_save_of_mem hmem rfl
  have hlist := Table.select_insert? hledger
    (fun r => r.organizationId = part.organizationId && r.partId = part.id)
  by_cases hsame : moved.id = part.id
  · obtain rfl : p = moved := Table.eq_of_key_eq hp hmem (hpid.trans hsame.symm)
    refine ⟨m.apply p, (hrows _).2 (Or.inr rfl), hpid, hporg, ?_⟩
    rw [List.filter_cons_of_pos (by simp [Movement.row, hpid, hporg]), List.filter_nil] at hlist
    have hsum : ledgerSum db' part
        = ledgerSum db part + deltas (m.row newId p.organizationId actor p.id) := by
      rw [ledgerSum, listTransactionsForPart, hlist, List.map_append, List.sum_append,
        List.map_singleton, List.sum_singleton]
      rfl
    calc quantities (m.apply p)
        = quantities p + deltas (m.row newId p.organizationId actor p.id) := rfl
      _ = base + ledgerSum db' part := by rw [hq, hsum, add_assoc]
  · refine ⟨p, (hrows p).2 (Or.inl ⟨hp, ?_⟩), hpid, hporg, ?_⟩
    · rw [hpid]
      exact fun h => hsame h.symm
    · rw [List.filter_cons_of_neg (by simp [Movement.row, hsame]), List.filter_nil,
        List.append_nil] at hlist
      have hsum : ledgerSum db' part = ledgerSum db part := by
        rw [ledgerSum, listTransactionsForPart, hlist]
        rfl
      rw [hq, hsum]

theorem balanced_survives : SurvivesMovements (Balanced part base) where
  elsewhere db db' hparts hledger h := by
    rw [Balanced, hparts, ledgerSum_congr hledger]
    exact h
  posted db db' newId actor moved m hmem hpost h := h.post hmem hpost
  relabelled db old new hmem hid horg hq h := by
    have hedit : (0 : Int × Int × Int)
        = if old.id = part.id then quantities new - quantities old else 0 := by
      rw [hq, sub_self, ite_self]
    have hledger : { db with parts := db.parts.save new }.inventoryTransactions
        = db.inventoryTransactions := rfl
    have hsaved := h.save hledger rfl hmem hid horg hedit
    rwa [add_zero] at hsaved

theorem createPart_keeps_balanced (newId org : UUID) (actor : Option UUID)
    (payload : PartCreateRequest) :
    Keeps (Balanced part base) (createPart newId org actor payload) := by
  refine Keeps.transaction ?_
  intro db db' hdb h
  obtain ⟨_, _, h⟩ := bind_eq_ok.1 h
  obtain ⟨parts, hadd, h⟩ := bind_eq_ok.1 h
  rw [pure_eq_ok] at h
  subst h
  obtain ⟨p, hmem, hp⟩ := hdb
  exact ⟨p, (Table.mem_insert? (addRowOrRaise_eq_ok.1 hadd)).2 (Or.inl hmem), hp⟩

/-- An update writes no ledger row: it sets the books off by what it changes. -/
theorem balanced_updatePart {org partId : UUID} {actor : Option UUID}
    {payload : PartUpdateRequest} (h : Balanced part base db) :
    Balanced part (base + editOf part db (.updatePart org actor partId payload))
      (left (updatePart org actor partId payload) db) := by
  rw [updatePart, Sessions.left_transaction, Runs.attempt, editOf]
  cases hget : getPart db org partId with
  | error e =>
    simp only [bind, Except.bind, ite_self, add_zero]
    exact h
  | ok old =>
    cases happly : payload.apply old with
    | error e =>
      simp only [bind, Except.bind, happly, ite_self, add_zero]
      exact h
    | ok new =>
      simp only [bind, Except.bind, happly, pure, Except.pure]
      obtain ⟨hmem, hid, _⟩ := getPart_eq_ok hget
      obtain ⟨_, hnew, horg, _⟩ := payload.apply_eq_ok happly
      have hsaved : ∀ db', db'.inventoryTransactions = db.inventoryTransactions →
          db'.parts = db.parts.save new → Balanced part
            (base + if partId = part.id then quantities new - quantities old else 0) db' :=
        fun db' hl hp => h.save hl hp hmem hnew horg (by rw [hid])
      cases payload.given with
      | true => exact hsaved _ rfl rfl
      | false => exact hsaved _ rfl rfl

/-- **ONE CALL**: the quantities move with the ledger, an update apart. -/
theorem balanced_call {a : Action} (h : Balanced part base db) :
    Balanced part (base + editOf part db a) (left (call a) db) := by
  by_cases hupdate : ∃ org actor partId payload, a = .updatePart org actor partId payload
  · obtain ⟨org, actor, partId, payload, rfl⟩ := hupdate
    exact balanced_updatePart h
  · have hzero : editOf part db a = 0 := by
      cases a with
      | updatePart org actor partId payload => exact absurd ⟨org, actor, partId, payload, rfl⟩ hupdate
      | _ => rfl
    rw [hzero, add_zero]
    refine (balanced_survives.call createPart_keeps_balanced ?_).left h
    intro org actor partId payload ha
    exact absurd ⟨org, actor, partId, payload, ha⟩ hupdate

theorem balanced_after (as : List Action) (h : Balanced part base db) :
    Balanced part (base + edits part db as) (Sessions.after call db as) := by
  induction as generalizing db base with
  | nil =>
    rw [edits, add_zero]
    exact h
  | cons a as ih =>
    rw [edits, ← add_assoc]
    exact ih (balanced_call h)

end Balanced

theorem edits_quarantined (part : Part) (db : Database) (as : List Action) :
    (edits part db as).2.2 = 0 := by
  have hone : ∀ (db : Database) (a : Action), (editOf part db a).2.2 = 0 := by
    intro db a
    cases a with
    | updatePart org actor partId payload =>
      rw [editOf]
      split
      · split
        · next old new hboth =>
          obtain ⟨old', _, hboth⟩ := bind_eq_ok.1 hboth
          obtain ⟨new', happly, hboth⟩ := bind_eq_ok.1 hboth
          cases hboth
          obtain ⟨_, _, _, _, _, hquar⟩ := payload.apply_eq_ok happly
          show new.quantityQuarantined - old.quantityQuarantined = 0
          omega
        · rfl
      · rfl
    | _ => rfl
  induction as generalizing db with
  | nil => rfl
  | cons a as ih =>
    rw [edits]
    show (editOf part db a).2.2 + (edits part (left (call a) db) as).2.2 = 0
    rw [hone, ih, add_zero]

theorem sum_deltas (rows : List InventoryTransaction) :
    (rows.map deltas).sum = ((rows.map InventoryTransaction.onHandDelta).sum,
      (rows.map InventoryTransaction.reservedDelta).sum,
      (rows.map InventoryTransaction.quarantinedDelta).sum) := by
  induction rows with
  | nil => rfl
  | cons r rows ih =>
    rw [List.map_cons, List.sum_cons, ih]
    rfl

/-- The quantities of the part are the ones given, what its ledger rows add up to, and what the
on-hand and reserved quantities were set off by. -/
def Accounted (part : Part) (edit : Int × Int) (db : Database) : Prop :=
  ∃ p ∈ db.parts.rows, p.id = part.id ∧
    p.quantityOnHand = part.quantityOnHand + ((listTransactionsForPart db part.organizationId
      part.id).map InventoryTransaction.onHandDelta).sum + edit.1 ∧
    p.quantityReserved = part.quantityReserved + ((listTransactionsForPart db part.organizationId
      part.id).map InventoryTransaction.reservedDelta).sum + edit.2 ∧
    p.quantityQuarantined = part.quantityQuarantined + ((listTransactionsForPart db
      part.organizationId part.id).map InventoryTransaction.quarantinedDelta).sum

instance (part : Part) (edit : Int × Int) (db : Database) : Decidable (Accounted part edit db) :=
  inferInstanceAs (Decidable (∃ p ∈ db.parts.rows, _ ∧ _))

/-- **LEDGER**: after any sequence of calls, the quantities of a part are what they were when
it had no ledger row, what its rows add up to, and what updates set on hand and reserved. -/
theorem stock_accounted {db : Database} {part : Part} (hpart : part ∈ db.parts.rows)
    (hnew : listTransactionsForPart db part.organizationId part.id = []) (as : List Action) :
    Accounted part ((edits part db as).1, (edits part db as).2.1)
      (Sessions.after call db as) := by
  have hstart : Balanced part (quantities part) db := by
    refine ⟨part, hpart, rfl, rfl, ?_⟩
    rw [ledgerSum, hnew]
    exact (add_zero _).symm
  obtain ⟨p, hmem, hid, _, hq⟩ := balanced_after as hstart
  rw [ledgerSum, sum_deltas] at hq
  have hquar := edits_quarantined part db as
  refine ⟨p, hmem, hid, ?_, ?_, ?_⟩
  · have hon := congrArg Prod.fst hq
    simp only [quantities, Prod.fst_add] at hon
    omega
  · have hres := congrArg (fun q => q.2.1) hq
    simp only [quantities, Prod.fst_add, Prod.snd_add] at hres
    omega
  · have hq' := congrArg (fun q => q.2.2) hq
    simp only [quantities, Prod.snd_add] at hq'
    omega

/-- Stock is set by an update, and the ledger knows nothing of it. -/
theorem update_unaccounted :
    ¬Accounted valve (0, 0) (Sessions.after call { parts := .single valve }
      [.updatePart 1 none 7 { quantityOnHand := .value 5 }]) := by
  decide

/-- Five received, nine counted, three consumed: the count is off by four. -/
theorem valve_accounted :
    Accounted valve (4, 0) (Sessions.after call { parts := .single valve }
      [.receivePart 20 1 none 7 { quantity := 5 },
        .updatePart 1 none 7 { quantityOnHand := .value 9 },
        .reservePart 21 1 none 7 { quantity := 3 },
        .consumePart 22 1 none 7 { quantity := 3 }]) :=
  stock_accounted (List.mem_singleton_self _) rfl _

end InventoryRuns
end AeroComply
