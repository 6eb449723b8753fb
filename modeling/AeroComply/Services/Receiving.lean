import AeroComply.Services.InventoryTransaction
import AeroComply.Services.Procurement

/-!
# Receiving — a delivery against a purchase order

`app/services/receiving_service.py`.  The receipts are taken one after the other:
each is checked against its line, written to it, and posted to stock where the
line was ordered for a known part.  A posting commits what is pending, so a
receipt that is refused later does not take it back.

`receive_all_or_nothing_iff` says for which orders and payloads a call that raises
leaves everything as it was.
-/

namespace AeroComply

open Relational (Keyed Table)
open Sessions (Call Session update query commit each answer left bind_of_ok bind_of_error)

namespace ReceivingService

open PartService (getPart)
open PartRequirementService (fulfillFromReceipt)
open InventoryTransactionService (receivePart Movement Postable StockValid)
open ProcurementService (getRequest markReceived)
open PurchaseOrderService (getPurchaseOrder linesOf)

structure ReceiveLineRequest where
  lineId : UUID
  quantity : Int
  quantity_pos : 0 < quantity := by decide

structure ReceivePurchaseOrderRequest where
  lines : List ReceiveLineRequest
  notes : Option String := none
  lines_ne_nil : lines ≠ [] := by simp

/-- `_RECEIVABLE_STATUSES`. -/
def isReceivable (status : PurchaseOrderStatus) : Bool :=
  status = .sent || status = .acknowledged || status = .partiallyReceived

/-- `lines_by_id.get(line_id)`. -/
def lineOf (db : Database) (poId lineId : UUID) : Except Error PurchaseOrderLine :=
  oneOrRaise
    (db.purchaseOrderLines.select fun l => l.purchaseOrderId = poId && l.id = lineId)
    (.conflict s!"Line {lineId} does not belong to this purchase order" "line_not_found")

variable {line : PurchaseOrderLine}

theorem lineOf_eq_ok {db : Database} {poId lineId : UUID} (h : lineOf db poId lineId = .ok line) :
    line ∈ db.purchaseOrderLines.rows ∧ line.purchaseOrderId = poId ∧ line.id = lineId := by
  simpa using mem_of_oneOrRaise h

/-- What a line still expects. -/
def remaining (line : PurchaseOrderLine) : Int := line.quantity - line.receivedQuantity

/-- The line of a receipt, which is not for more than remains. -/
def checkReceipt (db : Database) (poId : UUID) (receipt : ReceiveLineRequest) :
    Except Error PurchaseOrderLine := do
  let line ← lineOf db poId receipt.lineId
  let remaining := remaining line
  let quantity := receipt.quantity
  let lineId := line.id
  raiseIf (remaining < quantity)
    (.conflict
      s!"Cannot receive {quantity} against line {lineId}: only {remaining} remain outstanding"
      "over_receipt")
  pure line

/-- The request that a line was ordered for, if there is one. -/
def requestOf (db : Database) (organizationId : UUID) (line : PurchaseOrderLine) :
    Except Error (Option ProcurementRequest) :=
  match line.procurementRequestId with
  | none => .ok none
  | some requestId => (getRequest db organizationId requestId).map some

/-- The posting of a receipt, where the line was ordered for a known part; `newId` is the
ledger row. -/
def postReceipt (newId organizationId : UUID) (actorUserId : Option UUID) (notes : Option String)
    (receipt : ReceiveLineRequest) (line : PurchaseOrderLine) : Call Database Error Unit := do
  let request ← query fun db => requestOf db organizationId line
  match request with
  | none => pure ()
  | some request =>
    match request.partId with
    | none => pure ()
    | some partId => do
      -- each of the two commits
      receivePart newId organizationId actorUserId partId
        { quantity := receipt.quantity, referenceType := some "purchase_order_line"
          referenceId := some line.id, notes, quantity_pos := receipt.quantity_pos }
      fulfillFromReceipt organizationId partId request.workOrderId request.taskId
        receipt.quantity

/-- One pass of the loop over the receipts. -/
def receiveLine (organizationId : UUID) (actorUserId : Option UUID) (poId : UUID)
    (notes : Option String) (item : UUID × ReceiveLineRequest) : Call Database Error Unit := do
  let (newId, receipt) := item
  let line ← query fun db => checkReceipt db poId receipt
  let line := { line with receivedQuantity := line.receivedQuantity + receipt.quantity }
  update fun db => .ok { db with purchaseOrderLines := db.purchaseOrderLines.save line }
  -- pending until a posting commits it
  postReceipt newId organizationId actorUserId notes receipt line

def allFulfilled (lines : List PurchaseOrderLine) : Bool :=
  lines.all fun l => l.quantity ≤ l.receivedQuantity

/-- The status the lines give the order. -/
def statusOf (lines : List PurchaseOrderLine) (status : PurchaseOrderStatus) :
    PurchaseOrderStatus :=
  if allFulfilled lines then .received
  else if lines.any fun l => 0 < l.receivedQuantity then .partiallyReceived
  else status

/-- The status of the order and the log entry, still pending. -/
def writeStatus (organizationId : UUID) (actorUserId : Option UUID) (po : PurchaseOrder) :
    Call Database Error Unit :=
  update fun db =>
    let received := { po with status := statusOf (linesOf db po.id) po.status }
    .ok (({ db with purchaseOrders := db.purchaseOrders.save received }).recordAuditEvent
      organizationId actorUserId "purchase_order.received" "PurchaseOrder" (some po.id))

/-- One pass of the loop that closes the requests of a received order. -/
def markLine (organizationId : UUID) (actorUserId : Option UUID) (line : PurchaseOrderLine) :
    Call Database Error Unit := do
  let request ← query fun db => requestOf db organizationId line
  match request with
  | none => pure ()
  | some request =>
    if request.status = .ordered then markReceived organizationId actorUserId request.id
    else pure ()

/-- The closing loop, when the order is received. -/
def closeRequests (organizationId : UUID) (actorUserId : Option UUID) (po : PurchaseOrder)
    (lines : List PurchaseOrderLine) : Call Database Error Unit :=
  if statusOf lines po.status = .received then
    each (markLine organizationId actorUserId) lines
  else pure ()

/-- What follows the loop over the receipts. -/
def finish (organizationId : UUID) (actorUserId : Option UUID) (po : PurchaseOrder) :
    Call Database Error Unit := do
  writeStatus organizationId actorUserId po
  let lines ← query fun db => .ok (linesOf db po.id)
  closeRequests organizationId actorUserId po lines
  commit

/-- The receipts with the identifiers of the ledger rows. -/
def numbered (newId : Nat → UUID) (receipts : List ReceiveLineRequest) :
    List (UUID × ReceiveLineRequest) :=
  receipts.zipIdx.map fun x => (newId x.2, x.1)

/-- The order, in a status in which it accepts a delivery. -/
def getReceivable (db : Database) (organizationId poId : UUID) : Except Error PurchaseOrder := do
  let po ← getPurchaseOrder db organizationId poId
  let status := po.status.value
  raiseIf (isReceivable po.status = false)
    (.conflict s!"Cannot receive against a purchase order in status {status}" "not_receivable")
  pure po

def receivePurchaseOrder (newId : Nat → UUID) (organizationId : UUID) (actorUserId : Option UUID)
    (poId : UUID) (payload : ReceivePurchaseOrderRequest) : Call Database Error Unit := do
  let po ← query fun db => getReceivable db organizationId poId
  each (receiveLine organizationId actorUserId poId payload.notes)
    (numbered newId payload.lines)
  finish organizationId actorUserId po

/-! ## What the receipts before one have done -/

/-- A receipt and the identifier of its ledger row. -/
abbrev Item := UUID × ReceiveLineRequest

/-- What the receipts that satisfy `p` add up to. -/
def quantityOf (p : Item → Bool) (earlier : List Item) : Int :=
  ((earlier.filter p).map fun item => item.2.quantity).sum

theorem quantityOf_append (p : Item → Bool) (earlier : List Item) (item : Item) :
    quantityOf p (earlier ++ [item])
      = quantityOf p earlier + if p item then item.2.quantity else 0 := by
  rw [quantityOf, List.filter_append, List.map_append, List.sum_append]
  by_cases h : p item = true
  · rw [List.filter_cons_of_pos h, if_pos h]
    simp [quantityOf]
  · rw [List.filter_cons_of_neg h, if_neg h]
    rfl

def taken (earlier : List Item) (line : PurchaseOrderLine) : PurchaseOrderLine :=
  { line with receivedQuantity :=
      line.receivedQuantity + quantityOf (fun item => item.2.lineId = line.id) earlier }

section Plan

variable (db : Database) (org poId : UUID)

/-- The part that a receipt is posted to. -/
def partOf (item : Item) : Option UUID :=
  match lineOf db poId item.2.lineId with
  | .error _ => none
  | .ok line =>
    match requestOf db org line with
    | .ok (some request) => request.partId
    | _ => none

/-- A part after the receipts. -/
def stocked (earlier : List Item) (part : Part) : Part :=
  { part with quantityOnHand :=
      part.quantityOnHand + quantityOf (fun item => partOf db org poId item = some part.id) earlier }

/-- The ledger rows that the receipts have added. -/
def postedIds (earlier : List Item) : List UUID :=
  (earlier.filter fun item => (partOf db org poId item).isSome).map Prod.fst

/-- No receipt has been posted, so nothing has been committed. -/
def NonePosted (earlier : List Item) : Prop := ∀ item ∈ earlier, partOf db org poId item = none

/-- The receipt goes through after the earlier ones. -/
structure Accepted (earlier : List Item) (item : Item) : Prop where
  line : ∃ line request, lineOf db poId item.2.lineId = .ok line ∧
    item.2.quantity ≤ remaining (taken earlier line) ∧ requestOf db org line = .ok request
  stock : ∀ partId, partOf db org poId item = some partId →
    ∃ part, getPart db org partId = .ok part ∧
      StockValid (stocked db org poId (earlier ++ [item]) part) ∧
      item.1 ∉ db.inventoryTransactions.rows.map InventoryTransaction.id ∧
      item.1 ∉ postedIds db org poId earlier

/-- What a session has reached after the receipts. -/
structure Reached (earlier : List Item) (s : Session Database) : Prop where
  orders : s.working.purchaseOrders = db.purchaseOrders
  requests : s.working.procurementRequests = db.procurementRequests
  lines : s.working.purchaseOrderLines.rows = db.purchaseOrderLines.rows.map (taken earlier)
  parts : s.working.parts.rows = db.parts.rows.map (stocked db org poId earlier)
  ledger : s.working.inventoryTransactions.rows.map InventoryTransaction.id
    = db.inventoryTransactions.rows.map InventoryTransaction.id ++ postedIds db org poId earlier
  committed : NonePosted db org poId earlier → s.committed = db
  posted : ¬NonePosted db org poId earlier →
    db.inventoryTransactions.rows.length < s.committed.inventoryTransactions.rows.length

end Plan

variable {db : Database} {org poId : UUID} {earlier : List Item} {item : Item}
  {s : Session Database}

theorem taken_nil : taken [] = id := by
  funext line
  simp [taken, quantityOf]

theorem stocked_nil : stocked db org poId [] = id := by
  funext part
  simp [stocked, quantityOf]

theorem reached_nil : Reached db org poId [] ⟨db, db⟩ where
  orders := rfl
  requests := rfl
  lines := by simp [taken_nil]
  parts := by simp [stocked_nil]
  ledger := by simp [postedIds]
  committed := fun _ => rfl
  posted := fun h => absurd (fun _ hitem => (nomatch hitem)) h

protected theorem Reached.lineOf (h : Reached db org poId earlier s) (lineId : UUID) :
    lineOf s.working poId lineId = (lineOf db poId lineId).map (taken earlier) := by
  rw [ReceivingService.lineOf, ReceivingService.lineOf, ← oneOrRaise_map]
  congr 1
  exact Table.select_of_rows_map h.lines fun _ => rfl

protected theorem Reached.getPart (h : Reached db org poId earlier s) (partId : UUID) :
    getPart s.working org partId
      = (getPart db org partId).map (stocked db org poId earlier) := by
  rw [PartService.getPart, PartService.getPart, ← oneOrRaise_map]
  congr 1
  exact Table.select_of_rows_map h.parts fun _ => rfl

protected theorem Reached.requestOf (h : Reached db org poId earlier s) (line : PurchaseOrderLine) :
    requestOf s.working org line = requestOf db org line := by
  rw [ReceivingService.requestOf, ReceivingService.requestOf]
  simp only [getRequest, h.requests]

theorem nonePosted_append : NonePosted db org poId (earlier ++ [item]) ↔
    NonePosted db org poId earlier ∧ partOf db org poId item = none := by
  rw [NonePosted, List.forall_mem_append, List.forall_mem_singleton]
  rfl

theorem postedIds_append : postedIds db org poId (earlier ++ [item])
    = postedIds db org poId earlier
      ++ if (partOf db org poId item).isSome then [item.1] else [] := by
  rw [postedIds, List.filter_append, List.map_append]
  cases h : partOf db org poId item with
  | none => simp [h, postedIds]
  | some partId => simp [h, postedIds]

/-! ## One receipt -/

theorem taken_append (h : item.2.lineId = line.id) :
    taken (earlier ++ [item]) line = { taken earlier line with receivedQuantity :=
      (taken earlier line).receivedQuantity + item.2.quantity } := by
  simp [taken, quantityOf_append, h]
  omega

theorem lines_append {t : Table PurchaseOrderLine}
    (ht : t.rows = db.purchaseOrderLines.rows.map (taken earlier))
    (hline : lineOf db poId item.2.lineId = .ok line) :
    (t.save (taken (earlier ++ [item]) line)).rows
      = db.purchaseOrderLines.rows.map (taken (earlier ++ [item])) := by
  obtain ⟨hmem, _, hid⟩ := lineOf_eq_ok hline
  rw [Table.rows_save_of_rows_map ht (fun _ => rfl)]
  refine List.map_congr_left ?_
  intro x hx
  by_cases hk : x.id = line.id
  · obtain rfl : x = line := Table.eq_of_key_eq hx hmem hk
    exact if_pos rfl
  · have hne : item.2.lineId ≠ x.id := by
      rw [← hid]
      exact fun h => hk h.symm
    have hif : ¬(Keyed.key x = Keyed.key (taken (earlier ++ [item]) line)) := hk
    rw [if_neg hif]
    simp [taken, quantityOf_append, hne]

theorem stocked_append_of_none (h : partOf db org poId item = none) :
    stocked db org poId (earlier ++ [item]) = stocked db org poId earlier := by
  funext part
  simp [stocked, quantityOf_append, h]

theorem parts_append {t : Table Part} {partId : UUID} {part : Part}
    (ht : t.rows = db.parts.rows.map (stocked db org poId earlier))
    (hpart : getPart db org partId = .ok part) (hposted : partOf db org poId item = some partId) :
    (t.save (stocked db org poId (earlier ++ [item]) part)).rows
      = db.parts.rows.map (stocked db org poId (earlier ++ [item])) := by
  obtain ⟨hmem, hid, _⟩ := PartService.getPart_eq_ok hpart
  rw [Table.rows_save_of_rows_map ht (fun _ => rfl)]
  refine List.map_congr_left ?_
  intro x hx
  by_cases hk : x.id = part.id
  · obtain rfl : x = part := Table.eq_of_key_eq hx hmem hk
    exact if_pos rfl
  · have hne : partId ≠ x.id := by
      rw [← hid]
      exact fun h => hk h.symm
    have hif : ¬(Keyed.key x = Keyed.key (stocked db org poId (earlier ++ [item]) part)) := hk
    rw [if_neg hif]
    simp [stocked, quantityOf_append, hposted, hne]

section Step

variable (actor : Option UUID) (notes : Option String)

variable {line : PurchaseOrderLine}

theorem checkReceipt_of_reached (h : Reached db org poId earlier s)
    (hline : lineOf db poId item.2.lineId = .ok line)
    (hq : item.2.quantity ≤ remaining (taken earlier line)) :
    checkReceipt s.working poId item.2 = .ok (taken earlier line) := by
  rw [checkReceipt, h.lineOf, hline]
  show (raiseIf _ _ >>= _) = _
  rw [raiseIf, if_neg (not_lt.2 hq)]
  rfl

/-- The session after the line write. -/
def written (s : Session Database) (line : PurchaseOrderLine) : Session Database :=
  { s with working := { s.working with
      purchaseOrderLines := s.working.purchaseOrderLines.save line } }

theorem receiveLine_eq (h : Reached db org poId earlier s)
    (hline : lineOf db poId item.2.lineId = .ok line)
    (hq : item.2.quantity ≤ remaining (taken earlier line)) :
    receiveLine org actor poId notes item s
      = postReceipt item.1 org actor notes item.2 (taken (earlier ++ [item]) line)
          (written s (taken (earlier ++ [item]) line)) := by
  have hid : item.2.lineId = line.id := (lineOf_eq_ok hline).2.2.symm
  rw [receiveLine, bind_of_ok (Sessions.query_of (checkReceipt_of_reached h hline hq)),
    taken_append hid]
  rfl

theorem receiveLine_of_unchecked (h : Reached db org poId earlier s)
    (hnot : ¬∃ line, lineOf db poId item.2.lineId = .ok line ∧
      item.2.quantity ≤ remaining (taken earlier line)) :
    ∃ e, receiveLine org actor poId notes item s = (.error e, s) := by
  cases hcheck : checkReceipt s.working poId item.2 with
  | error e => exact ⟨e, bind_of_error (Sessions.query_of hcheck)⟩
  | ok line =>
    obtain ⟨line, hline, hcheck⟩ := bind_eq_ok.1 hcheck
    obtain ⟨_, hq, _⟩ := bind_eq_ok.1 hcheck
    rw [h.lineOf] at hline
    cases hfound : lineOf db poId item.2.lineId with
    | error e =>
      rw [hfound] at hline
      cases hline
    | ok found =>
      rw [hfound] at hline
      cases hline
      exact absurd ⟨found, hfound, not_lt.1 (raiseIf_eq_ok.1 hq)⟩ hnot

def delivery (notes : Option String) (receipt : ReceiveLineRequest) (lineId : UUID) : Movement :=
  { transactionType := .receive, onHandDelta := receipt.quantity
    referenceType := some "purchase_order_line", referenceId := some lineId, notes }

theorem partOf_eq {request : Option ProcurementRequest}
    (hline : lineOf db poId item.2.lineId = .ok line) (hreq : requestOf db org line = .ok request) :
    partOf db org poId item = request.bind ProcurementRequest.partId := by
  rw [partOf, hline]
  simp only [hreq]
  cases request with
  | none => rfl
  | some request => rfl

theorem delivery_apply {part : Part} {lineId : UUID}
    (hposted : partOf db org poId item = some part.id) :
    (delivery notes item.2 lineId).apply (stocked db org poId earlier part)
      = stocked db org poId (earlier ++ [item]) part := by
  simp [delivery, Movement.apply, stocked, quantityOf_append, hposted]
  omega

theorem postable_iff {partId : UUID} (h : Reached db org poId earlier s)
    (hposted : partOf db org poId item = some partId) (lineId : UUID) (line : PurchaseOrderLine) :
    Postable (written s line).working item.1 org partId (delivery notes item.2 lineId) ↔
      ∃ part, getPart db org partId = .ok part ∧
        StockValid (stocked db org poId (earlier ++ [item]) part) ∧
        item.1 ∉ db.inventoryTransactions.rows.map InventoryTransaction.id ∧
        item.1 ∉ postedIds db org poId earlier := by
  have hid : ∀ part, getPart db org partId = .ok part → part.id = partId :=
    fun part hpart => (PartService.getPart_eq_ok hpart).2.1
  have hfree : item.1 ∉ s.working.inventoryTransactions.rows.map InventoryTransaction.id ↔
      item.1 ∉ db.inventoryTransactions.rows.map InventoryTransaction.id ∧
        item.1 ∉ postedIds db org poId earlier := by
    rw [h.ledger, List.mem_append, not_or]
  constructor
  · rintro ⟨found, hpart, hvalid, hfresh⟩
    have hget : getPart s.working org partId = .ok found := hpart
    rw [h.getPart] at hget
    cases hstored : getPart db org partId with
    | error e =>
      rw [hstored] at hget
      cases hget
    | ok part =>
      rw [hstored] at hget
      cases hget
      rw [← hid part hstored] at hposted
      rw [delivery_apply notes hposted] at hvalid
      exact ⟨part, rfl, hvalid, hfree.1 hfresh⟩
  · rintro ⟨part, hstored, hvalid, hfresh⟩
    have hpart : getPart s.working org partId = .ok (stocked db org poId earlier part) := by
      rw [h.getPart, hstored]
      rfl
    rw [← hid part hstored] at hposted
    refine ⟨_, hpart, ?_, hfree.2 hfresh⟩
    rw [delivery_apply notes hposted]
    exact hvalid

theorem Reached.append_unposted (h : Reached db org poId earlier s)
    (hline : lineOf db poId item.2.lineId = .ok line) (hnone : partOf db org poId item = none) :
    Reached db org poId (earlier ++ [item]) (written s (taken (earlier ++ [item]) line)) where
  orders := h.orders
  requests := h.requests
  lines := lines_append h.lines hline
  parts := by
    rw [stocked_append_of_none hnone]
    exact h.parts
  ledger := by
    rw [postedIds_append, hnone, if_neg (by simp), List.append_nil]
    exact h.ledger
  committed := fun hall => h.committed (nonePosted_append.1 hall).1
  posted := fun hsome => h.posted fun hall => hsome (nonePosted_append.2 ⟨hall, hnone⟩)

theorem Reached.append_posted {part : Part} {w : Database} (h : Reached db org poId earlier s)
    (hline : lineOf db poId item.2.lineId = .ok line) (hpart : getPart db org part.id = .ok part)
    (hposted : partOf db org poId item = some part.id)
    (hsame : InventoryTransactionService.SameOrders
      (written s (taken (earlier ++ [item]) line)).working w)
    (hparts : w.parts = s.working.parts.save (stocked db org poId (earlier ++ [item]) part))
    (hledger : w.inventoryTransactions.rows.map InventoryTransaction.id
      = s.working.inventoryTransactions.rows.map InventoryTransaction.id ++ [item.1]) :
    Reached db org poId (earlier ++ [item]) ⟨w, w⟩ where
  orders := hsame.orders.trans h.orders
  requests := hsame.requests.trans h.requests
  lines := by
    rw [hsame.lines]
    exact lines_append h.lines hline
  parts := by
    rw [hparts]
    exact parts_append h.parts hpart hposted
  ledger := by
    rw [postedIds_append, hposted, hledger, h.ledger, if_pos (by simp), List.append_assoc]
  committed := fun hall => by
    have hnone := (nonePosted_append.1 hall).2
    rw [hposted] at hnone
    cases hnone
  posted := fun _ => by
    have hlen := congrArg List.length hledger
    rw [h.ledger] at hlen
    simp only [List.length_map, List.length_append, List.length_singleton] at hlen
    show _ < w.inventoryTransactions.rows.length
    omega

theorem receiveLine_of_accepted (h : Reached db org poId earlier s)
    (hacc : Accepted db org poId earlier item) :
    ∃ s', receiveLine org actor poId notes item s = (.ok (), s') ∧
      Reached db org poId (earlier ++ [item]) s' := by
  obtain ⟨line, request, hline, hq, hreq⟩ := hacc.line
  have hpartOf := partOf_eq hline hreq
  have hquery : requestOf (written s (taken (earlier ++ [item]) line)).working org
      (taken (earlier ++ [item]) line) = .ok request :=
    (h.requestOf (taken (earlier ++ [item]) line)).trans hreq
  rw [receiveLine_eq actor notes h hline hq, postReceipt, bind_of_ok (Sessions.query_of hquery)]
  cases request with
  | none => exact ⟨_, rfl, h.append_unposted hline hpartOf⟩
  | some request =>
    cases hpartId : request.partId with
    | none =>
      refine ⟨written s (taken (earlier ++ [item]) line), ?_,
        h.append_unposted hline (hpartOf.trans hpartId)⟩
      simp only [hpartId]
      rfl
    | some partId =>
      have hposted : partOf db org poId item = some partId := hpartOf.trans hpartId
      have hpostable := (postable_iff notes h hposted line.id
        (taken (earlier ++ [item]) line)).2 (hacc.stock partId hposted)
      obtain ⟨part, hpart, _⟩ := hacc.stock partId hposted
      obtain ⟨w, found, hrun, hfound, hparts, hledger, hsame⟩ :=
        InventoryTransactionService.moveStock_of_postable actor hpostable
      obtain rfl := (PartService.getPart_eq_ok hpart).2.1
      have hwas : found = stocked db org poId earlier part := by
        have hget := h.getPart part.id
        rw [hpart, show getPart s.working org part.id = .ok found from hfound] at hget
        cases hget
        rfl
      rw [hwas, delivery_apply notes hposted] at hparts
      have hids := congrArg (List.map InventoryTransaction.id) hledger
      rw [List.map_append] at hids
      have hreached := h.append_posted hline hpart hposted hsame hparts hids
      obtain ⟨rows, hfulfill⟩ := PartRequirementService.fulfillFromReceipt_of_ok
        ((hreached.getPart part.id).trans (by rw [hpart]; rfl)) request.workOrderId
        request.taskId item.2.quantity
      refine ⟨⟨{ w with partRequirements := rows }, { w with partRequirements := rows }⟩, ?_,
        h.append_posted hline hpart hposted ⟨hsame.orders, hsame.lines, hsame.requests⟩ hparts hids⟩
      simp only [hpartId]
      exact (bind_of_ok hrun).trans hfulfill

theorem receiveLine_of_refused (h : Reached db org poId earlier s)
    (hnot : ¬Accepted db org poId earlier item) :
    ∃ e s', receiveLine org actor poId notes item s = (.error e, s') ∧
      s'.committed = s.committed := by
  by_cases hcheck : ∃ line, lineOf db poId item.2.lineId = .ok line ∧
      item.2.quantity ≤ remaining (taken earlier line)
  · obtain ⟨line, hline, hq⟩ := hcheck
    rw [receiveLine_eq actor notes h hline hq, postReceipt]
    have hquery := h.requestOf (taken (earlier ++ [item]) line)
    cases hreq : requestOf db org line with
    | error e =>
      exact ⟨e, _, bind_of_error (Sessions.query_of (hquery.trans hreq)), rfl⟩
    | ok request =>
      have hpartOf := partOf_eq hline hreq
      rw [bind_of_ok (Sessions.query_of (hquery.trans hreq))]
      cases hpartId : request.bind ProcurementRequest.partId with
      | none =>
        refine absurd ⟨⟨line, request, hline, hq, hreq⟩, ?_⟩ hnot
        intro partId hposted
        rw [hpartOf, hpartId] at hposted
        cases hposted
      | some partId =>
        have hposted : partOf db org poId item = some partId := hpartOf.trans hpartId
        have hrefused : ¬Postable (written s (taken (earlier ++ [item]) line)).working item.1 org
            partId (delivery notes item.2 line.id) := by
          rw [postable_iff notes h hposted]
          intro hstock
          refine hnot ⟨⟨line, request, hline, hq, hreq⟩, ?_⟩
          intro partId' hposted'
          rw [hposted] at hposted'
          cases hposted'
          exact hstock
        obtain ⟨e, hrun⟩ :=
          InventoryTransactionService.moveStock_of_not_postable actor hrefused
        obtain ⟨request, rfl, hid⟩ := Option.bind_eq_some_iff.1 hpartId
        refine ⟨e, written s (taken (earlier ++ [item]) line), ?_, rfl⟩
        simp only [hid]
        exact bind_of_error hrun
  · obtain ⟨e, hrun⟩ := receiveLine_of_unchecked actor notes h hcheck
    exact ⟨e, s, hrun, rfl⟩

end Step

/-! ## The requests of a received order -/

/-- The request of the line, if there is one, can be read. -/
def found (db : Database) (org : UUID) (line : PurchaseOrderLine) : Bool :=
  (requestOf db org line).isOk

def isOrdered (db : Database) (org : UUID) (line : PurchaseOrderLine) : Bool :=
  match requestOf db org line with
  | .ok (some request) => request.status = .ordered
  | _ => false

section Closing

variable (actor : Option UUID)

theorem markReceived_of_ordered {request : ProcurementRequest}
    (hget : getRequest s.working org request.id = .ok request)
    (hordered : request.status = .ordered) :
    ∃ w, markReceived org actor request.id s = (.ok (), ⟨w, w⟩) ∧
      w.purchaseOrders = s.working.purchaseOrders ∧
      ∀ line, found w org line = found s.working org line := by
  let closed : ProcurementRequest := { request with status := .received }
  let w : Database := ({ s.working with
    procurementRequests := s.working.procurementRequests.save closed }).recordAuditEvent
      org actor "procurement_request.received" "ProcurementRequest" (some request.id)
  refine ⟨w, ?_, rfl, ?_⟩
  · refine Sessions.transaction_of_ok ?_
    rw [hget]
    show (ProcurementService.requireTransition request.status _ >>= _) = _
    rw [hordered]
    rfl
  · have hrows : w.procurementRequests.rows = s.working.procurementRequests.rows.map fun r =>
        if r.id = request.id then { r with status := .received } else r := by
      refine List.map_congr_left ?_
      intro r hr
      by_cases hk : r.id = request.id
      · have hsame := Table.eq_of_key_eq hr (ProcurementService.getRequest_eq_ok hget).1 hk
        rw [if_pos hk, hsame]
        exact if_pos rfl
      · rw [if_neg hk]
        exact if_neg hk
    intro line
    rw [found, found, requestOf, requestOf]
    cases line.procurementRequestId with
    | none => rfl
    | some id =>
      simp only [isOk_map]
      rw [getRequest, Table.select_of_rows_map hrows, oneOrRaise_map, isOk_map]
      · rfl
      · intro r
        split
        · rfl
        · rfl

theorem getRequest_of_requestOf {line : PurchaseOrderLine} {request : ProcurementRequest}
    (h : requestOf db org line = .ok (some request)) :
    getRequest db org request.id = .ok request := by
  rw [requestOf] at h
  cases hid : line.procurementRequestId with
  | none =>
    rw [hid] at h
    cases h
  | some id =>
    rw [hid] at h
    cases hget : getRequest db org id with
    | error e =>
      simp only [hget] at h
      cases h
    | ok r =>
      simp only [hget] at h
      cases h
      rw [(ProcurementService.getRequest_eq_ok hget).2.1, hget]

/-- What one pass of the closing loop does. -/
theorem markLine_cases (org : UUID) (line : PurchaseOrderLine) (s : Session Database) :
    (found s.working org line = false ∧ ∃ e, markLine org actor line s = (.error e, s)) ∨
    (found s.working org line = true ∧ isOrdered s.working org line = false ∧
      markLine org actor line s = (.ok (), s)) ∨
    (found s.working org line = true ∧ isOrdered s.working org line = true ∧
      ∃ w, markLine org actor line s = (.ok (), ⟨w, w⟩) ∧
        w.purchaseOrders = s.working.purchaseOrders ∧
        ∀ line, found w org line = found s.working org line) := by
  cases hreq : requestOf s.working org line with
  | error e =>
    refine Or.inl ⟨by rw [found, hreq]; rfl, e, ?_⟩
    exact bind_of_error (Sessions.query_of hreq)
  | ok request =>
    have hfound : found s.working org line = true := by
      rw [found, hreq]
      rfl
    rw [markLine, bind_of_ok (Sessions.query_of hreq), isOrdered, hreq]
    cases request with
    | none => exact Or.inr (Or.inl ⟨hfound, rfl, rfl⟩)
    | some request =>
      by_cases hordered : request.status = .ordered
      · refine Or.inr (Or.inr ⟨hfound, by simp [hordered], ?_⟩)
        simp only [if_pos hordered]
        exact markReceived_of_ordered actor (getRequest_of_requestOf hreq) hordered
      · refine Or.inr (Or.inl ⟨hfound, by simp [hordered], ?_⟩)
        simp only [if_neg hordered]
        rfl

theorem each_markLine_isOk (lines : List PurchaseOrderLine) :
    ∀ s : Session Database, (∀ line, found s.working org line = found db org line) →
      (each (markLine org actor) lines s).1.isOk = lines.all (found db org) := by
  induction lines with
  | nil =>
    intro s _
    rfl
  | cons line lines ih =>
    intro s hkeep
    rw [each, List.all_cons]
    rcases markLine_cases actor org line s with
      ⟨hfound, e, hrun⟩ | ⟨hfound, _, hrun⟩ | ⟨hfound, _, w, hrun, _, hw⟩
    · rw [bind_of_error hrun, ← hkeep line, hfound]
      rfl
    · rw [bind_of_ok hrun, ih s hkeep, ← hkeep line, hfound, Bool.true_and]
    · rw [bind_of_ok hrun, ih ⟨w, w⟩ (fun l => (hw l).trans (hkeep l)), ← hkeep line, hfound,
        Bool.true_and]

theorem each_markLine_unmarked (lines : List PurchaseOrderLine)
    (h : ∀ line ∈ lines.takeWhile (found s.working org), isOrdered s.working org line = false) :
    (each (markLine org actor) lines s).2.committed = s.committed := by
  induction lines with
  | nil => rfl
  | cons line lines ih =>
    rw [each]
    rcases markLine_cases actor org line s with
      ⟨_, e, hrun⟩ | ⟨hfound, _, hrun⟩ | ⟨hfound, hordered, _⟩
    · rw [bind_of_error hrun]
    · rw [List.takeWhile_cons_of_pos hfound] at h
      rw [bind_of_ok hrun]
      exact ih fun l hl => h l (List.mem_cons_of_mem _ hl)
    · rw [List.takeWhile_cons_of_pos hfound] at h
      rw [h line List.mem_cons_self] at hordered
      cases hordered

theorem keeps_markLine (orders : Table PurchaseOrder) (line : PurchaseOrderLine) :
    Sessions.Keeps (fun w : Database => w.purchaseOrders = orders) (markLine org actor line) := by
  intro s hc hw
  rcases markLine_cases actor org line s with
    ⟨_, e, hrun⟩ | ⟨_, _, hrun⟩ | ⟨_, _, w, hrun, horders, _⟩
  · rw [hrun]
    exact ⟨hc, fun _ he => (nomatch he)⟩
  · rw [hrun]
    exact ⟨hc, fun _ _ => hw⟩
  · rw [hrun]
    exact ⟨horders.trans hw, fun _ _ => horders.trans hw⟩

theorem each_markLine_marked (lines : List PurchaseOrderLine)
    (h : ∃ line ∈ lines.takeWhile (found s.working org), isOrdered s.working org line = true) :
    (each (markLine org actor) lines s).2.committed.purchaseOrders
      = s.working.purchaseOrders := by
  induction lines with
  | nil =>
    obtain ⟨_, hline, _⟩ := h
    cases hline
  | cons line lines ih =>
    obtain ⟨l, hl, hlo⟩ := h
    rw [each]
    rcases markLine_cases actor org line s with
      ⟨hfound, _⟩ | ⟨hfound, hordered, hrun⟩ | ⟨_, _, w, hrun, horders, _⟩
    · rw [List.takeWhile_cons_of_neg (by simp [hfound])] at hl
      cases hl
    · rw [List.takeWhile_cons_of_pos hfound] at hl
      rw [bind_of_ok hrun]
      rcases List.mem_cons.1 hl with rfl | hl
      · rw [hordered] at hlo
        cases hlo
      · exact ih ⟨l, hl, hlo⟩
    · rw [bind_of_ok hrun]
      exact (Sessions.Keeps.each (keeps_markLine actor s.working.purchaseOrders) lines ⟨w, w⟩ horders
        horders).1

end Closing

/-! ## All or nothing -/

/-- Orders, lines, stock, ledger and material requirements are as they were. -/
structure Unchanged (db db' : Database) : Prop where
  orders : db'.purchaseOrders = db.purchaseOrders
  lines : db'.purchaseOrderLines = db.purchaseOrderLines
  parts : db'.parts = db.parts
  ledger : db'.inventoryTransactions = db.inventoryTransactions
  requirements : db'.partRequirements = db.partRequirements

/-- The requests of an order that the receipts complete can all be read, or nothing has been
committed before the first that cannot. -/
def Closes (db : Database) (org poId : UUID) (earlier : List Item) : Prop :=
  let lines := (linesOf db poId).map (taken earlier)
  allFulfilled lines = true →
    lines.all (found db org) = true ∨
    (NonePosted db org poId earlier ∧
      ∀ line ∈ lines.takeWhile (found db org), isOrdered db org line = false)

/-- The first receipt that is refused comes before any is posted; if none is refused, the
order closes. -/
def RefusedInTime (db : Database) (org poId : UUID) : List Item → List Item → Prop
  | earlier, [] => Closes db org poId earlier
  | earlier, item :: rest =>
    (Accepted db org poId earlier item ∧ RefusedInTime db org poId (earlier ++ [item]) rest) ∨
    (¬Accepted db org poId earlier item ∧ NonePosted db org poId earlier)

theorem Reached.unchanged_iff (h : Reached db org poId earlier s) :
    Unchanged db s.committed ↔ NonePosted db org poId earlier := by
  constructor
  · intro hsame
    by_contra hposted
    have hlen := h.posted hposted
    rw [hsame.ledger] at hlen
    exact lt_irrefl _ hlen
  · intro hnone
    rw [h.committed hnone]
    exact ⟨rfl, rfl, rfl, rfl, rfl⟩

theorem statusOf_eq_received {lines : List PurchaseOrderLine} {status : PurchaseOrderStatus}
    (h : isReceivable status = true) :
    statusOf lines status = .received ↔ allFulfilled lines = true := by
  rw [statusOf]
  by_cases hall : allFulfilled lines = true
  · rw [if_pos hall]
    exact iff_of_true rfl hall
  · rw [if_neg hall]
    refine iff_of_false ?_ hall
    split
    · exact fun hne => (nomatch hne)
    · rintro rfl
      cases h

/-- All or nothing, for the outcome of a call. -/
def AllOrNothing (db : Database) (outcome : Except Error Unit × Session Database) : Prop :=
  ∀ e, outcome.1 = .error e → Unchanged db outcome.2.committed

theorem allOrNothing_ok {u : Unit} : AllOrNothing db (.ok u, s) := fun _ h => (nomatch h)

theorem allOrNothing_error {e : Error} :
    AllOrNothing db (.error e, s) ↔ Unchanged db s.committed :=
  ⟨fun h => h e rfl, fun h _ _ => h⟩

section Outcome

variable {actor : Option UUID} {notes : Option String}

variable {po : PurchaseOrder}

theorem save_received_ne (hpo : po ∈ db.purchaseOrders.rows)
    (hrec : isReceivable po.status = true) :
    db.purchaseOrders.save { po with status := .received } ≠ db.purchaseOrders := by
  intro heq
  have hmem : { po with status := .received } ∈ db.purchaseOrders.rows := by
    rw [← heq]
    exact Table.mem_save.2 (Or.inr ⟨rfl, po, hpo, rfl⟩)
  have hsame : { po with status := .received } = po := Table.eq_of_key_eq hmem hpo rfl
  rw [← hsame] at hrec
  cases hrec

theorem closing_failed_iff {s' s'' : Session Database} {lines : List PurchaseOrderLine} {e : Error}
    (h : Reached db org po.id earlier s) (hpo : po ∈ db.purchaseOrders.rows)
    (hrec : isReceivable po.status = true) (hcommitted : s'.committed = s.committed)
    (horders : s'.working.purchaseOrders = db.purchaseOrders.save { po with status := .received })
    (hfound : found s'.working org = found db org)
    (hordered : isOrdered s'.working org = isOrdered db org)
    (hrun : each (markLine org actor) lines s' = (.error e, s'')) :
    Unchanged db s''.committed ↔ NonePosted db org po.id earlier ∧
      ∀ line ∈ lines.takeWhile (found db org), isOrdered db org line = false := by
  -- the first request that is closed commits the status of the order
  by_cases hmark : ∃ line ∈ lines.takeWhile (found db org), isOrdered db org line = true
  · have hwritten := each_markLine_marked actor (s := s') lines
      (by rw [hfound, hordered]; exact hmark)
    rw [hrun, horders] at hwritten
    refine iff_of_false ?_ ?_
    · intro hsame
      exact save_received_ne hpo hrec (hwritten.symm.trans hsame.orders)
    · rintro ⟨_, hno⟩
      obtain ⟨line, hline, hyes⟩ := hmark
      rw [hno line hline] at hyes
      cases hyes
  · have hno : ∀ line ∈ lines.takeWhile (found db org), isOrdered db org line = false := by
      intro line hline
      by_contra hyes
      exact hmark ⟨line, hline, by simpa using hyes⟩
    have hkept := each_markLine_unmarked actor (s := s') lines
      (by rw [hfound, hordered]; exact hno)
    rw [hrun] at hkept
    rw [hkept.trans hcommitted, h.unchanged_iff]
    exact ⟨fun hnone => ⟨hnone, hno⟩, And.left⟩

theorem finish_iff (h : Reached db org po.id earlier s) (hpo : po ∈ db.purchaseOrders.rows)
    (hrec : isReceivable po.status = true) :
    AllOrNothing db (finish org actor po s) ↔ Closes db org po.id earlier := by
  let status := statusOf (linesOf s.working po.id) po.status
  let w : Database :=
    { s.working with purchaseOrders := s.working.purchaseOrders.save { po with status } }
  let s' : Session Database := ⟨s.committed,
    w.recordAuditEvent org actor "purchase_order.received" "PurchaseOrder" (some po.id)⟩
  have hlines : linesOf s.working po.id = (linesOf db po.id).map (taken earlier) :=
    Table.select_of_rows_map h.lines fun _ => rfl
  have hwrite : writeStatus org actor po s = (.ok (), s') := rfl
  have hread : (query fun w => .ok (linesOf w po.id) : Call Database Error _) s'
      = (.ok ((linesOf db po.id).map (taken earlier)), s') :=
    Sessions.query_of (congrArg Except.ok hlines)
  rw [finish, bind_of_ok hwrite, bind_of_ok hread, Closes, closeRequests]
  generalize hl : (linesOf db po.id).map (taken earlier) = lines at hlines ⊢
  -- only a received order closes its requests
  by_cases hall : allFulfilled lines = true
  · have hstatus := (statusOf_eq_received hrec).2 hall
    rw [if_pos hstatus]
    -- the closing loop reads the requests of the start: no receipt writes one
    have hrequest : requestOf s'.working org = requestOf db org := by
      funext line
      exact h.requestOf line
    have hfound : found s'.working org = found db org := by
      funext line
      rw [found, found, hrequest]
    have hordered : isOrdered s'.working org = isOrdered db org := by
      funext line
      rw [isOrdered, isOrdered, hrequest]
    have horders : s'.working.purchaseOrders
        = db.purchaseOrders.save { po with status := .received } := by
      have hreceived : status = .received := by
        show statusOf (linesOf s.working po.id) po.status = _
        rw [hlines, hstatus]
      show s.working.purchaseOrders.save { po with status } = _
      rw [h.orders, hreceived]
    have hcommitted : s'.committed = s.committed := rfl
    have hisOk := each_markLine_isOk actor lines s' (fun l => congrFun hfound l)
    cases hrun : each (markLine org actor) lines s' with
    | mk answer s'' =>
      rw [hrun] at hisOk
      cases answer with
      | ok u =>
        rw [bind_of_ok hrun]
        exact iff_of_true allOrNothing_ok fun _ => Or.inl hisOk.symm
      | error e =>
        have hmissing : ¬lines.all (found db org) = true := by
          rw [← hisOk]
          exact fun h => (nomatch h)
        rw [bind_of_error hrun, allOrNothing_error,
          closing_failed_iff h hpo hrec hcommitted horders hfound hordered hrun]
        exact ⟨fun hnone _ => Or.inr hnone,
          fun hcloses => (hcloses hall).resolve_left hmissing⟩
  · rw [if_neg (fun hstatus => hall ((statusOf_eq_received hrec).1 hstatus))]
    exact iff_of_true allOrNothing_ok (fun h => absurd h hall)

theorem receipts_iff (hpo : po ∈ db.purchaseOrders.rows) (hrec : isReceivable po.status = true)
    (items : List Item) :
    ∀ (earlier : List Item) (s : Session Database), Reached db org po.id earlier s →
      (AllOrNothing db ((each (receiveLine org actor po.id notes) items >>= fun _ =>
          finish org actor po) s) ↔ RefusedInTime db org po.id earlier items) := by
  induction items with
  | nil =>
    intro earlier s h
    exact finish_iff h hpo hrec
  | cons item items ih =>
    intro earlier s h
    rw [each, bind_assoc, RefusedInTime]
    by_cases hacc : Accepted db org po.id earlier item
    · obtain ⟨s', hrun, hnext⟩ := receiveLine_of_accepted actor notes h hacc
      rw [bind_of_ok hrun, ih (earlier ++ [item]) s' hnext]
      simp [hacc]
    · obtain ⟨e, s', hrun, hsame⟩ :=
        receiveLine_of_refused actor notes h hacc
      rw [bind_of_error hrun, allOrNothing_error, hsame, h.unchanged_iff]
      simp [hacc]

end Outcome

theorem getReceivable_eq_ok {po : PurchaseOrder} (h : getReceivable db org poId = .ok po) :
    po ∈ db.purchaseOrders.rows ∧ po.id = poId ∧ isReceivable po.status = true := by
  obtain ⟨found, hget, h⟩ := bind_eq_ok.1 h
  obtain ⟨_, hrec, h⟩ := bind_eq_ok.1 h
  rw [pure_eq_ok] at h
  subst h
  obtain ⟨hmem, hid, _⟩ := PurchaseOrderService.getPurchaseOrder_eq_ok hget
  exact ⟨hmem, hid, by simpa using raiseIf_eq_ok.1 hrec⟩

/-- An order of five pieces of a part and of five screws that no request asked for. -/
def deliveryDatabase : Database where
  parts := .single { id := 1, organizationId := 1, partNumber := "V-1", description := "Valve" }
  procurementRequests := .single { id := 1, organizationId := 1, partId := some 1, status := .ordered }
  purchaseOrders := .single { id := 1, organizationId := 1, status := .sent }
  purchaseOrderLines := ⟨[
    { id := 1, organizationId := 1, purchaseOrderId := 1, procurementRequestId := some 1, quantity := 5 },
    { id := 2, organizationId := 1, purchaseOrderId := 1, quantity := 5 }], by decide⟩

def fiveValves : ReceiveLineRequest := { lineId := 1, quantity := 5 }

/-- The receipt of the screws is refused: only five are expected. -/
def oneTooMany : ReceivePurchaseOrderRequest where
  lines := [fiveValves, { lineId := 2, quantity := 6 }]

end ReceivingService
end AeroComply
