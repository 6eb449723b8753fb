import AeroComply.Lib.Holders
import AeroComply.Services.Receiving

/-!
# ProcurementRuns — requests that are ordered, and the orders they are on

Histories of requests, approvals, orders and deliveries.  A request is ORDERED from
the moment an order is created for it until a delivery closes it; nothing else takes
the status away, the cancellation of the order included.

`orderedOnce_along_iff` says which histories keep every ordered request on exactly one
order in force.
-/

namespace AeroComply

open Relational (Keyed Table)
open Sessions (Call Keeps Session query update each answer left bind_of_ok bind_of_error)

namespace ProcurementRuns

open ProcurementService PurchaseOrderService ReceivingService

/-- A call, with the identifiers of the rows it adds. -/
inductive ProcurementCall
  | createRequest (newId organizationId : UUID) (actorUserId : Option UUID)
      (payload : ProcurementRequestCreateRequest)
  | approveRequest (organizationId : UUID) (actorUserId : Option UUID) (requestId : UUID)
      (selectedVendorId : Option UUID)
  | createPurchaseOrder (newId : UUID) (newLineId : Nat → UUID) (organizationId : UUID)
      (actorUserId : Option UUID) (payload : PurchaseOrderCreateRequest)
  | submitForApproval (organizationId : UUID) (actorUserId : Option UUID) (poId : UUID)
  | approvePurchaseOrder (organizationId : UUID) (actorUserId : Option UUID) (poId : UUID)
  | sendPurchaseOrder (organizationId : UUID) (actorUserId : Option UUID) (poId : UUID)
  | acknowledgePurchaseOrder (organizationId : UUID) (actorUserId : Option UUID) (poId : UUID)
      (expectedDelivery : Option Date)
  | cancelPurchaseOrder (organizationId : UUID) (actorUserId : Option UUID) (poId : UUID)
  | receivePurchaseOrder (newId : Nat → UUID) (organizationId : UUID) (actorUserId : Option UUID)
      (poId : UUID) (payload : ReceivePurchaseOrderRequest)

def call : ProcurementCall → Call Database Error Unit
  | .createRequest newId org actor payload => createRequest newId org actor payload
  | .approveRequest org actor requestId vendorId => approveRequest org actor requestId vendorId
  | .createPurchaseOrder newId newLineId org actor payload =>
    createPurchaseOrder newId newLineId org actor payload
  | .submitForApproval org actor poId => submitForApproval org actor poId
  | .approvePurchaseOrder org actor poId => approvePurchaseOrder org actor poId
  | .sendPurchaseOrder org actor poId => sendPurchaseOrder org actor poId
  | .acknowledgePurchaseOrder org actor poId day => acknowledgePurchaseOrder org actor poId day
  | .cancelPurchaseOrder org actor poId => cancelPurchaseOrder org actor poId
  | .receivePurchaseOrder newId org actor poId payload =>
    receivePurchaseOrder newId org actor poId payload

/-- The orders that are not cancelled and have a line for the request. -/
def liveOrdersOf (db : Database) (requestId : UUID) : List PurchaseOrder :=
  db.purchaseOrders.select fun po => po.status ≠ .cancelled &&
    (linesOf db po.id).any fun l => l.procurementRequestId = some requestId

/-- Every ordered request is on exactly one order that is not cancelled. -/
def OrderedOnce (db : Database) : Prop :=
  ∀ r ∈ db.procurementRequests.rows, r.status = .ordered → (liveOrdersOf db r.id).length = 1

/-- `purchase_order_lines.purchase_order_id` references an order. -/
def LinesOwned (db : Database) : Prop :=
  ∀ l ∈ db.purchaseOrderLines.rows, l.purchaseOrderId ∈ db.purchaseOrders.rows.map PurchaseOrder.id

/-- The requests that are marked one after the other: a repeated one ends the loop. -/
def untilRepeat (marked : List UUID) : List UUID → List UUID
  | [] => []
  | id :: ids => if id ∈ marked then [] else id :: untilRepeat (marked ++ [id]) ids

/-- A cancelled order has no line for an ordered request; an order that is placed marks no
request that an order in force has a line for. -/
def KeepsOrdered (db : Database) : ProcurementCall → Prop
  | .cancelPurchaseOrder org _ poId => ∀ po ∈ db.purchaseOrders.rows, po.id = poId →
      po.organizationId = org → .cancelled ∈ allowedTransitions po.status →
      ∀ l ∈ linesOf db poId, ∀ r ∈ db.procurementRequests.rows,
        l.procurementRequestId = some r.id → r.status ≠ .ordered
  | .createPurchaseOrder newId newLineId org actor payload =>
      (placeOrder newId newLineId org actor payload db).isOk = true →
      ∀ requestId ∈ untilRepeat [] payload.requestIds, liveOrdersOf db requestId = []
  | _ => True

instance (db : Database) (c : ProcurementCall) : Decidable (KeepsOrdered db c) :=
  match c with
  | .cancelPurchaseOrder .. => inferInstanceAs (Decidable (∀ po ∈ _, _ → _ → _ → ∀ l ∈ _, ∀ r ∈ _, _ → ¬_))
  | .createPurchaseOrder .. => inferInstanceAs (Decidable (_ → ∀ requestId ∈ _, liveOrdersOf _ _ = []))
  | .createRequest .. | .approveRequest .. | .submitForApproval .. | .approvePurchaseOrder ..
  | .sendPurchaseOrder .. | .acknowledgePurchaseOrder .. | .receivePurchaseOrder .. =>
    inferInstanceAs (Decidable True)

/-! ## The register of orders and requests -/

/-- The orders in force, the requests on the lines of each, and the requests that are ordered. -/
def register (db : Database) : Holders.Register UUID UUID where
  live := {o | ∃ po ∈ db.purchaseOrders.rows, po.id = o ∧ po.status ≠ .cancelled}
  carries o := {i | ∃ l ∈ db.purchaseOrderLines.rows,
    l.purchaseOrderId = o ∧ l.procurementRequestId = some i}
  claimed := {i | ∃ r ∈ db.procurementRequests.rows, r.id = i ∧ r.status = .ordered}

section Register

variable {db db' : Database} {requestId : UUID}

theorem mem_liveOrdersOf {po : PurchaseOrder} :
    po ∈ liveOrdersOf db requestId ↔ po ∈ db.purchaseOrders.rows ∧ po.status ≠ .cancelled ∧
      requestId ∈ (register db).carries po.id := by
  rw [liveOrdersOf, Table.mem_select]
  simp [register, linesOf, Table.select]

theorem liveOrdersOf_eq_nil :
    liveOrdersOf db requestId = [] ↔
      ∀ o ∈ (register db).live, requestId ∉ (register db).carries o := by
  rw [List.eq_nil_iff_forall_not_mem]
  constructor
  · rintro h o ⟨po, hpo, rfl, hlive⟩ hcarried
    exact h po (mem_liveOrdersOf.2 ⟨hpo, hlive, hcarried⟩)
  · intro h po hpo
    obtain ⟨hmem, hlive, hcarried⟩ := mem_liveOrdersOf.1 hpo
    exact h po.id ⟨po, hmem, rfl, hlive⟩ hcarried

theorem orderedOnce_iff : OrderedOnce db ↔ (register db).Exclusive := by
  have hone : ∀ requestId, (liveOrdersOf db requestId).length = 1 ↔
      ∃! o, o ∈ (register db).live ∧ requestId ∈ (register db).carries o := by
    intro requestId
    rw [liveOrdersOf, Table.length_select_eq_one]
    refine existsUnique_congr fun o => ?_
    constructor
    · rintro ⟨po, hpo, hp, rfl⟩
      obtain ⟨_, hlive, hcarried⟩ := mem_liveOrdersOf.1 (Table.mem_select.2 ⟨hpo, hp⟩)
      exact ⟨⟨po, hpo, rfl, hlive⟩, hcarried⟩
    · rintro ⟨⟨po, hpo, rfl, hlive⟩, hcarried⟩
      have hfound := mem_liveOrdersOf.2 ⟨hpo, hlive, hcarried⟩
      exact ⟨po, hpo, (Table.mem_select.1 hfound).2, rfl⟩
  constructor
  · rintro h i ⟨r, hr, rfl, hordered⟩
    exact (hone r.id).1 (h r hr hordered)
  · intro h r hr hordered
    exact (hone r.id).2 (h r.id ⟨r, hr, rfl, hordered⟩)

end Register

/-! ## Calls that the register does not notice -/

/-- What the register shows of an order, and of a line. -/
def orderLink (po : PurchaseOrder) : UUID × Bool := (po.id, decide (po.status = .cancelled))

def lineLink (l : PurchaseOrderLine) : UUID × UUID × Option UUID :=
  (l.id, l.purchaseOrderId, l.procurementRequestId)

/-- The orders in force and the lines are the same; no request has become ordered. -/
structure Follows (db db' : Database) : Prop where
  orders : db'.purchaseOrders.rows.map orderLink = db.purchaseOrders.rows.map orderLink
  lines : db'.purchaseOrderLines.rows.map lineLink = db.purchaseOrderLines.rows.map lineLink
  claimed : (register db').claimed ⊆ (register db).claimed

section Follows

variable {db db' db'' : Database}

theorem Follows.refl (db : Database) : Follows db db := ⟨rfl, rfl, fun _ h => h⟩

theorem Follows.trans (h : Follows db db') (h' : Follows db' db'') : Follows db db'' :=
  ⟨h'.orders.trans h.orders, h'.lines.trans h.lines, h'.claimed.trans h.claimed⟩

theorem exists_of_map_eq {α β : Type} {f : α → β} {l l' : List α} (h : l'.map f = l.map f) {a : α}
    (ha : a ∈ l) : ∃ a' ∈ l', f a' = f a := by
  rw [← List.mem_map, h]
  exact List.mem_map_of_mem ha

theorem Follows.live (h : Follows db db') : (register db').live = (register db).live := by
  have hsub : ∀ {d d' : Database},
      d'.purchaseOrders.rows.map orderLink = d.purchaseOrders.rows.map orderLink →
      (register d).live ⊆ (register d').live := by
    rintro d d' hsame _ ⟨po, hpo, rfl, hlive⟩
    obtain ⟨po', hpo', hlink⟩ := exists_of_map_eq hsame hpo
    obtain ⟨hid, hstatus⟩ := Prod.mk.inj hlink
    exact ⟨po', hpo', hid, fun hc => hlive ((decide_eq_decide.1 hstatus).1 hc)⟩
  exact Set.Subset.antisymm (hsub h.orders.symm) (hsub h.orders)

theorem Follows.carries (h : Follows db db') :
    (register db').carries = (register db).carries := by
  have hsub : ∀ {d d' : Database},
      d'.purchaseOrderLines.rows.map lineLink = d.purchaseOrderLines.rows.map lineLink →
      ∀ o, (register d).carries o ⊆ (register d').carries o := by
    rintro d d' hsame o i ⟨l, hl, rfl, hi⟩
    obtain ⟨l', hl', hlink⟩ := exists_of_map_eq hsame hl
    obtain ⟨_, hlink⟩ := Prod.mk.inj hlink
    obtain ⟨howner, hrequest⟩ := Prod.mk.inj hlink
    exact ⟨l', hl', howner, hrequest.trans hi⟩
  funext o
  exact Set.Subset.antisymm (hsub h.lines.symm o) (hsub h.lines o)

theorem Follows.orderedOnce (h : Follows db db') (hdb : OrderedOnce db) : OrderedOnce db' := by
  rw [orderedOnce_iff] at hdb ⊢
  exact hdb.of_claimed_subset h.live h.carries h.claimed

theorem Follows.linesOwned (h : Follows db db') (hdb : LinesOwned db) : LinesOwned db' := by
  intro l' hl'
  obtain ⟨l, hl, hlink⟩ := exists_of_map_eq h.lines.symm hl'
  obtain ⟨_, hlink⟩ := Prod.mk.inj hlink
  obtain ⟨po, hpo, hid⟩ := List.mem_map.1 (hdb l hl)
  obtain ⟨po', hpo', hlink'⟩ := exists_of_map_eq h.orders hpo
  refine List.mem_map.2 ⟨po', hpo', ?_⟩
  rw [(Prod.mk.inj hlink').1, hid, (Prod.mk.inj hlink).1]

theorem Follows.of_sameOrders (h : InventoryTransactionService.SameOrders db db') :
    Follows db db' := by
  refine ⟨by rw [h.orders], by rw [h.lines], ?_⟩
  intro i hi
  rw [register, h.requests] at hi
  exact hi

theorem eq_of_shown {α γ : Type} [Keyed α UUID] {t : Table α} {f : α → UUID × γ}
    (hf : ∀ x, (f x).1 = Keyed.key x) {y z : UUID × γ} (hy : y ∈ t.rows.map f)
    (hz : z ∈ t.rows.map f) (hkey : y.1 = z.1) : y = z := by
  obtain ⟨a, ha, rfl⟩ := List.mem_map.1 hy
  obtain ⟨b, hb, rfl⟩ := List.mem_map.1 hz
  rw [hf, hf] at hkey
  rw [Table.eq_of_key_eq ha hb hkey]

theorem Follows.save_order (h : Follows db db') {new : PurchaseOrder}
    (hnew : orderLink new ∈ db.purchaseOrders.rows.map orderLink) :
    Follows db { db' with purchaseOrders := db'.purchaseOrders.save new } := by
  refine ⟨(Table.map_save ?_).trans h.orders, h.lines, h.claimed⟩
  intro x hx hkey
  have hshown : orderLink x ∈ db.purchaseOrders.rows.map orderLink := by
    rw [← h.orders]
    exact List.mem_map_of_mem hx
  exact eq_of_shown (fun _ => rfl) hshown hnew hkey

theorem Follows.save_line (h : Follows db db') {new : PurchaseOrderLine}
    (hnew : lineLink new ∈ db.purchaseOrderLines.rows.map lineLink) :
    Follows db { db' with purchaseOrderLines := db'.purchaseOrderLines.save new } := by
  refine ⟨h.orders, (Table.map_save ?_).trans h.lines, h.claimed⟩
  intro x hx hkey
  have hshown : lineLink x ∈ db.purchaseOrderLines.rows.map lineLink := by
    rw [← h.lines]
    exact List.mem_map_of_mem hx
  exact eq_of_shown (fun _ => rfl) hshown hnew hkey

theorem Follows.save_request (h : Follows db db') {new : ProcurementRequest}
    (hnew : new.status ≠ .ordered) :
    Follows db { db' with procurementRequests := db'.procurementRequests.save new } := by
  refine ⟨h.orders, h.lines, ?_⟩
  rintro i ⟨r, hr, rfl, hordered⟩
  rcases Table.mem_save.1 hr with ⟨hr, _⟩ | ⟨rfl, _⟩
  · exact h.claimed ⟨r, hr, rfl, hordered⟩
  · exact absurd hordered hnew

end Follows

/-! ## Requests, and orders that stay in force -/

section Moves

variable {db db' : Database}

variable {actor : Option UUID} {action : String} {org : UUID}

theorem transitionRequest_follows {request : ProcurementRequest}
    {target : ProcurementRequestStatus} (htarget : target ≠ .ordered)
    (h : transitionRequest db org actor request target action = .ok db') : Follows db db' := by
  obtain ⟨_, _, h⟩ := bind_eq_ok.1 h
  rw [pure_eq_ok] at h
  subst h
  have hsaved : Follows db { db with
      procurementRequests := db.procurementRequests.save { request with status := target } } :=
    (Follows.refl db).save_request htarget
  exact hsaved.trans (.of_sameOrders ⟨rfl, rfl, rfl⟩)

theorem createRequest_follows (newId org : UUID) (actor : Option UUID)
    (payload : ProcurementRequestCreateRequest) :
    Follows db (left (createRequest newId org actor payload) db) := by
  refine Sessions.left_transaction_of (Follows.refl db) ?_
  intro db' h
  obtain ⟨aircraft, _, h⟩ := bind_eq_ok.1 h
  obtain ⟨_, _, h⟩ := bind_eq_ok.1 h
  obtain ⟨_, _, h⟩ := bind_eq_ok.1 h
  obtain ⟨_, _, h⟩ := bind_eq_ok.1 h
  obtain ⟨_, _, h⟩ := bind_eq_ok.1 h
  obtain ⟨_, _, h⟩ := bind_eq_ok.1 h
  obtain ⟨requests, hadd, h⟩ := bind_eq_ok.1 h
  rw [pure_eq_ok] at h
  subst h
  refine ⟨rfl, rfl, ?_⟩
  rintro i ⟨r, hr, rfl, hordered⟩
  rcases (Table.mem_insert? (addRowOrRaise_eq_ok.1 hadd)).1 hr with hr | rfl
  · exact ⟨r, hr, rfl, hordered⟩
  · -- a new request is SUBMITTED
    cases hordered

theorem approveRequest_follows (org : UUID) (actor : Option UUID) (requestId : UUID)
    (vendorId : Option UUID) : Follows db (left (approveRequest org actor requestId vendorId) db) := by
  refine Sessions.left_transaction_of (Follows.refl db) ?_
  intro db' h
  obtain ⟨_, _, h⟩ := bind_eq_ok.1 h
  obtain ⟨_, _, h⟩ := bind_eq_ok.1 h
  obtain ⟨_, _, h⟩ := bind_eq_ok.1 h
  exact transitionRequest_follows (by decide) h

theorem ne_cancelled_of_allowed {s t : PurchaseOrderStatus} (h : t ∈ allowedTransitions s) :
    s ≠ .cancelled := by
  rintro rfl
  cases h

variable {extra : PurchaseOrder → PurchaseOrder} {target : PurchaseOrderStatus} {poId : UUID}

theorem moveOrder_eq_ok (hid : ∀ po, (extra po).id = po.id)
    (hstatus : ∀ po, (extra po).status = po.status)
    (h : (do
      let po ← getPurchaseOrder db org poId
      transitionOrder db org actor (extra po) target action) = .ok db') :
    ∃ po ∈ db.purchaseOrders.rows, ∃ new : PurchaseOrder, po.id = poId ∧ po.organizationId = org ∧
      target ∈ allowedTransitions po.status ∧ new.id = po.id ∧ new.status = target ∧
      db'.purchaseOrders = db.purchaseOrders.save new ∧
      db'.purchaseOrderLines = db.purchaseOrderLines ∧
      db'.procurementRequests = db.procurementRequests := by
  obtain ⟨po, hget, h⟩ := bind_eq_ok.1 h
  obtain ⟨_, hallowed, h⟩ := bind_eq_ok.1 h
  rw [pure_eq_ok] at h
  subst h
  obtain ⟨hmem, hpoId, horg⟩ := getPurchaseOrder_eq_ok hget
  have hallowed : target ∈ allowedTransitions (extra po).status := by
    simpa using raiseIf_eq_ok.1 hallowed
  rw [hstatus] at hallowed
  exact ⟨po, hmem, { extra po with status := target }, hpoId, horg, hallowed, hid po, rfl, rfl, rfl,
    rfl⟩

theorem moveOrder_follows (hid : ∀ po, (extra po).id = po.id)
    (hstatus : ∀ po, (extra po).status = po.status) (htarget : target ≠ .cancelled) :
    Follows db (left (moveOrder org actor poId extra target action) db) := by
  refine Sessions.left_transaction_of (Follows.refl db) ?_
  intro db' h
  obtain ⟨po, hmem, new, _, _, hallowed, hnewId, hnewStatus, horders, hlines, hrequests⟩ :=
    moveOrder_eq_ok hid hstatus h
  have hlink : orderLink new = orderLink po := by
    rw [orderLink, orderLink, hnewId, hnewStatus, decide_eq_false htarget,
      decide_eq_false (ne_cancelled_of_allowed hallowed)]
  have hshown : orderLink new ∈ db.purchaseOrders.rows.map orderLink := by
    rw [hlink]
    exact List.mem_map_of_mem hmem
  exact ((Follows.refl db).save_order hshown).trans (.of_sameOrders ⟨horders, hlines, hrequests⟩)

end Moves

/-! ## Deliveries -/

section Delivery

variable {db : Database} (org : UUID) (actor : Option UUID)

theorem keeps_fulfillFromReceipt {P : Database → Prop}
    (hP : ∀ w w', P w → InventoryTransactionService.SameOrders w w' → P w') (partId : UUID)
    (workOrderId taskId : Option UUID) (quantity : Int) :
    Keeps P (PartRequirementService.fulfillFromReceipt org partId workOrderId taskId quantity) := by
  cases workOrderId with
  | none => exact Keeps.pure ()
  | some workOrderId =>
    rw [PartRequirementService.fulfillFromReceipt]
    split
    · exact Keeps.pure ()
    · refine Keeps.transaction ?_
      intro w w' hw h
      dsimp only at h
      split at h
      · rw [pure_eq_ok] at h
        subst h
        exact hw
      · obtain ⟨_, _, h⟩ := bind_eq_ok.1 h
        rw [pure_eq_ok] at h
        subst h
        exact hP w _ hw ⟨rfl, rfl, rfl⟩

theorem keeps_postReceipt (newId : UUID) (notes : Option String) (receipt : ReceiveLineRequest)
    (line : PurchaseOrderLine) :
    Keeps (Follows db) (postReceipt newId org actor notes receipt line) := by
  have hstock : ∀ w w' : Database, Follows db w →
      InventoryTransactionService.SameOrders w w' → Follows db w' :=
    fun w w' hw hsame => hw.trans (.of_sameOrders hsame)
  refine (Keeps.query _).bind fun request => ?_
  cases request with
  | none => exact Keeps.pure ()
  | some request =>
    cases hpart : request.partId with
    | none =>
      simp only [hpart]
      exact Keeps.pure ()
    | some partId =>
      simp only [hpart]
      refine Keeps.bind ?_ fun _ => ?_
      · -- the movement, and the recomputation after it
        refine (Keeps.update ?_).bind fun _ => Keeps.commit.bind fun _ => Keeps.transaction ?_
        · intro w w' hw h
          obtain ⟨_, _, h⟩ := bind_eq_ok.1 h
          obtain ⟨_, _, h⟩ := bind_eq_ok.1 h
          obtain ⟨_, _, h⟩ := bind_eq_ok.1 h
          obtain ⟨_, _, h⟩ := bind_eq_ok.1 h
          rw [pure_eq_ok] at h
          subst h
          exact hstock w _ hw ⟨rfl, rfl, rfl⟩
        · intro w w' hw h
          obtain ⟨_, _, h⟩ := bind_eq_ok.1 h
          rw [pure_eq_ok] at h
          subst h
          exact hstock w _ hw ⟨rfl, rfl, rfl⟩
      · exact keeps_fulfillFromReceipt org hstock partId _ _ _

theorem keeps_receiveLine (poId : UUID) (notes : Option String) (item : Item) :
    Keeps (Follows db) (receiveLine org actor poId notes item) := by
  refine Keeps.query_bind ?_
  intro w line hw hcheck
  -- the line that was read is one of the order, and stays it
  obtain ⟨found, hline, hcheck⟩ := bind_eq_ok.1 hcheck
  obtain ⟨_, _, hcheck⟩ := bind_eq_ok.1 hcheck
  rw [pure_eq_ok] at hcheck
  subst hcheck
  have hshown : lineLink found ∈ db.purchaseOrderLines.rows.map lineLink := by
    rw [← hw.lines]
    exact List.mem_map_of_mem (lineOf_eq_ok hline).1
  refine (Keeps.update ?_).bind fun _ => keeps_postReceipt org actor _ notes _ _
  intro w' w'' hw' h
  cases h
  exact hw'.save_line hshown

theorem keeps_markReceived (requestId : UUID) :
    Keeps (Follows db) (markReceived org actor requestId) := by
  refine Keeps.transaction ?_
  intro w w' hw h
  obtain ⟨_, _, h⟩ := bind_eq_ok.1 h
  exact hw.trans (transitionRequest_follows (by decide) h)

theorem keeps_closeRequests (po : PurchaseOrder) (lines : List PurchaseOrderLine) :
    Keeps (Follows db) (closeRequests org actor po lines) := by
  rw [closeRequests]
  split
  · refine Keeps.each (fun line => (Keeps.query _).bind fun request => ?_) lines
    cases request with
    | none => exact Keeps.pure ()
    | some request =>
      show Keeps _ (if request.status = .ordered then _ else _)
      split
      · exact keeps_markReceived org actor request.id
      · exact Keeps.pure ()
  · exact Keeps.pure ()

theorem statusOf_ne_cancelled {lines : List PurchaseOrderLine} {status : PurchaseOrderStatus}
    (h : isReceivable status = true) : statusOf lines status ≠ .cancelled := by
  rw [statusOf]
  split
  · intro he
    cases he
  · split
    · intro he
      cases he
    · rintro rfl
      cases h

theorem keeps_receivePurchaseOrder (newId : Nat → UUID) (poId : UUID)
    (payload : ReceivePurchaseOrderRequest) :
    Keeps (Follows db) (receivePurchaseOrder newId org actor poId payload) := by
  refine Keeps.query_bind ?_
  intro w po hw hget
  obtain ⟨hmem, _, hrec⟩ := getReceivable_eq_ok hget
  have hlive : po.status ≠ .cancelled := by
    intro hc
    rw [hc] at hrec
    cases hrec
  refine Keeps.bind (Keeps.each (fun item => keeps_receiveLine org actor poId _ item) _) fun _ => ?_
  refine Keeps.bind (Keeps.update ?_) fun _ => (Keeps.query _).bind fun lines =>
    (keeps_closeRequests org actor po lines).bind fun _ => Keeps.commit
  intro w' w'' hw' h
  cases h
  -- the order is written with a status of an order in force
  let new := { po with status := statusOf (linesOf w' po.id) po.status }
  have hlink : orderLink new = orderLink po := by
    rw [orderLink, orderLink, decide_eq_false hlive, decide_eq_false (statusOf_ne_cancelled hrec)]
  have hshown : orderLink new ∈ db.purchaseOrders.rows.map orderLink := by
    rw [hlink, ← hw.orders]
    exact List.mem_map_of_mem hmem
  exact (hw'.save_order hshown).trans (.of_sameOrders ⟨rfl, rfl, rfl⟩)

end Delivery

/-! ## Cancellations -/

section Cancellation

variable {db : Database}

/-- A cancellation that goes through retires the order, and nothing else. -/
theorem cancelPurchaseOrder_cases (db : Database) (org : UUID) (actor : Option UUID) (poId : UUID) :
    (left (cancelPurchaseOrder org actor poId) db = db ∧
      ∀ po ∈ db.purchaseOrders.rows, po.id = poId → po.organizationId = org →
        .cancelled ∉ allowedTransitions po.status) ∨
    ((∃ po ∈ db.purchaseOrders.rows, po.id = poId ∧ po.organizationId = org ∧
        .cancelled ∈ allowedTransitions po.status) ∧
      register (left (cancelPurchaseOrder org actor poId) db) = (register db).retire poId ∧
      (LinesOwned db → LinesOwned (left (cancelPurchaseOrder org actor poId) db))) := by
  rw [cancelPurchaseOrder, moveOrder, Sessions.left_transaction, Runs.attempt]
  cases h : (do
      let po ← getPurchaseOrder db org poId
      transitionOrder db org actor (id po) .cancelled "purchase_order.cancelled") with
  | error e =>
    refine Or.inl ⟨rfl, ?_⟩
    intro po hpo hid horg hallowed
    -- the order would have been found and moved
    have hget : getPurchaseOrder db org poId = .ok po := by
      refine oneOrRaise_of_key hpo (by simp [hid, horg]) ?_
      intro x _ hx
      simp only [Bool.and_eq_true, decide_eq_true_eq] at hx
      exact hx.1.trans hid.symm
    have hok : requireTransition po.status .cancelled = .ok () :=
      raiseIf_eq_ok.2 (not_not.2 hallowed)
    rw [hget] at h
    have hmoved := h
    rw [ok_bind, transitionOrder, id, hok] at hmoved
    cases hmoved
  | ok db' =>
    obtain ⟨po, hmem, new, hid, horg, hallowed, hnewId, hnewStatus, horders, hlines, hrequests⟩ :=
      moveOrder_eq_ok (fun _ => rfl) (fun _ => rfl) h
    refine Or.inr ⟨⟨po, hmem, hid, horg, hallowed⟩, ?_, ?_⟩
    · rw [Holders.Register.ext_iff]
      refine ⟨?_, by rw [register, hlines]; rfl, by rw [register, hrequests]; rfl⟩
      ext o
      show (∃ x ∈ db'.purchaseOrders.rows, _) ↔ (∃ x ∈ db.purchaseOrders.rows, _) ∧ o ≠ poId
      rw [horders]
      constructor
      · rintro ⟨x, hx, rfl, hlive⟩
        rcases (Table.mem_save_of_mem hmem hnewId.symm).1 hx with ⟨hx, hne⟩ | rfl
        · exact ⟨⟨x, hx, rfl, hlive⟩, fun he => hne (he.trans (hid.symm.trans hnewId.symm))⟩
        · exact absurd hnewStatus hlive
      · rintro ⟨⟨x, hx, rfl, hlive⟩, hne⟩
        refine ⟨x, (Table.mem_save_of_mem hmem hnewId.symm).2 (Or.inl ⟨hx, ?_⟩), rfl, hlive⟩
        exact fun he => hne (he.trans (hnewId.trans hid))
    · intro howned l hl
      rw [hlines] at hl
      obtain ⟨x, hx, hxid⟩ := List.mem_map.1 (howned l hl)
      rw [horders]
      rcases Table.kept_or_replaced hmem hnewId.symm hx with hkept | ⟨rfl, hnew⟩
      · exact List.mem_map.2 ⟨x, hkept, hxid⟩
      · exact List.mem_map.2 ⟨new, hnew, hnewId.trans hxid⟩

theorem cancelPurchaseOrder_iff (hdb : OrderedOnce db) (org : UUID) (actor : Option UUID)
    (poId : UUID) :
    OrderedOnce (left (cancelPurchaseOrder org actor poId) db) ↔
      KeepsOrdered db (.cancelPurchaseOrder org actor poId) := by
  rcases cancelPurchaseOrder_cases db org actor poId with
    ⟨hsame, hrefused⟩ | ⟨⟨po, hpo, hid, horg, hallowed⟩, hretired, _⟩
  · rw [hsame]
    exact iff_of_true hdb fun po hpo hid horg hallowed =>
      absurd hallowed (hrefused po hpo hid horg)
  · have hlive : poId ∈ (register db).live := ⟨po, hpo, hid, ne_cancelled_of_allowed hallowed⟩
    rw [orderedOnce_iff, hretired,
      Holders.Register.exclusive_retire_iff (orderedOnce_iff.1 hdb) hlive]
    constructor
    · intro hfree po' hpo' hid' _ _ l hl r hr hlr hordered
      obtain ⟨hl, howner⟩ := Table.mem_select.1 hl
      exact hfree r.id ⟨r, hr, rfl, hordered⟩ ⟨l, hl, by simpa using howner, hlr⟩
    · rintro hkeeps i ⟨r, hr, rfl, hordered⟩ ⟨l, hl, howner, hlr⟩
      exact hkeeps po hpo hid horg hallowed l
        (Table.mem_select.2 ⟨hl, by simpa using howner⟩) r hr hlr hordered

end Cancellation

/-! ## New orders -/

section NewOrder

variable {db placed : Database} {newId org : UUID} {newLineId : Nat → UUID}
  {actor : Option UUID} {payload : PurchaseOrderCreateRequest}

variable {done : List UUID} {r : ProcurementRequest} {ids : List UUID} {w : Database}

theorem checkLinked_eq_ok {u : Unit} (h : checkLinked db org ids = .ok u) :
    ∀ id ∈ ids, ∃ r, getRequest db org id = .ok r ∧ r.status = .approved := by
  induction ids with
  | nil =>
    intro id hid
    cases hid
  | cons id ids ih =>
    obtain ⟨r, hget, h⟩ := bind_eq_ok.1 h
    obtain ⟨_, happroved, h⟩ := bind_eq_ok.1 h
    intro id' hid'
    rcases List.mem_cons.1 hid' with rfl | hid'
    · exact ⟨r, hget, not_not.1 (raiseIf_eq_ok.1 happroved)⟩
    · exact ih h id' hid'

theorem requestIds_newLines (lines : List PurchaseOrderLineCreateRequest) :
    (newLines newId newLineId org lines).map PurchaseOrderLine.procurementRequestId
      = lines.map PurchaseOrderLineCreateRequest.procurementRequestId := by
  rw [newLines, List.map_map]
  conv_rhs => rw [← List.zipIdx_map_fst 0 lines, List.map_map]
  rfl

/-- An order that is placed: its row, its lines, and the approved requests that they name. -/
structure Placed (db placed : Database) (newId org : UUID) (ids : List UUID) : Prop where
  fresh : newId ∉ db.purchaseOrders.rows.map PurchaseOrder.id
  order : ∃ po : PurchaseOrder, po.id = newId ∧ po.status = .draft ∧
    placed.purchaseOrders.rows = db.purchaseOrders.rows ++ [po]
  lines : ∃ lines : List PurchaseOrderLine, (∀ l ∈ lines, l.purchaseOrderId = newId) ∧
    (∀ i, some i ∈ lines.map PurchaseOrderLine.procurementRequestId ↔ i ∈ ids) ∧
    placed.purchaseOrderLines.rows = db.purchaseOrderLines.rows ++ lines
  requests : placed.procurementRequests = db.procurementRequests
  approved : ∀ id ∈ ids, ∃ r, getRequest db org id = .ok r ∧ r.status = .approved

theorem placeOrder_eq_ok (h : placeOrder newId newLineId org actor payload db = .ok placed) :
    Placed db placed newId org payload.requestIds := by
  obtain ⟨_, _, h⟩ := bind_eq_ok.1 h
  obtain ⟨assetId, _, h⟩ := bind_eq_ok.1 h
  obtain ⟨_, hlinked, h⟩ := bind_eq_ok.1 h
  obtain ⟨_, _, h⟩ := bind_eq_ok.1 h
  obtain ⟨orders, horders, h⟩ := bind_eq_ok.1 h
  obtain ⟨lines, hlines, h⟩ := bind_eq_ok.1 h
  rw [pure_eq_ok] at h
  subst h
  obtain ⟨hfresh, hrows⟩ := Table.insert?_eq_some (addRowOrRaise_eq_ok.1 horders)
  refine ⟨hfresh, ⟨_, rfl, rfl, hrows⟩, ⟨_, ?_, ?_, rows_of_foldlM_addRow hlines⟩, rfl,
    checkLinked_eq_ok hlinked⟩
  · intro l hl
    obtain ⟨_, _, rfl⟩ := List.mem_map.1 hl
    rfl
  · intro i
    rw [requestIds_newLines, PurchaseOrderCreateRequest.requestIds, List.mem_filterMap,
      List.mem_map]

/-- A request after the ones of `done` have been marked. -/
def markedIn (done : List UUID) (r : ProcurementRequest) : ProcurementRequest :=
  if r.id ∈ done then { r with status := .ordered } else r

theorem markedIn_of_mem (h : r.id ∈ done) :
    markedIn done r = { r with status := .ordered } := if_pos h

theorem markedIn_of_not_mem (h : r.id ∉ done) :
    markedIn done r = r := if_neg h

@[simp] theorem markedIn_id (done : List UUID) (r : ProcurementRequest) :
    (markedIn done r).id = r.id := by
  rw [markedIn]
  split
  · rfl
  · rfl

/-- The requests of `done` are ordered, the rest of the three tables is as it was placed. -/
structure Marked (placed : Database) (done : List UUID) (w : Database) : Prop where
  orders : w.purchaseOrders = placed.purchaseOrders
  lines : w.purchaseOrderLines = placed.purchaseOrderLines
  requests : w.procurementRequests.rows = placed.procurementRequests.rows.map (markedIn done)

@[simp] theorem markedIn_organizationId (done : List UUID) (r : ProcurementRequest) :
    (markedIn done r).organizationId = r.organizationId := by
  rw [markedIn]
  split
  · rfl
  · rfl

theorem Marked.getRequest (h : Marked placed done w) (id : UUID) :
    getRequest w org id = (getRequest placed org id).map (markedIn done) := by
  rw [ProcurementService.getRequest, ProcurementService.getRequest, ← oneOrRaise_map]
  congr 1
  exact Table.select_of_rows_map h.requests fun r => by simp

/-- One pass of the loop: a request is marked once, and refused the second time. -/
theorem markOrdered_of_marked (actor : Option UUID) {s : Session Database} {id : UUID}
    (h : Marked placed done s.working) (hget : getRequest placed org id = .ok r)
    (happroved : r.status = .approved) :
    (id ∉ done ∧ ∃ w, markOrdered org actor id s = (.ok (), ⟨w, w⟩) ∧
      Marked placed (done ++ [id]) w) ∨
    (id ∈ done ∧ ∃ e, markOrdered org actor id s = (.error e, s)) := by
  obtain ⟨hmem, hid, _⟩ := getRequest_eq_ok hget
  have hread : getRequest s.working org id = .ok (markedIn done r) := by
    rw [h.getRequest, hget]
    rfl
  subst hid
  by_cases hdone : r.id ∈ done
  · rw [markedIn_of_mem hdone] at hread
    obtain ⟨e, hrefused⟩ : ∃ e, requireTransition .ordered .ordered = .error e := ⟨_, rfl⟩
    refine Or.inr ⟨hdone, e, Sessions.transaction_of_error ?_⟩
    rw [hread, ok_bind, transitionRequest, hrefused]
    rfl
  · rw [markedIn_of_not_mem hdone] at hread
    let marked : ProcurementRequest := { r with status := .ordered }
    let w : Database := ({ s.working with
      procurementRequests := s.working.procurementRequests.save marked }).recordAuditEvent org actor
        "procurement_request.ordered" "ProcurementRequest" (some r.id)
    have hallowed : requireTransition r.status .ordered = .ok () := by
      rw [happroved]
      rfl
    have hrun : markOrdered org actor r.id s = (.ok (), ⟨w, w⟩) := by
      refine Sessions.transaction_of_ok ?_
      rw [hread, ok_bind, transitionRequest, hallowed]
      rfl
    refine Or.inl ⟨hdone, w, hrun, h.orders, h.lines, ?_⟩
    show (s.working.procurementRequests.save marked).rows = _
    rw [Table.rows_save_of_rows_map h.requests (markedIn_id done)]
    refine List.map_congr_left ?_
    intro x hx
    show (if x.id = r.id then marked else markedIn done x) = markedIn (done ++ [r.id]) x
    by_cases hkey : x.id = r.id
    · have hxr : x = r := Table.eq_of_key_eq hx hmem hkey
      rw [if_pos hkey, markedIn_of_mem (by simp [hkey]), hxr]
    · rw [if_neg hkey, markedIn, markedIn]
      simp [hkey]

theorem each_markOrdered (actor : Option UUID) (ids : List UUID) :
    ∀ (done : List UUID) (s : Session Database), Marked placed done s.working →
      (done = [] ∨ s.committed = s.working) →
      (∀ id ∈ ids, ∃ r, getRequest placed org id = .ok r ∧ r.status = .approved) →
      ∃ w, Marked placed (done ++ untilRepeat done ids) w ∧
        ((untilRepeat done ids = ids ∧ ∃ c, each (markOrdered org actor) ids s = (.ok (), ⟨c, w⟩)) ∨
          untilRepeat done ids ≠ ids ∧
            ∃ e, each (markOrdered org actor) ids s = (.error e, ⟨w, w⟩)) := by
  induction ids with
  | nil =>
    intro done s h _ _
    refine ⟨s.working, ?_, Or.inl ⟨rfl, s.committed, rfl⟩⟩
    rw [untilRepeat, List.append_nil]
    exact h
  | cons id ids ih =>
    intro done s h hcommitted happroved
    obtain ⟨r, hget, hr⟩ := happroved id List.mem_cons_self
    rw [untilRepeat, each]
    rcases markOrdered_of_marked actor h hget hr with
      ⟨hdone, w, hrun, hmarked⟩ | ⟨hdone, e, hrun⟩
    · rw [if_neg hdone, bind_of_ok hrun, List.append_cons, Ne,
        List.cons_inj_right]
      exact ih (done ++ [id]) ⟨w, w⟩ hmarked (Or.inr rfl) fun id' hid' =>
        happroved id' (List.mem_cons_of_mem _ hid')
    · -- something was marked, so it has been committed
      obtain ⟨committed, working⟩ := s
      have hsame : committed = working := hcommitted.resolve_left (List.ne_nil_of_mem hdone)
      subst hsame
      rw [if_pos hdone, List.append_nil, bind_of_error hrun]
      exact ⟨committed, h, Or.inr ⟨(List.cons_ne_nil _ _).symm, e, rfl⟩⟩

theorem createPurchaseOrder_of_placed
    (h : placeOrder newId newLineId org actor payload db = .ok placed) :
    Marked placed (untilRepeat [] payload.requestIds)
        (left (createPurchaseOrder newId newLineId org actor payload) db) ∧
      (answer (createPurchaseOrder newId newLineId org actor payload) db = .ok () ↔
        untilRepeat [] payload.requestIds = payload.requestIds) := by
  have hplaced := placeOrder_eq_ok h
  have hstart : Marked placed [] placed := ⟨rfl, rfl, (List.map_id _).symm⟩
  have happroved : ∀ id ∈ payload.requestIds,
      ∃ r, getRequest placed org id = .ok r ∧ r.status = .approved := by
    intro id hid
    have hsame : getRequest placed org id = getRequest db org id := by
      rw [getRequest, getRequest, hplaced.requests]
    rw [hsame]
    exact hplaced.approved id hid
  obtain ⟨w, hmarked, hrun⟩ := each_markOrdered actor payload.requestIds []
    ⟨db, placed⟩ hstart (Or.inl rfl) happroved
  have hplace : update (placeOrder newId newLineId org actor payload) (⟨db, db⟩ : Session Database)
      = (.ok (), ⟨db, placed⟩) := Sessions.update_of_ok h
  rw [left, answer, createPurchaseOrder, bind_of_ok hplace]
  rcases hrun with ⟨hall, c, hrun⟩ | ⟨hrepeat, e, hrun⟩
  · rw [bind_of_ok hrun]
    exact ⟨⟨hmarked.orders, hmarked.lines, hmarked.requests⟩, iff_of_true rfl hall⟩
  · rw [bind_of_error hrun]
    refine ⟨hmarked, iff_of_false ?_ hrepeat⟩
    intro h
    cases h

theorem mem_of_mem_untilRepeat :
    ∀ {done : List UUID} {id : UUID}, id ∈ untilRepeat done ids → id ∈ ids := by
  induction ids with
  | nil =>
    intro done id h
    cases h
  | cons id' ids ih =>
    intro done id h
    rw [untilRepeat] at h
    split at h
    · cases h
    · rcases List.mem_cons.1 h with rfl | h
      · exact List.mem_cons_self
      · exact List.mem_cons_of_mem _ (ih h)

theorem register_of_placed (h : Placed db placed newId org ids)
    (hw : Marked placed (untilRepeat [] ids) w) :
    register w = (register db).opened newId {i | i ∈ ids} {i | i ∈ untilRepeat [] ids} := by
  obtain ⟨po, hpoId, hdraft, horders⟩ := h.order
  obtain ⟨lines, howner, hnamed, hlines⟩ := h.lines
  rw [Holders.Register.ext_iff]
  refine ⟨?_, ?_, ?_⟩
  · ext o
    show (∃ x ∈ w.purchaseOrders.rows, _) ↔ o = newId ∨ ∃ x ∈ db.purchaseOrders.rows, _
    rw [hw.orders, horders]
    constructor
    · rintro ⟨x, hx, rfl, hlive⟩
      rcases List.mem_append.1 hx with hx | hx
      · exact Or.inr ⟨x, hx, rfl, hlive⟩
      · rw [List.mem_singleton.1 hx]
        exact Or.inl hpoId
    · rintro (rfl | ⟨x, hx, rfl, hlive⟩)
      · exact ⟨po, List.mem_append_right _ (List.mem_singleton_self po), hpoId, by rw [hdraft]; decide⟩
      · exact ⟨x, List.mem_append_left _ hx, rfl, hlive⟩
  · funext o
    ext i
    show (∃ l ∈ w.purchaseOrderLines.rows, _) ↔
      (∃ l ∈ db.purchaseOrderLines.rows, _) ∨ (o = newId ∧ i ∈ ids)
    rw [hw.lines, hlines, ← hnamed i, List.mem_map]
    constructor
    · rintro ⟨l, hl, rfl, hi⟩
      rcases List.mem_append.1 hl with hl | hl
      · exact Or.inl ⟨l, hl, rfl, hi⟩
      · exact Or.inr ⟨howner l hl, l, hl, hi⟩
    · rintro (⟨l, hl, rfl, hi⟩ | ⟨rfl, l, hl, hi⟩)
      · exact ⟨l, List.mem_append_left _ hl, rfl, hi⟩
      · exact ⟨l, List.mem_append_right _ hl, howner l hl, hi⟩
  · ext i
    show (∃ r ∈ w.procurementRequests.rows, _) ↔
      (∃ r ∈ db.procurementRequests.rows, _) ∨ i ∈ untilRepeat [] ids
    rw [hw.requests, h.requests]
    constructor
    · rintro ⟨r', hr', rfl, hordered⟩
      obtain ⟨r, hr, rfl⟩ := List.mem_map.1 hr'
      by_cases hmarked : r.id ∈ untilRepeat [] ids
      · exact Or.inr ((markedIn_id _ r).symm ▸ hmarked)
      · rw [markedIn_of_not_mem hmarked] at hordered ⊢
        exact Or.inl ⟨r, hr, rfl, hordered⟩
    · rintro (⟨r, hr, rfl, hordered⟩ | hmarked)
      · refine ⟨markedIn _ r, List.mem_map_of_mem hr, markedIn_id _ r, ?_⟩
        rw [markedIn]
        split
        · rfl
        · exact hordered
      · obtain ⟨r, hget, _⟩ := h.approved i (mem_of_mem_untilRepeat hmarked)
        obtain ⟨hr, rfl, _⟩ := getRequest_eq_ok hget
        refine ⟨markedIn _ r, List.mem_map_of_mem hr, markedIn_id _ r, ?_⟩
        rw [markedIn_of_mem hmarked]

theorem createPurchaseOrder_of_refused {e : Error}
    (h : placeOrder newId newLineId org actor payload db = .error e) :
    left (createPurchaseOrder newId newLineId org actor payload) db = db := by
  rw [left, createPurchaseOrder, bind_of_error (Sessions.update_of_error h)]

theorem linesOwned_of_placed {ids done : List UUID} (h : Placed db placed newId org ids)
    (hw : Marked placed done w) (hdb : LinesOwned db) :
    LinesOwned w := by
  obtain ⟨po, hpoId, _, horders⟩ := h.order
  obtain ⟨lines, howner, _, hlines⟩ := h.lines
  intro l hl
  rw [hw.lines, hlines] at hl
  rw [hw.orders, horders, List.map_append]
  rcases List.mem_append.1 hl with hl | hl
  · exact List.mem_append_left _ (hdb l hl)
  · refine List.mem_append_right _ ?_
    rw [howner l hl, List.map_singleton, hpoId]
    exact List.mem_singleton_self newId

theorem createPurchaseOrder_iff (howned : LinesOwned db) (hdb : OrderedOnce db) (newId : UUID)
    (newLineId : Nat → UUID) (org : UUID) (actor : Option UUID)
    (payload : PurchaseOrderCreateRequest) :
    OrderedOnce (left (createPurchaseOrder newId newLineId org actor payload) db) ↔
      KeepsOrdered db (.createPurchaseOrder newId newLineId org actor payload) := by
  show _ ↔ ((placeOrder newId newLineId org actor payload db).isOk = true → _)
  cases h : placeOrder newId newLineId org actor payload db with
  | error e =>
    rw [createPurchaseOrder_of_refused h]
    refine iff_of_true hdb fun hok => ?_
    cases hok
  | ok placed =>
    have hplaced := placeOrder_eq_ok h
    have hnew : newId ∉ (register db).live := by
      rintro ⟨po, hpo, hid, _⟩
      exact hplaced.fresh (List.mem_map.2 ⟨po, hpo, hid⟩)
    have hempty : (register db).carries newId = ∅ := by
      rw [Set.eq_empty_iff_forall_notMem]
      rintro i ⟨l, hl, howner, _⟩
      exact hplaced.fresh (howner ▸ howned l hl)
    -- the requests of the order were approved, so none of them was ordered
    have hfree : ∀ i ∈ (register db).claimed, i ∉ payload.requestIds := by
      rintro i ⟨r, hr, rfl, hordered⟩ hi
      obtain ⟨r', hget, happroved⟩ := hplaced.approved r.id hi
      obtain ⟨hr', hid, _⟩ := getRequest_eq_ok hget
      rw [Table.eq_of_key_eq hr' hr hid, hordered] at happroved
      cases happroved
    have hclaims : {i | i ∈ untilRepeat [] payload.requestIds} ⊆ {i | i ∈ payload.requestIds} :=
      fun _ hi => mem_of_mem_untilRepeat hi
    rw [orderedOnce_iff, register_of_placed hplaced (createPurchaseOrder_of_placed h).1,
      Holders.Register.exclusive_opened_iff (orderedOnce_iff.1 hdb) hnew hempty hclaims hfree]
    constructor
    · intro hfree _ requestId hmarked
      exact liveOrdersOf_eq_nil.2 (hfree requestId hmarked)
    · intro hnone requestId hmarked
      exact liveOrdersOf_eq_nil.1 (hnone rfl requestId hmarked)

end NewOrder

/-! ## Histories -/

section Histories

variable {db : Database}

theorem follows_or (db : Database) (c : ProcurementCall) :
    Follows db (left (call c) db) ∨
      (∃ newId newLineId org actor payload,
        c = .createPurchaseOrder newId newLineId org actor payload) ∨
      ∃ org actor poId, c = .cancelPurchaseOrder org actor poId := by
  cases c with
  | createRequest newId org actor payload =>
    exact Or.inl (createRequest_follows newId org actor payload)
  | approveRequest org actor requestId vendorId =>
    exact Or.inl (approveRequest_follows org actor requestId vendorId)
  | createPurchaseOrder newId newLineId org actor payload =>
    exact Or.inr (Or.inl ⟨newId, newLineId, org, actor, payload, rfl⟩)
  | submitForApproval org actor poId =>
    exact Or.inl (moveOrder_follows (fun _ => rfl) (fun _ => rfl) (by decide))
  | approvePurchaseOrder org actor poId =>
    exact Or.inl (moveOrder_follows (fun _ => rfl) (fun _ => rfl) (by decide))
  | sendPurchaseOrder org actor poId =>
    exact Or.inl (moveOrder_follows (fun _ => rfl) (fun _ => rfl) (by decide))
  | acknowledgePurchaseOrder org actor poId day =>
    exact Or.inl (moveOrder_follows (fun _ => rfl) (fun _ => rfl) (by decide))
  | cancelPurchaseOrder org actor poId => exact Or.inr (Or.inr ⟨org, actor, poId, rfl⟩)
  | receivePurchaseOrder newId org actor poId payload =>
    exact Or.inl ((keeps_receivePurchaseOrder org actor newId poId payload).left (Follows.refl db))

theorem call_linesOwned (hdb : LinesOwned db) (c : ProcurementCall) :
    LinesOwned (left (call c) db) := by
  rcases follows_or db c with
    hsame | ⟨newId, newLineId, org, actor, payload, rfl⟩ | ⟨org, actor, poId, rfl⟩
  · exact hsame.linesOwned hdb
  · show LinesOwned (left (createPurchaseOrder newId newLineId org actor payload) db)
    cases h : placeOrder newId newLineId org actor payload db with
    | error e =>
      rw [createPurchaseOrder_of_refused h]
      exact hdb
    | ok placed =>
      exact linesOwned_of_placed (placeOrder_eq_ok h) (createPurchaseOrder_of_placed h).1 hdb
  · show LinesOwned (left (cancelPurchaseOrder org actor poId) db)
    rcases cancelPurchaseOrder_cases db org actor poId with ⟨hsame, _⟩ | ⟨_, _, howned⟩
    · rw [hsame]
      exact hdb
    · exact howned hdb

theorem call_orderedOnce_iff (howned : LinesOwned db) (hdb : OrderedOnce db)
    (c : ProcurementCall) : OrderedOnce (left (call c) db) ↔ KeepsOrdered db c := by
  cases c with
  | createPurchaseOrder newId newLineId org actor payload =>
    exact createPurchaseOrder_iff howned hdb newId newLineId org actor payload
  | cancelPurchaseOrder org actor poId => exact cancelPurchaseOrder_iff hdb org actor poId
  | _ =>
    refine iff_of_true ?_ trivial
    rcases follows_or db _ with hsame | ⟨_, _, _, _, _, hc⟩ | ⟨_, _, _, hc⟩
    · exact hsame.orderedOnce hdb
    · cases hc
    · cases hc

/-- **ORDERED MEANS ON ORDER**: along a history every ordered request is on exactly one order
that is not cancelled, exactly when no order is cancelled that has a line for an ordered
request, and none marks a request that an order in force has a line for. -/
theorem orderedOnce_along_iff (calls : List ProcurementCall) (howned : LinesOwned db)
    (hdb : OrderedOnce db) :
    (∀ db' ∈ Runs.visited (Sessions.step call) db calls, OrderedOnce db') ↔
      Runs.StepsMeet (Sessions.step call) KeepsOrdered db calls := by
  refine Runs.forall_visited_iff (P := OrderedOnce) (fun s c hs => ?_) calls db howned hdb ?_
  · exact call_linesOwned hs c
  · intro s howned hs c _
    exact call_orderedOnce_iff howned hs c

end Histories

/-! ## An order that is delivered, and one that is cancelled -/

/-- An aircraft and a vendor. -/
def hangarDatabase : Database where
  aircraft := .single
    { id := 1, organizationId := 1, registration := "D-EABC", msn := "100", aircraftType := "C172" }
  vendors := .single { id := 1, organizationId := 1 }

instance (db : Database) : Decidable (OrderedOnce db) :=
  inferInstanceAs (Decidable (∀ r ∈ db.procurementRequests.rows, _ → _))

/-- A request for two valves, approved by someone else, and an order for it. -/
def orderedValves : List ProcurementCall :=
  [.createRequest 1 1 (some 1)
    { aircraftId := 1, partNumber := "V-1", description := "Valve", quantity := 2, reason := "Worn" },
   .approveRequest 1 (some 2) 1 (some 1),
   .createPurchaseOrder 1 id 1 (some 1)
    { poNumber := "PO-1", vendorId := 1
      lines := [{ procurementRequestId := some 1, partNumber := "V-1", description := "Valve"
                  quantity := 2 }] }]

/-- The request is on two lines of the order. -/
def splitOrder : PurchaseOrderCreateRequest where
  poNumber := "PO-1"
  vendorId := 1
  lines := [
    { procurementRequestId := some 1, partNumber := "V-1", description := "Valve", quantity := 2 },
    { procurementRequestId := some 1, partNumber := "V-1", description := "Valve", quantity := 2 }]

/-- The order goes its way; another, for no request, is cancelled. -/
def deliveredValves : List ProcurementCall :=
  orderedValves ++
  [.createPurchaseOrder 2 (· + 10) 1 (some 1)
    { poNumber := "PO-2", vendorId := 1
      lines := [{ partNumber := "S-1", description := "Screw", quantity := 100 }] },
   .cancelPurchaseOrder 1 (some 1) 2,
   .submitForApproval 1 (some 1) 1,
   .approvePurchaseOrder 1 (some 2) 1,
   .sendPurchaseOrder 1 (some 1) 1,
   .acknowledgePurchaseOrder 1 (some 1) 1 (some 20),
   .receivePurchaseOrder id 1 (some 1) 1 { lines := [{ lineId := 0, quantity := 2 }] }]

theorem deliveredValves_orderedOnce :
    Runs.StepsMeet (Sessions.step call) KeepsOrdered hangarDatabase deliveredValves ∧
      ∀ db ∈ Runs.visited (Sessions.step call) hangarDatabase deliveredValves, OrderedOnce db := by
  have hkeeps : Runs.StepsMeet (Sessions.step call) KeepsOrdered hangarDatabase deliveredValves := by
    decide
  have howned : LinesOwned hangarDatabase := fun _ h => absurd h List.not_mem_nil
  exact ⟨hkeeps, (orderedOnce_along_iff deliveredValves howned (by decide)).2 hkeeps⟩

/-- **ORDERED, AND ON NO ORDER**: the order is cancelled, and the request stays ORDERED. -/
theorem cancelledValves_not_orderedOnce :
    ¬∀ db ∈ Runs.visited (Sessions.step call) hangarDatabase
        (orderedValves ++ [.cancelPurchaseOrder 1 (some 1) 1]), OrderedOnce db := by
  decide

end ProcurementRuns
end AeroComply
