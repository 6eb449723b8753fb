import AeroComply.Services.ProcurementRuns

/-!
# OrderAtomicity — a purchase order is created, or it is not

`create_purchase_order` checks every line before it writes, and flushes the order with its lines.
The loop that follows marks the requests of the lines, and each mark commits: the first commit
takes the order with it.  A request that two lines name is no longer APPROVED when its turn comes
again, so the call raises over an order that is there to stay.
-/

namespace AeroComply

open Relational (Table)
open Sessions (Call answer left)

namespace PurchaseOrderService

open ProcurementService (getRequest)
open ProcurementRuns (untilRepeat placeOrder_eq_ok checkLinked_eq_ok createPurchaseOrder_of_placed
  createPurchaseOrder_of_refused hangarDatabase splitOrder)

/-- **NOTHING IS LEFT BEHIND**: no order and no line that was not there, and every request has the
status that it had. -/
structure Untouched (db db' : Database) : Prop where
  orders : ∀ po ∈ db'.purchaseOrders.rows, po ∈ db.purchaseOrders.rows
  lines : ∀ l ∈ db'.purchaseOrderLines.rows, l ∈ db.purchaseOrderLines.rows
  requests : ∀ r ∈ db.procurementRequests.rows,
    ∃ r' ∈ db'.procurementRequests.rows, r'.id = r.id ∧ r'.status = r.status

theorem Untouched.refl (db : Database) : Untouched db db :=
  ⟨fun _ h => h, fun _ h => h, fun r h => ⟨r, h, rfl, rfl⟩⟩

/-- A call that raises leaves nothing behind. -/
def AllOrNothing (call : Call Database Error Unit) (db : Database) : Prop :=
  ∀ err, answer call db = .error err → Untouched db (left call db)

section Order

variable (newId : UUID) (newLineId : Nat → UUID) (org : UUID) (actor : Option UUID)
  (payload : PurchaseOrderCreateRequest) (db : Database)

/-- The order passes the checks that are made before it is flushed: vendor and aircraft are the
tenant's, the requests of the lines are the tenant's and APPROVED, the columns hold the values,
and the new identifiers are free. -/
structure Placeable : Prop where
  vendor : ∃ vendor, VendorService.getVendor db org payload.vendorId = .ok vendor
  aircraft : ∀ aircraftId, payload.aircraftId = some aircraftId →
    ∃ aircraft, db.getAircraft org aircraftId = .ok aircraft
  approved : ∀ requestId ∈ payload.requestIds,
    ∃ request, getRequest db org requestId = .ok request ∧ request.status = .approved
  columns : columnsFit
    (newOrder newId org actor none payload (newLines newId newLineId org payload.lines))
    (newLines newId newLineId org payload.lines) = true
  orderId : newId ∉ db.purchaseOrders.rows.map PurchaseOrder.id
  lineIds : (db.purchaseOrderLines.rows.map PurchaseOrderLine.id ++
    (newLines newId newLineId org payload.lines).map PurchaseOrderLine.id).Nodup

variable {newId newLineId org actor payload db}

theorem checkLinked_of_approved {requestIds : List UUID}
    (h : ∀ requestId ∈ requestIds,
      ∃ request, getRequest db org requestId = .ok request ∧ request.status = .approved) :
    checkLinked db org requestIds = .ok () := by
  induction requestIds with
  | nil => rfl
  | cons requestId requestIds ih =>
    obtain ⟨⟨request, hget, happroved⟩, hrest⟩ := List.forall_mem_cons.1 h
    rw [checkLinked, hget, ok_bind, happroved]
    exact ih hrest

theorem placeOrder_isOk_iff :
    (∃ placed, placeOrder newId newLineId org actor payload db = .ok placed) ↔
      Placeable newId newLineId org actor payload db := by
  constructor
  · rintro ⟨placed, h⟩
    obtain ⟨vendor, hvendor, h⟩ := bind_eq_ok.1 h
    obtain ⟨assetId, hasset, h⟩ := bind_eq_ok.1 h
    obtain ⟨_, hlinked, h⟩ := bind_eq_ok.1 h
    obtain ⟨_, hcolumns, h⟩ := bind_eq_ok.1 h
    obtain ⟨orders, horders, h⟩ := bind_eq_ok.1 h
    obtain ⟨lines, hlines, h⟩ := bind_eq_ok.1 h
    refine ⟨⟨vendor, hvendor⟩, ?_, checkLinked_eq_ok hlinked, ?_, ?_, ?_⟩
    · intro aircraftId hgiven
      rw [hgiven] at hasset
      obtain ⟨aircraft, hget, -⟩ := bind_eq_ok.1 hasset
      exact ⟨aircraft, hget⟩
    · exact eq_true_of_ne_false (raiseIf_eq_ok.1 hcolumns)
    · exact (Table.insert?_eq_some (addRowOrRaise_eq_ok.1 horders)).1
    · have hrows := rows_of_foldlM_addRow hlines
      have hnodup := lines.nodup
      rw [hrows, List.map_append] at hnodup
      exact hnodup
  · intro h
    obtain ⟨vendor, hvendor⟩ := h.vendor
    obtain ⟨assetId, hasset⟩ : ∃ assetId, assetOf db org payload.aircraftId = .ok assetId := by
      cases hgiven : payload.aircraftId with
      | none => exact ⟨none, rfl⟩
      | some aircraftId =>
        obtain ⟨aircraft, hget⟩ := h.aircraft aircraftId hgiven
        refine ⟨aircraft.assetId, ?_⟩
        rw [assetOf, hget]
        rfl
    let lines := newLines newId newLineId org payload.lines
    let po := newOrder newId org actor assetId payload lines
    obtain ⟨orders, horders⟩ : ∃ orders, addRow db.purchaseOrders po = .ok orders := by
      cases hinsert : db.purchaseOrders.insert? po with
      | some orders => exact ⟨orders, addRowOrRaise_eq_ok.2 hinsert⟩
      | none =>
        obtain ⟨old, hold, hkey⟩ := Table.insert?_eq_none.1 hinsert
        exact absurd (List.mem_map.2 ⟨old, hold, hkey⟩) h.orderId
    obtain ⟨orderLines, hlines⟩ := exists_foldlM_addRow h.lineIds
    have hcolumns : columnsFit po lines = true := h.columns
    refine ⟨{ db with purchaseOrders := orders, purchaseOrderLines := orderLines }, ?_⟩
    rw [placeOrder, hvendor, ok_bind, hasset, ok_bind, checkLinked_of_approved h.approved, ok_bind]
    dsimp only
    rw [hcolumns, horders]
    rw [hlines]
    rfl

theorem untilRepeat_eq_iff (ids : List UUID) : ∀ done : List UUID,
    untilRepeat done ids = ids ↔ ids.Nodup ∧ ∀ id ∈ ids, id ∉ done := by
  induction ids with
  | nil => exact fun _ => iff_of_true rfl ⟨List.nodup_nil, fun _ h => (nomatch h)⟩
  | cons id ids ih =>
    intro done
    rw [untilRepeat, List.nodup_cons, List.forall_mem_cons]
    by_cases hdone : id ∈ done
    · rw [if_pos hdone]
      exact iff_of_false (List.cons_ne_nil _ _).symm fun h => h.2.1 hdone
    · rw [if_neg hdone, List.cons_inj_right, ih]
      constructor
      · rintro ⟨hnodup, hnew⟩
        refine ⟨⟨fun hmem => ?_, hnodup⟩, hdone, fun other ho hmem => ?_⟩
        · exact hnew id hmem (List.mem_append_right _ (List.mem_singleton_self _))
        · exact hnew other ho (List.mem_append_left _ hmem)
      · rintro ⟨⟨hnotMem, hnodup⟩, -, hnew⟩
        refine ⟨hnodup, fun other ho hmem => ?_⟩
        rcases List.mem_append.1 hmem with hmem | hmem
        · exact hnew other ho hmem
        · exact hnotMem (List.mem_singleton.1 hmem ▸ ho)

/-- **ALL OR NOTHING, EXACTLY**: whatever the lines and the state of the requests, a call that
raises leaves nothing behind if and only if no two lines name one request, or the order does not
pass the checks. -/
theorem createPurchaseOrder_allOrNothing_iff (newId : UUID) (newLineId : Nat → UUID) (org : UUID)
    (actor : Option UUID) (payload : PurchaseOrderCreateRequest) (db : Database) :
    AllOrNothing (createPurchaseOrder newId newLineId org actor payload) db ↔
      payload.requestIds.Nodup ∨ ¬Placeable newId newLineId org actor payload db := by
  rw [← placeOrder_isOk_iff]
  cases h : placeOrder newId newLineId org actor payload db with
  | error e =>
    refine iff_of_true ?_ (Or.inr fun ⟨_, hok⟩ => (nomatch hok))
    intro err _
    rw [createPurchaseOrder_of_refused h]
    exact Untouched.refl db
  | ok placed =>
    obtain ⟨hmarked, hanswer⟩ := createPurchaseOrder_of_placed h
    rw [untilRepeat_eq_iff] at hanswer
    by_cases hnodup : payload.requestIds.Nodup
    · refine iff_of_true ?_ (Or.inl hnodup)
      intro err herr
      rw [hanswer.2 ⟨hnodup, fun _ _ => List.not_mem_nil⟩] at herr
      cases herr
    · refine iff_of_false ?_ fun hor => hor.elim hnodup fun hnot => hnot ⟨placed, rfl⟩
      -- the call raises, and the order has been committed
      intro hall
      cases hraise : answer (createPurchaseOrder newId newLineId org actor payload) db with
      | ok _ => exact hnodup (hanswer.1 hraise).1
      | error err =>
        have hplaced := placeOrder_eq_ok h
        obtain ⟨po, hid, -, hrows⟩ := hplaced.order
        have hthere : po ∈ placed.purchaseOrders.rows := by
          rw [hrows]
          exact List.mem_append_right _ (List.mem_singleton_self po)
        have hold := (hall err hraise).orders po (hmarked.orders ▸ hthere)
        exact hplaced.fresh (List.mem_map.2 ⟨po, hold, hid⟩)

end Order

/-! ## A request on two lines -/

def approvedValves : Database :=
  { hangarDatabase with
    procurementRequests := .single { id := 1, organizationId := 1, status := .approved } }

/-- **RAISED, AND CREATED**: the call raises, and the order and the mark on the request stay. -/
theorem splitOrder_left_behind :
    ¬AllOrNothing (createPurchaseOrder 1 id 1 (some 1) splitOrder) approvedValves := by
  intro hall
  have hraise : answer (createPurchaseOrder 1 id 1 (some 1) splitOrder) approvedValves =
      .error (.conflict "Cannot transition procurement request from ORDERED to ORDERED"
        "invalid_transition") := by
    rfl
  have hcount : (left (createPurchaseOrder 1 id 1 (some 1) splitOrder)
      approvedValves).purchaseOrders.rows.length = 1 := by
    rfl
  have hnone := (hall _ hraise).orders
  cases hrows : (left (createPurchaseOrder 1 id 1 (some 1) splitOrder)
      approvedValves).purchaseOrders.rows with
  | nil =>
    rw [hrows] at hcount
    cases hcount
  | cons po _ =>
    have hmem := hnone po (hrows ▸ List.mem_cons_self)
    cases hmem

end PurchaseOrderService
end AeroComply
