import AeroComply.Lib.Runs
import AeroComply.Lib.Settled
import AeroComply.Models.Database

/-!
# DeferredItems — deferrals, their approval and their closure

`app/services/deferred_item_service.py`.  The approval of an item is looked at when it is closed;
a partial update writes it before, and after as well.  What a history leaves of the closed items
is decided by the updates of closed items alone.
-/

namespace AeroComply

open Relational (Table)
open Relational.Settled

namespace DeferredItemService

namespace ApprovalStatus

def pending : String := "PENDING"
def approved : String := "APPROVED"
def notRequired : String := "NOT_REQUIRED"

end ApprovalStatus

/-! ## The operations -/

structure DeferredItemCreateRequest where
  aircraftId : UUID
  workOrderId : Option UUID := none
  melReference : Option String := none
  category : String := "UNKNOWN"
  description : String
  openedAt : Date
  dueAt : Option Date := none
  deferralBasis : String := "UNKNOWN"
  operationalLimitations : Option String := none
  requiredActions : Option String := none
  approvalRequired : Bool := false
  melReference_length : ∀ s ∈ melReference, s.length ≤ 64 := by decide
  category_length : category.length ≤ 16 := by decide
  description_length : 1 ≤ description.length := by decide
  deferralBasis_length : deferralBasis.length ≤ 16 := by decide

def DeferredItemCreateRequest.texts (payload : DeferredItemCreateRequest) : List String :=
  payload.melReference.toList ++ [payload.category, payload.description, payload.deferralBasis]
    ++ payload.operationalLimitations.toList ++ payload.requiredActions.toList

/-- The value of a field that is given one. -/
def given {α : Type} : Patch α → List α
  | .value a => [a]
  | .unset | .null => []

/-- `DeferredItemUpdateRequest`: whether an approval is required is not among its fields. -/
structure DeferredItemUpdateRequest where
  melReference : Patch String := .unset
  category : Patch String := .unset
  dueAt : Patch Date := .unset
  deferralBasis : Patch String := .unset
  operationalLimitations : Patch String := .unset
  requiredActions : Patch String := .unset
  approvalStatus : Patch String := .unset
  melReference_length : ∀ s ∈ given melReference, s.length ≤ 64 := by decide
  category_length : ∀ s ∈ given category, s.length ≤ 16 := by decide
  deferralBasis_length : ∀ s ∈ given deferralBasis, s.length ≤ 16 := by decide
  approvalStatus_length : ∀ s ∈ given approvalStatus, s.length ≤ 16 := by decide

namespace DeferredItemUpdateRequest

variable (payload : DeferredItemUpdateRequest)

def texts : List String :=
  [payload.melReference, payload.category, payload.deferralBasis, payload.operationalLimitations,
    payload.requiredActions, payload.approvalStatus].flatMap given

/-- `if updates`. -/
def isGiven : Bool :=
  payload.melReference.isGiven || payload.category.isGiven || payload.dueAt.isGiven
    || payload.deferralBasis.isGiven || payload.operationalLimitations.isGiven
    || payload.requiredActions.isGiven || payload.approvalStatus.isGiven

/-- The row with the fields of the payload, as the flush writes it. -/
def apply (item : DeferredItem) : Except Error DeferredItem := do
  let category ← payload.category.notNull item.category
  let deferralBasis ← payload.deferralBasis.notNull item.deferralBasis
  let approvalStatus ← payload.approvalStatus.notNull item.approvalStatus
  raiseIf (payload.texts.all storesText = false) .dataError
  pure { item with
    category, deferralBasis, approvalStatus
    melReference := payload.melReference.nullable item.melReference
    dueAt := payload.dueAt.nullable item.dueAt
    operationalLimitations := payload.operationalLimitations.nullable item.operationalLimitations
    requiredActions := payload.requiredActions.nullable item.requiredActions }

/-- The payload is one that the flush writes. -/
def isStorable : Bool :=
  payload.category ≠ .null && payload.deferralBasis ≠ .null && payload.approvalStatus ≠ .null
    && payload.texts.all storesText && (given payload.dueAt).isEmpty

end DeferredItemUpdateRequest

structure DeferredItemCloseRequest where
  closedAt : Date
  closureNotes : Option String := none

/-- `if payload.work_order_id is not None`: the work order is the tenant's. -/
def checkWorkOrder (db : Database) (organizationId : UUID) : Option UUID → Except Error Unit
  | none => .ok ()
  | some workOrderId => do
    let _ ← db.getWorkOrder organizationId workOrderId
    pure ()

/-- The row of a new item. -/
def newItem (newId organizationId : UUID) (aircraft : Aircraft)
    (payload : DeferredItemCreateRequest) : DeferredItem :=
  { id := newId, organizationId, aircraftId := payload.aircraftId, assetId := aircraft.assetId
    workOrderId := payload.workOrderId, melReference := payload.melReference
    category := payload.category, description := payload.description
    openedAt := payload.openedAt, dueAt := payload.dueAt, status := .open
    deferralBasis := payload.deferralBasis
    operationalLimitations := payload.operationalLimitations
    requiredActions := payload.requiredActions, approvalRequired := payload.approvalRequired
    approvalStatus :=
      if payload.approvalRequired then ApprovalStatus.pending else ApprovalStatus.notRequired }

def createDeferredItem (db : Database) (newId organizationId : UUID) (actorUserId : Option UUID)
    (payload : DeferredItemCreateRequest) : Except Error Database := do
  let aircraft ← db.getAircraft organizationId payload.aircraftId
  checkWorkOrder db organizationId payload.workOrderId
  raiseIf (payload.texts.all storesText = false) .dataError
  let deferredItems ← addRow db.deferredItems (newItem newId organizationId aircraft payload)
  pure (({ db with deferredItems }).recordAuditEvent organizationId actorUserId
    "deferred_item.created" "DeferredItem" (some newId))

def getDeferredItem (db : Database) (organizationId itemId : UUID) : Except Error DeferredItem :=
  oneOrRaise
    (db.deferredItems.select fun i => i.id = itemId && i.organizationId = organizationId)
    (.notFound "Deferred item not found")

/-- `update_deferred_item`: the status of the item is not looked at. -/
def updateDeferredItem (db : Database) (organizationId : UUID) (actorUserId : Option UUID)
    (itemId : UUID) (payload : DeferredItemUpdateRequest) : Except Error Database := do
  let item ← getDeferredItem db organizationId itemId
  let updated ← payload.apply item
  -- the audit event holds the given fields as JSON, and a date is not JSON
  raiseIf ((given payload.dueAt).isEmpty = false) .typeError
  let db := { db with deferredItems := db.deferredItems.save updated }
  pure (if payload.isGiven then
      db.recordAuditEvent organizationId actorUserId "deferred_item.updated" "DeferredItem"
        (some item.id)
    else db)

/-- The row of an item that is closed. -/
def closedItem (payload : DeferredItemCloseRequest) (item : DeferredItem) : DeferredItem :=
  { item with
    status := .closed, closedAt := some payload.closedAt, closureNotes := payload.closureNotes }

def closeDeferredItem (db : Database) (organizationId : UUID) (actorUserId : Option UUID)
    (itemId : UUID) (payload : DeferredItemCloseRequest) : Except Error Database := do
  let item ← getDeferredItem db organizationId itemId
  raiseIf (item.status = .closed)
    (.conflict "Deferred item is already closed" "already_closed")
  raiseIf (item.approvalRequired = true ∧ item.approvalStatus ≠ ApprovalStatus.approved)
    (.conflict "Cannot close a deferred item that requires approval until it is approved"
      "approval_required")
  raiseIf (payload.closureNotes.toList.all storesText = false) .dataError
  pure (({ db with deferredItems := db.deferredItems.save (closedItem payload item)
          }).recordAuditEvent organizationId actorUserId "deferred_item.closed" "DeferredItem"
    (some item.id))

/-! ## What they do -/

section Steps

variable {db db' : Database} {organizationId itemId : UUID} {actor : Option UUID}
  {items : Table DeferredItem}

theorem getDeferredItem_eq_ok {item : DeferredItem} :
    getDeferredItem db organizationId itemId = .ok item ↔
      item ∈ db.deferredItems.rows ∧ item.id = itemId ∧ item.organizationId = organizationId := by
  constructor
  · intro h
    simpa using mem_of_oneOrRaise h
  · rintro ⟨hmem, rfl, rfl⟩
    refine oneOrRaise_of_key hmem (by simp) ?_
    intro x _ hx
    simp only [Bool.and_eq_true, decide_eq_true_eq] at hx
    exact hx.1

/-- The row that an update which succeeds writes. -/
def updatedItem (payload : DeferredItemUpdateRequest) (item : DeferredItem) : DeferredItem :=
  { item with
    melReference := payload.melReference.nullable item.melReference
    category := payload.category.newValue item.category
    dueAt := payload.dueAt.nullable item.dueAt
    deferralBasis := payload.deferralBasis.newValue item.deferralBasis
    operationalLimitations := payload.operationalLimitations.nullable item.operationalLimitations
    requiredActions := payload.requiredActions.nullable item.requiredActions
    approvalStatus := payload.approvalStatus.newValue item.approvalStatus }

theorem notNull_eq_ok_iff {α : Type} {old a : α} {p : Patch α} :
    p.notNull old = .ok a ↔ p ≠ .null ∧ p.newValue old = a := by
  constructor
  · intro h
    exact ⟨Patch.ne_null_of_notNull h, (Patch.notNull_eq_ok h).symm⟩
  · rintro ⟨hne, rfl⟩
    cases p with
    | unset => rfl
    | null => exact absurd rfl hne
    | value b => rfl

theorem createDeferredItem_eq_ok {newId : UUID} {payload : DeferredItemCreateRequest}
    (h : createDeferredItem db newId organizationId actor payload = .ok db') :
    ∃ aircraft,
      db.deferredItems.insert? (newItem newId organizationId aircraft payload)
        = some db'.deferredItems := by
  obtain ⟨aircraft, _, h⟩ := bind_eq_ok.1 h
  obtain ⟨_, _, h⟩ := bind_eq_ok.1 h
  obtain ⟨_, _, h⟩ := bind_eq_ok.1 h
  obtain ⟨_, hadd, h⟩ := bind_eq_ok.1 h
  cases h
  exact ⟨aircraft, addRowOrRaise_eq_ok.1 hadd⟩

variable {payload : DeferredItemUpdateRequest}

theorem apply_eq_ok {item updated : DeferredItem} :
    payload.apply item = .ok updated ↔
      payload.category ≠ .null ∧ payload.deferralBasis ≠ .null ∧ payload.approvalStatus ≠ .null ∧
        payload.texts.all storesText = true ∧ updatedItem payload item = updated := by
  rw [DeferredItemUpdateRequest.apply]
  simp only [bind_eq_ok, notNull_eq_ok_iff, raiseIf_eq_ok, pure_eq_ok, Bool.not_eq_false]
  constructor
  · rintro ⟨_, ⟨hcategory, rfl⟩, _, ⟨hbasis, rfl⟩, _, ⟨hstatus, rfl⟩, _, htexts, rfl⟩
    exact ⟨hcategory, hbasis, hstatus, htexts, rfl⟩
  · rintro ⟨hcategory, hbasis, hstatus, htexts, rfl⟩
    exact ⟨_, ⟨hcategory, rfl⟩, _, ⟨hbasis, rfl⟩, _, ⟨hstatus, rfl⟩, (), htexts, rfl⟩

theorem updateDeferredItem_eq_ok :
    (∃ db', updateDeferredItem db organizationId actor itemId payload = .ok db' ∧
        db'.deferredItems = items) ↔
      payload.isStorable = true ∧ ∃ item ∈ db.deferredItems.rows, item.id = itemId ∧
        item.organizationId = organizationId ∧
        db.deferredItems.save (updatedItem payload item) = items := by
  have hstorable : payload.isStorable = true ↔
      payload.category ≠ .null ∧ payload.deferralBasis ≠ .null ∧ payload.approvalStatus ≠ .null ∧
        payload.texts.all storesText = true ∧ (given payload.dueAt).isEmpty = true := by
    simp [DeferredItemUpdateRequest.isStorable, and_assoc]
  rw [hstorable]
  constructor
  · rintro ⟨db', h, rfl⟩
    obtain ⟨item, hget, h⟩ := bind_eq_ok.1 h
    obtain ⟨updated, happly, h⟩ := bind_eq_ok.1 h
    obtain ⟨_, hdate, h⟩ := bind_eq_ok.1 h
    obtain ⟨hcategory, hbasis, hstatus, htexts, rfl⟩ := apply_eq_ok.1 happly
    obtain ⟨hmem, hid, horg⟩ := getDeferredItem_eq_ok.1 hget
    refine ⟨⟨hcategory, hbasis, hstatus, htexts, ?_⟩, item, hmem, hid, horg, ?_⟩
    · simpa using raiseIf_eq_ok.1 hdate
    · cases h
      split
      · rfl
      · rfl
  · rintro ⟨⟨hcategory, hbasis, hstatus, htexts, hdate⟩, item, hmem, hid, horg, rfl⟩
    have hget := getDeferredItem_eq_ok.2 ⟨hmem, hid, horg⟩
    have happly : payload.apply item = .ok (updatedItem payload item) :=
      apply_eq_ok.2 ⟨hcategory, hbasis, hstatus, htexts, rfl⟩
    have hjson : raiseIf ((given payload.dueAt).isEmpty = false) .typeError = .ok () :=
      raiseIf_eq_ok.2 (by simp [hdate])
    rw [updateDeferredItem, hget, ok_bind, happly, ok_bind, hjson, ok_bind]
    refine ⟨_, rfl, ?_⟩
    split
    · rfl
    · rfl

theorem closeDeferredItem_eq_ok {payload : DeferredItemCloseRequest}
    (h : closeDeferredItem db organizationId actor itemId payload = .ok db') :
    ∃ item ∈ db.deferredItems.rows, item.status = .open ∧
      (item.approvalRequired = true → item.approvalStatus = ApprovalStatus.approved) ∧
      db'.deferredItems = db.deferredItems.save (closedItem payload item) := by
  obtain ⟨item, hget, h⟩ := bind_eq_ok.1 h
  obtain ⟨_, hopen, h⟩ := bind_eq_ok.1 h
  obtain ⟨_, happroved, h⟩ := bind_eq_ok.1 h
  obtain ⟨_, _, h⟩ := bind_eq_ok.1 h
  cases h
  refine ⟨item, (getDeferredItem_eq_ok.1 hget).1, ?_, ?_, rfl⟩
  · have hne := raiseIf_eq_ok.1 hopen
    cases hstatus : item.status with
    | «open» => rfl
    | closed => exact absurd hstatus hne
  · intro hrequired
    by_contra hstatus
    exact raiseIf_eq_ok.1 happroved ⟨hrequired, hstatus⟩

end Steps

/-! ## Histories -/

inductive Action
  | createDeferredItem (newId organizationId : UUID) (actorUserId : Option UUID)
      (payload : DeferredItemCreateRequest)
  | updateDeferredItem (organizationId : UUID) (actorUserId : Option UUID) (itemId : UUID)
      (payload : DeferredItemUpdateRequest)
  | closeDeferredItem (organizationId : UUID) (actorUserId : Option UUID) (itemId : UUID)
      (payload : DeferredItemCloseRequest)

def step (db : Database) : Action → Except Error Database
  | .createDeferredItem newId org actor payload => createDeferredItem db newId org actor payload
  | .updateDeferredItem org actor itemId payload => updateDeferredItem db org actor itemId payload
  | .closeDeferredItem org actor itemId payload => closeDeferredItem db org actor itemId payload

def ClosedApproved (db : Database) : Prop :=
  ∀ item ∈ db.deferredItems.rows, item.status = .closed → item.approvalRequired = true →
    item.approvalStatus = ApprovalStatus.approved

instance (db : Database) : Decidable (ClosedApproved db) :=
  inferInstanceAs (Decidable (∀ item ∈ db.deferredItems.rows, item.status = .closed →
    item.approvalRequired = true → item.approvalStatus = ApprovalStatus.approved))

/-- The approval and the closure of an item. -/
structure Closure where
  status : DeferredItemStatus
  approvalRequired : Bool
  approvalStatus : String
  closedAt : Option Date
  closureNotes : Option String

def closureOf (item : DeferredItem) : Closure :=
  { status := item.status, approvalRequired := item.approvalRequired
    approvalStatus := item.approvalStatus, closedAt := item.closedAt
    closureNotes := item.closureNotes }

/-- The closed items are still there, with their approval and their closure. -/
def ClosedKept (db db' : Database) : Prop :=
  Settles (fun item => item.status = .closed) closureOf db.deferredItems db'.deferredItems

/-- An update that can be stored gives a closed item no approval status, or the one it has. -/
def LeavesClosed (db : Database) : Action → Prop
  | .updateDeferredItem org _ itemId payload =>
    payload.isStorable = true → ∀ item ∈ db.deferredItems.rows, item.id = itemId →
      item.organizationId = org → item.status = .closed →
        ∀ status ∈ given payload.approvalStatus, status = item.approvalStatus
  | .createDeferredItem .. | .closeDeferredItem .. => True

instance (db : Database) (a : Action) : Decidable (LeavesClosed db a) :=
  match a with
  | .updateDeferredItem org _ itemId payload =>
    inferInstanceAs (Decidable (payload.isStorable = true → ∀ item ∈ db.deferredItems.rows,
      item.id = itemId → item.organizationId = org → item.status = .closed →
        ∀ status ∈ given payload.approvalStatus, status = item.approvalStatus))
  | .createDeferredItem .. | .closeDeferredItem .. => isTrue trivial

section Histories

variable {db db' db'' : Database} {item : DeferredItem} {payload : DeferredItemUpdateRequest}

theorem closedKept_of_eq (h : db'.deferredItems = db.deferredItems) : ClosedKept db db' := by
  rw [ClosedKept, h]
  exact settles_refl _ _ _

theorem closedKept_trans (h : ClosedKept db db') (h' : ClosedKept db' db'') :
    ClosedKept db db'' := by
  refine settles_trans ?_ h h'
  intro r r' hkept hclosed
  exact (congrArg Closure.status hkept).trans hclosed

theorem closedApproved_insert? {row : DeferredItem} (hdb : ClosedApproved db)
    (h : db.deferredItems.insert? row = some db'.deferredItems) (hopen : row.status = .open) :
    ClosedApproved db' := by
  intro x hx hclosed
  rcases (Table.mem_insert? h).1 hx with hx | rfl
  · exact hdb x hx hclosed
  · rw [hopen] at hclosed
    cases hclosed

theorem closedApproved_save {row : DeferredItem} (hdb : ClosedApproved db)
    (h : db'.deferredItems = db.deferredItems.save row)
    (hrow : row.status = .closed → row.approvalRequired = true →
      row.approvalStatus = ApprovalStatus.approved) : ClosedApproved db' := by
  intro x hx
  rw [h] at hx
  rcases Table.mem_save.1 hx with ⟨hx, _⟩ | ⟨rfl, _⟩
  · exact hdb x hx
  · exact hrow

theorem closureOf_updatedItem :
    closureOf (updatedItem payload item) = closureOf item ↔
      ∀ status ∈ given payload.approvalStatus, status = item.approvalStatus := by
  cases hstatus : payload.approvalStatus with
  | unset => simp [closureOf, updatedItem, given, hstatus, Patch.newValue]
  | null => simp [closureOf, updatedItem, given, hstatus, Patch.newValue]
  | value s => simp [closureOf, updatedItem, given, hstatus, Patch.newValue]

/-- **ONE OPERATION**: it keeps the closed items, and the approvals of all closed items, exactly
when it is no update of a closed item's approval status. -/
theorem attempt_iff (hdb : ClosedApproved db) (a : Action) :
    (ClosedApproved (Runs.attempt step db a) ∧ ClosedKept db (Runs.attempt step db a)) ↔
      LeavesClosed db a := by
  cases a with
  | createDeferredItem newId org actor payload =>
    refine iff_of_true ?_ trivial
    rcases Runs.attempt_cases step db (.createDeferredItem newId org actor payload) with hfail | h
    · rw [hfail]
      exact ⟨hdb, closedKept_of_eq rfl⟩
    · obtain ⟨aircraft, hadd⟩ := createDeferredItem_eq_ok h
      exact ⟨closedApproved_insert? hdb hadd rfl, settles_insert? hadd⟩
  | closeDeferredItem org actor itemId payload =>
    refine iff_of_true ?_ trivial
    rcases Runs.attempt_cases step db (.closeDeferredItem org actor itemId payload) with hfail | h
    · rw [hfail]
      exact ⟨hdb, closedKept_of_eq rfl⟩
    · obtain ⟨item, hmem, hopen, happroved, hrows⟩ := closeDeferredItem_eq_ok h
      refine ⟨closedApproved_save hdb hrows fun _ => happroved, ?_⟩
      rw [ClosedKept, hrows, settles_save_iff (r := closedItem payload item) hmem rfl]
      intro hclosed
      rw [hopen] at hclosed
      cases hclosed
  | updateDeferredItem org actor itemId payload =>
    by_cases hwrites : payload.isStorable = true ∧ ∃ item ∈ db.deferredItems.rows,
        item.id = itemId ∧ item.organizationId = org
    · obtain ⟨hstorable, item, hmem, hid, horg⟩ := hwrites
      have hleaves : LeavesClosed db (.updateDeferredItem org actor itemId payload) ↔
          (item.status = .closed → closureOf (updatedItem payload item) = closureOf item) := by
        rw [closureOf_updatedItem]
        constructor
        · exact fun h => h hstorable item hmem hid horg
        · intro h _ x hx hxid _
          rw [Table.eq_of_key_eq hx hmem (hxid.trans hid.symm)]
          exact h
      obtain ⟨db', hcall, hrows⟩ := updateDeferredItem_eq_ok.2
        ⟨hstorable, item, hmem, hid, horg, rfl⟩
      have hstep : step db (.updateDeferredItem org actor itemId payload) = .ok db' := hcall
      rw [Runs.attempt, hstep, hleaves, ClosedKept, hrows,
        settles_save_iff (r := updatedItem payload item) hmem rfl, and_iff_right_iff_imp]
      -- what the closed item keeps is its approval
      intro hkept
      refine closedApproved_save hdb hrows fun hclosed hrequired => ?_
      exact (congrArg Closure.approvalStatus (hkept hclosed)).trans (hdb item hmem hclosed hrequired)
    · have hstep : ∀ db', step db (.updateDeferredItem org actor itemId payload) ≠ .ok db' := by
        intro db' hcall
        obtain ⟨hstorable, item, hmem, hid, horg, _⟩ :=
          updateDeferredItem_eq_ok.1 ⟨db', hcall, rfl⟩
        exact hwrites ⟨hstorable, item, hmem, hid, horg⟩
      rcases Runs.attempt_cases step db (.updateDeferredItem org actor itemId payload) with hfail | h
      · rw [hfail]
        refine iff_of_true ⟨hdb, closedKept_of_eq rfl⟩ ?_
        exact fun hstorable x hx hid horg _ =>
          absurd ⟨hstorable, x, hx, hid, horg⟩ hwrites
      · exact absurd h (hstep _)

/-- **HISTORIES**: in a history of deferrals each closed item that requires an approval has it, and
keeps its approval and its closure from then on, exactly when no update that can be stored gives
a closed item another approval status. -/
theorem closed_stays_approved_iff (db : Database) (as : List Action) (hdb : ClosedApproved db) :
    ((∀ db' ∈ Runs.visited step db as, ClosedApproved db') ∧
        (Runs.visited step db as).Pairwise ClosedKept) ↔
      Runs.StepsMeet step LeavesClosed db as :=
  Runs.pairwise_visited_iff (P := ClosedApproved) (R := ClosedKept)
    (fun _ _ _ => closedKept_trans) (fun _ a h => attempt_iff h a) as db hdb

end Histories

/-! ## A history -/

/-- The tenant 1 with its aircraft 2. -/
def hangar : Database :=
  { aircraft := Table.single
      { id := 2, organizationId := 1, registration := "N800AC", msn := "MSN-10"
        aircraftType := "B737" } }

/-- An item that requires an approval gets it, is closed, and has a text corrected. -/
def approvedThenClosed : List Action :=
  [.createDeferredItem 9 1 none
      { aircraftId := 2, description := "APU generator inoperative", openedAt := 100
        approvalRequired := true },
    .closeDeferredItem 1 none 9 { closedAt := 103 },
    .updateDeferredItem 1 none 9 { approvalStatus := .value "APPROVED" },
    .closeDeferredItem 1 none 9 { closedAt := 104, closureNotes := some "Fixed" },
    .updateDeferredItem 1 none 9
      { melReference := .value "24-20-01", approvalStatus := .value "APPROVED" },
    .updateDeferredItem 1 none 9 { dueAt := .value 110, approvalStatus := .value "PENDING" }]

theorem approvedThenClosed_stays :
    (∀ db' ∈ Runs.visited step hangar approvedThenClosed, ClosedApproved db') ∧
      (Runs.visited step hangar approvedThenClosed).Pairwise ClosedKept :=
  (closed_stays_approved_iff hangar approvedThenClosed (by decide)).2 (by decide)

/-- The approval of a closed item is withdrawn. -/
theorem approval_withdrawn_after_closure :
    ¬ ∀ (db : Database) (as : List Action), db.deferredItems.rows = [] →
      (∀ db' ∈ Runs.visited step db as, ClosedApproved db') ∧
        (Runs.visited step db as).Pairwise ClosedKept := by
  intro h
  have hall := (h hangar (approvedThenClosed ++
    [.updateDeferredItem 1 none 9 { approvalStatus := .value "PENDING" }]) rfl).1
  revert hall
  decide

end DeferredItemService
end AeroComply
