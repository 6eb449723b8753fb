import AeroComply.Services.Receiving

/-!
# ReceivingRace — deliveries against one order at the same time

The steps that `receive_purchase_order` takes against the database: it reads the
order and its lines without a lock, checks a receipt against what the session
holds of the line, waits for the lock of the part, and commits the line with the
ledger row; the fulfilment is committed after that.  A commit expires what the
session holds, so the next receipt reads its line again.

The line is written as a value, not as an increment.  `receipts_accounted` says
what holds in every interleaving, and what holds while no receipt is committed
onto a line that has moved since it was checked.
-/

namespace AeroComply

open Relational (Table)

namespace ReceivingRace

open PurchaseOrderService (linesOf)
open ReceivingService

/-- The arguments of one call. -/
structure Arguments where
  actorUserId : Option UUID := none
  payload : ReceivePurchaseOrderRequest
  newId : Nat → UUID

/-- The order, the requests behind its lines, and the calls. -/
structure Setting where
  organizationId : UUID
  poId : UUID
  requests : Table ProcurementRequest
  arguments : Nat → Arguments

/-- What a session holds of a line. -/
structure Seen where
  received : Int
  pending : Bool := false
  deriving DecidableEq

/-- The lines a session holds, by identifier. -/
abbrev View := UUID → Option Seen

namespace View

/-- After a commit the session holds nothing. -/
def expired : View := fun _ => none

/-- A line as the session sees it: what it holds, or else what is stored. -/
def see (view : View) (line : PurchaseOrderLine) : PurchaseOrderLine :=
  match view line.id with
  | some seen => { line with receivedQuantity := seen.received }
  | none => line

/-- A write that is not flushed yet. -/
def write (view : View) (lineId : UUID) (received : Int) : View :=
  Function.update view lineId (some { received, pending := true })

/-- The `UPDATE` of a line, if the session has written it. -/
def flushed (view : View) (line : PurchaseOrderLine) : PurchaseOrderLine :=
  match view line.id with
  | some ⟨received, true⟩ => { line with receivedQuantity := received }
  | _ => line

theorem flushed_id (view : View) (line : PurchaseOrderLine) :
    (view.flushed line).id = line.id := by
  rw [flushed]
  split
  · rfl
  · rfl

/-- The flush of a session. -/
def flush (view : View) (lines : Table PurchaseOrderLine) : Table PurchaseOrderLine :=
  lines.updateWhere (fun _ => true) view.flushed (flushed_id view)

end View

/-- How far a call has come. -/
inductive Progress
  | idle
  | receiving (view : View) (todo : List Item)
  | posting (view : View) (item : Item) (partId : UUID) (todo : List Item)
  | fulfilling (todo : List Item)
  | ended

structure Race where
  order : PurchaseOrder
  lines : Table PurchaseOrderLine
  ledger : Table InventoryTransaction := Table.empty
  progress : Nat → Progress := fun _ => .idle

/-- Only the call itself moves on. -/
def Race.moved (r : Race) (who : Nat) (progress : Progress) : Race :=
  { r with progress := Function.update r.progress who progress }

variable (c : Setting)

def requestFor (line : PurchaseOrderLine) : Except Error (Option ProcurementRequest) :=
  requestOf { procurementRequests := c.requests } c.organizationId line

/-- The part that a line was ordered for. -/
def partFor (line : PurchaseOrderLine) : Option UUID :=
  match requestFor c line with
  | .ok (some request) => request.partId
  | _ => none

/-- The session loads the lines of the order. -/
def load (lines : Table PurchaseOrderLine) : View := fun lineId =>
  match lineOf { purchaseOrderLines := lines } c.poId lineId with
  | .ok line => some { received := line.receivedQuantity }
  | .error _ => none

/-- The check of a receipt, and the write to the line, in the session. -/
def check (lines : Table PurchaseOrderLine) (view : View) (item : Item) (todo : List Item) :
    Progress :=
  match lineOf { purchaseOrderLines := lines } c.poId item.2.lineId with
  | .error _ => .ended
  | .ok line =>
    -- what the session holds, which another call may have moved on from
    if remaining (view.see line) < item.2.quantity then .ended
    else
      let view := view.write line.id ((view.see line).receivedQuantity + item.2.quantity)
      match requestFor c line with
      | .error _ => .ended
      | .ok _ =>
        match partFor c line with
        | none => .receiving view todo
        | some partId => .posting view item partId todo

/-- The ledger row of a receipt. -/
def ledgerRow (who : Nat) (item : Item) (partId : UUID) : InventoryTransaction :=
  let call := c.arguments who
  (delivery call.payload.notes item.2 item.2.lineId).row item.1 c.organizationId
    call.actorUserId partId

/-- Under the lock of the part: the line and the ledger row are committed together. -/
def commitReceipt (r : Race) (who : Nat) (view : View) (item : Item) (partId : UUID)
    (todo : List Item) : Race :=
  match r.ledger.insert? (ledgerRow c who item partId) with
  | none => r.moved who .ended
  | some ledger =>
    { r with lines := view.flush r.lines, ledger }.moved who (.fulfilling todo)

/-- The status of the order and what is still pending. -/
def commitOrder (r : Race) (who : Nat) (view : View) : Race :=
  let seen := (linesOf { purchaseOrderLines := r.lines } c.poId).map view.see
  let order := { r.order with status := statusOf seen r.order.status }
  { r with order, lines := view.flush r.lines }.moved who .ended

/-- The next step of a call. -/
def next (r : Race) (who : Nat) : Race :=
  match r.progress who with
  | .idle =>
    let call := c.arguments who
    r.moved who (if isReceivable r.order.status
      then .receiving (load c r.lines) (numbered call.newId call.payload.lines)
      else .ended)
  | .receiving view (item :: todo) => r.moved who (check c r.lines view item todo)
  | .posting view item partId todo => commitReceipt c r who view item partId todo
  -- the commit of the fulfilment expires what the session holds
  | .fulfilling todo => r.moved who (.receiving View.expired todo)
  | .receiving view [] => commitOrder c r who view
  | .ended => r

/-- A call takes its next step, or raises and gives up what it has not committed. -/
inductive Event
  | go (who : Nat)
  | raise (who : Nat)
  deriving DecidableEq, Repr

def step (r : Race) : Event → Except Error Race
  | .go who => .ok (next c r who)
  | .raise who => .ok (r.moved who .ended)

/-- What the ledger says was received for a line. -/
def receivedTotal (ledger : Table InventoryTransaction) (lineId : UUID) : Int :=
  ((ledger.select fun t => t.transactionType = .receive &&
    t.referenceType = some "purchase_order_line" && t.referenceId = some lineId).map
    InventoryTransaction.onHandDelta).sum

/-- Before the calls: each line is within its quantity, and the ledger says the same of the
lines with a part. -/
structure Settled (r : Race) : Prop where
  idle : ∀ who, r.progress who = .idle
  within : ∀ l ∈ r.lines.rows, l.receivedQuantity ≤ l.quantity
  accounted : ∀ l ∈ r.lines.rows, receivedTotal r.ledger l.id
    = if (partFor c l).isSome then l.receivedQuantity else 0

/-- The line of a receipt that is about to be committed stands as it was checked. -/
def StandsAs (lines : Table PurchaseOrderLine) : Progress → Prop
  | .posting view item _ _ => ∀ l ∈ lines.rows, l.id = item.2.lineId →
      (view.see l).receivedQuantity = l.receivedQuantity + item.2.quantity
  | _ => True

instance (lines : Table PurchaseOrderLine) : (p : Progress) → Decidable (StandsAs lines p)
  | .posting view item _ _ => inferInstanceAs (Decidable (∀ l ∈ lines.rows, l.id = item.2.lineId →
      (view.see l).receivedQuantity = l.receivedQuantity + item.2.quantity))
  | .idle | .receiving _ _ | .fulfilling _ | .ended => .isTrue trivial

/-- A receipt is committed onto its line as it was checked. -/
def Current (r : Race) : Event → Prop
  | .go who => StandsAs r.lines (r.progress who)
  | .raise _ => True

instance (r : Race) : (e : Event) → Decidable (Current r e)
  | .go who => inferInstanceAs (Decidable (StandsAs r.lines (r.progress who)))
  | .raise _ => .isTrue trivial

/-! ## What a session holds -/

variable {c} {lines : Table PurchaseOrderLine} {view : View} {l : PurchaseOrderLine}

@[simp] theorem View.see_quantity (view : View) (l : PurchaseOrderLine) :
    (view.see l).quantity = l.quantity := by
  rw [View.see]
  split
  · rfl
  · rfl

@[simp] theorem View.flushed_quantity (view : View) (l : PurchaseOrderLine) :
    (view.flushed l).quantity = l.quantity := by
  rw [View.flushed]
  split
  · rfl
  · rfl

@[simp] theorem partFor_flushed (view : View) (l : PurchaseOrderLine) :
    partFor c (view.flushed l) = partFor c l := by
  rw [View.flushed]
  split
  · rfl
  · rfl

/-- What the session holds of every line is within the quantity. -/
def Bounded (lines : Table PurchaseOrderLine) (view : View) : Prop :=
  ∀ l ∈ lines.rows, (view.see l).receivedQuantity ≤ l.quantity

/-- The session has no write of the line that is not flushed. -/
def Clean (view : View) (l : PurchaseOrderLine) : Prop :=
  ∀ seen, view l.id = some seen → seen.pending = false

theorem Clean.flushed (h : Clean view l) : view.flushed l = l := by
  rw [View.flushed]
  split
  · next received hseen => exact absurd (h _ hseen) (by simp)
  · rfl

theorem flushed_of_pending {n : Int} (h : view l.id = some ⟨n, true⟩) :
    view.flushed l = view.see l := by
  rw [View.flushed, View.see, h]

theorem flushed_within (hstored : l.receivedQuantity ≤ l.quantity)
    (hseen : (view.see l).receivedQuantity ≤ l.quantity) :
    (view.flushed l).receivedQuantity ≤ l.quantity := by
  cases h : view l.id with
  | none =>
    rw [View.flushed, h]
    exact hstored
  | some seen =>
    obtain ⟨n, pending⟩ := seen
    cases pending with
    | true =>
      rw [flushed_of_pending h]
      exact hseen
    | false =>
      rw [View.flushed, h]
      exact hstored

theorem see_flushed (view view' : View) (l : PurchaseOrderLine) :
    (view'.see (view.flushed l)).receivedQuantity = (view'.see l).receivedQuantity ∨
      (view'.see (view.flushed l)).receivedQuantity = (view.flushed l).receivedQuantity := by
  rw [View.see, View.see, View.flushed_id]
  cases view' l.id with
  | some seen => exact Or.inl rfl
  | none => exact Or.inr rfl

theorem mem_flush : l ∈ (view.flush lines).rows ↔ ∃ l' ∈ lines.rows, view.flushed l' = l := by
  rw [View.flush, Table.mem_updateWhere]
  rfl

/-! ## Every interleaving -/

/-- A call holds nothing above the quantities, and of the lines with a part it has written
only the one it is posting. -/
def Progress.Sound (c : Setting) (lines : Table PurchaseOrderLine) : Progress → Prop
  | .receiving view _ =>
    Bounded lines view ∧ ∀ l ∈ lines.rows, (partFor c l).isSome = true → Clean view l
  | .posting view item partId _ =>
    Bounded lines view ∧
    (∃ l ∈ lines.rows, l.id = item.2.lineId ∧ partFor c l = some partId ∧
      ∃ n, view l.id = some ⟨n, true⟩) ∧
    ∀ l ∈ lines.rows, (partFor c l).isSome = true → l.id ≠ item.2.lineId → Clean view l
  | _ => True

/-- What holds in every state of every run. -/
structure Sound (c : Setting) (r : Race) : Prop where
  within : ∀ l ∈ r.lines.rows, l.receivedQuantity ≤ l.quantity
  unlinked : ∀ l ∈ r.lines.rows, partFor c l = none → receivedTotal r.ledger l.id = 0
  progress : ∀ who, (r.progress who).Sound c r.lines

theorem Sound.moved {r : Race} {p : Progress} (h : Sound c r) (who : Nat)
    (hp : p.Sound c r.lines) : Sound c (r.moved who p) where
  within := h.within
  unlinked := h.unlinked
  progress := fun who' => by
    show (Function.update r.progress who p who').Sound c r.lines
    by_cases hwho : who' = who
    · rw [hwho, Function.update_self]
      exact hp
    · rw [Function.update_of_ne hwho]
      exact h.progress who'

theorem Progress.Sound.flush {p : Progress} (h : p.Sound c lines)
    (hstored : ∀ l ∈ lines.rows, l.receivedQuantity ≤ l.quantity) (hview : Bounded lines view) :
    p.Sound c (view.flush lines) := by
  have hbounded : ∀ view', Bounded lines view' → Bounded (view.flush lines) view' := by
    intro view' hview' l hl
    obtain ⟨l, hmem, rfl⟩ := mem_flush.1 hl
    rw [View.flushed_quantity]
    rcases see_flushed view view' l with hsee | hsee
    · rw [hsee]
      exact hview' l hmem
    · rw [hsee]
      exact flushed_within (hstored l hmem) (hview l hmem)
  have hclean : ∀ view' l, Clean view' l → Clean view' (view.flushed l) := by
    intro view' l hcl seen hseen
    rw [View.flushed_id] at hseen
    exact hcl seen hseen
  cases p with
  | receiving view' todo =>
    refine ⟨hbounded view' h.1, ?_⟩
    intro l hl hpart
    obtain ⟨l, hmem, rfl⟩ := mem_flush.1 hl
    rw [partFor_flushed] at hpart
    exact hclean view' l (h.2 l hmem hpart)
  | posting view' item partId todo =>
    obtain ⟨hb, ⟨l, hl, hid, hpart, n, hn⟩, hothers⟩ := h
    refine ⟨hbounded view' hb, ⟨view.flushed l, mem_flush.2 ⟨l, hl, rfl⟩, ?_, ?_, n, ?_⟩, ?_⟩
    · rw [View.flushed_id, hid]
    · rw [partFor_flushed, hpart]
    · rw [View.flushed_id, hn]
    · intro l hl hpart hne
      obtain ⟨l, hmem, rfl⟩ := mem_flush.1 hl
      rw [partFor_flushed] at hpart
      rw [View.flushed_id] at hne
      exact hclean view' l (hothers l hmem hpart hne)
  | idle => trivial
  | fulfilling todo => trivial
  | ended => trivial

variable {todo : List Item} {item : Item} {who : Nat}

/-- The check keeps a call sound. -/
theorem check_sound (hview : Bounded lines view)
    (hclean : ∀ l ∈ lines.rows, (partFor c l).isSome = true → Clean view l) :
    (check c lines view item todo).Sound c lines := by
  rw [check]
  cases hline : lineOf { purchaseOrderLines := lines } c.poId item.2.lineId with
  | error e => trivial
  | ok line =>
    obtain ⟨hmem, _, hlineId⟩ := lineOf_eq_ok hline
    by_cases hq : remaining (view.see line) < item.2.quantity
    · simp only [if_pos hq]
      trivial
    · simp only [if_neg hq]
      have hself : ∀ n, (view.write line.id n) line.id = some ⟨n, true⟩ :=
        fun n => Function.update_self ..
      have hother : ∀ n, ∀ l : PurchaseOrderLine, l.id ≠ line.id →
          (view.write line.id n) l.id = view l.id :=
        fun n l hne => Function.update_of_ne hne ..
      have hbounded : Bounded lines (view.write line.id
          ((view.see line).receivedQuantity + item.2.quantity)) := by
        intro l hl
        by_cases hid : l.id = line.id
        · obtain rfl : l = line := Table.eq_of_key_eq hl hmem hid
          rw [View.see, hself]
          rw [remaining, View.see_quantity] at hq
          show (view.see l).receivedQuantity + item.2.quantity ≤ l.quantity
          omega
        · rw [View.see, hother _ _ hid]
          exact hview l hl
      have hcleanOther : ∀ n, ∀ l ∈ lines.rows, (partFor c l).isSome = true → l.id ≠ line.id →
          Clean (view.write line.id n) l := by
        intro n l hl hpart hne seen hseen
        rw [hother _ _ hne] at hseen
        exact hclean l hl hpart seen hseen
      cases hreq : requestFor c line with
      | error e => trivial
      | ok request =>
        cases hpart : partFor c line with
        | none =>
          refine ⟨hbounded, ?_⟩
          intro l hl hsome
          refine hcleanOther _ l hl hsome ?_
          intro hid
          rw [Table.eq_of_key_eq hl hmem hid, hpart] at hsome
          cases hsome
        | some partId =>
          refine ⟨hbounded, ⟨line, hmem, hlineId, hpart, _, hself _⟩, ?_⟩
          intro l hl hsome hne
          exact hcleanOther _ l hl hsome (hlineId ▸ hne)

theorem load_sound (h : ∀ l ∈ lines.rows, l.receivedQuantity ≤ l.quantity) :
    (Progress.receiving (load c lines) todo).Sound c lines := by
  have hload : ∀ l ∈ lines.rows, load c lines l.id = none ∨
      load c lines l.id = some ⟨l.receivedQuantity, false⟩ := by
    intro l hl
    rw [load]
    cases hline : lineOf { purchaseOrderLines := lines } c.poId l.id with
    | error e => exact Or.inl rfl
    | ok line =>
      obtain ⟨hmem, _, hlineId⟩ := lineOf_eq_ok hline
      obtain rfl : line = l := Table.eq_of_key_eq hmem hl hlineId
      exact Or.inr rfl
  constructor
  · intro l hl
    rw [View.see]
    rcases hload l hl with hnone | hsome
    · rw [hnone]
      exact h l hl
    · rw [hsome]
      exact h l hl
  · intro l hl _ seen hseen
    rcases hload l hl with hnone | hsome
    · rw [hnone] at hseen
      cases hseen
    · rw [hsome] at hseen
      cases hseen
      rfl

theorem expired_sound (h : ∀ l ∈ lines.rows, l.receivedQuantity ≤ l.quantity) :
    (Progress.receiving View.expired todo).Sound c lines :=
  ⟨h, fun _ _ _ _ hseen => (nomatch hseen)⟩

theorem receivedTotal_insert? {ledger ledger' : Table InventoryTransaction} {partId lineId : UUID}
    (h : ledger.insert? (ledgerRow c who item partId) = some ledger') :
    receivedTotal ledger' lineId
      = receivedTotal ledger lineId + if item.2.lineId = lineId then item.2.quantity else 0 := by
  rw [receivedTotal, Table.select_insert? h, List.map_append, List.sum_append]
  congr 1
  by_cases hid : item.2.lineId = lineId
  · simp [hid, ledgerRow, delivery, InventoryTransactionService.Movement.row]
  · simp [hid, ledgerRow, delivery, InventoryTransactionService.Movement.row]

variable {r r' : Race}

theorem Sound.flush (h : Sound c r) (hview : Bounded r.lines view) (order : PurchaseOrder)
    {ledger : Table InventoryTransaction}
    (hledger : ∀ l ∈ r.lines.rows, partFor c l = none → receivedTotal ledger l.id = 0) :
    Sound c { r with order, lines := view.flush r.lines, ledger } where
  within := by
    intro l hl
    obtain ⟨l, hmem, rfl⟩ := mem_flush.1 hl
    rw [View.flushed_quantity]
    exact flushed_within (h.within l hmem) (hview l hmem)
  unlinked := by
    intro l hl hpart
    obtain ⟨l, hmem, rfl⟩ := mem_flush.1 hl
    rw [partFor_flushed] at hpart
    rw [View.flushed_id]
    exact hledger l hmem hpart
  progress := fun who => (h.progress who).flush h.within hview

theorem commitReceipt_sound {partId : UUID} (h : Sound c r)
    (hp : r.progress who = .posting view item partId todo) :
    Sound c (commitReceipt c r who view item partId todo) := by
  have hwho := h.progress who
  rw [hp] at hwho
  obtain ⟨hview, ⟨line, hline, hid, hpart, _⟩, _⟩ := hwho
  rw [commitReceipt]
  cases hadd : r.ledger.insert? (ledgerRow c who item partId) with
  | none => exact h.moved (p := .ended) who trivial
  | some ledger =>
    refine (h.flush hview r.order ?_).moved (p := .fulfilling todo) who trivial
    intro l hl hnone
    have hne : item.2.lineId ≠ l.id := by
      intro heq
      rw [Table.eq_of_key_eq hline hl (hid.trans heq), hnone] at hpart
      cases hpart
    rw [receivedTotal_insert? hadd, if_neg hne, Int.add_zero]
    exact h.unlinked l hl hnone

/-- **STEP**: whatever a call does next. -/
theorem next_sound (h : Sound c r) (who : Nat) : Sound c (next c r who) := by
  have hwho := h.progress who
  rw [next]
  cases hp : r.progress who with
  | idle =>
    refine h.moved who ?_
    split
    · exact load_sound h.within
    · trivial
  | receiving view todo =>
    rw [hp] at hwho
    cases todo with
    | nil => exact (h.flush hwho.1 _ h.unlinked).moved (p := .ended) who trivial
    | cons item todo => exact h.moved who (check_sound hwho.1 hwho.2)
  | posting view item partId todo => exact commitReceipt_sound h hp
  | fulfilling todo => exact h.moved who (expired_sound h.within)
  | ended => exact h

theorem step_sound {e : Event} (h : Sound c r) (hstep : step c r e = .ok r') : Sound c r' := by
  cases e with
  | go who =>
    cases hstep
    exact next_sound h who
  | raise who =>
    cases hstep
    exact h.moved who trivial

/-- The ledger accounts for what the lines with a part have received. -/
def Counted (c : Setting) (r : Race) : Prop :=
  ∀ l ∈ r.lines.rows, (partFor c l).isSome = true →
    receivedTotal r.ledger l.id = l.receivedQuantity

theorem commitReceipt_counted {partId : UUID} (h : Sound c r) (hcount : Counted c r)
    (hp : r.progress who = .posting view item partId todo)
    (hcurrent : ∀ l ∈ r.lines.rows, l.id = item.2.lineId →
      (view.see l).receivedQuantity = l.receivedQuantity + item.2.quantity) :
    Counted c (commitReceipt c r who view item partId todo) := by
  have hwho := h.progress who
  rw [hp] at hwho
  obtain ⟨_, ⟨line, hline, hid, _, n, hn⟩, hothers⟩ := hwho
  rw [commitReceipt]
  cases hadd : r.ledger.insert? (ledgerRow c who item partId) with
  | none => exact hcount
  | some ledger =>
    intro l hl hpart
    obtain ⟨l, hmem, rfl⟩ := mem_flush.1 hl
    rw [partFor_flushed] at hpart
    show receivedTotal ledger (view.flushed l).id = _
    rw [View.flushed_id, receivedTotal_insert? hadd, hcount l hmem hpart]
    by_cases hsame : l.id = item.2.lineId
    · obtain rfl : l = line := Table.eq_of_key_eq hmem hline (hsame.trans hid.symm)
      rw [if_pos hid.symm, flushed_of_pending hn]
      exact (hcurrent l hmem hid).symm
    · rw [if_neg (fun heq => hsame heq.symm), Int.add_zero, (hothers l hmem hpart hsame).flushed]

/-- **STEP**: a receipt that is committed onto the line as it was checked is counted once. -/
theorem next_counted (h : Sound c r) (hcount : Counted c r) (hcurrent : Current r (.go who)) :
    Counted c (next c r who) := by
  have hwho := h.progress who
  rw [next]
  rw [Current] at hcurrent
  cases hp : r.progress who with
  | idle => exact hcount
  | receiving view todo =>
    rw [hp] at hwho
    cases todo with
    | nil =>
      -- what the session still flushes are lines without a part
      intro l hl hpart
      obtain ⟨l, hmem, rfl⟩ := mem_flush.1 hl
      rw [partFor_flushed] at hpart
      rw [(hwho.2 l hmem hpart).flushed]
      exact hcount l hmem hpart
    | cons item todo => exact hcount
  | posting view item partId todo =>
    rw [hp] at hcurrent
    exact commitReceipt_counted h hcount hp hcurrent
  | fulfilling todo => exact hcount
  | ended => exact hcount

theorem visited_sound (h : Settled c r) (es : List Event) :
    ∀ r' ∈ Runs.visited (step c) r es, Sound c r' := by
  refine Runs.visited_invariant (fun _ _ _ hs _ hstep => step_sound hs hstep) es r ?_
    (Runs.stepsMeet_true _ _ _)
  refine ⟨h.within, ?_, ?_⟩
  · intro l hl hnone
    rw [h.accounted l hl, hnone]
    rfl
  · intro who
    rw [h.idle who]
    trivial

/-- **DELIVERIES AT THE SAME TIME**: in every interleaving no line is received beyond its
quantity and a line without a part has no ledger rows; and while each receipt is committed
onto its line as it was checked, the ledger accounts for every line with a part. -/
theorem receipts_accounted (c : Setting) (r : Race) (hstart : Settled c r) (es : List Event) :
    (∀ r' ∈ Runs.visited (step c) r es, ∀ l ∈ r'.lines.rows,
      l.receivedQuantity ≤ l.quantity ∧
        (partFor c l = none → receivedTotal r'.ledger l.id = 0)) ∧
    (Runs.StepsMeet (step c) Current r es → ∀ r' ∈ Runs.visited (step c) r es,
      ∀ l ∈ r'.lines.rows, (partFor c l).isSome = true →
        receivedTotal r'.ledger l.id = l.receivedQuantity) := by
  have hsound := visited_sound hstart es
  constructor
  · intro r' hr' l hl
    exact ⟨(hsound r' hr').within l hl, (hsound r' hr').unlinked l hl⟩
  · intro hcurrent
    have hboth : ∀ s ∈ Runs.visited (step c) r es, Sound c s ∧ Counted c s := by
      refine Runs.visited_invariant ?_ es r ?_ hcurrent
      · intro s e s' hs hok hstep
        refine ⟨step_sound hs.1 hstep, ?_⟩
        cases e with
        | go who =>
          cases hstep
          exact next_counted hs.1 hs.2 hok
        | raise who =>
          cases hstep
          exact hs.2
      · refine ⟨hsound r (by cases es <;> exact List.mem_cons_self), ?_⟩
        intro l hl hpart
        rw [hstart.accounted l hl, if_pos hpart]
    exact fun r' hr' => (hboth r' hr').2

/-! ## Two deliveries of the same five valves -/

/-- Two calls receive the five valves that line 1 expects, a third one three of the screws on
line 2, which no request asked for. -/
def valves : Setting where
  organizationId := 1
  poId := 1
  requests := .single { id := 1, organizationId := 1, partId := some 1, status := .ordered }
  arguments := fun who =>
    { payload := { lines := [if who = 2 then { lineId := 2, quantity := 3 } else fiveValves] }
      newId := fun k => 10 * who + k }

def valveOrder : Race where
  order := { id := 1, organizationId := 1, status := .sent }
  lines := deliveryDatabase.purchaseOrderLines

theorem valveOrder_settled : Settled valves valveOrder where
  idle := fun _ => rfl
  within := List.forall_iff_forall_mem.1 (by decide)
  accounted := List.forall_iff_forall_mem.1 (by decide)

/-- One call after the other: the second one is refused. -/
def inTurn : List Event :=
  [.go 0, .go 0, .go 0, .go 0, .go 0, .go 1, .go 1]

theorem valves_accounted :
    Runs.StepsMeet (step valves) Current valveOrder inTurn ∧
    ∀ r' ∈ Runs.visited (step valves) valveOrder inTurn,
      ∀ l ∈ r'.lines.rows, (partFor valves l).isSome = true →
        receivedTotal r'.ledger l.id = l.receivedQuantity := by
  have hcurrent : Runs.StepsMeet (step valves) Current valveOrder inTurn := by decide
  exact ⟨hcurrent, (receipts_accounted valves valveOrder valveOrder_settled inTurn).2 hcurrent⟩

/-- **DELIVERED TWICE**: both calls check before either commits, and the ledger has ten valves
for the five of the line.  The screws have no ledger row at all. -/
theorem delivered_twice :
    (∃ r' ∈ Runs.visited (step valves) valveOrder [.go 0, .go 1, .go 0, .go 1, .go 0, .go 1],
      ∃ l ∈ r'.lines.rows, (partFor valves l).isSome = true ∧
        receivedTotal r'.ledger l.id ≠ l.receivedQuantity) ∧
    (∃ r' ∈ Runs.visited (step valves) valveOrder [.go 2, .go 2, .go 2],
      ∃ l ∈ r'.lines.rows, partFor valves l = none ∧
        receivedTotal r'.ledger l.id ≠ l.receivedQuantity) := by
  decide

end ReceivingRace
end AeroComply
