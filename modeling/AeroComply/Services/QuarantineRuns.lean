import AeroComply.Services.InventoryRuns

/-!
# QuarantineRuns — the label of a part against its quarantined stock

A part has one status and one reason, but its stock can be held and released in portions.
`quarantine_part` and `release_quarantine` write the label after the movement, from the
request alone: a release of a portion relabels the whole part, and a release to SCRAPPED
keeps the reason.
-/

namespace AeroComply

open Relational (Table)

namespace QuarantineRuns

open PartService InventoryTransactionService
open InventoryRuns (Action call)
open Sessions (Call left)

/-- What the columns say: stock is held under QUARANTINED only, and the reason is null
otherwise. -/
structure Matched (p : Part) : Prop where
  held : 0 < p.quantityQuarantined → p.serviceabilityStatus = PartServiceabilityStatus.quarantined
  reason : p.serviceabilityStatus ≠ PartServiceabilityStatus.quarantined →
    p.quarantineReason = none

/-- The statuses that `release_quarantine` accepts. -/
def releaseStatuses : List String :=
  [PartServiceabilityStatus.serviceable, PartServiceabilityStatus.unserviceable,
    PartServiceabilityStatus.scrapped]

def releaseMovement (payload : InventoryReleaseQuarantineRequest) : Movement :=
  { transactionType := .releaseQuarantine
    onHandDelta :=
      if payload.newStatus = PartServiceabilityStatus.scrapped then -payload.quantity else 0
    quarantinedDelta := -payload.quantity, notes := payload.notes }

/-- The call releases stock of the part: the request is accepted and can be posted. -/
def Releases (db : Database) (id : UUID) (payload : InventoryReleaseQuarantineRequest) :
    Action → Prop
  | .releaseQuarantine newId org _ partId payload' =>
    partId = id ∧ payload' = payload ∧ payload.newStatus ∈ releaseStatuses ∧
      Postable db newId org partId (releaseMovement payload)
  | _ => False

/-- A release of the part is for all that is held, and not a write-off. -/
def ReleasesAll (id : UUID) (db : Database) (a : Action) : Prop :=
  ∀ payload, Releases db id payload a →
    payload.newStatus ≠ PartServiceabilityStatus.scrapped ∧
      ∀ p ∈ db.parts.rows, p.id = id → payload.quantity = p.quantityQuarantined

/-! ## What a call does to the label -/

/-- The columns that the movements other than these two leave alone. -/
structure SameLabel (p p' : Part) : Prop where
  quarantined : p'.quantityQuarantined = p.quantityQuarantined
  status : p'.serviceabilityStatus = p.serviceabilityStatus
  reason : p'.quarantineReason = p.quarantineReason

structure Held (p' : Part) : Prop where
  nonneg : 0 ≤ p'.quantityQuarantined
  status : p'.serviceabilityStatus = PartServiceabilityStatus.quarantined
  reason : p'.quarantineReason ≠ none

structure Released (payload : InventoryReleaseQuarantineRequest) (p p' : Part) : Prop where
  nonneg : 0 ≤ p'.quantityQuarantined
  quarantined : p'.quantityQuarantined = p.quantityQuarantined - payload.quantity
  accepted : payload.newStatus ∈ releaseStatuses
  status : p'.serviceabilityStatus = payload.newStatus
  reason : p'.quarantineReason
    = if payload.newStatus = PartServiceabilityStatus.scrapped then p.quarantineReason else none

theorem SameLabel.refl (p : Part) : SameLabel p p := ⟨rfl, rfl, rfl⟩

/-- The row of the part after a step, where there is one. -/
def RowAfter (Q : Part → Part → Prop) (p : Part) (db' : Database) : Prop :=
  ∃ p' ∈ db'.parts.rows, p'.id = p.id ∧ Q p p'

section Effect

variable {db db' : Database} {p : Part}

theorem rowAfter_same (h : db'.parts = db.parts) (hp : p ∈ db.parts.rows) :
    RowAfter SameLabel p db' := ⟨p, h ▸ hp, rfl, SameLabel.refl p⟩

theorem rowAfter_save {Q : Part → Part → Prop} {old new : Part}
    (hparts : db'.parts = db.parts.save new) (hp : p ∈ db.parts.rows)
    (hold : old ∈ db.parts.rows) (hid : new.id = old.id)
    (hsame : p.id = old.id → Q p new) (helse : p.id ≠ old.id → Q p p) : RowAfter Q p db' := by
  have hrows : ∀ x, x ∈ db'.parts.rows ↔ (x ∈ db.parts.rows ∧ x.id ≠ new.id) ∨ x = new := by
    rw [hparts]
    exact fun x => Table.mem_save_of_mem hold hid.symm
  by_cases h : p.id = old.id
  · exact ⟨new, (hrows new).2 (Or.inr rfl), hid.trans h.symm, hsame h⟩
  · exact ⟨p, (hrows p).2 (Or.inl ⟨hp, hid ▸ h⟩), rfl, helse h⟩

variable {payload : InventoryReleaseQuarantineRequest} {m : Movement}

theorem rowAfter_moveStock {newId org partId : UUID} {actor : Option UUID}
    (hm : m.quarantinedDelta = 0) (hp : p ∈ db.parts.rows) :
    RowAfter SameLabel p (left (moveStock newId org actor partId (.ok ()) m) db) := by
  by_cases h : Postable db newId org partId m
  · obtain ⟨db', part, hrun, hget, hparts, _⟩ :=
      moveStock_of_postable (s := ⟨db, db⟩) actor h
    obtain ⟨hmem, _, _⟩ := getPart_eq_ok hget
    rw [left, hrun]
    refine rowAfter_save hparts hp hmem rfl ?_ fun _ => SameLabel.refl p
    intro hid
    obtain rfl := Table.eq_of_key_eq hp hmem hid
    exact ⟨by rw [Movement.apply, hm, add_zero], rfl, rfl⟩
  · obtain ⟨e, hrun⟩ := moveStock_of_not_postable (s := ⟨db, db⟩) actor h
    rw [left, hrun]
    exact rowAfter_same rfl hp

/-- The part with a movement and a label written. -/
def relabel (m : Movement) (status : String) (reason : Option String → Option String)
    (part : Part) : Part :=
  { m.apply part with
    serviceabilityStatus := status, quarantineReason := reason part.quarantineReason }

/-- The two transactions of a movement and its label. -/
def moveAndLabel (newId org : UUID) (actor : Option UUID) (partId : UUID) (m : Movement)
    (status : String) (reason : Option String → Option String) : Call Database Error Unit := do
  moveStock newId org actor partId (.ok ()) m
  setServiceability org partId status reason

theorem left_moveAndLabel_of_postable {newId org partId : UUID} (actor : Option UUID)
    (status : String) (reason : Option String → Option String)
    (h : Postable db newId org partId m) :
    ∃ part ∈ db.parts.rows, part.id = partId ∧ StockValid (m.apply part) ∧
      (left (moveAndLabel newId org actor partId m status reason) db).parts
        = (db.parts.save (m.apply part)).save (relabel m status reason part) := by
  obtain ⟨part₀, hget₀, hvalid, _⟩ := h
  obtain ⟨db₁, part, hrun, hget, hparts, _⟩ :=
    moveStock_of_postable (s := ⟨db, db⟩) actor ⟨part₀, hget₀, hvalid, ‹_›⟩
  obtain rfl : part₀ = part := Except.ok.inj (hget₀.symm.trans hget)
  obtain ⟨hmem, hid, horg⟩ := getPart_eq_ok hget
  refine ⟨part₀, hmem, hid, hvalid, ?_⟩
  -- the second transaction finds the part that the first one saved
  have hagain : getPart db₁ org partId = .ok (m.apply part₀) := by
    refine getPart_of_mem ?_ hid horg
    rw [hparts]
    exact Table.mem_save.2 (Or.inr ⟨rfl, part₀, hmem, rfl⟩)
  have hlabel : setServiceability org partId status reason ⟨db₁, db₁⟩
      = (.ok (), ⟨{ db₁ with parts := db₁.parts.save (relabel m status reason part₀) },
          { db₁ with parts := db₁.parts.save (relabel m status reason part₀) }⟩) := by
    refine Sessions.transaction_of_ok ?_
    rw [hagain]
    rfl
  rw [left, moveAndLabel, Sessions.bind_of_ok hrun, hlabel, hparts]

theorem left_moveAndLabel_of_not_postable {newId org partId : UUID} (actor : Option UUID)
    (status : String) (reason : Option String → Option String)
    (h : ¬Postable db newId org partId m) :
    left (moveAndLabel newId org actor partId m status reason) db = db := by
  obtain ⟨e, hrun⟩ := moveStock_of_not_postable (s := ⟨db, db⟩) actor h
  rw [left, moveAndLabel, Sessions.bind_of_error hrun]

theorem rowAfter_moveAndLabel {newId org partId : UUID} (actor : Option UUID) (status : String)
    (reason : Option String → Option String) (h : Postable db newId org partId m)
    (hp : p ∈ db.parts.rows) :
    RowAfter (fun p p' => if p.id = partId then
        p' = relabel m status reason p ∧ StockValid (m.apply p)
      else SameLabel p p') p (left (moveAndLabel newId org actor partId m status reason) db) := by
  obtain ⟨part, hmem, hid, hvalid, hparts⟩ :=
    left_moveAndLabel_of_postable actor status reason h
  have hsaved : m.apply part ∈ (db.parts.save (m.apply part)).rows :=
    Table.mem_save.2 (Or.inr ⟨rfl, part, hmem, rfl⟩)
  have hrows : ∀ x, x ∈ (left (moveAndLabel newId org actor partId m status reason) db).parts.rows
      ↔ (x ∈ db.parts.rows ∧ x.id ≠ part.id) ∨ x = relabel m status reason part := by
    intro x
    rw [hparts, Table.mem_save_of_mem (r := relabel m status reason part) hsaved rfl,
      Table.mem_save_of_mem (r := m.apply part) hmem rfl]
    constructor
    · rintro (⟨⟨hx, hne⟩ | rfl, hne'⟩ | rfl)
      · exact Or.inl ⟨hx, hne⟩
      · exact absurd rfl hne'
      · exact Or.inr rfl
    · rintro (⟨hx, hne⟩ | rfl)
      · exact Or.inl ⟨Or.inl ⟨hx, hne⟩, hne⟩
      · exact Or.inr rfl
  by_cases hsame : p.id = part.id
  · obtain rfl := Table.eq_of_key_eq hp hmem hsame
    refine ⟨_, (hrows _).2 (Or.inr rfl), rfl, ?_⟩
    show if p.id = partId then _ else _
    rw [if_pos hid]
    exact ⟨rfl, hvalid⟩
  · refine ⟨p, (hrows p).2 (Or.inl ⟨hp, hsame⟩), rfl, ?_⟩
    show if p.id = partId then _ else _
    rw [if_neg fun h : p.id = partId => hsame (h.trans hid.symm)]
    exact SameLabel.refl p

theorem quarantinePart_eq (newId org : UUID) (actor : Option UUID) (partId : UUID)
    (payload : InventoryQuarantineRequest) :
    quarantinePart newId org actor partId payload
      = moveAndLabel newId org actor partId
          { transactionType := .quarantine, quarantinedDelta := payload.quantity
            referenceType := payload.referenceType, referenceId := payload.referenceId
            notes := some payload.reason }
          PartServiceabilityStatus.quarantined (fun _ => some payload.reason) := rfl

theorem releaseQuarantine_of_accepted (h : payload.newStatus ∈ releaseStatuses) (newId org : UUID)
    (actor : Option UUID) (partId : UUID) :
    releaseQuarantine newId org actor partId payload
      = moveAndLabel newId org actor partId (releaseMovement payload) payload.newStatus
          (fun reason =>
            if payload.newStatus = PartServiceabilityStatus.scrapped then reason else none) := by
  have hcheck : raiseIf (payload.newStatus ∉ releaseStatuses)
      (.conflict "new_status must be SERVICEABLE, UNSERVICEABLE, or SCRAPPED"
        "invalid_release_status") = .ok () := raiseIf_eq_ok.2 (not_not.2 h)
  rw [releaseStatuses] at hcheck
  rw [releaseQuarantine, hcheck]
  rfl

theorem moveStock_of_refused {check : Except Error Unit} {e : Error} (h : check = .error e)
    (newId org : UUID) (actor : Option UUID) (partId : UUID) (m : Movement)
    (s : Sessions.Session Database) :
    ∃ e', moveStock newId org actor partId check m s = (.error e', s) := by
  rw [moveStock, h]
  cases hget : getPart s.working org partId with
  | error e' =>
    refine ⟨e', Sessions.bind_of_error (Sessions.update_of_error ?_)⟩
    rw [hget]
    rfl
  | ok part =>
    refine ⟨e, Sessions.bind_of_error (Sessions.update_of_error ?_)⟩
    rw [hget]
    rfl

theorem left_releaseQuarantine_of_refused (h : payload.newStatus ∉ releaseStatuses)
    (newId org : UUID) (actor : Option UUID) (partId : UUID) :
    left (releaseQuarantine newId org actor partId payload) db = db := by
  have hcheck : raiseIf (payload.newStatus ∉ releaseStatuses)
      (.conflict "new_status must be SERVICEABLE, UNSERVICEABLE, or SCRAPPED"
        "invalid_release_status") = .error _ := if_pos h
  obtain ⟨e, hrun⟩ :=
    moveStock_of_refused hcheck newId org actor partId (releaseMovement payload) ⟨db, db⟩
  exact congrArg (fun x : Except Error Unit × Sessions.Session Database => x.2.committed)
    (Sessions.bind_of_error hrun)

theorem sameLabel_of_apply {payload : PartUpdateRequest} {part part' : Part}
    (h : payload.apply part = .ok part') : SameLabel part part' := by
  obtain ⟨_, _, h⟩ := bind_eq_ok.1 h
  obtain ⟨_, _, h⟩ := bind_eq_ok.1 h
  obtain ⟨_, _, h⟩ := bind_eq_ok.1 h
  obtain ⟨_, _, h⟩ := bind_eq_ok.1 h
  obtain ⟨_, _, h⟩ := bind_eq_ok.1 h
  rw [pure_eq_ok] at h
  subst h
  exact ⟨rfl, rfl, rfl⟩

theorem rowAfter_createPart (newId org : UUID) (actor : Option UUID) (payload : PartCreateRequest)
    (hp : p ∈ db.parts.rows) :
    RowAfter SameLabel p (left (createPart newId org actor payload) db) := by
  refine Sessions.left_transaction_of (P := RowAfter SameLabel p) (rowAfter_same rfl hp) ?_
  intro db' h
  obtain ⟨_, _, h⟩ := bind_eq_ok.1 h
  obtain ⟨parts, hadd, h⟩ := bind_eq_ok.1 h
  rw [pure_eq_ok] at h
  subst h
  exact ⟨p, (Table.mem_insert? (addRowOrRaise_eq_ok.1 hadd)).2 (Or.inl hp), rfl, SameLabel.refl p⟩

theorem rowAfter_updatePart (org : UUID) (actor : Option UUID) (partId : UUID)
    (payload : PartUpdateRequest) (hp : p ∈ db.parts.rows) :
    RowAfter SameLabel p (left (updatePart org actor partId payload) db) := by
  refine Sessions.left_transaction_of (P := RowAfter SameLabel p) (rowAfter_same rfl hp) ?_
  intro db' h
  obtain ⟨old, hget, h⟩ := bind_eq_ok.1 h
  obtain ⟨new, happly, h⟩ := bind_eq_ok.1 h
  rw [pure_eq_ok] at h
  obtain ⟨hmem, _, _⟩ := getPart_eq_ok hget
  obtain ⟨_, hid, _⟩ := payload.apply_eq_ok happly
  have hparts : db'.parts = db.parts.save new := by
    subst h
    split
    · rfl
    · rfl
  refine rowAfter_save hparts hp hmem hid ?_ fun _ => SameLabel.refl p
  intro hsame
  obtain rfl := Table.eq_of_key_eq hp hmem hsame
  exact sameLabel_of_apply happly

theorem rowAfter_quarantinePart (newId org : UUID) (actor : Option UUID) (partId : UUID)
    (payload : InventoryQuarantineRequest) (hp : p ∈ db.parts.rows) :
    RowAfter (fun p p' => SameLabel p p' ∨ Held p') p
      (left (quarantinePart newId org actor partId payload) db) := by
  rw [quarantinePart_eq]
  by_cases h : Postable db newId org partId
      { transactionType := .quarantine, quarantinedDelta := payload.quantity
        referenceType := payload.referenceType, referenceId := payload.referenceId
        notes := some payload.reason }
  · obtain ⟨p', hmem', hid', hp'⟩ := rowAfter_moveAndLabel actor
      PartServiceabilityStatus.quarantined (fun _ => some payload.reason) h hp
    refine ⟨p', hmem', hid', ?_⟩
    by_cases hsame : p.id = partId
    · obtain ⟨rfl, hvalid⟩ := (if_pos hsame).mp hp'
      exact Or.inr ⟨hvalid.quarantined, rfl, Option.some_ne_none _⟩
    · exact Or.inl ((if_neg hsame).mp hp')
  · rw [left_moveAndLabel_of_not_postable actor _ _ h]
    exact ⟨p, hp, rfl, Or.inl (SameLabel.refl p)⟩

/-- A release of the part writes its label; any other release leaves it. -/
theorem releaseQuarantine_cases (newId org : UUID) (actor : Option UUID) (partId : UUID)
    (payload : InventoryReleaseQuarantineRequest) (hp : p ∈ db.parts.rows) :
    RowAfter (fun p p' => SameLabel p p' ∧ ∀ payload',
        ¬Releases db p.id payload' (.releaseQuarantine newId org actor partId payload))
      p (left (releaseQuarantine newId org actor partId payload) db) ∨
      Releases db p.id payload (.releaseQuarantine newId org actor partId payload) ∧
        RowAfter (Released payload) p
          (left (releaseQuarantine newId org actor partId payload) db) := by
  by_cases haccepted : payload.newStatus ∈ releaseStatuses
  · rw [releaseQuarantine_of_accepted haccepted]
    by_cases h : Postable db newId org partId (releaseMovement payload)
    · obtain ⟨p', hmem', hid', hp'⟩ := rowAfter_moveAndLabel actor payload.newStatus
        (fun reason => if payload.newStatus = PartServiceabilityStatus.scrapped then reason
          else none) h hp
      by_cases hsame : p.id = partId
      · obtain ⟨rfl, hvalid⟩ := (if_pos hsame).mp hp'
        exact Or.inr ⟨⟨hsame.symm, rfl, haccepted, h⟩,
          _, hmem', hid', hvalid.quarantined, rfl, haccepted, rfl, rfl⟩
      · exact Or.inl ⟨p', hmem', hid', (if_neg hsame).mp hp', fun _ hr => hsame hr.1.symm⟩
    · rw [left_moveAndLabel_of_not_postable actor _ _ h]
      refine Or.inl ⟨p, hp, rfl, SameLabel.refl p, ?_⟩
      rintro _ ⟨_, rfl, _, hpost⟩
      exact h hpost
  · rw [left_releaseQuarantine_of_refused haccepted]
    refine Or.inl ⟨p, hp, rfl, SameLabel.refl p, ?_⟩
    rintro _ ⟨_, rfl, hstatus, _⟩
    exact haccepted hstatus

theorem RowAfter.mono {Q R : Part → Part → Prop} (h : RowAfter Q p db)
    (hQ : ∀ p', Q p p' → R p p') : RowAfter R p db := by
  obtain ⟨p', hmem, hid, hp'⟩ := h
  exact ⟨p', hmem, hid, hQ p' hp'⟩

/-- **ONE CALL** on a part: its label stays, or stock of it is held, or stock of it is
released. -/
theorem call_cases (a : Action) (hp : p ∈ db.parts.rows) :
    RowAfter (fun p p' => (SameLabel p p' ∨ Held p') ∧ ∀ payload, ¬Releases db p.id payload a)
      p (left (call a) db) ∨
      ∃ payload, Releases db p.id payload a ∧
        RowAfter (Released payload) p (left (call a) db) := by
  cases a with
  | createPart newId org actor payload =>
    exact Or.inl ((rowAfter_createPart newId org actor payload hp).mono
      fun _ h => ⟨Or.inl h, fun _ hr => hr⟩)
  | updatePart org actor partId payload =>
    exact Or.inl ((rowAfter_updatePart org actor partId payload hp).mono
      fun _ h => ⟨Or.inl h, fun _ hr => hr⟩)
  | receivePart newId org actor partId payload
  | reservePart newId org actor partId payload
  | releaseReservation newId org actor partId payload
  | consumePart newId org actor partId payload
  | adjustPart newId org actor partId payload =>
    exact Or.inl ((rowAfter_moveStock rfl hp).mono fun _ h => ⟨Or.inl h, fun _ hr => hr⟩)
  | quarantinePart newId org actor partId payload =>
    exact Or.inl ((rowAfter_quarantinePart newId org actor partId payload hp).mono
      fun _ h => ⟨h, fun _ hr => hr⟩)
  | releaseQuarantine newId org actor partId payload =>
    rcases releaseQuarantine_cases newId org actor partId payload hp with h | h
    · exact Or.inl (h.mono fun _ h => ⟨Or.inl h.1, h.2⟩)
    · exact Or.inr ⟨payload, h⟩

end Effect

/-! ## The label over runs -/

section Runs

variable {db : Database} {id : UUID}

def Labelled (id : UUID) (db : Database) : Prop :=
  ∃ p ∈ db.parts.rows, p.id = id ∧ 0 ≤ p.quantityQuarantined ∧
    (p.serviceabilityStatus = PartServiceabilityStatus.quarantined → p.quarantineReason ≠ none)

/-- The label of the part matches its stock. -/
def StockMatched (id : UUID) (db : Database) : Prop :=
  ∀ p ∈ db.parts.rows, p.id = id → Matched p

theorem ne_quarantined_of_accepted {status : String} (h : status ∈ releaseStatuses) :
    status ≠ PartServiceabilityStatus.quarantined := by
  rintro rfl
  exact absurd h (by decide)

theorem stockMatched_iff {p : Part} (hp : p ∈ db.parts.rows) (hid : p.id = id) :
    StockMatched id db ↔ Matched p := by
  refine ⟨fun h => h p hp hid, ?_⟩
  intro h q hq hqid
  rwa [Table.eq_of_key_eq hq hp (hqid.trans hid.symm)]

theorem labelled_call (a : Action) (h : Labelled id db) : Labelled id (left (call a) db) := by
  obtain ⟨p, hp, hid, hnonneg, hreason⟩ := h
  rcases call_cases a hp with ⟨p', hmem', hid', hcase, _⟩ | ⟨payload, _, p', hmem', hid', h⟩
  · refine ⟨p', hmem', hid'.trans hid, ?_⟩
    rcases hcase with hsame | hheld
    · rw [hsame.quarantined, hsame.status, hsame.reason]
      exact ⟨hnonneg, hreason⟩
    · exact ⟨hheld.nonneg, fun _ => hheld.reason⟩
  · refine ⟨p', hmem', hid'.trans hid, h.nonneg, ?_⟩
    intro hstatus
    exact absurd (h.status.symm.trans hstatus) (ne_quarantined_of_accepted h.accepted)

theorem matched_of_released_iff {payload : InventoryReleaseQuarantineRequest} {p p' : Part}
    (h : Released payload p p') (hp : Matched p)
    (hreason : p.serviceabilityStatus = PartServiceabilityStatus.quarantined →
      p.quarantineReason ≠ none) :
    Matched p' ↔ payload.newStatus ≠ PartServiceabilityStatus.scrapped ∧
      payload.quantity = p.quantityQuarantined := by
  have hstatus : p'.serviceabilityStatus ≠ PartServiceabilityStatus.quarantined := by
    rw [h.status]
    exact ne_quarantined_of_accepted h.accepted
  have hquantity := h.quarantined
  have hnonneg := h.nonneg
  have hpos := payload.quantity_pos
  constructor
  · intro hmatched
    constructor
    · intro hscrapped
      -- what is released was held under a reason, and a write-off keeps it
      have hheld := hp.held (by omega)
      have hkept : p'.quarantineReason = p.quarantineReason := h.reason.trans (if_pos hscrapped)
      exact hreason hheld (hkept ▸ hmatched.reason hstatus)
    · have hnone : ¬0 < p'.quantityQuarantined := fun hrest => hstatus (hmatched.held hrest)
      omega
  · rintro ⟨hscrapped, hall⟩
    refine ⟨fun hrest => ?_, fun _ => h.reason.trans (if_neg hscrapped)⟩
    omega

/-- **ONE CALL**: the label stays matched exactly when a release of the part is for all that is
held and not a write-off. -/
theorem stockMatched_call_iff (a : Action) (hlabel : Labelled id db) (h : StockMatched id db) :
    StockMatched id (left (call a) db) ↔ ReleasesAll id db a := by
  obtain ⟨p, hp, rfl, hnonneg, hreason⟩ := hlabel
  have hmatched := (stockMatched_iff hp rfl).1 h
  rcases call_cases a hp with
    ⟨p', hmem', hid', hcase, hnone⟩ | ⟨payload, hrel, p', hmem', hid', hreleased⟩
  · rw [stockMatched_iff hmem' hid']
    refine iff_of_true ?_ fun payload hrel => absurd hrel (hnone payload)
    rcases hcase with hsame | hheld
    · exact ⟨by rw [hsame.quarantined, hsame.status]; exact hmatched.held,
        by rw [hsame.status, hsame.reason]; exact hmatched.reason⟩
    · exact ⟨fun _ => hheld.status, fun hne => absurd hheld.status hne⟩
  · rw [stockMatched_iff hmem' hid', matched_of_released_iff hreleased hmatched hreason]
    constructor
    · rintro ⟨hscrapped, hall⟩ payload' hrel'
      obtain rfl : payload' = payload := by
        cases a with
        | releaseQuarantine => exact hrel'.2.1.symm.trans hrel.2.1
        | _ => cases hrel
      refine ⟨hscrapped, ?_⟩
      intro q hq hqid
      rw [Table.eq_of_key_eq hq hp hqid]
      exact hall
    · intro hall
      obtain ⟨hscrapped, hquantity⟩ := hall payload hrel
      exact ⟨hscrapped, hquantity p hp rfl⟩

/-- **QUARANTINE**: from a serviceable part with nothing held, status and reason match the
quarantined stock in every state exactly when there is no reason to start with and each
release of the part is for all that is held, and not to SCRAPPED. -/
theorem quarantine_matched_iff {part : Part} (hpart : part ∈ db.parts.rows)
    (hstock : part.quantityQuarantined = 0)
    (hstatus : part.serviceabilityStatus = PartServiceabilityStatus.serviceable)
    (as : List Action) :
    (∀ db' ∈ Runs.visited (Sessions.step call) db as,
        ∀ p ∈ db'.parts.rows, p.id = part.id → Matched p) ↔
      part.quarantineReason = none ∧
        Runs.StepsMeet (Sessions.step call) (ReleasesAll part.id) db as := by
  have hne : part.serviceabilityStatus ≠ PartServiceabilityStatus.quarantined := by
    rw [hstatus]
    decide
  have hlabelled : Labelled part.id db := by
    refine ⟨part, hpart, rfl, by omega, ?_⟩
    intro h
    exact absurd h hne
  by_cases hreason : part.quarantineReason = none
  · have hstart : StockMatched part.id db := by
      refine (stockMatched_iff hpart rfl).2 ⟨?_, fun _ => hreason⟩
      intro h
      omega
    have hruns : (∀ db' ∈ Runs.visited (Sessions.step call) db as, StockMatched part.id db') ↔
        Runs.StepsMeet (Sessions.step call) (ReleasesAll part.id) db as := by
      refine Runs.forall_visited_iff (P := StockMatched part.id) (fun s a hs => ?_) as db
        hlabelled hstart ?_
      · exact labelled_call a hs
      · intro s hs hP a _
        exact stockMatched_call_iff a hs hP
    exact ⟨fun h => ⟨hreason, hruns.1 h⟩, fun h => hruns.2 h.2⟩
  · refine iff_of_false ?_ fun h => hreason h.1
    intro h
    have hfirst : db ∈ Runs.visited (Sessions.step call) db as := by
      cases as with
      | nil => exact List.mem_singleton_self db
      | cons a as => exact List.mem_cons_self
    exact hreason ((h db hfirst part hpart rfl).reason hne)

/-- A part with ten on hand. -/
def pump : Part :=
  { id := 9, organizationId := 1, partNumber := "PN-9", description := "Pump"
    quantityOnHand := 10 }

/-- Five are held and all five released. -/
theorem pump_matched :
    (Runs.visited (Sessions.step call) { parts := .single pump }
      [.quarantinePart 30 1 none 9 { quantity := 5, reason := "leak" },
        .releaseQuarantine 31 1 none 9
          { quantity := 5, newStatus := PartServiceabilityStatus.serviceable }]).Forall
      fun db' => ∀ p ∈ db'.parts.rows, p.id = pump.id → Matched p := by
  refine List.forall_iff_forall_mem.2
    ((quarantine_matched_iff (List.mem_singleton_self pump) rfl rfl _).2 ⟨rfl, ?_, ?_, trivial⟩)
  · rintro _ ⟨⟩
  · rintro _ ⟨_, rfl, _⟩
    decide

/-- Five are held and three of them released: the part is SERVICEABLE with two of them held. -/
theorem partialRelease_unmatched :
    ¬∀ db' ∈ Runs.visited (Sessions.step call) { parts := .single pump }
        [.quarantinePart 30 1 none 9 { quantity := 5, reason := "leak" },
          .releaseQuarantine 31 1 none 9
            { quantity := 3, newStatus := PartServiceabilityStatus.serviceable }],
      ∀ p ∈ db'.parts.rows, p.id = pump.id → Matched p := by
  intro h
  have hpartial : ∃ db' ∈ Runs.visited (Sessions.step call) { parts := .single pump }
      [.quarantinePart 30 1 none 9 { quantity := 5, reason := "leak" },
        .releaseQuarantine 31 1 none 9
          { quantity := 3, newStatus := PartServiceabilityStatus.serviceable }],
      ∃ p ∈ db'.parts.rows, p.id = pump.id ∧ 0 < p.quantityQuarantined ∧
        p.serviceabilityStatus ≠ PartServiceabilityStatus.quarantined := by
    decide
  obtain ⟨db', hdb', p, hp, hid, hrest, hstatus⟩ := hpartial
  exact hstatus ((h db' hdb' p hp hid).held hrest)

end Runs

end QuarantineRuns
end AeroComply
