import AeroComply.Services.InventoryRuns
import AeroComply.Services.PartRequirementRuns

/-!
# RequirementStatus — the stored status of a requirement against the stock

REQUIRED, SHORT and AVAILABLE are derived from what a requirement still needs and what its
part has available, and then stored.  A movement of stock derives them again at once;
`update_part` writes the quantities of a part and derives nothing.
-/

namespace AeroComply

open Relational (Table)

namespace RequirementStatus

open PartService InventoryTransactionService PartRequirementService
open Sessions (Call Keeps left)

inductive Action
  | inventory (action : InventoryRuns.Action)
  | requirement (action : PartRequirementRuns.Action)

def call : Action → Call Database Error Unit
  | .inventory action => InventoryRuns.call action
  | .requirement action => PartRequirementRuns.call action

/-- The statuses that are derived. -/
def isOpen (status : String) : Prop :=
  status = PartRequirementStatus.required ∨ status = PartRequirementStatus.short ∨
    status = PartRequirementStatus.available

instance (status : String) : Decidable (isOpen status) :=
  inferInstanceAs (Decidable (_ ∨ _ ∨ _))

/-- A derived status is the one derived from this much stock. -/
def FreshAt (r : PartRequirement) (availableQuantity : Int) : Prop :=
  isOpen r.status → r.status = deriveStatus r availableQuantity

/-- No requirement has a stale status. -/
def Fresh (db : Database) : Prop :=
  ∀ r ∈ db.partRequirements.rows, ∀ part, getPart db r.organizationId r.partId = .ok part →
    FreshAt r part.availableQuantity

/-- The part of a requirement, in its tenant. -/
def PartOf (r : PartRequirement) (p : Part) : Prop :=
  p.id = r.partId ∧ p.organizationId = r.organizationId

def Linked (db : Database) : Prop :=
  ∀ r ∈ db.partRequirements.rows, ∃ p ∈ db.parts.rows, PartOf r p

/-! ## What is derived is fresh -/

theorem isKept_of_open {status : String} (h : isOpen status) : isKept status = false := by
  rcases h with rfl | rfl | rfl
  · decide
  · decide
  · decide

theorem not_open_fulfilled : ¬isOpen PartRequirementStatus.fulfilled := by decide

theorem deriveStatus_of_open {r : PartRequirement} {available : Int}
    (h : isOpen (deriveStatus r available)) :
    isKept r.status = false ∧ 0 < outstanding r ∧ deriveStatus r available
      = if outstanding r ≤ available then PartRequirementStatus.available
        else PartRequirementStatus.short := by
  rw [deriveStatus] at h ⊢
  cases hkept : isKept r.status with
  | true =>
    rw [if_pos hkept] at h
    exact absurd (isKept_of_open h) (by rw [hkept]; decide)
  | false =>
    rw [if_neg (by rw [hkept]; decide)] at h
    by_cases hout : outstanding r ≤ 0
    · rw [if_pos hout] at h
      exact absurd h not_open_fulfilled
    · exact ⟨rfl, not_le.1 hout, by rw [if_neg (by decide), if_neg hout]⟩

theorem freshAt_derived (r : PartRequirement) (available : Int) :
    FreshAt (derived available r) available := by
  intro hopen
  obtain ⟨_, hpos, hside⟩ := deriveStatus_of_open hopen
  have hkept : ¬isKept (derived available r).status = true := by
    rw [isKept_of_open hopen]
    decide
  have hagain : deriveStatus (derived available r) available
      = if outstanding r ≤ available then PartRequirementStatus.available
        else PartRequirementStatus.short := by
    rw [deriveStatus, if_neg hkept]
    exact if_neg (not_le.2 hpos)
  rw [hagain]
  exact hside

theorem freshAt_iff_side {r : PartRequirement} {available available' : Int}
    (h : FreshAt r available) (hopen : isOpen r.status) :
    FreshAt r available' ↔ (outstanding r ≤ available ↔ outstanding r ≤ available') := by
  have hstatus := h hopen
  obtain ⟨hkept, hpos, hside⟩ := deriveStatus_of_open (hstatus ▸ hopen)
  have hside' : deriveStatus r available'
      = if outstanding r ≤ available' then PartRequirementStatus.available
        else PartRequirementStatus.short := by
    rw [deriveStatus, if_neg (by rw [hkept]; decide), if_neg (not_le.2 hpos)]
  have hne : PartRequirementStatus.available ≠ PartRequirementStatus.short := by decide
  have hfresh : FreshAt r available' ↔ r.status = deriveStatus r available' :=
    ⟨fun h => h hopen, fun h _ => h⟩
  rw [hfresh, hstatus, hside, hside']
  by_cases h₁ : outstanding r ≤ available
  · by_cases h₂ : outstanding r ≤ available'
    · simp [h₁, h₂]
    · simp [h₁, h₂, hne]
  · by_cases h₂ : outstanding r ≤ available'
    · simp [h₁, h₂, hne.symm]
    · simp [h₁, h₂]

/-! ## Rows and their parts -/

section Rows

variable {db db' : Database}

theorem getPart_iff_partOf {r : PartRequirement} {part : Part} :
    getPart db r.organizationId r.partId = .ok part ↔ part ∈ db.parts.rows ∧ PartOf r part := by
  constructor
  · intro h
    obtain ⟨hmem, hid, horg⟩ := getPart_eq_ok h
    exact ⟨hmem, hid, horg⟩
  · rintro ⟨hmem, hid, horg⟩
    exact getPart_of_mem hmem hid horg

theorem linked_of_kept
    (hparts : ∀ p ∈ db.parts.rows, ∃ p' ∈ db'.parts.rows,
      p'.id = p.id ∧ p'.organizationId = p.organizationId)
    (hrows : ∀ r' ∈ db'.partRequirements.rows, ∃ p ∈ db.parts.rows, PartOf r' p) :
    Linked db' := by
  intro r' hr'
  obtain ⟨p, hp, hid, horg⟩ := hrows r' hr'
  obtain ⟨p', hp', hid', horg'⟩ := hparts p hp
  exact ⟨p', hp', hid'.trans hid, horg'.trans horg⟩

theorem parts_of_save {old new : Part} (hparts : db'.parts = db.parts.save new)
    (hold : old ∈ db.parts.rows) (hid : new.id = old.id) :
    ∀ x, x ∈ db'.parts.rows ↔ (x ∈ db.parts.rows ∧ x.id ≠ old.id) ∨ x = new := by
  intro x
  rw [hparts, Table.mem_save_of_mem (r := new) hold hid.symm, ← hid]
  exact Iff.rfl

theorem kept_of_save {old new : Part} (hparts : db'.parts = db.parts.save new)
    (hold : old ∈ db.parts.rows) (hid : new.id = old.id)
    (horg : new.organizationId = old.organizationId) : ∀ p ∈ db.parts.rows,
      ∃ p' ∈ db'.parts.rows, p'.id = p.id ∧ p'.organizationId = p.organizationId := by
  intro p hp
  by_cases hsame : p.id = old.id
  · obtain rfl := Table.eq_of_key_eq hp hold hsame
    exact ⟨new, (parts_of_save hparts hold hid new).2 (Or.inr rfl), hid, horg⟩
  · exact ⟨p, (parts_of_save hparts hold hid p).2 (Or.inl ⟨hp, hsame⟩), rfl, rfl⟩

theorem Fresh.of_save (h : Fresh db) {old new : Part} (hparts : db'.parts = db.parts.save new)
    (hold : old ∈ db.parts.rows) (hid : new.id = old.id)
    (horg : new.organizationId = old.organizationId)
    (hrows : ∀ r ∈ db'.partRequirements.rows, r ∈ db.partRequirements.rows ∨ PartOf r old)
    (hown : ∀ r ∈ db'.partRequirements.rows, PartOf r old → FreshAt r new.availableQuantity) :
    Fresh db' := by
  intro r hr part hpart
  obtain ⟨hmem, hpid, hporg⟩ := getPart_iff_partOf.1 hpart
  rcases (parts_of_save hparts hold hid part).1 hmem with ⟨hmem, hne⟩ | rfl
  · rcases hrows r hr with hr | hown
    · exact h r hr part (getPart_iff_partOf.2 ⟨hmem, hpid, hporg⟩)
    · exact absurd (hpid.trans hown.1.symm) hne
  · exact hown r hr ⟨hid.symm.trans hpid, horg.symm.trans hporg⟩

end Rows

/-! ## The movements of stock -/

section Movements

variable {P : Database → Prop} {newId org partId : UUID} {actor : Option UUID}

theorem key_derived (part : Part) (r : PartRequirement) :
    Relational.Keyed.key (derived part.availableQuantity r) = Relational.Keyed.key r := rfl

/-- Some rows are derived again for a part. -/
def rederived (chosen : PartRequirement → Bool) (part : Part) (rows : Table PartRequirement) :
    Table PartRequirement :=
  rows.updateWhere chosen (derived part.availableQuantity) (key_derived part)

/-- The rows that `recompute_status_for_part` derives again. -/
def recomputed (org partId : UUID) (part : Part) (rows : Table PartRequirement) :
    Table PartRequirement :=
  rederived (fun r => r.organizationId = org && r.partId = partId) part rows

variable {check : Except Error Unit}

/-- A movement is the posting and the derivation that follows it: the state between the two
commits is not one that a call leaves. -/
theorem keeps_moveStock {m : Movement}
    (h : ∀ db w part, P db → getPart db org partId = .ok part →
      post db newId org actor part m = .ok w →
      P { w with partRequirements := recomputed org partId (m.apply part) w.partRequirements }) :
    Keeps P (moveStock newId org actor partId check m) := by
  intro s hc hw
  rw [moveStock]
  cases hpost : (do
      let part ← getPart s.working org partId
      check
      post s.working newId org actor part m) with
  | error e =>
    rw [Sessions.bind_of_error (Sessions.update_of_error hpost)]
    exact ⟨hc, fun _ he => by cases he⟩
  | ok w =>
    rw [Sessions.bind_of_ok (Sessions.update_of_ok hpost)]
    obtain ⟨part, hpart, hpost⟩ := bind_eq_ok.1 hpost
    obtain ⟨_, _, hpost⟩ := bind_eq_ok.1 hpost
    obtain ⟨hmem, hid, horg⟩ := getPart_eq_ok hpart
    obtain ⟨_, hparts, _⟩ := post_eq_ok hpost
    -- the derivation finds the part that the posting saved
    have hagain : getPart w org partId = .ok (m.apply part) := by
      refine getPart_of_mem ?_ hid horg
      rw [hparts]
      exact Table.mem_save.2 (Or.inr ⟨rfl, part, hmem, rfl⟩)
    have hrun : recomputeStatusForPart org partId ⟨w, w⟩ = (.ok (),
        ⟨{ w with partRequirements := recomputed org partId (m.apply part) w.partRequirements },
          { w with partRequirements :=
              recomputed org partId (m.apply part) w.partRequirements }⟩) := by
      refine Sessions.transaction_of_ok ?_
      rw [hagain]
      rfl
    have hafter := h s.working w part hw hpart hpost
    show P (recomputeStatusForPart org partId ⟨w, w⟩).2.committed ∧
      ∀ a, (recomputeStatusForPart org partId ⟨w, w⟩).1 = .ok a →
        P (recomputeStatusForPart org partId ⟨w, w⟩).2.working
    rw [hrun]
    exact ⟨hafter, fun _ _ => hafter⟩

variable {db w : Database} {part : Part} {m : Movement}

theorem partRequirements_of_post (h : post db newId org actor part m = .ok w) :
    w.partRequirements = db.partRequirements := by
  obtain ⟨_, _, h⟩ := bind_eq_ok.1 h
  obtain ⟨_, _, h⟩ := bind_eq_ok.1 h
  rw [pure_eq_ok] at h
  subst h
  rfl

variable {reason : Option String → Option String} {rows : Table PartRequirement}
  {r : PartRequirement} {status : String}

theorem mem_rederived {chosen : PartRequirement → Bool}
    (h : r ∈ (rederived chosen part rows).rows) :
    ∃ r₀ ∈ rows.rows, (if chosen r₀ then derived part.availableQuantity r₀ else r₀) = r :=
  Table.mem_updateWhere.1 h

theorem mem_recomputed (h : r ∈ (recomputed org partId part rows).rows) :
    (∃ r₀ ∈ rows.rows, r = derived part.availableQuantity r₀ ∧ r₀.organizationId = org ∧
      r₀.partId = partId) ∨
      (r ∈ rows.rows ∧ ¬(r.organizationId = org ∧ r.partId = partId)) := by
  obtain ⟨r₀, hr₀, rfl⟩ := mem_rederived h
  by_cases hown : r₀.organizationId = org ∧ r₀.partId = partId
  · rw [if_pos (by simp [hown])]
    exact Or.inl ⟨r₀, hr₀, rfl, hown⟩
  · rw [if_neg (by simpa using hown)]
    exact Or.inr ⟨hr₀, hown⟩

theorem linked_moveStock :
    Keeps Linked (moveStock newId org actor partId check m) := by
  refine keeps_moveStock ?_
  intro db w part hdb hpart hpost
  obtain ⟨_, hparts, _⟩ := post_eq_ok hpost
  refine linked_of_kept (kept_of_save hparts (getPart_eq_ok hpart).1 rfl rfl) ?_
  intro r hr
  rcases mem_recomputed hr with ⟨r₀, hr₀, rfl, _⟩ | ⟨hr, _⟩
  · rw [partRequirements_of_post hpost] at hr₀
    exact hdb r₀ hr₀
  · rw [partRequirements_of_post hpost] at hr
    exact hdb r hr

theorem fresh_moveStock :
    Keeps Fresh (moveStock newId org actor partId check m) := by
  refine keeps_moveStock ?_
  intro db w part hdb hpart hpost
  obtain ⟨_, hparts, _⟩ := post_eq_ok hpost
  obtain ⟨hmem, hid, horg⟩ := getPart_eq_ok hpart
  refine hdb.of_save hparts hmem rfl rfl ?_ ?_
  · intro r hr
    rcases mem_recomputed hr with ⟨r₀, _, rfl, horg₀, hid₀⟩ | ⟨hr, _⟩
    · exact Or.inr ⟨hid.trans hid₀.symm, horg.trans horg₀.symm⟩
    · rw [partRequirements_of_post hpost] at hr
      exact Or.inl hr
  · intro r hr hown
    rcases mem_recomputed hr with ⟨r₀, _, rfl, _⟩ | ⟨_, hother⟩
    · exact freshAt_derived r₀ _
    · exact absurd ⟨hown.2.symm.trans horg, hown.1.symm.trans hid⟩ hother

theorem linked_setServiceability :
    Keeps Linked (setServiceability org partId status reason) := by
  refine Keeps.transaction ?_
  intro db db' hdb h
  obtain ⟨part, hpart, h⟩ := bind_eq_ok.1 h
  rw [pure_eq_ok] at h
  subst h
  exact linked_of_kept (kept_of_save rfl (getPart_eq_ok hpart).1 rfl rfl) hdb

theorem fresh_setServiceability :
    Keeps Fresh (setServiceability org partId status reason) := by
  refine Keeps.transaction ?_
  intro db db' hdb h
  obtain ⟨part, hpart, h⟩ := bind_eq_ok.1 h
  rw [pure_eq_ok] at h
  subst h
  obtain ⟨hmem, _, _⟩ := getPart_eq_ok hpart
  refine hdb.of_save rfl hmem rfl rfl (fun r hr => Or.inl hr) ?_
  intro r hr hown
  exact hdb r hr part (getPart_iff_partOf.2 ⟨hmem, hown⟩)

end Movements

/-! ## The requirements -/

section Requirements

variable {newId org partId requirementId : UUID} {now : DateTime} {actor : Option UUID}

theorem keeps_of_derived {f : Database → Except Error Database}
    (h : ∀ db db', f db = .ok db' → db'.parts = db.parts ∧
      ∀ r ∈ db'.partRequirements.rows, r ∈ db.partRequirements.rows ∨
        ∃ part ∈ db.parts.rows, PartOf r part ∧ FreshAt r part.availableQuantity) :
    Keeps Linked (Sessions.transaction f) ∧ Keeps Fresh (Sessions.transaction f) := by
  constructor
  · refine Keeps.transaction ?_
    intro db db' hdb hf r hr
    obtain ⟨hparts, hrows⟩ := h db db' hf
    rw [hparts]
    rcases hrows r hr with hr | ⟨part, hmem, hown, _⟩
    · exact hdb r hr
    · exact ⟨part, hmem, hown⟩
  · refine Keeps.transaction ?_
    intro db db' hdb hf r hr part' hpart'
    obtain ⟨hparts, hrows⟩ := h db db' hf
    obtain ⟨hmem', hown'⟩ := getPart_iff_partOf.1 hpart'
    rw [hparts] at hmem'
    rcases hrows r hr with hr | ⟨part, hmem, hown, hfresh⟩
    · exact hdb r hr part' (getPart_iff_partOf.2 ⟨hmem', hown'⟩)
    · rwa [Table.eq_of_key_eq hmem' hmem (hown'.1.trans hown.1.symm)]

theorem keeps_createPartRequirement {payload : PartRequirementCreateRequest} :
    Keeps Linked (createPartRequirement newId now org actor payload) ∧
      Keeps Fresh (createPartRequirement newId now org actor payload) := by
  refine keeps_of_derived ?_
  intro db db' h
  obtain ⟨part, hpart, h⟩ := bind_eq_ok.1 h
  obtain ⟨_, _, h⟩ := bind_eq_ok.1 h
  obtain ⟨_, _, h⟩ := bind_eq_ok.1 h
  obtain ⟨_, _, h⟩ := bind_eq_ok.1 h
  obtain ⟨rows, hadd, h⟩ := bind_eq_ok.1 h
  rw [pure_eq_ok] at h
  subst h
  obtain ⟨hmem, hid, horg⟩ := getPart_eq_ok hpart
  refine ⟨rfl, ?_⟩
  intro r hr
  rcases (Table.mem_insert? (addRowOrRaise_eq_ok.1 hadd)).1 hr with hr | rfl
  · exact Or.inl hr
  · exact Or.inr ⟨part, hmem, ⟨hid, horg⟩, freshAt_derived _ _⟩

theorem keeps_updatePartRequirement {payload : PartRequirementUpdateRequest}
    (hunset : payload.status = .unset) :
    Keeps Linked (updatePartRequirement org actor requirementId payload) ∧
      Keeps Fresh (updatePartRequirement org actor requirementId payload) := by
  refine keeps_of_derived ?_
  intro db db' h
  obtain ⟨r, hr, h⟩ := bind_eq_ok.1 h
  obtain ⟨status, hstatus, h⟩ := bind_eq_ok.1 h
  obtain ⟨required, hreq, h⟩ := bind_eq_ok.1 h
  obtain ⟨fulfilled, hful, h⟩ := bind_eq_ok.1 h
  obtain ⟨priority, _, h⟩ := bind_eq_ok.1 h
  obtain ⟨_, _, h⟩ := bind_eq_ok.1 h
  rw [pure_eq_ok] at h
  obtain ⟨_, _, horg⟩ := PartRequirementRuns.getPartRequirement_eq_ok hr
  obtain ⟨part, hpart, hderived⟩ := PartRequirementRuns.newStatus_eq_ok hunset hstatus
  obtain ⟨hmem, hid, hporg⟩ := getPart_eq_ok hpart
  have hwritten : db'.parts = db.parts ∧ db'.partRequirements = db.partRequirements.save
      { derived part.availableQuantity (payload.quantities r) with priority } := by
    rw [hderived, Patch.notNull_eq_ok hreq, Patch.notNull_eq_ok hful] at h
    rw [← h]
    cases payload.given with
    | true => exact ⟨rfl, rfl⟩
    | false => exact ⟨rfl, rfl⟩
  refine ⟨hwritten.1, ?_⟩
  intro x hx
  rw [hwritten.2] at hx
  rcases Table.mem_save.1 hx with ⟨hx, _⟩ | ⟨rfl, _⟩
  · exact Or.inl hx
  · exact Or.inr ⟨part, hmem, ⟨hid, hporg.trans horg.symm⟩,
      freshAt_derived (payload.quantities r) part.availableQuantity⟩

theorem keeps_recomputeStatusForPart :
    Keeps Linked (recomputeStatusForPart org partId) ∧
      Keeps Fresh (recomputeStatusForPart org partId) := by
  refine keeps_of_derived ?_
  intro db db' h
  obtain ⟨part, hpart, h⟩ := bind_eq_ok.1 h
  rw [pure_eq_ok] at h
  subst h
  obtain ⟨hmem, hid, horg⟩ := getPart_eq_ok hpart
  refine ⟨rfl, ?_⟩
  intro r hr
  rcases mem_recomputed hr with ⟨r₀, _, rfl, horg₀, hid₀⟩ | ⟨hr, _⟩
  · exact Or.inr ⟨part, hmem, ⟨hid.trans hid₀.symm, horg.trans horg₀.symm⟩, freshAt_derived _ _⟩
  · exact Or.inl hr

theorem mem_creditRows (as : List (UUID × Int)) :
    ∀ {rows : Table PartRequirement} {r : PartRequirement},
      r ∈ (as.foldl (creditRow org) rows).rows →
      ∃ r₀ ∈ rows.rows, r.id = r₀.id ∧ r.partId = r₀.partId ∧
        r.organizationId = r₀.organizationId ∧ (r.id ∉ as.map Prod.fst → r = r₀) := by
  induction as with
  | nil =>
    intro rows r hr
    exact ⟨r, hr, rfl, rfl, rfl, fun _ => rfl⟩
  | cons a as ih =>
    intro rows r hr
    obtain ⟨r₁, hr₁, hid, hpart, horg, hsame⟩ := ih hr
    obtain ⟨r₀, hr₀, rfl⟩ := Table.mem_updateWhere.1 hr₁
    by_cases hcredited : (decide (r₀.id = a.1) && decide (r₀.organizationId = org)) = true
    · rw [if_pos hcredited] at hid hpart horg hsame
      refine ⟨r₀, hr₀, hid, hpart, horg, ?_⟩
      intro hnot
      simp only [Bool.and_eq_true, decide_eq_true_eq] at hcredited
      exact absurd (List.mem_map.2 ⟨a, List.mem_cons_self, (hid.trans hcredited.1).symm⟩) hnot
    · rw [if_neg hcredited] at hid hpart horg hsame
      exact ⟨r₀, hr₀, hid, hpart, horg, fun hnot => hsame fun h => hnot (List.mem_cons_of_mem _ h)⟩

theorem mem_matching {db : Database} {workOrderId : UUID} {taskId : Option UUID}
    {r : PartRequirement} (h : r ∈ matching db org partId workOrderId taskId) :
    r ∈ db.partRequirements.rows ∧ r.organizationId = org ∧ r.partId = partId := by
  have hsel := (List.mem_insertionSort _).1 h
  rw [Table.mem_select] at hsel
  simp only [Bool.and_eq_true, decide_eq_true_eq] at hsel
  exact ⟨hsel.1, hsel.2.1.1.1, hsel.2.1.1.2⟩

/-- A receipt derives the statuses of the rows it credits. -/
theorem keeps_fulfillFromReceipt {workOrderId taskId : Option UUID} {q : Int} :
    Keeps Linked (fulfillFromReceipt org partId workOrderId taskId q) ∧
      Keeps Fresh (fulfillFromReceipt org partId workOrderId taskId q) := by
  cases workOrderId with
  | none => exact ⟨Keeps.pure (), Keeps.pure ()⟩
  | some workOrderId =>
    simp only [fulfillFromReceipt]
    split
    · exact ⟨Keeps.pure (), Keeps.pure ()⟩
    · refine keeps_of_derived ?_
      intro db db' h
      split at h
      · rw [pure_eq_ok] at h
        subst h
        exact ⟨rfl, fun r hr => Or.inl hr⟩
      · obtain ⟨part, hpart, h⟩ := bind_eq_ok.1 h
        rw [pure_eq_ok] at h
        subst h
        obtain ⟨hmem, hid, horg⟩ := getPart_eq_ok hpart
        refine ⟨rfl, ?_⟩
        intro r hr
        obtain ⟨r₁, hr₁, rfl⟩ := mem_rederived hr
        obtain ⟨r₀, hr₀, hid₀, hpart₀, horg₀, hsame⟩ := mem_creditRows _ hr₁
        by_cases htouched : r₁.id ∈
            (allocations (matching db org partId workOrderId taskId) q).map Prod.fst
        · rw [if_pos (List.contains_iff_mem.2 htouched)]
          -- the row was planned for, so it is one of those that were read
          obtain ⟨a, ha, haid⟩ := List.mem_map.1 htouched
          obtain ⟨_, r₂, hr₂, hid₂⟩ := mem_allocations a ha
          obtain ⟨hrow₂, horg₂, hpart₂⟩ := mem_matching hr₂
          obtain rfl : r₂ = r₀ :=
            Table.eq_of_key_eq hrow₂ hr₀ (hid₂.trans (haid.trans hid₀))
          exact Or.inr ⟨part, hmem, ⟨hid.trans (hpart₀.trans hpart₂).symm,
            horg.trans (horg₀.trans horg₂).symm⟩, freshAt_derived _ _⟩
        · rw [if_neg fun h => htouched (List.contains_iff_mem.1 h), hsame htouched]
          exact Or.inl hr₀

end Requirements

/-! ## The part rows -/

section Parts

variable {newId org partId : UUID} {actor : Option UUID} {db db' : Database}

theorem linked_createPart {payload : PartCreateRequest} :
    Keeps Linked (createPart newId org actor payload) := by
  refine Keeps.transaction ?_
  intro db db' hdb h
  obtain ⟨_, _, h⟩ := bind_eq_ok.1 h
  obtain ⟨parts, hadd, h⟩ := bind_eq_ok.1 h
  rw [pure_eq_ok] at h
  subst h
  intro r hr
  obtain ⟨p, hp, hown⟩ := hdb r hr
  exact ⟨p, (Table.mem_insert? (addRowOrRaise_eq_ok.1 hadd)).2 (Or.inl hp), hown⟩

theorem fresh_createPart {payload : PartCreateRequest} (hlinked : Linked db) (h : Fresh db) :
    Fresh (left (createPart newId org actor payload) db) := by
  refine Sessions.left_transaction_of h ?_
  intro db' hrun
  obtain ⟨_, _, hrun⟩ := bind_eq_ok.1 hrun
  obtain ⟨parts, hadd, hrun⟩ := bind_eq_ok.1 hrun
  rw [pure_eq_ok] at hrun
  subst hrun
  have hinsert := addRowOrRaise_eq_ok.1 hadd
  intro r hr part hpart
  obtain ⟨hmem, hown⟩ := getPart_iff_partOf.1 hpart
  rcases (Table.mem_insert? hinsert).1 hmem with hmem | hnew
  · exact h r hr part (getPart_iff_partOf.2 ⟨hmem, hown⟩)
  · obtain ⟨p, hp, hpown⟩ := hlinked r hr
    have hsame : p.id = part.id := hpown.1.trans hown.1.symm
    rw [hnew] at hsame
    exact absurd (List.mem_map.2 ⟨p, hp, hsame⟩) (Table.insert?_eq_some hinsert).1

def edited (payload : PartUpdateRequest) (part : Part) : Part :=
  { part with
    quantityOnHand := payload.quantityOnHand.newValue part.quantityOnHand
    quantityReserved := payload.quantityReserved.newValue part.quantityReserved }

/-- The update of a part is not refused: no `None` in a column that takes none, and the
quantities meet the constraints. -/
def Accepted (payload : PartUpdateRequest) (part : Part) : Prop :=
  payload.partNumber ≠ .null ∧ payload.description ≠ .null ∧ payload.quantityOnHand ≠ .null ∧
    payload.quantityReserved ≠ .null ∧ (edited payload part).Admitted

theorem notNull_of_ne_null {α : Type} {p : Patch α} (h : p ≠ .null) (old : α) :
    p.notNull old = .ok (p.newValue old) := by
  cases p with
  | unset => rfl
  | null => exact absurd rfl h
  | value a => rfl

variable {payload : PartUpdateRequest}

theorem apply_of_accepted {part : Part} (h : Accepted payload part) :
    ∃ part', payload.apply part = .ok part' := by
  obtain ⟨hnumber, hdescription, hon, hres, hadmitted⟩ := h
  exact ⟨_, bind_eq_ok.2 ⟨_, notNull_of_ne_null hnumber _,
    bind_eq_ok.2 ⟨_, notNull_of_ne_null hdescription _,
      bind_eq_ok.2 ⟨_, notNull_of_ne_null hon _,
        bind_eq_ok.2 ⟨_, notNull_of_ne_null hres _,
          bind_eq_ok.2 ⟨(), raiseIf_eq_ok.2 (not_not.2 hadmitted), rfl⟩⟩⟩⟩⟩⟩

theorem accepted_of_apply {part part' : Part} (h : payload.apply part = .ok part') :
    Accepted payload part ∧ part'.availableQuantity = (edited payload part).availableQuantity := by
  obtain ⟨hadmitted, _, _, hon, hres, hquar⟩ := payload.apply_eq_ok h
  obtain ⟨_, hnumber, h⟩ := bind_eq_ok.1 h
  obtain ⟨_, hdescription, h⟩ := bind_eq_ok.1 h
  obtain ⟨_, honHand, h⟩ := bind_eq_ok.1 h
  obtain ⟨_, hreserved, _⟩ := bind_eq_ok.1 h
  refine ⟨⟨Patch.ne_null_of_notNull hnumber, Patch.ne_null_of_notNull hdescription,
    Patch.ne_null_of_notNull honHand, Patch.ne_null_of_notNull hreserved, ?_⟩, ?_⟩
  · rw [Part.Admitted, hon, hres, hquar] at hadmitted
    exact hadmitted
  · rw [Part.availableQuantity, hon, hres, hquar]
    rfl

/-- An update of a part leaves its stock on the side of each open requirement on which it
stands. -/
def KeepsSides (db : Database) : Action → Prop
  | .inventory (.updatePart org _ partId payload) =>
    ∀ part, getPart db org partId = .ok part → Accepted payload part →
      ∀ r ∈ db.partRequirements.rows, r.partId = partId → r.organizationId = org →
        isOpen r.status →
          (outstanding r ≤ part.availableQuantity ↔
            outstanding r ≤ (edited payload part).availableQuantity)
  | _ => True

theorem updatePart_parts (actor : Option UUID) {part part' : Part}
    (hget : getPart db org partId = .ok part) (happly : payload.apply part = .ok part') :
    (left (updatePart org actor partId payload) db).parts = db.parts.save part' ∧
      (left (updatePart org actor partId payload) db).partRequirements = db.partRequirements := by
  have hrun : left (updatePart org actor partId payload) db
      = if payload.given then
          ({ db with parts := db.parts.save part' }).recordAuditEvent org actor "part.updated"
            "Part" (some partId)
        else { db with parts := db.parts.save part' } := by
    rw [updatePart, Sessions.left_transaction, Runs.attempt, hget]
    simp only [bind, Except.bind, happly]
    rfl
  rw [hrun]
  cases payload.given with
  | true => exact ⟨rfl, rfl⟩
  | false => exact ⟨rfl, rfl⟩

theorem left_updatePart_of_error
    (h : ∀ part, getPart db org partId = .ok part → ¬Accepted payload part) :
    left (updatePart org actor partId payload) db = db := by
  rw [updatePart, Sessions.left_transaction, Runs.attempt]
  cases hget : getPart db org partId with
  | error e => rfl
  | ok part =>
    cases happly : payload.apply part with
    | error e =>
      simp only [bind, Except.bind, happly]
    | ok part' => exact absurd (accepted_of_apply happly).1 (h part hget)

theorem linked_updatePart :
    Keeps Linked (updatePart org actor partId payload) := by
  refine Keeps.transaction ?_
  intro db db' hdb h
  obtain ⟨old, hget, h⟩ := bind_eq_ok.1 h
  obtain ⟨new, happly, h⟩ := bind_eq_ok.1 h
  rw [pure_eq_ok] at h
  obtain ⟨_, hid, horg, _⟩ := payload.apply_eq_ok happly
  have hwritten : db'.parts = db.parts.save new ∧
      db'.partRequirements = db.partRequirements := by
    subst h
    split
    · exact ⟨rfl, rfl⟩
    · exact ⟨rfl, rfl⟩
  refine linked_of_kept (kept_of_save hwritten.1 (getPart_eq_ok hget).1 hid horg) ?_
  rw [hwritten.2]
  exact hdb

/-- **ONE UPDATE** keeps the statuses fresh exactly when it keeps the sides. -/
theorem fresh_updatePart_iff (h : Fresh db) :
    Fresh (left (updatePart org actor partId payload) db) ↔
      KeepsSides db (.inventory (.updatePart org actor partId payload)) := by
  by_cases hgoes : ∃ part, getPart db org partId = .ok part ∧ Accepted payload part
  · obtain ⟨old, hget, haccepted⟩ := hgoes
    obtain ⟨new, happly⟩ := apply_of_accepted haccepted
    obtain ⟨hmem, hid, horg⟩ := getPart_eq_ok hget
    obtain ⟨_, hnewId, hnewOrg, _⟩ := payload.apply_eq_ok happly
    obtain ⟨_, havailable⟩ := accepted_of_apply happly
    obtain ⟨hparts, hrows⟩ := updatePart_parts actor hget happly
    have hnew : new ∈ (left (updatePart org actor partId payload) db).parts.rows :=
      (parts_of_save hparts hmem hnewId new).2 (Or.inr rfl)
    -- the requirements of the part are the ones to look at
    have hown : Fresh (left (updatePart org actor partId payload) db) ↔
        ∀ r ∈ db.partRequirements.rows, PartOf r old → FreshAt r new.availableQuantity := by
      constructor
      · intro hfresh r hr hrown
        refine hfresh r (hrows ▸ hr) new (getPart_iff_partOf.2 ⟨hnew, ?_⟩)
        exact ⟨hnewId.trans hrown.1, hnewOrg.trans hrown.2⟩
      · intro hfresh
        refine h.of_save hparts hmem hnewId hnewOrg (fun r hr => Or.inl (hrows ▸ hr)) ?_
        rw [hrows]
        exact hfresh
    rw [hown, KeepsSides]
    constructor
    · intro hfresh part hpart _ r hr hrpart hrorg hopen
      obtain rfl : old = part := Except.ok.inj (hget.symm.trans hpart)
      have hrown : PartOf r old := ⟨hid.trans hrpart.symm, horg.trans hrorg.symm⟩
      have hbefore := h r hr old (getPart_iff_partOf.2 ⟨hmem, hrown⟩)
      have hafter := hfresh r hr hrown
      rw [havailable] at hafter
      exact (freshAt_iff_side hbefore hopen).1 hafter
    · intro hsides r hr hrown hopen
      have hbefore := h r hr old (getPart_iff_partOf.2 ⟨hmem, hrown⟩)
      have hside := hsides old hget haccepted r hr (hrown.1.symm.trans hid)
        (hrown.2.symm.trans horg) hopen
      rw [havailable]
      exact (freshAt_iff_side hbefore hopen).2 hside hopen
  · have hnone : ∀ part, getPart db org partId = .ok part → ¬Accepted payload part :=
      fun part hget haccepted => hgoes ⟨part, hget, haccepted⟩
    rw [left_updatePart_of_error hnone]
    exact iff_of_true h fun part hget haccepted => absurd haccepted (hnone part hget)

end Parts

/-! ## The statuses over runs -/

section Runs

variable {db : Database}

theorem linked_call (a : Action) : Keeps Linked (call a) := by
  cases a with
  | inventory a =>
    cases a with
    | createPart newId org actor payload => exact linked_createPart
    | updatePart org actor partId payload => exact linked_updatePart
    | receivePart newId org actor partId payload => exact linked_moveStock
    | reservePart newId org actor partId payload => exact linked_moveStock
    | releaseReservation newId org actor partId payload => exact linked_moveStock
    | consumePart newId org actor partId payload => exact linked_moveStock
    | adjustPart newId org actor partId payload => exact linked_moveStock
    | quarantinePart newId org actor partId payload =>
      exact Keeps.bind linked_moveStock fun _ => linked_setServiceability
    | releaseQuarantine newId org actor partId payload =>
      exact Keeps.bind linked_moveStock fun _ => linked_setServiceability
  | requirement a =>
    cases a with
    | create newId now org actor payload => exact keeps_createPartRequirement.1
    | update org actor requirementId payload hunset => exact (keeps_updatePartRequirement hunset).1
    | recompute org partId => exact keeps_recomputeStatusForPart.1
    | fulfill org partId workOrderId taskId q => exact keeps_fulfillFromReceipt.1

/-- **ONE CALL**: only an update of a part can leave a stale status. -/
theorem fresh_call_iff (a : Action) (hlinked : Linked db) (h : Fresh db) :
    Fresh (left (call a) db) ↔ KeepsSides db a := by
  cases a with
  | inventory a =>
    cases a with
    | createPart newId org actor payload => exact iff_of_true (fresh_createPart hlinked h) trivial
    | updatePart org actor partId payload => exact fresh_updatePart_iff h
    | receivePart newId org actor partId payload =>
      exact iff_of_true (fresh_moveStock.left h) trivial
    | reservePart newId org actor partId payload =>
      exact iff_of_true (fresh_moveStock.left h) trivial
    | releaseReservation newId org actor partId payload =>
      exact iff_of_true (fresh_moveStock.left h) trivial
    | consumePart newId org actor partId payload =>
      exact iff_of_true (fresh_moveStock.left h) trivial
    | adjustPart newId org actor partId payload =>
      exact iff_of_true (fresh_moveStock.left h) trivial
    | quarantinePart newId org actor partId payload =>
      refine iff_of_true (Keeps.left ?_ h) trivial
      exact Keeps.bind fresh_moveStock fun _ => fresh_setServiceability
    | releaseQuarantine newId org actor partId payload =>
      refine iff_of_true (Keeps.left ?_ h) trivial
      exact Keeps.bind fresh_moveStock fun _ => fresh_setServiceability
  | requirement a =>
    cases a with
    | create newId now org actor payload =>
      exact iff_of_true (keeps_createPartRequirement.2.left h) trivial
    | update org actor requirementId payload hunset =>
      exact iff_of_true ((keeps_updatePartRequirement hunset).2.left h) trivial
    | recompute org partId => exact iff_of_true (keeps_recomputeStatusForPart.2.left h) trivial
    | fulfill org partId workOrderId taskId q =>
      exact iff_of_true (keeps_fulfillFromReceipt.2.left h) trivial

/-- **REQUIREMENT STATUSES**: no state of a run has a stale REQUIRED, SHORT or AVAILABLE exactly
when each update of a part leaves its stock on the side of every open requirement on which it
stands. -/
theorem statuses_fresh_iff (hlinked : Linked db) (hstart : Fresh db) (as : List Action) :
    (∀ db' ∈ Runs.visited (Sessions.step call) db as, ∀ r ∈ db'.partRequirements.rows,
        isOpen r.status → ∀ part, getPart db' r.organizationId r.partId = .ok part →
          r.status = deriveStatus r part.availableQuantity) ↔
      Runs.StepsMeet (Sessions.step call) KeepsSides db as := by
  have hruns : (∀ db' ∈ Runs.visited (Sessions.step call) db as, Fresh db') ↔
      Runs.StepsMeet (Sessions.step call) KeepsSides db as := by
    refine Runs.forall_visited_iff (P := Fresh) (fun s a hs => ?_) as db hlinked hstart ?_
    · exact (linked_call a).left hs
    · intro s hs hP a _
      exact fresh_call_iff a hs hP
  rw [← hruns]
  constructor
  · intro h db' hdb' r hr part hpart hopen
    exact h db' hdb' r hr hopen part hpart
  · intro h db' hdb' r hr hopen part hpart
    exact h db' hdb' r hr part hpart hopen

end Runs

/-- A work order that needs two valves, of which none is there. -/
def shortOfValves : Database where
  parts := .single { id := 5, organizationId := 1, partNumber := "PN-5", description := "Valve" }
  workOrders := .single { id := 3, organizationId := 1 }

def needTwoValves : Action :=
  .requirement (.create 40 0 1 none { workOrderId := 3, partId := 5, requiredQuantity := 2 })

/-- The valves are counted in by an update of the part: the requirement stays SHORT. -/
theorem updatedValves_stale :
    ¬∀ db' ∈ Runs.visited (Sessions.step call) shortOfValves
        [needTwoValves, .inventory (.updatePart 1 none 5 { quantityOnHand := .value 2 })],
      ∀ r ∈ db'.partRequirements.rows, isOpen r.status → ∀ part,
        getPart db' r.organizationId r.partId = .ok part →
          r.status = deriveStatus r part.availableQuantity := by
  intro h
  have hstale : ∃ db' ∈ Runs.visited (Sessions.step call) shortOfValves
      [needTwoValves, .inventory (.updatePart 1 none 5 { quantityOnHand := .value 2 })],
      ∃ r ∈ db'.partRequirements.rows, isOpen r.status ∧ ∃ part ∈ db'.parts.rows,
        (part.id = r.partId ∧ part.organizationId = r.organizationId) ∧
          r.status ≠ deriveStatus r part.availableQuantity := by
    decide
  obtain ⟨db', hdb', r, hr, hopen, part, hpart, hown, hne⟩ := hstale
  exact hne (h db' hdb' r hr hopen part (getPart_iff_partOf.2 ⟨hpart, hown⟩))

/-- The valves are received, and one of them is written off: AVAILABLE, and SHORT again. -/
theorem receivedValves_fresh :
    (Runs.visited (Sessions.step call) shortOfValves
      [needTwoValves, .inventory (.receivePart 50 1 none 5 { quantity := 2 }),
        .inventory (.updatePart 1 none 5 { location := .value "B2" }),
        .inventory (.adjustPart 51 1 none 5 { onHandDelta := -1 })]).Forall
      fun db' => ∀ r ∈ db'.partRequirements.rows, isOpen r.status → ∀ part,
        getPart db' r.organizationId r.partId = .ok part →
          r.status = deriveStatus r part.availableQuantity := by
  refine List.forall_iff_forall_mem.2
    ((statuses_fresh_iff ?_ ?_ _).2 ⟨trivial, trivial, ?_, trivial, trivial⟩)
  · intro r hr
    cases hr
  · intro r hr
    cases hr
  · intro part hpart _ r _ _ _ _
    exact Iff.rfl

end RequirementStatus
end AeroComply
