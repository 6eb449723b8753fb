import AeroComply.Services.ReleaseReadiness

/-!
# PartRequirementRuns — material requirements over sequences of calls

`Covered` is what a material requirement should satisfy: nothing negative, nothing
beyond what is required, and FULFILLED only when the required quantity is there.
Creation, derivation and receipts keep it.  An update writes both quantities
unchecked, and FULFILLED is never derived away, so an update keeps it exactly when
the quantities it leaves do.

The MATERIAL blockers trust the status, so they are complete where it holds.
-/

namespace AeroComply

open Relational (Table)

namespace PartRequirementRuns

open PartRequirementService ReleaseReadinessService
open Sessions (Call Keeps left)

inductive Action
  | create (newId : UUID) (now : DateTime) (organizationId : UUID) (actor : Option UUID)
      (payload : PartRequirementCreateRequest)
  | update (organizationId : UUID) (actor : Option UUID) (requirementId : UUID)
      (payload : PartRequirementUpdateRequest) (noStatus : payload.status = .unset)
  | recompute (organizationId partId : UUID)
  | fulfill (organizationId partId : UUID) (workOrderId taskId : Option UUID)
      (receivedQuantity : Int)

def call : Action → Call Database Error Unit
  | .create newId now org actor payload => createPartRequirement newId now org actor payload
  | .update org actor requirementId payload _ =>
    updatePartRequirement org actor requirementId payload
  | .recompute org partId => recomputeStatusForPart org partId
  | .fulfill org partId workOrderId taskId q =>
    fulfillFromReceipt org partId workOrderId taskId q

structure Covered (r : PartRequirement) : Prop where
  nonneg : 0 ≤ r.fulfilledQuantity
  within : r.fulfilledQuantity ≤ r.requiredQuantity
  fulfilled : r.status = PartRequirementStatus.fulfilled →
    r.requiredQuantity ≤ r.fulfilledQuantity

def AllCovered (db : Database) : Prop := ∀ r ∈ db.partRequirements.rows, Covered r

/-- An update that is refused because of a `None` in a column that takes none. -/
def givesNull (payload : PartRequirementUpdateRequest) : Prop :=
  payload.requiredQuantity = .null ∨ payload.fulfilledQuantity = .null ∨ payload.priority = .null

instance (payload : PartRequirementUpdateRequest) : Decidable (givesNull payload) :=
  inferInstanceAs (Decidable (_ ∨ _ ∨ _))

/-- The quantities an update leaves: no more than required, and all of it if the requirement
is FULFILLED already. -/
def Careful (db : Database) : Action → Prop
  | .update org _ requirementId payload _ =>
    ∀ r ∈ db.partRequirements.rows, r.id = requirementId → r.organizationId = org →
      givesNull payload ∨
        ((payload.quantities r).fulfilledQuantity ≤ (payload.quantities r).requiredQuantity ∧
          (r.status = PartRequirementStatus.fulfilled →
            (payload.quantities r).requiredQuantity ≤ (payload.quantities r).fulfilledQuantity))
  | _ => True

instance (db : Database) : (a : Action) → Decidable (Careful db a)
  | .update .. => by
    dsimp only [Careful]
    infer_instance
  | .create .. | .recompute .. | .fulfill .. => isTrue trivial

/-! ## The statuses that are derived -/

variable {r : PartRequirement} {db : Database}

theorem derived_covered {available : Int} (hn : 0 ≤ r.fulfilledQuantity)
    (hw : r.fulfilledQuantity ≤ r.requiredQuantity)
    (hf : r.status = PartRequirementStatus.fulfilled → r.requiredQuantity ≤ r.fulfilledQuantity) :
    Covered (derived available r) := by
  refine ⟨hn, hw, ?_⟩
  show deriveStatus r available = PartRequirementStatus.fulfilled →
    r.requiredQuantity ≤ r.fulfilledQuantity
  intro hstatus
  rw [deriveStatus] at hstatus
  split at hstatus
  · exact hf hstatus
  · split at hstatus
    · next hout =>
      rw [outstanding] at hout
      omega
    · split at hstatus
      · exact absurd hstatus (by decide)
      · exact absurd hstatus (by decide)

theorem Covered.derived {available : Int} (h : Covered r) :
    Covered (derived available r) := derived_covered h.nonneg h.within h.fulfilled

theorem Covered.credited {delta : Int} (hdelta : 0 ≤ delta) (h : Covered r) :
    Covered (credited delta r) := by
  obtain ⟨hn, hw, hf⟩ := h
  refine ⟨?_, ?_, ?_⟩
  · show 0 ≤ min r.requiredQuantity (r.fulfilledQuantity + delta)
    omega
  · show min r.requiredQuantity (r.fulfilledQuantity + delta) ≤ r.requiredQuantity
    omega
  · intro hstatus
    have hfull := hf hstatus
    show r.requiredQuantity ≤ min r.requiredQuantity (r.fulfilledQuantity + delta)
    omega

/-! ## The calls -/

section Calls

variable {newId org partId requirementId : UUID} {now : DateTime} {actor : Option UUID}

theorem create_keeps {payload : PartRequirementCreateRequest} :
    Keeps AllCovered (createPartRequirement newId now org actor payload) := by
  refine Keeps.transaction ?_
  intro db db' hdb h
  obtain ⟨part, _, h⟩ := bind_eq_ok.1 h
  obtain ⟨_, _, h⟩ := bind_eq_ok.1 h
  obtain ⟨_, _, h⟩ := bind_eq_ok.1 h
  obtain ⟨_, _, h⟩ := bind_eq_ok.1 h
  obtain ⟨rows, hadd, h⟩ := bind_eq_ok.1 h
  rw [pure_eq_ok] at h
  subst h
  intro r hr
  rcases (Table.mem_insert? (addRowOrRaise_eq_ok.1 hadd)).1 hr with hr | rfl
  · exact hdb r hr
  · have hpos := payload.required_pos
    refine derived_covered (le_refl 0) ?_ ?_
    · show 0 ≤ payload.requiredQuantity
      omega
    · intro hstatus
      have hne : PartRequirementStatus.required ≠ PartRequirementStatus.fulfilled := by decide
      exact absurd hstatus hne

theorem recompute_keeps : Keeps AllCovered (recomputeStatusForPart org partId) := by
  refine Keeps.transaction ?_
  intro db db' hdb h
  obtain ⟨part, _, h⟩ := bind_eq_ok.1 h
  rw [pure_eq_ok] at h
  subst h
  exact Table.forall_updateWhere (f := derived part.availableQuantity) (fun _ => rfl) hdb
    fun _ hr => hr.derived

theorem creditRow_covered {rows : Table PartRequirement} {a : UUID × Int} (ha : 0 ≤ a.2)
    (h : ∀ r ∈ rows.rows, Covered r) : ∀ r ∈ (creditRow org rows a).rows, Covered r :=
  Table.forall_updateWhere (f := credited a.2) (fun _ => rfl) h fun _ hr => hr.credited ha

theorem creditRows_covered (org : UUID) (as : List (UUID × Int)) :
    ∀ rows : Table PartRequirement, (∀ a ∈ as, 0 < a.2) → (∀ r ∈ rows.rows, Covered r) →
      ∀ r ∈ (as.foldl (creditRow org) rows).rows, Covered r := by
  induction as with
  | nil => exact fun _ _ h => h
  | cons a as ih =>
    intro rows hpos h
    refine ih _ (fun b hb => hpos b (List.mem_cons_of_mem _ hb)) ?_
    exact creditRow_covered (le_of_lt (hpos a List.mem_cons_self)) h

theorem fulfill_keeps {workOrderId taskId : Option UUID} {q : Int} :
    Keeps AllCovered (fulfillFromReceipt org partId workOrderId taskId q) := by
  cases workOrderId with
  | none => exact Keeps.pure ()
  | some workOrderId =>
    simp only [fulfillFromReceipt]
    split
    · exact Keeps.pure ()
    · refine Keeps.transaction ?_
      intro db db' hdb h
      split at h
      · rw [pure_eq_ok] at h
        subst h
        exact hdb
      · obtain ⟨part, _, h⟩ := bind_eq_ok.1 h
        rw [pure_eq_ok] at h
        subst h
        have hpos : ∀ a ∈ allocations (matching db org partId workOrderId taskId) q, 0 < a.2 :=
          fun a ha => (mem_allocations a ha).1
        have hcredited := creditRows_covered org _ _ hpos hdb
        exact Table.forall_updateWhere (f := derived part.availableQuantity) (fun _ => rfl)
          hcredited fun _ hr => hr.derived

variable {payload : PartRequirementUpdateRequest} {db : Database} {r : PartRequirement}

theorem getPartRequirement_eq_ok (h : getPartRequirement db org requirementId = .ok r) :
    r ∈ db.partRequirements.rows ∧ r.id = requirementId ∧ r.organizationId = org := by
  simpa using mem_of_oneOrRaise h

theorem newStatus_eq_ok {status : String} (hunset : payload.status = .unset)
    (h : payload.newStatus db org r = .ok status) :
    ∃ part, PartService.getPart db org r.partId = .ok part ∧
      status = deriveStatus (payload.quantities r) part.availableQuantity := by
  rw [PartRequirementUpdateRequest.newStatus, hunset] at h
  obtain ⟨part, hpart, h⟩ := bind_eq_ok.1 h
  obtain ⟨_, _, h⟩ := bind_eq_ok.1 h
  exact ⟨part, hpart, (pure_eq_ok.1 h).symm⟩

theorem update_keeps (hunset : payload.status = .unset) (hdb : AllCovered db)
    (hcareful : Careful db (.update org actor requirementId payload hunset)) :
    AllCovered (left (updatePartRequirement org actor requirementId payload) db) := by
  refine Sessions.left_transaction_of hdb ?_
  intro db' h
  obtain ⟨r, hr, h⟩ := bind_eq_ok.1 h
  obtain ⟨status, hstatus, h⟩ := bind_eq_ok.1 h
  obtain ⟨required, hreq, h⟩ := bind_eq_ok.1 h
  obtain ⟨fulfilled, hful, h⟩ := bind_eq_ok.1 h
  obtain ⟨priority, hpri, h⟩ := bind_eq_ok.1 h
  obtain ⟨_, hadmitted, h⟩ := bind_eq_ok.1 h
  rw [pure_eq_ok] at h
  obtain ⟨hmem, hid, horg⟩ := getPartRequirement_eq_ok hr
  obtain ⟨part, _, hderived⟩ := newStatus_eq_ok hunset hstatus
  have hquantities : Covered (derived part.availableQuantity (payload.quantities r)) := by
    rcases hcareful r hmem hid horg with hnull | ⟨hwithin, hfull⟩
    · rcases hnull with hnull | hnull | hnull
      · exact absurd hnull (Patch.ne_null_of_notNull hreq)
      · exact absurd hnull (Patch.ne_null_of_notNull hful)
      · exact absurd hnull (Patch.ne_null_of_notNull hpri)
    · refine derived_covered ?_ hwithin hfull
      have hnonneg := (not_not.1 (raiseIf_eq_ok.1 hadmitted)).2
      rwa [Patch.notNull_eq_ok hful] at hnonneg
  have hrows : db'.partRequirements
      = db.partRequirements.save { r with
        requiredQuantity := required, fulfilledQuantity := fulfilled, status, priority } := by
    rw [← h]
    cases payload.given with
    | true => rfl
    | false => rfl
  rw [AllCovered, hrows]
  intro x hx
  rcases Table.mem_save.1 hx with ⟨hx, _⟩ | ⟨rfl, _⟩
  · exact hdb x hx
  · rw [hderived, Patch.notNull_eq_ok hreq, Patch.notNull_eq_ok hful]
    exact ⟨hquantities.nonneg, hquantities.within, hquantities.fulfilled⟩

end Calls

/-- **ONE CALL**: a careful call keeps every material requirement covered. -/
theorem call_keeps_covered {a : Action} (hdb : AllCovered db) (hcareful : Careful db a) :
    AllCovered (left (call a) db) := by
  cases a with
  | create newId now org actor payload => exact create_keeps.left hdb
  | update org actor requirementId payload hunset => exact update_keeps hunset hdb hcareful
  | recompute org partId => exact recompute_keeps.left hdb
  | fulfill org partId workOrderId taskId q => exact fulfill_keeps.left hdb

theorem material_blocked (hdb : AllCovered db) {org workOrderId : UUID}
    {readiness : ReleaseReadiness} (h : getReleaseReadiness db org workOrderId = .ok readiness)
    (hr : r ∈ db.partRequirements.rows) (horg : r.organizationId = org)
    (hwo : r.workOrderId = workOrderId) (hopen : r.status ≠ PartRequirementStatus.cancelled)
    (hshort : r.fulfilledQuantity < r.requiredQuantity) :
    ∃ b ∈ readiness.blockers, b.category = .material ∧ b.relatedRecordId = some r.id := by
  obtain ⟨workOrder, hfound, h⟩ := bind_eq_ok.1 h
  rw [pure_eq_ok] at h
  subst h
  have hid : workOrder.id = workOrderId := (Database.getWorkOrder_eq_ok hfound).2.1
  have hne : r.status ≠ PartRequirementStatus.fulfilled := by
    intro hstatus
    have := (hdb r hr).fulfilled hstatus
    omega
  have hmaterial : r ∈ materialOf db org workOrder.id := by
    rw [materialOf, Table.mem_select, Bool.and_eq_true, decide_eq_true_eq, decide_eq_true_eq, hid]
    exact ⟨hr, horg, hwo⟩
  have hblocker : materialBlocker r ∈ materialBlockers (materialOf db org workOrder.id) := by
    refine List.mem_map_of_mem (List.mem_filter.2 ⟨hmaterial, ?_⟩)
    simp [isShort, isSettled, hne, hopen, hshort]
  refine ⟨materialBlocker r, ?_, rfl, rfl⟩
  show materialBlocker r ∈ blockersOf db org workOrder
  simp only [blockersOf, List.mem_append]
  exact Or.inl (Or.inl (Or.inr hblocker))

/-- What a state says of its material requirements, and of what blocks a release. -/
structure Settled (db : Database) : Prop where
  within : ∀ r ∈ db.partRequirements.rows,
    0 ≤ r.fulfilledQuantity ∧ r.fulfilledQuantity ≤ r.requiredQuantity
  fulfilled : ∀ r ∈ db.partRequirements.rows, r.status = PartRequirementStatus.fulfilled →
    r.requiredQuantity ≤ r.fulfilledQuantity
  blocked : ∀ org workOrderId readiness, getReleaseReadiness db org workOrderId = .ok readiness →
    ∀ r ∈ db.partRequirements.rows, r.organizationId = org → r.workOrderId = workOrderId →
      r.status ≠ PartRequirementStatus.cancelled → r.fulfilledQuantity < r.requiredQuantity →
        ∃ b ∈ readiness.blockers, b.category = .material ∧ b.relatedRecordId = some r.id

theorem AllCovered.settled (h : AllCovered db) : Settled db where
  within r hr := ⟨(h r hr).nonneg, (h r hr).within⟩
  fulfilled r hr := (h r hr).fulfilled
  blocked _ _ _ hready _ hr horg hwo hopen hshort :=
    material_blocked h hready hr horg hwo hopen hshort

/-- **SETTLED REQUIREMENTS ARE COVERED**: in every state that careful calls reach, no
requirement has more or less than it may, FULFILLED means covered, and a short requirement
that is not cancelled blocks the release of its work order. -/
theorem requirements_settled {db : Database}
    (hstart : ∀ r ∈ db.partRequirements.rows, Covered r) (as : List Action)
    (hcareful : Runs.StepsMeet (Sessions.step call) Careful db as) :
    ∀ db' ∈ Runs.visited (Sessions.step call) db as, Settled db' := by
  intro db' hdb'
  have hall := Sessions.visited_invariant (fun _ _ hs hok => call_keeps_covered hs hok) as hstart
    hcareful
  exact AllCovered.settled (hall db' hdb')

/-- A work order and a part to need. -/
def pumpWorkOrder : Database where
  parts := .single { id := 7, organizationId := 1, partNumber := "PN-7", description := "Pump" }
  workOrders := .single { id := 3, organizationId := 1 }

def needOnePump : Action :=
  .create 30 0 1 none { workOrderId := 3, partId := 7 }

/-- Fulfilled once, and then needed twice: FULFILLED stays. -/
theorem raised_requirement_unsettled :
    ¬∀ db' ∈ Runs.visited (Sessions.step call) pumpWorkOrder
      [needOnePump, .fulfill 1 7 (some 3) none 1,
        .update 1 none 30 { requiredQuantity := .value 5 } rfl], Settled db' := by
  intro h
  have hshort : ∃ db' ∈ Runs.visited (Sessions.step call) pumpWorkOrder
      [needOnePump, .fulfill 1 7 (some 3) none 1,
        .update 1 none 30 { requiredQuantity := .value 5 } rfl],
      ¬∀ r ∈ db'.partRequirements.rows, r.status = PartRequirementStatus.fulfilled →
        r.requiredQuantity ≤ r.fulfilledQuantity := by
    decide
  obtain ⟨db', hmem, hnot⟩ := hshort
  exact hnot (h db' hmem).fulfilled

/-- Raised before it is fulfilled, the requirement takes two receipts. -/
theorem raised_requirement_settled :
    (Runs.visited (Sessions.step call) pumpWorkOrder
      [needOnePump, .update 1 none 30 { requiredQuantity := .value 5 } rfl,
        .fulfill 1 7 (some 3) none 3, .recompute 1 7, .fulfill 1 7 (some 3) none 4]).Forall
      Settled :=
  List.forall_iff_forall_mem.2
    (requirements_settled (by intro r hr; cases hr) _ (by decide))

end PartRequirementRuns
end AeroComply
