import AeroComply.Services.Plan

/-!
# PlanLimits — the edit of a plan's limits is exact

The rows of the plan are read once.  Since the items have different keys, each item meets the
tables as they were read: its stored row is untouched, or its key is free (`Ready`).  So the loop
writes one row for each item (`rowOf`), and what was read and is not named is deleted.
-/

namespace AeroComply

open Relational (Keyed Table)

namespace PlanService

open EntitlementService (planLimitsOf)

/-- A key with its value. -/
def setting (pl : PlanLimit) : String × Option Int × Bool :=
  (pl.limitKey, pl.limitValue, pl.isUnlimited)

def PlanLimitItem.requested (u : UnicodeTables) (item : PlanLimitItem) :
    String × Option Int × Bool := (item.key u, item.value, item.isUnlimited)

section LimitEvents

variable (e : Edit)

def limitEvent (action : String) (pl : PlanLimit) : AuditEvent :=
  ⟨e.actorOrganizationId, e.actorUserId, action, "PlanLimit", some pl.id⟩

/-- What the log says of a limit that is there after the edit: it was created, or its value
was changed, or nothing. -/
def eventsOf (before : List PlanLimit) (pl : PlanLimit) : List AuditEvent :=
  match before.find? fun old => old.limitKey = pl.limitKey with
  | none => [limitEvent e "platform.plan_limit.created" pl]
  | some old =>
    if setting old = setting pl then [] else [limitEvent e "platform.plan_limit.updated" pl]

/-- One event for each limit that an edit creates, changes or removes. -/
def changeEvents (before after : List PlanLimit) : List AuditEvent :=
  after.flatMap (eventsOf e before) ++
    (before.filter fun old => after.all fun pl => pl.limitKey ≠ old.limitKey).map
      (limitEvent e "platform.plan_limit.removed")

end LimitEvents

/-- **THE EDIT OF THE LIMITS IS EXACT**: the plan has the requested keys and values and no
others, the log has grown by one event for each change, and nothing else is different. -/
structure LimitsSet (u : UnicodeTables) (e : Edit) (items : List PlanLimitItem)
    (db db' : Database) : Prop where
  limits : ((planLimitsOf db' e.planId).map setting).Perm (items.map (·.requested u))
  events : ∃ new, db'.auditEvents = db.auditEvents ++ new ∧
    new.Perm (changeEvents e (planLimitsOf db e.planId) (planLimitsOf db' e.planId))
  others : ∀ pl, pl.planId ≠ e.planId → (pl ∈ db'.planLimits.rows ↔ pl ∈ db.planLimits.rows)
  rest : { db' with planLimits := db.planLimits, auditEvents := db.auditEvents } = db

/-- No key is empty and none is named twice, surrounding blanks aside. -/
def Accepted (u : UnicodeTables) (items : List PlanLimitItem) : Prop :=
  (∀ item ∈ items, item.key u ≠ "") ∧ (items.map (·.key u)).Nodup

/-- The item is as it is stored, or the columns hold what it writes. -/
def PlanLimitItem.isWritable (u : UnicodeTables) (existingLimits : List PlanLimit)
    (item : PlanLimitItem) : Bool :=
  match existingLimits.find? fun pl => pl.limitKey = item.key u with
  | some pl => decide (setting pl = item.requested u) || item.value.all fitsInteger
  | none => storesKey (item.key u) && item.value.all fitsInteger

section LimitEdit

variable {u : UnicodeTables} {e : Edit} {existingLimits : List PlanLimit} {db : Database}
  {item : PlanLimitItem} {items : List PlanLimitItem}

theorem checkLimitKeys_cases (items : List PlanLimitItem) : ∀ seenKeys,
    ((∀ item ∈ items, item.key u ≠ "" ∧ item.key u ∉ seenKeys) ∧ (items.map (·.key u)).Nodup ∧
      checkLimitKeys u items seenKeys = .ok (seenKeys ++ items.map (·.key u))) ∨
    (¬((∀ item ∈ items, item.key u ≠ "" ∧ item.key u ∉ seenKeys) ∧ (items.map (·.key u)).Nodup) ∧
      ∃ message code, checkLimitKeys u items seenKeys = .error (.conflict message code)) := by
  induction items with
  | nil =>
    intro seenKeys
    exact Or.inl ⟨List.forall_mem_nil _, List.nodup_nil, congrArg _ (List.append_nil _).symm⟩
  | cons item items ih =>
    intro seenKeys
    rw [checkLimitKeys, List.forall_mem_cons, List.map_cons, List.nodup_cons]
    by_cases hempty : item.key u = ""
    · rw [if_pos hempty]
      exact Or.inr ⟨fun h => h.1.1.1 hempty, _, _, rfl⟩
    rw [if_neg hempty]
    by_cases hseen : item.key u ∈ seenKeys
    · rw [if_pos hseen]
      exact Or.inr ⟨fun h => h.1.1.2 hseen, _, _, rfl⟩
    rw [if_neg hseen]
    -- the rest is checked against the keys seen so far and this one
    have hrest : (∀ other ∈ items, other.key u ≠ "" ∧ other.key u ∉ seenKeys ++ [item.key u]) ↔
        (∀ other ∈ items, other.key u ≠ "" ∧ other.key u ∉ seenKeys) ∧
          item.key u ∉ items.map (·.key u) := by
      constructor
      · intro h
        refine ⟨fun other ho => ⟨(h other ho).1, fun hk => (h other ho).2 ?_⟩, fun hk => ?_⟩
        · exact List.mem_append_left _ hk
        · obtain ⟨other, ho, hkey⟩ := List.mem_map.1 hk
          exact (h other ho).2 (List.mem_append_right _ (hkey ▸ List.mem_singleton_self _))
      · rintro ⟨h, hk⟩ other ho
        refine ⟨(h other ho).1, fun hmem => ?_⟩
        rcases List.mem_append.1 hmem with hmem | hmem
        · exact (h other ho).2 hmem
        · exact hk (List.mem_map.2 ⟨other, ho, List.mem_singleton.1 hmem⟩)
    rcases ih (seenKeys ++ [item.key u]) with ⟨hkeys, hnodup, hrun⟩ | ⟨hnot, hrun⟩
    · rw [hrest] at hkeys
      refine Or.inl ⟨⟨⟨hempty, hseen⟩, hkeys.1⟩, ⟨hkeys.2, hnodup⟩, ?_⟩
      rw [hrun, List.append_assoc, List.singleton_append]
    · rw [hrest] at hnot
      exact Or.inr ⟨fun h => hnot ⟨⟨h.1.2, h.2.1⟩, h.2.2⟩, hrun⟩

theorem checkLimitKeys_of_accepted (h : Accepted u items) :
    checkLimitKeys u items [] = .ok (items.map (·.key u)) := by
  rcases checkLimitKeys_cases items [] with ⟨-, -, hrun⟩ | ⟨hnot, -⟩
  · exact hrun
  · exact absurd ⟨fun item hi => ⟨h.1 item hi, List.not_mem_nil⟩, h.2⟩ hnot

theorem checkLimitKeys_of_refused (h : ¬Accepted u items) :
    ∃ message code, checkLimitKeys u items [] = .error (.conflict message code) := by
  rcases checkLimitKeys_cases items [] with ⟨hkeys, hnodup, -⟩ | ⟨-, hrun⟩
  · exact absurd ⟨fun item hi => (hkeys item hi).1, hnodup⟩ h
  · exact hrun

/-- The row that an item asks for: the stored one with the new value, or a new one. -/
def rowOf (u : UnicodeTables) (e : Edit) (existingLimits : List PlanLimit) (item : PlanLimitItem) :
    PlanLimit where
  id := ((existingLimits.find? fun pl => pl.limitKey = item.key u).map PlanLimit.id).getD
    (e.newId (item.key u))
  planId := e.planId
  limitKey := item.key u
  limitValue := item.value
  isUnlimited := item.isUnlimited

/-- The row is written, and the log says so if that changes anything. -/
def writeLimit (u : UnicodeTables) (e : Edit) (existingLimits : List PlanLimit) (db : Database)
    (item : PlanLimitItem) : Database :=
  { db with
    planLimits := db.planLimits.upsert (rowOf u e existingLimits item)
    auditEvents := db.auditEvents ++ eventsOf e existingLimits (rowOf u e existingLimits item) }

/-- The tables are ready for an item: its stored row is as it was read, or its key is free. -/
def Ready (u : UnicodeTables) (e : Edit) (existingLimits : List PlanLimit)
    (limits : Table PlanLimit) (item : PlanLimitItem) : Prop :=
  match existingLimits.find? fun pl => pl.limitKey = item.key u with
  | some pl => pl ∈ limits.rows ∧ pl.planId = e.planId
  | none => ∀ pl ∈ limits.rows, pl.id ≠ e.newId (item.key u) ∧
      ¬(pl.planId = e.planId ∧ pl.limitKey = item.key u)

section OneItem

variable {pl : PlanLimit}

theorem setting_eq_requested (hkey : pl.limitKey = item.key u) :
    setting pl = item.requested u ↔
      ¬(pl.limitValue ≠ item.value ∨ pl.isUnlimited ≠ item.isUnlimited) := by
  rw [setting, PlanLimitItem.requested, Prod.mk.injEq, Prod.mk.injEq, not_or, not_not, not_not]
  exact and_iff_right hkey

theorem rowOf_of_stored
    (hfound : (existingLimits.find? fun pl => pl.limitKey = item.key u) = some pl)
    (hplan : pl.planId = e.planId) : rowOf u e existingLimits item =
      { pl with limitValue := item.value, isUnlimited := item.isUnlimited } := by
  have hkey : pl.limitKey = item.key u := by simpa using List.find?_some hfound
  rw [rowOf, hfound, ← hplan, ← hkey]
  rfl

theorem rowOf_of_new (hfound : (existingLimits.find? fun pl => pl.limitKey = item.key u) = none) :
    rowOf u e existingLimits item =
      ⟨e.newId (item.key u), e.planId, item.key u, item.value, item.isUnlimited⟩ := by
  rw [rowOf, hfound]
  rfl

theorem setLimit_unchanged
    (hfound : (existingLimits.find? fun pl => pl.limitKey = item.key u) = some pl)
    (hmem : pl ∈ db.planLimits.rows) (hplan : pl.planId = e.planId)
    (hsame : setting pl = item.requested u) :
    setLimit u e existingLimits db item = .ok (writeLimit u e existingLimits db item) := by
  have hkey : pl.limitKey = item.key u := by simpa using List.find?_some hfound
  have hnot := (setting_eq_requested hkey).1 hsame
  have hrow : rowOf u e existingLimits item = pl := by
    rw [not_or, not_not, not_not] at hnot
    rw [rowOf_of_stored hfound hplan, ← hnot.1, ← hnot.2]
  have hevents : eventsOf e existingLimits pl = [] := by
    rw [eventsOf, hkey, hfound]
    exact if_pos rfl
  have hwrite : writeLimit u e existingLimits db item = db := by
    rw [writeLimit, hrow, hevents, List.append_nil]
    rw [Table.upsert_of_mem hmem]
  rw [setLimit, hfound, hwrite]
  exact if_neg hnot

theorem setLimit_changed
    (hfound : (existingLimits.find? fun pl => pl.limitKey = item.key u) = some pl)
    (hmem : pl ∈ db.planLimits.rows) (hplan : pl.planId = e.planId)
    (hother : setting pl ≠ item.requested u) (hfits : item.value.all fitsInteger = true) :
    setLimit u e existingLimits db item = .ok (writeLimit u e existingLimits db item) := by
  have hkey : pl.limitKey = item.key u := by simpa using List.find?_some hfound
  have hchanged := not_not.1 fun h => hother ((setting_eq_requested hkey).2 h)
  have hrow := rowOf_of_stored hfound hplan
  have hevents : eventsOf e existingLimits (rowOf u e existingLimits item) =
      [limitEvent e "platform.plan_limit.updated" pl] := by
    rw [eventsOf, show (rowOf u e existingLimits item).limitKey = item.key u from rfl, hfound]
    rw [hrow]
    exact if_neg fun h => hother (h.trans (hrow ▸ rfl))
  have hsave : db.planLimits.upsert
      { pl with limitValue := item.value, isUnlimited := item.isUnlimited } =
        db.planLimits.save { pl with limitValue := item.value, isUnlimited := item.isUnlimited } :=
    Table.upsert_of_key hmem rfl
  rw [setLimit, hfound, writeLimit, hevents, hrow, hsave]
  dsimp only
  rw [if_pos hchanged, hfits]
  rfl

theorem setLimit_new
    (hfound : (existingLimits.find? fun pl => pl.limitKey = item.key u) = none)
    (hfree : ∀ pl ∈ db.planLimits.rows, pl.id ≠ e.newId (item.key u) ∧
      ¬(pl.planId = e.planId ∧ pl.limitKey = item.key u))
    (hstores : (storesKey (item.key u) && item.value.all fitsInteger) = true) :
    setLimit u e existingLimits db item = .ok (writeLimit u e existingLimits db item) := by
  have hrow := rowOf_of_new (e := e) hfound
  have hevents : eventsOf e existingLimits (rowOf u e existingLimits item) =
      [limitEvent e "platform.plan_limit.created" (rowOf u e existingLimits item)] := by
    rw [eventsOf, show (rowOf u e existingLimits item).limitKey = item.key u from rfl, hfound]
  cases hinsert : db.planLimits.insert? (rowOf u e existingLimits item) with
  | none =>
    obtain ⟨pl, hpl, hid⟩ := Table.insert?_eq_none.1 hinsert
    rw [hrow] at hid
    exact absurd hid (hfree pl hpl).1
  | some planLimits =>
    have hnone : (db.planLimits.rows.any fun pl =>
        pl.planId = e.planId && pl.limitKey = item.key u) = false := by
      rw [List.any_eq_false]
      intro pl hpl hsame
      rw [Bool.and_eq_true, decide_eq_true_iff, decide_eq_true_iff] at hsame
      exact (hfree pl hpl).2 hsame
    have hrun : insertLimit db.planLimits (rowOf u e existingLimits item) = .ok planLimits := by
      rw [insertLimit, hrow]
      rw [hrow] at hinsert
      dsimp only
      rw [hstores, hnone]
      exact addRowOrRaise_eq_ok.2 hinsert
    rw [writeLimit, hevents, Table.upsert_of_insert? hinsert]
    rw [hrow] at hrun ⊢
    rw [setLimit, hfound]
    dsimp only
    rw [hrun]
    rfl

end OneItem

/-- **ONE ITEM** that can be written is written. -/
theorem setLimit_of_writable (hready : Ready u e existingLimits db.planLimits item)
    (hwritable : item.isWritable u existingLimits = true) :
    setLimit u e existingLimits db item = .ok (writeLimit u e existingLimits db item) := by
  rw [PlanLimitItem.isWritable] at hwritable
  rw [Ready] at hready
  cases hfound : existingLimits.find? fun pl => pl.limitKey = item.key u with
  | some pl =>
    rw [hfound] at hready hwritable
    by_cases hsame : setting pl = item.requested u
    · exact setLimit_unchanged hfound hready.1 hready.2 hsame
    · have hfits : item.value.all fitsInteger = true := by
        dsimp only at hwritable
        rw [decide_eq_false hsame, Bool.false_or] at hwritable
        exact hwritable
      exact setLimit_changed hfound hready.1 hready.2 hsame hfits
  | none =>
    rw [hfound] at hready hwritable
    exact setLimit_new hfound hready hwritable

theorem setLimit_of_not_writable (hwritable : item.isWritable u existingLimits = false) :
    setLimit u e existingLimits db item = .error .dataError := by
  rw [PlanLimitItem.isWritable] at hwritable
  rw [setLimit]
  cases hfound : existingLimits.find? fun pl => pl.limitKey = item.key u with
  | some pl =>
    rw [hfound] at hwritable
    have hkey : pl.limitKey = item.key u := by simpa using List.find?_some hfound
    rw [Bool.or_eq_false_iff, decide_eq_false_iff_not, setting_eq_requested hkey, not_not]
      at hwritable
    dsimp only
    rw [if_pos hwritable.1, hwritable.2]
    rfl
  | none =>
    rw [hfound] at hwritable
    dsimp only at hwritable ⊢
    rw [insertLimit]
    dsimp only
    rw [hwritable]
    rfl

/-! ### The loop over the items -/

/-- What the rows read at the start are to the identifiers: different from one another and
from every new one. -/
structure Loaded (e : Edit) (existingLimits : List PlanLimit) : Prop where
  injective : ∀ k k', e.newId k = e.newId k' → k = k'
  ids : ∀ a ∈ existingLimits, ∀ b ∈ existingLimits, a.id = b.id → a = b
  fresh : ∀ pl ∈ existingLimits, ∀ k, e.newId k ≠ pl.id

variable {other : PlanLimitItem} {pl : PlanLimit} {planId : UUID}

theorem Loaded.key_of_id (h : Loaded e existingLimits)
    (hid : (rowOf u e existingLimits item).id = (rowOf u e existingLimits other).id) :
    item.key u = other.key u := by
  rw [rowOf, rowOf] at hid
  dsimp only at hid
  cases hfound : existingLimits.find? fun pl => pl.limitKey = item.key u with
  | some pl =>
    have hmem := List.mem_of_find?_eq_some hfound
    have hkey : pl.limitKey = item.key u := by simpa using List.find?_some hfound
    cases hfound' : existingLimits.find? fun pl => pl.limitKey = other.key u with
    | some pl' =>
      have hkey' : pl'.limitKey = other.key u := by simpa using List.find?_some hfound'
      rw [hfound, hfound'] at hid
      rw [← hkey, ← hkey', h.ids pl hmem pl' (List.mem_of_find?_eq_some hfound') hid]
    | none =>
      rw [hfound, hfound'] at hid
      exact absurd hid.symm (h.fresh pl hmem _)
  | none =>
    cases hfound' : existingLimits.find? fun pl => pl.limitKey = other.key u with
    | some pl' =>
      rw [hfound, hfound'] at hid
      exact absurd hid (h.fresh pl' (List.mem_of_find?_eq_some hfound') _)
    | none =>
      rw [hfound, hfound'] at hid
      exact h.injective _ _ hid

theorem Ready.upsert (h : Loaded e existingLimits) {limits : Table PlanLimit}
    (hready : Ready u e existingLimits limits other) (hkey : item.key u ≠ other.key u) :
    Ready u e existingLimits (limits.upsert (rowOf u e existingLimits item)) other := by
  have hids : (rowOf u e existingLimits item).id ≠ (rowOf u e existingLimits other).id :=
    fun hid => hkey (h.key_of_id hid)
  rw [Ready] at hready ⊢
  cases hfound : existingLimits.find? fun pl => pl.limitKey = other.key u with
  | some pl =>
    rw [hfound] at hready
    have hid : (rowOf u e existingLimits other).id = pl.id := by
      rw [rowOf, hfound]
      rfl
    rw [hid] at hids
    exact ⟨Table.mem_upsert.2 (Or.inr ⟨hready.1, hids.symm⟩), hready.2⟩
  | none =>
    rw [hfound] at hready
    have hid : (rowOf u e existingLimits other).id = e.newId (other.key u) := by
      rw [rowOf, hfound]
      rfl
    intro pl hpl
    rcases Table.mem_upsert.1 hpl with rfl | ⟨hpl, -⟩
    · exact ⟨hid ▸ hids, fun hsame => hkey hsame.2⟩
    · exact hready pl hpl

/-- **ALL ITEMS**: the loop writes each of them, or the database raises. -/
theorem setLimits_eq (h : Loaded e existingLimits) (items : List PlanLimitItem) : ∀ db : Database,
    (items.map (·.key u)).Nodup →
    (∀ item ∈ items, Ready u e existingLimits db.planLimits item) →
    items.foldlM (setLimit u e existingLimits) db =
      if items.all (·.isWritable u existingLimits) then
        .ok (items.foldl (writeLimit u e existingLimits) db)
      else .error .dataError := by
  induction items with
  | nil => exact fun _ _ _ => rfl
  | cons item items ih =>
    intro db hkeys hready
    rw [List.map_cons, List.nodup_cons] at hkeys
    obtain ⟨hfirst, hrest⟩ := List.forall_mem_cons.1 hready
    rw [List.foldlM_cons, List.all_cons]
    cases hwritable : item.isWritable u existingLimits with
    | true =>
      rw [setLimit_of_writable hfirst hwritable, ok_bind, Bool.true_and]
      refine ih _ hkeys.2 ?_
      intro other ho
      refine (hrest other ho).upsert h fun hkey => hkeys.1 ?_
      exact List.mem_map.2 ⟨other, ho, hkey.symm⟩
    | false =>
      rw [setLimit_of_not_writable hwritable]
      rfl

theorem foldl_writeLimit (items : List PlanLimitItem) : ∀ db : Database,
    items.foldl (writeLimit u e existingLimits) db =
      { db with
        planLimits := (items.map (rowOf u e existingLimits)).foldl Table.upsert db.planLimits
        auditEvents := db.auditEvents ++
          (items.map (rowOf u e existingLimits)).flatMap (eventsOf e existingLimits) } := by
  induction items with
  | nil =>
    intro db
    rw [List.map_nil, List.flatMap_nil, List.append_nil]
    rfl
  | cons item items ih =>
    intro db
    rw [List.foldl_cons, ih, List.map_cons, List.foldl_cons, List.flatMap_cons, writeLimit,
      ← List.append_assoc]

theorem foldl_removeLimit (rows : List PlanLimit) : ∀ db : Database,
    rows.foldl (removeLimit e) db =
      { db with
        planLimits := rows.foldl (fun t pl => t.deleteWhere fun r => Keyed.key r = Keyed.key pl)
          db.planLimits
        auditEvents := db.auditEvents ++
          rows.map (limitEvent e "platform.plan_limit.removed") } := by
  induction rows with
  | nil =>
    intro db
    rw [List.map_nil, List.append_nil]
    rfl
  | cons pl rows ih =>
    intro db
    have hevents : (removeLimit e db pl).auditEvents ++
        rows.map (limitEvent e "platform.plan_limit.removed") =
          db.auditEvents ++ (pl :: rows).map (limitEvent e "platform.plan_limit.removed") :=
      List.append_assoc _ [limitEvent e "platform.plan_limit.removed" pl] _
    rw [List.foldl_cons, ih, hevents]
    rfl

/-! ### The edit -/

/-- What an edit that is not refused leaves. -/
def editedLimits (u : UnicodeTables) (e : Edit) (items : List PlanLimitItem) (db : Database) :
    Database :=
  let existingLimits := planLimitsOf db e.planId
  let removed := existingLimits.filter fun pl => pl.limitKey ∉ items.map (·.key u)
  let rows := items.map (rowOf u e existingLimits)
  { db with
    planLimits := removed.foldl (fun t pl => t.deleteWhere fun r => Keyed.key r = Keyed.key pl)
      (rows.foldl Table.upsert db.planLimits)
    auditEvents := db.auditEvents ++ (rows.flatMap (eventsOf e existingLimits) ++
      removed.map (limitEvent e "platform.plan_limit.removed")) }

theorem mem_planLimitsOf :
    pl ∈ planLimitsOf db planId ↔ pl ∈ db.planLimits.rows ∧ pl.planId = planId := by
  rw [planLimitsOf, Table.mem_select, decide_eq_true_iff]

theorem find?_planLimitsOf (hnatural : NaturalKeys db) (hpl : pl ∈ planLimitsOf db planId)
    {key : String} (hkey : pl.limitKey = key) :
    ((planLimitsOf db planId).find? fun pl => pl.limitKey = key) = some pl := by
  cases hfound : (planLimitsOf db planId).find? fun pl => pl.limitKey = key with
  | none => exact absurd (decide_eq_true hkey) (List.find?_eq_none.1 hfound pl hpl)
  | some old =>
    have hold := mem_planLimitsOf.1 (List.mem_of_find?_eq_some hfound)
    have hkey' : old.limitKey = key := by simpa using List.find?_some hfound
    obtain ⟨hmem, hplan⟩ := mem_planLimitsOf.1 hpl
    rw [hnatural.limits pl hmem old hold.1 (hplan.trans hold.2.symm) (hkey.trans hkey'.symm)]

theorem loaded_planLimitsOf (hfresh : FreshIds e db) : Loaded e (planLimitsOf db e.planId) where
  injective := hfresh.injective
  ids _ ha _ hb hid :=
    Table.eq_of_key_eq (mem_planLimitsOf.1 ha).1 (mem_planLimitsOf.1 hb).1 hid
  fresh pl hpl := hfresh.limits pl (mem_planLimitsOf.1 hpl).1

theorem ready_planLimitsOf (hfresh : FreshIds e db) (item : PlanLimitItem) :
    Ready u e (planLimitsOf db e.planId) db.planLimits item := by
  rw [Ready]
  cases hfound : (planLimitsOf db e.planId).find? fun pl => pl.limitKey = item.key u with
  | some pl => exact mem_planLimitsOf.1 (List.mem_of_find?_eq_some hfound)
  | none =>
    intro pl hpl
    refine ⟨(hfresh.limits pl hpl _).symm, ?_⟩
    rintro ⟨hplan, hkey⟩
    exact List.find?_eq_none.1 hfound pl (mem_planLimitsOf.2 ⟨hpl, hplan⟩) (decide_eq_true hkey)

/-- **THE OUTCOME OF THE EDIT** of a plan that exists. -/
theorem editLimits_of_accepted (hplan : ∃ plan, db.plans.find? e.planId = some plan)
    (hfresh : FreshIds e db) (hitems : Accepted u items) :
    editLimits u e items db =
      if items.all (·.isWritable u (planLimitsOf db e.planId)) then
        .ok (editedLimits u e items db)
      else .error .dataError := by
  obtain ⟨plan, hfound⟩ := hplan
  have hget : getPlan db e.planId = .ok plan := by
    rw [getPlan, hfound]
  have hid : plan.id = e.planId := (Table.find?_eq_some.1 hfound).2
  rw [editLimits, hget, ok_bind, checkLimitKeys_of_accepted hitems, ok_bind, hid]
  dsimp only
  rw [setLimits_eq (loaded_planLimitsOf hfresh) items db hitems.2
    fun item _ => ready_planLimitsOf hfresh item]
  by_cases hall : items.all (·.isWritable u (planLimitsOf db e.planId)) = true
  · rw [if_pos hall, if_pos hall, ok_bind, foldl_writeLimit, foldl_removeLimit, editedLimits,
      List.append_assoc]
    rfl
  · rw [if_neg hall, if_neg hall]
    rfl

section Edited

theorem nodup_ids_rowOf (h : Loaded e existingLimits) (hkeys : (items.map (·.key u)).Nodup) :
    ((items.map (rowOf u e existingLimits)).map PlanLimit.id).Nodup := by
  rw [List.map_map]
  refine (List.Nodup.of_map _ hkeys).map_on ?_
  intro item hitem other hother hid
  exact List.inj_on_of_nodup_map hkeys hitem hother (h.key_of_id hid)

theorem mem_editedLimits (hfresh : FreshIds e db) (hkeys : (items.map (·.key u)).Nodup)
    {pl : PlanLimit} : pl ∈ (editedLimits u e items db).planLimits.rows ↔
      (pl ∈ items.map (rowOf u e (planLimitsOf db e.planId)) ∨
        pl ∈ db.planLimits.rows ∧
          pl.id ∉ (items.map (rowOf u e (planLimitsOf db e.planId))).map PlanLimit.id) ∧
      ∀ old ∈ planLimitsOf db e.planId, old.limitKey ∉ items.map (·.key u) → pl.id ≠ old.id := by
  have hnodup := nodup_ids_rowOf (loaded_planLimitsOf hfresh) hkeys
  rw [editedLimits]
  dsimp only
  rw [Table.mem_foldl_deleteWhere, Table.mem_foldl_upsert hnodup]
  refine and_congr_right fun _ => ?_
  constructor
  · intro h old hold hkey
    exact h old (List.mem_filter.2 ⟨hold, decide_eq_true hkey⟩)
  · intro h old hold
    obtain ⟨hold, hkey⟩ := List.mem_filter.1 hold
    exact h old hold (of_decide_eq_true hkey)

variable {pl : PlanLimit}

theorem id_rowOf (u : UnicodeTables) (e : Edit) (existingLimits : List PlanLimit)
    (item : PlanLimitItem) :
    (∃ old ∈ existingLimits, old.limitKey = item.key u ∧
      (rowOf u e existingLimits item).id = old.id) ∨
    (rowOf u e existingLimits item).id = e.newId (item.key u) := by
  cases hfound : existingLimits.find? fun pl => pl.limitKey = item.key u with
  | some old =>
    have hkey : old.limitKey = item.key u := by simpa using List.find?_some hfound
    refine Or.inl ⟨old, List.mem_of_find?_eq_some hfound, hkey, ?_⟩
    rw [rowOf, hfound]
    rfl
  | none =>
    refine Or.inr ?_
    rw [rowOf, hfound]
    rfl

theorem mem_existing_of_id (hfresh : FreshIds e db) (hpl : pl ∈ db.planLimits.rows)
    (hid : pl.id ∈ (items.map (rowOf u e (planLimitsOf db e.planId))).map PlanLimit.id) :
    pl ∈ planLimitsOf db e.planId ∧ pl.limitKey ∈ items.map (·.key u) := by
  obtain ⟨row, hrow, hid⟩ := List.mem_map.1 hid
  obtain ⟨item, hitem, rfl⟩ := List.mem_map.1 hrow
  rcases id_rowOf u e (planLimitsOf db e.planId) item with
    ⟨old, hold, hkey, holdId⟩ | hnew
  · have hsame : pl = old :=
      Table.eq_of_key_eq hpl (mem_planLimitsOf.1 hold).1 (hid.symm.trans holdId)
    rw [hsame]
    exact ⟨hold, List.mem_map.2 ⟨item, hitem, hkey.symm⟩⟩
  · exact absurd (hnew.symm.trans hid) (hfresh.limits pl hpl _)

theorem mem_planLimitsOf_edited (hnatural : NaturalKeys db) (hfresh : FreshIds e db)
    (hkeys : (items.map (·.key u)).Nodup) :
    pl ∈ planLimitsOf (editedLimits u e items db) e.planId ↔
      pl ∈ items.map (rowOf u e (planLimitsOf db e.planId)) := by
  rw [mem_planLimitsOf, mem_editedLimits hfresh hkeys]
  constructor
  · rintro ⟨⟨hrow | ⟨hpl, hid⟩, hremoved⟩, hplan⟩
    · exact hrow
    -- an old row of the plan has the key of an item, which has written it, or was removed
    · have hexisting := mem_planLimitsOf.2 ⟨hpl, hplan⟩
      by_cases hkey : pl.limitKey ∈ items.map (·.key u)
      · obtain ⟨item, hitem, hitemKey⟩ := List.mem_map.1 hkey
        refine absurd (List.mem_map.2 ⟨_, List.mem_map_of_mem hitem, ?_⟩) hid
        rw [rowOf, find?_planLimitsOf hnatural hexisting hitemKey.symm]
        rfl
      · exact absurd rfl (hremoved pl hexisting hkey)
  · intro hrow
    obtain ⟨item, hitem, rfl⟩ := List.mem_map.1 hrow
    refine ⟨⟨Or.inl hrow, ?_⟩, rfl⟩
    intro old hold hkey hid
    have hmem : old.id ∈ (items.map (rowOf u e (planLimitsOf db e.planId))).map PlanLimit.id :=
      List.mem_map.2 ⟨_, hrow, hid⟩
    exact hkey (mem_existing_of_id hfresh (mem_planLimitsOf.1 hold).1 hmem).2

theorem planLimitsOf_edited_perm (hnatural : NaturalKeys db) (hfresh : FreshIds e db)
    (hkeys : (items.map (·.key u)).Nodup) :
    (planLimitsOf (editedLimits u e items db) e.planId).Perm
      (items.map (rowOf u e (planLimitsOf db e.planId))) := by
  have hids := nodup_ids_rowOf (loaded_planLimitsOf hfresh) hkeys
  have hrows : (planLimitsOf (editedLimits u e items db) e.planId).Nodup :=
    (List.Nodup.of_map _ (editedLimits u e items db).planLimits.nodup).filter _
  rw [List.perm_ext_iff_of_nodup hrows (List.Nodup.of_map _ hids)]
  exact fun pl => mem_planLimitsOf_edited hnatural hfresh hkeys

theorem key_unnamed_iff (hnatural : NaturalKeys db) (hfresh : FreshIds e db)
    (hkeys : (items.map (·.key u)).Nodup) {key : String} :
    key ∉ items.map (·.key u) ↔
      ∀ pl ∈ planLimitsOf (editedLimits u e items db) e.planId,
        decide (pl.limitKey ≠ key) = true := by
  constructor
  · intro hkey pl hpl
    rw [mem_planLimitsOf_edited hnatural hfresh hkeys] at hpl
    obtain ⟨item, hitem, rfl⟩ := List.mem_map.1 hpl
    refine decide_eq_true fun hsame => hkey ?_
    exact List.mem_map.2 ⟨item, hitem, hsame⟩
  · intro hall hkey
    obtain ⟨item, hitem, rfl⟩ := List.mem_map.1 hkey
    have hrow := (mem_planLimitsOf_edited hnatural hfresh hkeys).2 (List.mem_map_of_mem hitem)
    exact of_decide_eq_true (hall _ hrow) rfl

theorem mem_edited_of_other (hfresh : FreshIds e db) (hkeys : (items.map (·.key u)).Nodup)
    (hplan : pl.planId ≠ e.planId) :
    pl ∈ (editedLimits u e items db).planLimits.rows ↔ pl ∈ db.planLimits.rows := by
  rw [mem_editedLimits hfresh hkeys]
  constructor
  · rintro ⟨hrow | ⟨hpl, -⟩, -⟩
    · obtain ⟨item, -, rfl⟩ := List.mem_map.1 hrow
      exact absurd rfl hplan
    · exact hpl
  · intro hpl
    refine ⟨Or.inr ⟨hpl, fun hid => ?_⟩, fun old hold _ hid => ?_⟩
    · exact hplan (mem_planLimitsOf.1 (mem_existing_of_id hfresh hpl hid).1).2
    · obtain ⟨hmem, holdPlan⟩ := mem_planLimitsOf.1 hold
      exact hplan (Table.eq_of_key_eq hpl hmem hid ▸ holdPlan)

/-- **EXACTNESS** of the edit of the limits. -/
theorem editedLimits_set (hnatural : NaturalKeys db) (hfresh : FreshIds e db)
    (hkeys : (items.map (·.key u)).Nodup) : LimitsSet u e items db (editedLimits u e items db) := by
  have hperm := planLimitsOf_edited_perm hnatural hfresh hkeys
  refine ⟨?_, ⟨_, rfl, ?_⟩, ?_, ?_⟩
  · have hsettings : items.map (·.requested u) =
        (items.map (rowOf u e (planLimitsOf db e.planId))).map setting := by
      rw [List.map_map]
      rfl
    rw [hsettings]
    exact hperm.map setting
  · refine List.Perm.append (hperm.symm.flatMap_right _) ?_
    have hremoved :
        ((planLimitsOf db e.planId).filter fun pl => pl.limitKey ∉ items.map (·.key u)) =
          (planLimitsOf db e.planId).filter fun old =>
            (planLimitsOf (editedLimits u e items db) e.planId).all
              fun pl => pl.limitKey ≠ old.limitKey := by
      refine List.filter_congr fun old _ => ?_
      rw [Bool.eq_iff_iff, decide_eq_true_iff, List.all_eq_true]
      exact key_unnamed_iff hnatural hfresh hkeys
    rw [hremoved]
  · exact fun pl hplan => mem_edited_of_other hfresh hkeys hplan
  · rfl

end Edited

end LimitEdit

end PlanService
end AeroComply
