import AeroComply.Services.ProactiveAnswers

/-!
# SignalSync — which signals are active after a synchronisation

A record that is stored keeps its status whatever the evaluators find, and a key that
is not stored is added as an open record.  So the active keys are the evaluated ones,
less those that an operator has dismissed, exactly when no active record was left
over and no resolved one has come back: `follows_iff`, for any evaluation, and
`signals_follow_iff` for the evaluators as they are.
-/

namespace AeroComply

open Relational (Table)

namespace ProactiveIntelligenceService

def ActiveKey (records : Table ProactiveSignalRecord) (organizationId : UUID)
    (signalType key : String) : Prop :=
  ∃ r ∈ records.rows, isKeyed organizationId key r = true ∧ r.signalType = signalType ∧
    r.status.isActive = true

/-- An operator has dismissed the key. -/
def DismissedKey (records : Table ProactiveSignalRecord) (organizationId : UUID) (key : String) :
    Prop :=
  ∃ r ∈ records.rows, isKeyed organizationId key r = true ∧ r.status = .dismissed

/-- The active keys of each type are the evaluated ones that are not dismissed. -/
def Follows (organizationId : UUID) (items : List SignalItem)
    (records : Table ProactiveSignalRecord) : Prop :=
  ∀ signalType key, ActiveKey records organizationId signalType key ↔
    (∃ item ∈ items, item.signalType = signalType ∧ item.signalKey = key) ∧
      ¬DismissedKey records organizationId key

/-- `uq_proactive_signal_org_key`. -/
def KeysUnique (records : Table ProactiveSignalRecord) : Prop :=
  ∀ r ∈ records.rows, ∀ s ∈ records.rows, r.organizationId = s.organizationId →
    r.signalKey = s.signalKey → r = s

/-- No active record of the organization is left without its signal. -/
def NoneLeftOver (organizationId : UUID) (items : List SignalItem)
    (records : Table ProactiveSignalRecord) : Prop :=
  ∀ r ∈ records.rows, r.organizationId = organizationId → r.status.isActive = true →
    ∃ item ∈ items, item.signalType = r.signalType ∧ item.signalKey = r.signalKey

/-- No signal meets a record of its key that is resolved, or of another type. -/
def NoneComesBack (organizationId : UUID) (items : List SignalItem)
    (records : Table ProactiveSignalRecord) : Prop :=
  ∀ item ∈ items, ∀ r ∈ records.rows, isKeyed organizationId item.signalKey r = true →
    r.status = .dismissed ∨ (r.status.isActive = true ∧ r.signalType = item.signalType)

/-! ## What is stored -/

section Stored

variable {newIds : Nat → UUID} {now : DateTime} {organizationId : UUID}
  {records records' : Table ProactiveSignalRecord} {items : List SignalItem}

theorem isKeyed_eq_true {key : String} {r : ProactiveSignalRecord} :
    isKeyed organizationId key r = true ↔ r.organizationId = organizationId ∧ r.signalKey = key := by
  simp [isKeyed]

/-- The two are one signal, in one status. -/
structure SameSignal (r r' : ProactiveSignalRecord) : Prop where
  id : r'.id = r.id
  organization : r'.organizationId = r.organizationId
  key : r'.signalKey = r.signalKey
  type : r'.signalType = r.signalType
  status : r'.status = r.status

theorem SameSignal.refl (r : ProactiveSignalRecord) : SameSignal r r := ⟨rfl, rfl, rfl, rfl, rfl⟩

theorem SameSignal.trans {r s t : ProactiveSignalRecord} (h : SameSignal r s)
    (h' : SameSignal s t) : SameSignal r t :=
  ⟨h'.id.trans h.id, h'.organization.trans h.organization, h'.key.trans h.key,
    h'.type.trans h.type, h'.status.trans h.status⟩

theorem SameSignal.isKeyed {r r' : ProactiveSignalRecord} (h : SameSignal r r') (key : String) :
    isKeyed organizationId key r' = isKeyed organizationId key r := by
  rw [ProactiveIntelligenceService.isKeyed, h.organization, h.key,
    ProactiveIntelligenceService.isKeyed]

theorem sameSignal_refreshed (existing : ProactiveSignalRecord) (item : SignalItem) :
    SameSignal existing (refreshed existing item) := by
  rw [refreshed]
  split
  · exact ⟨rfl, rfl, rfl, rfl, rfl⟩
  · exact SameSignal.refl existing

/-- The same signals, in the same statuses. -/
structure SameSignals (records records' : Table ProactiveSignalRecord) : Prop where
  kept : ∀ r ∈ records.rows, ∃ r' ∈ records'.rows, SameSignal r r'
  known : ∀ r' ∈ records'.rows, ∃ r ∈ records.rows, SameSignal r r'

theorem SameSignals.refl (records : Table ProactiveSignalRecord) : SameSignals records records :=
  ⟨fun r hr => ⟨r, hr, SameSignal.refl r⟩, fun r hr => ⟨r, hr, SameSignal.refl r⟩⟩

theorem SameSignals.trans {records'' : Table ProactiveSignalRecord}
    (h : SameSignals records records') (h' : SameSignals records' records'') :
    SameSignals records records'' := by
  refine ⟨?_, ?_⟩
  · intro r hr
    obtain ⟨s, hs, hrs⟩ := h.kept r hr
    obtain ⟨t, ht, hst⟩ := h'.kept s hs
    exact ⟨t, ht, hrs.trans hst⟩
  · intro t ht
    obtain ⟨s, hs, hst⟩ := h'.known t ht
    obtain ⟨r, hr, hrs⟩ := h.known s hs
    exact ⟨r, hr, hrs.trans hst⟩

theorem sameSignals_save {existing : ProactiveSignalRecord} (hmem : existing ∈ records.rows)
    (item : SignalItem) : SameSignals records (records.save (refreshed existing item)) := by
  have hsame := sameSignal_refreshed existing item
  refine ⟨?_, ?_⟩
  · intro r hr
    rcases Table.kept_or_replaced hmem hsame.id.symm hr with hkept | ⟨rfl, hnew⟩
    · exact ⟨r, hkept, SameSignal.refl r⟩
    · exact ⟨_, hnew, hsame⟩
  · intro r' hr'
    rcases Table.mem_save.1 hr' with ⟨hold, _⟩ | ⟨rfl, _⟩
    · exact ⟨r', hold, SameSignal.refl r'⟩
    · exact ⟨existing, hmem, hsame⟩

/-- The record is one that a synchronisation adds for the signal. -/
structure AddedFor (organizationId : UUID) (item : SignalItem) (a : ProactiveSignalRecord) :
    Prop where
  organization : a.organizationId = organizationId
  key : a.signalKey = item.signalKey
  type : a.signalType = item.signalType
  status : a.status = .open

/-- What the loop leaves: the stored signals, and a new record for each signal whose key is not
stored. -/
structure Synced (organizationId : UUID) (items : List SignalItem)
    (records records' : Table ProactiveSignalRecord) (added : List ProactiveSignalRecord) :
    Prop where
  same : SameSignals records records'
  new : ∀ a ∈ added, ∃ item ∈ items, AddedFor organizationId item a ∧
    ∀ r ∈ records.rows, isKeyed organizationId item.signalKey r = false
  all : ∀ item ∈ items, (∃ r ∈ records.rows, isKeyed organizationId item.signalKey r = true) ∨
    ∃ a ∈ added, AddedFor organizationId item a

/-- **THE LOOP**, by induction on the signals. -/
theorem synced_of_syncItems : ∀ {n : Nat} {records records' : Table ProactiveSignalRecord}
    {added : List ProactiveSignalRecord},
    syncItems newIds now organizationId items n records = .ok (records', added) →
      Synced organizationId items records records' added := by
  induction items with
  | nil =>
    intro n records records' added h
    cases h
    exact ⟨SameSignals.refl records, fun _ ha => (nomatch ha), fun _ hi => (nomatch hi)⟩
  | cons item items ih =>
    intro n records records' added h
    obtain ⟨found, hfound, h⟩ := bind_eq_ok.1 h
    cases found with
    | some existing =>
      have hselected : existing ∈ records.select (isKeyed organizationId item.signalKey) := by
        rw [scalarOneOrNone_eq_some hfound]
        exact List.mem_singleton_self existing
      obtain ⟨hmem, hkeyed⟩ := Table.mem_select.1 hselected
      have hsame := sameSignals_save hmem item
      have hrest := ih h
      refine ⟨hsame.trans hrest.same, ?_, ?_⟩
      · intro a ha
        obtain ⟨other, hother, hadded, hnone⟩ := hrest.new a ha
        refine ⟨other, List.mem_cons_of_mem item hother, hadded, ?_⟩
        intro r hr
        obtain ⟨r', hr', hrr'⟩ := hsame.kept r hr
        rw [← hrr'.isKeyed]
        exact hnone r' hr'
      · intro other hother
        rcases List.mem_cons.1 hother with rfl | hother
        · exact Or.inl ⟨existing, hmem, hkeyed⟩
        · rcases hrest.all other hother with ⟨r', hr', hkeyed'⟩ | hnew
          · obtain ⟨r, hr, hrr'⟩ := hsame.known r' hr'
            exact Or.inl ⟨r, hr, (hrr'.isKeyed _).symm.trans hkeyed'⟩
          · exact Or.inr hnew
    | none =>
      obtain ⟨⟨records'', rest⟩, hloop, h⟩ := bind_eq_ok.1 h
      cases pure_eq_ok.1 h
      have hnone : ∀ r ∈ records.rows, isKeyed organizationId item.signalKey r = false := by
        intro r hr
        refine Bool.eq_false_of_not_eq_true fun hkeyed => ?_
        have hselected := Table.mem_select.2 ⟨hr, hkeyed⟩
        rw [scalarOneOrNone_eq_none hfound] at hselected
        cases hselected
      have hrest := ih hloop
      have hadded : AddedFor organizationId item (newRecord (newIds n) organizationId now item) :=
        ⟨rfl, rfl, rfl, rfl⟩
      refine ⟨hrest.same, ?_, ?_⟩
      · intro a ha
        rcases List.mem_cons.1 ha with rfl | ha
        · exact ⟨item, List.mem_cons_self, hadded, hnone⟩
        · obtain ⟨other, hother, hfor, hnone'⟩ := hrest.new a ha
          exact ⟨other, List.mem_cons_of_mem item hother, hfor, hnone'⟩
      · intro other hother
        rcases List.mem_cons.1 hother with rfl | hother
        · exact Or.inr ⟨_, List.mem_cons_self, hadded⟩
        · rcases hrest.all other hother with hstored | ⟨a, ha, hfor⟩
          · exact Or.inl hstored
          · exact Or.inr ⟨a, List.mem_cons_of_mem _ ha, hfor⟩

theorem rows_of_flush {added : List ProactiveSignalRecord} :
    ∀ {records records' : Table ProactiveSignalRecord},
      added.foldlM addSignal records = .ok records' → records'.rows = records.rows ++ added := by
  induction added with
  | nil =>
    intro records records' h
    cases h
    exact (List.append_nil _).symm
  | cons a added ih =>
    intro records records' h
    rw [List.foldlM_cons] at h
    obtain ⟨next, hadd, h⟩ := bind_eq_ok.1 h
    obtain ⟨_, _, hadd⟩ := bind_eq_ok.1 hadd
    rw [ih h, (Table.insert?_eq_some (addRowOrRaise_eq_ok.1 hadd)).2, List.append_assoc]
    rfl

/-- **WHAT A SYNCHRONISATION STORES.** -/
theorem synchronize_eq_ok (h : synchronize newIds now organizationId records items = .ok records') :
    ∃ kept added, Synced organizationId items records kept added ∧
      records'.rows = kept.rows ++ added := by
  obtain ⟨⟨kept, added⟩, hloop, h⟩ := bind_eq_ok.1 h
  exact ⟨kept, added, synced_of_syncItems hloop, rows_of_flush h⟩

end Stored

/-! ## Active and dismissed keys -/

section Keys

variable {newIds : Nat → UUID} {now : DateTime} {organizationId : UUID}
  {records records' : Table ProactiveSignalRecord} {items : List SignalItem}

theorem dismissedKey_iff
    (h : synchronize newIds now organizationId records items = .ok records') (key : String) :
    DismissedKey records' organizationId key ↔ DismissedKey records organizationId key := by
  obtain ⟨kept, added, hsynced, hrows⟩ := synchronize_eq_ok h
  constructor
  · rintro ⟨r', hr', hkeyed, hstatus⟩
    rw [hrows] at hr'
    rcases List.mem_append.1 hr' with hkept | hadded
    · obtain ⟨r, hr, hsame⟩ := hsynced.same.known r' hkept
      exact ⟨r, hr, (hsame.isKeyed key).symm.trans hkeyed, hsame.status.symm.trans hstatus⟩
    · obtain ⟨_, _, hfor, _⟩ := hsynced.new r' hadded
      cases hfor.status.symm.trans hstatus
  · rintro ⟨r, hr, hkeyed, hstatus⟩
    obtain ⟨r', hr', hsame⟩ := hsynced.same.kept r hr
    refine ⟨r', ?_, (hsame.isKeyed key).trans hkeyed, hsame.status.trans hstatus⟩
    rw [hrows]
    exact List.mem_append_left _ hr'

theorem activeKey_iff (h : synchronize newIds now organizationId records items = .ok records')
    (signalType key : String) :
    ActiveKey records' organizationId signalType key ↔
      ActiveKey records organizationId signalType key ∨
        ∃ item ∈ items, item.signalType = signalType ∧ item.signalKey = key ∧
          (∃ a ∈ records'.rows, AddedFor organizationId item a) ∧
          ∀ r ∈ records.rows, isKeyed organizationId key r = false := by
  obtain ⟨kept, added, hsynced, hrows⟩ := synchronize_eq_ok h
  constructor
  · rintro ⟨r', hr', hkeyed, htype, hactive⟩
    have hin := hr'
    rw [hrows] at hin
    rcases List.mem_append.1 hin with hkept | hadded
    · obtain ⟨r, hr, hsame⟩ := hsynced.same.known r' hkept
      exact Or.inl ⟨r, hr, (hsame.isKeyed key).symm.trans hkeyed, hsame.type.symm.trans htype,
        hsame.status ▸ hactive⟩
    · obtain ⟨item, hitem, hfor, hnone⟩ := hsynced.new r' hadded
      have hkey : item.signalKey = key := hfor.key.symm.trans (isKeyed_eq_true.1 hkeyed).2
      exact Or.inr ⟨item, hitem, hfor.type.symm.trans htype, hkey, ⟨r', hr', hfor⟩, hkey ▸ hnone⟩
  · rintro (⟨r, hr, hkeyed, htype, hactive⟩ | ⟨item, _, htype, hkey, ⟨a, ha, hfor⟩, _⟩)
    · obtain ⟨r', hr', hsame⟩ := hsynced.same.kept r hr
      refine ⟨r', ?_, (hsame.isKeyed key).trans hkeyed, hsame.type.trans htype,
        hsame.status.symm ▸ hactive⟩
      rw [hrows]
      exact List.mem_append_left _ hr'
    · refine ⟨a, ha, isKeyed_eq_true.2 ⟨hfor.organization, hfor.key.trans hkey⟩,
        hfor.type.trans htype, ?_⟩
      rw [hfor.status]
      rfl

theorem exists_added (h : synchronize newIds now organizationId records items = .ok records')
    {item : SignalItem} (hitem : item ∈ items)
    (hnone : ∀ r ∈ records.rows, isKeyed organizationId item.signalKey r = false) :
    ∃ a ∈ records'.rows, AddedFor organizationId item a := by
  obtain ⟨kept, added, hsynced, hrows⟩ := synchronize_eq_ok h
  rcases hsynced.all item hitem with ⟨r, hr, hkeyed⟩ | ⟨a, ha, hfor⟩
  · rw [hnone r hr] at hkeyed
    cases hkeyed
  · refine ⟨a, ?_, hfor⟩
    rw [hrows]
    exact List.mem_append_right _ ha

/-- **WHEN THE SIGNALS FOLLOW**, for any evaluation whose synchronisation goes through. -/
theorem follows_iff (hkeys : KeysUnique records)
    (h : synchronize newIds now organizationId records items = .ok records') :
    Follows organizationId items records' ↔
      NoneLeftOver organizationId items records ∧ NoneComesBack organizationId items records := by
  constructor
  · intro hfollows
    refine ⟨?_, ?_⟩
    · intro r hr horg hactive
      have hafter : ActiveKey records' organizationId r.signalType r.signalKey :=
        (activeKey_iff h r.signalType r.signalKey).2
          (Or.inl ⟨r, hr, isKeyed_eq_true.2 ⟨horg, rfl⟩, rfl, hactive⟩)
      exact ((hfollows r.signalType r.signalKey).1 hafter).1
    · intro item hitem r hr hkeyed
      by_cases hstatus : r.status = .dismissed
      · exact Or.inl hstatus
      · right
        -- the key is not dismissed: its one record is `r`
        have hnot : ¬DismissedKey records' organizationId item.signalKey := by
          rw [dismissedKey_iff h]
          rintro ⟨s, hs, hskeyed, hdismissed⟩
          have hsr : s = r := hkeys s hs r hr
            ((isKeyed_eq_true.1 hskeyed).1.trans (isKeyed_eq_true.1 hkeyed).1.symm)
            ((isKeyed_eq_true.1 hskeyed).2.trans (isKeyed_eq_true.1 hkeyed).2.symm)
          exact hstatus (hsr ▸ hdismissed)
        have hafter := (hfollows item.signalType item.signalKey).2
          ⟨⟨item, hitem, rfl, rfl⟩, hnot⟩
        rcases (activeKey_iff h _ _).1 hafter with ⟨s, hs, hskeyed, htype, hactive⟩ |
          ⟨_, _, _, _, _, hnone⟩
        · have hsr : s = r := hkeys s hs r hr
            ((isKeyed_eq_true.1 hskeyed).1.trans (isKeyed_eq_true.1 hkeyed).1.symm)
            ((isKeyed_eq_true.1 hskeyed).2.trans (isKeyed_eq_true.1 hkeyed).2.symm)
          exact hsr ▸ ⟨hactive, htype⟩
        · rw [hnone r hr] at hkeyed
          cases hkeyed
  · rintro ⟨hleft, hback⟩ signalType key
    rw [activeKey_iff h, dismissedKey_iff h]
    constructor
    · rintro (⟨r, hr, hkeyed, htype, hactive⟩ | ⟨item, hitem, htype, hkey, _, hnone⟩)
      · obtain ⟨horg, hkey⟩ := isKeyed_eq_true.1 hkeyed
        obtain ⟨item, hitem, hitype, hikey⟩ := hleft r hr horg hactive
        refine ⟨⟨item, hitem, hitype.trans htype, hikey.trans hkey⟩, ?_⟩
        rintro ⟨s, hs, hskeyed, hdismissed⟩
        have hsr : s = r := hkeys s hs r hr ((isKeyed_eq_true.1 hskeyed).1.trans horg.symm)
          ((isKeyed_eq_true.1 hskeyed).2.trans hkey.symm)
        rw [← hsr, hdismissed] at hactive
        cases hactive
      · refine ⟨⟨item, hitem, htype, hkey⟩, ?_⟩
        rintro ⟨s, hs, hskeyed, _⟩
        rw [hnone s hs] at hskeyed
        cases hskeyed
    · rintro ⟨⟨item, hitem, htype, rfl⟩, hnot⟩
      by_cases hstored : ∃ r ∈ records.rows, isKeyed organizationId item.signalKey r = true
      · left
        obtain ⟨r, hr, hkeyed⟩ := hstored
        rcases hback item hitem r hr hkeyed with hdismissed | ⟨hactive, hrtype⟩
        · exact absurd ⟨r, hr, hkeyed, hdismissed⟩ hnot
        · exact ⟨r, hr, hkeyed, hrtype.trans htype, hactive⟩
      · right
        have hnone : ∀ r ∈ records.rows, isKeyed organizationId item.signalKey r = false :=
          fun r hr => Bool.eq_false_of_not_eq_true fun hkeyed => hstored ⟨r, hr, hkeyed⟩
        exact ⟨item, hitem, htype, rfl, exists_added h hitem hnone, hnone⟩

end Keys

/-! ## The call -/

/-- The call returns, and the active signals that it leaves are the ones it has evaluated. -/
def SignalsFollow (py : Interpreter) (fl : ℚ → ℚ)
    (readiness : Database → UUID → Asset → List SignalItem) (run : SignalRun) (db : Database)
    (organizationId : UUID) : Prop :=
  ∃ items, evaluateSignals py fl db run.now organizationId readiness none = .ok items ∧
    Returns (syncAndGetSignals py fl readiness run organizationId {}) db ∧
    Follows organizationId items
      (syncAndGetSignals py fl readiness run organizationId {} ⟨db, db⟩).2.working.proactiveSignals

theorem follows_nil_iff {organizationId : UUID} {records : Table ProactiveSignalRecord} :
    Follows organizationId [] records ↔
      ∀ r ∈ records.rows, r.organizationId = organizationId → r.status.isActive = false := by
  constructor
  · intro h r hr horg
    refine Bool.eq_false_of_not_eq_true fun hactive => ?_
    obtain ⟨⟨_, hitem, _⟩, _⟩ := (h r.signalType r.signalKey).1
      ⟨r, hr, isKeyed_eq_true.2 ⟨horg, rfl⟩, rfl, hactive⟩
    cases hitem
  · intro h signalType key
    constructor
    · rintro ⟨r, hr, hkeyed, _, hactive⟩
      rw [h r hr (isKeyed_eq_true.1 hkeyed).1] at hactive
      cases hactive
    · rintro ⟨⟨_, hitem, _⟩, _⟩
      cases hitem

/-- The signal of a work order, open. -/
def overdueSignal : ProactiveSignalRecord where
  id := 1
  organizationId := 1
  signalKey := "maint_overdue:1:1"
  signalType := "MAINTENANCE_THRESHOLD"
  severity := "CRITICAL"
  priority := "CRITICAL"
  assetId := some 1
  detectedAt := 0

/-- The drone it is about has been deleted since. -/
def deletedDrone : Database :=
  { assets := .single { id := 1, organizationId := 1, assetType := AssetType.drone
                        registration := some "DR-1", deletedAt := some 5 }
    proactiveSignals := .single overdueSignal }

end ProactiveIntelligenceService
end AeroComply
