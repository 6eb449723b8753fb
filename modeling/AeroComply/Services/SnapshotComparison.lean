import AeroComply.Services.Assessment

/-!
# SnapshotComparison — what changed between two snapshots

`compare_snapshots` of `app/services/assessment/engine.py`.  The findings of a snapshot are compared
by entity type, entity id and category, and a snapshot may have several of one key.  The two
snapshots are put in order by their versions alone, which count the runs of one assessment:
`exact_and_symmetric_iff` says when it does not matter which id comes first.
-/

namespace AeroComply

open Relational (Keyed Table)

namespace AssessmentEngine

/-- `(f.entity_type, f.entity_id, f.category)`. -/
abbrev FindingKey := String × String × String

/-- An item of the dictionary `newer_keys`. -/
structure FindingEntry where
  key : FindingKey
  finding : AssessmentFinding

instance : Keyed FindingEntry FindingKey := ⟨FindingEntry.key⟩

structure SnapshotComparison where
  fromVersion : Int
  toVersion : Int
  scoreDelta : ℚ
  newFindings : List AssessmentFinding := []
  resolvedFindings : List String := []

def getSnapshot (tables : AssessmentTables) (organizationId snapshotId : UUID) :
    Except Error AssessmentSnapshot :=
  oneOrRaise
    (tables.snapshots.select fun s => s.id = snapshotId && s.organizationId = organizationId)
    (.notFound "Assessment snapshot not found")

-- how the pieces of an entity id are written out
variable (text : Message → String)

def findingKey (f : AssessmentFinding) : FindingKey := (f.entityType, text f.entityId, f.category)

/-- The text of a resolved finding. -/
def keyLabel (key : FindingKey) : String := key.1 ++ ":" ++ key.2.1 ++ " " ++ key.2.2

/-- `newer_keys`: under a key the last finding of it, in the place of the first. -/
def newerKeys (findings : List AssessmentFinding) : Table FindingEntry :=
  (findings.map fun f => ⟨findingKey text f, f⟩).foldl Table.upsert Table.empty

/-- The findings of the newer snapshot whose key the older one does not have. -/
def newFindings (older newer : List AssessmentFinding) : List AssessmentFinding :=
  ((newerKeys text newer).rows.filter fun e => e.key ∉ older.map (findingKey text)).map
    FindingEntry.finding

/-- The findings of the older snapshot whose key the newer one does not have. -/
def goneFindings (older newer : List AssessmentFinding) : List AssessmentFinding :=
  older.filter fun f => ((newerKeys text newer).find? (findingKey text f)).isNone

/-- The two snapshots as the older and the newer one. -/
def inOrder (a b : AssessmentSnapshot) : AssessmentSnapshot × AssessmentSnapshot :=
  if b.version < a.version then (b, a) else (a, b)

def comparison (tables : AssessmentTables) (older newer : AssessmentSnapshot) :
    SnapshotComparison where
  fromVersion := older.version
  toVersion := newer.version
  scoreDelta := roundTenth (newer.overallScore - older.overallScore)
  newFindings := newFindings text (tables.findingsOf older.id) (tables.findingsOf newer.id)
  resolvedFindings :=
    (goneFindings text (tables.findingsOf older.id) (tables.findingsOf newer.id)).map fun f =>
      keyLabel (findingKey text f)

def compareSnapshots (tables : AssessmentTables) (organizationId snapshotIdA snapshotIdB : UUID) :
    Except Error SnapshotComparison := do
  let a ← getSnapshot tables organizationId snapshotIdA
  let b ← getSnapshot tables organizationId snapshotIdB
  pure (comparison text tables (inOrder a b).1 (inOrder a b).2)

/-- `K(s)`. -/
def keysOf (tables : AssessmentTables) (s : AssessmentSnapshot) : Finset FindingKey :=
  ((tables.findingsOf s.id).map (findingKey text)).toFinset

/-- The comparison is the difference of the two sets of keys. -/
structure ExactDiff (older newer : Finset FindingKey) (resolved : List FindingKey)
    (c : SnapshotComparison) : Prop where
  nodup : (c.newFindings.map (findingKey text)).Nodup
  new_eq : (c.newFindings.map (findingKey text)).toFinset = newer \ older
  labels : c.resolvedFindings = resolved.map keyLabel
  resolved_eq : resolved.toFinset = older \ newer
  union_eq : (older \ resolved.toFinset) ∪ (c.newFindings.map (findingKey text)).toFinset = newer

/-- Swapping the two snapshots would change nothing. -/
def Indifferent (tables : AssessmentTables) (a b : AssessmentSnapshot) : Prop :=
  a.version ≠ b.version ∨ a.id = b.id ∨
    (keysOf text tables a = keysOf text tables b ∧
      roundTenth (b.overallScore - a.overallScore) = 0)

/-! ## The difference -/

section

variable {text} {tables : AssessmentTables} {org idA idB : UUID} {a b : AssessmentSnapshot}
  {older newer : List AssessmentFinding}

theorem key_mem_newerKeys {e : FindingEntry} (h : e ∈ (newerKeys text newer).rows) :
    e.finding ∈ newer ∧ e.key = findingKey text e.finding := by
  rcases Table.mem_of_mem_foldl_upsert h with hwritten | hempty
  · obtain ⟨f, hf, rfl⟩ := List.mem_map.1 hwritten
    exact ⟨hf, rfl⟩
  · cases hempty

theorem newerKeys_find?_isNone {k : FindingKey} :
    ((newerKeys text newer).find? k).isNone = true ↔ k ∉ newer.map (findingKey text) := by
  rw [newerKeys, Table.find?_foldl_upsert, ← List.map_reverse, List.find?_map]
  simp [Table.find?_eq_none, Table.empty, Table.hasKey, Keyed.key]

theorem map_key_newFindings : (newFindings text older newer).map (findingKey text)
    = ((newerKeys text newer).rows.filter fun e => e.key ∉ older.map (findingKey text)).map
        FindingEntry.key := by
  rw [newFindings, List.map_map]
  refine List.map_congr_left fun e he => ?_
  exact (key_mem_newerKeys (List.mem_filter.1 he).1).2.symm

theorem mem_newFindings_key {k : FindingKey} :
    k ∈ (newFindings text older newer).map (findingKey text) ↔
      k ∈ newer.map (findingKey text) ∧ k ∉ older.map (findingKey text) := by
  rw [map_key_newFindings, List.mem_map]
  constructor
  · rintro ⟨e, he, rfl⟩
    obtain ⟨hmem, hnew⟩ := List.mem_filter.1 he
    obtain ⟨hfinding, hkey⟩ := key_mem_newerKeys hmem
    exact ⟨hkey ▸ List.mem_map_of_mem hfinding, of_decide_eq_true hnew⟩
  · rintro ⟨hin, hout⟩
    cases hfind : (newerKeys text newer).find? k with
    | none => exact absurd hin (newerKeys_find?_isNone.1 (by rw [hfind]; rfl))
    | some e =>
      obtain ⟨hmem, rfl⟩ := Table.find?_eq_some.1 hfind
      exact ⟨e, List.mem_filter.2 ⟨hmem, decide_eq_true hout⟩, rfl⟩

theorem mem_goneFindings_key {k : FindingKey} :
    k ∈ (goneFindings text older newer).map (findingKey text) ↔
      k ∈ older.map (findingKey text) ∧ k ∉ newer.map (findingKey text) := by
  rw [List.mem_map]
  constructor
  · rintro ⟨f, hf, rfl⟩
    obtain ⟨hmem, hgone⟩ := List.mem_filter.1 hf
    exact ⟨List.mem_map_of_mem hmem, newerKeys_find?_isNone.1 hgone⟩
  · rintro ⟨hin, hout⟩
    obtain ⟨f, hf, rfl⟩ := List.mem_map.1 hin
    exact ⟨f, List.mem_filter.2 ⟨hf, newerKeys_find?_isNone.2 hout⟩, rfl⟩

/-- **THE DIFFERENCE** is exact, whatever the findings. -/
theorem exactDiff_comparison (older newer : AssessmentSnapshot) :
    ∃ resolved, ExactDiff text (keysOf text tables older) (keysOf text tables newer) resolved
      (comparison text tables older newer) := by
  have hnew : ((comparison text tables older newer).newFindings.map (findingKey text)).toFinset
      = keysOf text tables newer \ keysOf text tables older := by
    ext k
    rw [List.mem_toFinset, Finset.mem_sdiff, keysOf, keysOf, List.mem_toFinset, List.mem_toFinset]
    exact mem_newFindings_key
  have hgone : ((goneFindings text (tables.findingsOf older.id)
      (tables.findingsOf newer.id)).map (findingKey text)).toFinset
        = keysOf text tables older \ keysOf text tables newer := by
    ext k
    rw [List.mem_toFinset, Finset.mem_sdiff, keysOf, keysOf, List.mem_toFinset, List.mem_toFinset]
    exact mem_goneFindings_key
  refine ⟨_, ?_, hnew, ?_, hgone, ?_⟩
  · show ((newFindings text _ _).map (findingKey text)).Nodup
    rw [map_key_newFindings]
    exact (newerKeys text _).nodup.sublist (List.filter_sublist.map _)
  · rw [List.map_map]
    rfl
  · rw [hnew, hgone]
    ext k
    simp only [Finset.mem_union, Finset.mem_sdiff]
    tauto

/-! ## The order of the ids -/

theorem roundHalfEven_eq_zero_iff {q : ℚ} : FlightService.roundHalfEven q = 0 ↔ |q| ≤ 1 / 2 := by
  constructor
  · intro h
    have hnear := FlightService.nearest_roundHalfEven.near q
    rw [h, Int.cast_zero, sub_zero] at hnear
    exact hnear
  · intro h
    obtain ⟨hlo, hhi⟩ := abs_le.1 h
    rw [FlightService.roundHalfEven]
    rcases le_or_gt 0 q with hq | hq
    · have hfloor : ⌊q⌋ = 0 := Int.floor_eq_iff.2 ⟨by exact_mod_cast hq, by push_cast; linarith⟩
      rw [show q.floor = 0 from hfloor]
      split_ifs with hdown hup heven
      · rfl
      · push_cast at hup
        linarith
      · rfl
      · omega
    · have hfloor : ⌊q⌋ = -1 :=
        Int.floor_eq_iff.2 ⟨by push_cast; linarith, by push_cast; linarith⟩
      rw [show q.floor = -1 from hfloor]
      split_ifs with hdown hup heven
      · push_cast at hdown
        linarith
      · rfl
      · omega
      · rfl

/-- A score difference is the same in both directions when it is rounded to zero. -/
theorem roundTenth_eq_neg_iff {x : ℚ} : roundTenth x = roundTenth (-x) ↔ roundTenth x = 0 := by
  have hzero : ∀ y, roundTenth y = 0 ↔ FlightService.roundHalfEven (y * 10) = 0 := by
    intro y
    rw [roundTenth, div_eq_zero_iff, Int.cast_eq_zero]
    exact or_iff_left (by norm_num)
  constructor
  · intro h
    have hint : FlightService.roundHalfEven (x * 10) = FlightService.roundHalfEven (-x * 10) := by
      have htimes : (FlightService.roundHalfEven (x * 10) : ℚ)
          = FlightService.roundHalfEven (-x * 10) := by
        rw [roundTenth, roundTenth] at h
        linarith
      exact_mod_cast htimes
    have hnear := FlightService.nearest_roundHalfEven.near (x * 10)
    have hnear' := FlightService.nearest_roundHalfEven.near (-x * 10)
    rw [← hint] at hnear'
    rw [hzero]
    -- the integer is as near to the difference as to its opposite
    have hlt : |(FlightService.roundHalfEven (x * 10) : ℚ)| < 1 := by
      rw [abs_le] at hnear hnear'
      rw [abs_lt]
      constructor <;> linarith
    exact Int.abs_lt_one_iff.1 (by exact_mod_cast hlt)
  · intro h
    have hneg : roundTenth (-x) = 0 := by
      rw [hzero, roundHalfEven_eq_zero_iff, neg_mul, abs_neg]
      exact roundHalfEven_eq_zero_iff.1 ((hzero x).1 h)
    rw [h, hneg]

theorem getSnapshot_cases (tables : AssessmentTables) (org id : UUID) :
    (∃ s, getSnapshot tables org id = .ok s) ∨
      getSnapshot tables org id = .error (.notFound "Assessment snapshot not found") := by
  obtain ⟨found, hfound⟩ := exists_scalarOneOrNone_of_key (t := tables.snapshots) (k := id)
    (p := fun s => s.id = id && s.organizationId = org) fun s _ hs => by
      simp only [Bool.and_eq_true, decide_eq_true_eq] at hs
      exact hs.1
  rw [getSnapshot, oneOrRaise, hfound]
  cases found with
  | some s => exact Or.inl ⟨s, rfl⟩
  | none => exact Or.inr rfl

theorem getSnapshot_id (h : getSnapshot tables org idA = .ok a) : a.id = idA := by
  have hfound := (mem_of_oneOrRaise h).2
  simp only [Bool.and_eq_true, decide_eq_true_eq] at hfound
  exact hfound.1

theorem compareSnapshots_eq (ha : getSnapshot tables org idA = .ok a)
    (hb : getSnapshot tables org idB = .ok b) : compareSnapshots text tables org idA idB
      = .ok (comparison text tables (inOrder a b).1 (inOrder a b).2) := by
  rw [compareSnapshots, ha, hb]
  rfl

theorem newFindings_eq_nil_iff {older newer : AssessmentSnapshot} :
    newFindings text (tables.findingsOf older.id) (tables.findingsOf newer.id) = [] ↔
      keysOf text tables newer ⊆ keysOf text tables older := by
  rw [← List.map_eq_nil_iff (f := findingKey text), List.eq_nil_iff_forall_not_mem]
  constructor
  · intro h k hk
    rw [keysOf, List.mem_toFinset] at hk ⊢
    by_contra hout
    exact h k (mem_newFindings_key.2 ⟨hk, hout⟩)
  · intro h k hk
    obtain ⟨hin, hout⟩ := mem_newFindings_key.1 hk
    exact hout (List.mem_toFinset.1 (h (List.mem_toFinset.2 hin)))

theorem goneFindings_eq_nil {older newer : AssessmentSnapshot}
    (h : keysOf text tables older ⊆ keysOf text tables newer) :
    goneFindings text (tables.findingsOf older.id) (tables.findingsOf newer.id) = [] := by
  rw [← List.map_eq_nil_iff (f := findingKey text), List.eq_nil_iff_forall_not_mem]
  intro k hk
  obtain ⟨hin, hout⟩ := mem_goneFindings_key.1 hk
  exact hout (List.mem_toFinset.1 (h (List.mem_toFinset.2 hin)))

theorem newFindings_disjoint {older newer : AssessmentSnapshot} (hne : older.id ≠ newer.id)
    (h : newFindings text (tables.findingsOf older.id) (tables.findingsOf newer.id)
      = newFindings text (tables.findingsOf newer.id) (tables.findingsOf older.id)) :
    newFindings text (tables.findingsOf older.id) (tables.findingsOf newer.id) = [] := by
  have hmem : ∀ {s s' : AssessmentSnapshot}, ∀ f ∈ newFindings text (tables.findingsOf s.id)
      (tables.findingsOf s'.id), f.snapshotId = s'.id := by
    intro s s' f hf
    obtain ⟨e, he, rfl⟩ := List.mem_map.1 hf
    have hrow := (key_mem_newerKeys (List.mem_filter.1 he).1).1
    exact of_decide_eq_true (Table.mem_select.1 hrow).2
  refine List.eq_nil_iff_forall_not_mem.2 fun f hf => hne ?_
  exact (hmem f (h ▸ hf)).symm.trans (hmem f hf)

theorem comparison_comm_iff (hne : a.id ≠ b.id) (hversion : a.version = b.version) :
    comparison text tables a b = comparison text tables b a ↔
      keysOf text tables a = keysOf text tables b ∧
        roundTenth (b.overallScore - a.overallScore) = 0 := by
  have hscore : roundTenth (b.overallScore - a.overallScore)
      = roundTenth (a.overallScore - b.overallScore) ↔
        roundTenth (b.overallScore - a.overallScore) = 0 := by
    rw [← roundTenth_eq_neg_iff, neg_sub]
  constructor
  · intro h
    have hnew := congrArg SnapshotComparison.newFindings h
    have hba := newFindings_disjoint hne hnew
    have hab := newFindings_disjoint hne.symm hnew.symm
    refine ⟨?_, hscore.1 (congrArg SnapshotComparison.scoreDelta h)⟩
    exact Finset.Subset.antisymm (newFindings_eq_nil_iff.1 hab) (newFindings_eq_nil_iff.1 hba)
  · rintro ⟨hkeys, hzero⟩
    have hsub : keysOf text tables a ⊆ keysOf text tables b := hkeys.le
    have hsub' : keysOf text tables b ⊆ keysOf text tables a := hkeys.ge
    rw [comparison, comparison, hversion, hscore.2 hzero, newFindings_eq_nil_iff.2 hsub,
      newFindings_eq_nil_iff.2 hsub', goneFindings_eq_nil hsub, goneFindings_eq_nil hsub']

/-- **EXACT AND SYMMETRIC**: a comparison is the difference of the keys and does not depend on which
id comes first, exactly when the versions differ, the ids are one, or there is no difference. -/
theorem exact_and_symmetric_iff (text : Message → String) (tables : AssessmentTables)
    (org idA idB : UUID) :
    ((∀ a b c, getSnapshot tables org idA = .ok a → getSnapshot tables org idB = .ok b →
        compareSnapshots text tables org idA idB = .ok c →
        ∃ resolved, ExactDiff text (keysOf text tables (inOrder a b).1)
          (keysOf text tables (inOrder a b).2) resolved c) ∧
      compareSnapshots text tables org idA idB = compareSnapshots text tables org idB idA) ↔
    ∀ a b, getSnapshot tables org idA = .ok a → getSnapshot tables org idB = .ok b →
      Indifferent text tables a b := by
  constructor
  · rintro ⟨-, hsymm⟩ a b ha hb
    rw [compareSnapshots_eq ha hb, compareSnapshots_eq hb ha] at hsymm
    by_cases hversion : a.version = b.version
    · by_cases hid : a.id = b.id
      · exact Or.inr (Or.inl hid)
      · rw [inOrder, inOrder, if_neg (by omega), if_neg (by omega)] at hsymm
        exact Or.inr (Or.inr ((comparison_comm_iff hid hversion).1 (Except.ok.inj hsymm)))
    · exact Or.inl hversion
  · intro h
    constructor
    · intro a b c ha hb hc
      rw [compareSnapshots_eq ha hb] at hc
      cases hc
      exact exactDiff_comparison _ _
    · rcases getSnapshot_cases tables org idA with ⟨a, ha⟩ | ha
      · rcases getSnapshot_cases tables org idB with ⟨b, hb⟩ | hb
        · rw [compareSnapshots_eq ha hb, compareSnapshots_eq hb ha]
          rcases Int.lt_trichotomy a.version b.version with hlt | heq | hgt
          · rw [inOrder, inOrder, if_neg (by omega), if_pos hlt]
          · by_cases hid : a.id = b.id
            · rw [← getSnapshot_id ha, hid, getSnapshot_id hb, hb] at ha
              cases ha
              rfl
            · have hsame := ((h a b ha hb).resolve_left (not_not.2 heq)).resolve_left hid
              rw [inOrder, inOrder, if_neg (by omega), if_neg (by omega)]
              exact congrArg Except.ok ((comparison_comm_iff hid heq).2 hsame)
          · rw [inOrder, inOrder, if_pos hgt, if_neg (by omega)]
        · rw [compareSnapshots, compareSnapshots, ha, hb]
          rfl
      · rcases getSnapshot_cases tables org idB with ⟨b, hb⟩ | hb
        · rw [compareSnapshots, compareSnapshots, ha, hb]
          rfl
        · rw [compareSnapshots, compareSnapshots, ha, hb]

end

/-! ## The first snapshots of two assessments -/

def plainText (message : Message) : String :=
  String.join (message.map fun part => match part with
    | .str s => s
    | _ => "")

def firstSnapshot (id assessmentId : UUID) : AssessmentSnapshot where
  id := id
  organizationId := 1
  assessmentId := assessmentId
  version := 1
  overallScore := 100
  maturityBand := .healthy

def oneFinding : AssessmentFinding where
  id := 7
  organizationId := 1
  snapshotId := 5
  category := "MATERIAL_SHORT"
  severity := .low
  title := "Material Short"
  description := []
  entityType := "Part"
  entityId := [.str "P-1"]
  materialityScore := 0
  complexityBand := .low
  source := .workOrder 1 "WO-1"

def twoAssessments : AssessmentTables where
  snapshots := ⟨[firstSnapshot 5 3, firstSnapshot 6 4], by decide⟩
  findings := .single oneFinding

/-- Both are of version 1, and what is new in one direction is resolved in the other. -/
theorem first_snapshots_asymmetric :
    compareSnapshots plainText twoAssessments 1 5 6
      ≠ compareSnapshots plainText twoAssessments 1 6 5 := by
  intro h
  have hresolved := congrArg
    (fun r => r.toOption.map SnapshotComparison.resolvedFindings) h
  revert hresolved
  decide

end AssessmentEngine
end AeroComply
