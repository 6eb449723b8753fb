import Mathlib.Data.List.Sort
import AeroComply.Lib.Remote
import AeroComply.Services.EvidenceFile

/-!
# EvidenceReconciliation — the rows of the files against the objects

`app/services/evidence_reconciliation_service.py`.  A scan asks the storage for the object of each
row and sorts the rows by what it hears; the repairs delete, once more, the objects of rows that
were deleted.  Any call to the storage can fail: `Remote.answers` is what the calls of a scan
hear, and all that the scan reports is read off it.
-/

namespace AeroComply

open Relational (Table)

namespace EvidenceReconciliation

open EvidenceFileService
open Remote (Bucket Fate answers)

/-- The database, the `created_at` column of its files, and the storage. -/
structure World where
  db : Database
  createdAt : UUID → DateTime := fun _ => 0
  storage : Bucket String

/-! ## The scan -/

/-- The texts of `_classify`. -/
def classifyDetail (dbStatus : EvidenceFileStatus) (objectExists : Bool) : String :=
  match dbStatus, objectExists with
  | .stored, true => "STORED row has a real stored object."
  | .stored, false =>
    "STORED row but the object is missing from storage -- possible storage/DB desync "
      ++ "(see M16.4/M16.6 Case C). Never auto-repaired: could indicate a wrongly-reported "
      ++ "upload success, an out-of-band deletion, or a storage outage that has since resolved."
  | .pending, true =>
    "PENDING row but an object already exists at its storage key -- the upload flow "
      ++ "may be mid-flight (mark_stored() not yet called) or may have crashed after "
      ++ "put() succeeded. Never auto-advanced to STORED without independent confirmation."
  | .pending, false =>
    "PENDING row with no object in storage -- could be a genuinely in-flight upload or "
      ++ "an abandoned/crashed one. Never auto-marked FAILED without a clear cutoff policy."
  | .failed, true =>
    "FAILED row but an object exists in storage -- a potential orphan (bytes were "
      ++ "written despite the upload being recorded as failed). Never auto-deleted here."
  | .failed, false => "FAILED row correctly has no stored object."
  | .deleted, true =>
    "DELETED row but its object still exists -- the original M16.6 delete already "
      ++ "succeeded (that is the only way a row reaches DELETED), so this object was "
      ++ "already, explicitly authorized for permanent removal. Repair re-issues that "
      ++ "same delete; it does not infer a new decision."
  | .deleted, false => "DELETED row correctly has no stored object."

/-- `EvidenceFileAnomaly`, with what the report shows of it. -/
structure ScanAnomaly extends EvidenceFileAnomaly where
  evidenceId : UUID
  dbStatus : EvidenceFileStatus
  objectExists : Option Bool
  detail : String

/-- The anomaly of a row whose object could not be asked for. -/
def unavailableAnomaly (row : EvidenceFile) : ScanAnomaly where
  evidenceFileId := row.id
  organizationId := row.organizationId
  classification := .infrastructureFailure
  evidenceId := row.evidenceId
  dbStatus := row.status
  objectExists := none
  detail := "Could not determine object existence (storage unavailable, "
    ++ "permission failure, timeout, or provider error). NOT treated as missing."

/-- The anomaly of a row whose status and object do not agree. -/
def classifiedAnomaly (row : EvidenceFile) (objectExists : Bool) : ScanAnomaly where
  evidenceFileId := row.id
  organizationId := row.organizationId
  classification := classify row.status objectExists
  evidenceId := row.evidenceId
  dbStatus := row.status
  objectExists := some objectExists
  detail := classifyDetail row.status objectExists

/-- The variables of the loop. -/
structure Tally where
  scanned : Nat := 0
  consistent : Nat := 0
  manualReview : Nat := 0
  repairable : Nat := 0
  infraFailures : Nat := 0
  failures : List Message := []
  anomalies : List ScanAnomaly := []

/-- One round of the loop, once the storage was asked. -/
def Tally.note (t : Tally) (row : EvidenceFile) (exists? : Option Bool) : Tally :=
  let t := { t with scanned := t.scanned + 1 }
  match exists? with
  | none =>
    { t with
      infraFailures := t.infraFailures + 1
      failures := t.failures ++
        [[.str "storage unavailable while checking evidence_file_id=", .uuid row.id]]
      anomalies := t.anomalies ++ [unavailableAnomaly row] }
  | some objectExists =>
    match classify row.status objectExists with
    -- both are healthy outcomes
    | .consistent | .noAction => { t with consistent := t.consistent + 1 }
    | .safeToRepair =>
      { t with
        repairable := t.repairable + 1
        anomalies := t.anomalies ++ [classifiedAnomaly row objectExists] }
    | .manualReview =>
      { t with
        manualReview := t.manualReview + 1
        anomalies := t.anomalies ++ [classifiedAnomaly row objectExists] }
    | .infrastructureFailure =>
      { t with anomalies := t.anomalies ++ [classifiedAnomaly row objectExists] }

structure ReconciliationResult where
  scannedCount : Nat
  consistentCount : Nat
  anomalyCount : Nat
  repairableCount : Nat
  repairedCount : Nat
  manualReviewCount : Nat
  infrastructureFailureCount : Nat
  failures : List Message
  anomalies : List ScanAnomaly

def Tally.result (t : Tally) : ReconciliationResult where
  scannedCount := t.scanned
  consistentCount := t.consistent
  anomalyCount := t.repairable + t.manualReview
  repairableCount := t.repairable
  repairedCount := 0
  manualReviewCount := t.manualReview
  infrastructureFailureCount := t.infraFailures
  failures := t.failures
  anomalies := t.anomalies

/-- `ORDER BY created_at ASC, id ASC`. -/
def scanOrder (createdAt : UUID → DateTime) (a b : EvidenceFile) : Prop :=
  createdAt a.id < createdAt b.id ∨ (createdAt a.id = createdAt b.id ∧ a.id ≤ b.id)

instance (createdAt : UUID → DateTime) : DecidableRel (scanOrder createdAt) := fun a b =>
  inferInstanceAs (Decidable (createdAt a.id < createdAt b.id ∨
    (createdAt a.id = createdAt b.id ∧ a.id ≤ b.id)))

/-- The rows of a scan: those of one organization, or all. -/
def scannedRows (w : World) (organizationId : Option UUID) : List EvidenceFile :=
  (w.db.evidenceFiles.select fun f =>
    organizationId.all fun org => f.organizationId = org).insertionSort (scanOrder w.createdAt)

/-- One round of the loop. -/
def scanRow (fate : Nat → Fate) (acc : Tally × World) (row : EvidenceFile) : Tally × World :=
  let (exists?, storage) := Remote.head fate row.storageKey acc.2.storage
  (acc.1.note row exists?, { acc.2 with storage })

def scanEvidenceFiles (fate : Nat → Fate) (w : World) (organizationId : Option UUID) :
    ReconciliationResult × World :=
  let (tally, w) := (scannedRows w organizationId).foldl (scanRow fate) ({}, w)
  (tally.result, w)

/-! ## The repairs -/

/-- One round of the loop: `true` if the anomaly is repaired. -/
def repairOne (fate : Nat → Fate) (actorUserId : Option UUID) (w : World)
    (anomaly : EvidenceFileAnomaly) : Bool × World :=
  match repairable w.db anomaly with
  | none => (false, w)
  | some row =>
    match Remote.delete fate row.storageKey w.storage with
    -- nothing is recorded: the storage has not confirmed the deletion
    | (false, storage) => (false, { w with storage })
    | (true, storage) =>
      (true, { w with
        storage
        db := w.db.recordAuditEvent row.organizationId actorUserId
          "evidence_file.reconciliation_repaired" "EvidenceFile" (some row.id) })

/-- One round of the loop, with its counter. -/
def repairRound (fate : Nat → Fate) (actorUserId : Option UUID) (acc : Nat × World)
    (anomaly : EvidenceFileAnomaly) : Nat × World :=
  let (repaired, w) := repairOne fate actorUserId acc.2 anomaly
  (if repaired then acc.1 + 1 else acc.1, w)

/-- `apply_repairs`: how many anomalies were repaired. -/
def applyRepairs (fate : Nat → Fate) (actorUserId : Option UUID) (w : World)
    (anomalies : List EvidenceFileAnomaly) : Nat × World :=
  anomalies.foldl (repairRound fate actorUserId) (0, w)

/-! ## What a scan reports -/

/-- What a scan makes of a row: of its status and of what it heard of its object. -/
def verdict (status : EvidenceFileStatus) : Option Bool → ReconciliationClassification
  | none => .infrastructureFailure
  | some objectExists => classify status objectExists

def verdictOf (x : EvidenceFile × Option Bool) : ReconciliationClassification :=
  verdict x.1.status x.2

/-- The row is in order, as far as the scan heard. -/
def isConsistent (x : EvidenceFile × Option Bool) : Bool :=
  verdictOf x = .consistent || verdictOf x = .noAction

def anomalyOf (x : EvidenceFile × Option Bool) : ScanAnomaly :=
  match x.2 with
  | none => unavailableAnomaly x.1
  | some objectExists => classifiedAnomaly x.1 objectExists

/-- The variables of the loop say what was seen of the rows. -/
structure Counts (t : Tally) (seen : List (EvidenceFile × Option Bool)) : Prop where
  scanned : t.scanned = seen.length
  consistent : t.consistent = seen.countP isConsistent
  repairable : t.repairable = seen.countP fun x => verdictOf x = .safeToRepair
  manualReview : t.manualReview = seen.countP fun x => verdictOf x = .manualReview
  infraFailures : t.infraFailures = seen.countP fun x => verdictOf x = .infrastructureFailure
  anomalies : t.anomalies = (seen.filter fun x => !isConsistent x).map anomalyOf

section Scan

variable {fate : Nat → Fate} {t : Tally} {seen : List (EvidenceFile × Option Bool)}

@[simp] theorem evidenceFileId_anomalyOf (x : EvidenceFile × Option Bool) :
    (anomalyOf x).evidenceFileId = x.1.id := by
  obtain ⟨row, _ | objectExists⟩ := x
  · rfl
  · rfl

theorem classify_ne_infrastructureFailure (status : EvidenceFileStatus) (objectExists : Bool) :
    classify status objectExists ≠ .infrastructureFailure := by
  cases status
  all_goals
    cases objectExists
    all_goals
      intro h
      cases h

theorem counts_start : Counts {} ([] : List (EvidenceFile × Option Bool)) :=
  ⟨rfl, rfl, rfl, rfl, rfl, rfl⟩

/-- **ONE ROUND**: the variables keep saying what was seen. -/
theorem counts_note (h : Counts t seen) (row : EvidenceFile) (exists? : Option Bool) :
    Counts (t.note row exists?) (seen ++ [(row, exists?)]) := by
  cases exists? with
  | none =>
    constructor
    all_goals simp [Tally.note, h.scanned, h.consistent, h.repairable, h.manualReview,
      h.infraFailures, h.anomalies, isConsistent, verdictOf, verdict, anomalyOf]
  | some objectExists =>
    have hanswered := classify_ne_infrastructureFailure row.status objectExists
    cases hclass : classify row.status objectExists
    case infrastructureFailure => exact absurd hclass hanswered
    all_goals
      constructor
      all_goals simp [Tally.note, h.scanned, h.consistent, h.repairable, h.manualReview,
        h.infraFailures, h.anomalies, isConsistent, verdictOf, verdict, anomalyOf, hclass]

/-- **THE LOOP**: the rows are seen as the storage answers, and nothing else moves. -/
theorem foldl_scanRow (fate : Nat → Fate) (rows : List EvidenceFile) : ∀ {t : Tally} {w : World}
    {seen : List (EvidenceFile × Option Bool)}, Counts t seen →
      Counts (rows.foldl (scanRow fate) (t, w)).1
          (seen ++ answers fate EvidenceFile.storageKey w.storage.objects w.storage.calls rows) ∧
        (rows.foldl (scanRow fate) (t, w)).2
          = { w with
              storage := { w.storage with calls := w.storage.calls + rows.length } } := by
  induction rows with
  | nil =>
    intro t w seen h
    refine ⟨?_, rfl⟩
    rw [answers, List.append_nil]
    exact h
  | cons row rows ih =>
    intro t w seen h
    obtain ⟨hcounts, hworld⟩ :=
      ih (w := (scanRow fate (t, w) row).2) (counts_note h row (Remote.head fate row.storageKey
        w.storage).1)
    rw [List.append_assoc] at hcounts
    refine ⟨hcounts, hworld.trans ?_⟩
    rw [List.length_cons, Nat.add_comm rows.length 1, ← Nat.add_assoc]
    rfl

theorem length_eq_countP (seen : List (EvidenceFile × Option Bool)) :
    seen.length = seen.countP isConsistent + seen.countP (fun x => verdictOf x = .safeToRepair)
      + seen.countP (fun x => verdictOf x = .manualReview)
      + seen.countP fun x => verdictOf x = .infrastructureFailure := by
  induction seen with
  | nil => rfl
  | cons x seen ih =>
    rw [List.length_cons, ih, List.countP_cons, List.countP_cons, List.countP_cons,
      List.countP_cons]
    cases hverdict : verdictOf x
    all_goals
      simp [isConsistent, hverdict]
      try omega

end Scan

/-! ## What the repairs do -/

section Repairs

variable {fate : Nat → Fate} {actor : Option UUID} {w w' : World} {n : Nat}

/-- From `w` to `w'` the repairs of `n` anomalies: rows and other tables are as they were, `n`
events are new, no object appears, and the ones that go belong to rows that are DELETED. -/
structure Repaired (anomalies : List EvidenceFileAnomaly) (w w' : World) (n : Nat) : Prop where
  createdAt : w'.createdAt = w.createdAt
  database : ∃ events : List AuditEvent, events.length = n ∧
    w'.db = { w.db with auditEvents := w.db.auditEvents ++ events }
  kept : ∀ key ∈ w'.storage.objects, key ∈ w.storage.objects
  authorized : ∀ key ∈ w.storage.objects, key ∉ w'.storage.objects →
    ∃ anomaly ∈ anomalies, anomaly.classification = .safeToRepair ∧
      ∃ row ∈ w.db.evidenceFiles.rows, row.id = anomaly.evidenceFileId ∧
        row.storageKey = key ∧ row.status = .deleted

variable {anomalies : List EvidenceFileAnomaly} {db : Database}

theorem Repaired.evidenceFiles (h : Repaired anomalies w w' n) :
    w'.db.evidenceFiles = w.db.evidenceFiles := by
  obtain ⟨events, _, hdb⟩ := h.database
  rw [hdb]

variable {anomaly : EvidenceFileAnomaly} {row : EvidenceFile} {acc : Nat × World}

theorem repairable_eq_some :
    repairable db anomaly = some row ↔
      anomaly.classification = .safeToRepair ∧ row ∈ db.evidenceFiles.rows ∧
        row.id = anomaly.evidenceFileId ∧ row.organizationId = anomaly.organizationId ∧
        row.status = .deleted := by
  rw [repairable]
  by_cases hclass : anomaly.classification = .safeToRepair
  · rw [if_pos hclass, Option.filter_eq_some_iff, Table.find?_eq_some]
    simp only [Bool.and_eq_true, decide_eq_true_eq, and_assoc, hclass, true_and]
    exact Iff.rfl
  · rw [if_neg hclass]
    exact ⟨fun h => (nomatch h), fun h => absurd h.1 hclass⟩

theorem repairable_congr {db db' : Database} (h : db'.evidenceFiles = db.evidenceFiles)
    (anomaly : EvidenceFileAnomaly) : repairable db' anomaly = repairable db anomaly := by
  rw [repairable, repairable, h]

theorem repairRound_of_some (fate : Nat → Fate) (actor : Option UUID)
    (h : repairable acc.2.db anomaly = some row) :
    (repairRound fate actor acc anomaly).2.storage
        = (Remote.delete fate row.storageKey acc.2.storage).2 ∧
      (repairRound fate actor acc anomaly).2.createdAt = acc.2.createdAt ∧
      ∃ events : List AuditEvent,
        (repairRound fate actor acc anomaly).1 = acc.1 + events.length ∧
        (repairRound fate actor acc anomaly).2.db
          = { acc.2.db with auditEvents := acc.2.db.auditEvents ++ events } := by
  cases hdelete : Remote.delete fate row.storageKey acc.2.storage with
  | mk done storage =>
    cases done with
    | false =>
      simp only [repairRound, repairOne, h, hdelete]
      refine ⟨trivial, trivial, [], rfl, ?_⟩
      rw [List.append_nil]
    | true =>
      simp only [repairRound, repairOne, h, hdelete]
      exact ⟨trivial, trivial, _, rfl, rfl⟩

theorem repairRound_of_none (h : repairable acc.2.db anomaly = none) :
    repairRound fate actor acc anomaly = acc := by
  rw [repairRound, repairOne, h]
  rfl

/-- **ONE REPAIR**: it only goes on with what the repairs may do. -/
theorem repaired_round (h : Repaired anomalies w acc.2 acc.1) (hmem : anomaly ∈ anomalies) :
    Repaired anomalies w (repairRound fate actor acc anomaly).2
      (repairRound fate actor acc anomaly).1 := by
  cases hrow : repairable acc.2.db anomaly with
  | none =>
    rw [repairRound_of_none hrow]
    exact h
  | some row =>
    obtain ⟨hstorage, hcreated, events, hcount, hdb⟩ :=
      repairRound_of_some fate actor hrow
    obtain ⟨earlier, hlength, hbefore⟩ := h.database
    constructor
    · exact hcreated.trans h.createdAt
    · refine ⟨earlier ++ events, ?_, ?_⟩
      · rw [List.length_append, hlength, hcount]
      · rw [hdb, hbefore, List.append_assoc]
    · intro key hkey
      rw [hstorage] at hkey
      exact h.kept key (Remote.mem_of_mem_delete hkey)
    · intro key hkey hgone
      by_cases hnow : key ∈ acc.2.storage.objects
      · -- it went in this round
        have hkeyrow : key = row.storageKey := by
          by_contra hne
          rw [hstorage] at hgone
          exact hgone (Remote.mem_delete_of_ne hnow hne)
        rw [repairable_congr h.evidenceFiles, repairable_eq_some] at hrow
        obtain ⟨hclass, hrow, hid, _, hdeleted⟩ := hrow
        exact ⟨anomaly, hmem, hclass, row, hrow, hid, hkeyrow.symm, hdeleted⟩
      · exact h.authorized key hkey hnow

/-- **THE REPAIRS**: whatever the storage answers, and whatever anomalies are asked for. -/
theorem repaired_applyRepairs (fate : Nat → Fate) (actor : Option UUID) (w : World)
    (anomalies : List EvidenceFileAnomaly) :
    Repaired anomalies w (applyRepairs fate actor w anomalies).2
      (applyRepairs fate actor w anomalies).1 := by
  have hrun : ∀ (todo : List EvidenceFileAnomaly) (acc : Nat × World), todo ⊆ anomalies →
      Repaired anomalies w acc.2 acc.1 →
        Repaired anomalies w (todo.foldl (repairRound fate actor) acc).2
          (todo.foldl (repairRound fate actor) acc).1 := by
    intro todo
    induction todo with
    | nil => exact fun _ _ h => h
    | cons anomaly todo ih =>
      intro acc hsub h
      exact ih _ (List.subset_of_cons_subset hsub) (repaired_round h (hsub List.mem_cons_self))
  refine hrun anomalies (0, w) (List.Subset.refl _) ?_
  constructor
  · rfl
  · exact ⟨[], rfl, by rw [List.append_nil]⟩
  · exact fun _ h => h
  · exact fun _ h hgone => absurd h hgone

theorem evidenceFiles_repairRound (fate : Nat → Fate) (actor : Option UUID) (acc : Nat × World)
    (anomaly : EvidenceFileAnomaly) :
    (repairRound fate actor acc anomaly).2.db.evidenceFiles = acc.2.db.evidenceFiles ∧
      acc.2.storage.calls ≤ (repairRound fate actor acc anomaly).2.storage.calls := by
  cases hrow : repairable acc.2.db anomaly with
  | none =>
    rw [repairRound_of_none hrow]
    exact ⟨rfl, Nat.le_refl _⟩
  | some row =>
    obtain ⟨hstorage, _, events, _, hdb⟩ := repairRound_of_some fate actor hrow
    rw [hstorage, hdb, Remote.calls_delete]
    exact ⟨rfl, Nat.le_succ _⟩

theorem calls_le_repairs (todo : List EvidenceFileAnomaly) : ∀ acc : Nat × World,
    acc.2.storage.calls ≤ (todo.foldl (repairRound fate actor) acc).2.storage.calls := by
  induction todo with
  | nil => exact fun _ => Nat.le_refl _
  | cons anomaly todo ih =>
    exact fun acc => (evidenceFiles_repairRound fate actor acc anomaly).2.trans (ih _)

theorem mem_of_mem_repairs {key : String} (todo : List EvidenceFileAnomaly) :
    ∀ acc : Nat × World, key ∈ (todo.foldl (repairRound fate actor) acc).2.storage.objects →
      key ∈ acc.2.storage.objects := by
  induction todo with
  | nil => exact fun _ h => h
  | cons anomaly todo ih =>
    intro acc h
    have hround := ih _ h
    cases hrow : repairable acc.2.db anomaly with
    | none =>
      rw [repairRound_of_none hrow] at hround
      exact hround
    | some row =>
      rw [(repairRound_of_some fate actor hrow).1] at hround
      exact Remote.mem_of_mem_delete hround

theorem gone_of_answers (hrow : repairable db anomaly = some row)
    (todo : List EvidenceFileAnomaly) :
    ∀ acc : Nat × World, acc.2.db.evidenceFiles = db.evidenceFiles →
      (∀ m, acc.2.storage.calls ≤ m → fate m = .answers) → anomaly ∈ todo →
        row.storageKey ∉ (todo.foldl (repairRound fate actor) acc).2.storage.objects := by
  induction todo with
  | nil => exact fun _ _ _ hmem => (nomatch hmem)
  | cons first todo ih =>
    intro acc hfiles hfate hmem
    obtain ⟨hsame, hcalls⟩ := evidenceFiles_repairRound fate actor acc first
    rcases List.mem_cons.1 hmem with rfl | hmem
    · -- its own round removes the object, and the later ones put none
      have hrow' : repairable acc.2.db anomaly = some row := by
        rw [repairable_congr hfiles, hrow]
      have hgone := (Remote.delete_of_answers row.storageKey
        (hfate _ (Nat.le_refl _))).2
      intro hin
      have hin := mem_of_mem_repairs todo _ hin
      rw [(repairRound_of_some fate actor hrow').1] at hin
      exact hgone hin
    · exact ih _ (hsame.trans hfiles) (fun m hm => hfate m (hcalls.trans hm)) hmem

end Repairs

/-! ## Scan, repair, scan -/

section Twice

variable {fate : Nat → Fate} {actor : Option UUID} {w : World} {organizationId : Option UUID}

/-- What the scan of `w` hears of the rows. -/
def heard (fate : Nat → Fate) (w : World) (organizationId : Option UUID) :
    List (EvidenceFile × Option Bool) :=
  answers fate EvidenceFile.storageKey w.storage.objects w.storage.calls
    (scannedRows w organizationId)

/-- A scan moves nothing, counts every row once, and reports each row that is not in order. -/
structure ScanExact (fate : Nat → Fate) (w : World) (organizationId : Option UUID)
    (r : ReconciliationResult) (w' : World) : Prop where
  database : w'.db = w.db
  objects : w'.storage.objects = w.storage.objects
  all : r.scannedCount = (scannedRows w organizationId).length
  once : r.scannedCount
    = r.consistentCount + r.repairableCount + r.manualReviewCount + r.infrastructureFailureCount
  consistent : r.consistentCount = (heard fate w organizationId).countP isConsistent
  anomalies : r.anomalies
    = ((heard fate w organizationId).filter fun x => !isConsistent x).map anomalyOf

theorem scanEvidenceFiles_exact (fate : Nat → Fate) (w : World) (organizationId : Option UUID) :
    ScanExact fate w organizationId (scanEvidenceFiles fate w organizationId).1
        (scanEvidenceFiles fate w organizationId).2 ∧
      (scanEvidenceFiles fate w organizationId).1.repairableCount
        = (heard fate w organizationId).countP fun x => verdictOf x = .safeToRepair := by
  obtain ⟨hcounts, hworld⟩ :=
    foldl_scanRow fate (w := w) (scannedRows w organizationId) counts_start
  rw [List.nil_append] at hcounts
  refine ⟨⟨?_, ?_, ?_, ?_, hcounts.consistent, hcounts.anomalies⟩, hcounts.repairable⟩
  · show ((scannedRows w organizationId).foldl (scanRow fate) ({}, w)).2.db = w.db
    rw [hworld]
  · show ((scannedRows w organizationId).foldl (scanRow fate) ({}, w)).2.storage.objects
      = w.storage.objects
    rw [hworld]
  · exact hcounts.scanned.trans (Remote.length_answers _ _)
  · refine hcounts.scanned.trans ((length_eq_countP _).trans ?_)
    rw [← hcounts.consistent, ← hcounts.repairable, ← hcounts.manualReview,
      ← hcounts.infraFailures]
    rfl

theorem scanEvidenceFiles_world (fate : Nat → Fate) (w : World) (organizationId : Option UUID) :
    (scanEvidenceFiles fate w organizationId).2 = { w with
      storage := { w.storage with
        calls := w.storage.calls + (scannedRows w organizationId).length } } :=
  (foldl_scanRow fate (scannedRows w organizationId) counts_start).2

variable {row : EvidenceFile}

theorem mem_scannedRows (h : row ∈ scannedRows w organizationId) :
    row ∈ w.db.evidenceFiles.rows :=
  (Table.mem_select.1 ((List.mem_insertionSort _).1 h)).1

/-- What `apply_repairs` is given. -/
def ReconciliationResult.toRepair (r : ReconciliationResult) : List EvidenceFileAnomaly :=
  r.anomalies.map ScanAnomaly.toEvidenceFileAnomaly

theorem heard_of_answers (hanswers : ∀ n, w.storage.calls ≤ n → fate n = .answers) :
    heard fate w organizationId
      = (scannedRows w organizationId).map fun row =>
        (row, some (decide (row.storageKey ∈ w.storage.objects))) :=
  Remote.answers_of_answers _ _ hanswers

/-- A scan, and the repairs that it asks for. -/
def afterRepairs (fate : Nat → Fate) (actorUserId : Option UUID) (w : World)
    (organizationId : Option UUID) : Nat × World :=
  let (result, w) := scanEvidenceFiles fate w organizationId
  applyRepairs fate actorUserId w result.toRepair

theorem gone_after_repairs (hanswers : ∀ n, w.storage.calls ≤ n → fate n = .answers)
    (hrow : row ∈ scannedRows w organizationId) (hdeleted : row.status = .deleted) :
    row.storageKey ∉ (afterRepairs fate actor w organizationId).2.storage.objects := by
  have hworld := scanEvidenceFiles_world fate w organizationId
  by_cases hobject : row.storageKey ∈ w.storage.objects
  · have hheard : (row, some true) ∈ heard fate w organizationId := by
      rw [heard_of_answers hanswers]
      exact List.mem_map.2 ⟨row, hrow, by rw [decide_eq_true hobject]⟩
    have hverdict : verdictOf (row, some true) = .safeToRepair := by
      show classify row.status true = .safeToRepair
      rw [hdeleted]
      rfl
    -- the scan reports the row, and the repairs find it as the scan left it
    have hreported : (anomalyOf (row, some true)).toEvidenceFileAnomaly
        ∈ (scanEvidenceFiles fate w organizationId).1.toRepair := by
      refine List.mem_map_of_mem ?_
      rw [(scanEvidenceFiles_exact fate w organizationId).1.anomalies]
      refine List.mem_map_of_mem (List.mem_filter.2 ⟨hheard, ?_⟩)
      rw [isConsistent, hverdict]
      rfl
    have hrepairable : repairable (scanEvidenceFiles fate w organizationId).2.db
        (anomalyOf (row, some true)).toEvidenceFileAnomaly = some row := by
      rw [repairable_eq_some, hworld]
      exact ⟨hverdict, mem_scannedRows hrow, rfl, rfl, hdeleted⟩
    have hcalls : w.storage.calls ≤ (scanEvidenceFiles fate w organizationId).2.storage.calls := by
      rw [hworld]
      exact Nat.le_add_right _ _
    exact gone_of_answers hrepairable _ (0, _) rfl (fun m hm => hanswers m (hcalls.trans hm))
      hreported
  · intro hin
    have hkept := (repaired_applyRepairs fate actor (scanEvidenceFiles fate w organizationId).2
      (scanEvidenceFiles fate w organizationId).1.toRepair).kept _ hin
    rw [hworld] at hkept
    exact hobject hkept

variable {anomalies : List EvidenceFileAnomaly} {w' : World} {n : Nat}

theorem kept_after_repairs (hkeys : (w.db.evidenceFiles.rows.map EvidenceFile.storageKey).Nodup)
    (h : Repaired anomalies w w' n) (hrow : row ∈ w.db.evidenceFiles.rows)
    (hstatus : row.status ≠ .deleted) :
    row.storageKey ∈ w'.storage.objects ↔ row.storageKey ∈ w.storage.objects := by
  refine ⟨h.kept _, fun hin => ?_⟩
  by_contra hgone
  obtain ⟨_, _, _, other, hother, _, hkey, hdeleted⟩ := h.authorized _ hin hgone
  obtain rfl : other = row := List.inj_on_of_nodup_map hkeys hother hrow hkey
  exact hstatus hdeleted

theorem verdict_again (before after : Bool) (hgone : row.status = .deleted → after = false)
    (hkept : row.status ≠ .deleted → after = before) :
    verdictOf (row, some after) ≠ .safeToRepair ∧
      (isConsistent (row, some before) = true → isConsistent (row, some after) = true) := by
  by_cases hdeleted : row.status = .deleted
  · rw [hgone hdeleted, isConsistent, isConsistent, verdictOf, verdictOf, hdeleted]
    exact ⟨fun h => (nomatch h), fun _ => rfl⟩
  · rw [hkept hdeleted]
    refine ⟨?_, fun h => h⟩
    show classify row.status before ≠ .safeToRepair
    cases hstatus : row.status with
    | deleted => exact absurd hstatus hdeleted
    | stored => cases before <;> exact fun h => (nomatch h)
    | pending => exact fun h => (nomatch h)
    | failed => cases before <;> exact fun h => (nomatch h)

theorem scannedRows_of_repaired (h : Repaired anomalies w w' n) :
    scannedRows w' organizationId = scannedRows w organizationId := by
  rw [scannedRows, scannedRows, h.evidenceFiles, h.createdAt]

theorem afterRepairs_repaired (fate : Nat → Fate) (actor : Option UUID) (w : World)
    (organizationId : Option UUID) :
    Repaired (scanEvidenceFiles fate w organizationId).1.toRepair w
        (afterRepairs fate actor w organizationId).2
        (afterRepairs fate actor w organizationId).1 ∧
      w.storage.calls ≤ (afterRepairs fate actor w organizationId).2.storage.calls := by
  have hworld := scanEvidenceFiles_world fate w organizationId
  have hdb : (scanEvidenceFiles fate w organizationId).2.db = w.db := by rw [hworld]
  have hobjects : (scanEvidenceFiles fate w organizationId).2.storage.objects
      = w.storage.objects := by rw [hworld]
  have hcreated : (scanEvidenceFiles fate w organizationId).2.createdAt = w.createdAt := by
    rw [hworld]
  have hcalls : w.storage.calls ≤ (scanEvidenceFiles fate w organizationId).2.storage.calls := by
    rw [hworld]
    exact Nat.le_add_right _ _
  have h := repaired_applyRepairs fate actor (scanEvidenceFiles fate w organizationId).2
    (scanEvidenceFiles fate w organizationId).1.toRepair
  refine ⟨⟨h.createdAt.trans hcreated, hdb ▸ h.database, hobjects ▸ h.kept, ?_⟩, ?_⟩
  · rw [← hobjects, ← hdb]
    exact h.authorized
  · exact hcalls.trans (calls_le_repairs _ (0, _))

/-- **SCAN, REPAIR, SCAN**: if every call is answered, the second scan sees the rows as the first
one did, but for the objects of DELETED rows, which are gone. -/
theorem heard_again (hkeys : (w.db.evidenceFiles.rows.map EvidenceFile.storageKey).Nodup)
    (hanswers : ∀ n, w.storage.calls ≤ n → fate n = .answers) (actor : Option UUID)
    {x : EvidenceFile × Option Bool}
    (hx : x ∈ heard fate (afterRepairs fate actor w organizationId).2 organizationId) :
    verdictOf x ≠ .safeToRepair ∧
      ∃ y ∈ heard fate w organizationId, y.1 = x.1 ∧
        (isConsistent y = true → isConsistent x = true) := by
  obtain ⟨hrepaired, hcalls⟩ := afterRepairs_repaired fate actor w organizationId
  rw [heard_of_answers fun n hn => hanswers n (hcalls.trans hn),
    scannedRows_of_repaired hrepaired] at hx
  obtain ⟨row, hrow, rfl⟩ := List.mem_map.1 hx
  have hagain := verdict_again (decide (row.storageKey ∈ w.storage.objects))
    (decide (row.storageKey ∈ (afterRepairs fate actor w organizationId).2.storage.objects))
    (fun hdeleted => decide_eq_false (gone_after_repairs hanswers hrow hdeleted))
    (fun hother => decide_eq_decide.2
      (kept_after_repairs hkeys hrepaired (mem_scannedRows hrow) hother))
  refine ⟨hagain.1, (row, some (decide (row.storageKey ∈ w.storage.objects))), ?_, rfl, hagain.2⟩
  rw [heard_of_answers hanswers]
  exact List.mem_map.2 ⟨row, hrow, rfl⟩

/-- The scan, its repairs and the scan after them. -/
structure Reconciles (fate : Nat → Fate) (actor : Option UUID) (w : World)
    (organizationId : Option UUID) : Prop where
  scan : ScanExact fate w organizationId (scanEvidenceFiles fate w organizationId).1
    (scanEvidenceFiles fate w organizationId).2
  -- whatever has happened since the scan
  repairs : ∀ w', Repaired (scanEvidenceFiles fate w organizationId).1.toRepair w'
    (applyRepairs fate actor w' (scanEvidenceFiles fate w organizationId).1.toRepair).2
    (applyRepairs fate actor w' (scanEvidenceFiles fate w organizationId).1.toRepair).1
  again : (∀ n, w.storage.calls ≤ n → fate n = .answers) →
    (scanEvidenceFiles fate (afterRepairs fate actor w organizationId).2
        organizationId).1.repairableCount = 0 ∧
      ∀ row ∈ w.db.evidenceFiles.rows,
        (∀ anomaly ∈ (scanEvidenceFiles fate w organizationId).1.anomalies,
          anomaly.evidenceFileId ≠ row.id) →
        ∀ anomaly ∈ (scanEvidenceFiles fate (afterRepairs fate actor w organizationId).2
          organizationId).1.anomalies, anomaly.evidenceFileId ≠ row.id

/-- **RECONCILIATION**: a scan counts and reports every row once and moves nothing; the repairs it
asks for delete objects of DELETED rows only, write no row, and count the events they log; and
once the storage has answered every call, a second scan finds nothing to repair, and no row out
of order that was in order. -/
theorem reconciles (fate : Nat → Fate) (actor : Option UUID) (w : World)
    (organizationId : Option UUID)
    (hkeys : (w.db.evidenceFiles.rows.map EvidenceFile.storageKey).Nodup) :
    Reconciles fate actor w organizationId := by
  have hfirst := scanEvidenceFiles_exact fate w organizationId
  have hsecond := scanEvidenceFiles_exact fate (afterRepairs fate actor w organizationId).2
    organizationId
  refine ⟨hfirst.1, fun w' => repaired_applyRepairs fate actor w' _, fun hanswers => ⟨?_, ?_⟩⟩
  · rw [hsecond.2, List.countP_eq_zero]
    intro x hx
    simpa using (heard_again hkeys hanswers actor hx).1
  · intro row _ hclear anomaly hanomaly hid
    rw [hsecond.1.anomalies] at hanomaly
    obtain ⟨x, hx, rfl⟩ := List.mem_map.1 hanomaly
    obtain ⟨hx, hout⟩ := List.mem_filter.1 hx
    obtain ⟨_, y, hy, hsame, hkept⟩ := heard_again hkeys hanswers actor hx
    -- the first scan has reported the same row
    refine hclear (anomalyOf y) ?_ ?_
    · rw [hfirst.1.anomalies]
      refine List.mem_map_of_mem (List.mem_filter.2 ⟨hy, ?_⟩)
      cases hconsistent : isConsistent y with
      | false => rfl
      | true =>
        rw [hkept hconsistent] at hout
        exact hout
    · rw [evidenceFileId_anomalyOf, hsame]
      rw [evidenceFileId_anomalyOf] at hid
      exact hid

end Twice

/-! ## Four files -/

def scanFile (id : UUID) (storageKey : String) (status : EvidenceFileStatus) : EvidenceFile :=
  { id, organizationId := 1, evidenceId := 7, uploadedByUserId := 5
    originalFilename := "scan.pdf", contentType := "application/pdf", sizeBytes := 12
    storageKey, status }

/-- A stored file, a deletion that left its object, a failed upload and one under way. -/
def fourFiles : World where
  db :=
    { evidenceFiles := ⟨[scanFile 1 "k1" .stored, scanFile 2 "k2" .deleted,
        scanFile 3 "k3" .failed, scanFile 4 "k4" .pending], by decide⟩ }
  storage := { objects := ["k1", "k2", "k9"] }

theorem fourFiles_reconciles : Reconciles (fun _ => .answers) none fourFiles none :=
  reconciles (fun _ => .answers) none fourFiles none (by decide)

/-- The first scan finds one row to repair, and the repair is logged. -/
example : (scanEvidenceFiles (fun _ => .answers) fourFiles none).1.repairableCount = 1 ∧
    (afterRepairs (fun _ => .answers) none fourFiles none).1 = 1 := by decide

end EvidenceReconciliation
end AeroComply
