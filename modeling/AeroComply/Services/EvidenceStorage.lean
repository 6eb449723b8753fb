import AeroComply.Lib.Mirror
import AeroComply.Lib.Runs
import AeroComply.Services.EvidenceFile

/-!
# EvidenceStorage — evidence files and the object storage

Any number of `upload_evidence_file`, `delete_evidence_file` and `apply_repairs` requests,
interleaved in any order.  A database commit and a storage call are one step each; a storage
call can raise, and a request can stop, for a failed commit or any other reason, after any step.

`mirror` reads off what the rows say of the objects, and every step is a step of the parties of
`Mirrors`.  A deletion looks at the status before it turns to the storage and again before it
writes, but takes no lock, so two of them can go all the way: `evidence_files_truthful`.
-/

namespace AeroComply

open Relational (Keyed Table)

namespace EvidenceStorage

open EvidenceFileService
open Mirrors (Mirror Phase Hold Step Truthful Once Final)

/-- What a SELECT leaves of a row that the session has loaded before: the identity map keeps the
loaded columns, unless they have expired. -/
inductive Reload
  | keepsLoaded
  | overwrites

def Reload.row (reload : Reload) (loaded stored : EvidenceFile) : EvidenceFile :=
  match reload with
  | .keepsLoaded => loaded
  | .overwrites => stored

inductive FileRequest
  | upload (newId : UUID) (args : FileArgs)
  | delete (organizationId actorUserId evidenceId fileId : UUID) (now : DateTime)
  | repair (actorUserId : Option UUID) (anomalies : List EvidenceFileAnomaly)

structure Setting where
  unicode : UnicodeTables
  maxBytes : Int
  reload : Reload
  requests : Nat → FileRequest

/-- How far a request has come. -/
inductive Progress
  | idle
  -- an upload: checked, its row committed, its object put, the put refused
  | adding (newId : UUID) (evidence : Evidence) (args : FileArgs)
  | added (file : EvidenceFile)
  | put (file : EvidenceFile)
  | refused (file : EvidenceFile)
  -- `mark_stored` and `mark_failed` have checked the status
  | storing (file : EvidenceFile)
  | failing (file : EvidenceFile)
  -- a deletion: checked, its object gone, the status checked again
  | authorized (file : EvidenceFile) (actorUserId : UUID) (now : DateTime)
  | removed (file : EvidenceFile) (actorUserId : UUID) (now : DateTime)
  | marking (file : EvidenceFile) (actorUserId : UUID) (now : DateTime)
  -- the repairs still to do, one whose row is checked, one whose object is gone
  | repairing (actorUserId : Option UUID) (todo : List EvidenceFileAnomaly)
  | examined (actorUserId : Option UUID) (file : EvidenceFile) (todo : List EvidenceFileAnomaly)
  | purged (actorUserId : Option UUID) (file : EvidenceFile) (todo : List EvidenceFileAnomaly)
  | returned
  | raised (e : Error)

/-- The database, the keys of the objects, the keys that an object was ever put under, and the
requests. -/
structure World where
  db : Database
  objects : List String := []
  everPut : List String := []
  progress : Nat → Progress := fun _ => .idle

/-- Only the request itself moves on. -/
def World.moved (w : World) (who : Nat) (progress : Progress) : World :=
  { w with progress := Function.update w.progress who progress }

/-- `StorageService.put`. -/
def World.putObject (w : World) (key : String) : World :=
  { w with objects := key :: w.objects, everPut := key :: w.everPut }

/-- `StorageService.delete`. -/
def World.deleteObject (w : World) (key : String) : World :=
  { w with objects := w.objects.filter (· ≠ key) }

/-- The second read of a row, with the check of the transition. -/
def recheck (reload : Reload) (db : Database) (file : EvidenceFile)
    (target : EvidenceFileStatus) : Except Error Unit := do
  -- the row's tenant is the caller's
  let stored ← getFile db file.organizationId file.id
  requireTransition (reload.row file stored).status target

/-- A step that only decides how the request goes on. -/
def World.decided {α : Type} (w : World) (who : Nat) (outcome : Except Error α)
    (next : α → Progress) : World :=
  match outcome with
  | .ok a => w.moved who (next a)
  | .error e => w.moved who (.raised e)

variable (c : Setting)

/-- How a request begins. -/
def begin (w : World) (who : Nat) : World :=
  match c.requests who with
  | .upload newId args =>
    w.decided who
      (do
        checkUpload w.db c.maxBytes args
        checkPending c.unicode w.db args)
      fun evidence => .adding newId evidence args
  | .delete organizationId actor evidenceId fileId now =>
    w.decided who (checkDelete w.db organizationId evidenceId fileId)
      fun file => .authorized file actor now
  | .repair actor anomalies => w.moved who (.repairing actor anomalies)

/-- The next step of a request. -/
def next (w : World) (who : Nat) : World :=
  match w.progress who with
  | .idle => begin c w who
  | .adding newId evidence args =>
    match addFile w.db (newFile newId evidence args) with
    | .ok db => { w with db }.moved who (.added (newFile newId evidence args))
    | .error e => w.moved who (.raised e)
  | .added file => (w.putObject file.storageKey).moved who (.put file)
  | .put file =>
    w.decided who (recheck c.reload w.db file .stored) fun _ => .storing file
  | .refused file =>
    w.decided who (recheck c.reload w.db file .failed) fun _ => .failing file
  | .storing file => { w with db := setStatus w.db file.id .stored }.moved who .returned
  | .failing file =>
    { w with db := setStatus w.db file.id .failed }.moved who
      (.raised (.aeroComply "Failed to store the uploaded evidence file"
        "evidence_file_storage_failed"))
  | .authorized file actor now =>
    (w.deleteObject file.storageKey).moved who (.removed file actor now)
  | .removed file actor now =>
    w.decided who (recheck c.reload w.db file .deleted) fun _ => .marking file actor now
  | .marking file actor now =>
    { w with db := setDeleted w.db file now file.organizationId actor }.moved who .returned
  | .repairing _ [] => w.moved who .returned
  | .repairing actor (anomaly :: todo) =>
    match repairable w.db anomaly with
    | some file => w.moved who (.examined actor file todo)
    | none => w.moved who (.repairing actor todo)
  | .examined actor file todo =>
    (w.deleteObject file.storageKey).moved who (.purged actor file todo)
  | .purged actor file todo =>
    { w with
      db := w.db.recordAuditEvent file.organizationId actor "evidence_file.reconciliation_repaired"
        "EvidenceFile" (some file.id) }.moved who (.repairing actor todo)
  | .returned | .raised _ => w

/-- The storage call of a request raises; the storage is as it was. -/
def storageRaises (w : World) (who : Nat) : World :=
  match w.progress who with
  | .added file => w.moved who (.refused file)
  | .authorized _ _ _ =>
    w.moved who (.raised (.aeroComply "Failed to delete the stored evidence file"
      "evidence_file_storage_delete_failed"))
  | .examined actor _ todo => w.moved who (.repairing actor todo)
  | .idle | .adding _ _ _ | .put _ | .refused _ | .storing _ | .failing _ | .removed _ _ _
  | .marking _ _ _ | .repairing _ _ | .purged _ _ _ | .returned | .raised _ => w

inductive Event
  | go (who : Nat)
  | storageRaises (who : Nat)
  -- a commit fails, or the request ends for any other reason
  | stops (who : Nat) (e : Error)

def step (w : World) : Event → Except Error World
  | .go who => .ok (next c w who)
  | .storageRaises who => .ok (storageRaises w who)
  | .stops who e => .ok (w.moved who (.raised e))

/-- No file yet, nothing stored, and nothing logged. -/
def start (db : Database) : World where
  db := { db with evidenceFiles := Table.empty, auditEvents := [] }

/-- Every state that the requests pass through. -/
def states (db : Database) (es : List Event) : List World := Runs.visited (step c) (start db) es

/-! ## What the rows say of the objects -/

def phase : EvidenceFileStatus → Phase
  | .pending => .pending
  | .stored => .stored
  | .failed => .failed
  | .deleted => .removed

def Progress.hold : Progress → Hold UUID String
  | .added file => .uploading file.id file.storageKey
  | .put file | .storing file => .uploaded file.id file.storageKey
  | .refused file | .failing file => .refused file.id file.storageKey
  | .authorized file _ _ => .removing file.id file.storageKey
  | .removed file _ _ | .marking file _ _ => .away file.id file.storageKey
  | .idle | .adding _ _ _ | .repairing _ _ | .examined _ _ _ | .purged _ _ _ | .returned
  | .raised _ => .free

/-- The `evidence_file.deleted` events of a file. -/
def deletions (events : List AuditEvent) (fileId : UUID) : Nat :=
  events.countP fun e => e.action = "evidence_file.deleted" && e.entityId = some fileId

def World.mirror (w : World) : Mirror UUID String where
  record id := (w.db.evidenceFiles.find? id).map fun f => (f.storageKey, phase f.status)
  objects := {key | key ∈ w.objects}
  everPut := {key | key ∈ w.everPut}
  marks := deletions w.db.auditEvents
  hold i := (w.progress i).hold

section MirrorLemmas

variable {w : World} {who : Nat} {file : EvidenceFile}

theorem mirror_moved (w : World) (who : Nat) (p : Progress) :
    (w.moved who p).mirror = w.mirror.held who p.hold := by
  ext1
  · rfl
  · rfl
  · rfl
  · rfl
  · funext i
    show (Function.update w.progress who p i).hold
      = Function.update (fun i => (w.progress i).hold) who p.hold i
    rw [Function.update_apply, Function.update_apply]
    split <;> rfl

theorem mirror_putObject (w : World) (key : String) :
    (w.putObject key).mirror = w.mirror.put key := by
  ext1
  · rfl
  · ext k
    exact List.mem_cons
  · ext k
    exact List.mem_cons
  · rfl
  · rfl

theorem mirror_deleteObject (w : World) (key : String) :
    (w.deleteObject key).mirror = w.mirror.taken key := by
  ext1
  · rfl
  · ext k
    show k ∈ w.objects.filter (· ≠ key) ↔ k ∈ w.objects ∧ k ≠ key
    rw [List.mem_filter, decide_eq_true_iff]
  · rfl
  · rfl
  · rfl

theorem mirror_record_updateWhere (files : Table EvidenceFile) (fileId : UUID)
    (f : EvidenceFile → EvidenceFile) (hf : ∀ x, Keyed.key (f x) = Keyed.key x)
    (status : EvidenceFileStatus) (hkey : ∀ x, (f x).storageKey = x.storageKey)
    (hstatus : ∀ x, (f x).status = status) :
    (fun id => ((files.updateWhere (Table.hasKey fileId) f hf).find? id).map
        fun x => (x.storageKey, phase x.status))
      = Function.update (fun id => (files.find? id).map fun x => (x.storageKey, phase x.status))
          fileId (((files.find? fileId).map fun x => (x.storageKey, phase x.status)).map
            fun r => (r.1, phase status)) := by
  funext id
  rw [Table.find?_updateWhere_hasKey, Function.update_apply]
  by_cases hid : fileId = id
  · subst hid
    rw [if_pos rfl, if_pos rfl, Option.map_map, Option.map_map]
    congr 1
    funext x
    show ((f x).storageKey, phase (f x).status) = (x.storageKey, phase status)
    rw [hkey, hstatus]
  · rw [if_neg hid, if_neg fun h => hid h.symm]

theorem mirror_setStatus (w : World) (fileId : UUID) (status : EvidenceFileStatus) :
    { w with db := setStatus w.db fileId status }.mirror
      = w.mirror.setPhase fileId (phase status) := by
  ext1
  · exact mirror_record_updateWhere w.db.evidenceFiles fileId (fun f => { f with status })
      (fun _ => rfl) status (fun _ => rfl) fun _ => rfl
  · rfl
  · rfl
  · rfl
  · rfl

theorem deletions_append (events : List AuditEvent) (e : AuditEvent) (fileId : UUID) :
    deletions (events ++ [e]) fileId
      = deletions events fileId
        + if e.action = "evidence_file.deleted" ∧ e.entityId = some fileId then 1 else 0 := by
  rw [deletions, List.countP_append, List.countP_singleton]
  simp [deletions]

theorem mirror_setDeleted (w : World) (file : EvidenceFile) (now : DateTime)
    (organizationId actorUserId : UUID) :
    { w with db := setDeleted w.db file now organizationId actorUserId }.mirror
      = (w.mirror.setPhase file.id .removed).marked file.id := by
  ext1
  · exact mirror_record_updateWhere w.db.evidenceFiles file.id
      (fun f => { f with status := .deleted, deletedAt := some now }) (fun _ => rfl) .deleted
      (fun _ => rfl) fun _ => rfl
  · rfl
  · rfl
  · funext id
    show deletions (w.db.auditEvents ++ _) id
      = Function.update (deletions w.db.auditEvents) file.id
          (deletions w.db.auditEvents file.id + 1) id
    rw [deletions_append, Function.update_apply]
    by_cases hid : id = file.id
    · subst hid
      rw [if_pos rfl, if_pos ⟨rfl, rfl⟩]
    · rw [if_neg hid, if_neg fun h => hid (Option.some.inj h.2).symm]
      rfl
  · rfl

theorem mirror_repaired (w : World) (file : EvidenceFile) (actor : Option UUID) :
    { w with
      db := w.db.recordAuditEvent file.organizationId actor "evidence_file.reconciliation_repaired"
        "EvidenceFile" (some file.id) }.mirror = w.mirror := by
  ext1
  · rfl
  · rfl
  · rfl
  · funext id
    show deletions (w.db.auditEvents ++ _) id = deletions w.db.auditEvents id
    rw [deletions_append, if_neg, Nat.add_zero]
    intro h
    have hne : "evidence_file.reconciliation_repaired" ≠ "evidence_file.deleted" := by decide
    exact hne h.1
  · rfl

theorem mirror_addFile {db : Database} (h : addFile w.db file = .ok db)
    (hpending : file.status = .pending) :
    w.mirror.record file.id = none ∧
      (∀ id phase, w.mirror.record id ≠ some (file.storageKey, phase)) ∧
      { w with db }.mirror = w.mirror.added file.id file.storageKey := by
  obtain ⟨_, hunique, h⟩ := bind_eq_ok.1 h
  obtain ⟨evidenceFiles, hadd, h⟩ := bind_eq_ok.1 h
  cases h
  have hinsert := addRowOrRaise_eq_ok.1 hadd
  obtain ⟨hfresh, _⟩ := Table.insert?_eq_some hinsert
  rw [raiseIf_eq_ok, Bool.not_eq_true, List.any_eq_false] at hunique
  refine ⟨?_, ?_, ?_⟩
  · show (w.db.evidenceFiles.find? file.id).map _ = none
    rw [Option.map_eq_none_iff, Table.find?_eq_none]
    intro y hy hkey
    exact hfresh (List.mem_map.2 ⟨y, hy, hkey⟩)
  · intro id ph hid
    obtain ⟨f, hf, heq⟩ := Option.map_eq_some_iff.1 hid
    obtain ⟨hmem, _⟩ := Table.find?_eq_some.1 hf
    exact hunique f hmem (decide_eq_true (congrArg Prod.fst heq))
  · ext1
    · funext id
      show (evidenceFiles.find? id).map _
        = Function.update w.mirror.record file.id (some (file.storageKey, .pending)) id
      rw [Table.find?_insert? hinsert, Function.update_apply]
      by_cases hid : id = file.id
      · have hkey : Keyed.key file = id := hid.symm
        rw [if_pos hkey, if_pos hid, Option.map_some, hpending]
        rfl
      · have hkey : Keyed.key file ≠ id := fun h => hid h.symm
        rw [if_neg hkey, if_neg hid]
        rfl
    · rfl
    · rfl
    · rfl
    · rfl

end MirrorLemmas

/-! ## Steps -/

/-- A step of the parties, or none, that marks no removal. -/
def Quiet (w w' : World) : Prop :=
  (w'.mirror = w.mirror ∨ Step w.mirror w'.mirror) ∧ w'.mirror.marks = w.mirror.marks

section Steps

variable {c : Setting} {w w' : World} {who : Nat}

theorem quiet_refl (w : World) : Quiet w w := ⟨Or.inl rfl, rfl⟩

theorem quiet_stop {p : Progress} (hp : p.hold = .free) : Quiet w (w.moved who p) := by
  rw [Quiet, mirror_moved, hp]
  exact ⟨Or.inr (.stop _ who), rfl⟩

theorem quiet_same {p : Progress} (hp : p.hold = (w.progress who).hold) :
    Quiet w (w.moved who p) := by
  have hsame : w.mirror.held who p.hold = w.mirror := by
    rw [hp]
    ext1
    · rfl
    · rfl
    · rfl
    · rfl
    · exact Function.update_eq_self who w.mirror.hold
  rw [Quiet, mirror_moved, hsame]
  exact ⟨Or.inl rfl, rfl⟩

theorem quiet_decided {α : Type} {outcome : Except Error α} {next : α → Progress}
    (h : ∀ a, outcome = .ok a → Quiet w (w.moved who (next a))) :
    Quiet w (w.decided who outcome next) := by
  cases ho : outcome with
  | ok a => exact h a ho
  | error e => exact quiet_stop rfl

theorem quiet_begin : Quiet w (begin c w who) := by
  rw [begin]
  cases c.requests who with
  | upload newId args => exact quiet_decided fun _ _ => quiet_stop rfl
  | repair actor anomalies => exact quiet_stop rfl
  | delete organizationId actor evidenceId fileId now =>
    refine quiet_decided fun file hfile => ?_
    obtain ⟨hfind, hstored⟩ := checkDelete_eq_ok hfile
    rw [Quiet, mirror_moved]
    refine ⟨Or.inr (.start _ who file.id file.storageKey ?_), rfl⟩
    show (w.db.evidenceFiles.find? file.id).map _ = some (file.storageKey, Phase.stored)
    rw [hfind, Option.map_some, hstored]
    rfl

/-- **ONE STEP**: only the write of a deletion marks a removal. -/
theorem next_cases (c : Setting) (w : World) (who : Nat) :
    (∃ file actor now, w.progress who = .marking file actor now ∧
        (next c w who).mirror
          = ((w.mirror.setPhase file.id .removed).marked file.id).held who .free) ∨
      ((∀ file actor now, w.progress who ≠ .marking file actor now) ∧ Quiet w (next c w who)) := by
  rw [next]
  cases hp : w.progress who with
  | marking file actor now =>
    refine Or.inl ⟨file, actor, now, rfl, ?_⟩
    rw [mirror_moved, mirror_setDeleted]
    rfl
  | idle => exact Or.inr ⟨nofun, quiet_begin⟩
  | adding newId evidence args =>
    refine Or.inr ⟨nofun, ?_⟩
    dsimp only
    cases hadd : addFile w.db (newFile newId evidence args) with
    | error e => exact quiet_stop rfl
    | ok db =>
      obtain ⟨hnone, hfresh, hmirror⟩ := mirror_addFile hadd rfl
      dsimp only
      rw [Quiet, mirror_moved, hmirror]
      exact ⟨Or.inr (.add _ who _ _ hnone hfresh), rfl⟩
  | added file =>
    have hhold : w.mirror.hold who = .uploading file.id file.storageKey := congrArg Progress.hold hp
    refine Or.inr ⟨nofun, ?_⟩
    dsimp only
    rw [Quiet, mirror_moved, mirror_putObject]
    exact ⟨Or.inr (.put _ who _ _ hhold), rfl⟩
  | put file =>
    refine Or.inr ⟨nofun, quiet_decided fun _ _ => quiet_same ?_⟩
    rw [hp]
    rfl
  | refused file =>
    refine Or.inr ⟨nofun, quiet_decided fun _ _ => quiet_same ?_⟩
    rw [hp]
    rfl
  | storing file =>
    have hhold : w.mirror.hold who = .uploaded file.id file.storageKey := congrArg Progress.hold hp
    refine Or.inr ⟨nofun, ?_⟩
    dsimp only
    rw [Quiet, mirror_moved, mirror_setStatus]
    exact ⟨Or.inr (.store _ who _ _ hhold), rfl⟩
  | failing file =>
    have hhold : w.mirror.hold who = .refused file.id file.storageKey := congrArg Progress.hold hp
    refine Or.inr ⟨nofun, ?_⟩
    dsimp only
    rw [Quiet, mirror_moved, mirror_setStatus]
    exact ⟨Or.inr (.fail _ who _ _ hhold), rfl⟩
  | authorized file actor now =>
    have hhold : w.mirror.hold who = .removing file.id file.storageKey := congrArg Progress.hold hp
    refine Or.inr ⟨nofun, ?_⟩
    dsimp only
    rw [Quiet, mirror_moved, mirror_deleteObject]
    exact ⟨Or.inr (.take _ who _ _ hhold), rfl⟩
  | removed file actor now =>
    refine Or.inr ⟨nofun, quiet_decided fun _ _ => quiet_same ?_⟩
    rw [hp]
    rfl
  | repairing actor todo =>
    refine Or.inr ⟨nofun, ?_⟩
    cases todo with
    | nil => exact quiet_stop rfl
    | cons anomaly todo =>
      dsimp only
      cases repairable w.db anomaly with
      | none => exact quiet_stop rfl
      | some file => exact quiet_stop rfl
  | examined actor file todo =>
    refine Or.inr ⟨nofun, ?_⟩
    dsimp only
    rw [Quiet, mirror_moved, mirror_deleteObject]
    exact ⟨Or.inr (.purge _ who _), rfl⟩
  | purged actor file todo =>
    refine Or.inr ⟨nofun, ?_⟩
    dsimp only
    rw [Quiet, mirror_moved, mirror_repaired]
    exact ⟨Or.inr (.stop _ who), rfl⟩
  | returned => exact Or.inr ⟨nofun, quiet_refl w⟩
  | raised e => exact Or.inr ⟨nofun, quiet_refl w⟩

theorem quiet_storageRaises (w : World) (who : Nat) : Quiet w (storageRaises w who) := by
  rw [storageRaises]
  cases hp : w.progress who with
  | added file =>
    have hhold : w.mirror.hold who = .uploading file.id file.storageKey := congrArg Progress.hold hp
    dsimp only
    rw [Quiet, mirror_moved]
    exact ⟨Or.inr (.refuse _ who _ _ hhold), rfl⟩
  | authorized file actor now => exact quiet_stop rfl
  | examined actor file todo => exact quiet_stop rfl
  | idle => exact quiet_refl w
  | adding newId evidence args => exact quiet_refl w
  | put file => exact quiet_refl w
  | refused file => exact quiet_refl w
  | storing file => exact quiet_refl w
  | failing file => exact quiet_refl w
  | removed file actor now => exact quiet_refl w
  | marking file actor now => exact quiet_refl w
  | repairing actor todo => exact quiet_refl w
  | purged actor file todo => exact quiet_refl w
  | returned => exact quiet_refl w
  | raised e => exact quiet_refl w

theorem step_mirror (c : Setting) (w : World) (e : Event) :
    (Runs.attempt (step c) w e).mirror = w.mirror ∨
      Step w.mirror (Runs.attempt (step c) w e).mirror := by
  cases e with
  | storageRaises who => exact (quiet_storageRaises w who).1
  | stops who e => exact (quiet_stop rfl).1
  | go who =>
    rcases next_cases c w who with ⟨file, actor, now, hp, hmirror⟩ | ⟨_, hquiet, _⟩
    · have hhold : w.mirror.hold who = .away file.id file.storageKey := congrArg Progress.hold hp
      have hgo : (Runs.attempt (step c) w (.go who)).mirror = _ := hmirror
      rw [hgo]
      exact Or.inr (.mark _ who _ _ hhold)
    · exact hquiet

theorem attempt_sound (e : Event) (h : Mirrors.Sound w.mirror) :
    Mirrors.Sound (Runs.attempt (step c) w e).mirror := by
  rcases step_mirror c w e with hsame | hstep
  · rw [hsame]
    exact h
  · exact hstep.sound h

/-- The records that are final stay as they are. -/
def KeepsFinal (w w' : World) : Prop := Final w.mirror w'.mirror

theorem attempt_final (e : Event) (h : Mirrors.Sound w.mirror) :
    KeepsFinal w (Runs.attempt (step c) w e) := by
  rw [KeepsFinal]
  rcases step_mirror c w e with hsame | hstep
  · rw [hsame]
    exact Final.refl _
  · exact hstep.final h

end Steps

/-! ## The claims of the rows -/

/-- What the rows say of the objects is so. -/
structure Honest (w : World) : Prop where
  /-- Every object has a row with its key. -/
  recorded : ∀ key ∈ w.objects, ∃ f ∈ w.db.evidenceFiles.rows, f.storageKey = key
  /-- The object of a stored file was put. -/
  stored : ∀ f ∈ w.db.evidenceFiles.rows, f.status = .stored → f.storageKey ∈ w.everPut
  /-- The object of a deleted file is gone. -/
  deleted : ∀ f ∈ w.db.evidenceFiles.rows, f.status = .deleted → f.storageKey ∉ w.objects

/-- A file that is failed or deleted keeps its status. -/
def Settled (w w' : World) : Prop :=
  ∀ fileId f, w.db.evidenceFiles.find? fileId = some f → f.status = .failed ∨ f.status = .deleted →
    ∃ f', w'.db.evidenceFiles.find? fileId = some f' ∧ f'.status = f.status

/-- A deletion that is written finds the file stored. -/
def StillStored (w : World) : Event → Prop
  | .go who => ∀ file actor now, w.progress who = .marking file actor now →
      (w.db.evidenceFiles.find? file.id).map EvidenceFile.status = some .stored
  | .storageRaises _ | .stops _ _ => True

section Readings

variable {w w' : World}

theorem phase_injective {s s' : EvidenceFileStatus} (h : phase s = phase s') : s = s' := by
  cases s <;> cases s' <;> first | rfl | exact nomatch h

theorem mirror_record_of_mem {f : EvidenceFile} (hf : f ∈ w.db.evidenceFiles.rows) :
    w.mirror.record f.id = some (f.storageKey, phase f.status) := by
  have hfind : w.db.evidenceFiles.find? f.id = some f := Table.find?_eq_some.2 ⟨hf, rfl⟩
  show (w.db.evidenceFiles.find? f.id).map _ = _
  rw [hfind]
  rfl

theorem honest_of_truthful (h : Truthful w.mirror) : Honest w where
  recorded := by
    intro key hkey
    obtain ⟨id, ph, hid⟩ := h.recorded key hkey
    obtain ⟨f, hf, heq⟩ := Option.map_eq_some_iff.1 hid
    exact ⟨f, (Table.find?_eq_some.1 hf).1, congrArg Prod.fst heq⟩
  stored := by
    intro f hf hstatus
    refine h.stored f.id f.storageKey ?_
    rw [mirror_record_of_mem hf, hstatus]
    rfl
  deleted := by
    intro f hf hstatus
    refine h.removed f.id f.storageKey ?_
    rw [mirror_record_of_mem hf, hstatus]
    rfl

theorem settled_of_final (h : KeepsFinal w w') : Settled w w' := by
  intro fileId f hf hstatus
  have hrecord : w.mirror.record fileId = some (f.storageKey, phase f.status) := by
    show (w.db.evidenceFiles.find? fileId).map _ = _
    rw [hf]
    rfl
  have hphase : phase f.status = .failed ∨ phase f.status = .removed := by
    rcases hstatus with hstatus | hstatus
    · exact Or.inl (by rw [hstatus]; rfl)
    · exact Or.inr (by rw [hstatus]; rfl)
  obtain ⟨f', hf', heq⟩ := Option.map_eq_some_iff.1 (h fileId f.storageKey _ hrecord hphase)
  exact ⟨f', hf', phase_injective (congrArg Prod.snd heq)⟩

/-- **MARKED ONCE**: a step keeps the bound on the events exactly when it meets the condition. -/
theorem once_attempt_iff {c : Setting} (h : Mirrors.Sound w.mirror) (honce : Once w.mirror)
    (e : Event) : Once (Runs.attempt (step c) w e).mirror ↔ StillStored w e := by
  cases e with
  | storageRaises who =>
    have hmarks := (quiet_storageRaises w who).2
    refine iff_of_true (fun id => ?_) trivial
    rw [show (Runs.attempt (step c) w (.storageRaises who)).mirror.marks = _ from hmarks]
    exact honce id
  | stops who e => exact iff_of_true honce trivial
  | go who =>
    rcases next_cases c w who with ⟨file, actor, now, hp, hmirror⟩ | ⟨hne, hquiet⟩
    · have hhold : w.mirror.hold who = .away file.id file.storageKey := congrArg Progress.hold hp
      have hgo : (Runs.attempt (step c) w (.go who)).mirror = _ := hmirror
      rw [hgo, Mirrors.once_mark_iff h honce hhold]
      constructor
      · intro hrecord file' actor' now' hp'
        obtain ⟨rfl, _, _⟩ := Progress.marking.inj (hp.symm.trans hp')
        obtain ⟨f, hf, heq⟩ := Option.map_eq_some_iff.1 hrecord
        have hphase : phase f.status = phase .stored := congrArg Prod.snd heq
        rw [hf, Option.map_some, phase_injective hphase]
      · intro hok
        obtain ⟨f, hf, hstatus⟩ := Option.map_eq_some_iff.1 (hok file actor now hp)
        rcases h.removing who file.id file.storageKey (congrArg Hold.removal hhold) with hid | hid
        · exact hid
        · obtain ⟨f', hf', heq⟩ := Option.map_eq_some_iff.1 hid
          obtain rfl : f = f' := Option.some.inj (hf.symm.trans hf')
          have hphase : phase f.status = .removed := congrArg Prod.snd heq
          rw [hstatus] at hphase
          cases hphase
    · refine iff_of_true (fun id => ?_) fun file actor now hp => absurd hp (hne file actor now)
      rw [show (Runs.attempt (step c) w (.go who)).mirror.marks = _ from hquiet.2]
      exact honce id

end Readings

theorem start_sound (db : Database) : Mirrors.Sound (start db).mirror := by
  have hempty : (start db).mirror = Mirror.empty := by
    ext1
    · rfl
    · exact Set.eq_empty_of_forall_notMem fun _ => List.not_mem_nil
    · exact Set.eq_empty_of_forall_notMem fun _ => List.not_mem_nil
    · rfl
    · rfl
  rw [hempty]
  exact Mirrors.empty_sound

/-- **EVIDENCE FILES ARE TRUTHFUL**: in every state the rows say what is so of the objects, and a
failed or deleted file stays so; and a file has at most one `evidence_file.deleted` event all along
exactly when every deletion that is written finds the file stored. -/
theorem evidence_files_truthful (c : Setting) (db : Database) (es : List Event) :
    (∀ w ∈ states c db es, Honest w) ∧ (states c db es).Pairwise Settled ∧
    ((∀ w ∈ states c db es, ∀ fileId, deletions w.db.auditEvents fileId ≤ 1) ↔
      Runs.StepsMeet (step c) StillStored (start db) es) := by
  have hok := Runs.stepsMeet_true (step c) (start db) es
  have hsound : ∀ w e w', Mirrors.Sound w.mirror → True → step c w e = .ok w' →
      Mirrors.Sound w'.mirror ∧ KeepsFinal w w' := by
    intro w e w' h _ hstep
    have hattempt : Runs.attempt (step c) w e = w' := by rw [Runs.attempt, hstep]
    rw [← hattempt]
    exact ⟨attempt_sound e h, attempt_final e h⟩
  refine ⟨?_, ?_, ?_⟩
  · intro w hw
    have hw := Runs.visited_invariant (fun w e w' h hok hstep => (hsound w e w' h hok hstep).1)
      es (start db) (start_sound db) hok w hw
    exact honest_of_truthful hw.toTruthful
  · have hrefl : ∀ w, KeepsFinal w w := fun w => Final.refl w.mirror
    have hchain := Runs.visited_isChain hrefl hsound es (start db) (start_sound db) hok
    have : IsTrans World KeepsFinal := ⟨fun _ _ _ => Final.trans⟩
    exact hchain.pairwise.imp settled_of_final
  · have hinv : ∀ w e, Mirrors.Sound w.mirror →
        Mirrors.Sound (Runs.attempt (step c) w e).mirror := fun _ e h => attempt_sound e h
    exact Runs.forall_visited_iff hinv es (start db) (start_sound db) (fun _ => Nat.zero_le _)
      fun w h honce e _ => once_attempt_iff h honce e

/-- An upload, and two deletions of the file. -/
def uploadThenDelete (reload : Reload) : Setting where
  unicode := .ascii
  maxBytes := 100
  reload := reload
  requests
    | 0 => .upload 30
      { organizationId := 1, actorUserId := 7, evidenceId := 20, originalFilename := "scan.pdf"
        contentType := "application/pdf", sizeBytes := 12, storageKey := "evidence/1/20/4_scan.pdf" }
    | 1 => .delete 1 7 20 30 1000
    | _ => .delete 1 8 20 30 2000

/-- The evidence that the file is for. -/
def oneEvidence : Database where
  evidence := Table.single { id := 20, organizationId := 1 }

/-- The upload, and then both deletions side by side. -/
def sideBySide : List Event :=
  [.go 0, .go 0, .go 0, .go 0, .go 0, .go 1, .go 2, .go 1, .go 2, .go 1, .go 2, .go 1, .go 2]

/-- Both deletions are logged, whatever the second read of the row returns. -/
theorem deleted_twice :
    (∃ w ∈ states (uploadThenDelete .keepsLoaded) oneEvidence sideBySide,
      ¬ deletions w.db.auditEvents 30 ≤ 1) ∧
    ∃ w ∈ states (uploadThenDelete .overwrites) oneEvidence sideBySide,
      ¬ deletions w.db.auditEvents 30 ≤ 1 := by
  constructor
  · exact ⟨_, List.getLast_mem (List.cons_ne_nil _ _), by decide⟩
  · exact ⟨_, List.getLast_mem (List.cons_ne_nil _ _), by decide⟩

end EvidenceStorage
end AeroComply
