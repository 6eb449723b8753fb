import AeroComply.Services.Evidence

/-!
# EvidenceFile — the rows behind uploaded files

`app/services/evidence_file_service.py`, the checks of the two endpoints of
`app/api/v1/evidence.py` that write them, and the classification of
`app/services/evidence_reconciliation_service.py`.  The rows only: what is done with the
object storage between the calls is in `EvidenceStorage`.
-/

namespace AeroComply

open Relational (Table)

namespace EvidenceFileService

open EvidenceService (getEvidence)

def allowedTransitions : EvidenceFileStatus → List EvidenceFileStatus
  | .pending => [.stored, .failed]
  | .stored => [.deleted]
  | .failed | .deleted => []

def canTransitionFile (current target : EvidenceFileStatus) : Bool :=
  if current = target then false else (allowedTransitions current).contains target

/-- The arguments of `create_pending_file`. -/
structure FileArgs where
  organizationId : UUID
  actorUserId : UUID
  evidenceId : UUID
  originalFilename : String
  contentType : String
  sizeBytes : Int
  storageKey : String
  checksumSha256 : Option String := none

def validateMetadata (u : UnicodeTables) (args : FileArgs) : Except Error Unit := do
  raiseIf (u.strip args.originalFilename = "")
    (.aeroComply "original_filename must not be empty" "invalid_evidence_file")
  raiseIf (u.strip args.contentType = "")
    (.aeroComply "content_type must not be empty" "invalid_evidence_file")
  raiseIf (u.strip args.storageKey = "")
    (.aeroComply "storage_key must not be empty" "invalid_evidence_file")
  raiseIf (args.sizeBytes < 0)
    (.aeroComply "size_bytes must not be negative" "invalid_evidence_file")

/-- The checks of `create_pending_file`; the row's tenant is that of the evidence. -/
def checkPending (u : UnicodeTables) (db : Database) (args : FileArgs) : Except Error Evidence := do
  let evidence ← getEvidence db args.organizationId args.evidenceId
  validateMetadata u args
  pure evidence

/-- The row of a new file. -/
def newFile (newId : UUID) (evidence : Evidence) (args : FileArgs) : EvidenceFile where
  id := newId
  organizationId := evidence.organizationId
  evidenceId := evidence.id
  uploadedByUserId := args.actorUserId
  originalFilename := args.originalFilename
  contentType := args.contentType
  sizeBytes := args.sizeBytes
  storageKey := args.storageKey
  checksumSha256 := args.checksumSha256
  status := .pending

/-- `INSERT INTO evidence_files`; storage keys are unique. -/
def addFile (db : Database) (file : EvidenceFile) : Except Error Database := do
  raiseIf (db.evidenceFiles.rows.any fun f => f.storageKey = file.storageKey) .integrity
  let evidenceFiles ← addRow db.evidenceFiles file
  pure { db with evidenceFiles }

def getFile (db : Database) (organizationId evidenceFileId : UUID) : Except Error EvidenceFile :=
  oneOrRaise
    (db.evidenceFiles.select fun f => f.id = evidenceFileId && f.organizationId = organizationId)
    (.notFound "Evidence file not found")

def getFileForEvidence (db : Database) (organizationId evidenceId evidenceFileId : UUID) :
    Except Error EvidenceFile := do
  let evidence ← getEvidence db organizationId evidenceId
  oneOrRaise
    (db.evidenceFiles.select fun f =>
      f.id = evidenceFileId && f.organizationId = organizationId && f.evidenceId = evidence.id)
    (.notFound "Evidence file not found")

variable {file : EvidenceFile} {db : Database}

theorem getFileForEvidence_eq_ok {organizationId evidenceId evidenceFileId : UUID}
    (h : getFileForEvidence db organizationId evidenceId evidenceFileId = .ok file) :
    db.evidenceFiles.find? file.id = some file := by
  obtain ⟨_, _, h⟩ := bind_eq_ok.1 h
  obtain ⟨hmem, _⟩ := mem_of_oneOrRaise h
  exact Table.find?_eq_some.2 ⟨hmem, rfl⟩

/-- The check of `_transition_file` and `mark_deleted`. -/
def requireTransition (current target : EvidenceFileStatus) : Except Error Unit :=
  raiseIf (canTransitionFile current target = false)
    (.conflict ("Cannot transition evidence file from " ++ current.value ++ " to " ++
      target.value))

/-- `UPDATE evidence_files SET status = … WHERE id = …`. -/
def setStatus (db : Database) (fileId : UUID) (status : EvidenceFileStatus) : Database :=
  { db with
    evidenceFiles := db.evidenceFiles.updateWhere (Table.hasKey fileId)
      (fun f => { f with status }) fun _ => rfl }

/-- The write of `mark_deleted`, with its log entry. -/
def setDeleted (db : Database) (file : EvidenceFile) (now : DateTime)
    (organizationId actorUserId : UUID) : Database :=
  ({ db with
      evidenceFiles := db.evidenceFiles.updateWhere (Table.hasKey file.id)
        (fun f => { f with status := .deleted, deletedAt := some now }) fun _ => rfl
      }).recordAuditEvent organizationId (some actorUserId) "evidence_file.deleted" "EvidenceFile"
    (some file.id)

/-! ## The endpoints -/

/-- `_ALLOWED_EVIDENCE_CONTENT_TYPES`. -/
def allowedContentTypes : List String := ["application/pdf", "image/jpeg", "image/png"]

/-- What `upload_evidence_file` checks before it names the object; `contentType` is lower case. -/
def checkUpload (db : Database) (maxBytes : Int) (args : FileArgs) : Except Error Unit := do
  let _ ← getEvidence db args.organizationId args.evidenceId
  raiseIf (args.contentType ∉ allowedContentTypes)
    (.aeroComply ("Unsupported content type: " ++
        (if args.contentType = "" then "unknown" else args.contentType))
      "unsupported_content_type")
  raiseIf (maxBytes < args.sizeBytes)
    (.aeroComply ("File exceeds maximum upload size of " ++ toString maxBytes ++ " bytes")
      "evidence_file_too_large")

/-- What `delete_evidence_file` checks before it turns to the storage. -/
def checkDelete (db : Database) (organizationId evidenceId evidenceFileId : UUID) :
    Except Error EvidenceFile := do
  let file ← getFileForEvidence db organizationId evidenceId evidenceFileId
  raiseIf (file.status ≠ .stored)
    (.conflict ("Evidence file cannot be deleted in status " ++ file.status.value))
  pure file

theorem checkDelete_eq_ok {organizationId evidenceId evidenceFileId : UUID}
    (h : checkDelete db organizationId evidenceId evidenceFileId = .ok file) :
    db.evidenceFiles.find? file.id = some file ∧ file.status = .stored := by
  obtain ⟨found, hget, h⟩ := bind_eq_ok.1 h
  obtain ⟨_, hstored, h⟩ := bind_eq_ok.1 h
  rw [raiseIf_eq_ok, not_not] at hstored
  cases h
  exact ⟨getFileForEvidence_eq_ok hget, hstored⟩

/-! ## Reconciliation -/

inductive ReconciliationClassification
  | consistent
  | noAction
  | safeToRepair
  | manualReview
  | infrastructureFailure
  deriving DecidableEq, Repr

def classify (dbStatus : EvidenceFileStatus) (objectExists : Bool) :
    ReconciliationClassification :=
  match dbStatus, objectExists with
  | .stored, true => .consistent
  | .stored, false | .pending, _ | .failed, true => .manualReview
  | .failed, false | .deleted, false => .noAction
  | .deleted, true => .safeToRepair

/-- `EvidenceFileAnomaly`, as far as `apply_repairs` acts on it. -/
structure EvidenceFileAnomaly where
  evidenceFileId : UUID
  organizationId : UUID
  classification : ReconciliationClassification

/-- The row that `apply_repairs` takes the object of: it is re-read, and must still be DELETED. -/
def repairable (db : Database) (anomaly : EvidenceFileAnomaly) : Option EvidenceFile :=
  if anomaly.classification = .safeToRepair then
    (db.evidenceFiles.find? anomaly.evidenceFileId).filter fun f =>
      f.organizationId = anomaly.organizationId && f.status = .deleted
  else none

end EvidenceFileService
end AeroComply
