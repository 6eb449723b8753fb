import AeroComply.Services.Obligation

/-!
# AssetRecords — the compliance rows of an asset

The queries that `app/services/compliance/intelligence_service.py` and
`app/services/aerospace_state_service.py` both make, and
`compute_operational_state` of `app/services/asset_service.py`.  A row belongs to
an asset by its `asset_id`, or by its `aircraft_id` when an aircraft is on record
for the asset.
-/

namespace AeroComply

namespace AssetRecords

/-- The aircraft on record for an asset; its own id is accepted for the asset's. -/
def aircraftOf (db : Database) (organizationId assetId : UUID) :
    Except Error (Option Aircraft) :=
  scalarOneOrNone
    (db.aircraft.select fun a =>
      a.organizationId = organizationId && (a.id = assetId || a.assetId = some assetId))

/-- `or_(Row.asset_id == asset_id, Row.aircraft_id == aircraft_id if aircraft_id else False)`. -/
def linkedTo (assetId : UUID) (aircraftId rowAssetId rowAircraftId : Option UUID) : Bool :=
  rowAssetId = some assetId ||
    (match aircraftId with
      | some aircraftId => decide (rowAircraftId = some aircraftId)
      | none => false)

def obligationsOf (db : Database) (organizationId assetId : UUID) (aircraftId : Option UUID) :
    List ComplianceObligation :=
  db.obligations.select fun o =>
    o.organizationId = organizationId && linkedTo assetId aircraftId o.assetId o.aircraftId

def findingsOf (db : Database) (organizationId assetId : UUID) (aircraftId : Option UUID) :
    List Finding :=
  db.findings.select fun f =>
    f.organizationId = organizationId && linkedTo assetId aircraftId f.assetId f.aircraftId

/-- The evidence linked to the asset itself. -/
def directEvidenceOf (db : Database) (organizationId assetId : UUID) (aircraftId : Option UUID) :
    List Evidence :=
  db.evidence.select fun e =>
    e.organizationId = organizationId && linkedTo assetId aircraftId e.assetId e.aircraftId

/-- The work orders of an asset that are not soft-deleted. -/
def liveWorkOrdersOf (db : Database) (organizationId assetId : UUID) (aircraftId : Option UUID) :
    List WorkOrder :=
  db.workOrders.select fun w =>
    w.organizationId = organizationId && w.deletedAt.isNone &&
      linkedTo assetId aircraftId w.assetId w.aircraftId

/-- The inspection requirements of the asset's live work orders. -/
def inspectionsOf (db : Database) (organizationId assetId : UUID) (aircraftId : Option UUID) :
    List InspectionRequirement :=
  db.inspections.select fun i =>
    (liveWorkOrdersOf db organizationId assetId aircraftId).any fun w =>
      i.workOrderId = some w.id

/-- The requirement of an obligation, for its number and title. -/
def requirementOf (db : Database) (organizationId : UUID) (o : ComplianceObligation) :
    Option RegulatoryRequirement :=
  match db.requirements.find? o.requirementId with
  | some req => if req.organizationId = organizationId then some req else none
  | none => none

/-- `req.requirement_number if req else fallback`. -/
def requirementNumber (fallback : String) (req : Option RegulatoryRequirement) : String :=
  (req.map RegulatoryRequirement.requirementNumber).getD fallback

/-- `req.title if req else "Regulatory Requirement"`. -/
def requirementTitle (req : Option RegulatoryRequirement) : String :=
  (req.map RegulatoryRequirement.title).getD "Regulatory Requirement"

/-- `if ob.evidence_requirements`: neither NULL nor an empty JSON value. -/
def requiresEvidence (o : ComplianceObligation) : Bool :=
  (o.evidenceRequirements.map Json.truthy).getD false

/-- The statuses that are settled, or that the engines have a branch to report. -/
def isAccountedFor (status : String) : Bool :=
  status = ComplianceState.compliant || status = ComplianceState.notApplicable
    || status = ComplianceState.nonCompliant || status = ComplianceState.overdue
    || status = ComplianceState.blocked || status = ComplianceState.reviewRequired

/-- An entry of `source_records`. -/
inductive SourceRecord
  | complianceObligation (id : UUID) (status : String) (requirementId : UUID)
  | finding (id : UUID) (title : String) (severity : FindingSeverity) (status : FindingStatus)
  | evidence (id : UUID) (title : String) (verificationStatus : VerificationStatus)
      (status : EvidenceStatus)
  | inspectionRequirement (id : UUID) (status : InspectionRequirementStatus) (required : Bool)

def obligationRecord (o : ComplianceObligation) : SourceRecord :=
  .complianceObligation o.id o.status o.requirementId

/-- `ev.title or ev.evidence_type`. -/
def evidenceLabel (e : Evidence) : String := ObligationService.textOr e.evidenceType e.title

/-! ## The operational state -/

inductive OperationalState
  | available
  | inMission
  | underInspection
  | maintenance
  | grounded
  | aog
  | inactive
  | retired
  deriving DecidableEq, Repr

def OperationalState.value : OperationalState → String
  | .available => "AVAILABLE"
  | .inMission => "IN_MISSION"
  | .underInspection => "UNDER_INSPECTION"
  | .maintenance => "MAINTENANCE"
  | .grounded => "GROUNDED"
  | .aog => "AOG"
  | .inactive => "INACTIVE"
  | .retired => "RETIRED"

def hasActiveAog (db : Database) (organizationId assetId : UUID) : Bool :=
  db.aogEvents.rows.any fun e =>
    e.organizationId = organizationId && e.assetId = some assetId &&
      (e.status = .declared || e.status = .inRecovery)

def hasOpenWorkOrder (db : Database) (organizationId assetId : UUID) : Bool :=
  db.workOrders.rows.any fun w =>
    w.organizationId = organizationId && w.assetId = some assetId && w.deletedAt.isNone &&
      !(w.status = .completed || w.status = .closed || w.status = .cancelled)

/-- A pending inspection on a work order of the asset, soft-deleted or not. -/
def hasPendingInspection (db : Database) (organizationId assetId : UUID) : Bool :=
  db.inspections.rows.any fun i =>
    i.organizationId = organizationId && i.status = .pending &&
      db.workOrders.rows.any fun w => i.workOrderId = some w.id && w.assetId = some assetId

def hasActiveMission (db : Database) (organizationId assetId : UUID) : Bool :=
  db.missions.rows.any fun m =>
    m.organizationId = organizationId && m.assetId = assetId &&
      (m.status = .authorized || m.status = .inProgress)

/-- `compute_operational_state`: the first fact of the list that holds. -/
def computeOperationalState (db : Database) (organizationId : UUID) (asset : Asset) :
    OperationalState :=
  if asset.status = AssetLifecycleStatus.retired then .retired
  else if asset.status = AssetLifecycleStatus.archived then .inactive
  else if hasActiveAog db organizationId asset.id then .aog
  else if asset.status = AssetLifecycleStatus.grounded then .grounded
  else if asset.status = AssetLifecycleStatus.maintenance then .maintenance
  else if hasOpenWorkOrder db organizationId asset.id then .maintenance
  else if asset.status = AssetLifecycleStatus.inspection then .underInspection
  else if hasPendingInspection db organizationId asset.id then .underInspection
  else if hasActiveMission db organizationId asset.id then .inMission
  else if asset.status = AssetLifecycleStatus.planned then .inactive
  else .available

/-- An asset with one obligation, in the given status and not yet due. -/
def oneObligation (status : String) : Database where
  assets := .single { id := 3, organizationId := 1 }
  requirements := .single
    { id := 2, organizationId := 1, requirementNumber := "AD-1", title := "AD",
      description := "Inspect" }
  obligations := .single
    { id := 4, organizationId := 1, requirementId := 2, assetId := some 3, status }

end AssetRecords
end AeroComply
