import AeroComply.Models.Database
import AeroComply.Applicability.Evaluation

/-!
# Service — evaluating a rule against a stored aircraft or asset

`evaluate_applicability` of `app/services/applicability/evaluation_service.py`:
the rule and its subject are looked up within the organization, the subject's
configuration is captured, and the verdict is stored with its trace.
-/

namespace AeroComply

namespace ApplicabilityService

/-- `ApplicabilityEvaluationRequest`; it names an aircraft or an asset. -/
structure ApplicabilityEvaluationRequest where
  ruleId : UUID
  aircraftId : Option UUID
  assetId : Option UUID
  notes : Option String := none
  forceReview : Bool := false
  target : aircraftId.isSome = true ∨ assetId.isSome = true

/-- The request for a rule, which the schema refuses without a target. -/
def evaluationRequest (ruleId : UUID) (aircraftId assetId : Option UUID) :
    Except Error ApplicabilityEvaluationRequest :=
  if h : aircraftId.isSome = true ∨ assetId.isSome = true then
    .ok { ruleId, aircraftId, assetId, target := h }
  else .error (.validation "Either aircraft_id or asset_id must be provided")

def getRule (db : Database) (organizationId ruleId : UUID) : Except Error ApplicabilityRule :=
  oneOrRaise (db.rules.select fun r => r.id = ruleId && r.organizationId = organizationId)
    (.notFound ("Applicability rule " ++ toString ruleId ++ " not found."))

/-- The asset with an id, unless it is soft-deleted. -/
def liveAssets (db : Database) (organizationId assetId : UUID) : List Asset :=
  db.assets.select fun a =>
    a.id = assetId && a.organizationId = organizationId && a.deletedAt.isNone

def resolveSubject (db : Database) (organizationId : UUID) (aircraftId assetId : Option UUID) :
    Except Error (Option Aircraft × Option Asset) :=
  match aircraftId, assetId with
  | some aircraftId, _ => do
    let aircraft ← oneOrRaise
      (db.aircraft.select fun a => a.id = aircraftId && a.organizationId = organizationId)
      (.notFound ("Aircraft " ++ toString aircraftId ++ " not found."))
    match aircraft.assetId with
    | none => pure (some aircraft, none)
    | some linkedAssetId =>
      let asset ← oneOrRaise (liveAssets db organizationId linkedAssetId)
        (.notFound ("Asset linked to aircraft " ++ toString aircraftId
          ++ " is deleted or inaccessible."))
      pure (some aircraft, some asset)
  | none, some assetId => do
    let asset ← oneOrRaise (liveAssets db organizationId assetId)
      (.notFound ("Asset " ++ toString assetId ++ " not found."))
    let aircraft ← scalarOneOrNone
      (db.aircraft.select fun a => a.assetId = some assetId && a.organizationId = organizationId)
    pure (aircraft, some asset)
  | none, none => .ok (none, none)

/-- The engines on record as installed on an asset. -/
def installedEngines (db : Database) (organizationId assetId : UUID) : List InstalledEngine :=
  (db.components.select fun c =>
    c.assetId = some assetId && c.organizationId = organizationId &&
      c.componentType = "ENGINE" && c.status = "INSTALLED").map fun c =>
    ⟨c.id, c.name, c.model, c.manufacturer, c.serialNumber⟩

def captureConfigurationSnapshot (db : Database) (now : DateTime) (organizationId : UUID)
    (aircraft : Option Aircraft) (asset : Option Asset) : ConfigurationSnapshot :=
  let assetId := (asset.map Asset.id).or (aircraft.bind Aircraft.assetId)
  { aircraftId := aircraft.map Aircraft.id
    assetId
    registration := match aircraft with
      | some a => some a.registration
      | none => asset.bind Asset.registration
    msn := aircraft.map Aircraft.msn
    aircraftType := aircraft.map Aircraft.aircraftType
    status := match aircraft with
      | some a => some a.status
      | none => asset.map Asset.status
    installedEngines := (assetId.map (installedEngines db organizationId)).getD []
    snapshotTimestamp := now }

/-- The root condition of a rule; a rule may have none. -/
def rootCondition (db : Database) (organizationId : UUID) (rule : ApplicabilityRule) :
    Except Error (Option ApplicabilityCondition) :=
  match rule.rootConditionId with
  | none => .ok none
  | some conditionId => scalarOneOrNone
      (db.conditions.select fun c => c.id = conditionId && c.organizationId = organizationId)

/-- The verdict of a rule; a rule without a root condition is UNKNOWN. -/
def evaluateRoot (u : UnicodeTables) (snapshot : ConfigurationSnapshot)
    (root : Option ApplicabilityCondition) : Except Error (KleeneValue × Option Trace) :=
  match root with
  | none => .ok (.unknown, none)
  | some condition => do
    let (val, trace) ← evaluateNode u snapshot condition
    pure (val, some trace)

def evaluateApplicability (u : UnicodeTables) (db : Database) (now : DateTime) (newId : UUID)
    (organizationId : UUID) (actorUserId : Option UUID)
    (payload : ApplicabilityEvaluationRequest) :
    Except Error (Database × ApplicabilityEvaluation) := do
  let rule ← getRule db organizationId payload.ruleId
  raiseIf (rule.isActive = false)
    (.conflict ("Applicability rule '" ++ rule.ruleCode ++ "' is inactive."))
  let (aircraft, asset) ← resolveSubject db organizationId payload.aircraftId payload.assetId
  let snapshot := captureConfigurationSnapshot db now organizationId aircraft asset
  let root ← rootCondition db organizationId rule
  let (overallKleene, rootNode) ← evaluateRoot u snapshot root
  let evaluation : ApplicabilityEvaluation :=
    { id := newId, organizationId, ruleId := rule.id, aircraftId := aircraft.map Aircraft.id
      assetId := asset.map Asset.id, evaluatedByUserId := actorUserId
      systemResult := systemResult payload.forceReview overallKleene
      configurationSnapshot := snapshot
      reasoningTrace := ⟨rule.id, rule.ruleCode, overallKleene, rootNode⟩
      notes := payload.notes }
  let evaluations ← addRow db.evaluations evaluation
  pure (({ db with evaluations }).recordAuditEvent organizationId actorUserId
    "applicability.evaluated" "ApplicabilityEvaluation" (some newId), evaluation)

theorem evaluateApplicability_frame {u : UnicodeTables} {db db' : Database} {now : DateTime}
    {newId org : UUID} {actor : Option UUID} {payload : ApplicabilityEvaluationRequest}
    {evaluation : ApplicabilityEvaluation}
    (h : evaluateApplicability u db now newId org actor payload = .ok (db', evaluation)) :
    ∃ evaluations auditEvents, db' = { db with evaluations, auditEvents } := by
  obtain ⟨_, _, h⟩ := bind_eq_ok.1 h
  obtain ⟨_, _, h⟩ := bind_eq_ok.1 h
  obtain ⟨_, _, h⟩ := bind_eq_ok.1 h
  obtain ⟨_, _, h⟩ := bind_eq_ok.1 h
  obtain ⟨_, _, h⟩ := bind_eq_ok.1 h
  obtain ⟨evaluations, _, h⟩ := bind_eq_ok.1 h
  rw [pure_eq_ok] at h
  obtain ⟨rfl, rfl⟩ := Prod.mk.inj h
  exact ⟨evaluations, _, rfl⟩

end ApplicabilityService
end AeroComply
