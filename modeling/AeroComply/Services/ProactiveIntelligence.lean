import AeroComply.Lib.Sessions
import AeroComply.Services.Flight

/-!
# ProactiveIntelligence — signals: evaluated, stored, answered, decided on

`app/services/intelligence/proactive_intelligence_service.py`.  The evaluators run for
every live asset in scope; what they find is stored under the key of the signal, and
the stored records are answered.  Nothing here commits.

Of a signal its key, type, severity, priority and asset are kept, and the category
that the fleet patterns count; the texts, the evidence and the actions are left out.
`fl` rounds an exact quotient or difference to the float the interpreter computes.
-/

namespace AeroComply

open Relational (Table)

namespace ProactiveIntelligenceService

open FlightService
open Sessions (Call)

/-- A signal that an evaluator returns. -/
structure SignalItem where
  signalKey : String
  signalType : String
  severity : String
  priority : String
  assetId : Option UUID := none
  category : Option String := none
  deriving DecidableEq

/-- The day of an instant, in UTC. -/
def day (t : DateTime) : Date := t / 86400000000

/-- `round(x, digits)` of a float. -/
def roundTo (fl : ℚ → ℚ) (digits : Nat) (x : ℚ) : ℚ :=
  fl (roundHalfEven (x * 10 ^ digits) / 10 ^ digits)

section Evaluators

variable (py : Interpreter) (fl : ℚ → ℚ) (db : Database) (now : DateTime) (organizationId : UUID)

/-- `_get_asset_utilization`: the hours; only texts use the cycles. -/
def assetHours (assetId : UUID) : Except Error ℚ := do
  let utilization ← getUtilization fl db organizationId assetId none none
  pure (roundTo fl 2 (fl (utilization.totalMinutes / 60)))

/-- A work order that is past due, or due within a week. -/
def workOrderSignal (asset : Asset) (wo : WorkOrder) : Option SignalItem :=
  match wo.dueAt with
  | none => none
  | some dueAt =>
    let daysRemaining := day dueAt - day now
    let level := if daysRemaining ≤ 2 then "HIGH" else "MEDIUM"
    if daysRemaining < 0 then
      some { signalKey := "maint_overdue:" ++ py.uuidText asset.id ++ ":" ++ py.uuidText wo.id
             signalType := "MAINTENANCE_THRESHOLD", severity := "CRITICAL", priority := "CRITICAL"
             assetId := some asset.id }
    else if daysRemaining ≤ 7 then
      some { signalKey := "maint_due_soon:" ++ py.uuidText asset.id ++ ":" ++ py.uuidText wo.id
             signalType := "MAINTENANCE_THRESHOLD", severity := level, priority := level
             assetId := some asset.id }
    else none

def evaluateMaintenanceThresholds (asset : Asset) : Except Error (List SignalItem) := do
  let _ ← assetHours fl db organizationId asset.id
  let workOrders := db.workOrders.select fun wo =>
    wo.organizationId = organizationId && wo.assetId = some asset.id &&
      ["OPEN", "IN_PROGRESS", "AWAITING_PARTS", "SCHEDULED"].contains wo.status.value
  let batteries := db.batteries.select fun b =>
    b.organizationId = organizationId && b.assetId = some asset.id
  -- the limit of each battery is `bat.max_cycles`, and a battery has no such attribute
  raiseIf (batteries.isEmpty = false) .attributeError
  pure (workOrders.filterMap (workOrderSignal py now asset))

/-- The requirements that an applicability row names for the asset or its aircraft, or all of
the organization when none does. -/
def requirementsInScope (asset : Asset) (aircraft : Option Aircraft) :
    List MaintenanceRequirement :=
  let named := (db.requirementApplicabilities.select fun a =>
      a.organizationId = organizationId &&
        (a.assetId = some asset.id || aircraft.any fun ac => a.aircraftId = some ac.id)).map
    MaintenanceRequirementApplicability.requirementId
  db.maintenanceRequirements.select fun req =>
    req.organizationId = organizationId && (named.isEmpty || named.contains req.id)

/-- `hours_since_check`: what the total leaves of the last full interval. -/
def hoursSinceCheck (totalHours interval : ℚ) : ℚ :=
  if interval ≤ totalHours then totalHours - interval * (totalHours / interval).floor
  else totalHours

def hoursRemaining (totalHours interval : ℚ) : ℚ :=
  roundTo fl 1 (fl (interval - hoursSinceCheck totalHours interval))

/-- The requirement is due: no hours remain, or an interval has just been completed. -/
def isInspectionDue (totalHours interval : ℚ) : Bool :=
  decide (hoursRemaining fl totalHours interval ≤ 0) ||
    (decide (interval ≤ totalHours) && decide (hoursSinceCheck totalHours interval < fl (1 / 10)))

/-- A requirement whose interval of flight hours has passed, or is about to. -/
def inspectionSignal (asset : Asset) (totalHours : ℚ) (req : MaintenanceRequirement) :
    Option SignalItem :=
  match req.fhInterval with
  | none => none
  | some fhInterval =>
    let interval := fl fhInterval
    let remaining := hoursRemaining fl totalHours interval
    let level := if remaining ≤ 10 then "HIGH" else "MEDIUM"
    if interval ≤ 0 then none
    else if isInspectionDue fl totalHours interval then
      some { signalKey := "insp_due:" ++ py.uuidText asset.id ++ ":" ++ py.uuidText req.id
             signalType := "INSPECTION_THRESHOLD", severity := "CRITICAL", priority := "CRITICAL"
             assetId := some asset.id }
    else if remaining ≤ 25 then
      some { signalKey := "insp_approaching:" ++ py.uuidText asset.id ++ ":" ++ py.uuidText req.id
             signalType := "INSPECTION_THRESHOLD", severity := level, priority := level
             assetId := some asset.id }
    else none

def evaluateInspectionThresholds (asset : Asset) : Except Error (List SignalItem) := do
  let totalHours ← assetHours fl db organizationId asset.id
  let aircraft ← scalarOneOrNone
    (db.aircraft.select fun a => a.organizationId = organizationId && a.assetId = some asset.id)
  pure ((requirementsInScope db organizationId asset aircraft).filterMap
    (inspectionSignal py fl asset totalHours))

/-- `_evaluate_recurring_findings`: a finding of the last 90 days is asked for its category, and
findings have no such attribute. -/
def evaluateRecurringFindings (asset : Asset) : Except Error (List SignalItem) := do
  let cutoff := now - 90 * 86400000000
  let findings := db.findings.select fun f =>
    f.organizationId = organizationId && f.assetId = some asset.id && decide (cutoff ≤ f.createdAt)
  raiseIf (findings.isEmpty = false) .attributeError
  pure []

/-- The hours flown from `lo` on, and before `hi`. -/
def flownHours (asset : Asset) (lo : DateTime) (hi : Option DateTime) : ℚ :=
  roundTo fl 1 (fl (WindowSum.total
    (fun f => ofAsset organizationId asset.id f && WindowSum.within (some lo) hi f.flownAt)
    Flight.durationMinutes db.flights.rows / 60))

def evaluateUtilizationTrends (asset : Asset) : List SignalItem :=
  let t14 := now - 14 * 86400000000
  let t28 := now - 28 * 86400000000
  let recentHours := flownHours fl db organizationId asset t14 none
  let priorHours := flownHours fl db organizationId asset t28 (some t14)
  if 15 ≤ recentHours ∧ (priorHours = 0 ∨ fl (priorHours * (3 / 2)) ≤ recentHours) then
    [{ signalKey := "utilization_surge:" ++ py.uuidText asset.id
       signalType := "UTILIZATION_TREND", severity := "MEDIUM", priority := "MEDIUM"
       assetId := some asset.id }]
  else []

/-- `_evaluate_compliance_evidence_gaps`: its first query is for obligations whose status is
`ComplianceState.UNKNOWN`, which is no member of the enumeration. -/
def evaluateComplianceEvidenceGaps (_asset : Asset) : Except Error (List SignalItem) :=
  .error .attributeError

/-- `_evaluate_fleet_patterns`: the categories of findings that recur on two assets. -/
def evaluateFleetPatterns (assetSignals : List SignalItem) : List SignalItem :=
  let categories := (assetSignals.filter fun sig => sig.signalType = "RECURRING_FINDING").map
    fun sig => sig.category.getD "OTHER"
  categories.eraseDups.filterMap fun category =>
    if 2 ≤ categories.count category then
      some { signalKey := "fleet_pattern_findings:" ++ category, signalType := "FLEET_PATTERN"
             severity := "HIGH", priority := "HIGH", category := some category }
    else none

variable (readiness : Database → UUID → Asset → List SignalItem)

/-- All evaluators for one asset; `readiness` is `_evaluate_readiness_degradation`, which raises
nothing. -/
def evaluateAsset (asset : Asset) : Except Error (List SignalItem) := do
  let maintenance ← evaluateMaintenanceThresholds py fl db now organizationId asset
  let inspection ← evaluateInspectionThresholds py fl db organizationId asset
  let recurring ← evaluateRecurringFindings db now organizationId asset
  let utilization := evaluateUtilizationTrends py fl db now organizationId asset
  let gaps ← evaluateComplianceEvidenceGaps asset
  pure (maintenance ++ inspection ++ recurring ++ utilization ++ gaps ++
    readiness db organizationId asset)

/-- The live assets of the organization, or the one that is asked for. -/
def assetsInScope (assetId : Option UUID) : List Asset :=
  db.assets.select fun a =>
    a.organizationId = organizationId && a.deletedAt.isNone && assetId.all fun id => a.id = id

/-- The signals of a call. -/
def evaluateSignals (assetId : Option UUID) : Except Error (List SignalItem) := do
  let found ← (assetsInScope db organizationId assetId).mapM
    (evaluateAsset py fl db now organizationId readiness)
  let items := found.flatten
  pure (if assetId.isNone then items ++ evaluateFleetPatterns items else items)

end Evaluators

/-! ## Storing -/

/-- What an evaluated signal changes of its record: nothing, once it is decided on. -/
def refreshed (existing : ProactiveSignalRecord) (item : SignalItem) : ProactiveSignalRecord :=
  if existing.status.isActive then
    { existing with severity := item.severity, priority := item.priority }
  else existing

def newRecord (id organizationId : UUID) (now : DateTime) (item : SignalItem) :
    ProactiveSignalRecord where
  id
  organizationId
  signalKey := item.signalKey
  signalType := item.signalType
  severity := item.severity
  priority := item.priority
  assetId := item.assetId
  detectedAt := now

/-- The record is the organization's, of that key. -/
def isKeyed (organizationId : UUID) (key : String) (r : ProactiveSignalRecord) : Bool :=
  r.organizationId = organizationId && r.signalKey = key

section Storing

variable (newIds : Nat → UUID) (now : DateTime) (organizationId : UUID)

/-- The loop over the evaluated signals: the records that are written over, and the ones to
add.  The session does not flush by itself, so a query does not see those. -/
def syncItems : List SignalItem → Nat → Table ProactiveSignalRecord →
    Except Error (Table ProactiveSignalRecord × List ProactiveSignalRecord)
  | [], _, records => .ok (records, [])
  | item :: items, n, records => do
    let existing ← scalarOneOrNone (records.select (isKeyed organizationId item.signalKey))
    match existing with
    | some existing => syncItems items n (records.save (refreshed existing item))
    | none =>
      let (records, added) ← syncItems items (n + 1) records
      pure (records, newRecord (newIds n) organizationId now item :: added)

/-- An `INSERT`, under `uq_proactive_signal_org_key`. -/
def addSignal (records : Table ProactiveSignalRecord) (r : ProactiveSignalRecord) :
    Except Error (Table ProactiveSignalRecord) := do
  raiseIf (records.rows.any (isKeyed r.organizationId r.signalKey)) .integrity
  addRow records r

/-- The second part of `sync_and_get_signals`, and its flush. -/
def synchronize (records : Table ProactiveSignalRecord) (items : List SignalItem) :
    Except Error (Table ProactiveSignalRecord) := do
  let (records, added) ← syncItems newIds now organizationId items 0 records
  added.foldlM addSignal records

end Storing

/-! ## Answering -/

structure SignalFilters where
  assetId : Option UUID := none
  signalType : Option String := none
  severity : Option String := none
  status : Option String := none

/-- A filter that is given, and not the empty text. -/
def passes (filter : Option String) (text : String) : Bool :=
  (filter.filter (· ≠ "")).all fun f => text = f

/-- The record is asked for. -/
def SignalFilters.selects (filters : SignalFilters) (organizationId : UUID)
    (r : ProactiveSignalRecord) : Bool :=
  r.organizationId = organizationId && (filters.assetId.all fun id => r.assetId = some id) &&
    passes filters.signalType r.signalType && passes filters.severity r.severity &&
    passes filters.status r.status.value

structure ProactiveSignalResponse extends ProactiveSignalRecord where
  assetRegistration : Option String
  deriving DecidableEq

/-- The texts of the record are ones that a response can have. -/
def isPresentable (r : ProactiveSignalRecord) : Bool :=
  signalTypes.contains r.signalType && signalSeverities.contains r.severity &&
    signalSeverities.contains r.priority

/-- `ProactiveSignalResponse(…)`; of several aircraft of an asset the last one gives its
registration. -/
def respond (db : Database) (organizationId : UUID) (r : ProactiveSignalRecord) :
    Except Error ProactiveSignalResponse := do
  raiseIf (isPresentable r = false) (.validation "ProactiveSignalResponse")
  let aircraft := (db.aircraft.select fun a => a.organizationId = organizationId).reverse.find?
    fun a => a.assetId.isSome && a.assetId = r.assetId
  pure { r with assetRegistration := aircraft.map Aircraft.registration }

/-- `_SEVERITY_WEIGHTS`. -/
def severityWeight (severity : String) : Nat :=
  (signalSeverities.idxOf? severity).getD 99

/-- The order of the answer: by weight, then the open ones, then the latest. -/
def sortsBefore (s t : ProactiveSignalResponse) : Bool :=
  let weights := compare (severityWeight s.severity) (severityWeight t.severity)
  let opens := compare (decide (s.status ≠ .open)).toNat (decide (t.status ≠ .open)).toNat
  ((weights.then opens).then (compare (-s.detectedAt) (-t.detectedAt))).isLE

/-- The third part of `sync_and_get_signals`. -/
def answerSignals (db : Database) (organizationId : UUID) (filters : SignalFilters) :
    Except Error (List ProactiveSignalResponse) := do
  let responses ← (db.proactiveSignals.select (filters.selects organizationId)).mapM
    (respond db organizationId)
  pure (responses.mergeSort sortsBefore)

/-- What a call draws: its instant, and the ids of the records it adds. -/
structure SignalRun where
  now : DateTime
  newIds : Nat → UUID

section Calls

variable (py : Interpreter) (fl : ℚ → ℚ) (readiness : Database → UUID → Asset → List SignalItem)
  (run : SignalRun) (organizationId : UUID)

/-- What `sync_and_get_signals` flushes. -/
def syncSignals (assetId : Option UUID) (db : Database) : Except Error Database := do
  let items ← evaluateSignals py fl db run.now organizationId readiness assetId
  let proactiveSignals ← synchronize run.newIds run.now organizationId db.proactiveSignals items
  pure { db with proactiveSignals }

def syncAndGetSignals (filters : SignalFilters) :
    Call Database Error (List ProactiveSignalResponse) := do
  Sessions.update (syncSignals py fl readiness run organizationId filters.assetId)
  Sessions.query fun db => answerSignals db organizationId filters

structure ProactiveIntelligenceSummary where
  totalActiveSignals : Nat
  criticalCount : Nat
  highCount : Nat
  mediumCount : Nat
  lowCount : Nat
  byType : List (String × Nat)
  signals : List ProactiveSignalResponse
  emergingRisks : List ProactiveSignalResponse
  upcomingThresholds : List ProactiveSignalResponse
  recurringFindings : List ProactiveSignalResponse
  complianceEvidenceGaps : List ProactiveSignalResponse
  readinessChanges : List ProactiveSignalResponse
  fleetPatterns : List ProactiveSignalResponse
  generatedAt : DateTime

/-- The summary of the signals of an organization. -/
def summarize (generatedAt : DateTime) (signals : List ProactiveSignalResponse) :
    ProactiveIntelligenceSummary :=
  let active := signals.filter fun s => s.status.isActive
  let ofSeverity (severities : List String) := active.filter fun s => severities.contains s.severity
  let ofType (types : List String) := active.filter fun s => types.contains s.signalType
  { totalActiveSignals := active.length
    criticalCount := (ofSeverity ["CRITICAL"]).length
    highCount := (ofSeverity ["HIGH"]).length
    mediumCount := (ofSeverity ["MEDIUM"]).length
    lowCount := (ofSeverity ["LOW"]).length
    byType := (active.map fun s => s.signalType).eraseDups.map fun t => (t, (ofType [t]).length)
    signals := active
    emergingRisks := ofSeverity ["CRITICAL", "HIGH"]
    upcomingThresholds := ofType ["MAINTENANCE_THRESHOLD", "INSPECTION_THRESHOLD"]
    recurringFindings := ofType ["RECURRING_FINDING"]
    complianceEvidenceGaps := ofType ["COMPLIANCE_RISK", "EVIDENCE_GAP"]
    readinessChanges := ofType ["READINESS_DEGRADATION"]
    fleetPatterns := ofType ["FLEET_PATTERN"]
    generatedAt }

def getProactiveSummary : Call Database Error ProactiveIntelligenceSummary := do
  let signals ← syncAndGetSignals py fl readiness run organizationId {}
  pure (summarize run.now signals)

/-- `NotFoundError("Signal not found", code="signal_not_found")`. -/
def signalNotFound : Error := .notFound "Signal not found"

def getSignal (db : Database) (signalId : UUID) : Except Error ProactiveSignalRecord :=
  oneOrRaise (db.proactiveSignals.select fun r =>
    r.id = signalId && r.organizationId = organizationId) signalNotFound

/-- What the four operator actions share: write the signal, and look it up in the answer. -/
def decideSignal (signalId : UUID) (decide : ProactiveSignalRecord → ProactiveSignalRecord) :
    Call Database Error ProactiveSignalResponse := do
  let signal ← Sessions.query fun db => getSignal organizationId db signalId
  Sessions.update fun db =>
    .ok { db with proactiveSignals := db.proactiveSignals.save (decide signal) }
  let signals ← syncAndGetSignals py fl readiness run organizationId {}
  Sessions.query fun _ =>
    match signals.find? fun s => s.id = signalId with
    | some s => .ok s
    | none => .error signalNotFound

def acknowledgeSignal (signalId userId : UUID) : Call Database Error ProactiveSignalResponse :=
  decideSignal py fl readiness run organizationId signalId fun signal =>
    { signal with
      status := .acknowledged
      acknowledgedByUserId := some userId
      acknowledgedAt := some run.now }

def setSignalInReview (signalId : UUID) (notes : Option String) :
    Call Database Error ProactiveSignalResponse :=
  decideSignal py fl readiness run organizationId signalId fun signal =>
    { signal with
      status := .inReview
      resolutionNotes := (notes.filter (· ≠ "")).or signal.resolutionNotes }

def resolveSignal (signalId userId : UUID) (resolutionNotes : String) :
    Call Database Error ProactiveSignalResponse :=
  decideSignal py fl readiness run organizationId signalId fun signal =>
    { signal with
      status := .resolved
      resolvedByUserId := some userId
      resolvedAt := some run.now
      resolutionNotes := some resolutionNotes }

def dismissSignal (signalId userId : UUID) (dismissalReason : String) :
    Call Database Error ProactiveSignalResponse :=
  decideSignal py fl readiness run organizationId signalId fun signal =>
    { signal with
      status := .dismissed
      dismissedByUserId := some userId
      dismissedAt := some run.now
      dismissalReason := some dismissalReason }

end Calls

end ProactiveIntelligenceService
end AeroComply
