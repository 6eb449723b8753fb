import AeroComply.Core.Permissions
import AeroComply.Lib.Rounds
import AeroComply.Services.Auth
import AeroComply.Services.Safety

/-!
# Agent — the orchestration loop

`app/services/ai/agent_service.py` and `execute_tool` of `app/services/ai/tools.py`.  The provider,
the tool handlers and what answers a question before the loop are parameters over one world, which
they read and change: any responses, any results and any exceptions.  The loop also keeps a log of
what the provider and the tools did.
-/

namespace AeroComply

/-! ## Messages -/

structure AIToolCall where
  id : String
  name : String
  input : List (String × Json)

structure AIProviderResponse where
  stopReason : String
  text : String := ""
  toolCalls : List AIToolCall := []

/-- A `tool_result` block. -/
structure ToolResult where
  toolUseId : String
  content : String
  isError : Bool := false

/-- A message of the conversation with the provider, after the system prompt. -/
inductive Turn
  | question (contextLines : List String) (question : String)
  | assistant (text : String) (toolCalls : List AIToolCall)
  | toolResults (results : List ToolResult)

/-- The contents of the `tool_result` blocks of a message. -/
def Turn.toolResultContents : Turn → List String
  | .question _ _ => []
  | .assistant _ _ => []
  | .toolResults results => results.map ToolResult.content

/-- What the provider or a tool did. -/
inductive AgentEvent
  | responded (response : AIProviderResponse)
  | failed (error : String)
  | returned (call : AIToolCall) (result : Json)
  | raised (call : AIToolCall) (error : String)

def AgentEvent.isProviderCall : AgentEvent → Bool
  | .responded _ | .failed _ => true
  | .returned _ _ | .raised _ _ => false

def AgentEvent.isToolCall (e : AgentEvent) : Bool := !e.isProviderCall

/-- A question is answered before the loop, or the loop begins with the line of the entities that
were resolved in it. -/
inductive Preparation
  | answered (response : LisaAskResponse)
  | unanswered (resolvedLine : Option String)

/-- What `str` writes for a value and for an identifier, and the name of a value's type. -/
structure PyTables extends RegexTables where
  str : Json → String
  uuid : UUID → String
  typeName : Json → String
  str_withheld : str (.obj [("note", .str "Result withheld by safety layer.")])
    = "\x7b'note': 'Result withheld by safety layer.'\x7d"
  typeName_mem : ∀ value,
    typeName value ∈ ["NoneType", "bool", "int", "float", "str", "list", "dict"]

/-- Everything the agent calls, over a world of records and conversations. -/
structure AgentEnv (World : Type) where
  /-- `resolve_message`, `record_question` and `investigate`. -/
  prepare : CurrentUser → String → World → Except String Preparation × World
  /-- `provider.complete`. -/
  complete : List Turn → World → Except String AIProviderResponse × World
  /-- The handler of a registered tool. -/
  handler : String → CurrentUser → List (String × Json) → World → Except String Json × World

namespace AgentService

def maxToolRoundTrips : Nat := 6

/-- The final text when a response asks for more calls than are left and says nothing. -/
def unableText : String := "I was unable to gather enough information within the tool-call limit."

/-- The final text when no round trip ended the loop. -/
def limitText : String :=
  "I reached the tool-call limit before finishing. Please narrow the question."

/-- `TOOL_REGISTRY`: the tools, and the permission each one requires. -/
def toolRegistry : List (String × Permission) :=
  [("get_aircraft", .aircraftRead),
    ("list_aircraft", .aircraftRead),
    ("get_work_order", .aircraftRead),
    ("get_work_order_tasks", .aircraftRead),
    ("get_task", .aircraftRead),
    ("get_evidence", .evidenceRead),
    ("list_evidence_for_task", .evidenceRead),
    ("get_inspection", .inspectionRead),
    ("list_inspections_for_work_order", .inspectionRead),
    ("get_tat", .aircraftRead),
    ("get_fleet_tat", .aircraftRead),
    ("get_release_readiness", .aircraftRead),
    ("get_parts", .partRead),
    ("get_shortages_for_work_order", .partRead),
    ("get_inventory_transactions", .partRead),
    ("get_vendors", .vendorRead),
    ("get_vendor_fit", .vendorRead),
    ("get_procurement_requests", .procurementRead),
    ("get_purchase_orders", .procurementRead),
    ("get_aog_events", .aircraftRead),
    ("get_aog_recovery_status", .aircraftRead),
    ("check_technician_authorization", .technicianRead),
    ("get_maintenance_due", .aircraftRead),
    ("get_deferred_items", .aircraftRead),
    ("get_compliance_assessments", .complianceAssess),
    ("get_regulatory_documents", .regulationRead),
    ("get_regulatory_provider_status", .regulationRead),
    ("get_control_center_summary", .aircraftRead),
    ("get_control_center_fleet", .aircraftRead),
    ("get_proactive_alerts", .aircraftRead),
    ("get_daily_brief", .aircraftRead),
    ("get_assessments", .assessmentRead),
    ("get_assessment", .assessmentRead),
    ("run_assessment", .assessmentWrite),
    ("get_assessment_findings", .assessmentRead),
    ("get_assessment_risks", .assessmentRead),
    ("get_assessment_gaps", .assessmentRead),
    ("get_assessment_recommendations", .assessmentRead),
    ("get_assessment_roadmap", .assessmentRead),
    ("compare_assessment_snapshots", .assessmentRead),
    ("get_intelligence_context", .aircraftRead),
    ("get_fleet_attention_summary", .aircraftRead),
    ("get_proactive_intelligence_summary", .aircraftRead),
    ("get_asset_proactive_signals", .aircraftRead)]

section Service

variable {World : Type} (py : PyTables) (env : AgentEnv World) (user : CurrentUser)

def executeTool (name : String) (args : List (String × Json)) (world : World) :
    Except String Json × World :=
  match toolRegistry.lookup name with
  | none => (.error ("Unknown tool: " ++ name), world)
  | some permission =>
    if permission ∈ permissionsForRoles user.roles then env.handler name user args world
    else (.error ("Role does not have permission " ++ permission.value), world)

/-- `value.get(key, default)`. -/
def get (value : Json) (key : String) (default : Json) : Except String Json :=
  match value with
  | .obj fields => .ok ((fields.lookup key).getD default)
  | value => .error ("'" ++ py.typeName value ++ "' object has no attribute 'get'")

/-- `value if isinstance(value, list) else []`. -/
def listOrNone : Json → List Json
  | .arr items => items
  | _ => []

/-- `_extract_grounding`: the grounding, if any, and what is missing. -/
def extractGrounding (toolName : String) (result : Json) :
    Except String (Option Json × List Json) :=
  match result with
  | .obj _ =>
    if toolName = "get_intelligence_context" then do
      let contractVersion ← get py result "contract_version" .null
      let state ← get py result "aerospace_state" (.obj [])
      let evaluationVersion ← get py state "evaluation_version" .null
      let asset ← get py result "asset" (.obj [])
      let assetId ← get py asset "asset_id" .null
      let status ← get py state "status" .null
      let uncertainty ← get py result "uncertainty" (.arr [])
      return (some (.obj [("tool", .str toolName), ("contract_version", contractVersion),
        ("evaluation_version", evaluationVersion), ("asset_id", assetId),
        ("aerospace_intelligence_status", status)]), listOrNone uncertainty)
    else if toolName = "get_fleet_attention_summary" then do
      let contractVersion ← get py result "contract_version" .null
      let totalAssets ← get py result "total_assets" .null
      let uncertainty ← get py result "uncertainty" (.arr [])
      return (some (.obj [("tool", .str toolName), ("contract_version", contractVersion),
        ("evaluation_version", .null), ("total_assets", totalAssets)]), listOrNone uncertainty)
    else .ok (none, [])
  | _ => .ok (none, [])

/-- What stands in place of a restricted result. -/
def withheld : Json := .obj [("note", .str "Result withheld by safety layer.")]

/-- The `tool_result` of an exception. -/
def toolError (call : AIToolCall) (error : String) : ToolResult where
  toolUseId := call.id
  content := "Tool error: " ++ error
  isError := true

/-- `_run_tool`: the `tool_result`, the grounding and what is missing. -/
def runTool (call : AIToolCall) (world : World) :
    (ToolResult × Option Json × List Json) × AgentEvent × World :=
  match executeTool env user call.name call.input world with
  | (.error error, world) => ((toolError call error, none, []), .raised call error, world)
  | (.ok result, world) =>
    match extractGrounding py call.name result with
    | .error error => ((toolError call error, none, []), .returned call result, world)
    | .ok (grounding, missing) =>
      if Safety.isSafetyRestricted py.toRegexTables (py.str result) then
        (({ toolUseId := call.id, content := py.str withheld }, none, []),
          .returned call result, world)
      else
        (({ toolUseId := call.id, content := py.str result }, grounding, missing),
          .returned call result, world)

structure LoopState (World : Type) where
  world : World
  messages : List Turn := []
  toolCallsMade : Nat := 0
  lastGrounding : Option Json := none
  lastMissing : List Json := []
  log : List AgentEvent := []

/-- One call of a response: the state after it, and the results so far. -/
def callTool (s : LoopState World × List ToolResult) (call : AIToolCall) :
    LoopState World × List ToolResult :=
  let ((message, grounding, missing), event, world) := runTool py env user call s.1.world
  ({ s.1 with
      world := world
      toolCallsMade := s.1.toolCallsMade + 1
      lastGrounding := if grounding.isSome then grounding else s.1.lastGrounding
      lastMissing := if grounding.isSome then missing else s.1.lastMissing
      log := s.1.log ++ [event] }, s.2 ++ [message])

/-- One round trip: the loop is left with a text or an exception of the provider. -/
def roundTrip (s : LoopState World) :
    Rounds.Outcome (LoopState World) (Except String String × LoopState World) :=
  match env.complete s.messages s.world with
  | (.error error, world) =>
    .stop (.error error, { s with world := world, log := s.log ++ [.failed error] })
  | (.ok response, world) =>
    let s := { s with world := world, log := s.log ++ [.responded response] }
    if response.stopReason ≠ "tool_use" ∨ response.toolCalls.isEmpty then
      .stop (.ok response.text, s)
    else if s.toolCallsMade + response.toolCalls.length > maxToolRoundTrips then
      .stop (.ok (if response.text = "" then unableText else response.text), s)
    else
      let s := { s with messages := s.messages ++ [.assistant response.text response.toolCalls] }
      let called := response.toolCalls.foldl (callTool py env user) (s, [])
      .next { called.1 with messages := called.1.messages ++ [.toolResults called.2] }

/-- The loop: the final text. -/
def converse (s : LoopState World) : Except String String × LoopState World :=
  match Rounds.forElse (roundTrip py env user) maxToolRoundTrips s with
  | .next s => (.ok limitText, s)
  | .stop r => r

def answerLines (finalText : String) : List (List Char) :=
  Safety.splitLines (py.stripText finalText.toList)

def firstLine (finalText : String) : List Char := (answerLines py finalText).headD []

def headline (finalText : String) : String :=
  if py.stripText finalText.toList = [] then "No answer produced"
  else String.ofList ((firstLine py finalText).take 160)

def narrative (finalText : String) : List String :=
  match (answerLines py finalText).filter fun line => py.stripText line ≠ [] with
  | [] => ["The agent did not produce a synthesized answer."]
  | lines => lines.map String.ofList

/-- The lines before the question: who asks, and about what. -/
def contextLines (history : List String) (currentEntity resolvedLine : Option String) :
    List String :=
  ["Organization: " ++ py.uuid user.organizationId,
    "User roles: " ++ if user.roles.isEmpty then "none" else ", ".intercalate user.roles,
    "DATA_MODE: REAL"]
    ++ resolvedLine.toList
    ++ (currentEntity.toList.filter (· ≠ "")).map ("Current page/entity: " ++ ·)
    ++ if history.isEmpty then [] else
        ["Recent conversation:\n" ++ "\n".intercalate (history.drop (history.length - 5))]

/-- The state the loop begins in. -/
def initialState (question : String) (history : List String)
    (currentEntity resolvedLine : Option String) (world : World) : LoopState World where
  world := world
  messages := [.question (contextLines py user history currentEntity resolvedLine) question]

/-- What the caller gets for the final text of the loop. -/
def synthesize (newId question finalText : String) (s : LoopState World) : LisaAskResponse :=
  if Safety.isSafetyRestricted py.toRegexTables finalText then
    Safety.safetyRefusalResponse newId question
  else
    { id := newId
      question := question
      headline := headline py finalText
      narrative := narrative py finalText
      missing := s.lastMissing
      grounding := s.lastGrounding }

/-- `ask_lisa`: the answer, and the state the loop ended in. -/
def askLisa (newId question : String) (history : List String) (currentEntity : Option String)
    (world : World) : Except String LisaAskResponse × LoopState World :=
  if Safety.isSafetyRestricted py.toRegexTables question then
    (.ok (Safety.safetyRefusalResponse newId question), { world := world })
  else
    match env.prepare user question world with
    | (.error error, world) => (.error error, { world := world })
    | (.ok (.answered response), world) => (.ok response, { world := world })
    | (.ok (.unanswered resolvedLine), world) =>
      let ended := converse py env user
        (initialState py user question history currentEntity resolvedLine world)
      (ended.1.map fun finalText => synthesize py newId question finalText ended.2, ended.2)

end Service
end AgentService
end AeroComply
