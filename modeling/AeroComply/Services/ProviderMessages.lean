import AeroComply.Services.AgentGate

/-!
# ProviderMessages — the conversation as an OpenAI-compatible server gets it

`_convert_messages` of `app/services/ai/providers/openai_compatible.py`, and the messages that
`ask_lisa` builds of its turns.  A server refuses a conversation in which a tool call is not
answered before the next message, or an answer stands where nothing was called: `Answered`.
-/

namespace AeroComply

namespace ProviderMessages

open AgentService

/-! ## Messages of content blocks -/

inductive Role
  | user
  | assistant
  deriving DecidableEq

inductive ContentBlock
  | text (text : String)
  | toolUse (call : AIToolCall)
  | toolResult (result : ToolResult)

inductive Content
  | str (text : String)
  | blocks (blocks : List ContentBlock)

structure Message where
  role : Role
  content : Content

def ContentBlock.isToolResult : ContentBlock → Bool
  | .toolResult _ => true
  | .text _ | .toolUse _ => false

def ContentBlock.text? : ContentBlock → Option String
  | .text said => some said
  | .toolUse _ | .toolResult _ => none

/-! ## Messages on the wire -/

structure WireCall where
  id : String
  name : String
  arguments : String

inductive WireMessage
  | user (content : String)
  | assistant (content : Option String) (toolCalls : List WireCall)
  | tool (toolCallId content : String)

/-- The prompt before the context, `json.dumps` of an input, and `str` of a `tool_use` block. -/
structure WireTables where
  systemPrompt : String
  dumps : List (String × Json) → String
  strOf : AIToolCall → String

section Conversion

variable (t : WireTables)

def wireCall (call : AIToolCall) : WireCall := ⟨call.id, call.name, t.dumps call.input⟩

def ContentBlock.wireCall? : ContentBlock → Option WireCall
  | .toolUse call => some (wireCall t call)
  | .text _ | .toolResult _ => none

/-- A block of a user's message with tool results. -/
def ContentBlock.answer? : ContentBlock → Option WireMessage
  | .toolResult result => some (.tool result.toolUseId result.content)
  | .text said => some (.user said)
  | .toolUse _ => none

/-- `str(b.get("text", b))`, where no block is a tool result. -/
def ContentBlock.joined : ContentBlock → String
  | .text said => said
  | .toolUse call => t.strOf call
  | .toolResult result => result.content

/-- The loop body of `_convert_messages`, for the roles that the loop writes. -/
def convertMessage (message : Message) : List WireMessage :=
  match message.role, message.content with
  | .user, .str text => [.user text]
  | .assistant, .str text => [.assistant (some text) []]
  | .user, .blocks blocks =>
    if blocks.any ContentBlock.isToolResult then blocks.filterMap ContentBlock.answer?
    else [.user ("\n".intercalate (blocks.map (ContentBlock.joined t)))]
  | .assistant, .blocks blocks =>
    let texts := blocks.filterMap ContentBlock.text?
    [.assistant (if texts.isEmpty then none else some ("\n".intercalate texts))
      (blocks.filterMap (ContentBlock.wireCall? t))]

def convertMessages (messages : List Message) : List WireMessage :=
  messages.flatMap (convertMessage t)

/-- The message that `ask_lisa` appends for a turn. -/
def turnMessage : Turn → Message
  | .question lines question =>
    ⟨.user, .str (t.systemPrompt ++ "\n\n---\nCONTEXT\n" ++ "\n".intercalate lines
      ++ "\n\n---\nQUESTION\n" ++ question)⟩
  | .assistant text calls =>
    ⟨.assistant, .blocks ((if text = "" then [] else [.text text]) ++ calls.map .toolUse)⟩
  | .toolResults results => ⟨.user, .blocks (results.map .toolResult)⟩

/-- What the server gets. -/
def request (turns : List Turn) : List WireMessage := convertMessages t (turns.map (turnMessage t))

end Conversion

/-! ## Calls and answers -/

/-- Every call is answered, once and in order, before the next message, and nothing else is. -/
inductive Answered : List WireMessage → Prop
  | nil : Answered []
  | user (content : String) {rest : List WireMessage} (h : Answered rest) :
      Answered (.user content :: rest)
  | assistant (content : Option String) (calls : List WireCall) (answers : List (String × String))
      (hids : answers.map Prod.fst = calls.map WireCall.id) {rest : List WireMessage}
      (h : Answered rest) :
      Answered (.assistant content calls :: (answers.map fun a => .tool a.1 a.2) ++ rest)

def WireMessage.toolCalls : WireMessage → List WireCall
  | .assistant _ calls => calls
  | .user _ | .tool _ _ => []

def WireMessage.answer : WireMessage → List String
  | .tool _ content => [content]
  | .user _ | .assistant _ _ => []

/-- The calls of a response. -/
def callsOf : AgentEvent → List AIToolCall
  | .responded response => response.toolCalls
  | .failed _ | .returned _ _ | .raised _ _ => []

theorem Answered.append {ms ms' : List WireMessage} (h : Answered ms) (h' : Answered ms') :
    Answered (ms ++ ms') := by
  induction h with
  | nil => exact h'
  | user content _ ih => exact .user content ih
  | assistant content calls answers hids _ ih =>
    rw [List.append_assoc]
    exact .assistant content calls answers hids ih

section Requests

variable {World : Type} {t : WireTables} {py : PyTables} {env : AgentEnv World} {user : CurrentUser}

theorem request_append (turns turns' : List Turn) :
    request t (turns ++ turns') = request t turns ++ request t turns' := by
  rw [request, List.map_append, convertMessages, List.flatMap_append]
  rfl

/-- A response with calls and the results of its calls, on the wire. -/
theorem request_round {text : String} {calls : List AIToolCall} {results : List ToolResult}
    (hresults : results ≠ []) :
    request t [.assistant text calls, .toolResults results]
      = .assistant (if text = "" then none else some text) (calls.map (wireCall t))
        :: (results.map fun r => (r.toolUseId, r.content)).map fun a => .tool a.1 a.2 := by
  have htexts : ((if text = "" then [] else [ContentBlock.text text])
      ++ calls.map ContentBlock.toolUse).filterMap ContentBlock.text? = if text = "" then [] else [text] := by
    rw [List.filterMap_append, List.filterMap_map]
    split <;> simp [Function.comp_def, ContentBlock.text?]
  have hcalls : ((if text = "" then [] else [ContentBlock.text text])
      ++ calls.map ContentBlock.toolUse).filterMap (ContentBlock.wireCall? t) = calls.map (wireCall t) := by
    rw [List.filterMap_append, List.filterMap_map]
    split <;> simp [Function.comp_def, ContentBlock.wireCall?]
  have hany : (results.map ContentBlock.toolResult).any ContentBlock.isToolResult = true := by
    obtain ⟨r, rest, rfl⟩ := List.exists_cons_of_ne_nil hresults
    rfl
  have hanswers : (results.map ContentBlock.toolResult).filterMap ContentBlock.answer?
      = (results.map fun r => (r.toolUseId, r.content)).map fun a => .tool a.1 a.2 := by
    rw [List.filterMap_map, List.map_map]
    simp [Function.comp_def, ContentBlock.answer?]
  show [_] ++ (convertMessage t _ ++ []) = _
  rw [convertMessage]
  simp only [turnMessage, htexts, hcalls, hany, if_true, hanswers, List.append_nil]
  split <;> simp [*]

theorem toolUseId_runTool (call : AIToolCall) (world : World) :
    (runTool py env user call world).1.1.toolUseId = call.id := by
  rw [runTool]
  split
  · rfl
  · split
    · rfl
    · split <;> rfl

theorem toolUseIds_foldl (calls : List AIToolCall) :
    ∀ s : LoopState World × List ToolResult,
      (calls.foldl (callTool py env user) s).2.map ToolResult.toolUseId
        = s.2.map ToolResult.toolUseId ++ calls.map AIToolCall.id := by
  induction calls with
  | nil => exact fun s => (List.append_nil _).symm
  | cons call calls ih =>
    intro s
    rw [List.foldl_cons, ih, callTool]
    simp [toolUseId_runTool]

/-- A round that goes on: the calls of a response are echoed, and then their results. -/
theorem next_of_roundTrip {s s' : LoopState World} (h : roundTrip py env user s = .next s') :
    ∃ response results events, s'.messages
        = s.messages ++ [.assistant response.text response.toolCalls, .toolResults results] ∧
      results.map ToolResult.toolUseId = response.toolCalls.map AIToolCall.id ∧
      response.toolCalls ≠ [] ∧ s'.log = s.log ++ .responded response :: events ∧
      ∀ event ∈ events, event.isToolCall = true := by
  unfold roundTrip at h
  split at h
  · cases h
  · next response world hcomplete =>
    dsimp only at h
    split at h
    · cases h
    · next hcalls =>
      split at h
      · cases h
      · have hids := @toolUseIds_foldl World py env user response.toolCalls
          ({ s with
              world := world
              log := s.log ++ [.responded response]
              messages := s.messages ++ [.assistant response.text response.toolCalls] }, [])
        obtain ⟨events, new, _, hresults, hcalled⟩ := foldl_callTool py env user response.toolCalls
          { s with
            world := world
            log := s.log ++ [.responded response]
            messages := s.messages ++ [.assistant response.text response.toolCalls] } []
        generalize hfold : response.toolCalls.foldl (callTool py env user) _ = called
          at h hids hcalled
        cases h
        refine ⟨response, called.2, events, ?_, hids, ?_, ?_, hcalled.tools⟩
        · rw [hcalled.messages, List.append_assoc]
          rfl
        · rintro hnil
          rw [hnil] at hcalls
          exact hcalls (Or.inr rfl)
        · rw [hcalled.log, List.append_assoc]
          rfl

/-- What is sent in a state: nothing is left unanswered, the calls of all responses so far are
echoed in order, and every tool result is there. -/
structure Sent (t : WireTables) (s : LoopState World) : Prop where
  answered : Answered (request t s.messages)
  calls : (request t s.messages).flatMap WireMessage.toolCalls
    = (s.log.flatMap callsOf).map (wireCall t)
  contents : (request t s.messages).flatMap WireMessage.answer = toolResultContents s.messages

theorem Sent.next {s s' : LoopState World} (hs : Sent t s)
    (h : roundTrip py env user s = .next s') : Sent t s' := by
  obtain ⟨response, results, events, hmessages, hids, hcalls, hlog, htools⟩ := next_of_roundTrip h
  have hresults : results ≠ [] := by
    rintro rfl
    exact hcalls (List.map_eq_nil_iff.1 hids.symm)
  have hround := @request_round t response.text response.toolCalls results hresults
  refine ⟨?_, ?_, ?_⟩
  · rw [hmessages, request_append, hround]
    refine hs.answered.append ?_
    have hone := Answered.assistant (if response.text = "" then none else some response.text)
      (response.toolCalls.map (wireCall t)) (results.map fun r => (r.toolUseId, r.content))
      (by rw [List.map_map, List.map_map]; exact hids) Answered.nil
    rwa [List.append_nil] at hone
  · have hevents : events.flatMap callsOf = [] := by
      refine List.flatMap_eq_nil_iff.2 fun event hevent => ?_
      cases event with
      | responded response => cases htools _ hevent
      | failed _ | returned _ _ | raised _ _ => rfl
    rw [hmessages, request_append, hround, List.flatMap_append, hs.calls, hlog,
      List.flatMap_append, List.flatMap_cons, List.flatMap_cons, hevents, List.map_append]
    simp [WireMessage.toolCalls, callsOf]
  · rw [hmessages, request_append, hround, List.flatMap_append, hs.contents,
      toolResultContents_append]
    simp [WireMessage.answer, toolResultContents, Turn.toolResultContents, List.flatMap_map]
    exact List.map_eq_flatMap.symm

/-- The states in which at most `n` rounds ask the provider. -/
def asking (py : PyTables) (env : AgentEnv World) (user : CurrentUser) :
    Nat → LoopState World → List (LoopState World)
  | 0, _ => []
  | n + 1, s => s :: match roundTrip py env user s with
    | .next s' => asking py env user n s'
    | .stop _ => []

theorem asking_sent : ∀ (n : Nat) (s : LoopState World), Sent t s →
    (asking py env user n s).length ≤ n ∧ ∀ s' ∈ asking py env user n s, Sent t s' := by
  intro n
  induction n with
  | zero =>
    intro s _
    exact ⟨le_refl _, fun _ h => (nomatch h)⟩
  | succ n ih =>
    intro s hs
    rw [asking]
    cases hround : roundTrip py env user s with
    | stop r => exact ⟨by simp, by simpa using hs⟩
    | next s' =>
      obtain ⟨hlength, hrest⟩ := ih s' (hs.next hround)
      exact ⟨Nat.succ_le_succ hlength, List.forall_mem_cons.2 ⟨hs, hrest⟩⟩

end Requests
end ProviderMessages
end AeroComply
