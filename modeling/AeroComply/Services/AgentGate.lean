import AeroComply.Services.Agent

/-!
# Agent gate — what gets past the safety layer

The question, the results of tools and the final text are checked.  Two texts are made from them
afterwards: the message of an exception, which is handed to the provider unchecked, and the headline,
which is cut from the first line of the final text after the check.

`gated_iff`: the gate holds in a run if and only if no exception of a tool has a restricted message
and cutting the first line of the last response makes no restricted headline.
-/

namespace AeroComply
namespace AgentService

open Safety (isSafetyRestricted restricted_of_delimited unrestricted_of_printable)

section Texts

variable (py : PyTables)

/-- The text that is handed to the provider for what a tool did. -/
def eventContent : AgentEvent → Option String
  | .responded _ => none
  | .failed _ => none
  | .raised _ error => some ("Tool error: " ++ error)
  | .returned call result => some <|
    match extractGrounding py call.name result with
    | .error error => "Tool error: " ++ error
    | .ok _ =>
      if isSafetyRestricted py.toRegexTables (py.str result) then py.str withheld else py.str result

/-- The message of a failed look-up in a result. -/
def attributeError (value : Json) : String :=
  "'" ++ py.typeName value ++ "' object has no attribute 'get'"

/-- A look-up in a result fails with one message only. -/
def LookupFails {α : Type} (x : Except String α) : Prop :=
  ∀ error, x = .error error → ∃ value, error = attributeError py value

variable {py}

/-! ### Texts of the agent itself -/

/-- The texts that no check sees. -/
def uncheckedTexts : List String :=
  ["\x7b'note': 'Result withheld by safety layer.'\x7d",
    "No answer produced",
    "The agent did not produce a synthesized answer."]
    ++ ["NoneType", "bool", "int", "float", "str", "list", "dict"].map fun name =>
      "Tool error: " ++ ("'" ++ name ++ "' object has no attribute 'get'")

theorem uncheckedTexts_unrestricted {text : String} (h : text ∈ uncheckedTexts) :
    isSafetyRestricted py.toRegexTables text = false := by
  have hall : ∀ text ∈ uncheckedTexts,
      text.toList.all printable = true ∧ isSafetyRestricted .ascii text = false := by
    decide +kernel
  exact unrestricted_of_printable _ (hall text h).1 (hall text h).2

theorem withheld_unrestricted :
    isSafetyRestricted py.toRegexTables (py.str withheld) = false := by
  rw [withheld, py.str_withheld]
  exact uncheckedTexts_unrestricted (by simp [uncheckedTexts])

theorem attributeError_unrestricted (value : Json) :
    isSafetyRestricted py.toRegexTables ("Tool error: " ++ attributeError py value) = false :=
  uncheckedTexts_unrestricted <|
    List.mem_append_right _ (List.mem_map.2 ⟨_, py.typeName_mem value, rfl⟩)

theorem LookupFails.bind {α β : Type} {x : Except String α} {f : α → Except String β}
    (hx : LookupFails py x) (hf : ∀ a, LookupFails py (f a)) :
    LookupFails py (x >>= f) := by
  intro error h
  cases x with
  | error e =>
    cases h
    exact hx _ rfl
  | ok a => exact hf a error h

theorem get_fails (value : Json) (key : String) (default : Json) :
    LookupFails py (get py value key default) := by
  intro error h
  unfold get at h
  split at h
  · cases h
  · cases h
    exact ⟨value, rfl⟩

theorem extractGrounding_fails (toolName : String) (result : Json) :
    LookupFails py (extractGrounding py toolName result) := by
  have hok : ∀ {α : Type} (a : α), LookupFails py (.ok a) := by
    intro α a error h
    cases h
  unfold extractGrounding
  split
  · split
    · repeat refine LookupFails.bind (get_fails _ _ _) fun _ => ?_
      exact hok _
    · split
      · repeat refine LookupFails.bind (get_fails _ _ _) fun _ => ?_
        exact hok _
      · exact hok _
  · exact hok _

/-! ### What the provider is handed -/

theorem returned_unrestricted {call : AIToolCall} {result : Json} {content : String}
    (h : eventContent py (.returned call result) = some content) :
    isSafetyRestricted py.toRegexTables content = false := by
  rw [eventContent, Option.some_inj] at h
  subst h
  split
  · next error hfails =>
    obtain ⟨value, rfl⟩ := extractGrounding_fails call.name result error hfails
    exact attributeError_unrestricted value
  · split
    · exact withheld_unrestricted
    · next h => exact Bool.eq_false_of_not_eq_true h

theorem contents_unrestricted_iff (py : PyTables) (log : List AgentEvent) :
    (∀ content ∈ log.filterMap (eventContent py),
        isSafetyRestricted py.toRegexTables content = false) ↔
      ∀ call error, AgentEvent.raised call error ∈ log →
        isSafetyRestricted py.toRegexTables ("Tool error: " ++ error) = false := by
  constructor
  · intro h call error hraised
    exact h _ (List.mem_filterMap.2 ⟨_, hraised, rfl⟩)
  · intro h content hcontent
    obtain ⟨event, hevent, heq⟩ := List.mem_filterMap.1 hcontent
    cases event with
    | responded response => cases heq
    | failed error => cases heq
    | returned call result => exact returned_unrestricted heq
    | raised call error =>
      cases heq
      exact h call error hevent

/-! ### What the caller gets -/

variable {finalText : String} {line : List Char}

theorem answerLines_delimited (hline : line ∈ answerLines py finalText) :
    Regex.Delimited (fun c => py.word c = false) finalText.toList line :=
  (Safety.delimited_strip finalText.toList).trans (Safety.delimited_splitLines hline)

theorem line_unrestricted (h : isSafetyRestricted py.toRegexTables finalText = false)
    (hline : line ∈ answerLines py finalText) :
    isSafetyRestricted py.toRegexTables (String.ofList line) = false := by
  by_contra hne
  have hrestricted := restricted_of_delimited (answerLines_delimited hline)
    (Bool.eq_true_of_not_eq_false hne)
  rw [String.ofList_toList, h] at hrestricted
  cases hrestricted

theorem firstLine_cases (py : PyTables) (finalText : String) :
    firstLine py finalText ∈ answerLines py finalText ∨ firstLine py finalText = [] := by
  rw [firstLine]
  cases answerLines py finalText with
  | nil => exact Or.inr rfl
  | cons line lines => exact Or.inl List.mem_cons_self

theorem firstLine_length_le (py : PyTables) (finalText : String) :
    (firstLine py finalText).length ≤ finalText.toList.length := by
  rcases firstLine_cases py finalText with hmem | hnil
  · exact (answerLines_delimited hmem).length_le
  · rw [hnil]
    exact Nat.zero_le _

/-- Cutting the first line of a text makes no restricted headline. -/
def CutsSafely (py : PyTables) (finalText : String) : Prop :=
  160 < (firstLine py finalText).length →
    isSafetyRestricted py.toRegexTables (String.ofList ((firstLine py finalText).take 160)) = false

theorem headline_unrestricted_iff (h : isSafetyRestricted py.toRegexTables finalText = false) :
    isSafetyRestricted py.toRegexTables (headline py finalText) = false ↔
      CutsSafely py finalText := by
  rw [headline]
  split
  · next hnil =>
    have hfirst : firstLine py finalText = [] := by
      rw [firstLine, answerLines, hnil]
      rfl
    rw [CutsSafely, hfirst]
    exact iff_of_true (uncheckedTexts_unrestricted (by simp [uncheckedTexts])) fun _ => rfl
  · constructor
    · exact fun hcut _ => hcut
    · intro hcut
      by_cases hlong : 160 < (firstLine py finalText).length
      · exact hcut hlong
      · rw [List.take_of_length_le (Nat.le_of_not_lt hlong)]
        rcases firstLine_cases py finalText with hmem | hnil
        · exact line_unrestricted h hmem
        · rw [hnil]
          rfl

theorem narrative_unrestricted {finalText line : String}
    (h : isSafetyRestricted py.toRegexTables finalText = false)
    (hline : line ∈ narrative py finalText) :
    isSafetyRestricted py.toRegexTables line = false := by
  rw [narrative] at hline
  split at hline
  · rw [List.mem_singleton.1 hline]
    exact uncheckedTexts_unrestricted (by simp [uncheckedTexts])
  · obtain ⟨chars, hchars, rfl⟩ := List.mem_map.1 hline
    exact line_unrestricted h (List.mem_of_mem_filter hchars)

end Texts

section Conversation

variable {World : Type} {py : PyTables} {env : AgentEnv World} {user : CurrentUser}

/-- The contents of the tool results among the messages. -/
def toolResultContents (messages : List Turn) : List String :=
  messages.flatMap Turn.toolResultContents

theorem runTool_event (py : PyTables) (env : AgentEnv World) (user : CurrentUser)
    (call : AIToolCall) (world : World) :
    let ran := runTool py env user call world
    eventContent py ran.2.1 = some ran.1.1.content ∧ ran.2.1.isToolCall = true := by
  intro ran
  simp only [ran, runTool]
  split
  · exact ⟨rfl, rfl⟩
  · split
    · next hfails => simp only [eventContent, hfails, toolError, AgentEvent.isToolCall,
        AgentEvent.isProviderCall, Bool.not_false, and_self]
    · next hok =>
      split
      · next hrestricted => simp only [eventContent, hok, hrestricted, if_true,
          AgentEvent.isToolCall, AgentEvent.isProviderCall, Bool.not_false, and_self]
      · next hrestricted => simp only [eventContent, hok, hrestricted, if_false,
          AgentEvent.isToolCall, AgentEvent.isProviderCall, Bool.not_false, and_self,
          Bool.false_eq_true]

/-- What the calls of one response did. -/
structure Called (py : PyTables) (s s' : LoopState World) (results : List ToolResult)
    (events : List AgentEvent) : Prop where
  messages : s'.messages = s.messages
  log : s'.log = s.log ++ events
  toolCallsMade : s'.toolCallsMade = s.toolCallsMade + events.length
  contents : events.filterMap (eventContent py) = results.map ToolResult.content
  tools : ∀ event ∈ events, event.isToolCall = true

theorem foldl_callTool (py : PyTables) (env : AgentEnv World) (user : CurrentUser)
    (calls : List AIToolCall) : ∀ (s : LoopState World) (results : List ToolResult),
    ∃ events new, events.length = calls.length ∧
      (calls.foldl (callTool py env user) (s, results)).2 = results ++ new ∧
      Called py s (calls.foldl (callTool py env user) (s, results)).1 new events := by
  induction calls with
  | nil =>
    intro s results
    refine ⟨[], [], rfl, (List.append_nil results).symm, rfl, (List.append_nil _).symm, rfl, rfl, ?_⟩
    intro event hevent
    cases hevent
  | cons call calls ih =>
    intro s results
    rw [List.foldl_cons]
    obtain ⟨hcontent, htool⟩ := runTool_event py env user call s.world
    obtain ⟨events, new, hlength, hresults, hcalled⟩ :=
      ih (callTool py env user (s, results) call).1 (callTool py env user (s, results) call).2
    refine ⟨(runTool py env user call s.world).2.1 :: events,
      (runTool py env user call s.world).1.1 :: new, ?_, ?_, ?_⟩
    · rw [List.length_cons, List.length_cons, hlength]
    · rw [hresults]
      simp only [callTool, List.append_assoc, List.singleton_append]
    · refine ⟨hcalled.messages, ?_, ?_, ?_, ?_⟩
      · rw [hcalled.log]
        simp only [callTool, List.append_assoc, List.singleton_append]
      · rw [hcalled.toolCallsMade, List.length_cons]
        simp only [callTool]
        omega
      · rw [List.filterMap_cons_some hcontent, hcalled.contents, List.map_cons]
      · intro event hevent
        rcases List.mem_cons.1 hevent with rfl | hevent
        · exact htool
        · exact hcalled.tools event hevent

/-- The state before a round trip, after `n` of them. -/
structure Conversed (py : PyTables) (n : Nat) (s : LoopState World) : Prop where
  contents : toolResultContents s.messages = s.log.filterMap (eventContent py)
  providerCalls : s.log.countP AgentEvent.isProviderCall = n
  toolCalls : s.log.countP AgentEvent.isToolCall = s.toolCallsMade
  bounded : s.toolCallsMade ≤ maxToolRoundTrips
  last : ∀ response, s.log.getLast? ≠ some (.responded response)

/-- How the loop ends: with the text of the last response, or without one. -/
inductive EndsWith (log : List AgentEvent) : Except String String → Prop
  | responded {response : AIProviderResponse} {text : String}
      (last : log.getLast? = some (.responded response))
      (text_eq : text = response.text ∨ response.text = "" ∧ text = unableText) :
      EndsWith log (.ok text)
  | failed {error : String} (last : ∀ response, log.getLast? ≠ some (.responded response)) :
      EndsWith log (.error error)
  | limit (last : ∀ response, log.getLast? ≠ some (.responded response)) :
      EndsWith log (.ok limitText)

structure Concluded (py : PyTables) (r : Except String String × LoopState World) : Prop where
  contents : toolResultContents r.2.messages = r.2.log.filterMap (eventContent py)
  providerCalls : r.2.log.countP AgentEvent.isProviderCall ≤ maxToolRoundTrips
  toolCalls : r.2.log.countP AgentEvent.isToolCall ≤ maxToolRoundTrips
  ends : EndsWith r.2.log r.1

theorem toolResultContents_append (messages new : List Turn) :
    toolResultContents (messages ++ new)
      = toolResultContents messages ++ toolResultContents new := List.flatMap_append

variable {s : LoopState World} {n : Nat}

theorem roundTrip_next {s s' : LoopState World} (hs : Conversed py n s)
    (h : roundTrip py env user s = .next s') : Conversed py (n + 1) s' := by
  unfold roundTrip at h
  split at h
  · cases h
  · next response world hcomplete =>
    dsimp only at h
    split at h
    · cases h
    · next hcalls =>
      split at h
      · cases h
      · next hbound =>
        obtain ⟨events, new, hlength, hresults, hcalled⟩ := foldl_callTool py env user response.toolCalls
          { s with
            world := world
            log := s.log ++ [.responded response]
            messages := s.messages ++ [.assistant response.text response.toolCalls] } []
        generalize hfold : response.toolCalls.foldl (callTool py env user) _ = called
          at h hresults hcalled
        cases h
        have hpos : 0 < events.length := by
          rw [hlength, List.length_pos_iff]
          intro hnil
          rw [hnil] at hcalls
          exact hcalls (Or.inr rfl)
        have htools : events.countP AgentEvent.isToolCall = events.length :=
          List.countP_eq_length.2 hcalled.tools
        have hprovider : events.countP AgentEvent.isProviderCall = 0 := by
          refine List.countP_eq_zero.2 fun e he hcall => ?_
          have htool := hcalled.tools e he
          rw [AgentEvent.isToolCall, hcall] at htool
          cases htool
        refine ⟨?_, ?_, ?_, ?_, ?_⟩
        · rw [hcalled.messages, hcalled.log, hresults, toolResultContents_append,
            toolResultContents_append, List.filterMap_append, List.filterMap_append,
            hcalled.contents, hs.contents]
          simp [toolResultContents, Turn.toolResultContents, eventContent]
        · rw [hcalled.log, List.countP_append, List.countP_append, hprovider, hs.providerCalls]
          rfl
        · rw [hcalled.log, hcalled.toolCallsMade, List.countP_append, List.countP_append, htools,
            hs.toolCalls]
          rfl
        · rw [hcalled.toolCallsMade, hlength]
          exact Nat.le_of_not_lt hbound
        · intro r hlast
          rw [hcalled.log] at hlast
          have hne : events ≠ [] := List.length_pos_iff.1 hpos
          rw [List.getLast?_append_of_ne_nil _ hne] at hlast
          cases hcalled.tools _ (List.mem_of_getLast? hlast)

theorem roundTrip_stop {r : Except String String × LoopState World} (hn : n < maxToolRoundTrips)
    (hs : Conversed py n s) (h : roundTrip py env user s = .stop r) : Concluded py r := by
  have hnew : ∀ event : AgentEvent, event.isProviderCall = true → eventContent py event = none →
      toolResultContents s.messages = (s.log ++ [event]).filterMap (eventContent py) ∧
        (s.log ++ [event]).countP AgentEvent.isProviderCall ≤ maxToolRoundTrips ∧
        (s.log ++ [event]).countP AgentEvent.isToolCall ≤ maxToolRoundTrips := by
    intro event hprovider hcontent
    have htool : event.isToolCall = false := by
      rw [AgentEvent.isToolCall, hprovider]
      rfl
    refine ⟨?_, ?_, ?_⟩
    · rw [List.filterMap_append, List.filterMap_cons_none hcontent, List.filterMap_nil,
        List.append_nil]
      exact hs.contents
    · rw [List.countP_append, hs.providerCalls, List.countP_cons_of_pos hprovider]
      exact hn
    · rw [List.countP_append, hs.toolCalls, List.countP_cons_of_neg (by rw [htool]; simp)]
      exact hs.bounded
  unfold roundTrip at h
  split at h
  · next error world hcomplete =>
    cases h
    obtain ⟨hcontents, hprovider, htool⟩ := hnew (.failed error) rfl rfl
    refine ⟨hcontents, hprovider, htool, .failed fun response hlast => ?_⟩
    rw [List.getLast?_append_of_ne_nil _ (List.cons_ne_nil _ [])] at hlast
    cases hlast
  · next response world hcomplete =>
    obtain ⟨hcontents, hprovider, htool⟩ := hnew (.responded response) rfl rfl
    have hlast : (s.log ++ [AgentEvent.responded response]).getLast?
        = some (.responded response) := by
      rw [List.getLast?_append_of_ne_nil _ (List.cons_ne_nil _ [])]
      rfl
    dsimp only at h
    split at h
    · cases h
      exact ⟨hcontents, hprovider, htool, .responded hlast (Or.inl rfl)⟩
    · split at h
      · cases h
        refine ⟨hcontents, hprovider, htool, .responded hlast ?_⟩
        split
        · next hempty => exact Or.inr ⟨hempty, rfl⟩
        · exact Or.inl rfl
      · cases h

theorem converse_concluded (hs : Conversed py 0 s) :
    Concluded py (converse py env user s) := by
  have hnext : ∀ i s s', i < maxToolRoundTrips → Conversed py i s →
      roundTrip py env user s = .next s' → Conversed py (i + 1) s' :=
    fun _ _ _ _ hs h => roundTrip_next hs h
  rw [converse]
  cases hloop : Rounds.forElse (roundTrip py env user) maxToolRoundTrips s with
  | next s' =>
    have hs' := Rounds.forElse_next hnext hs hloop
    refine ⟨hs'.contents, Nat.le_of_eq hs'.providerCalls, ?_, .limit hs'.last⟩
    rw [hs'.toolCalls]
    exact hs'.bounded
  | stop r => exact Rounds.forElse_stop hnext (fun _ _ _ hi hs h => roundTrip_stop hi hs h) hs hloop

theorem initialState_conversed (question : String) (history : List String)
    (currentEntity resolvedLine : Option String) (world : World) :
    Conversed py 0 (initialState py user question history currentEntity resolvedLine world) :=
  ⟨rfl, rfl, rfl, Nat.zero_le _, fun response h => by cases h⟩

/-- **THE SAFETY GATE** of a run: a restricted question reaches neither the provider nor a tool, no
restricted tool result is handed to the provider, the calls are bounded, and the answer is the
refusal or unrestricted throughout. -/
structure Gated (py : PyTables) (newId question : String) (world : World)
    (run : Except String LisaAskResponse × LoopState World) : Prop where
  asked : isSafetyRestricted py.toRegexTables question = true →
    run.2.world = world ∧ run.2.log = []
  handed : ∀ content ∈ toolResultContents run.2.messages,
    isSafetyRestricted py.toRegexTables content = false
  providerCalls : run.2.log.countP AgentEvent.isProviderCall ≤ maxToolRoundTrips
  toolCalls : run.2.log.countP AgentEvent.isToolCall ≤ maxToolRoundTrips
  answered : ∀ response, run.1 = .ok response →
    response = Safety.safetyRefusalResponse newId question ∨
      isSafetyRestricted py.toRegexTables response.headline = false ∧
        ∀ line ∈ response.narrative, isSafetyRestricted py.toRegexTables line = false

/-- What the provider and the tools did leaves the agent's own texts unrestricted: the message of
each exception of a tool, and the headline that is cut from the response the run ends with. -/
structure Unremarkable (py : PyTables) (log : List AgentEvent) : Prop where
  raised : ∀ call error, AgentEvent.raised call error ∈ log →
    isSafetyRestricted py.toRegexTables ("Tool error: " ++ error) = false
  cut : ∀ response, log.getLast? = some (.responded response) →
    isSafetyRestricted py.toRegexTables response.text = false → CutsSafely py response.text

theorem cutsSafely_of_short {finalText : String} (h : finalText.toList.length ≤ 160) :
    CutsSafely py finalText := by
  intro hlong
  have := firstLine_length_le py finalText
  omega

/-- The answer is safe if and only if cutting the last response is. -/
theorem synthesize_safe_iff {newId question text : String} (hends : EndsWith s.log (.ok text)) :
    (synthesize py newId question text s = Safety.safetyRefusalResponse newId question ∨
      isSafetyRestricted py.toRegexTables (synthesize py newId question text s).headline = false ∧
        ∀ line ∈ (synthesize py newId question text s).narrative,
          isSafetyRestricted py.toRegexTables line = false) ↔
      ∀ response, s.log.getLast? = some (.responded response) →
        isSafetyRestricted py.toRegexTables response.text = false → CutsSafely py response.text := by
  have hshort : ∀ text : String, text = unableText ∨ text = limitText → CutsSafely py text := by
    rintro text (rfl | rfl)
    · exact cutsSafely_of_short (by decide)
    · exact cutsSafely_of_short (by decide)
  have hcut : (isSafetyRestricted py.toRegexTables text = false → CutsSafely py text) ↔
      ∀ response, s.log.getLast? = some (.responded response) →
        isSafetyRestricted py.toRegexTables response.text = false →
          CutsSafely py response.text := by
    cases hends with
    | limit hlast =>
      exact iff_of_true (fun _ => hshort _ (Or.inr rfl)) fun response h => absurd h (hlast response)
    | @responded response text hlast htext =>
      constructor
      · intro h response' hlast'
        rw [hlast] at hlast'
        cases hlast'
        rcases htext with rfl | ⟨hempty, -⟩
        · exact h
        · intro _
          rw [hempty]
          exact cutsSafely_of_short (Nat.zero_le _)
      · intro h
        rcases htext with rfl | ⟨-, rfl⟩
        · exact h response hlast
        · exact fun _ => hshort _ (Or.inl rfl)
  rw [← hcut, synthesize]
  split
  · next hrestricted =>
    refine iff_of_true (Or.inl rfl) fun h => ?_
    rw [hrestricted] at h
    cases h
  · next hrestricted =>
    have hfree := Bool.eq_false_of_not_eq_true hrestricted
    constructor
    · rintro (hrefusal | ⟨hheadline, -⟩) _
      · -- a refusal is critical, and an answer of the agent has no priority
        cases congrArg LisaAskResponse.priority hrefusal
      · exact (headline_unrestricted_iff hfree).1 hheadline
    · intro hsafe
      exact Or.inr ⟨(headline_unrestricted_iff hfree).2 (hsafe hfree),
        fun line hline => narrative_unrestricted hfree hline⟩

theorem concluded_gated_iff {newId question : String} {world : World}
    (hquestion : isSafetyRestricted py.toRegexTables question = false)
    {ended : Except String String × LoopState World} (h : Concluded py ended) :
    Gated py newId question world
        (ended.1.map fun text => synthesize py newId question text ended.2, ended.2) ↔
      Unremarkable py ended.2.log := by
  have hhanded := contents_unrestricted_iff py ended.2.log
  rw [← h.contents] at hhanded
  obtain ⟨result, s⟩ := ended
  constructor
  · intro hgated
    refine ⟨hhanded.1 hgated.handed, ?_⟩
    cases result with
    | error error =>
      intro response hlast
      cases h.ends with
      | failed hnone => exact absurd hlast (hnone response)
    | ok text => exact (synthesize_safe_iff h.ends).1 (hgated.answered _ rfl)
  · intro hlog
    refine ⟨fun hrestricted => ?_, hhanded.2 hlog.raised, h.providerCalls, h.toolCalls, ?_⟩
    · rw [hquestion] at hrestricted
      cases hrestricted
    · cases result with
      | error error =>
        intro response heq
        cases heq
      | ok text =>
        intro response heq
        cases heq
        exact (synthesize_safe_iff h.ends).2 hlog.cut

/-- **WHEN THE GATE HOLDS**: in every run that is refused or reaches the provider loop, exactly when
what the provider and the tools did is unremarkable. -/
theorem gated_iff (newId question : String) (history : List String) (currentEntity : Option String)
    (world : World)
    (hloop : isSafetyRestricted py.toRegexTables question = true ∨
      ∃ resolvedLine world', env.prepare user question world
        = (.ok (.unanswered resolvedLine), world')) :
    Gated py newId question world
        (askLisa py env user newId question history currentEntity world) ↔
      Unremarkable py (askLisa py env user newId question history currentEntity world).2.log := by
  rw [askLisa]
  split
  · next hrestricted =>
    refine iff_of_true ⟨fun _ => ⟨rfl, rfl⟩, fun content h => ?_, Nat.zero_le _, Nat.zero_le _, ?_⟩
      ⟨fun call error h => ?_, fun response h => ?_⟩
    · cases h
    · intro response heq
      cases heq
      exact Or.inl rfl
    · cases h
    · cases h
  · next hrestricted =>
    obtain ⟨resolvedLine, world', hprepare⟩ := hloop.resolve_left hrestricted
    rw [hprepare]
    exact concluded_gated_iff (Bool.eq_false_of_not_eq_true hrestricted)
      (converse_concluded (initialState_conversed _ _ _ _ _))

end Conversation

section Examples

/-- No exception, and no long response. -/
def AgentEvent.isPlain : AgentEvent → Bool
  | .responded response => decide (response.text.toList.length ≤ 160)
  | .failed _ => true
  | .returned _ _ => true
  | .raised _ _ => false

theorem unremarkable_of_plain {py : PyTables} {log : List AgentEvent}
    (h : log.all AgentEvent.isPlain = true) : Unremarkable py log := by
  refine ⟨fun call error hraised => ?_, fun response hlast _ => ?_⟩
  · cases List.all_eq_true.1 h _ hraised
  · exact cutsSafely_of_short (of_decide_eq_true (List.all_eq_true.1 h _ (List.mem_of_getLast? hlast)))

/-- `str` of a dictionary of texts. -/
def exampleStr : Json → String
  | .obj fields => "\x7b" ++ ", ".intercalate (fields.map fun field =>
      pyRepr field.1 ++ ": " ++ match field.2 with
        | .str s => pyRepr s
        | _ => "None") ++ "\x7d"
  | _ => "None"

def exampleTypeName : Json → String
  | .null => "NoneType"
  | .bool _ => "bool"
  | .num _ => "int"
  | .str _ => "str"
  | .arr _ => "list"
  | .obj _ => "dict"

theorem exampleTypeName_mem (value : Json) :
    exampleTypeName value ∈ ["NoneType", "bool", "int", "float", "str", "list", "dict"] := by
  cases value <;> simp [exampleTypeName]

def exampleTables : PyTables where
  toRegexTables := .ascii
  str := exampleStr
  uuid _ := "00000000-0000-0000-0000-000000000001"
  typeName := exampleTypeName
  str_withheld := by decide
  typeName_mem := exampleTypeName_mem

def exampleUser : CurrentUser where
  id := 1
  organizationId := 1
  email := "engineer@example.com"
  fullName := "Engineer"
  roles := ["VIEWER"]
  emailVerified := true
  pendingEmail := none

/-- The provider asks for the tool once, and then answers; the world counts its responses. -/
def exampleEnv (toolName : String) : AgentEnv Nat where
  prepare _ _ world := (.ok (.unanswered none), world)
  complete _ world :=
    if world = 0 then
      (.ok { stopReason := "tool_use", toolCalls := [⟨"call_1", toolName, []⟩] }, 1)
    else (.ok { stopReason := "end_turn", text := "WO-1042 is in progress." }, world + 1)
  handler _ _ _ world := (.ok (.obj [("status", .str "IN_PROGRESS")]), world)

def exampleRun (toolName : String) : Except String LisaAskResponse × LoopState Nat :=
  askLisa exampleTables (exampleEnv toolName) exampleUser "lisa-1" "What is the status of WO-1042?" []
    none 0

/-- A registered tool is asked for its result. -/
theorem known_tool_gated :
    Gated exampleTables "lisa-1" "What is the status of WO-1042?" 0 (exampleRun "get_work_order") :=
  (gated_iff "lisa-1" "What is the status of WO-1042?" [] none 0 (Or.inr ⟨none, 0, rfl⟩)).2
    (unremarkable_of_plain (by decide +kernel))

/-- The provider asks for a tool that there is not: the name comes back in a restricted message. -/
theorem unknown_tool_not_gated :
    isSafetyRestricted exampleTables.toRegexTables "What is the status of WO-1042?" = false ∧
      ¬ Gated exampleTables "lisa-1" "What is the status of WO-1042?" 0 (exampleRun "crs") := by
  refine ⟨by decide, fun hgated => ?_⟩
  have hhanded : "Tool error: Unknown tool: crs"
      ∈ toolResultContents (exampleRun "crs").2.messages := by decide +kernel
  have hrestricted : isSafetyRestricted exampleTables.toRegexTables "Tool error: Unknown tool: crs"
      = true := by decide
  rw [hgated.handed _ hhanded] at hrestricted
  cases hrestricted

end Examples
end AgentService
end AeroComply
