import Mujian.Foundations.Text
import Mujian.Streams.ConvertedBlocks

/-!
# Responses streams for Claude clients

`oaiResponsesToChatStreamHandler` turns the events of a Responses stream into chat completion chunks
and hands each of them to `handleStreamFormat`, which converts it to Claude events. The last chunk
has the finish reason and no usage, but the conversion ends a message on a finish reason only if the
chunk itself has usage. So **no message ends**
(`oaiResponsesToChatStreamHandler_not_endsProperly`).
-/

namespace Mujian.Streams

open Pricing

/-! ## Events -/

inductive ResponsesEventType
  | created | reasoningSummaryTextDelta | reasoningSummaryTextDone | outputTextDelta
  | outputItemAdded | outputItemDone | functionCallArgumentsDelta | functionCallArgumentsDone
  | completed | error | failed
  | other (name : String)

structure ResponsesOutput where
  (type id callId name arguments : String := "")

/-- The usage of a response, as far as the handler's own usage takes it over. -/
structure ResponsesUsage where
  (inputTokens outputTokens totalTokens : ℤ := 0)
  inputTokensDetails : Option InputTokenDetails := none

structure OpenAIResponsesResponse where
  model : String := ""
  createdAt : ℤ := 0
  usage : Option ResponsesUsage := none
  error : Option String := none

structure ResponsesStreamResponse where
  type : ResponsesEventType
  response : Option OpenAIResponsesResponse := none
  delta : String := ""
  item : Option ResponsesOutput := none
  itemID : String := ""

/-! ## State -/

/-- Why a stream failed: with an error of the upstream, by its type, or with a text. -/
inductive ResponsesError
  | openAI (type : String)
  | text (message : String)

/-- What the handler takes from the relay. -/
structure ResponsesRelay where
  responseId : String := ""
  createAt : ℤ := 0
  upstreamModelName : String := ""
  estimatePromptTokens : ℤ := 0
  /-- `ResponseText2Usage`, by the text. -/
  responseText2Usage : String → Usage := fun _ => {}

structure ResponsesState where
  relayed : Relayed
  createAt : ℤ
  model : String
  usage : Usage := {}
  totalTokens : ℤ := 0
  (outputText usageText : String := "")
  (sentStart sentStop sawToolCall : Bool := false)
  streamErr : Option ResponsesError := none
  toolCallIndexByID : List (String × ℤ) := []
  (toolCallNameByID toolCallArgsByID : List (String × String) := [])
  toolCallNameSent : List String := []
  toolCallCanonicalIDByItemID : List (String × String) := []
  (hasSentReasoningSummary needsReasoningSummarySeparator : Bool := false)

/-- An entry of a map of texts; an absent one is empty. -/
def textAt (entries : List (String × String)) (key : String) : String :=
  (entries.lookup key).getD ""

def setEntry {α : Type} (entries : List (String × α)) (key : String) (value : α) :
    List (String × α) :=
  (key, value) :: entries.filter (·.1 ≠ key)

/-! ## Chunks -/

def generateStartEmptyResponse (id : String) (createAt : ℤ) (model : String) :
    ChatCompletionsStreamResponse :=
  { id := id, created := createAt, model := model
    choices := [{ delta := { role := "assistant", content := some "" } }] }

def generateStopResponse (id : String) (createAt : ℤ) (model finishReason : String) :
    ChatCompletionsStreamResponse :=
  { id := id, created := createAt, model := model
    choices := [{ finishReason := some finishReason }] }

namespace ResponsesState

section

variable (relay : ResponsesRelay) (state : ResponsesState) (delta : String)
  (response : OpenAIResponsesResponse)

/-- `sendChatChunk` for a Claude client, which does not fail. -/
def sendChatChunk (chunk : ChatCompletionsStreamResponse) : ResponsesState :=
  { state with relayed := state.relayed.handleStreamFormat (some chunk) }

def sendDelta (delta : ChoiceDelta) : ResponsesState := state.sendChatChunk
    { id := relay.responseId, created := state.createAt, model := state.model
      choices := [{ delta := delta }] }

def sendStartIfNeeded : ResponsesState :=
  if state.sentStart then state
  else
    { state.sendChatChunk
        (generateStartEmptyResponse relay.responseId state.createAt state.model) with
      sentStart := true }

/-- A summary of reasoning that follows another one is set apart by an empty line. -/
def separated : String :=
  if !state.needsReasoningSummarySeparator then delta
  else if "\n\n".toList.isPrefixOf delta.toList then delta
  else if "\n".toList.isPrefixOf delta.toList then "\n" ++ delta
  else "\n\n" ++ delta

def sendReasoningSummaryDelta : ResponsesState :=
  if delta = "" then state
  else
    let text := state.separated delta
    let started := sendStartIfNeeded relay { state with needsReasoningSummarySeparator := false }
    { sendDelta relay { started with usageText := started.usageText ++ text }
        { reasoningContent := some text } with
      hasSentReasoningSummary := true }

def sendToolCallDelta (callID name argsDelta : String) : ResponsesState :=
  if callID = "" then state
  -- text is preferred to tool calls
  else if state.outputText ≠ "" then state
  else
    let started := sendStartIfNeeded relay state
    let index := (started.toolCallIndexByID.lookup callID).getD started.toolCallIndexByID.length
    let names :=
      if name ≠ "" then setEntry started.toolCallNameByID callID name
      else started.toolCallNameByID
    let known := if textAt names callID ≠ "" then textAt names callID else name
    let sendsName := known ≠ "" ∧ callID ∉ started.toolCallNameSent
    let toolName := if sendsName then known else ""
    { sendDelta relay started
        { toolCalls :=
          [{ index := some index, id := callID, name := toolName, arguments := argsDelta }] } with
      toolCallIndexByID := setEntry started.toolCallIndexByID callID index
      toolCallNameByID := names
      toolCallNameSent :=
        if sendsName then callID :: started.toolCallNameSent else started.toolCallNameSent
      sawToolCall := true, usageText := started.usageText ++ toolName ++ argsDelta }

/-! ## Handlers of events -/

/-- The model and the time of a response replace those so far. -/
def takeResponse : ResponsesState :=
  { state with
    model := if response.model ≠ "" then response.model else state.model
    createAt := if response.createdAt ≠ 0 then response.createdAt else state.createAt }

def takeUsage (reported : ResponsesUsage) : ResponsesState :=
  let promptTokens :=
    if reported.inputTokens ≠ 0 then reported.inputTokens else state.usage.promptTokens
  let completionTokens :=
    if reported.outputTokens ≠ 0 then reported.outputTokens else state.usage.completionTokens
  { state with
    usage :=
      { state.usage with
        promptTokens := promptTokens, completionTokens := completionTokens
        promptTokensDetails :=
          match reported.inputTokensDetails with
          | none => state.usage.promptTokensDetails
          | some details =>
            { state.usage.promptTokensDetails with
              cachedTokens := details.cachedTokens, imageTokens := details.imageTokens
              audioTokens := details.audioTokens } }
    totalTokens :=
      if reported.totalTokens ≠ 0 then reported.totalTokens else promptTokens + completionTokens }

def handleOutputText : ResponsesState :=
  let started := sendStartIfNeeded relay state
  if delta = "" then started
  else
    sendDelta relay
      { started with
        outputText := started.outputText ++ delta, usageText := started.usageText ++ delta }
      { content := some delta }

def handleOutputItem (item : ResponsesOutput) : ResponsesState :=
  if item.type ≠ "function_call" then state
  else
    let itemID := trimSpace item.id
    let callID := if trimSpace item.callId = "" then itemID else trimSpace item.callId
    let name := trimSpace item.name
    let prevArgs := textAt state.toolCallArgsByID callID
    let argsDelta :=
      if prevArgs.toList.isPrefixOf item.arguments.toList then
        String.ofList (item.arguments.toList.drop prevArgs.toList.length)
      else item.arguments
    sendToolCallDelta relay
      { state with
        toolCallCanonicalIDByItemID :=
          if itemID ≠ "" ∧ callID ≠ "" then setEntry state.toolCallCanonicalIDByItemID itemID callID
          else state.toolCallCanonicalIDByItemID
        toolCallNameByID :=
          if name ≠ "" then setEntry state.toolCallNameByID callID name
          else state.toolCallNameByID
        toolCallArgsByID :=
          if item.arguments ≠ "" then setEntry state.toolCallArgsByID callID item.arguments
          else state.toolCallArgsByID }
      callID name (if item.arguments ≠ "" then argsDelta else "")

/-- The id of the call that an item belongs to, else of the item itself. -/
def canonicalCallID (itemID : String) : String :=
  let canonical := textAt state.toolCallCanonicalIDByItemID (trimSpace itemID)
  if canonical = "" then trimSpace itemID else canonical

def handleArgumentsDelta (itemID delta : String) : ResponsesState :=
  if state.canonicalCallID itemID = "" then state
  else
    let callID := state.canonicalCallID itemID
    sendToolCallDelta relay
      { state with
        toolCallArgsByID :=
          setEntry state.toolCallArgsByID callID (textAt state.toolCallArgsByID callID ++ delta) }
      callID "" delta

/-- The chunk with the finish reason, with the usage put into the state of the conversion. -/
def sendStop : ResponsesState :=
  { state with relayed := state.relayed.setUsage state.usage }.sendChatChunk
    (generateStopResponse relay.responseId state.createAt state.model
      (if state.sawToolCall ∧ state.outputText = "" then "tool_calls" else "stop"))

def takeCompleted : ResponsesState :=
  match response.usage with
  | none => state.takeResponse response
  | some usage => (state.takeResponse response).takeUsage usage

def handleCompleted (response : Option OpenAIResponsesResponse) : ResponsesState :=
  let started := sendStartIfNeeded relay ((response.map state.takeCompleted).getD state)
  if started.sentStop then started else { sendStop relay started with sentStop := true }

def handleFailure (name : String) (response : Option OpenAIResponsesResponse) : ResponsesState :=
  match (response.bind (·.error)).filter (· ≠ "") with
  | some type => { state with streamErr := some (.openAI type) }
  | none => { state with streamErr := some (.text ("responses stream error: " ++ name)) }

def handleEvent (event : ResponsesStreamResponse) : ResponsesState :=
  match event.type with
  | .created => (event.response.map state.takeResponse).getD state
  | .reasoningSummaryTextDelta => sendReasoningSummaryDelta relay state event.delta
  | .reasoningSummaryTextDone =>
    if state.hasSentReasoningSummary then { state with needsReasoningSummarySeparator := true }
    else state
  | .outputTextDelta => handleOutputText relay state event.delta
  | .outputItemAdded | .outputItemDone => (event.item.map (handleOutputItem relay state)).getD state
  | .functionCallArgumentsDelta => handleArgumentsDelta relay state event.itemID event.delta
  | .completed => handleCompleted relay state event.response
  | .error => handleFailure state "response.error" event.response
  | .failed => handleFailure state "response.failed" event.response
  | .functionCallArgumentsDone | .other _ => state

/-- The data of the stream. After an error nothing is read, and what does not decode is skipped. -/
def handle (data : Option ResponsesStreamResponse) : ResponsesState :=
  if state.streamErr.isSome then state else (data.map (handleEvent relay state)).getD state

def estimateUsage : ResponsesState :=
  if state.totalTokens = 0 then { state with usage := relay.responseText2Usage state.usageText }
  else state

/-- What is sent when the stream is over. -/
def finish : ResponsesState :=
  let started := sendStartIfNeeded relay (estimateUsage relay state)
  if started.sentStop then started else sendStop relay started

end

end ResponsesState

def ResponsesRelay.start (relay : ResponsesRelay) : ResponsesState where
  relayed := ⟨{ estimatePromptTokens := relay.estimatePromptTokens }, []⟩
  createAt := relay.createAt
  model := relay.upstreamModelName

/-- `OaiResponsesToChatStreamHandler` for a Claude client: the usage or the error that it returns,
and the events that it sends. -/
def oaiResponsesToChatStreamHandler (relay : ResponsesRelay)
    (events : List (Option ResponsesStreamResponse)) :
    Except ResponsesError Usage × List ClaudeResponse :=
  let state := events.foldl (ResponsesState.handle relay) relay.start
  match state.streamErr with
  | some err => (.error err, state.relayed.sent)
  | none => (.ok (state.finish relay).usage, (state.finish relay).relayed.sent)

/-! ## Chunks that end nothing -/

def Unended (events : List ClaudeResponse) : Prop := ∀ event ∈ events, event.type ≠ .messageStop

theorem Unended.nil : Unended [] := fun _ hmem => absurd hmem List.not_mem_nil

theorem Unended.append {events more : List ClaudeResponse} (h : Unended events)
    (hmore : Unended more) : Unended (events ++ more) := by
  intro event hmem
  rcases List.mem_append.1 hmem with hmem | hmem
  · exact h event hmem
  · exact hmore event hmem

section

variable (claude : ClaudeConvertInfo)

theorem unended_stopOpenBlocks : Unended claude.stopOpenBlocks := by
  intro event hmem
  cases htype : claude.lastMessagesType with
  | none => simp [ClaudeConvertInfo.stopOpenBlocks, htype] at hmem
  | text | thinking =>
    obtain rfl : event = generateStopBlock claude.index := by
      simpa [ClaudeConvertInfo.stopOpenBlocks, htype] using hmem
    simp [generateStopBlock]
  | tools =>
    simp only [ClaudeConvertInfo.stopOpenBlocks, htype, List.mem_map] at hmem
    obtain ⟨offset, -, rfl⟩ := hmem
    simp [generateStopBlock]

theorem unended_switchTo (type : LastMessagesType) : Unended (claude.switchTo type).1 := by
  rw [ClaudeConvertInfo.switchTo]
  split
  · exact Unended.nil
  · exact unended_stopOpenBlocks claude

theorem unended_toolCallEvents (base : ℤ) (call : ToolCallResponse × ℕ) :
    Unended (toolCallEvents base call) := by
  refine Unended.append ?_ ?_ <;> split <;> simp [Unended, blockStart, contentDelta]

/-- What a delta brings does not end the message. -/
theorem unended_convertDelta (delta : ChoiceDelta) : Unended (convertDelta claude delta).1 := by
  have hblock : ∀ type block content, Unended (convertBlock claude type block content).1 := by
    intro type block content
    refine ((unended_switchTo claude type).append ?_).append ?_
    · split <;> simp [Unended, blockStart]
    · simp [Unended, contentDelta]
  rw [convertDelta]
  split
  · refine (unended_switchTo claude .tools).append fun event hmem => ?_
    obtain ⟨call, -, hcall⟩ := List.mem_flatMap.1 hmem
    exact unended_toolCallEvents _ call event hcall
  · split
    · exact hblock _ _ _
    · split
      · exact hblock _ _ _
      · exact Unended.nil

end

variable {chunk : ChatCompletionsStreamResponse}

/-- A first chunk without a finish reason does not end the message. -/
theorem unended_convertFirst {info : ConvertInfo}
    (h : chunk.choices.head?.bind StreamChoice.finished = none) :
    Unended (convertFirst info chunk).1 ∧
      (convertFirst info chunk).2.sendResponseCount = info.sendResponseCount := by
  have htools : Unended (convertFirstToolCall info chunk).1 ∧
      (convertFirstToolCall info chunk).2.sendResponseCount = info.sendResponseCount := by
    rw [convertFirstToolCall]
    split
    · exact ⟨Unended.nil, rfl⟩
    · refine ⟨?_, rfl⟩
      split <;> simp [Unended, blockStart, contentDelta]
  have hcontent : ∀ info, Unended (convertFirstContent info chunk).1 ∧
      (convertFirstContent info chunk).2.sendResponseCount = info.sendResponseCount := by
    intro info
    have hblock : ∀ type block delta, Unended (convertFirstBlock info type block delta).1 := by
      intro type block delta
      refine (unended_switchTo info.claude type).append ?_
      simp [Unended, blockStart, contentDelta]
    rw [convertFirstContent]
    split
    · exact ⟨Unended.nil, rfl⟩
    · split
      · exact ⟨hblock _ _ _, rfl⟩
      · split
        · exact ⟨hblock _ _ _, rfl⟩
        · exact ⟨Unended.nil, rfl⟩
  have hstart : Unended [messageStartEvent info chunk] := by simp [Unended, messageStartEvent]
  obtain ⟨hcontents, hcount⟩ := hcontent (convertFirstToolCall info chunk).2
  simp only [convertFirst, convertFirstFinish, h, List.append_nil]
  exact ⟨hstart.append (htools.1.append hcontents), hcount.trans htools.2⟩

/-- A chunk with a choice and without usage, and with a finish reason only after the first one. -/
structure ChatCompletionsStreamResponse.Open (chunk : ChatCompletionsStreamResponse) (count : ℕ) :
    Prop where
  choice : ∃ choice, chunk.choices = [choice] ∧ (choice.finished = none ∨ 1 ≤ count)
  usage : chunk.usage = none

/-- **An open chunk does not end the message.** -/
theorem Relayed.unended_handle {relayed : Relayed}
    (h : Unended relayed.sent) (hopen : chunk.Open relayed.info.sendResponseCount) :
    Unended (relayed.handleStreamFormat (some chunk)).sent ∧
      (relayed.handleStreamFormat (some chunk)).info.sendResponseCount =
        relayed.info.sendResponseCount + 1 := by
  obtain ⟨⟨choice, hchoices, hfinish⟩, husage⟩ := hopen
  have hevents : Unended (streamResponseOpenAI2Claude relayed.count.info chunk).1 ∧
      (streamResponseOpenAI2Claude relayed.count.info chunk).2.sendResponseCount =
        relayed.info.sendResponseCount + 1 := by
    rw [streamResponseOpenAI2Claude]
    split
    · exact ⟨Unended.nil, rfl⟩
    · split
      · next hfirst =>
        -- the first chunk, before which none was counted
        have hzero : relayed.info.sendResponseCount = 0 := Nat.succ.inj hfirst
        have hnone : choice.finished = none := by
          rcases hfinish with hnone | hpast
          · exact hnone
          · omega
        exact unended_convertFirst (by rw [hchoices]; exact hnone)
      · rw [hchoices]
        rw [husage]
        cases hfinished : choice.finished with
        | some reason =>
          simp only [convertChoice, hfinished]
          exact ⟨Unended.nil, rfl⟩
        | none =>
          simp only [convertChoice, hfinished]
          exact ⟨unended_convertDelta _ _, rfl⟩
  simp only [handleStreamFormat, husage]
  exact ⟨h.append hevents.1, hevents.2⟩

/-! ## Whole streams -/

namespace ResponsesState

/-- No message was ended, and the start was counted. -/
structure Inv (state : ResponsesState) : Prop where
  sent : Unended state.relayed.sent
  started : state.sentStart = true → 1 ≤ state.relayed.info.sendResponseCount

variable {state : ResponsesState}

section

variable (h : state.Inv)
include h

/-- Other fields do not matter. -/
theorem Inv.of_eq {state' : ResponsesState}
    (hrelayed : state'.relayed = state.relayed) (hstart : state'.sentStart = state.sentStart) :
    state'.Inv := by
  refine ⟨?_, fun hstarted => ?_⟩
  · rw [hrelayed]
    exact h.sent
  · rw [hrelayed]
    exact h.started (hstart ▸ hstarted)

theorem Inv.sendChatChunk (hopen : chunk.Open state.relayed.info.sendResponseCount) :
    (state.sendChatChunk chunk).Inv ∧
      1 ≤ (state.sendChatChunk chunk).relayed.info.sendResponseCount := by
  obtain ⟨hsent, hcount⟩ := Relayed.unended_handle h.sent hopen
  have hpos : 1 ≤ (state.sendChatChunk chunk).relayed.info.sendResponseCount := by
    change 1 ≤ (state.relayed.handleStreamFormat (some chunk)).info.sendResponseCount
    omega
  exact ⟨⟨hsent, fun _ => hpos⟩, hpos⟩

section

variable (relay : ResponsesRelay)

theorem Inv.sendDelta (delta : ChoiceDelta) : (ResponsesState.sendDelta relay state delta).Inv :=
  (h.sendChatChunk ⟨⟨_, rfl, .inl rfl⟩, rfl⟩).1

theorem Inv.sendStartIfNeeded : (ResponsesState.sendStartIfNeeded relay state).Inv ∧
      (ResponsesState.sendStartIfNeeded relay state).sentStart = true := by
  rw [ResponsesState.sendStartIfNeeded]
  split
  · next hstarted => exact ⟨h, hstarted⟩
  · have hopen : (generateStartEmptyResponse relay.responseId state.createAt state.model).Open
        state.relayed.info.sendResponseCount := ⟨⟨_, rfl, .inl rfl⟩, rfl⟩
    obtain ⟨hsent, hpos⟩ := h.sendChatChunk hopen
    exact ⟨⟨hsent.sent, fun _ => hpos⟩, rfl⟩

theorem Inv.sendReasoningSummaryDelta (delta : String) :
    (ResponsesState.sendReasoningSummaryDelta relay state delta).Inv := by
  rw [ResponsesState.sendReasoningSummaryDelta]
  split
  · exact h
  · have hready : ({ state with needsReasoningSummarySeparator := false } : ResponsesState).Inv :=
      h.of_eq rfl rfl
    have hstart := (hready.sendStartIfNeeded relay).1
    exact ((hstart.of_eq rfl rfl).sendDelta relay _).of_eq rfl rfl

theorem Inv.sendToolCallDelta (callID name argsDelta : String) :
    (ResponsesState.sendToolCallDelta relay state callID name argsDelta).Inv := by
  rw [ResponsesState.sendToolCallDelta]
  split
  · exact h
  · split
    · exact h
    · exact ((h.sendStartIfNeeded relay).1.sendDelta relay _).of_eq rfl rfl

/-- The finish reason is not in the first chunk. -/
theorem Inv.sendStop (hstarted : state.sentStart = true) :
    (ResponsesState.sendStop relay state).Inv := by
  have hset : ({ state with relayed := state.relayed.setUsage state.usage } : ResponsesState).Inv :=
    ⟨h.sent, h.started⟩
  exact (hset.sendChatChunk ⟨⟨_, rfl, .inr (h.started hstarted)⟩, rfl⟩).1

theorem Inv.handleOutputText (delta : String) :
    (ResponsesState.handleOutputText relay state delta).Inv := by
  have hstart := (h.sendStartIfNeeded relay).1
  unfold ResponsesState.handleOutputText
  split
  · exact hstart
  · apply Inv.sendDelta
    exact hstart.of_eq rfl rfl

theorem Inv.handleOutputItem (item : ResponsesOutput) :
    (ResponsesState.handleOutputItem relay state item).Inv := by
  rw [ResponsesState.handleOutputItem]
  split
  · exact h
  · apply Inv.sendToolCallDelta
    exact h.of_eq rfl rfl

theorem Inv.handleArgumentsDelta (itemID delta : String) :
    (ResponsesState.handleArgumentsDelta relay state itemID delta).Inv := by
  rw [ResponsesState.handleArgumentsDelta]
  split
  · exact h
  · apply Inv.sendToolCallDelta
    exact h.of_eq rfl rfl

end

theorem Inv.takeCompleted (response : OpenAIResponsesResponse) :
    (state.takeCompleted response).Inv := by
  rw [ResponsesState.takeCompleted]
  split
  · exact h.of_eq rfl rfl
  · exact h.of_eq rfl rfl

theorem Inv.handleCompleted (relay : ResponsesRelay) (response : Option OpenAIResponsesResponse) :
    (ResponsesState.handleCompleted relay state response).Inv := by
  have htaken : ((response.map state.takeCompleted).getD state).Inv := by
    cases response with
    | none => exact h
    | some response => exact h.takeCompleted response
  obtain ⟨hstart, hstarted⟩ := htaken.sendStartIfNeeded relay
  unfold ResponsesState.handleCompleted
  dsimp only
  split
  · exact hstart
  · exact (hstart.sendStop relay hstarted).of_eq rfl rfl

theorem Inv.handleFailure (name : String)
    (response : Option OpenAIResponsesResponse) : (state.handleFailure name response).Inv := by
  rw [ResponsesState.handleFailure]
  split
  · exact h.of_eq rfl rfl
  · exact h.of_eq rfl rfl

section

variable (relay : ResponsesRelay)

/-- **No event of the upstream ends the message.** -/
theorem Inv.handleEvent
    (event : ResponsesStreamResponse) : (ResponsesState.handleEvent relay state event).Inv := by
  rw [ResponsesState.handleEvent]
  cases event.type with
  | created =>
    cases event.response with
    | none => exact h
    | some response => exact h.of_eq rfl rfl
  | reasoningSummaryTextDelta => exact h.sendReasoningSummaryDelta relay event.delta
  | reasoningSummaryTextDone =>
    dsimp only
    split
    · exact h.of_eq rfl rfl
    · exact h
  | outputTextDelta => exact h.handleOutputText relay event.delta
  | outputItemAdded | outputItemDone =>
    cases event.item with
    | none => exact h
    | some item => exact h.handleOutputItem relay item
  | functionCallArgumentsDelta => exact h.handleArgumentsDelta relay event.itemID event.delta
  | completed => exact h.handleCompleted relay event.response
  | error | failed => exact h.handleFailure _ event.response
  | functionCallArgumentsDone | other => exact h

theorem Inv.handle
    (data : Option ResponsesStreamResponse) : (ResponsesState.handle relay state data).Inv := by
  rw [ResponsesState.handle]
  split
  · exact h
  · cases data with
    | none => exact h
    | some event => exact h.handleEvent relay event

theorem Inv.finish : (ResponsesState.finish relay state).Inv := by
  have hestimated : (estimateUsage relay state).Inv := by
    rw [estimateUsage]
    split
    · exact h.of_eq rfl rfl
    · exact h
  obtain ⟨hstart, hstarted⟩ := hestimated.sendStartIfNeeded relay
  unfold ResponsesState.finish
  dsimp only
  split
  · exact hstart
  · exact hstart.sendStop relay hstarted

end

end

end ResponsesState

theorem inv_run (relay : ResponsesRelay) (events : List (Option ResponsesStreamResponse)) :
    (events.foldl (ResponsesState.handle relay) relay.start).Inv := by
  induction events using List.reverseRecOn with
  | nil => exact ⟨Unended.nil, fun hstarted => Bool.noConfusion hstarted⟩
  | append_singleton events event ih =>
    rw [List.foldl_append]
    exact ih.handle relay event

/-- The handler never sends the end of a message. -/
theorem unended_run (relay : ResponsesRelay) (events : List (Option ResponsesStreamResponse)) :
    Unended (oaiResponsesToChatStreamHandler relay events).2 := by
  have hrun := inv_run relay events
  unfold oaiResponsesToChatStreamHandler
  dsimp only
  split
  · exact hrun.sent
  · exact (hrun.finish relay).sent

/-- The events stop every block that they start, and end with one report of the usage and then one
end of the message. -/
structure EndsProperly (events : List ClaudeResponse) : Prop where
  stopped : ∀ i k, .start i k ∈ events.map mark → .stop i ∈ events.map mark
  ends : ∃ front report stop, events = front ++ [report, stop] ∧
    report.type = .messageDelta ∧ report.usage.isSome = true ∧ stop.type = .messageStop ∧
    ∀ event ∈ front, event.type ≠ .messageDelta ∧ event.type ≠ .messageStop

/-- **No Responses stream ends properly for a Claude client.** -/
theorem oaiResponsesToChatStreamHandler_not_endsProperly (relay : ResponsesRelay)
    (events : List (Option ResponsesStreamResponse)) :
    ¬ EndsProperly (oaiResponsesToChatStreamHandler relay events).2 := by
  intro h
  obtain ⟨front, report, stop, hevents, -, -, hstop, -⟩ := h.ends
  refine unended_run relay events stop ?_ hstop
  rw [hevents]
  simp

def sampleResponses : List (Option ResponsesStreamResponse) :=
  [some { type := .created }, some { type := .outputTextDelta, delta := "Hi" }, some
      { type := .completed
        response := some
          { usage := some { inputTokens := 3, outputTokens := 1, totalTokens := 4 } } }]

/-- The response is completed and its usage returned, but its text is not stopped and no end is
sent. -/
theorem completed_response_not_ended :
    (oaiResponsesToChatStreamHandler {} sampleResponses).1.toOption =
        some { promptTokens := 3, completionTokens := 1 } ∧
      (oaiResponsesToChatStreamHandler {} sampleResponses).2.map mark =
        [.first, .start 0 .text, .delta 0 .text] ∧
      ¬ EndsProperly (oaiResponsesToChatStreamHandler {} sampleResponses).2 := by
  have hmarks : (oaiResponsesToChatStreamHandler {} sampleResponses).2.map mark =
      [.first, .start 0 .text, .delta 0 .text] := by decide
  refine ⟨by decide, hmarks, fun h => ?_⟩
  have hstopped := h.stopped 0 .text (by rw [hmarks]; simp)
  rw [hmarks] at hstopped
  simp at hstopped

end Mujian.Streams
