import Mujian.Streams.Wire

/-!
# Chat completion chunks for Claude clients

`streamResponseOpenAI2Claude` turns a chunk of a chat completion stream into Claude events. Between
chunks it keeps which kind of block is open and under which index (`ClaudeConvertInfo`). The first
chunk is told from the others by a counter that `handleStreamFormat` advances. `oaiStreamHandler`
runs one chunk behind the upstream, and handles the last one after the stream, without advancing
the counter.
-/

namespace Mujian.Streams

open Pricing

inductive LastMessagesType
  | none | text | tools | thinking
  deriving DecidableEq

structure ClaudeConvertInfo where
  lastMessagesType : LastMessagesType := .none
  index : ℤ := 0
  usage : Option Usage := none
  done : Bool := false
  (toolCallBaseIndex toolCallMaxIndexOffset : ℤ := 0)

/-- The fields of the relay info that the conversion reads and writes. -/
structure ConvertInfo where
  claude : ClaudeConvertInfo := {}
  finishReason : String := ""
  sendResponseCount : ℕ := 0
  estimatePromptTokens : ℤ := 0

namespace ChatCompletionsStreamResponse

def getFirstToolCall (chunk : ChatCompletionsStreamResponse) : Option ToolCallResponse :=
  chunk.choices.head?.bind fun choice => choice.delta.toolCalls.head?

end ChatCompletionsStreamResponse

/-- The finish reason of a choice; an empty one is none. -/
def StreamChoice.finished (choice : StreamChoice) : Option String :=
  choice.finishReason.filter (· ≠ "")

section

variable (usage : Usage) (call : ToolCallResponse) (index : ℤ)

def generateStopBlock : ClaudeResponse := { type := .contentBlockStop, index := some index }

def blockStart (block : ClaudeMediaMessage) : ClaudeResponse :=
  { type := .contentBlockStart, index := some index, contentBlock := some block }

def contentDelta (delta : ClaudeMediaMessage) : ClaudeResponse :=
  { type := .contentBlockDelta, index := some index, delta := some delta }

def toolUseBlock : ClaudeMediaMessage :=
  { type := "tool_use", id := call.id, name := call.name, input := some "\x7b\x7d" }

def inputJsonDelta : ClaudeMediaMessage :=
  { type := "input_json_delta", partialJson := some call.arguments }

def thinkingBlock : ClaudeMediaMessage := { type := "thinking", thinking := some "" }

def thinkingDelta (reasoning : String) : ClaudeMediaMessage :=
  { type := "thinking_delta", thinking := some reasoning }

def textBlock : ClaudeMediaMessage := { type := "text", text := some "" }

def textDelta (content : String) : ClaudeMediaMessage :=
  { type := "text_delta", text := some content }

def messageStartEvent (info : ConvertInfo) (chunk : ChatCompletionsStreamResponse) :
    ClaudeResponse :=
  { type := .messageStart
    message := some
      { id := chunk.id
        model := chunk.model
        usage := some { inputTokens := info.estimatePromptTokens }
        content := .blocks [] } }

/-- `reasonmap.OpenAIFinishReasonToClaudeStopReason`. -/
def stopReasonOpenAI2Claude (reason : String) : String :=
  let lower := reason.toList.map Char.toLower
  if lower = "stop".toList then "end_turn"
  else if lower = "stop_sequence".toList then "stop_sequence"
  else if lower = "length".toList ∨ lower = "max_tokens".toList then "max_tokens"
  else if lower = "content_filter".toList then "refusal"
  else if lower = "tool_calls".toList then "tool_use"
  else reason

def buildClaudeUsageFromOpenAIUsage : ClaudeUsage :=
  let split := normalizeCacheCreationSplit usage.promptTokensDetails.cachedCreationTokens
    usage.claudeCacheCreation5mTokens usage.claudeCacheCreation1hTokens
  { inputTokens := usage.promptTokens
    outputTokens := usage.completionTokens
    cacheCreationInputTokens := usage.promptTokensDetails.cachedCreationTokens
    cacheReadInputTokens := usage.promptTokensDetails.cachedTokens
    cacheCreation := if 0 < split.1 ∨ 0 < split.2 then some ⟨split.1, split.2⟩ else none }

def messageDeltaEvent (stopReason : String) : ClaudeResponse :=
  { type := .messageDelta
    usage := some (buildClaudeUsageFromOpenAIUsage usage)
    delta := some { stopReason := some stopReason } }

end

def messageStopEvent : ClaudeResponse := { type := .messageStop }

namespace ClaudeConvertInfo

section

variable (claude : ClaudeConvertInfo)

/-- The stops of the open blocks; of a group of tool calls, every offset up to the largest one. -/
def stopOpenBlocks : List ClaudeResponse :=
  match claude.lastMessagesType with
  | .text | .thinking => [generateStopBlock claude.index]
  | .tools =>
    (List.range (claude.toolCallMaxIndexOffset + 1).toNat).map fun offset : ℕ =>
      generateStopBlock (claude.toolCallBaseIndex + (offset : ℤ))
  | .none => []

/-- `stopOpenBlocksAndAdvance`, what it leaves of the state. -/
def advance : ClaudeConvertInfo :=
  match claude.lastMessagesType with
  | .none => claude
  | .tools =>
    { claude with
      index := claude.toolCallBaseIndex + claude.toolCallMaxIndexOffset + 1, toolCallBaseIndex := 0
      toolCallMaxIndexOffset := 0, lastMessagesType := .none }
  | .text | .thinking => { claude with index := claude.index + 1, lastMessagesType := .none }

/-- `stopOpenBlocksAndAdvance`, unless the given type is open already. -/
def switchTo (type : LastMessagesType) : List ClaudeResponse × ClaudeConvertInfo :=
  if claude.lastMessagesType = type then ([], claude)
  else (claude.stopOpenBlocks, claude.advance)

end

end ClaudeConvertInfo

section

variable (claude : ClaudeConvertInfo) (info : ConvertInfo) (type : LastMessagesType)
  (chunk : ChatCompletionsStreamResponse)

section

variable (usage : Option Usage) (block delta : ClaudeMediaMessage)

/-- The end of the message: open blocks are stopped, and usage is reported if it is known. -/
def finishMessage (stopReason : String) : List ClaudeResponse × ConvertInfo :=
  (info.claude.stopOpenBlocks ++
      (usage.map fun usage => messageDeltaEvent usage stopReason).toList ++ [messageStopEvent],
    { info with claude := { info.claude with done := true } })

/-- The first tool call of the first chunk; its index is not read, and others are dropped. -/
def convertFirstToolCall : List ClaudeResponse × ConvertInfo :=
  match chunk.getFirstToolCall with
  | none => ([], info)
  | some call =>
    (blockStart 0 (toolUseBlock call) ::
        (if call.arguments ≠ "" then [contentDelta 0 (inputJsonDelta call)] else []),
      { info with claude :=
        { info.claude with
          lastMessagesType := .tools, toolCallBaseIndex := 0, toolCallMaxIndexOffset := 0 } })

/-- A block of the first chunk, which is started even if one of its type is open. -/
def convertFirstBlock : List ClaudeResponse × ConvertInfo :=
  let (stops, claude) := info.claude.switchTo type
  (stops ++ [blockStart claude.index block, contentDelta claude.index delta],
    { info with claude := { claude with lastMessagesType := type } })

def convertFirstContent : List ClaudeResponse × ConvertInfo :=
  match chunk.choices with
  | [] => ([], info)
  | choice :: _ =>
    if choice.delta.getReasoningContent ≠ "" then
      convertFirstBlock info .thinking thinkingBlock
        (thinkingDelta choice.delta.getReasoningContent)
    else if choice.delta.getContentString ≠ "" then
      convertFirstBlock info .text textBlock (textDelta choice.delta.getContentString)
    else ([], info)

def convertFirstFinish : List ClaudeResponse × ConvertInfo :=
  match chunk.choices.head?.bind StreamChoice.finished with
  | none => ([], info)
  | some reason =>
    finishMessage { info with finishReason := reason } (chunk.usage.or info.claude.usage)
      (stopReasonOpenAI2Claude reason)

def convertFirst : List ClaudeResponse × ConvertInfo :=
  let (tools, afterTools) := convertFirstToolCall info chunk
  let (content, afterContent) := convertFirstContent afterTools chunk
  let (finish, afterFinish) := convertFirstFinish afterContent chunk
  (messageStartEvent info chunk :: (tools ++ content ++ finish), afterFinish)

/-- The offset of a tool call in its group: its index, else its position in the chunk. -/
def ToolCallResponse.offset (call : ToolCallResponse) (position : ℕ) : ℤ := call.index.getD position

def toolCallEvents (base : ℤ) (call : ToolCallResponse × ℕ) : List ClaudeResponse :=
  let index := base + call.1.offset call.2
  (if call.1.name ≠ "" then [blockStart index (toolUseBlock call.1)] else []) ++
    (if call.1.arguments ≠ "" then [contentDelta index (inputJsonDelta call.1)] else [])

def maxOffset (current : ℤ) (calls : List (ToolCallResponse × ℕ)) : ℤ :=
  calls.foldl (fun largest call => max largest (call.1.offset call.2)) current

def convertToolCalls (toolCalls : List ToolCallResponse) :
    List ClaudeResponse × ClaudeConvertInfo :=
  let (stops, switched) := claude.switchTo .tools
  -- a new group starts at the next free index
  let opened :=
    if claude.lastMessagesType = .tools then switched
    else { switched with toolCallBaseIndex := switched.index, toolCallMaxIndexOffset := 0 }
  let largest := maxOffset opened.toolCallMaxIndexOffset toolCalls.zipIdx
  (stops ++ toolCalls.zipIdx.flatMap (toolCallEvents opened.toolCallBaseIndex),
    { opened with
      lastMessagesType := .tools, toolCallMaxIndexOffset := largest
      index := opened.toolCallBaseIndex + largest })

/-- Text or reasoning, in the open block of its type or in a new one. -/
def convertBlock : List ClaudeResponse × ClaudeConvertInfo :=
  let (stops, switched) := claude.switchTo type
  (stops ++ (if claude.lastMessagesType = type then [] else [blockStart switched.index block]) ++
      [contentDelta switched.index delta],
    { switched with lastMessagesType := type })

def convertDelta (delta : ChoiceDelta) : List ClaudeResponse × ClaudeConvertInfo :=
  if delta.toolCalls ≠ [] then convertToolCalls claude delta.toolCalls
  else if delta.getReasoningContent ≠ "" then
    convertBlock claude .thinking thinkingBlock (thinkingDelta delta.getReasoningContent)
  else if delta.getContentString ≠ "" then
    convertBlock claude .text textBlock (textDelta delta.getContentString)
  else ([], claude)

/-- A chunk without choices ends the message once usage is known. -/
def convertUsageOnly : List ClaudeResponse × ConvertInfo :=
  match chunk.usage.or info.claude.usage with
  | none => ([], info)
  | some usage =>
    let reason := stopReasonOpenAI2Claude info.finishReason
    finishMessage info (some usage) (if reason = "" then "end_turn" else reason)

def convertChoice (choice : StreamChoice) : List ClaudeResponse × ConvertInfo :=
  match choice.finished, usage with
  -- the end waits for a chunk with usage, and what this chunk holds is dropped
  | some reason, none => ([], { info with finishReason := reason })
  | some reason, some usage =>
    let (events, claude) := convertDelta info.claude choice.delta
    let (finish, finished) := finishMessage { info with claude := claude, finishReason := reason }
      (some usage) (stopReasonOpenAI2Claude reason)
    (events ++ finish, finished)
  | none, _ =>
    let (events, claude) := convertDelta info.claude choice.delta
    (events, { info with claude := claude })

end

def streamResponseOpenAI2Claude : List ClaudeResponse × ConvertInfo :=
  if info.claude.done then ([], info)
  else if info.sendResponseCount = 1 then convertFirst info chunk
  else
    match chunk.choices with
    | [] => convertUsageOnly info chunk
    | choice :: _ => convertChoice info chunk.usage choice

end

/-- A relayed stream so far: the state of the conversion and the events for the client. -/
structure Relayed where
  info : ConvertInfo := {}
  sent : List ClaudeResponse := []

namespace Relayed

section

variable (relayed : Relayed) (data : Option ChatCompletionsStreamResponse) (usage : Usage)

def convert (chunk : ChatCompletionsStreamResponse) : Relayed :=
  let (events, info) := streamResponseOpenAI2Claude relayed.info chunk
  ⟨info, relayed.sent ++ events⟩

def count : Relayed :=
  { relayed with info :=
    { relayed.info with sendResponseCount := relayed.info.sendResponseCount + 1 } }

def setUsage : Relayed :=
  { relayed with info :=
    { relayed.info with claude := { relayed.info.claude with usage := some usage } } }

/-- `HandleStreamFormat` for a Claude client; data that does not decode is counted. -/
def handleStreamFormat : Relayed :=
  match data with
  | none => relayed.count
  | some chunk => ((chunk.usage.map relayed.count.setUsage).getD relayed.count).convert chunk

def handleFinalResponse : Relayed :=
  match data with
  | none => relayed
  | some chunk =>
    let final := (relayed.setUsage usage).convert chunk
    { final with info := { final.info with claude := { final.info.claude with done := true } } }

end

end Relayed

/-- `service.ValidUsage`. -/
def validUsage (usage : Usage) : Bool := 0 < usage.promptTokens || 0 < usage.completionTokens ||
    0 < usage.promptTokensDetails.cachedTokens ||
    0 < usage.promptTokensDetails.cachedCreationTokens ||
    0 < usage.claudeCacheCreation5mTokens || 0 < usage.claudeCacheCreation1hTokens

/-- What the handler takes from the relay: the estimate of the usage from the data of the stream,
and what the type of the channel changes in a usage. -/
structure OaiRelay where
  estimatePromptTokens : ℤ := 0
  isAudioModel : Bool := false
  responseText2Usage : List (Option ChatCompletionsStreamResponse) → Usage := fun _ => {}
  applyUsagePostProcessing : Usage → Usage := id

section

variable (relay : OaiRelay) (data : List (Option ChatCompletionsStreamResponse))

/-- The state of the conversion before the stream. -/
def OaiRelay.info : ConvertInfo := { estimatePromptTokens := relay.estimatePromptTokens }

/-- The usage of a stream: of its last data, for audio models also of the one before it, if it is
valid, else the estimate. -/
def OaiRelay.streamUsage : Usage :=
  let usageOf (data : Option ChatCompletionsStreamResponse) : Option Usage :=
    (data.bind (·.usage)).filter (validUsage ·)
  let secondLast := if relay.isAudioModel then data.reverse.tail.head?.bind usageOf else none
  relay.applyUsagePostProcessing
    (((data.getLast?.bind usageOf).or secondLast).getD (relay.responseText2Usage data))

/-- The data of the upstream handled one behind: what has been relayed, and the data that waits. -/
def receive (state : Relayed × Option (Option ChatCompletionsStreamResponse))
    (data : Option ChatCompletionsStreamResponse) :
    Relayed × Option (Option ChatCompletionsStreamResponse) :=
  ((state.2.map state.1.handleStreamFormat).getD state.1, some data)

/-- `OaiStreamHandler` for a Claude client: the events it sends. -/
def oaiStreamHandler : List ClaudeResponse :=
  let (relayed, last) := data.foldl receive (⟨relay.info, []⟩, none)
  (relayed.handleFinalResponse (last.bind id) (relay.streamUsage data)).sent

end

/-- All data but the last is handled in order, and the last with the usage of the stream. -/
theorem oaiStreamHandler_snoc (relay : OaiRelay)
    (data : List (Option ChatCompletionsStreamResponse))
    (last : Option ChatCompletionsStreamResponse) :
    oaiStreamHandler relay (data ++ [last]) =
      ((data.foldl Relayed.handleStreamFormat ⟨relay.info, []⟩).handleFinalResponse last
        (relay.streamUsage (data ++ [last]))).sent := by
  have hrun : ∀ (state : Relayed × Option (Option ChatCompletionsStreamResponse)),
      (data ++ [last]).foldl receive state =
        (data.foldl Relayed.handleStreamFormat
          ((state.2.map state.1.handleStreamFormat).getD state.1), some last) := by
    induction data with
    | nil => intro state; rfl
    | cons first data ih =>
      intro state
      rw [List.cons_append, List.foldl_cons, ih]
      rfl
  rw [oaiStreamHandler, hrun]
  rfl

end Mujian.Streams
