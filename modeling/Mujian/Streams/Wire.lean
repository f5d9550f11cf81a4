import Mujian.Pricing.TextQuota

/-!
# What streams carry

A Claude stream is a sequence of events (`ClaudeResponse`), a chat completion stream a sequence of
chunks (`ChatCompletionsStreamResponse`). Both are kept with the fields that the relay reads or
writes. The `input` of a tool call, a JSON value of any shape, is kept as the text it serializes
to.
-/

namespace Mujian.Streams

open Pricing

/-- A decoded JSON value: what is neither text nor a container is a scalar, and an object is its
keys and their values. -/
inductive JsonValue
  | scalar
  | str (text : String)
  | arr (items : List JsonValue)
  | obj (keys : List String) (values : List JsonValue)

/-- A line of data, with what a decoder without a schema makes of it. -/
structure Wire where
  data : String
  value : Option JsonValue

inductive EventType
  | messageStart | contentBlockStart | contentBlockDelta | contentBlockStop | messageDelta
  | messageStop | ping | error
  | other (name : String)
  deriving DecidableEq

structure ClaudeCacheCreationUsage where
  (ephemeral5mInputTokens ephemeral1hInputTokens : ℤ := 0)

structure ClaudeServerToolUse where
  webSearchRequests : ℤ := 0

structure ClaudeUsage where
  (inputTokens cacheCreationInputTokens cacheReadInputTokens outputTokens : ℤ := 0)
  cacheCreation : Option ClaudeCacheCreationUsage := none
  (claudeCacheCreation5mTokens claudeCacheCreation1hTokens : ℤ := 0)
  serverToolUse : Option ClaudeServerToolUse := none

namespace ClaudeUsage

/-- The nested counter, where there is one that is not zero, else the flat one. -/
def nestedOr (nested : Option ℤ) (flat : ℤ) : ℤ :=
  match nested with
  | some tokens => if tokens ≠ 0 then tokens else flat
  | none => flat

def getCacheCreation5mTokens (usage : ClaudeUsage) : ℤ :=
  nestedOr (usage.cacheCreation.map (·.ephemeral5mInputTokens)) usage.claudeCacheCreation5mTokens

def getCacheCreation1hTokens (usage : ClaudeUsage) : ℤ :=
  nestedOr (usage.cacheCreation.map (·.ephemeral1hInputTokens)) usage.claudeCacheCreation1hTokens

end ClaudeUsage

/-- A content block or a delta of one. -/
structure ClaudeMediaMessage where
  type : String := ""
  (text thinking partialJson stopReason : Option String := none)
  (signature data id name : String := "")
  input : Option String := none

/-- The content of a message: absent, a text, blocks, or a value of another shape. -/
inductive MessageContent
  | absent
  | text (text : String)
  | blocks (blocks : List ClaudeMediaMessage)
  | other

structure ClaudeMessage where
  (id model : String := "")
  usage : Option ClaudeUsage := none
  content : MessageContent := .absent

structure ClaudeResponse where
  type : EventType
  content : List ClaudeMediaMessage := []
  model : String := ""
  error : Option String := none
  usage : Option ClaudeUsage := none
  index : Option ℤ := none
  (contentBlock delta : Option ClaudeMediaMessage := none)
  message : Option ClaudeMessage := none

/-- `service.NormalizeCacheCreationSplit`: what the split leaves of the total counts as the shorter
cache. -/
def normalizeCacheCreationSplit (totalTokens tokens5m tokens1h : ℤ) : ℤ × ℤ :=
  (tokens5m + max (totalTokens - tokens5m - tokens1h) 0, tokens1h)

structure ToolCallResponse where
  index : Option ℤ := none
  (id name arguments : String := "")

structure ChoiceDelta where
  (content reasoningContent reasoning : Option String := none)
  role : String := ""
  toolCalls : List ToolCallResponse := []

namespace ChoiceDelta

def getContentString (delta : ChoiceDelta) : String := delta.content.getD ""

def getReasoningContent (delta : ChoiceDelta) : String :=
  (delta.reasoningContent.or delta.reasoning).getD ""

end ChoiceDelta

structure StreamChoice where
  delta : ChoiceDelta := {}
  finishReason : Option String := none

structure ChatCompletionsStreamResponse where
  id : String := ""
  created : ℤ := 0
  model : String := ""
  choices : List StreamChoice := []
  usage : Option Usage := none

end Mujian.Streams
