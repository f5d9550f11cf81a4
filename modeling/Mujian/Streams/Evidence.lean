import Mathlib.Algebra.Order.BigOperators.Group.List
import Mujian.Foundations.Matching
import Mujian.Streams.Counters

/-!
# What an event holds for the client

The bytes of the output in an event are the evidence that its usage is checked against
(`claudeStreamBillableEvidence`); what of it reaches the client depends on the format of the
client (`claudeWrittenStreamBillableEvidence`). What is written is searched for the key of the
channel: each event by itself, and its texts in sequence (`advanceClaudeAPIKeySuffix`).
-/

namespace Mujian.Streams

open Pricing Relay

/-- `len` of a text. -/
def byteLength (text : String) : ℤ := (text.toList.map fun c => (c.utf8Size : ℤ)).sum

structure BillableEvidence where
  text : String := ""
  bytes : ℤ := 0

namespace BillableEvidence

def addString (builder : BillableEvidence) (value : String) : Except StreamError BillableEvidence :=
  if maxInt64 - builder.bytes < byteLength value then .error .billableRange
  else .ok { text := builder.text ++ value, bytes := builder.bytes + byteLength value }

def addValues (builder : BillableEvidence) (values : List (Option String)) :
    Except StreamError BillableEvidence :=
  values.reduceOption.foldlM addString builder

end BillableEvidence

section

variable (response : ClaudeResponse) (builder : BillableEvidence) (delta : ClaudeMediaMessage)
  (block : ClaudeMediaMessage)

def addClaudeMediaMessageEvidence : Except StreamError BillableEvidence := do
  let builder ← builder.addValues [block.text, block.thinking]
  if block.type = "text" ∨ block.type = "thinking" then .ok builder
  else if block.type = "tool_use" then builder.addValues [some block.name, block.input]
  else if block.type = "redacted_thinking" then builder.addString block.data
  else .error .unsupportedBlock

def addClaudeMessageContentEvidence : MessageContent → Except StreamError BillableEvidence
  | .absent => .ok builder
  | .text value => builder.addString value
  | .blocks media => media.foldlM addClaudeMediaMessageEvidence builder
  | .other => .error .contentUnmeasured

def messageStartEvidence : Except StreamError BillableEvidence :=
  match response.type, response.message with
  | .messageStart, some message => addClaudeMessageContentEvidence {} message.content
  | _, _ => .ok {}

def addDeltaEvidence : Except StreamError BillableEvidence := do
  let builder ← builder.addValues [delta.text, delta.thinking, delta.partialJson]
  if delta.type = "redacted_thinking" then builder.addString delta.data else .ok builder

def claudeStreamBillableEvidence : Except StreamError BillableEvidence := do
  let builder ← messageStartEvidence response
  let builder ← match response.delta with
    | some delta => addDeltaEvidence builder delta
    | none => .ok builder
  match response.contentBlock with
  | some block => addClaudeMediaMessageEvidence builder block
  | none => .ok builder

/-- The evidence of what a chat completion client is sent of a delta. -/
def openAIDeltaEvidence : Except StreamError BillableEvidence :=
  if delta.type = "input_json_delta" then
    ({} : BillableEvidence).addValues [delta.partialJson.or delta.text]
  else if delta.type = "thinking_delta" then
    ({} : BillableEvidence).addValues [delta.text, delta.thinking]
  else ({} : BillableEvidence).addValues [delta.text]

/-- The evidence of what a chat completion client is sent of the start of a block. -/
def openAIBlockEvidence : Except StreamError BillableEvidence :=
  if block.type = "text" then ({} : BillableEvidence).addValues [block.text]
  else if block.type = "tool_use" then ({} : BillableEvidence).addString block.name
  else .ok {}

def claudeWrittenStreamBillableEvidence (relayFormat : RelayFormat) :
    Except StreamError BillableEvidence :=
  match relayFormat with
  | .claude => claudeStreamBillableEvidence response
  | .openAI =>
    match response.type, response.delta, response.contentBlock with
    | .contentBlockDelta, some delta, _ => openAIDeltaEvidence delta
    | .contentBlockStart, _, some block => openAIBlockEvidence block
    | _, _, _ => .ok {}
  | _ => .ok {}

end

def checkedClaudeBillableOutputBytes (current additional : ℤ) : Except StreamError ℤ :=
  if current < 0 ∨ additional < 0 ∨ maxInt64 - additional < current then .error .billableRange
  else .ok (current + additional)

theorem byteLength_nonneg (text : String) : 0 ≤ byteLength text := by
  apply List.sum_nonneg
  intro size hsize
  obtain ⟨c, -, rfl⟩ := List.mem_map.mp hsize
  exact Int.natCast_nonneg _

variable {builder result : BillableEvidence} {response : ClaudeResponse}

theorem addString_le {value : String}
    (h : builder.addString value = .ok result) : builder.bytes ≤ result.bytes := by
  rw [BillableEvidence.addString, ite_error_eq_ok_iff] at h
  obtain ⟨-, h⟩ := h
  cases h
  exact le_add_of_nonneg_right (byteLength_nonneg value)

theorem foldlM_bytes_le {α : Type} {f : BillableEvidence → α → Except StreamError BillableEvidence}
    (hf : ∀ builder item result, f builder item = .ok result → builder.bytes ≤ result.bytes)
    {items : List α} (h : items.foldlM f builder = .ok result) : builder.bytes ≤ result.bytes := by
  induction items generalizing builder with
  | nil =>
    cases h
    exact le_rfl
  | cons item items ih =>
    rw [List.foldlM_cons, except_bind_eq_ok_iff] at h
    obtain ⟨middle, hitem, hrest⟩ := h
    exact (hf builder item middle hitem).trans (ih hrest)

theorem addValues_le {values : List (Option String)}
    (h : builder.addValues values = .ok result) : builder.bytes ≤ result.bytes :=
  foldlM_bytes_le (fun _ _ _ => addString_le) h

theorem addClaudeMediaMessageEvidence_le
    {block : ClaudeMediaMessage} (h : addClaudeMediaMessageEvidence builder block = .ok result) :
    builder.bytes ≤ result.bytes := by
  rw [addClaudeMediaMessageEvidence, except_bind_eq_ok_iff] at h
  obtain ⟨middle, hvalues, h⟩ := h
  refine (addValues_le hvalues).trans ?_
  split at h
  · cases h
    exact le_rfl
  · split at h
    · exact addValues_le h
    · split at h
      · exact addString_le h
      · cases h

theorem messageStartEvidence_nonneg
    (h : messageStartEvidence response = .ok result) : 0 ≤ result.bytes := by
  rw [messageStartEvidence] at h
  split at h
  · next message _ _ =>
    cases hcontent : message.content with
    | absent =>
      rw [hcontent] at h
      cases h
      exact le_rfl
    | text value =>
      rw [hcontent] at h
      exact addString_le h
    | blocks media =>
      rw [hcontent] at h
      exact foldlM_bytes_le (fun _ _ _ => addClaudeMediaMessageEvidence_le) h
    | other =>
      rw [hcontent] at h
      cases h
  · cases h
    exact le_rfl

theorem addDeltaEvidence_le {delta : ClaudeMediaMessage}
    (h : addDeltaEvidence builder delta = .ok result) : builder.bytes ≤ result.bytes := by
  rw [addDeltaEvidence, except_bind_eq_ok_iff] at h
  obtain ⟨middle, hvalues, h⟩ := h
  refine (addValues_le hvalues).trans ?_
  split at h
  · exact addString_le h
  · cases h
    exact le_rfl

theorem claudeStreamBillableEvidence_nonneg
    (h : claudeStreamBillableEvidence response = .ok result) : 0 ≤ result.bytes := by
  rw [claudeStreamBillableEvidence, except_bind_eq_ok_iff] at h
  obtain ⟨start, hstart, h⟩ := h
  have hnonneg := messageStartEvidence_nonneg hstart
  have hblock : ∀ builder : BillableEvidence, 0 ≤ builder.bytes →
      (match response.contentBlock with
        | some block => addClaudeMediaMessageEvidence builder block
        | none => .ok builder) = .ok result → 0 ≤ result.bytes := by
    intro builder hbuilder hresult
    split at hresult
    · exact hbuilder.trans (addClaudeMediaMessageEvidence_le hresult)
    · cases hresult
      exact hbuilder
  cases hdelta : response.delta with
  | none =>
    rw [hdelta] at h
    exact hblock start hnonneg h
  | some delta =>
    rw [hdelta] at h
    obtain ⟨middle, hmiddle, h⟩ := except_bind_eq_ok_iff.mp h
    exact hblock middle (hnonneg.trans (addDeltaEvidence_le hmiddle)) h

/-- `reasonmap.ClaudeStopReasonToOpenAIFinishReason`. -/
def stopReasonClaude2OpenAI (reason : String) : String :=
  let lower := reason.toList.map Char.toLower
  if lower = "stop_sequence".toList ∨ lower = "end_turn".toList then "stop"
  else if lower = "max_tokens".toList then "length"
  else if lower = "tool_use".toList then "tool_calls"
  else if lower = "refusal".toList then "content_filter"
  else reason

/-- The delta of a chunk; one with tool calls has no content. -/
def withTools (delta : ChoiceDelta) (tools : List ToolCallResponse) : ChoiceDelta :=
  if tools = [] then delta else { delta with content := none, toolCalls := tools }

def blockStartDelta (block : ClaudeMediaMessage) (toolCallIndex : ℤ) : ChoiceDelta :=
  withTools { content := if block.type = "text" then block.text else none }
    (if block.type = "tool_use" then
      [{ index := some toolCallIndex, id := block.id, name := block.name }]
    else [])

def blockDelta (delta : ClaudeMediaMessage) (toolCallIndex : ℤ) : ChoiceDelta := withTools
    { content := delta.text
      reasoningContent := if delta.type = "thinking_delta" then delta.thinking else none }
    (if delta.type = "input_json_delta" then
      (delta.partialJson.map fun arguments =>
        ({ index := some toolCallIndex, arguments := arguments } : ToolCallResponse)).toList
    else [])

def chunkFinishReason (delta : ClaudeMediaMessage) : Option String :=
  (delta.stopReason.map stopReasonClaude2OpenAI).filter (· ≠ "null")

def streamResponseClaude2OpenAI (response : ClaudeResponse) (toolCallIndex : ℤ) :
    Option ChatCompletionsStreamResponse :=
  let chunk (choice : StreamChoice) : ChatCompletionsStreamResponse :=
    { model := response.model, choices := [choice] }
  match response.type with
  | .messageStart =>
    some
      { id := (response.message.map (·.id)).getD ""
        model := (response.message.map (·.model)).getD response.model
        choices := [{ delta := { content := some "", role := "assistant" } }] }
  | .contentBlockStart =>
    response.contentBlock.map fun block => chunk { delta := blockStartDelta block toolCallIndex }
  | .contentBlockDelta =>
    some (chunk { delta := (response.delta.map (blockDelta · toolCallIndex)).getD {} })
  | .messageDelta => some (chunk { finishReason := response.delta.bind chunkFinishReason })
  | _ => none

def contains (text part : String) : Bool := part.toList <:+: text.toList

mutual

def claudeResponseValueContainsAPIKey (apiKey : String) : JsonValue → Bool
  | .scalar => false
  | .str text => contains text apiKey
  | .arr items => itemsContainAPIKey apiKey items
  | .obj keys values => keys.any (contains · apiKey) || itemsContainAPIKey apiKey values

def itemsContainAPIKey (apiKey : String) : List JsonValue → Bool
  | [] => false
  | item :: items =>
    claudeResponseValueContainsAPIKey apiKey item || itemsContainAPIKey apiKey items

end

section

variable (response : ClaudeResponse) (relay : ClaudeRelay) (wire : Wire)

def validateManagedClaudeResponseValue (value : JsonValue) : Except StreamError Unit :=
  if relay.managedClaudeAPIKey ≠ "" ∧
      claudeResponseValueContainsAPIKey relay.managedClaudeAPIKey value then .error .credential
  else .ok ()

def validateManagedClaudeResponseString : Except StreamError Unit :=
  if relay.managedClaudeAPIKey = "" then .ok ()
  else if contains wire.data relay.managedClaudeAPIKey then .error .credential
  else
    match wire.value with
    | some value => validateManagedClaudeResponseValue relay value
    | none => .ok ()

/-- The object with the given fields, less those that are left out. -/
def JsonValue.ofFields (fields : List (String × Option JsonValue)) : JsonValue :=
  let present := fields.filter (·.2.isSome)
  .obj (present.map (·.1)) (present.filterMap (·.2))

/-- A text that is left out when it is empty. -/
def nonemptyText (text : String) : Option JsonValue := if text = "" then none else some (.str text)

def ToolCallResponse.json (tool : ToolCallResponse) : JsonValue := .ofFields
    [("index", tool.index.map fun _ => .scalar), ("id", nonemptyText tool.id),
      ("type", some (.str "function")),
      ("function", some (.ofFields
        [("name", nonemptyText tool.name), ("arguments", some (.str tool.arguments))]))]

def ChoiceDelta.json (delta : ChoiceDelta) : JsonValue := .ofFields
    [("content", delta.content.map .str), ("reasoning_content", delta.reasoningContent.map .str),
      ("reasoning", delta.reasoning.map .str),
      ("role", nonemptyText delta.role),
      ("tool_calls",
        if delta.toolCalls = [] then none else some (.arr (delta.toolCalls.map (·.json))))]

def StreamChoice.json (choice : StreamChoice) : JsonValue := .ofFields
    [("delta", some choice.delta.json), ("logprobs", some .scalar),
      ("finish_reason", some ((choice.finishReason.map JsonValue.str).getD .scalar)),
      ("index", some .scalar)]

/-- A chunk as it is written; the chunks of a Claude stream carry no usage. -/
def ChatCompletionsStreamResponse.json (chunk : ChatCompletionsStreamResponse) : JsonValue :=
  .ofFields
    [("id", some (.str chunk.id)), ("object", some (.str "chat.completion.chunk")),
      ("created", some .scalar),
      ("model", some (.str chunk.model)),
      ("system_fingerprint", some .scalar),
      ("choices", some (.arr (chunk.choices.map (·.json)))),
      ("usage", some .scalar)]

/-- The text of the content of a `message_start`, where there is any. -/
def messageStartFragments : Except StreamError (List String) := do
  let evidence ← messageStartEvidence response
  .ok (if evidence.text = "" then [] else [evidence.text])

def deltaFragments (delta : ClaudeMediaMessage) : List String :=
  [delta.text, delta.thinking, delta.partialJson].reduceOption ++
    (if delta.type = "redacted_thinking" then [delta.data] else []) ++
    (if delta.signature = "" then [] else [delta.signature])

def blockFragments (block : ClaudeMediaMessage) : List String :=
  [block.text, block.thinking].reduceOption ++
    (if block.type = "tool_use" then [some block.name, block.input].reduceOption else []) ++
    (if block.type = "redacted_thinking" then [block.data] else [])

def claudeWrittenStreamFragments (relayFormat : RelayFormat) : Except StreamError (List String) :=
  match relayFormat with
  | .openAI => do
    let evidence ← claudeWrittenStreamBillableEvidence response .openAI
    .ok (if evidence.text = "" then [] else [evidence.text])
  | .claude => do
    let start ← messageStartFragments response
    .ok (start ++ (response.delta.map deltaFragments).getD [] ++
      (response.contentBlock.map blockFragments).getD [])
  | _ =>
    .ok ((response.delta.map deltaFragments).getD [] ++
      (response.contentBlock.map blockFragments).getD [])

def advanceClaudeAPIKeySuffix (current : List Char) (apiKey : String) (fragments : List String) :
    List Char × Bool :=
  if apiKey = "" then ([], false)
  else Matching.scan apiKey.toList current (fragments.map String.toList)

/-- One call for each group of fragments, up to the first that reports a leak. -/
def advanceGroups (apiKey : String) : List Char → List (List String) → List Char × Bool
  | current, [] => (current, false)
  | current, fragments :: groups =>
    let result := advanceClaudeAPIKeySuffix current apiKey fragments
    if result.2 then result else advanceGroups apiKey result.1 groups

theorem advanceGroups_eq_scan {apiKey : String} (hkey : apiKey ≠ "") (current : List Char)
    (groups : List (List String)) : advanceGroups apiKey current groups =
      Matching.scan apiKey.toList current (groups.flatten.map String.toList) := by
  induction groups generalizing current with
  | nil => rfl
  | cons fragments groups ih =>
    rw [List.flatten_cons, List.map_append, Matching.scan_append, advanceGroups,
      advanceClaudeAPIKeySuffix, if_neg hkey]
    simp only [ih]

/-- **A leak is reported exactly if the whole text contains the key**; until then, the longest end
that is a proper prefix of the key is kept. -/
theorem advanceGroups_spec {apiKey : String} (hkey : apiKey ≠ "") (groups : List (List String)) :
    let text := (groups.flatten.map String.toList).flatten
    let (suffix, leaked) := advanceGroups apiKey [] groups
    (leaked = true ↔ apiKey.toList <:+: text) ∧
      (leaked = false → Matching.Ends apiKey.toList text suffix ∧
        ∀ x, Matching.Ends apiKey.toList text x → x.length ≤ suffix.length) := by
  have hnil : apiKey.toList ≠ [] := fun h => hkey (String.toList_eq_nil_iff.1 h)
  have hends := (Matching.ends_overlap hnil []).scan (groups.flatten.map String.toList)
  have hseen := (Matching.Seen.start hnil).scan (groups.flatten.map String.toList)
  rw [advanceGroups_eq_scan hkey]
  rw [Matching.overlap, List.nil_append] at hends
  rw [List.nil_append] at hseen
  split
  next suffix leaked hscan =>
  rw [hscan] at hends hseen
  cases leaked with
  | true => exact ⟨iff_of_true rfl hends, fun h => by cases h⟩
  | false =>
    have hseen := hseen rfl
    refine ⟨iff_of_false (by decide) hseen.absent, fun _ => ⟨hends, fun x hx => ?_⟩⟩
    exact (hseen.covers x hx.1 hx.2.1 hx.2.2).length_le

/-- A key that overlaps with itself, cut in the middle of an occurrence. -/
theorem advanceGroups_sample : (advanceGroups "aab" [] [["aa"], ["a", "bc"]]).2 = true ∧
    "aab".toList <:+: ([["aa"], ["a", "bc"]].flatten.map String.toList).flatten := by
  have hkey : "aab" ≠ "" := by decide
  have hleaked : (advanceGroups "aab" [] [["aa"], ["a", "bc"]]).2 = true := by decide +kernel
  exact ⟨hleaked, (advanceGroups_spec hkey [["aa"], ["a", "bc"]]).1.1 hleaked⟩

def buildMessageDeltaPatchUsage (recorded : Usage) : ClaudeUsage :=
  let usage := response.usage.getD {}
  let orRecorded (reported known : ℤ) : ℤ := if reported = 0 ∧ 0 < known then known else reported
  let creation := orRecorded usage.cacheCreationInputTokens
    recorded.promptTokensDetails.cachedCreationTokens
  let (cacheCreation5m, cacheCreation1h) :=
    match usage.cacheCreation with
    | some split =>
      normalizeCacheCreationSplit creation split.ephemeral5mInputTokens split.ephemeral1hInputTokens
    | none =>
      normalizeCacheCreationSplit creation recorded.claudeCacheCreation5mTokens
        recorded.claudeCacheCreation1hTokens
  { usage with
    inputTokens := orRecorded usage.inputTokens recorded.promptTokens
    cacheReadInputTokens :=
      orRecorded usage.cacheReadInputTokens recorded.promptTokensDetails.cachedTokens
    cacheCreationInputTokens := creation
    cacheCreation :=
      if usage.cacheCreation.isSome ∨ 0 < cacheCreation5m ∨ 0 < cacheCreation1h then
        some ⟨cacheCreation5m, cacheCreation1h⟩
      else none }

def setMessageDeltaUsageInt (path : String) (localValue : ℤ) : Wire :=
  if localValue ≤ 0 then wire
  else if (relay.gjsonInt wire path).any (0 < ·) then wire
  else (relay.sjsonSet wire path localValue).getD wire

def patchClaudeMessageDeltaUsageData (usage : ClaudeUsage) : Wire :=
  if wire.data = "" then wire
  else
    let set := setMessageDeltaUsageInt relay
    let wire := set wire "usage.input_tokens" usage.inputTokens
    let wire := set wire "usage.cache_read_input_tokens" usage.cacheReadInputTokens
    let wire := set wire "usage.cache_creation_input_tokens" usage.cacheCreationInputTokens
    match usage.cacheCreation with
    | some split =>
      let wire := set wire "usage.cache_creation.ephemeral_5m_input_tokens"
        split.ephemeral5mInputTokens
      set wire "usage.cache_creation.ephemeral_1h_input_tokens" split.ephemeral1hInputTokens
    | none => wire

end

end Mujian.Streams
