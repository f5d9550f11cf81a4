import Mujian.Streams.Evidence

/-!
# Relaying a Claude stream

`handleStreamResponseData` takes one event of the upstream: it checks the event, records what it
reports in a `ClaudeResponseInfo`, checks what is about to be written, and writes it in the format
of the client. `claudeStreamHandler` runs it over a stream and settles the usage at the end.
`handle_cases` says all that one event can do.

The fields `accepted` and `delivered` are not in the source.
-/

namespace Mujian.Streams

open Pricing Relay

/-- A line of data from the upstream, with what its decoders make of it. -/
structure Event where
  wire : Wire
  eventType : Except String EventType
  response : Except String ClaudeResponse

structure ClaudeResponseInfo where
  responseId : String := ""
  created : ℤ := 0
  (model responseText : String := "")
  usage : Usage := {}
  (done sawMessageStart sawMessageStop sawValidInputUsage sawTerminalUsage : Bool := false)
  sawTerminalEvent : Bool := false
  upstreamBillableOutputBytes : ℤ := 0
  billableOutputText : String := ""
  (billableOutputBytes failedReportedCompletionTokens : ℤ := 0)
  apiKeyOutputSuffix : List Char := []
  toolCallIndexes : List (ℤ × ℤ) := []
  nextToolCallIndex : ℤ := 0

/-- What is written to the client: an event, a chunk (`none` is the JSON text `null`), or a
comment that keeps the connection alive. -/
inductive Payload
  | event (response : ClaudeResponse) (wire : Wire)
  | chunk (chunk : Option ChatCompletionsStreamResponse)
  | keepalive

/-! ## Recording an event -/

def claudeStreamMayAddToolCallIndex (response : ClaudeResponse) : Bool := response.index.isSome &&
    (response.type = .contentBlockStart && response.contentBlock.any (·.type = "tool_use") ||
      response.type = .contentBlockDelta && response.delta.any (·.type = "input_json_delta"))

/-- The number of the tool call that a block belongs to, with the numbers given out so far. -/
def toolCallIndex (indexes : List (ℤ × ℤ)) (next : ℤ) (response : ClaudeResponse) :
    ℤ × List (ℤ × ℤ) × ℤ :=
  match response.index with
  | none => (0, indexes, next)
  | some contentBlockIndex =>
    match indexes.lookup contentBlockIndex with
    | some toolIndex => (toolIndex, indexes, next)
    | none =>
      if claudeStreamMayAddToolCallIndex response then
        (next, (contentBlockIndex, next) :: indexes, next + 1)
      else (0, indexes, next)

def ClaudeResponseInfo.openAIToolCallIndex (claude : ClaudeResponseInfo)
    (response : ClaudeResponse) : ℤ × ClaudeResponseInfo :=
  let (toolIndex, indexes, next) :=
    toolCallIndex claude.toolCallIndexes claude.nextToolCallIndex response
  (toolIndex, { claude with toolCallIndexes := indexes, nextToolCallIndex := next })

/-- The counters of a `message_start`. -/
def startUsage (usage : Usage) (reported : ClaudeUsage) : Usage :=
  { usage with
    promptTokens := max usage.promptTokens reported.inputTokens, usageSemantic := "anthropic"
    promptTokensDetails :=
      { usage.promptTokensDetails with
        cachedTokens := max usage.promptTokensDetails.cachedTokens reported.cacheReadInputTokens
        cachedCreationTokens := max usage.promptTokensDetails.cachedCreationTokens
          reported.cacheCreationInputTokens }
    claudeCacheCreation5mTokens :=
      max usage.claudeCacheCreation5mTokens reported.getCacheCreation5mTokens
    claudeCacheCreation1hTokens :=
      max usage.claudeCacheCreation1hTokens reported.getCacheCreation1hTokens
    completionTokens := max usage.completionTokens reported.outputTokens }

def raise (recorded reported : ℤ) : ℤ := if 0 < reported then max recorded reported else recorded

/-- The counters of a `message_delta`. -/
def deltaUsage (usage : Usage) (reported : ClaudeUsage) : Usage :=
  { usage with
    promptTokens := raise usage.promptTokens reported.inputTokens, usageSemantic := "anthropic"
    promptTokensDetails :=
      { usage.promptTokensDetails with
        cachedTokens := raise usage.promptTokensDetails.cachedTokens reported.cacheReadInputTokens
        cachedCreationTokens := raise usage.promptTokensDetails.cachedCreationTokens
          reported.cacheCreationInputTokens }
    claudeCacheCreation5mTokens :=
      raise usage.claudeCacheCreation5mTokens reported.getCacheCreation5mTokens
    claudeCacheCreation1hTokens :=
      raise usage.claudeCacheCreation1hTokens reported.getCacheCreation1hTokens
    completionTokens := raise usage.completionTokens reported.outputTokens }

theorem le_raise (recorded reported : ℤ) : recorded ≤ raise recorded reported := by
  rw [raise]
  split
  · exact le_max_left _ _
  · exact le_rfl

theorem le_raise_reported {recorded reported : ℤ} (h : 0 < reported) :
    reported ≤ raise recorded reported := by
  rw [raise, if_pos h]
  exact le_max_right _ _

theorem recorded_startUsage (counter : Counter) (usage : Usage) (reported : ClaudeUsage) :
    counter.recorded (startUsage usage reported) =
      max (counter.recorded usage) (counter.reported reported) := by
  cases counter <;> rfl

theorem recorded_deltaUsage (counter : Counter) (usage : Usage) (reported : ClaudeUsage) :
    counter.recorded (deltaUsage usage reported) =
      raise (counter.recorded usage) (counter.reported reported) := by
  cases counter <;> rfl

namespace ClaudeResponseInfo

section

variable (claude : ClaudeResponseInfo) (response : ClaudeResponse)

def recordStart (message : Option ClaudeMessage) : ClaudeResponseInfo :=
  match message with
  | none => { claude with sawMessageStart := true }
  | some message =>
    { claude with
      sawMessageStart := true, responseId := message.id
      model := message.model
      sawValidInputUsage :=
        if message.usage.isSome then hasValidClaudeInputUsage message.usage
        else claude.sawValidInputUsage
      usage := (message.usage.map (startUsage claude.usage)).getD claude.usage }

/-- A `message_delta` with a stop reason and final usage. -/
def terminates : Bool := hasClaudeStopReason response && hasValidClaudeTerminalUsage response.usage

def recordDelta : ClaudeResponseInfo :=
  { claude with
    sawTerminalUsage := claude.sawTerminalUsage || terminates response
    sawTerminalEvent := claude.sawTerminalEvent || terminates response
    usage := (response.usage.map (deltaUsage claude.usage)).getD claude.usage
    done := claude.done || hasClaudeStopReason response }

end

end ClaudeResponseInfo

section

variable (relay : ClaudeRelay) (after : ClaudeResponseInfo) (claude : ClaudeResponseInfo)
  (response : ClaudeResponse)

/-- The new state, and whether the event has a chunk. -/
def formatClaudeResponseInfo (claude : ClaudeResponseInfo) : ClaudeResponseInfo × Bool :=
  match response.type with
  | .messageStart => (claude.recordStart response.message, true)
  | .contentBlockDelta =>
    let texts := (response.delta.map fun delta =>
      [delta.text, delta.thinking, delta.partialJson].reduceOption).getD []
    ({ claude with responseText := claude.responseText ++ String.join texts }, true)
  | .messageDelta => (claude.recordDelta response, true)
  | .contentBlockStart =>
    let text := (response.contentBlock.bind (·.text)).getD ""
    ({ claude with responseText := claude.responseText ++ text }, true)
  | .messageStop => ({ claude with done := true, sawMessageStop := true }, false)
  | _ => (claude, false)

/-! ## The checks -/

section

variable (event : Event) (wire : Wire) (projected : ℤ) (write : WriteOutcome)

/-- `helper.ParseSSEEventType` and `isManagedClaudeStreamEventType`. -/
def checkEventType : Except StreamError Unit :=
  if relay.isManagedClaudeRelay then
    match event.eventType with
    | .error cause => .error (.invalidEventType cause)
    | .ok (.other _) => .error .unsupportedEventType
    | .ok _ => .ok ()
  else .ok ()

def decodeResponse : Except StreamError ClaudeResponse :=
  match event.response with
  | .error cause => .error (.decode cause)
  | .ok response => .ok response

def checkClaudeError : Except StreamError Unit :=
  match response.error with
  | some text => .error (.upstream text)
  | none => .ok ()

/-- A `message_start` announces a message of the authorized model. -/
def checkStartMessage : Except StreamError Unit :=
  if response.type = .messageStart then
    match response.message with
    | none => .error .missingMessage
    | some message => validateClaudeResponseModelAuthorization relay message.model
  else .ok ()

/-- The counters of the event, and those of the message it announces. -/
def checkReportedUsage : Except StreamError Unit := do
  validateClaudeUsageAuthorization relay response.usage
  match response.message with
  | some message => validateClaudeUsageAuthorization relay message.usage
  | none => .ok ()

def checkStartEvidence : Except StreamError Unit :=
  if response.type = .messageStart then
    validateClaudeInputEvidenceUsage relay (response.message.bind (·.usage))
  else .ok ()

/-- Managed channels report no negative counters. -/
def checkSigns : Except StreamError Unit :=
  if relay.isManagedClaudeRelay && (claudeUsageHasNegativeValue response.usage ||
      claudeUsageHasNegativeValue (response.message.bind (·.usage))) then
    .error .invalidUsage
  else .ok ()

def checkResponse : Except StreamError ClaudeResponse := do
  validateManagedClaudeResponseString relay event.wire
  checkEventType relay event
  let response ← decodeResponse event
  checkClaudeError response
  validateClaudeResponseToolPricing relay response
  checkStartMessage relay response
  checkReportedUsage relay response
  checkStartEvidence relay response
  checkSigns relay response
  return response

/-- What is checked of an event of a managed channel against the events before it. -/
def checkProtocol : Except StreamError Unit :=
  if claude.sawTerminalEvent ∧ (response.type ≠ .messageStop ∨ claude.sawMessageStop) then
    .error .afterTerminal
  else if response.type = .messageStart ∧ claude.sawMessageStart then .error .duplicateStart
  else if response.type ≠ .messageStart ∧
      (claude.sawMessageStart = false ∨ claude.sawValidInputUsage = false) then
    .error .beforeStart
  else if response.type = .messageStart ∧
      hasValidClaudeInputUsage (response.message.bind (·.usage)) = false then
    .error .startUsage
  else if response.type = .messageDelta ∧ hasClaudeStopReason response ∧
      hasValidClaudeTerminalUsage response.usage = false then
    .error .terminalUsage
  else if response.type = .messageDelta ∧ claudeUsageRegresses claude.usage response.usage then
    .error .regressed
  else if response.type = .messageStop ∧ claude.sawTerminalUsage = false then
    .error .endedWithoutUsage
  else .ok ()

/-- The bytes of output that the upstream has sent, with this event. -/
def projectedUpstreamBillableBytes : Except StreamError ℤ := do
  let evidence ← claudeStreamBillableEvidence response
  checkedClaudeBillableOutputBytes claude.upstreamBillableOutputBytes evidence.bytes

def reportedCompletionTokens : ℤ :=
  max ((response.usage.map (·.outputTokens)).getD 0) claude.usage.completionTokens

/-- Final usage covers the output that the upstream has sent. -/
def checkTerminalEvidence : Except StreamError Unit :=
  if response.type = .messageDelta ∧ ClaudeResponseInfo.terminates response then
    validateClaudeOutputEvidenceUsage projected (reportedCompletionTokens claude response)
  else .ok ()

/-- The data of an event for a Claude client: a `message_delta` gets the counters that it left
out. -/
def outgoingWire : Wire :=
  if response.type = .messageDelta ∧
      (relay.passThroughRequestEnabled || relay.passThroughBodyEnabled) = false then
    patchClaudeMessageDeltaUsageData relay wire (buildMessageDeltaPatchUsage response claude.usage)
  else wire

/-- Record the event and prepare what is written for it. -/
def formatEvent : ClaudeResponseInfo × Option Payload :=
  match relay.info.relayFormat with
  | .claude =>
    let after := (formatClaudeResponseInfo response claude).1
    (after, some (.event response (outgoingWire relay after response wire)))
  | .openAI =>
    let (toolIndex, indexed) := claude.openAIToolCallIndex response
    let (after, shouldWrite) := formatClaudeResponseInfo response indexed
    let chunk := (streamResponseClaude2OpenAI response toolIndex).map fun chunk =>
      { chunk with id := after.responseId, created := after.created, model := after.model }
    (after, if shouldWrite then some (.chunk chunk) else none)
  | _ => (claude, none)

/-- What is checked of the data about to be written. -/
def checkPayload : Payload → Except StreamError Unit
  | .event _ wire => validateManagedClaudeResponseString relay wire
  | .chunk chunk => validateManagedClaudeResponseValue relay ((chunk.map (·.json)).getD .scalar)
  | .keepalive => .ok ()

def writtenEvidence : Except StreamError BillableEvidence :=
  if relay.isManagedClaudeRelay then do
    let written ← claudeWrittenStreamBillableEvidence response relay.info.relayFormat
    let _ ← checkedClaudeBillableOutputBytes after.billableOutputBytes written.bytes
    return written
  else .ok {}

/-- The search for the key goes on through the texts of the event. -/
def searchFragments (fragments : List String) : Except StreamError (List Char) :=
  let (suffix, leaksAPIKey) :=
    advanceClaudeAPIKeySuffix after.apiKeyOutputSuffix relay.managedClaudeAPIKey fragments
  if leaksAPIKey then .error .credential else .ok suffix

/-- Checks the data about to be written, for the evidence in it and the suffix that the search for
the key goes on with. -/
def checkWritten (payload : Payload) : Except StreamError (BillableEvidence × List Char) := do
  let written ← writtenEvidence relay after response
  checkPayload relay payload
  let fragments ← claudeWrittenStreamFragments response relay.info.relayFormat
  let suffix ← searchFragments relay after fragments
  return (written, suffix)

/-- What is checked before an event takes effect: the accumulated usage, and the data. -/
def checkOutgoing
    (payload : Option Payload) : Except StreamError (BillableEvidence × List Char) := do
  validateAccumulatedClaudeUsageAuthorization relay after.usage
  match payload with
  | none => .ok ({}, after.apiKeyOutputSuffix)
  | some payload => checkWritten relay after response payload

/-! ## One event -/

/-- The result of an event: the state, what was handed to the connection, and the error. -/
structure Handled where
  claude : ClaudeResponseInfo
  payload : Option Payload := none
  error : Option StreamError := none

/-- Write without recording anything. -/
def send (payload : Payload) (write : WriteOutcome) : Handled :=
  { claude := claude
    payload := some payload
    error := if write = .done then none else some (.write write) }

/-- Once the stream has started, pings keep the connection of the client alive too. -/
def forwardPing : Handled :=
  if claude.sawMessageStart && claude.sawValidInputUsage then
    match relay.info.relayFormat with
    | .claude => send claude (.event response wire) write
    | .openAI => send claude .keepalive write
    | _ => { claude := claude }
  else { claude := claude }

def ClaudeResponseInfo.recordWritten (claude : ClaudeResponseInfo) (written : BillableEvidence)
    (suffix : List Char) : ClaudeResponseInfo :=
  { claude with
    billableOutputBytes :=
      if 0 < written.bytes then claude.billableOutputBytes + written.bytes
      else claude.billableOutputBytes
    billableOutputText :=
      if 0 < written.bytes then claude.billableOutputText ++ written.text
      else claude.billableOutputText
    apiKeyOutputSuffix := suffix }

/-- Write what was prepared for a checked event. A failed write is not recorded. -/
def commit (payload : Option Payload) (written : BillableEvidence)
    (suffix : List Char) (write : WriteOutcome) : Handled :=
  match payload with
  | none => { claude := after }
  | some payload =>
    if write = .done then { claude := after.recordWritten written suffix, payload := some payload }
    else { claude := after, payload := some payload, error := some (.write write) }

/-- The bytes that the upstream has sent count for managed channels. -/
def ClaudeResponseInfo.withUpstreamBytes (claude : ClaudeResponseInfo) (relay : ClaudeRelay)
    (projected : ℤ) : ClaudeResponseInfo :=
  if relay.isManagedClaudeRelay then { claude with upstreamBillableOutputBytes := projected }
  else claude

/-- The part after the evidence was measured. An event that fails here is taken back. -/
def writeEvent : Handled :=
  let (formatted, payload) := formatEvent relay claude response wire
  let after := formatted.withUpstreamBytes relay projected
  match checkOutgoing relay after response payload with
  | .error e => { claude := claude, error := some e }
  | .ok (written, suffix) => commit after payload written suffix write

/-- The part for managed channels before anything is recorded. -/
def handleManaged : Handled :=
  if response.type = .ping then forwardPing relay claude response wire write
  else
    match checkProtocol claude response with
    | .error e => { claude := claude, error := some e }
    | .ok () =>
      match projectedUpstreamBillableBytes claude response with
      | .error e => { claude := claude, error := some e }
      | .ok projected =>
        match checkTerminalEvidence claude response projected with
        | .error e =>
          { claude := { claude with
              failedReportedCompletionTokens := max claude.failedReportedCompletionTokens
                (reportedCompletionTokens claude response) }
            error := some e }
        | .ok () => writeEvent relay claude response wire projected write

def handleStreamResponseData : Handled :=
  match checkResponse relay event with
  | .error e => { claude := claude, error := some e }
  | .ok response =>
    if relay.isManagedClaudeRelay then handleManaged relay claude response event.wire write
    else writeEvent relay claude response event.wire 0 write

/-! ## What one event can do -/

def recorded : ClaudeResponseInfo :=
  (formatEvent relay claude response wire).1.withUpstreamBytes relay projected

def prepared : Option Payload := (formatEvent relay claude response wire).2

end

end

/-- The event follows the protocol, and its output is covered by the usage that it reports. -/
structure Admitted (claude : ClaudeResponseInfo) (response : ClaudeResponse) (projected : ℤ) :
    Prop where
  notPing : response.type ≠ .ping
  protocol : checkProtocol claude response = .ok ()
  measured : projectedUpstreamBillableBytes claude response = .ok projected
  covered : checkTerminalEvidence claude response projected = .ok ()

/-- All that one event can do: it is rejected, with or without a record of the completion that it
reported; it is a ping of a managed channel; or it is recorded and written. -/
inductive Outcome (relay : ClaudeRelay) (claude : ClaudeResponseInfo) (event : Event)
    (write : WriteOutcome) : Handled → Prop
  | rejected (e : StreamError) :
    Outcome relay claude event write { claude := claude, error := some e }
  | uncovered (response : ClaudeResponse) (e : StreamError) : Outcome relay claude event write
      { claude := { claude with
          failedReportedCompletionTokens := max claude.failedReportedCompletionTokens
            (reportedCompletionTokens claude response) }
        error := some e }
  | pinged (response : ClaudeResponse) (hresponse : event.response = .ok response)
    (hmanaged : relay.isManagedClaudeRelay = true) (hping : response.type = .ping) :
    Outcome relay claude event write (forwardPing relay claude response event.wire write)
  | committed (response : ClaudeResponse) (projected : ℤ) (written : BillableEvidence)
    (suffix : List Char) (hresponse : event.response = .ok response)
    (hadmitted : relay.isManagedClaudeRelay = true → Admitted claude response projected)
    (houtgoing : checkOutgoing relay (recorded relay claude response event.wire projected) response
      (prepared relay claude response event.wire) = .ok (written, suffix)) :
    Outcome relay claude event write
      (commit (recorded relay claude response event.wire projected)
        (prepared relay claude response event.wire) written suffix write)

variable {relay : ClaudeRelay} {event : Event} {response : ClaudeResponse}
  {claude : ClaudeResponseInfo} {write : WriteOutcome}

theorem response_of_checkResponse
    (h : checkResponse relay event = .ok response) : event.response = .ok response := by
  rw [checkResponse] at h
  simp only [except_bind_eq_ok_iff] at h
  obtain ⟨-, -, -, -, decoded, hdecoded, -, -, -, -, -, -, -, -, -, -, -, -, h⟩ := h
  cases h
  rw [decodeResponse] at hdecoded
  cases hresponse : event.response with
  | error cause =>
    rw [hresponse] at hdecoded
    cases hdecoded
  | ok other =>
    rw [hresponse] at hdecoded
    cases hdecoded
    rfl

theorem writeEvent_outcome {projected : ℤ} (hresponse : event.response = .ok response)
    (hadmitted : relay.isManagedClaudeRelay = true → Admitted claude response projected) :
    Outcome relay claude event write
      (writeEvent relay claude response event.wire projected write) := by
  have heq : writeEvent relay claude response event.wire projected write =
      match checkOutgoing relay (recorded relay claude response event.wire projected) response
        (prepared relay claude response event.wire) with
      | .error e => { claude := claude, error := some e }
      | .ok (written, suffix) =>
        commit (recorded relay claude response event.wire projected)
          (prepared relay claude response event.wire) written suffix write := rfl
  rw [heq]
  cases houtgoing : checkOutgoing relay (recorded relay claude response event.wire projected)
      response (prepared relay claude response event.wire) with
  | error e => exact .rejected e
  | ok result => exact .committed response projected _ _ hresponse hadmitted houtgoing

theorem handleManaged_outcome (hresponse : event.response = .ok response)
    (hmanaged : relay.isManagedClaudeRelay = true) :
    Outcome relay claude event write (handleManaged relay claude response event.wire write) := by
  rw [handleManaged]
  split
  · next hping => exact .pinged response hresponse hmanaged hping
  · next hping =>
    cases hprotocol : checkProtocol claude response with
    | error e => exact .rejected e
    | ok _ =>
      cases hprojected : projectedUpstreamBillableBytes claude response with
      | error e => exact .rejected e
      | ok projected =>
        dsimp only
        cases hcovered : checkTerminalEvidence claude response projected with
        | error e => exact .uncovered response e
        | ok _ =>
          exact writeEvent_outcome hresponse fun _ => ⟨hping, hprotocol, hprojected, hcovered⟩

theorem handle_cases (relay : ClaudeRelay) (claude : ClaudeResponseInfo) (event : Event)
    (write : WriteOutcome) :
    Outcome relay claude event write (handleStreamResponseData relay claude event write) := by
  rw [handleStreamResponseData]
  cases hcheck : checkResponse relay event with
  | error e => exact .rejected e
  | ok response =>
    have hresponse := response_of_checkResponse hcheck
    cases hmanaged : relay.isManagedClaudeRelay with
    | true => exact handleManaged_outcome hresponse hmanaged
    | false => exact writeEvent_outcome hresponse (by simp [hmanaged])

theorem checkOutgoing_ok {after : ClaudeResponseInfo}
    {payload : Option Payload} {result : BillableEvidence × List Char}
    (h : checkOutgoing relay after response payload = .ok result) :
    validateAccumulatedClaudeUsageAuthorization relay after.usage = .ok () ∧
      ∀ p, payload = some p → checkWritten relay after response p = .ok result := by
  unfold checkOutgoing at h
  rw [except_bind_eq_ok_iff] at h
  obtain ⟨_, hvalid, hwritten⟩ := h
  refine ⟨hvalid, ?_⟩
  rintro p rfl
  exact hwritten

theorem checkWritten_ok {after : ClaudeResponseInfo}
    {payload : Payload} {written : BillableEvidence}
    {suffix : List Char} (h : checkWritten relay after response payload = .ok (written, suffix)) :
    writtenEvidence relay after response = .ok written ∧
      ∃ fragments, claudeWrittenStreamFragments response relay.info.relayFormat = .ok fragments ∧
        searchFragments relay after fragments = .ok suffix := by
  rw [checkWritten] at h
  simp only [except_bind_eq_ok_iff] at h
  obtain ⟨evidence, hevidence, _, _, fragments, hfragments, rest, hrest, hresult⟩ := h
  cases hresult
  exact ⟨hevidence, fragments, hfragments, hrest⟩

def ClaudeRelay.relays (relay : ClaudeRelay) : Prop :=
  relay.info.relayFormat = .claude ∨ relay.info.relayFormat = .openAI

theorem formatClaudeResponseInfo_indexed (response : ClaudeResponse) (claude : ClaudeResponseInfo)
    (indexes : List (ℤ × ℤ)) (next : ℤ) :
    formatClaudeResponseInfo response
        { claude with toolCallIndexes := indexes, nextToolCallIndex := next } =
      ({ (formatClaudeResponseInfo response claude).1 with
          toolCallIndexes := indexes, nextToolCallIndex := next },
        (formatClaudeResponseInfo response claude).2) := by
  rcases response with ⟨type, content, model, error, usage, index, contentBlock, delta, message⟩
  cases type <;> try rfl
  cases message <;> rfl

/-- Whatever the format of the client, an event is recorded in the same way, up to the counts of
bytes and the numbers of tool calls. -/
theorem recorded_eq (hrelays : relay.relays) (claude : ClaudeResponseInfo)
    (response : ClaudeResponse) (wire : Wire) (projected : ℤ) :
    ∃ bytes indexes next, (relay.isManagedClaudeRelay = true → bytes = projected) ∧
      recorded relay claude response wire projected =
        { (formatClaudeResponseInfo response claude).1 with
          upstreamBillableOutputBytes := bytes, toolCallIndexes := indexes
          nextToolCallIndex := next } := by
  have hbytes : ∀ formatted : ClaudeResponseInfo, ∃ bytes,
      (relay.isManagedClaudeRelay = true → bytes = projected) ∧
        formatted.withUpstreamBytes relay projected =
          { formatted with upstreamBillableOutputBytes := bytes } := by
    intro formatted
    rw [ClaudeResponseInfo.withUpstreamBytes]
    split
    · exact ⟨projected, fun _ => rfl, rfl⟩
    · next hmanaged => exact ⟨_, fun h => absurd h hmanaged, rfl⟩
  rcases hrelays with hclaude | hopenAI
  · obtain ⟨bytes, hmanaged, heq⟩ := hbytes (formatClaudeResponseInfo response claude).1
    refine ⟨bytes, (formatClaudeResponseInfo response claude).1.toolCallIndexes,
      (formatClaudeResponseInfo response claude).1.nextToolCallIndex, hmanaged, ?_⟩
    rw [recorded, formatEvent, hclaude]
    exact heq
  · obtain ⟨bytes, hmanaged, heq⟩ := hbytes
      (formatClaudeResponseInfo response (claude.openAIToolCallIndex response).2).1
    refine ⟨bytes, (claude.openAIToolCallIndex response).2.toolCallIndexes,
      (claude.openAIToolCallIndex response).2.nextToolCallIndex, hmanaged, ?_⟩
    rw [recorded, formatEvent, hopenAI]
    refine heq.trans ?_
    rw [ClaudeResponseInfo.openAIToolCallIndex, formatClaudeResponseInfo_indexed]

/-- For other clients nothing is recorded or written. -/
theorem recorded_of_not_relays (hrelays : ¬ relay.relays)
    (claude : ClaudeResponseInfo) (response : ClaudeResponse) (wire : Wire) (projected : ℤ) :
    (∃ bytes, recorded relay claude response wire projected =
      { claude with upstreamBillableOutputBytes := bytes }) ∧
      prepared relay claude response wire = none := by
  have hformat : formatEvent relay claude response wire = (claude, none) := by
    rw [formatEvent]
    split
    · next h => exact absurd (.inl h) hrelays
    · next h => exact absurd (.inr h) hrelays
    · rfl
  rw [recorded, prepared, hformat]
  refine ⟨?_, rfl⟩
  rw [ClaudeResponseInfo.withUpstreamBytes]
  split
  · exact ⟨projected, rfl⟩
  · exact ⟨claude.upstreamBillableOutputBytes, rfl⟩

/-! ## A whole stream -/

/-- A line of data, or the tick of the keepalive timer, each with what a write for it comes to. -/
inductive Arrival
  | data (event : Event) (write : WriteOutcome)
  | tick (write : WriteOutcome)

structure StreamRun where
  claude : ClaudeResponseInfo
  /-- Whether anything was written to the connection. -/
  (written stopped : Bool := false)
  error : Option StreamError := none
  accepted : List ClaudeResponse := []
  delivered : List Payload := []

/-- The data was handed to the connection. -/
def WriteOutcome.delivers (write : WriteOutcome) : Bool := write = .unflushed || write = .done

def ClaudeResponseInfo.ended (claude : ClaudeResponseInfo) (relay : ClaudeRelay) : Bool :=
  relay.info.relayFormat = .openAI && claude.done &&
      (!relay.isManagedClaudeRelay || claude.sawTerminalUsage) ||
    claude.sawMessageStop

def StreamRun.after (relay : ClaudeRelay) (run : StreamRun) (event : Event)
    (write : WriteOutcome) (handled : Handled) : StreamRun :=
  { claude := handled.claude
    written := run.written || (handled.payload.isSome && write ≠ .gone)
    stopped := handled.error.isSome || handled.claude.ended relay, error := handled.error
    accepted := run.accepted ++ if handled.error.isNone then event.response.toOption.toList else []
    delivered := run.delivered ++ if write.delivers then handled.payload.toList else [] }

/-- The writer takes one line of data. -/
def StreamRun.handle (relay : ClaudeRelay) (run : StreamRun) (event : Event)
    (write : WriteOutcome) : StreamRun :=
  run.after relay event write (handleStreamResponseData relay run.claude event write)

/-- A keepalive comment; it is never the first thing that a managed channel writes. -/
def StreamRun.keepalive (relay : ClaudeRelay) (run : StreamRun) (write : WriteOutcome) :
    StreamRun :=
  if relay.isManagedClaudeRelay && !run.written then run
  else
    { run with
      written := run.written || write ≠ .gone, stopped := write ≠ .done
      delivered := run.delivered ++ if write.delivers then [.keepalive] else [] }

def StreamRun.step (relay : ClaudeRelay) (run : StreamRun) (arrival : Arrival) : StreamRun :=
  if run.stopped then run
  else
    match arrival with
    | .data event write => run.handle relay event write
    | .tick write => run.keepalive relay write

def StreamRun.start (relay : ClaudeRelay) : StreamRun where
  claude :=
    { responseId := relay.responseId
      created := relay.timestamp, model := relay.upstreamModelName }

def streamScannerHandler (relay : ClaudeRelay) (arrivals : List Arrival) : StreamRun :=
  arrivals.foldl (StreamRun.step relay) (StreamRun.start relay)

theorem streamScannerHandler_snoc (relay : ClaudeRelay) (before : List Arrival)
    (arrival : Arrival) :
    streamScannerHandler relay (before ++ [arrival]) =
      (streamScannerHandler relay before).step relay arrival := by
  rw [streamScannerHandler, List.foldl_append]
  rfl

/-- What holds at the start and is kept by every line of data and every tick holds at the end. -/
theorem streamScannerHandler_induction {I : StreamRun → Prop}
    (arrivals : List Arrival) (hstart : I (.start relay))
    (hdata : ∀ before event write, before ++ [.data event write] <+: arrivals →
      I (streamScannerHandler relay before) →
      (streamScannerHandler relay before).stopped = false →
      I ((streamScannerHandler relay before).handle relay event write))
    (htick : ∀ run write, I run → run.stopped = false → I (run.keepalive relay write)) :
    I (streamScannerHandler relay arrivals) := by
  have hprefix : ∀ before, before <+: arrivals → I (streamScannerHandler relay before) := by
    intro before
    induction before using List.reverseRecOn with
    | nil => exact fun _ => hstart
    | append_singleton before arrival ih =>
      intro hsnoc
      have hbefore := ih ((List.prefix_append _ _).trans hsnoc)
      rw [streamScannerHandler_snoc]
      unfold StreamRun.step
      split
      · exact hbefore
      · next hstopped =>
        have hgoing := Bool.eq_false_of_not_eq_true hstopped
        cases arrival with
        | data event write => exact hdata before event write hsnoc hbefore hgoing
        | tick write => exact htick _ write hbefore hgoing
  exact hprefix arrivals List.prefix_rfl

/-! ## Settling the usage -/

section

variable (relay : ClaudeRelay) (claude : ClaudeResponseInfo)

/-- The usage with the completion, and where no input was reported the prompt, estimated from what
was sent. -/
def estimatedUsage : Usage :=
  let responseText :=
    if relay.isManagedClaudeRelay then claude.billableOutputText else claude.responseText
  let minimumCompletionTokens :=
    if relay.isManagedClaudeRelay then
      (claudeEvidenceTokenFloor claude.billableOutputBytes).toOption.getD 0
    else 0
  let fallback := relay.estimateTokenByModel relay.upstreamModelName responseText
  { claude.usage with
    completionTokens :=
      max (max (max claude.usage.completionTokens claude.failedReportedCompletionTokens) fallback)
        minimumCompletionTokens
    promptTokens :=
      if hasRecordedClaudeInputUsage claude.usage then claude.usage.promptTokens
      else relay.info.estimatePromptTokens }

/-- The usage within the bounds that the request was authorized for. -/
def limitedUsage (usage : Usage) : Usage :=
  let cachedInputTokens :=
    usage.promptTokensDetails.cachedTokens + cacheCreationTokensForOpenAIUsage usage
  let uncachedLimit := max (relay.info.authorizedPromptTokens - cachedInputTokens) 0
  { usage with
    completionTokens := min usage.completionTokens relay.info.authorizedCompletionTokens
    promptTokens := min usage.promptTokens uncachedLimit }

def finalizeClaudeStreamUsage : ClaudeResponseInfo :=
  let usage :=
    if claude.usage.completionTokens = 0 ∨ claude.done = false then estimatedUsage relay claude
    else claude.usage
  let usage :=
    if relay.requiresClaudeUsageAuthorization ∧
        (claude.done = false ∨ claude.sawTerminalUsage = false) then
      limitedUsage relay usage
    else usage
  { claude with usage := { usage with usageSemantic := "anthropic" } }

end

/-! ## The handler -/

inductive StreamEndReason
  | none | done | timeout | clientGone | scannerErr | handlerStop | eof | panic | pingFail
  deriving DecidableEq

def StreamEndReason.name : StreamEndReason → String
  | .none => ""
  | .done => "done"
  | .timeout => "timeout"
  | .clientGone => "client_gone"
  | .scannerErr => "scanner_error"
  | .handlerStop => "handler_stop"
  | .eof => "eof"
  | .panic => "panic"
  | .pingFail => "ping_fail"

/-- How the scanner ended: the reason, and the error that goes with it. -/
structure StreamStatus where
  endReason : StreamEndReason
  endError : Option String := none
  tooLarge : Bool := false

inductive HandlerError
  | stream (error : StreamError)
  | tooLarge
  | abnormal (cause : String)
  | missingUsage
  | clientGone (cause : String)
  | interrupted (reason : StreamEndReason)
  | final (outcome : WriteOutcome)

/-- A Claude client is complete with the `message_stop`, other clients with the stop reason. -/
def ClaudeResponseInfo.complete (claude : ClaudeResponseInfo) (relay : ClaudeRelay) : Bool :=
  if relay.info.relayFormat = .claude then claude.sawMessageStop else claude.done

section

variable (relay : ClaudeRelay) (claude : ClaudeResponseInfo)

def validateClaudeStreamCompletion (status : StreamStatus) : Option HandlerError :=
  if status.endReason = .scannerErr ∧ status.tooLarge then some .tooLarge
  else if status.endReason = .panic ∨ status.endReason = .pingFail then
    some (.abnormal (status.endError.getD
      ("Claude stream ended abnormally (" ++ status.endReason.name ++ ")")))
  else if claude.complete relay ∧ relay.isManagedClaudeRelay ∧
      (claude.sawValidInputUsage = false ∨ claude.sawTerminalUsage = false) then
    some .missingUsage
  else if claude.complete relay then none
  else if status.endReason = .clientGone then
    some (.clientGone (status.endError.getD "context canceled"))
  else some (.interrupted status.endReason)

/-- What the two last writes to a chat completion client come to. -/
structure FinalWrites where
  (usage done : WriteOutcome := .done)

/-- The last write, and whether anything of it was written. A chat completion client is sent the
usage, if it asked for it, and the end marker. -/
def finalWrite (writes : FinalWrites) : WriteOutcome × Bool :=
  if relay.info.relayFormat = .openAI then
    if relay.shouldIncludeUsage ∧ writes.usage ≠ .done then (writes.usage, writes.usage ≠ .gone)
    else (writes.done, relay.shouldIncludeUsage || writes.done ≠ .gone)
  else (.done, false)

/-- What a failed stream is charged for: nothing, unless something was written. -/
def failedClaudeStreamUsage (written : Bool) : Option Usage :=
  if written then some (finalizeClaudeStreamUsage relay claude).usage else none

def claudeStreamHandler (arrivals : List Arrival) (status : StreamStatus)
    (writes : FinalWrites) : Option Usage × Option HandlerError :=
  let run := streamScannerHandler relay arrivals
  match run.error with
  | some error => (failedClaudeStreamUsage relay run.claude run.written, some (.stream error))
  | none =>
    match validateClaudeStreamCompletion relay run.claude status with
    | some error => (failedClaudeStreamUsage relay run.claude run.written, some error)
    | none =>
      let final := finalizeClaudeStreamUsage relay run.claude
      let (outcome, written) := finalWrite relay writes
      if outcome = .done then (some final.usage, none)
      else (failedClaudeStreamUsage relay final (run.written || written), some (.final outcome))

end

/-! ## A sample stream -/

def sampleRelay (format : RelayFormat) : ClaudeRelay where
  info :=
    { relayFormat := format
      channelMeta := some ⟨14, 1, true⟩, authorizedPromptTokens := 1000
      authorizedCompletionTokens := 100 }
  apiKey := "sk-secret"
  upstreamModelName := "claude-test"
  passThroughRequestEnabled := true

def sampleEvent (data : String) (value : JsonValue) (response : ClaudeResponse) : Event where
  wire := ⟨data, some value⟩
  eventType := .ok response.type
  response := .ok response

def sampleStart : Event := sampleEvent
    ("\x7b\"type\":\"message_start\",\"message\":\x7b\"id\":\"m\",\"model\":\"claude-test\"," ++
      "\"usage\":\x7b\"input_tokens\":10\x7d\x7d\x7d")
    (.obj ["type", "message"] [.str "message_start", .obj ["id", "model", "usage"]
      [.str "m", .str "claude-test", .obj ["input_tokens"] [.scalar]]])
    { type := .messageStart
      message := some { id := "m", model := "claude-test", usage := some { inputTokens := 10 } } }

def sampleText (index : ℕ) (text : String) : Event := sampleEvent
    ("\x7b\"type\":\"content_block_delta\",\"index\":" ++ index.repr ++
      ",\"delta\":\x7b\"type\":\"text_delta\",\"text\":\"" ++ text ++ "\"\x7d\x7d")
    (.obj ["type", "index", "delta"] [.str "content_block_delta", .scalar,
      .obj ["type", "text"] [.str "text_delta", .str text]])
    { type := .contentBlockDelta
      index := some index
      delta := some { type := "text_delta", text := some text } }

def sampleEnd (outputTokens : ℕ) : Event := sampleEvent
    ("\x7b\"type\":\"message_delta\",\"delta\":\x7b\"stop_reason\":\"end_turn\"\x7d," ++
      "\"usage\":\x7b\"output_tokens\":" ++ outputTokens.repr ++ "\x7d\x7d")
    (.obj ["type", "delta", "usage"] [.str "message_delta",
      .obj ["stop_reason"] [.str "end_turn"], .obj ["output_tokens"] [.scalar]])
    { type := .messageDelta
      delta := some { stopReason := some "end_turn" }
      usage := some { outputTokens := outputTokens } }

def sampleStop : Event :=
  sampleEvent "\x7b\"type\":\"message_stop\"\x7d" (.obj ["type"] [.str "message_stop"])
    { type := .messageStop }

/-- Every write succeeds. -/
def arrivals (events : List Event) : List Arrival := events.map (.data · .done)

end Mujian.Streams
