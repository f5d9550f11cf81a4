import Mathlib.Data.List.ReduceOption
import Mujian.Streams.ClaudeStream

/-!
# The key of the channel in the output

A client reads several outputs from one stream: texts, thinking, arguments of tool calls. The search
for the key goes through what is written in the order in which it is written, whichever output it
belongs to (`streamScannerHandler_seen`), and so finds it in every output whose pieces are written
one after the other.
-/

namespace Mujian.Streams

open Pricing Relay

/-! ## What a client reads -/

/-- An output: of a block of a Claude stream, or of a chat completion. -/
inductive Output
  | text (block : Option ℤ)
  | thinking (block : Option ℤ)
  | arguments (block : Option ℤ)
  | content
  | reasoning
  | toolArguments (index : ℤ)
  deriving DecidableEq

/-- A piece of what is written, with the output it belongs to, if any. -/
abbrev Piece : Type := Option Output × List Char

/-- The label of a text under a condition on the event. -/
def labelIf (condition : Bool) (output : Output) : Option Output :=
  if condition then some output else none

def pieceOf (label : Option Output) (text : Option String) : Piece := (label, (text.getD "").toList)

section

variable (format : RelayFormat) (response : ClaudeResponse)

def deltaPieces (delta : ClaudeMediaMessage) : List Piece :=
  let isDelta := response.type = .contentBlockDelta
  [pieceOf (labelIf (isDelta ∧ delta.type = "text_delta") (.text response.index)) delta.text,
    pieceOf (labelIf (isDelta ∧ delta.type = "thinking_delta") (.thinking response.index))
      delta.thinking,
    pieceOf (labelIf (isDelta ∧ delta.type = "input_json_delta") (.arguments response.index))
      delta.partialJson,
    pieceOf none (if delta.type = "redacted_thinking" then some delta.data else none),
    pieceOf none (some delta.signature)]

def blockPieces (block : ClaudeMediaMessage) : List Piece :=
  let isStart := response.type = .contentBlockStart
  [pieceOf (labelIf (isStart ∧ block.type = "text") (.text response.index)) block.text,
    pieceOf (labelIf (isStart ∧ block.type = "thinking") (.thinking response.index))
      block.thinking,
    pieceOf none (if block.type = "tool_use" then some block.name else none),
    pieceOf none (if block.type = "tool_use" then block.input else none),
    pieceOf none (if block.type = "redacted_thinking" then some block.data else none)]

/-- What a Claude client reads of an event; it skips pings. -/
def claudePieces : List Piece :=
  if response.type = .ping then []
  else
    ((messageStartFragments response).toOption.getD []).map
        (fun text => pieceOf none (some text)) ++
      (response.delta.map (deltaPieces response)).getD [] ++
      (response.contentBlock.map (blockPieces response)).getD []

/-- What a chat completion client reads of a tool call. -/
def toolCallPieces (tool : ToolCallResponse) : List Piece :=
  [pieceOf none (some tool.name),
    pieceOf (some (.toolArguments (tool.index.getD 0))) (some tool.arguments)]

def chunkPieces (chunk : ChatCompletionsStreamResponse) : List Piece :=
  chunk.choices.flatMap fun choice =>
    [pieceOf (some .content) choice.delta.content,
      pieceOf (some .reasoning) choice.delta.reasoningContent] ++
      choice.delta.toolCalls.flatMap toolCallPieces

def Payload.pieces : Payload → List Piece
  | .event response _ => claudePieces response
  | .chunk written => (written.map chunkPieces).getD []
  | .keepalive => []

def deliveredPieces (run : StreamRun) : List Piece := run.delivered.flatMap Payload.pieces

/-- The output that a client has read. -/
def assembledOutput (output : Output) (run : StreamRun) : List Char :=
  Matching.assembled (some output) (deliveredPieces run)

/-! ## What the upstream sends -/

/-- What an event holds for a client of the given format. -/
def responsePieces (toolIndex : ℤ) (response : ClaudeResponse) : List Piece :=
  match format with
  | .claude => claudePieces response
  | .openAI => ((streamResponseClaude2OpenAI response toolIndex).map chunkPieces).getD []
  | _ => []

/-- The pieces that the upstream has sent, and the numbers of the tool calls in them. -/
structure Sent where
  pieces : List Piece := []
  indexes : List (ℤ × ℤ) := []
  next : ℤ := 0

def Sent.add (format : RelayFormat) (sent : Sent) : Arrival → Sent
  | .data event _ =>
    match event.response with
    | .ok response =>
      if response.type = .ping then sent
      else
        let (toolIndex, indexes, next) := toolCallIndex sent.indexes sent.next response
        { pieces := sent.pieces ++ responsePieces format toolIndex response
          indexes := indexes, next := next }
    | .error _ => sent
  | .tick _ => sent

/-- The pieces in the events of the upstream, in the order in which they arrive. -/
def sentPieces (arrivals : List Arrival) : Sent := arrivals.foldl (Sent.add format) {}

end

theorem sentPieces_snoc (format : RelayFormat) (before : List Arrival) (arrival : Arrival) :
    sentPieces format (before ++ [arrival]) = (sentPieces format before).add format arrival := by
  rw [sentPieces, List.foldl_append]
  rfl

theorem Sent.arrived_add (format : RelayFormat) (sent : Sent) (arrival : Arrival) :
    sent.pieces <+: (sent.add format arrival).pieces := by
  cases arrival with
  | data event write =>
    rw [Sent.add]
    cases event.response with
    | ok response =>
      dsimp only
      split
      · exact List.prefix_rfl
      · exact List.prefix_append _ _
    | error cause => exact List.prefix_rfl
  | tick write => exact List.prefix_rfl

/-! ## Pieces and fragments -/

def wholeText (pieces : List Piece) : List Char := (pieces.map Prod.snd).flatten

@[simp] theorem wholeText_nil : wholeText [] = [] := rfl

@[simp] theorem wholeText_append (pieces pieces' : List Piece) :
    wholeText (pieces ++ pieces') = wholeText pieces ++ wholeText pieces' := by simp [wholeText]

@[simp] theorem wholeText_cons (piece : Piece) (pieces : List Piece) :
    wholeText (piece :: pieces) = piece.2 ++ wholeText pieces := by simp [wholeText]

def fragmentText (fragments : List String) : List Char := (fragments.map String.toList).flatten

@[simp] theorem fragmentText_append (fragments fragments' : List String) :
    fragmentText (fragments ++ fragments') = fragmentText fragments ++ fragmentText fragments' := by
  simp [fragmentText]

theorem wholeText_deltaPieces (response : ClaudeResponse) (delta : ClaudeMediaMessage) :
    wholeText (deltaPieces response delta) = fragmentText (deltaFragments delta) := by
  rcases delta with
    ⟨type, text, thinking, partialJson, stopReason, signature, data, id, name, input⟩
  by_cases hredacted : type = "redacted_thinking" <;> by_cases hsignature : signature = "" <;>
    cases text <;> cases thinking <;> cases partialJson <;>
    simp [deltaPieces, deltaFragments, fragmentText, pieceOf, hredacted, hsignature]

theorem wholeText_blockPieces (response : ClaudeResponse) (block : ClaudeMediaMessage) :
    wholeText (blockPieces response block) = fragmentText (blockFragments block) := by
  rcases block with
    ⟨type, text, thinking, partialJson, stopReason, signature, data, id, name, input⟩
  by_cases htool : type = "tool_use" <;> by_cases hredacted : type = "redacted_thinking" <;>
    cases text <;> cases thinking <;> cases input <;>
    simp [blockPieces, blockFragments, fragmentText, pieceOf, htool, hredacted]

variable {response : ClaudeResponse} {fragments : List String} {evidence : BillableEvidence}
  {relay : ClaudeRelay} {sent : Sent} {run : StreamRun} {event : Event} {write : WriteOutcome}
  {suffix : List Char}

/-- For a Claude client the fragments that are searched are what it reads. -/
theorem wholeText_claudePieces (hping : response.type ≠ .ping)
    (h : claudeWrittenStreamFragments response .claude = .ok fragments) :
    wholeText (claudePieces response) = fragmentText fragments := by
  rw [claudeWrittenStreamFragments, except_bind_eq_ok_iff] at h
  obtain ⟨start, hstart, h⟩ := h
  cases h
  have hpieces : wholeText (start.map fun text => pieceOf none (some text)) =
      fragmentText start := by simp [wholeText, fragmentText, pieceOf, Function.comp_def]
  rw [claudePieces, if_neg hping, hstart]
  simp only [wholeText_append, fragmentText_append]
  congr 1
  · congr 1
    cases response.delta with
    | none => rfl
    | some delta => exact wholeText_deltaPieces response delta
  · cases response.contentBlock with
    | none => rfl
    | some block => exact wholeText_blockPieces response block

theorem addValues_text {builder result : BillableEvidence} {values : List (Option String)}
    (h : builder.addValues values = .ok result) :
    result.text.toList = builder.text.toList ++ fragmentText values.reduceOption := by
  rw [BillableEvidence.addValues] at h
  generalize values.reduceOption = texts at h ⊢
  induction texts generalizing builder with
  | nil =>
    cases h
    simp [fragmentText]
  | cons text texts ih =>
    rw [List.foldlM_cons, except_bind_eq_ok_iff] at h
    obtain ⟨middle, hmiddle, hrest⟩ := h
    rw [BillableEvidence.addString, ite_error_eq_ok_iff] at hmiddle
    obtain ⟨-, hmiddle⟩ := hmiddle
    cases hmiddle
    rw [ih hrest]
    simp [fragmentText]

/-- What a chat completion client reads of a delta is the evidence of the delta. -/
theorem wholeText_blockDelta {delta : ClaudeMediaMessage}
    (toolIndex : ℤ) (h : openAIDeltaEvidence delta = .ok evidence) :
    wholeText (chunkPieces { choices := [{ delta := blockDelta delta toolIndex }] }) =
      evidence.text.toList := by
  rw [openAIDeltaEvidence] at h
  split at h
  · next htype =>
    rw [addValues_text h]
    cases hjson : delta.partialJson with
    | none =>
      cases htext : delta.text <;>
        simp [chunkPieces, blockDelta, withTools, htype, hjson, htext, pieceOf, fragmentText]
    | some arguments =>
      simp [chunkPieces, blockDelta, withTools, htype, hjson, pieceOf, fragmentText,
        toolCallPieces]
  · next hjson =>
    split at h
    · next htype =>
      rw [addValues_text h]
      cases htext : delta.text <;> cases hthinking : delta.thinking <;>
        simp [chunkPieces, blockDelta, withTools, htype, htext, hthinking, pieceOf, fragmentText]
    · next hthinking =>
      rw [addValues_text h]
      cases htext : delta.text <;>
        simp [chunkPieces, blockDelta, withTools, hjson, hthinking, htext, pieceOf, fragmentText]

/-- What a chat completion client reads of the start of a block is the evidence of the block. -/
theorem wholeText_blockStartDelta {block : ClaudeMediaMessage}
    (toolIndex : ℤ) (h : openAIBlockEvidence block = .ok evidence) :
    wholeText (chunkPieces { choices := [{ delta := blockStartDelta block toolIndex }] }) =
      evidence.text.toList := by
  rw [openAIBlockEvidence] at h
  split at h
  · next htype =>
    rw [addValues_text h]
    cases htext : block.text <;>
      simp [chunkPieces, blockStartDelta, withTools, htype, htext, pieceOf, fragmentText]
  · next htext =>
    split at h
    · next htype =>
      rw [BillableEvidence.addString, ite_error_eq_ok_iff] at h
      obtain ⟨-, h⟩ := h
      cases h
      simp [chunkPieces, blockStartDelta, withTools, htype, pieceOf, toolCallPieces]
    · next htool =>
      cases h
      simp [chunkPieces, blockStartDelta, withTools, htext, htool, pieceOf]

/-- For a chat completion client, too, the fragments that are searched are what it reads. -/
theorem wholeText_responsePieces
    (toolIndex : ℤ) (h : claudeWrittenStreamFragments response .openAI = .ok fragments) :
    wholeText (responsePieces .openAI toolIndex response) = fragmentText fragments := by
  rw [claudeWrittenStreamFragments, except_bind_eq_ok_iff] at h
  obtain ⟨evidence, hevidence, h⟩ := h
  have hfragments : fragmentText fragments = evidence.text.toList := by
    cases h
    split
    · next hempty => simp [fragmentText, hempty]
    · simp [fragmentText]
  rw [hfragments, responsePieces, streamResponseClaude2OpenAI]
  rw [claudeWrittenStreamBillableEvidence] at hevidence
  cases htype : response.type with
  | contentBlockDelta =>
    rw [htype] at hevidence
    cases hdelta : response.delta with
    | none =>
      rw [hdelta] at hevidence
      cases hevidence
      simp [chunkPieces, pieceOf]
    | some delta =>
      rw [hdelta] at hevidence
      exact wholeText_blockDelta toolIndex hevidence
  | contentBlockStart =>
    rw [htype] at hevidence
    cases hblock : response.contentBlock with
    | none =>
      rw [hblock] at hevidence
      cases hevidence
      rfl
    | some block =>
      rw [hblock] at hevidence
      exact wholeText_blockStartDelta toolIndex hevidence
  | messageStart | messageDelta =>
    rw [htype] at hevidence
    cases hevidence
    simp [chunkPieces, pieceOf]
  | contentBlockStop | messageStop | ping | error | other =>
    rw [htype] at hevidence
    cases hevidence
    rfl

/-! ## One event -/

/-- What is written for an event is what the event holds for the client. -/
theorem prepared_pieces (relay : ClaudeRelay) (claude : ClaudeResponseInfo)
    (response : ClaudeResponse) (wire : Wire) :
    ((prepared relay claude response wire).map Payload.pieces).getD [] =
      responsePieces relay.info.relayFormat
        (toolCallIndex claude.toolCallIndexes claude.nextToolCallIndex response).1 response := by
  rw [prepared, formatEvent]
  split
  · next hformat =>
    rw [hformat]
    rfl
  · next hformat =>
    rw [hformat, responsePieces]
    dsimp only
    rw [ClaudeResponseInfo.openAIToolCallIndex]
    generalize
      (toolCallIndex claude.toolCallIndexes claude.nextToolCallIndex response).1 = toolIndex
    cases htype : response.type with
    | messageStart | messageDelta | contentBlockDelta =>
      rw [streamResponseClaude2OpenAI, formatClaudeResponseInfo, htype]
      rfl
    | contentBlockStart =>
      rw [streamResponseClaude2OpenAI, formatClaudeResponseInfo, htype]
      cases response.contentBlock <;> rfl
    | contentBlockStop | messageStop | ping | error | other =>
      rw [streamResponseClaude2OpenAI, formatClaudeResponseInfo, htype]
      rfl
  · next hclaude hopenAI =>
    rw [responsePieces]
    · rfl
    · exact hclaude
    · exact hopenAI

/-- What is searched of an event is what is written for it. -/
theorem wholeText_prepared {claude : ClaudeResponseInfo} {wire : Wire} {payload : Payload}
    (hping : response.type ≠ .ping) (hprepared : prepared relay claude response wire = some payload)
    (h : claudeWrittenStreamFragments response relay.info.relayFormat = .ok fragments) :
    wholeText payload.pieces = fragmentText fragments := by
  have hpieces := prepared_pieces relay claude response wire
  rw [hprepared, Option.map_some, Option.getD_some] at hpieces
  rw [hpieces]
  by_cases hrelays : relay.relays
  · rcases hrelays with hformat | hformat
    · rw [hformat] at h ⊢
      exact wholeText_claudePieces hping h
    · rw [hformat] at h ⊢
      exact wholeText_responsePieces _ h
  · have hnone := (recorded_of_not_relays hrelays claude response wire 0).2
    rw [hprepared] at hnone
    cases hnone

theorem recorded_suffix (relay : ClaudeRelay) (claude : ClaudeResponseInfo)
    (response : ClaudeResponse) (wire : Wire) (projected : ℤ) :
    (recorded relay claude response wire projected).apiKeyOutputSuffix =
      claude.apiKeyOutputSuffix := by
  by_cases hrelays : relay.relays
  · obtain ⟨bytes, indexes, next, -, heq⟩ := recorded_eq hrelays claude response wire projected
    rw [heq]
    rw [formatClaudeResponseInfo]
    split
    · cases response.message <;> rfl
    all_goals rfl
  · obtain ⟨⟨bytes, heq⟩, -⟩ := recorded_of_not_relays hrelays claude response wire projected
    rw [heq]

theorem recorded_indexes (hformat : relay.info.relayFormat = .openAI)
    (claude : ClaudeResponseInfo) (response : ClaudeResponse) (wire : Wire) (projected : ℤ) :
    ((recorded relay claude response wire projected).toolCallIndexes,
      (recorded relay claude response wire projected).nextToolCallIndex) =
      (toolCallIndex claude.toolCallIndexes claude.nextToolCallIndex response).2 := by
  have hsame : ∀ formatted : ClaudeResponseInfo,
      ((formatted.withUpstreamBytes relay projected).toolCallIndexes,
        (formatted.withUpstreamBytes relay projected).nextToolCallIndex) =
        (formatted.toolCallIndexes, formatted.nextToolCallIndex) := by
    intro formatted
    rw [ClaudeResponseInfo.withUpstreamBytes]
    split <;> rfl
  rw [recorded, hsame, formatEvent, hformat]
  dsimp only
  rw [ClaudeResponseInfo.openAIToolCallIndex, formatClaudeResponseInfo_indexed]

/-! ## A whole stream -/

/-- The key is in nothing that was written. What was written is the beginning of what the upstream
sent; while the run goes on it is all of it, and the search stands at its end. -/
structure Searched (relay : ClaudeRelay) (sent : Sent) (run : StreamRun) : Prop where
  absent : ¬ relay.managedClaudeAPIKey.toList <:+: wholeText (deliveredPieces run)
  arrived : deliveredPieces run <+: sent.pieces
  seen : run.stopped = false → Matching.Seen relay.managedClaudeAPIKey.toList
    (wholeText (deliveredPieces run)) run.claude.apiKeyOutputSuffix
  all : run.stopped = false → deliveredPieces run = sent.pieces
  indexes : relay.info.relayFormat = .openAI → run.stopped = false →
    (run.claude.toolCallIndexes, run.claude.nextToolCallIndex) = (sent.indexes, sent.next)

theorem deliveredPieces_after (relay : ClaudeRelay) (run : StreamRun) (event : Event)
    (write : WriteOutcome) (handled : Handled) :
    deliveredPieces (run.after relay event write handled) = deliveredPieces run ++
      if write.delivers then (handled.payload.map Payload.pieces).getD [] else [] := by
  change (run.delivered ++ if write.delivers then handled.payload.toList else []).flatMap _ = _
  split
  · cases handled.payload <;> simp [deliveredPieces]
  · simp [deliveredPieces]

theorem Searched.stop {sent' : Sent} {run' : StreamRun} (hstopped : run'.stopped = true)
    (habsent : ¬ relay.managedClaudeAPIKey.toList <:+: wholeText (deliveredPieces run'))
    (harrived : deliveredPieces run' <+: sent'.pieces) : Searched relay sent' run' := by
  refine ⟨habsent, harrived, ?_, ?_, ?_⟩
  · rw [hstopped]
    exact nofun
  · rw [hstopped]
    exact nofun
  · rw [hstopped]
    exact fun _ => nofun

/-- A run that has passed on all that was sent. -/
theorem Searched.of_seen (hall : deliveredPieces run = sent.pieces)
    (hseen : Matching.Seen relay.managedClaudeAPIKey.toList (wholeText (deliveredPieces run))
      run.claude.apiKeyOutputSuffix)
    (hindexes : relay.info.relayFormat = .openAI →
      (run.claude.toolCallIndexes, run.claude.nextToolCallIndex) = (sent.indexes, sent.next)) :
    Searched relay sent run :=
  ⟨hseen.absent, by rw [hall], fun _ => hseen, fun _ => hall, fun hformat _ => hindexes hformat⟩

theorem Searched.of_same (h : Searched relay sent run) (hgoing : run.stopped = false)
    {run' : StreamRun} (hclaude : run'.claude = run.claude)
    (hsame : deliveredPieces run' = deliveredPieces run) : Searched relay sent run' := by
  refine Searched.of_seen ?_ ?_ fun hformat => ?_
  · rw [hsame]
    exact h.all hgoing
  · rw [hsame, hclaude]
    exact h.seen hgoing
  · rw [hclaude]
    exact h.indexes hformat hgoing

/-- A ping writes nothing that a client reads. -/
theorem Searched.pinged (h : Searched relay sent run) (hgoing : run.stopped = false)
    {payload : Option Payload} {error : Option StreamError}
    (hpieces : (payload.map Payload.pieces).getD [] = []) :
    Searched relay sent (run.after relay event write
      { claude := run.claude, payload := payload, error := error }) := by
  refine h.of_same hgoing rfl ?_
  rw [deliveredPieces_after, hpieces]
  simp

/-- The numbers of the tool calls agree, where they matter. -/
theorem Searched.sent_add (h : Searched relay sent run) (hgoing : run.stopped = false)
    (write : WriteOutcome) (hresponse : event.response = .ok response)
    (hping : response.type ≠ .ping) (wire : Wire) :
    (sent.add relay.info.relayFormat (.data event write)).pieces = sent.pieces ++
      ((prepared relay run.claude response wire).map Payload.pieces).getD [] := by
  rw [prepared_pieces, Sent.add, hresponse]
  dsimp only
  rw [if_neg hping]
  by_cases hformat : relay.info.relayFormat = .openAI
  · obtain ⟨hindexes, hnext⟩ := Prod.mk.inj (h.indexes hformat hgoing)
    rw [hindexes, hnext]
  · unfold responsePieces
    split
    · rfl
    · next hopenAI => exact absurd hopenAI hformat
    · rfl

section

variable (h : Searched relay sent run)
include h

theorem Searched.committed (hkey : relay.managedClaudeAPIKey ≠ "") (hgoing : run.stopped = false)
    {projected : ℤ} {written : BillableEvidence}
    (hresponse : event.response = .ok response) (hping : response.type ≠ .ping)
    (houtgoing : checkOutgoing relay (recorded relay run.claude response event.wire projected)
      response (prepared relay run.claude response event.wire) = .ok (written, suffix)) :
    Searched relay (sent.add relay.info.relayFormat (.data event write))
      (run.after relay event write
        (commit (recorded relay run.claude response event.wire projected)
          (prepared relay run.claude response event.wire) written suffix write)) := by
  have hadd := h.sent_add hgoing write hresponse hping event.wire
  generalize hclaude : recorded relay run.claude response event.wire projected = claude
    at houtgoing ⊢
  have hindexes : relay.info.relayFormat = .openAI →
      (claude.toolCallIndexes, claude.nextToolCallIndex) =
        ((sent.add relay.info.relayFormat (.data event write)).indexes,
          (sent.add relay.info.relayFormat (.data event write)).next) := by
    intro hformat
    obtain ⟨hindexes, hnext⟩ := Prod.mk.inj (h.indexes hformat hgoing)
    rw [← hclaude, recorded_indexes hformat, hindexes, hnext, Sent.add, hresponse]
    dsimp only
    rw [if_neg hping]
  have hsuffix : claude.apiKeyOutputSuffix = run.claude.apiKeyOutputSuffix := by
    rw [← hclaude, recorded_suffix]
  generalize sent.add relay.info.relayFormat (.data event write) = sent' at hadd hindexes ⊢
  have hall := h.all hgoing
  have hseen := h.seen hgoing
  cases hprepared : prepared relay run.claude response event.wire with
  | none =>
    -- nothing is written, and nothing is searched
    rw [hprepared] at hadd
    have hsame : deliveredPieces (run.after relay event write { claude }) =
        deliveredPieces run := by
      rw [deliveredPieces_after]
      simp
    change Searched relay _ (run.after relay event write { claude })
    refine Searched.of_seen ?_ ?_ hindexes
    · rw [hsame, hadd, hall]
      simp
    · rw [hsame]
      change Matching.Seen _ _ claude.apiKeyOutputSuffix
      rw [hsuffix]
      exact hseen
  | some payload =>
    rw [hprepared] at hadd houtgoing
    rw [Option.map_some, Option.getD_some] at hadd
    obtain ⟨-, fragments, hfragments, hsearch⟩ :=
      checkWritten_ok ((checkOutgoing_ok houtgoing).2 payload rfl)
    have htext := wholeText_prepared hping hprepared hfragments
    have hscan : Matching.scan relay.managedClaudeAPIKey.toList run.claude.apiKeyOutputSuffix
        (fragments.map String.toList) = (suffix, false) := by
      rw [searchFragments, advanceClaudeAPIKeySuffix, if_neg hkey, ite_error_eq_ok_iff,
        hsuffix] at hsearch
      obtain ⟨hclean, hok⟩ := hsearch
      cases hok
      exact Prod.ext rfl (Bool.eq_false_of_not_eq_true hclean)
    have hnext : Matching.Seen relay.managedClaudeAPIKey.toList
        (wholeText (deliveredPieces run ++ payload.pieces)) suffix := by
      have hnew := hseen.scan (fragments.map String.toList) (by rw [hscan])
      rw [hscan] at hnew
      rw [wholeText_append, htext]
      exact hnew
    unfold commit
    dsimp only
    split
    · next hdone =>
      have hdelivered : deliveredPieces (run.after relay event write
          { claude := claude.recordWritten written suffix, payload := some payload }) =
          deliveredPieces run ++ payload.pieces := by
        rw [deliveredPieces_after, hdone]
        rfl
      refine Searched.of_seen ?_ ?_ hindexes
      · rw [hdelivered, hadd, hall]
      · rw [hdelivered]
        exact hnext
    · refine Searched.stop rfl ?_ ?_
      · rw [deliveredPieces_after]
        split
        · exact hnext.absent
        · rw [List.append_nil]
          exact h.absent
      · rw [deliveredPieces_after, hadd, hall]
        split
        · exact List.prefix_rfl
        · rw [List.append_nil]
          exact List.prefix_append _ _

theorem Searched.handle (hmanaged : relay.isManagedClaudeRelay = true)
    (hkey : relay.managedClaudeAPIKey ≠ "") (hgoing : run.stopped = false) (event : Event)
    (write : WriteOutcome) :
    Searched relay (sent.add relay.info.relayFormat (.data event write))
      (run.handle relay event write) := by
  have hrejected : ∀ claude e, Searched relay (sent.add relay.info.relayFormat (.data event write))
      (run.after relay event write { claude := claude, error := some e }) := by
    intro claude e
    refine Searched.stop rfl ?_ ?_
    · rw [deliveredPieces_after]
      simpa using h.absent
    · rw [deliveredPieces_after]
      simpa using h.arrived.trans (sent.arrived_add _ _)
  have houtcome := handle_cases relay run.claude event write
  rw [StreamRun.handle]
  generalize handleStreamResponseData relay run.claude event write = handled at houtcome ⊢
  cases houtcome with
  | rejected e => exact hrejected _ e
  | uncovered response e => exact hrejected _ e
  | pinged response hresponse _ hping =>
    have hsent : sent.add relay.info.relayFormat (.data event write) = sent := by
      rw [Sent.add, hresponse]
      exact if_pos hping
    rw [hsent, forwardPing]
    split
    · split
      · refine h.pinged hgoing ?_
        change claudePieces response = []
        rw [claudePieces, if_pos hping]
      · exact h.pinged hgoing rfl
      · exact h.pinged hgoing rfl
    · exact h.pinged hgoing rfl
  | committed response projected written suffix hresponse hadmitted houtgoing =>
    exact h.committed hkey hgoing hresponse (hadmitted hmanaged).notPing houtgoing

theorem Searched.keepalive (hgoing : run.stopped = false) (write : WriteOutcome) :
    Searched relay sent (run.keepalive relay write) := by
  rw [StreamRun.keepalive]
  split
  · exact h
  · refine h.of_same hgoing rfl ?_
    split <;> simp [deliveredPieces, Payload.pieces]

end

/-- The search finds the key in all that is written, however it is cut into pieces. -/
theorem streamScannerHandler_searched
    (hmanaged : relay.isManagedClaudeRelay = true) (hkey : relay.managedClaudeAPIKey ≠ "")
    (arrivals : List Arrival) :
    Searched relay (sentPieces relay.info.relayFormat arrivals)
      (streamScannerHandler relay arrivals) := by
  induction arrivals using List.reverseRecOn with
  | nil =>
    have hkey' : relay.managedClaudeAPIKey.toList ≠ [] := by
      intro hnil
      exact hkey (String.toList_eq_nil_iff.mp hnil)
    exact Searched.of_seen rfl (Matching.Seen.start hkey') fun _ => rfl
  | append_singleton before arrival ih =>
    rw [sentPieces_snoc, streamScannerHandler_snoc]
    unfold StreamRun.step
    split
    · next hstopped =>
      exact Searched.stop hstopped ih.absent (ih.arrived.trans (Sent.arrived_add _ _ _))
    · next hstopped =>
      have hgoing := Bool.eq_false_of_not_eq_true hstopped
      cases arrival with
      | data event write => exact ih.handle hmanaged hkey hgoing event write
      | tick write => exact ih.keepalive hgoing write

/-- On a managed channel with a key, an output whose pieces the upstream sends one after the other
does not contain the key, for Claude clients and for chat completion clients. -/
theorem key_absent_of_consecutive (relay : ClaudeRelay)
    (hmanaged : relay.isManagedClaudeRelay = true) (hkey : relay.managedClaudeAPIKey ≠ "")
    (arrivals : List Arrival) (output : Output)
    (hconsecutive : Matching.Consecutive (some output)
      (sentPieces relay.info.relayFormat arrivals).pieces) :
    ¬ relay.managedClaudeAPIKey.toList <:+:
      assembledOutput output (streamScannerHandler relay arrivals) := by
  have hsearched := streamScannerHandler_searched hmanaged hkey arrivals
  intro hleak
  have hpart := Matching.assembled_infix (hconsecutive.of_arrived hsearched.arrived)
  exact hsearched.absent (hleak.trans hpart)

def sampleTextStream : List Arrival :=
  arrivals [sampleStart, sampleText 0 "sk-", sampleText 0 "public", sampleEnd 5, sampleStop]

theorem key_absent_of_consecutive_sample :
    ¬ "sk-secret".toList <:+: assembledOutput (.text (some 0))
      (streamScannerHandler (sampleRelay .claude) sampleTextStream) := by
  refine key_absent_of_consecutive (sampleRelay .claude) rfl (by decide +kernel) sampleTextStream
    (.text (some 0)) ⟨[], (sentPieces .claude sampleTextStream).pieces, [], ?_, ?_, ?_, ?_⟩
  · rfl
  · simp
  · simp
  · decide +kernel

def sampleThinking (index : ℕ) (thinking : String) : Event := sampleEvent
    ("\x7b\"type\":\"content_block_delta\",\"index\":" ++ index.repr ++
      ",\"delta\":\x7b\"type\":\"thinking_delta\",\"thinking\":\"" ++ thinking ++ "\"\x7d\x7d")
    (.obj ["type", "index", "delta"] [.str "content_block_delta", .scalar,
      .obj ["type", "thinking"] [.str "thinking_delta", .str thinking]])
    { type := .contentBlockDelta
      index := some index
      delta := some { type := "thinking_delta", thinking := some thinking } }

/-- A key whose pieces are separated by a piece of another output. -/
def sampleLeak : List Arrival :=
  arrivals [sampleStart, sampleText 0 "sk-", sampleThinking 1 "x", sampleText 0 "secret",
    sampleEnd 5, sampleStop]

/-- The key reaches both kinds of clients. -/
theorem key_delivered_in_pieces : "sk-secret".toList <:+: assembledOutput (.text (some 0))
      (streamScannerHandler (sampleRelay .claude) sampleLeak) ∧
    "sk-secret".toList <:+: assembledOutput .content
      (streamScannerHandler (sampleRelay .openAI) sampleLeak) := by decide +kernel

/-- **A client reads what the upstream sent, up to some point**: nothing in an output is left out,
changed or reordered before the stream stops, and nothing at all is missing while it goes on. -/
theorem output_is_sent_so_far (relay : ClaudeRelay)
    (hmanaged : relay.isManagedClaudeRelay = true) (hkey : relay.managedClaudeAPIKey ≠ "")
    (arrivals : List Arrival) (output : Output) :
    let run := streamScannerHandler relay arrivals
    let sent := Matching.assembled (some output)
      (sentPieces relay.info.relayFormat arrivals).pieces
    assembledOutput output run <+: sent ∧
      (run.stopped = false → assembledOutput output run = sent) := by
  intro run sent
  have hsearched := streamScannerHandler_searched hmanaged hkey arrivals
  refine ⟨?_, fun hgoing => congrArg _ (hsearched.all hgoing)⟩
  obtain ⟨rest, hrest⟩ := hsearched.arrived
  refine ⟨Matching.assembled (some output) rest, ?_⟩
  rw [assembledOutput, ← Matching.assembled_append, hrest]

theorem output_is_sent_so_far_sample :
    assembledOutput (.text (some 0))
        (streamScannerHandler (sampleRelay .claude) sampleTextStream) <+:
      Matching.assembled (some (.text (some 0))) (sentPieces .claude sampleTextStream).pieces :=
  (output_is_sent_so_far (sampleRelay .claude) rfl (by decide +kernel) sampleTextStream _).1

end Mujian.Streams
