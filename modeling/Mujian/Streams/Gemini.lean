import Mujian.Streams.Wire

/-!
# Finish reasons of Gemini streams

`GeminiChatStreamHandler` ends a stream with a chunk of its own, for which it remembers the
function calls of the first chunk only; those of a later chunk are a finish reason of that chunk.
So there is one finish reason, and the right one, exactly if no function call comes after the first
chunk (`one_finishReason_iff`). The texts, and the ids and indexes of the calls, are left out.
-/

namespace Mujian.Streams.Gemini

/-- A function call has a name and the text that its arguments serialize to. -/
structure Part where
  (inlineData functionCall : Option (String × String) := none)

structure Candidate where
  parts : List Part := []
  finishReason : Option String := none

def Part.toolCall (part : Part) : Option ToolCallResponse :=
  if part.inlineData.isSome then none
  else part.functionCall.map fun call => { name := call.1, arguments := call.2 }

def streamChoice (candidate : Candidate) : StreamChoice :=
  let toolCalls := candidate.parts.filterMap Part.toolCall
  { delta := { toolCalls }
    finishReason :=
      if !toolCalls.isEmpty then some "tool_calls"
      else match candidate.finishReason with
        | none | some "STOP" => none
        | some "MAX_TOKENS" => some "length"
        | some _ => some "content_filter" }

/-- The choices of the chunk, and whether the stream ends. -/
def streamResponseGeminiChat2OpenAI (candidates : List Candidate) : List StreamChoice × Bool :=
  (candidates.map streamChoice, candidates.any (·.finishReason = some "STOP"))

/-- The choices of the chunks that were sent, and the finish reason for the last one. -/
structure StreamState where
  sent : List (List StreamChoice) := []
  finishReason : String := "stop"

/-- Before the first chunk goes a response with the names of its calls, which it then lacks. -/
def StreamState.start (s : StreamState) (choices : List StreamChoice) :
    StreamState × List StreamChoice :=
  let toolCalls := (choices.head?.map (·.delta.toolCalls)).getD []
  let first := { delta := { role := "assistant", content := some "",
                            toolCalls := toolCalls.map ({ · with arguments := "" }) } }
  if !s.sent.isEmpty then (s, choices)
  else if toolCalls.isEmpty then (⟨[[first]], s.finishReason⟩, choices)
  else
    let cleared := choices.map fun choice => { choice with
      delta := { choice.delta with
                 toolCalls := choice.delta.toolCalls.map ({ · with id := "", name := "" }) } }
    (⟨[[first]], "tool_calls"⟩, cleared.modifyHead ({ · with finishReason := none }))

def StreamState.handle (s : StreamState) (candidates : List Candidate) : StreamState :=
  let (choices, isStop) := streamResponseGeminiChat2OpenAI candidates
  let (s, choices) := s.start choices
  ⟨s.sent ++ [choices] ++ if isStop then [[{ finishReason := some s.finishReason }]] else [],
    s.finishReason⟩

def geminiChatStreamHandler (chunks : List (List Candidate)) : StreamState :=
  chunks.foldl StreamState.handle {}

def StreamState.finishReasons (s : StreamState) : List String :=
  s.sent.flatten.filterMap (·.finishReason)

def carriesCall (chunk : List Candidate) : Bool :=
  chunk.any fun candidate => !(candidate.parts.filterMap Part.toolCall).isEmpty

variable {s : StreamState} {chunk : List Candidate} {before chunks : List (List Candidate)}
  {last : List Part}

/-- What a chunk with at most one candidate adds to the finish reasons. -/
theorem handle_spec (s : StreamState) (isStop : Bool) (h : chunk = [] ∧ isStop = false ∨
      ∃ parts, chunk = [⟨parts, if isStop then some "STOP" else none⟩]) :
    (s.handle chunk).sent ≠ [] ∧
    (s.handle chunk).finishReason =
      (if s.sent.isEmpty && carriesCall chunk then "tool_calls" else s.finishReason) ∧
    (s.handle chunk).finishReasons = s.finishReasons ++
      (if !s.sent.isEmpty && carriesCall chunk then ["tool_calls"] else []) ++
      if isStop then [(s.handle chunk).finishReason] else [] := by
  obtain ⟨sent, finish⟩ := s
  obtain ⟨rfl, rfl⟩ | ⟨parts, rfl⟩ := h
  · cases sent <;> simp [StreamState.handle, streamResponseGeminiChat2OpenAI, StreamState.start,
      carriesCall, StreamState.finishReasons]
  · cases isStop <;> cases sent <;> cases hcalls : parts.filterMap Part.toolCall <;>
      simp [StreamState.handle, streamResponseGeminiChat2OpenAI, StreamState.start, carriesCall,
        StreamState.finishReasons, streamChoice, hcalls]

/-- At most one candidate, which does not end. -/
def Unfinished (chunk : List Candidate) : Prop := chunk = [] ∨ ∃ parts, chunk = [⟨parts, none⟩]

theorem finishReasons_run (hsent : s.sent ≠ []) (hbefore : ∀ chunk ∈ before, Unfinished chunk)
    (hchunks : chunks = before ++ [[⟨last, some "STOP"⟩]]) :
    (chunks.foldl StreamState.handle s).finishReasons =
      s.finishReasons ++ (chunks.filter carriesCall).map (fun _ => "tool_calls") ++
        [s.finishReason] := by
  induction before generalizing s chunks with
  | nil =>
    subst hchunks
    obtain ⟨-, hfinish, hreasons⟩ := handle_spec s true (.inr ⟨last, rfl⟩)
    cases hcall : carriesCall [⟨last, some "STOP"⟩] <;> simp_all
  | cons chunk before ih =>
    subst hchunks
    rw [List.forall_mem_cons] at hbefore
    obtain ⟨hsent', hfinish, hreasons⟩ := handle_spec s false
      (hbefore.1.imp (⟨·, rfl⟩) id)
    rw [List.cons_append, List.foldl_cons, ih hsent' hbefore.2 rfl]
    cases hcall : carriesCall chunk <;> simp_all

/-- For a stream of one candidate that ends with `STOP`. -/
theorem one_finishReason_iff (hbefore : ∀ chunk ∈ before, Unfinished chunk)
    (hchunks : chunks = before ++ [[⟨last, some "STOP"⟩]]) :
    (geminiChatStreamHandler chunks).finishReasons =
        [if chunks.any carriesCall then "tool_calls" else "stop"] ↔
      ∀ chunk ∈ chunks.tail, carriesCall chunk = false := by
  subst hchunks
  cases before with
  | nil =>
    obtain ⟨-, hfinish, hreasons⟩ := handle_spec {} true (.inr ⟨last, rfl⟩)
    simp_all [geminiChatStreamHandler, StreamState.finishReasons]
  | cons first rest =>
    rw [List.forall_mem_cons] at hbefore
    obtain ⟨hsent, hfinish, hreasons⟩ := handle_spec {} false
      (hbefore.1.imp (⟨·, rfl⟩) id)
    rw [geminiChatStreamHandler, List.cons_append, List.foldl_cons,
      finishReasons_run hsent hbefore.2 rfl, hreasons, hfinish, List.tail_cons]
    generalize rest ++ [[⟨last, some "STOP"⟩]] = later
    constructor
    · intro h
      have hlen := congrArg List.length h
      simpa [StreamState.finishReasons] using hlen
    · intro h
      have hfilter : later.filter carriesCall = [] := by simpa using h
      have hnone : later.any carriesCall = false := by simpa using h
      simp [StreamState.finishReasons, hfilter, hnone]

theorem one_finishReason_sample :
    let call : Part := { functionCall := some ("read", "\x7b\x7d") }
    (geminiChatStreamHandler [[⟨[call], none⟩], [⟨[], some "STOP"⟩]]).finishReasons =
      ["tool_calls"] := by
  intro call
  have hbefore : ∀ chunk ∈ [[⟨[call], none⟩]], Unfinished chunk := by simp [Unfinished]
  exact (one_finishReason_iff hbefore rfl).2 (by decide)

/-- The function call comes with the last chunk. -/
theorem two_finishReasons :
    let call : Part := { functionCall := some ("read", "\x7b\x7d") }
    (geminiChatStreamHandler [[⟨[], none⟩], [⟨[call], some "STOP"⟩]]).finishReasons =
      ["tool_calls", "stop"] := by
  decide

end Mujian.Streams.Gemini
