import Mujian.Streams.ConvertedBlocks

/-!
# Which chunk streams become well-formed Claude streams

`Convertible` is a condition on the chunks of the upstream alone. A chunk is only taken for the
first one if another chunk follows, and the last chunk of two is taken for the first one again. A
later chunk keeps the invariant `Tracks` if it fits what is open (`Opened.Permits`), and spoils the
stream otherwise. The message ends with a chunk without choices, once usage is known, or with a
finish reason in a chunk with usage of its own (`brings`).
-/

namespace Mujian.Streams

open Blocks Pricing

def ChoiceDelta.opened (delta : ChoiceDelta) : Opened :=
  if delta.toolCalls ≠ [] then .tools (delta.toolCalls.zipIdx.map ToolCallResponse.call)
  else if delta.getReasoningContent ≠ "" then .block .thinking
  else if delta.getContentString ≠ "" then .block .text
  else .nothing

namespace Opened

/-- What is open after a chunk has brought something. -/
def after (opened : Opened) : Opened → Opened
  | nothing => opened
  | block kind => block kind
  | tools more =>
    match opened with
    | tools calls => tools (calls ++ more)
    | nothing | block _ => tools more

/-- What a chunk brings fits what is open: text and reasoning end a group of tool calls, which has
to be complete, and further tool calls have to fit in the group. -/
def Permits (opened : Opened) : Opened → Prop
  | nothing => True
  | block _ => opened.Complete
  | tools more =>
    match opened with
    | tools calls => AdmitsAll calls more
    | nothing | block _ => AdmitsAll [] more

instance (opened : Opened) : (new : Opened) → Decidable (opened.Permits new)
  | nothing => .isTrue trivial
  | block _ => inferInstanceAs (Decidable opened.Complete)
  | tools more =>
    match opened with
    | tools calls => inferInstanceAs (Decidable (AdmitsAll calls more))
    | nothing | block _ => inferInstanceAs (Decidable (AdmitsAll [] more))

end Opened

section

variable (marks : List (Mark ℤ BlockKind)) (chunk : ChatCompletionsStreamResponse)

/-- Whether a later chunk ends the message, and what it brings; `known` says that usage is known. A
chunk with a finish reason and no usage ends and brings nothing. -/
def ChatCompletionsStreamResponse.brings (known : Bool) : Bool × Opened :=
  match chunk.choices with
  | [] => (known, .nothing)
  | choice :: _ =>
    match choice.finished, chunk.usage with
    | some _, none => (false, .nothing)
    | some _, some _ => (true, choice.delta.opened)
    | none, _ => (false, choice.delta.opened)

/-- The chunks after the first one: each fits, and the message ends when what is open is complete,
or the stream ends when nothing is open. With the last chunk usage is known. -/
def Continues (known : Bool) (opened : Opened) : List ChatCompletionsStreamResponse → Prop
  | [] => opened.Empty
  | chunk :: rest =>
    let knows := known || chunk.usage.isSome || rest.isEmpty
    opened.Permits (chunk.brings knows).2 ∧
      if (chunk.brings knows).1 then (opened.after (chunk.brings knows).2).Complete
      else Continues knows (opened.after (chunk.brings knows).2) rest

instance Continues.decidable : (known : Bool) → (opened : Opened) →
    (chunks : List ChatCompletionsStreamResponse) → Decidable (Continues known opened chunks)
  | _, opened, [] => inferInstanceAs (Decidable opened.Empty)
  | known, opened, chunk :: rest =>
    have := Continues.decidable (known || chunk.usage.isSome || rest.isEmpty)
      (opened.after (chunk.brings (known || chunk.usage.isSome || rest.isEmpty)).2) rest
    inferInstanceAs (Decidable (_ ∧ ite _ _ _))

/-- What the tool calls of the first chunk open: the first one counts as the one of index zero, and
the others are dropped. -/
def ChatCompletionsStreamResponse.firstTools : Opened :=
  match chunk.getFirstToolCall with
  | none => .nothing
  | some call => .tools [⟨0, true, decide (call.arguments ≠ "")⟩]

/-- What the first chunk leaves open; its reasoning or text comes after its tool call. -/
def ChatCompletionsStreamResponse.firstOpened : Opened :=
  match chunk.choices with
  | [] => .nothing
  | choice :: _ =>
    if choice.delta.getReasoningContent ≠ "" then .block .thinking
    else if choice.delta.getContentString ≠ "" then .block .text
    else chunk.firstTools

def ChatCompletionsStreamResponse.isFinished : Bool :=
  (chunk.choices.head?.bind StreamChoice.finished).isSome

/-- The chunks that become a well-formed message: a first chunk that finishes it, with any other
after it, or at least three chunks of which those after the first one continue it. -/
def Convertible : List ChatCompletionsStreamResponse → Prop
  | first :: second :: rest =>
    first.isFinished = true ∨
      rest ≠ [] ∧ Continues first.usage.isSome first.firstOpened (second :: rest)
  | [] | [_] => False

instance : (chunks : List ChatCompletionsStreamResponse) → Decidable (Convertible chunks)
  | [] | [_] => .isFalse id
  | _ :: _ :: _ => inferInstanceAs (Decidable (_ ∨ _ ∧ _))

/-- The stream cannot become well formed any more. -/
def Spoiled : Prop := ¬ Safe marks ∨ Doomed marks

/-- Marks of a chunk after the first one: the message does not begin, and no block under a negative
index is stopped. -/
def Later : Prop := .first ∉ marks ∧ ∀ i, .stop i ∈ marks → 0 ≤ i

end

theorem Later.nil : Later [] := ⟨List.not_mem_nil, fun _ hi => absurd hi List.not_mem_nil⟩

variable {marks more : List (Mark ℤ BlockKind)} {opened : Opened}

theorem Later.append (h : Later marks) (hmore : Later more) : Later (marks ++ more) := by
  refine ⟨fun hi => ?_, fun i hi => ?_⟩
  · rcases List.mem_append.1 hi with hi | hi
    · exact h.1 hi
    · exact hmore.1 hi
  · rcases List.mem_append.1 hi with hi | hi
    · exact h.2 i hi
    · exact hmore.2 i hi

theorem Spoiled.append (h : Spoiled marks) (hmore : Later more) : Spoiled (marks ++ more) := by
  rcases h with hunsafe | ⟨i, k, hneg, hstart, hstop⟩
  · exact .inl fun hsafe => hunsafe hsafe.of_append
  · refine .inr ⟨i, k, hneg, List.mem_append_left _ hstart, fun hmem => ?_⟩
    rcases List.mem_append.1 hmem with hmem | hmem
    · exact hstop hmem
    · exact absurd (hmore.2 i hmem) (by omega)

theorem Spoiled.not_wellFormed (h : Spoiled marks) : ¬ WellFormed marks := by
  intro hwell
  obtain ⟨hsafe, -, hclosed⟩ := wellFormed_iff.1 hwell
  rcases h with hunsafe | ⟨i, k, -, hstart, hstop⟩
  · exact hunsafe hsafe
  · exact hstop (hclosed i k hstart)

theorem later_callMarks (next : ℤ) (call : Call) : Later (Laid.callMarks next call) := by
  cases hnamed : call.named <;> cases hfilled : call.filled <;>
    simp [Later, Laid.callMarks]

theorem later_flatMap_callMarks (next : ℤ) (calls : List Call) :
    Later (calls.flatMap (Laid.callMarks next)) := by
  induction calls with
  | nil => exact Later.nil
  | cons call calls ih => exact (later_callMarks next call).append ih

namespace Laid

variable {next : ℤ} {marks : List (Mark ℤ BlockKind)}

/-- Calls that fit one after the other keep the group. -/
theorem calls {calls more : List Call} (h : Laid next (.tools calls) marks)
    (hadmits : AdmitsAll calls more) :
    Laid next (.tools (calls ++ more)) (marks ++ more.flatMap (callMarks next)) := by
  induction more generalizing calls marks with
  | nil => simpa using h
  | cons call more ih =>
    have hrest := ih (h.call hadmits.1) hadmits.2
    simpa [List.flatMap_cons] using hrest

theorem calls_spoil {calls more : List Call} (h : Laid next (.tools calls) marks)
    (hnot : ¬ AdmitsAll calls more) : Spoiled (marks ++ more.flatMap (callMarks next)) := by
  induction more generalizing calls marks with
  | nil => exact absurd trivial hnot
  | cons call more ih =>
    rw [List.flatMap_cons, ← List.append_assoc]
    by_cases hadmits : Admits calls call
    · exact ih (h.call hadmits) fun hmore => hnot ⟨hadmits, hmore⟩
    · exact Spoiled.append (h.call_spoils hadmits) (later_flatMap_callMarks next more)

theorem openGroup (h : Laid next .nothing marks) : Laid next (.tools []) marks :=
  h.congr (by simp [Opened.Opens])

/-- A new block, with what is written to it at once. -/
theorem openBlock (h : Laid next .nothing marks) (kind : BlockKind) :
    Laid next (.block kind) (marks ++ [.start next kind]) := by
  have hopens : ∀ o k, (Opened.block kind).Opens o k ↔
      Opened.nothing.Opens o k ∨ o = 0 ∧ k = kind := by simp [Opened.Opens]
  simpa using h.start (le_refl 0) (fun _ hopen => hopen) hopens

theorem writeBlock {kind : BlockKind} (h : Laid next (.block kind) marks) :
    Laid next (.block kind) (marks ++ [.delta next kind]) := by
  have hdelta := h.delta (o := 0) (k := kind) ⟨rfl, rfl⟩
  simpa using hdelta

/-- The end of a message in which nothing is open. -/
theorem finish (h : Laid next .nothing marks) : WellFormed (marks ++ [.last]) := by
  obtain ⟨-, -, hclosed⟩ := wellFormed_iff.1 (h.wellFormed_iff_empty.2 trivial)
  refine wellFormed_iff.2 ⟨h.allowed_iff.2 h.begun, by simp, fun i k hk => ?_⟩
  have hstart : Mark.start i k ∈ marks := by simpa using hk
  exact List.mem_append_left _ (hclosed i k hstart)

end Laid

namespace ClaudeConvertInfo

/-- The first index that is not stopped. -/
def next (claude : ClaudeConvertInfo) : ℤ :=
  if claude.lastMessagesType = .tools then claude.toolCallBaseIndex else claude.index

/-- The state names what is open. -/
def Shows (claude : ClaudeConvertInfo) : Opened → Prop
  | .nothing => claude.lastMessagesType = .none
  | .block .text => claude.lastMessagesType = .text
  | .block .thinking => claude.lastMessagesType = .thinking
  | .block _ => False
  | .tools calls => claude.lastMessagesType = .tools ∧ claude.toolCallMaxIndexOffset = largest calls

end ClaudeConvertInfo

/-- The state says what is open in the message so far. -/
structure Tracks (claude : ClaudeConvertInfo) (opened : Opened)
    (marks : List (Mark ℤ BlockKind)) : Prop where
  laid : Laid claude.next opened marks
  shows : claude.Shows opened

namespace Tracks

variable {claude : ClaudeConvertInfo} {opened : Opened} {marks : List (Mark ℤ BlockKind)}

section

variable (h : Tracks claude opened marks)
include h

theorem shows_cases : (opened = .nothing ∧ claude.lastMessagesType = .none) ∨
      (opened = .block .text ∧ claude.lastMessagesType = .text) ∨
      (opened = .block .thinking ∧ claude.lastMessagesType = .thinking) ∨
      ∃ calls, opened = .tools calls ∧ claude.lastMessagesType = .tools ∧
        claude.toolCallMaxIndexOffset = largest calls := by
  have hshows := h.shows
  cases opened with
  | nothing => exact .inl ⟨rfl, hshows⟩
  | block kind =>
    cases kind with
    | text => exact .inr (.inl ⟨rfl, hshows⟩)
    | thinking => exact .inr (.inr (.inl ⟨rfl, hshows⟩))
    | toolUse | other => exact hshows.elim
  | tools calls => exact .inr (.inr (.inr ⟨calls, rfl, hshows⟩))

theorem map_mark_stopOpenBlocks : claude.stopOpenBlocks.map mark =
      (Laid.stopIndexes claude.next opened.width).map .stop := by
  unfold ClaudeConvertInfo.stopOpenBlocks ClaudeConvertInfo.next Laid.stopIndexes
  obtain ⟨rfl, htype⟩ | ⟨rfl, htype⟩ | ⟨rfl, htype⟩ | ⟨calls, rfl, htype, hlargest⟩ := h.shows_cases
  · simp [htype, Opened.width]
  · simp [htype, Opened.width]
  · simp [htype, Opened.width]
  · simp [htype, hlargest, Opened.width]

theorem safe_stops_iff : Safe (marks ++ claude.stopOpenBlocks.map mark) ↔ opened.Complete := by
  rw [h.map_mark_stopOpenBlocks]
  exact h.laid.safe_stops_iff

theorem next_advance : claude.advance.next = claude.next + opened.width := by
  unfold ClaudeConvertInfo.advance ClaudeConvertInfo.next
  obtain ⟨rfl, htype⟩ | ⟨rfl, htype⟩ | ⟨rfl, htype⟩ | ⟨calls, rfl, htype, hlargest⟩ := h.shows_cases
  · simp [htype, Opened.width]
  · simp [htype, Opened.width]
  · simp [htype, Opened.width]
  · simp [htype, hlargest, Opened.width]
    omega

end

theorem advance_lastMessagesType (claude : ClaudeConvertInfo) :
    claude.advance.lastMessagesType = .none := by
  cases htype : claude.lastMessagesType <;> simp [ClaudeConvertInfo.advance, htype]

theorem advance (h : Tracks claude opened marks) (hcomplete : opened.Complete) :
    Tracks claude.advance .nothing (marks ++ claude.stopOpenBlocks.map mark) := by
  refine ⟨?_, advance_lastMessagesType claude⟩
  rw [h.next_advance, h.map_mark_stopOpenBlocks]
  exact h.laid.close hcomplete

theorem wellFormed_finish_iff (h : Tracks claude opened marks) (usage : Option Usage)
    (reason : String) :
    WellFormed (marks ++ (claude.stopOpenBlocks ++
      (usage.map fun usage => messageDeltaEvent usage reason).toList ++
        [messageStopEvent]).map mark) ↔ opened.Complete := by
  rw [List.map_append, List.map_append, ← List.append_assoc, ← List.append_assoc]
  constructor
  · intro hwell
    exact h.safe_stops_iff.1 hwell.safe.of_append.of_append
  · intro hcomplete
    have hstopped := (h.advance hcomplete).laid
    cases usage with
    | none => simpa using hstopped.finish
    | some usage =>
      -- the report of usage touches no block
      have hreported := hstopped.snoc (m := .other) hstopped.begun (by simp) (by simp) (by simp)
      exact hreported.finish

variable {type : LastMessagesType} {block delta : ClaudeMediaMessage} {kind : BlockKind}

/-- Text or reasoning goes on in its block, or in a new one once what was open is stopped. -/
theorem convertBlock (h : Tracks claude opened marks)
    (hshows : ∀ claude : ClaudeConvertInfo, claude.Shows (.block kind) ↔
      claude.lastMessagesType = type)
    (hsame : claude.lastMessagesType = type → opened = .block kind) (htools : type ≠ .tools)
    (hblock : ∀ i, mark (blockStart i block) = .start i kind)
    (hdelta : ∀ i, mark (contentDelta i delta) = .delta i kind) (hcomplete : opened.Complete) :
    Tracks (Streams.convertBlock claude type block delta).2 (.block kind)
      (marks ++ (Streams.convertBlock claude type block delta).1.map mark) := by
  by_cases htype : claude.lastMessagesType = type
  · obtain rfl := hsame htype
    have hwritten := h.laid.writeBlock
    refine ⟨?_, ?_⟩
    · simpa [Streams.convertBlock, ClaudeConvertInfo.switchTo, htype, hdelta,
        ClaudeConvertInfo.next, htools] using hwritten
    · rw [hshows]
      rfl
  · have hclosed := h.advance hcomplete
    have hnone := advance_lastMessagesType claude
    have hwritten := (hclosed.laid.openBlock kind).writeBlock
    refine ⟨?_, ?_⟩
    · simpa [Streams.convertBlock, ClaudeConvertInfo.switchTo, htype, hblock, hdelta,
        ClaudeConvertInfo.next, htools, hnone] using hwritten
    · rw [hshows]
      rfl

/-- What was open is stopped before text or reasoning of another type. -/
theorem convertBlock_spoils (h : Tracks claude opened marks)
    (hsame : claude.lastMessagesType = type → opened = .block kind)
    (hdelta : ∀ i, mark (contentDelta i delta) = .delta i kind)
    (hblock : ∀ i, mark (blockStart i block) = .start i kind) (hnot : ¬ opened.Complete) :
    Spoiled (marks ++ (Streams.convertBlock claude type block delta).1.map mark) := by
  have htype : claude.lastMessagesType ≠ type := by
    intro htype
    obtain rfl := hsame htype
    exact hnot trivial
  have hstops : Spoiled (marks ++ claude.stopOpenBlocks.map mark) :=
    .inl fun hsafe => hnot (h.safe_stops_iff.1 hsafe)
  have hlater : Later [.start claude.advance.index kind, .delta claude.advance.index kind] := by
    simp [Later]
  have hrest := hstops.append hlater
  simpa [Streams.convertBlock, ClaudeConvertInfo.switchTo, htype, hblock, hdelta] using hrest

end Tracks

theorem map_mark_toolCallEvents (base : ℤ) (calls : List (ToolCallResponse × ℕ)) :
    (calls.flatMap (toolCallEvents base)).map mark =
      (calls.map ToolCallResponse.call).flatMap (Laid.callMarks base) := by
  induction calls with
  | nil => rfl
  | cons call calls ih =>
    rw [List.flatMap_cons, List.map_append, List.map_cons, List.flatMap_cons]
    congr 1
    by_cases hname : call.1.name = "" <;> by_cases hargs : call.1.arguments = "" <;>
      simp [toolCallEvents, Laid.callMarks, ToolCallResponse.call, hname, hargs]

theorem maxOffset_largest (calls : List Call) (more : List (ToolCallResponse × ℕ)) :
    maxOffset (largest calls) more = largest (calls ++ more.map ToolCallResponse.call) := by
  induction more generalizing calls with
  | nil => simp [maxOffset]
  | cons call more ih =>
    have hrest := ih (calls ++ [ToolCallResponse.call call])
    rw [largest_snoc] at hrest
    rw [List.map_cons, List.append_cons]
    exact hrest

/-- The group that tool calls join: the open one, or a new one after what is open. -/
def Opened.group : Opened → List Call
  | .tools calls => calls
  | .nothing | .block _ => []

namespace Tracks

variable {claude : ClaudeConvertInfo} {opened : Opened} {marks : List (Mark ℤ BlockKind)}

section

variable (h : Tracks claude opened marks)
include h

/-- The state before the tool calls of a chunk are read: the marks of the stops, the group, and its
base. -/
theorem openGroup (toolCalls : List ToolCallResponse) : ∃ stops base,
      (convertToolCalls claude toolCalls).1.map mark = stops ++
        (toolCalls.zipIdx.map ToolCallResponse.call).flatMap (Laid.callMarks base) ∧
      Laid base (.tools opened.group) (marks ++ stops) ∧
      (convertToolCalls claude toolCalls).2.next = base ∧
      (convertToolCalls claude toolCalls).2.Shows
        (.tools (opened.group ++ toolCalls.zipIdx.map ToolCallResponse.call)) := by
  by_cases htype : claude.lastMessagesType = .tools
  · obtain ⟨calls, rfl, -⟩ := by simpa [htype] using h.shows_cases
    obtain ⟨-, hlargest⟩ := h.shows
    have hlaid := h.laid
    rw [ClaudeConvertInfo.next, if_pos htype] at hlaid
    refine ⟨[], claude.toolCallBaseIndex, ?_, by simpa [Opened.group] using hlaid, ?_, ?_, ?_⟩
    · simp [convertToolCalls, ClaudeConvertInfo.switchTo, htype, map_mark_toolCallEvents]
    · simp [convertToolCalls, ClaudeConvertInfo.switchTo, htype, ClaudeConvertInfo.next]
    · rfl
    · simp only [convertToolCalls, ClaudeConvertInfo.switchTo, htype, if_true, Opened.group]
      rw [hlargest]
      exact maxOffset_largest calls _
  · have hcomplete : opened.Complete := by
      cases opened with
      | nothing | block => trivial
      | tools calls => exact absurd h.shows.1 htype
    have hgroup : opened.group = [] := by
      cases opened with
      | nothing | block => rfl
      | tools calls => exact absurd h.shows.1 htype
    have hclosed := h.advance hcomplete
    have hnone := advance_lastMessagesType claude
    have hlaid := hclosed.laid.openGroup
    rw [ClaudeConvertInfo.next, hnone] at hlaid
    refine ⟨claude.stopOpenBlocks.map mark, claude.advance.index, ?_, hgroup ▸ hlaid, ?_, ?_, ?_⟩
    · simp [convertToolCalls, ClaudeConvertInfo.switchTo, htype, map_mark_toolCallEvents]
    · simp [convertToolCalls, ClaudeConvertInfo.switchTo, htype, ClaudeConvertInfo.next]
    · rfl
    · simp only [convertToolCalls, ClaudeConvertInfo.switchTo, htype, if_false, hgroup]
      exact maxOffset_largest [] _

end

end Tracks

variable {more : List Call}

theorem Opened.permits_tools : opened.Permits (.tools more) ↔ AdmitsAll opened.group more := by
  cases opened <;> rfl

theorem Opened.after_tools : opened.after (.tools more) = .tools (opened.group ++ more) := by
  cases opened <;> rfl

namespace Tracks

variable {claude : ClaudeConvertInfo} {opened : Opened} {marks : List (Mark ℤ BlockKind)}

section

variable (h : Tracks claude opened marks)
include h

theorem eq_text_of_lastMessagesType
    (htype : claude.lastMessagesType = .text) : opened = .block .text := by
  simpa [htype] using h.shows_cases

theorem eq_thinking_of_lastMessagesType
    (htype : claude.lastMessagesType = .thinking) : opened = .block .thinking := by
  simpa [htype] using h.shows_cases

variable {delta : ChoiceDelta}

/-- **A delta that fits keeps the invariant.** -/
theorem convertDelta (hpermits : opened.Permits delta.opened) :
    Tracks (Streams.convertDelta claude delta).2 (opened.after delta.opened)
      (marks ++ (Streams.convertDelta claude delta).1.map mark) := by
  unfold Streams.convertDelta
  unfold ChoiceDelta.opened at hpermits ⊢
  -- the conversion and what it opens are chosen by the same tests
  split_ifs at hpermits ⊢
  · rw [Opened.permits_tools] at hpermits
    rw [Opened.after_tools]
    obtain ⟨stops, base, hmarks, hlaid, hnext, hshows⟩ := h.openGroup delta.toolCalls
    refine ⟨?_, hshows⟩
    rw [hmarks, hnext, ← List.append_assoc]
    exact hlaid.calls hpermits
  · exact h.convertBlock (fun _ => Iff.rfl) h.eq_thinking_of_lastMessagesType (by decide)
      (fun _ => rfl) (fun _ => rfl) hpermits
  · exact h.convertBlock (fun _ => Iff.rfl) h.eq_text_of_lastMessagesType (by decide)
      (fun _ => rfl) (fun _ => rfl) hpermits
  · simpa [Opened.after] using h

/-- **A delta that does not fit spoils the stream.** -/
theorem convertDelta_spoils (hnot : ¬ opened.Permits delta.opened) :
    Spoiled (marks ++ (Streams.convertDelta claude delta).1.map mark) := by
  unfold Streams.convertDelta
  unfold ChoiceDelta.opened at hnot
  split_ifs at hnot ⊢
  · rw [Opened.permits_tools] at hnot
    obtain ⟨stops, base, hmarks, hlaid, -, -⟩ := h.openGroup delta.toolCalls
    rw [hmarks, ← List.append_assoc]
    exact hlaid.calls_spoil hnot
  · exact h.convertBlock_spoils h.eq_thinking_of_lastMessagesType (fun _ => rfl) (fun _ => rfl) hnot
  · exact h.convertBlock_spoils h.eq_text_of_lastMessagesType (fun _ => rfl) (fun _ => rfl) hnot
  · exact absurd trivial hnot

end

end Tracks

end Mujian.Streams
