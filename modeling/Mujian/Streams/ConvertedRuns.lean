import Mujian.Streams.Converted

/-!
# Whole streams for Claude clients

**The events that `oaiStreamHandler` sends to a Claude client are well formed iff the chunks of the
upstream are convertible** (`oaiStreamHandler_wellFormed_iff`). `Underway` is the state between
chunks; one chunk keeps it, ends the message or spoils the stream.
-/

namespace Mujian.Streams

open Blocks Pricing

/-! ## Indexes -/

/-- The indexes of the state are not negative. -/
structure ClaudeConvertInfo.Sane (claude : ClaudeConvertInfo) : Prop where
  index : 0 ≤ claude.index
  base : 0 ≤ claude.toolCallBaseIndex
  offset : 0 ≤ claude.toolCallMaxIndexOffset

namespace ClaudeConvertInfo.Sane

variable {claude : ClaudeConvertInfo}

section

variable (h : claude.Sane)
include h

theorem later_stopOpenBlocks : Later (claude.stopOpenBlocks.map mark) := by
  have hindex := h.index
  have hbase := h.base
  refine ⟨?_, fun i hi => ?_⟩
  · cases htype : claude.lastMessagesType <;> simp [stopOpenBlocks, htype]
  · cases htype : claude.lastMessagesType with
    | none => simp [stopOpenBlocks, htype] at hi
    | text | thinking =>
      obtain rfl : i = claude.index := by simpa [stopOpenBlocks, htype] using hi
      exact hindex
    | tools =>
      simp only [stopOpenBlocks, htype, List.map_map, List.mem_map, Function.comp_apply,
        mark_generateStopBlock, Mark.stop.injEq] at hi
      omega

theorem advance : claude.advance.Sane := by
  have hindex := h.index
  have hbase := h.base
  have hoffset := h.offset
  cases htype : claude.lastMessagesType with
  | none => simpa [ClaudeConvertInfo.advance, htype] using h
  | tools =>
    simp only [ClaudeConvertInfo.advance, htype]
    exact ⟨by dsimp only; omega, le_refl 0, le_refl 0⟩
  | text | thinking =>
    simp only [ClaudeConvertInfo.advance, htype]
    exact ⟨by dsimp only; omega, hbase, hoffset⟩

theorem switchTo (type : LastMessagesType) :
    Later ((claude.switchTo type).1.map mark) ∧ (claude.switchTo type).2.Sane := by
  rw [ClaudeConvertInfo.switchTo]
  split
  · exact ⟨Later.nil, h⟩
  · exact ⟨h.later_stopOpenBlocks, h.advance⟩

theorem convertBlock (type : LastMessagesType) {block delta : ClaudeMediaMessage} {kind : BlockKind}
    (hblock : ∀ i, mark (blockStart i block) = .start i kind)
    (hdelta : ∀ i, mark (contentDelta i delta) = .delta i kind) :
    Later ((Streams.convertBlock claude type block delta).1.map mark) ∧
      (Streams.convertBlock claude type block delta).2.Sane := by
  obtain ⟨hstops, hsane⟩ := h.switchTo type
  refine ⟨?_, hsane.index, hsane.base, hsane.offset⟩
  simp only [Streams.convertBlock, List.map_append]
  refine (hstops.append ?_).append ?_
  · split <;> simp [Later, hblock]
  · simp [Later, hdelta]

end

end ClaudeConvertInfo.Sane

theorem le_maxOffset (current : ℤ) (calls : List (ToolCallResponse × ℕ)) :
    current ≤ maxOffset current calls := by
  induction calls generalizing current with
  | nil => exact le_refl _
  | cons call calls ih => exact (le_max_left _ _).trans (ih _)

namespace ClaudeConvertInfo.Sane

variable {claude : ClaudeConvertInfo}

theorem convertToolCalls (h : claude.Sane) (toolCalls : List ToolCallResponse) :
    Later ((Streams.convertToolCalls claude toolCalls).1.map mark) ∧
      (Streams.convertToolCalls claude toolCalls).2.Sane := by
  obtain ⟨hstops, hsane⟩ := h.switchTo .tools
  have hopened : (if claude.lastMessagesType = .tools then (claude.switchTo .tools).2
      else { (claude.switchTo .tools).2 with
        toolCallBaseIndex := (claude.switchTo .tools).2.index
        toolCallMaxIndexOffset := 0 }).Sane := by
    split
    · exact hsane
    · exact ⟨hsane.index, hsane.index, le_refl 0⟩
  have hlargest := hopened.offset.trans (le_maxOffset _ toolCalls.zipIdx)
  refine ⟨?_, ⟨?_, hopened.base, hlargest⟩⟩
  · simp only [Streams.convertToolCalls, List.map_append, map_mark_toolCallEvents]
    exact hstops.append (later_flatMap_callMarks _ _)
  · exact Int.add_nonneg hopened.base hlargest

/-- A delta neither begins the message nor stops a block under a negative index. -/
theorem convertDelta (h : claude.Sane) (delta : ChoiceDelta) :
    Later ((Streams.convertDelta claude delta).1.map mark) ∧
      (Streams.convertDelta claude delta).2.Sane := by
  rw [Streams.convertDelta]
  split
  · exact h.convertToolCalls _
  · split
    · exact h.convertBlock .thinking (fun _ => rfl) (fun _ => rfl)
    · split
      · exact h.convertBlock .text (fun _ => rfl) (fun _ => rfl)
      · exact ⟨Later.nil, h⟩

end ClaudeConvertInfo.Sane

/-! ## What a later chunk does -/

theorem switchTo_kept (claude : ClaudeConvertInfo) (type : LastMessagesType) :
    (claude.switchTo type).2.done = claude.done ∧
      (claude.switchTo type).2.usage = claude.usage := by
  rw [ClaudeConvertInfo.switchTo]
  split
  · exact ⟨rfl, rfl⟩
  · cases htype : claude.lastMessagesType <;> simp [ClaudeConvertInfo.advance, htype]

/-- A delta neither ends the message nor changes the usage. -/
theorem convertDelta_kept (claude : ClaudeConvertInfo) (delta : ChoiceDelta) :
    (convertDelta claude delta).2.done = claude.done ∧
      (convertDelta claude delta).2.usage = claude.usage := by
  have htools := switchTo_kept claude .tools
  rw [convertDelta]
  split
  · by_cases htype : claude.lastMessagesType = .tools
    · simpa [convertToolCalls, htype] using htools
    · simpa [convertToolCalls, htype] using htools
  · split
    · exact switchTo_kept claude .thinking
    · split
      · exact switchTo_kept claude .text
      · exact ⟨rfl, rfl⟩

def finishEvents (claude : ClaudeConvertInfo) (usage : Option Usage) (reason : String) :
    List ClaudeResponse :=
  claude.stopOpenBlocks ++ (usage.map fun usage => messageDeltaEvent usage reason).toList ++
    [messageStopEvent]

variable {info : ConvertInfo} {marks : List (Mark ℤ BlockKind)}
  {chunk : ChatCompletionsStreamResponse}

/-- **A later chunk does what its delta does, and then ends the message or not.** -/
theorem streamResponseOpenAI2Claude_later
    (chunk : ChatCompletionsStreamResponse) {knows : Bool} (hdone : info.claude.done = false)
    (hcount : info.sendResponseCount ≠ 1)
    (hknows : (chunk.usage.or info.claude.usage).isSome = knows) :
    ∃ (delta : ChoiceDelta) (usage : Option Usage) (reason : String),
      delta.opened = (chunk.brings knows).2 ∧
      (streamResponseOpenAI2Claude info chunk).1 = (convertDelta info.claude delta).1 ++
        (if (chunk.brings knows).1 then
          finishEvents (convertDelta info.claude delta).2 usage reason else []) ∧
      (streamResponseOpenAI2Claude info chunk).2.claude =
        { (convertDelta info.claude delta).2 with done := (chunk.brings knows).1 } ∧
      (streamResponseOpenAI2Claude info chunk).2.sendResponseCount = info.sendResponseCount := by
  have hkept := fun delta => (convertDelta_kept info.claude delta).1.trans hdone
  -- the state as it is, written with the mark that the message goes on
  have hgoing : ∀ claude : ClaudeConvertInfo, claude.done = false →
      claude = { claude with done := false } := by
    rintro ⟨⟩ rfl
    rfl
  generalize hbrings : chunk.brings knows = brings
  simp only [ChatCompletionsStreamResponse.brings] at hbrings
  simp only [streamResponseOpenAI2Claude, hdone, hcount, Bool.false_eq_true, if_false]
  cases hchoices : chunk.choices with
  | nil =>
    rw [hchoices, ← hknows] at hbrings
    simp only [convertUsageOnly]
    cases husage : chunk.usage.or info.claude.usage with
    | none =>
      rw [husage] at hbrings
      subst hbrings
      exact ⟨{}, none, "", rfl, rfl, hgoing _ hdone, rfl⟩
    | some usage =>
      rw [husage] at hbrings
      subst hbrings
      exact ⟨{}, some usage, _, rfl, rfl, rfl, rfl⟩
  | cons choice choices =>
    simp only [hchoices] at hbrings
    simp only [convertChoice]
    cases hfinished : choice.finished with
    | none =>
      rw [hfinished] at hbrings
      subst hbrings
      exact ⟨choice.delta, none, "", rfl, (List.append_nil _).symm, hgoing _ (hkept _), rfl⟩
    | some reason =>
      cases husage : chunk.usage with
      | none =>
        rw [hfinished, husage] at hbrings
        subst hbrings
        exact ⟨{}, none, "", rfl, rfl, hgoing _ hdone, rfl⟩
      | some usage =>
        rw [hfinished, husage] at hbrings
        subst hbrings
        exact ⟨choice.delta, some usage, _, rfl, rfl, rfl, rfl⟩

/-- The end of a message is not a first chunk either. -/
theorem ClaudeConvertInfo.Sane.later_finishEvents {claude : ClaudeConvertInfo} (h : claude.Sane)
    (usage : Option Usage) (reason : String) :
    Later ((finishEvents claude usage reason).map mark) := by
  rw [finishEvents, List.map_append, List.map_append]
  refine (h.later_stopOpenBlocks.append ?_).append ?_
  · cases usage with
    | none => exact Later.nil
    | some usage => simp [Later, messageDeltaEvent, mark]
  · simp [Later]

/-! ## Between chunks -/

/-- The message is under way. -/
structure Underway (relayed : Relayed) (knows : Bool) (opened : Opened) : Prop where
  tracks : Tracks relayed.info.claude opened (relayed.sent.map mark)
  sane : relayed.info.claude.Sane
  going : relayed.info.claude.done = false
  knows : relayed.info.claude.usage.isSome = knows

namespace Relayed

variable {relayed : Relayed}

theorem map_mark_convert_sent (relayed : Relayed) (chunk : ChatCompletionsStreamResponse) :
    (relayed.convert chunk).sent.map mark =
      relayed.sent.map mark ++ (streamResponseOpenAI2Claude relayed.info chunk).1.map mark :=
  List.map_append

theorem convert_of_done (h : relayed.info.claude.done = true)
    (chunk : ChatCompletionsStreamResponse) : relayed.convert chunk = relayed := by
  simp [convert, streamResponseOpenAI2Claude, h]

/-- A later chunk neither begins the message nor stops a block under a negative index. -/
theorem convert_later (hsane : relayed.info.claude.Sane)
    (hcount : relayed.info.sendResponseCount ≠ 1) (chunk : ChatCompletionsStreamResponse) :
    ∃ more, (relayed.convert chunk).sent.map mark = relayed.sent.map mark ++ more ∧ Later more ∧
      (relayed.convert chunk).info.claude.Sane ∧
      (relayed.convert chunk).info.sendResponseCount = relayed.info.sendResponseCount := by
  cases hdone : relayed.info.claude.done with
  | true =>
    rw [convert_of_done hdone chunk]
    exact ⟨[], by simp, Later.nil, hsane, rfl⟩
  | false =>
    obtain ⟨delta, usage, reason, -, hevents, hclaude, hkept⟩ :=
      streamResponseOpenAI2Claude_later chunk hdone hcount rfl
    obtain ⟨hlater, hsane'⟩ := hsane.convertDelta delta
    refine ⟨_, map_mark_convert_sent relayed chunk, ?_, ?_, hkept⟩
    · rw [hevents, List.map_append]
      refine hlater.append ?_
      split
      · exact hsane'.later_finishEvents usage reason
      · exact Later.nil
    · change (streamResponseOpenAI2Claude relayed.info chunk).2.claude.Sane
      rw [hclaude]
      exact ⟨hsane'.index, hsane'.base, hsane'.offset⟩

end Relayed

namespace Underway

variable {relayed : Relayed} {knows : Bool} {opened : Opened}
  {chunk : ChatCompletionsStreamResponse}

section

variable (h : Underway relayed knows opened)
include h

section

variable (hchunk : chunk.usage.isSome → knows = true)
include hchunk

theorem or_usage : (chunk.usage.or relayed.info.claude.usage).isSome = knows := by
  cases husage : chunk.usage with
  | none => exact h.knows
  | some usage => exact (hchunk (by rw [husage]; rfl)).symm

section

variable (hcount : relayed.info.sendResponseCount ≠ 1)
include hcount

/-- **A chunk that fits and does not end the message keeps it under way.** -/
theorem convert
    (hpermits : opened.Permits (chunk.brings knows).2) (hends : (chunk.brings knows).1 = false) :
    Underway (relayed.convert chunk) knows (opened.after (chunk.brings knows).2) := by
  obtain ⟨delta, usage, reason, hopened, hevents, hclaude, -⟩ :=
    streamResponseOpenAI2Claude_later chunk h.going hcount (h.or_usage hchunk)
  rw [hends] at hevents hclaude
  rw [← hopened] at hpermits ⊢
  obtain ⟨hlaid, hshows⟩ := h.tracks.convertDelta hpermits
  have hsane := (h.sane.convertDelta delta).2
  have hinfo : (relayed.convert chunk).info.claude =
      { (convertDelta relayed.info.claude delta).2 with done := false } := hclaude
  have hsent : (relayed.convert chunk).sent.map mark =
      relayed.sent.map mark ++ (convertDelta relayed.info.claude delta).1.map mark := by
    rw [Relayed.map_mark_convert_sent, hevents]
    simp
  refine ⟨?_, ?_, ?_, ?_⟩
  · rw [hinfo, hsent]
    exact ⟨hlaid, hshows⟩
  · rw [hinfo]
    exact ⟨hsane.index, hsane.base, hsane.offset⟩
  · rw [hinfo]
  · rw [hinfo]
    rw [(convertDelta_kept _ delta).2]
    exact h.knows

/-- **A chunk that fits and ends the message makes it well formed iff what is open then is
complete.** -/
theorem ends
    (hpermits : opened.Permits (chunk.brings knows).2) (hends : (chunk.brings knows).1 = true) :
    (relayed.convert chunk).info.claude.done = true ∧
      (WellFormed ((relayed.convert chunk).sent.map mark) ↔
        (opened.after (chunk.brings knows).2).Complete) := by
  obtain ⟨delta, usage, reason, hopened, hevents, hclaude, -⟩ :=
    streamResponseOpenAI2Claude_later chunk h.going hcount (h.or_usage hchunk)
  rw [hends, if_pos rfl] at hevents
  rw [hends] at hclaude
  rw [← hopened] at hpermits ⊢
  have hsent : (relayed.convert chunk).sent.map mark =
      relayed.sent.map mark ++ (convertDelta relayed.info.claude delta).1.map mark ++
        (finishEvents (convertDelta relayed.info.claude delta).2 usage reason).map mark := by
    rw [Relayed.map_mark_convert_sent, hevents, List.map_append, List.append_assoc]
  refine ⟨congrArg ClaudeConvertInfo.done hclaude, ?_⟩
  rw [hsent]
  exact (h.tracks.convertDelta hpermits).wellFormed_finish_iff usage reason

/-- **A chunk that does not fit spoils the stream.** -/
theorem spoils (hnot : ¬ opened.Permits (chunk.brings knows).2) :
    Spoiled ((relayed.convert chunk).sent.map mark) := by
  obtain ⟨delta, usage, reason, hopened, hevents, -, -⟩ :=
    streamResponseOpenAI2Claude_later chunk h.going hcount (h.or_usage hchunk)
  rw [← hopened] at hnot
  have hspoiled := h.tracks.convertDelta_spoils hnot
  have hsane := (h.sane.convertDelta delta).2
  rw [Relayed.map_mark_convert_sent, hevents, List.map_append, ← List.append_assoc]
  refine hspoiled.append ?_
  split
  · exact hsane.later_finishEvents usage reason
  · exact Later.nil

end

end

end

end Underway

/-! ## Runs -/

/-- The state in which a chunk is converted: the last one with the usage of the stream, every other
one counted, and with its own usage if it has one. -/
def Relayed.prepare (usage : Usage) (relayed : Relayed) (chunk : ChatCompletionsStreamResponse)
    (isLast : Bool) : Relayed :=
  if isLast then relayed.setUsage usage
  else (chunk.usage.map relayed.count.setUsage).getD relayed.count

/-- The chunks of a stream, the last one handled as such. -/
def Relayed.run (usage : Usage) (relayed : Relayed) : List ChatCompletionsStreamResponse → Relayed
  | [] => relayed
  | chunk :: rest => ((relayed.prepare usage chunk rest.isEmpty).convert chunk).run usage rest

variable {chunks : List ChatCompletionsStreamResponse}

theorem oaiStreamHandler_eq_run (relay : OaiRelay) (hne : chunks ≠ []) :
    oaiStreamHandler relay (chunks.map some) =
      (Relayed.run (relay.streamUsage (chunks.map some)) ⟨relay.info, []⟩ chunks).sent := by
  obtain ⟨front, last, rfl⟩ : ∃ front last, chunks = front ++ [last] :=
    ⟨_, _, (List.dropLast_append_getLast hne).symm⟩
  rw [List.map_append, List.map_singleton, oaiStreamHandler_snoc]
  generalize relay.streamUsage _ = usage
  generalize (⟨relay.info, []⟩ : Relayed) = relayed
  clear hne
  induction front generalizing relayed with
  | nil => rfl
  | cons chunk front ih =>
    have hnotLast : (front ++ [last]).isEmpty = false := by simp
    rw [List.map_cons, List.foldl_cons, ih, List.cons_append, Relayed.run, hnotLast]
    rfl

namespace Relayed

variable {relayed : Relayed} {usage : Usage}

theorem run_sent_of_done
    (h : relayed.info.claude.done = true) : (relayed.run usage chunks).sent = relayed.sent := by
  induction chunks generalizing relayed with
  | nil => rfl
  | cons chunk rest ih =>
    have hprepared : (relayed.prepare usage chunk rest.isEmpty).info.claude.done = true ∧
        (relayed.prepare usage chunk rest.isEmpty).sent = relayed.sent := by
      cases hlast : rest.isEmpty <;> cases husage : chunk.usage <;>
        simp [prepare, husage, setUsage, count, h]
    rw [run, convert_of_done hprepared.1, ih hprepared.1, hprepared.2]

/-- Preparing for a chunk changes the counter and the usage only; before the last of at least two
later chunks, and before every other, the counter is past the first chunk. -/
theorem prepare_count (usage : Usage) (chunk : ChatCompletionsStreamResponse) {isLast : Bool}
    (hcount : 1 ≤ relayed.info.sendResponseCount)
    (hlast : isLast = true → 2 ≤ relayed.info.sendResponseCount) :
    2 ≤ (relayed.prepare usage chunk isLast).info.sendResponseCount := by
  cases isLast with
  | true => exact hlast rfl
  | false => cases husage : chunk.usage <;> simp [prepare, husage, setUsage, count] <;> omega

theorem run_spoiled (hsane : relayed.info.claude.Sane)
    (hcount : 2 ≤ relayed.info.sendResponseCount) (h : Spoiled (relayed.sent.map mark))
    (usage : Usage) (chunks : List ChatCompletionsStreamResponse) :
    Spoiled ((relayed.run usage chunks).sent.map mark) := by
  induction chunks generalizing relayed with
  | nil => exact h
  | cons chunk rest ih =>
    obtain ⟨hprepared, hsent⟩ : (relayed.prepare usage chunk rest.isEmpty).info.claude.Sane ∧
        (relayed.prepare usage chunk rest.isEmpty).sent = relayed.sent := by
      cases rest.isEmpty <;> cases husage : chunk.usage <;> simp only [prepare, husage] <;>
        exact ⟨⟨hsane.index, hsane.base, hsane.offset⟩, rfl⟩
    have hpast : 2 ≤ (relayed.prepare usage chunk rest.isEmpty).info.sendResponseCount :=
      prepare_count usage chunk (by omega) fun _ => hcount
    obtain ⟨more, hmore, hlater, hsane', hkept⟩ := convert_later hprepared (by omega) chunk
    refine ih hsane' (hkept ▸ hpast) ?_
    rw [hmore, hsent]
    exact h.append hlater

end Relayed

namespace Underway

variable {relayed : Relayed} {knows : Bool} {opened : Opened}

theorem prepare (h : Underway relayed knows opened) (usage : Usage)
    (chunk : ChatCompletionsStreamResponse) (isLast : Bool) :
    Underway (relayed.prepare usage chunk isLast) (knows || chunk.usage.isSome || isLast)
      opened := by
  have hknows := h.knows
  cases isLast with
  | true => exact ⟨⟨h.tracks.laid, h.tracks.shows⟩, ⟨h.sane.index, h.sane.base, h.sane.offset⟩,
      h.going, by simp [Relayed.prepare, Relayed.setUsage]⟩
  | false =>
    refine ⟨?_, ?_, ?_, ?_⟩ <;> cases husage : chunk.usage <;> simp only [Relayed.prepare, husage]
    case refine_1.none | refine_1.some => exact ⟨h.tracks.laid, h.tracks.shows⟩
    case refine_2.none | refine_2.some => exact ⟨h.sane.index, h.sane.base, h.sane.offset⟩
    case refine_3.none | refine_3.some => exact h.going
    case refine_4.none => simpa [Relayed.count] using hknows
    case refine_4.some => simp [Relayed.setUsage]

/-- **The rest of a message under way is well formed iff its chunks continue it.** -/
theorem wellFormed_iff (h : Underway relayed knows opened) (usage : Usage)
    (hcount : 1 ≤ relayed.info.sendResponseCount)
    (hlong : chunks.length = 1 → 2 ≤ relayed.info.sendResponseCount) :
    WellFormed ((relayed.run usage chunks).sent.map mark) ↔ Continues knows opened chunks := by
  induction chunks generalizing relayed knows opened with
  | nil => exact h.tracks.laid.wellFormed_iff_empty
  | cons chunk rest ih =>
    have hready := h.prepare usage chunk rest.isEmpty
    have hpast : 2 ≤ (relayed.prepare usage chunk rest.isEmpty).info.sendResponseCount := by
      refine Relayed.prepare_count usage chunk hcount fun hlast => hlong ?_
      rw [List.isEmpty_iff.1 hlast]
      rfl
    have hchunk : chunk.usage.isSome → (knows || chunk.usage.isSome || rest.isEmpty) = true := by
      intro husage
      simp [husage]
    rw [Relayed.run, Continues]
    generalize (knows || chunk.usage.isSome || rest.isEmpty) = known at *
    by_cases hpermits : opened.Permits (chunk.brings known).2
    · cases hends : (chunk.brings known).1 with
      | true =>
        obtain ⟨hdone, hwell⟩ := hready.ends hchunk (by omega) hpermits hends
        rw [Relayed.run_sent_of_done hdone, hwell]
        simp [hpermits]
      | false =>
        have hnext := hready.convert hchunk (by omega) hpermits hends
        obtain ⟨-, -, -, -, hkept⟩ := Relayed.convert_later hready.sane (by omega) chunk
        rw [ih hnext (by omega) (by omega)]
        simp [hpermits]
    · obtain ⟨-, -, -, hsane, hkept⟩ := Relayed.convert_later hready.sane (by omega) chunk
      have hspoiled := Relayed.run_spoiled hsane (by omega)
        (hready.spoils hchunk (by omega) hpermits) usage rest
      exact iff_of_false hspoiled.not_wellFormed fun hcontinues => hpermits hcontinues.1

end Underway

/-! ## The first chunk -/

/-- A message that has just begun. -/
theorem Laid.first : Laid 0 .nothing [.first] := by
  have hsafe : Safe ([] ++ [(.first : Mark ℤ BlockKind)]) :=
    safe_snoc_iff.2 ⟨Safe.nil, List.not_mem_nil, rfl⟩
  refine ⟨hsafe, by simp, by simp, le_refl 0, ?_, ?_, ?_, fun _ _ hopen => hopen.elim⟩
  · intro i
    refine iff_of_false (by simp) ?_
    omega
  · omega
  · intro i k _
    exact iff_of_false (by simp) id

theorem firstTools_complete (chunk : ChatCompletionsStreamResponse) :
    chunk.firstTools.Complete := by
  rw [ChatCompletionsStreamResponse.firstTools]
  split
  · trivial
  · intro o ho
    have hzero : o = 0 := by simpa [largest] using ho
    subst hzero
    simp [names]

theorem tracks_convertFirstToolCall
    (hstart : Tracks info.claude .nothing [.first]) (hindex : info.claude.index = 0)
    (chunk : ChatCompletionsStreamResponse) :
    Tracks (convertFirstToolCall info chunk).2.claude chunk.firstTools
      ([.first] ++ (convertFirstToolCall info chunk).1.map mark) := by
  have hnone : info.claude.lastMessagesType = .none := hstart.shows
  cases hcall : chunk.getFirstToolCall with
  | none =>
    simp only [convertFirstToolCall, ChatCompletionsStreamResponse.firstTools, hcall]
    simpa using hstart
  | some call =>
    simp only [convertFirstToolCall, ChatCompletionsStreamResponse.firstTools, hcall]
    have hlaid := hstart.laid
    rw [ClaudeConvertInfo.next, hnone, hindex] at hlaid
    have hadmits : Admits [] ⟨0, true, decide (call.arguments ≠ "")⟩ := by
      refine ⟨fun _ => ⟨le_refl 0, List.not_mem_nil⟩, fun _ => ?_⟩
      simp [names]
    have hgroup := hlaid.openGroup.call hadmits
    refine ⟨?_, rfl, rfl⟩
    by_cases hargs : call.arguments = "" <;>
      simpa [Laid.callMarks, hargs, ClaudeConvertInfo.next] using hgroup

/-- Text or reasoning of the first chunk is a block of its own. -/
theorem Tracks.convertFirstBlock {opened : Opened} (h : Tracks info.claude opened marks)
    {type : LastMessagesType} {block delta : ClaudeMediaMessage} {kind : BlockKind}
    (hshows : ∀ claude : ClaudeConvertInfo, claude.Shows (.block kind) ↔
      claude.lastMessagesType = type)
    (hother : info.claude.lastMessagesType ≠ type) (htools : type ≠ .tools)
    (hblock : ∀ i, mark (blockStart i block) = .start i kind)
    (hdelta : ∀ i, mark (contentDelta i delta) = .delta i kind) (hcomplete : opened.Complete) :
    Tracks (Streams.convertFirstBlock info type block delta).2.claude (.block kind)
      (marks ++ (Streams.convertFirstBlock info type block delta).1.map mark) := by
  have hclosed := (h.advance hcomplete).laid
  have hnone := advance_lastMessagesType info.claude
  have hwritten := (hclosed.openBlock kind).writeBlock
  refine ⟨?_, ?_⟩
  · simpa [Streams.convertFirstBlock, ClaudeConvertInfo.switchTo, hother, hblock, hdelta,
      ClaudeConvertInfo.next, htools, hnone] using hwritten
  · rw [hshows]
    rfl

theorem tracks_convertFirstContent (h : Tracks info.claude chunk.firstTools marks) :
    Tracks (convertFirstContent info chunk).2.claude chunk.firstOpened
      (marks ++ (convertFirstContent info chunk).1.map mark) := by
  have hcomplete := firstTools_complete chunk
  -- neither text nor reasoning is open yet
  have hapart : ∀ kind, chunk.firstTools ≠ .block kind := by
    rw [ChatCompletionsStreamResponse.firstTools]
    split <;> simp
  have htext : info.claude.lastMessagesType ≠ .text := fun htype =>
    hapart _ (h.eq_text_of_lastMessagesType htype)
  have hthinking : info.claude.lastMessagesType ≠ .thinking := fun htype =>
    hapart _ (h.eq_thinking_of_lastMessagesType htype)
  cases hchoices : chunk.choices with
  | nil =>
    have hnone : chunk.firstTools = .nothing := by
      simp [ChatCompletionsStreamResponse.firstTools,
        ChatCompletionsStreamResponse.getFirstToolCall, hchoices]
    rw [hnone] at h
    simpa [convertFirstContent, ChatCompletionsStreamResponse.firstOpened, hchoices] using h
  | cons choice choices =>
    simp only [convertFirstContent, ChatCompletionsStreamResponse.firstOpened, hchoices]
    by_cases hreasoning : choice.delta.getReasoningContent = ""
    · by_cases hcontent : choice.delta.getContentString = ""
      · simpa [hreasoning, hcontent] using h
      · simpa [hreasoning, hcontent] using h.convertFirstBlock (fun _ => Iff.rfl) htext
          (by decide) (fun _ => rfl) (fun _ => rfl) hcomplete
    · simpa [hreasoning] using h.convertFirstBlock (fun _ => Iff.rfl) hthinking (by decide)
        (fun _ => rfl) (fun _ => rfl) hcomplete

theorem firstOpened_complete (chunk : ChatCompletionsStreamResponse) :
    chunk.firstOpened.Complete := by
  have htools := firstTools_complete chunk
  cases hchoices : chunk.choices with
  | nil =>
    rw [ChatCompletionsStreamResponse.firstOpened, hchoices]
    trivial
  | cons choice choices =>
    simp only [ChatCompletionsStreamResponse.firstOpened, hchoices]
    split
    · trivial
    · split
      · trivial
      · exact htools

/-- The first chunk keeps what it does not write. -/
structure FirstKept (info info' : ConvertInfo) : Prop where
  sane : info'.claude.Sane
  done : info'.claude.done = info.claude.done
  usage : info'.claude.usage = info.claude.usage
  count : info'.sendResponseCount = info.sendResponseCount

theorem convertFirst_kept (hsane : info.claude.Sane) (chunk : ChatCompletionsStreamResponse) :
    FirstKept info (convertFirstContent (convertFirstToolCall info chunk).2 chunk).2 := by
  have htools : FirstKept info (convertFirstToolCall info chunk).2 := by
    rw [convertFirstToolCall]
    split
    · exact ⟨hsane, rfl, rfl, rfl⟩
    · exact ⟨⟨hsane.index, le_refl 0, le_refl 0⟩, rfl, rfl, rfl⟩
  have hblock : ∀ type block delta, FirstKept info
        (convertFirstBlock (convertFirstToolCall info chunk).2 type block delta).2 := by
    intro type block delta
    have hswitched := (htools.sane.switchTo type).2
    have hkept := switchTo_kept (convertFirstToolCall info chunk).2.claude type
    exact ⟨⟨hswitched.index, hswitched.base, hswitched.offset⟩, hkept.1.trans htools.done,
      hkept.2.trans htools.usage, htools.count⟩
  rw [convertFirstContent]
  split
  · exact htools
  · split
    · exact hblock _ _ _
    · split
      · exact hblock _ _ _
      · exact htools

/-- **The first chunk converts well**: the message is well formed and ended if the chunk has a
finish reason, and else it is under way. -/
theorem convertFirst_cases (chunk : ChatCompletionsStreamResponse)
    (hstart : Tracks info.claude .nothing [.first]) (hindex : info.claude.index = 0)
    (hsane : info.claude.Sane) (hgoing : info.claude.done = false) :
    (chunk.isFinished = true → (convertFirst info chunk).2.claude.done = true ∧
      WellFormed ((convertFirst info chunk).1.map mark)) ∧
    (chunk.isFinished = false → Underway ⟨(convertFirst info chunk).2, (convertFirst info chunk).1⟩
        info.claude.usage.isSome chunk.firstOpened ∧
      (convertFirst info chunk).2.sendResponseCount = info.sendResponseCount) := by
  have hcontent := tracks_convertFirstContent (tracks_convertFirstToolCall hstart hindex chunk)
  obtain ⟨hsane', hdone, husage, hcount⟩ := convertFirst_kept hsane chunk
  have hmarks : ∀ finish : List ClaudeResponse,
      (messageStartEvent info chunk :: ((convertFirstToolCall info chunk).1 ++
        (convertFirstContent (convertFirstToolCall info chunk).2 chunk).1 ++ finish)).map mark =
      [.first] ++ (convertFirstToolCall info chunk).1.map mark ++
        (convertFirstContent (convertFirstToolCall info chunk).2 chunk).1.map mark ++
          finish.map mark := by simp [messageStartEvent, mark]
  constructor
  · intro hfinished
    obtain ⟨reason, hreason⟩ := Option.isSome_iff_exists.1 hfinished
    simp only [convertFirst, convertFirstFinish, hreason, finishMessage, hmarks]
    refine ⟨trivial, ?_⟩
    exact (hcontent.wellFormed_finish_iff _ _).2 (firstOpened_complete chunk)
  · intro hfinished
    have hnone : chunk.choices.head?.bind StreamChoice.finished = none := by
      simpa [ChatCompletionsStreamResponse.isFinished] using hfinished
    simp only [convertFirst, convertFirstFinish, hnone]
    refine ⟨⟨?_, hsane', hdone.trans hgoing, by rw [husage]⟩, hcount⟩
    rw [hmarks]
    simpa using hcontent

/-! ## Whole streams -/

theorem run_first (relay : OaiRelay) (usage : Usage) (first second : ChatCompletionsStreamResponse)
    (rest : List ChatCompletionsStreamResponse) :
    ∃ info : ConvertInfo, info.claude = { usage := first.usage } ∧ info.sendResponseCount = 1 ∧
      Relayed.run usage ⟨relay.info, []⟩ (first :: second :: rest) =
        Relayed.run usage ⟨(convertFirst info first).2, (convertFirst info first).1⟩
          (second :: rest) := by
  refine ⟨(Relayed.prepare usage ⟨relay.info, []⟩ first false).info, ?_, ?_, ?_⟩
  · cases husage : first.usage <;> simp [Relayed.prepare, husage] <;> rfl
  · cases husage : first.usage <;> simp [Relayed.prepare, husage] <;> rfl
  · cases husage : first.usage <;> simp [Relayed.run, Relayed.prepare, husage] <;> rfl

/-- A second first chunk begins the message again. -/
theorem not_wellFormed_second_first {relayed : Relayed}
    (hne : relayed.sent ≠ []) (hgoing : relayed.info.claude.done = false)
    (hcount : relayed.info.sendResponseCount = 1) :
    ¬ WellFormed ((relayed.convert chunk).sent.map mark) := by
  intro hwell
  have hsafe := hwell.safe
  rw [Relayed.map_mark_convert_sent] at hsafe
  simp only [streamResponseOpenAI2Claude, hgoing, hcount] at hsafe
  exact hne (List.map_eq_nil_iff.1 (hsafe _ _ _ rfl).2)

/-- **The events that a Claude client gets are well formed iff the chunks are convertible.** -/
theorem oaiStreamHandler_wellFormed_iff (relay : OaiRelay)
    (chunks : List ChatCompletionsStreamResponse) :
    WellFormed ((oaiStreamHandler relay (chunks.map some)).map mark) ↔ Convertible chunks := by
  match chunks with
  | [] =>
    refine iff_of_false (fun hwell => ?_) id
    obtain ⟨rest, hfirst, -⟩ := hwell.first
    cases hfirst
  | [chunk] =>
    -- the only chunk is the last one, and is not counted
    rw [oaiStreamHandler_eq_run relay (by simp)]
    refine iff_of_false (fun hwell => ?_) id
    have hsane : (Relayed.setUsage ⟨relay.info, []⟩
        (relay.streamUsage ([chunk].map some))).info.claude.Sane :=
      ⟨le_refl 0, le_refl 0, le_refl 0⟩
    obtain ⟨more, hmore, hlater, -, -⟩ := Relayed.convert_later hsane Nat.zero_ne_one chunk
    obtain ⟨rest, hfirst, -⟩ := hwell.first
    refine hlater.1 ?_
    have heq : [] ++ more = .first :: rest := hmore.symm.trans hfirst
    rw [List.nil_append] at heq
    rw [heq]
    exact List.mem_cons_self
  | first :: second :: rest =>
    rw [oaiStreamHandler_eq_run relay (by simp)]
    generalize relay.streamUsage _ = usage
    obtain ⟨info, hclaude, hcount, hrun⟩ := run_first relay usage first second rest
    rw [hrun]
    have htracks : Tracks info.claude .nothing [.first] := hclaude ▸ ⟨Laid.first, rfl⟩
    have hsane : info.claude.Sane := hclaude ▸ ⟨le_refl 0, le_refl 0, le_refl 0⟩
    obtain ⟨hends, hcontinues⟩ := convertFirst_cases first htracks (by rw [hclaude]) hsane
      (by rw [hclaude])
    cases hfinished : first.isFinished with
    | true =>
      obtain ⟨hdone, hwell⟩ := hends hfinished
      rw [Relayed.run_sent_of_done hdone]
      exact iff_of_true hwell (.inl hfinished)
    | false =>
      obtain ⟨hunderway, hkept⟩ := hcontinues hfinished
      have hone : (convertFirst info first).2.sendResponseCount = 1 := hkept.trans hcount
      have husage : info.claude.usage.isSome = first.usage.isSome := by rw [hclaude]
      rw [husage] at hunderway
      cases rest with
      | nil =>
        refine iff_of_false ?_ ?_
        · exact not_wellFormed_second_first (List.cons_ne_nil _ _) hunderway.going hone
        · rintro (hcontra | ⟨hne, -⟩)
          · exact absurd (hcontra.symm.trans hfinished) (by decide)
          · exact hne rfl
      | cons third rest =>
        rw [hunderway.wellFormed_iff usage (le_of_eq hone.symm) (by simp)]
        simp [Convertible, hfinished]

/-! ## Streams that upstreams send -/

def choiceChunk (delta : ChoiceDelta) (finishReason : Option String) (usage : Option Usage) :
    ChatCompletionsStreamResponse :=
  { id := "c", model := "m", choices := [⟨delta, finishReason⟩], usage := usage }

def roleChunk : ChatCompletionsStreamResponse :=
  choiceChunk { role := "assistant", content := some "" } none none

def hiChunk : ChatCompletionsStreamResponse := choiceChunk { content := some "Hi" } none none

def finishChunk : ChatCompletionsStreamResponse := choiceChunk {} (some "stop") none

def usageChunk : ChatCompletionsStreamResponse :=
  { id := "c", model := "m", usage := some { promptTokens := 3, completionTokens := 1 } }

def toolChunk (index : ℤ) : ChatCompletionsStreamResponse :=
  choiceChunk { toolCalls := [{ index := some index, id := "t", name := "f" }] } none none

/-- Text that ends with a finish reason, and a chunk with the usage after it. -/
example : Convertible [roleChunk, hiChunk, finishChunk, usageChunk] := by decide

/-- Two tool calls side by side. -/
example : Convertible [roleChunk, toolChunk 0, toolChunk 1, finishChunk, usageChunk] := by decide

/-- Without a chunk for the usage the text is not stopped; a group of tool calls from index one on
stops an index that was not started; and a stream of one chunk does not begin the message. -/
theorem text_left_open_and_gap_stopped_and_not_begun :
    ¬ WellFormed ((oaiStreamHandler {}
      ([roleChunk, hiChunk, finishChunk].map some)).map mark) ∧
    ¬ WellFormed ((oaiStreamHandler {}
      ([roleChunk, toolChunk 1, finishChunk, usageChunk].map some)).map mark) ∧
    ¬ WellFormed ((oaiStreamHandler {} ([hiChunk].map some)).map mark) := by
  refine ⟨fun hwell => ?_, fun hwell => ?_, fun hwell => ?_⟩
  · exact absurd (hwell.stopped 0 .text (by decide)) (by decide)
  · obtain ⟨k, hk⟩ := hwell.stops [.first, .start 1 .toolUse] 0 [.stop 1, .other, .last]
      (by decide)
    simp at hk
  · obtain ⟨rest, hfirst, -⟩ := hwell.first
    exact absurd (congrArg List.head? hfirst) (by simp; decide)

end Mujian.Streams
