import Mujian.Streams.Credentials

/-!
# The indices of tool calls

A chat completion client tells tool calls apart by the indices that `openAIToolCallIndex` gives to
the blocks of the upstream. **The blocks of the accepted tool events have the indices 0, 1, 2, … in
the order in which they appear** (`toolCallIndex_eq_idxOf`), however many events are rejected.
-/

namespace Mujian.Streams

/-- The fields `toolCallIndexes` and `nextToolCallIndex`, and the block and the tool index of each
tool event that was accepted. -/
structure ToolCalls where
  indexes : List (ℤ × ℤ) := []
  next : ℤ := 0
  given : List (ℤ × ℤ) := []

variable {relay : ClaudeRelay} {claude : ClaudeResponseInfo} {event : Event}
  {response : ClaudeResponse} {write : WriteOutcome} {s : ToolCalls}

namespace ToolCalls

/-- A response, and whether it is accepted. A rejected event is taken back only if it may add a
number. -/
def step (s : ToolCalls) (event : ClaudeResponse × Bool) : ToolCalls :=
  let (toolIndex, indexes, next) := toolCallIndex s.indexes s.next event.1
  if claudeStreamMayAddToolCallIndex event.1 then
    if event.2 then
      { indexes, next, given := s.given ++ (event.1.index.map (·, toolIndex)).toList }
    else s
  else { s with indexes, next }

/-- The blocks in the order in which they appear. -/
def blocks (s : ToolCalls) : List ℤ := (s.given.map Prod.fst).eraseDups

structure Inv (s : ToolCalls) : Prop where
  next : s.next = s.blocks.length
  lookup : ∀ block, s.indexes.lookup block =
    if block ∈ s.blocks then some (s.blocks.idxOf block : ℤ) else none
  given : ∀ g ∈ s.given, g.2 = s.blocks.idxOf g.1

theorem step_of_not_mayAdd (h : claudeStreamMayAddToolCallIndex response = false)
    (s : ToolCalls) (accepted : Bool) : s.step (response, accepted) = s := by
  have hkept : (toolCallIndex s.indexes s.next response).2 = (s.indexes, s.next) := by
    unfold toolCallIndex
    rw [h]
    split
    · rfl
    · split <;> rfl
  simp only [step, h, hkept, Bool.false_eq_true, if_false]

theorem step_rejected (s : ToolCalls) (response : ClaudeResponse) :
    s.step (response, false) = s := by
  cases hmay : claudeStreamMayAddToolCallIndex response with
  | false => exact step_of_not_mayAdd hmay s false
  | true => simp only [step, hmay, if_true, Bool.false_eq_true, if_false]

theorem step_accepted (s : ToolCalls) (response : ClaudeResponse) :
    ((s.step (response, true)).indexes, (s.step (response, true)).next) =
      (toolCallIndex s.indexes s.next response).2 := by
  cases hmay : claudeStreamMayAddToolCallIndex response <;> simp only [step, hmay] <;> rfl

theorem mem_blocks {g : ℤ × ℤ} (h : g ∈ s.given) : g.1 ∈ s.blocks :=
  List.mem_eraseDups.2 (List.mem_map_of_mem h)

theorem blocks_snoc (s : ToolCalls) (indexes : List (ℤ × ℤ)) (next block toolIndex : ℤ) :
    blocks ⟨indexes, next, s.given ++ [(block, toolIndex)]⟩ =
      if block ∈ s.blocks then s.blocks else s.blocks ++ [block] := by
  unfold blocks
  rw [List.map_append, List.eraseDups_append]
  split
  · next hmem =>
    rw [List.mem_eraseDups] at hmem
    simp [List.removeAll, hmem]
  · next hmem =>
    rw [List.mem_eraseDups] at hmem
    simp [List.removeAll, hmem, List.eraseDups_cons]

theorem Inv.step (h : s.Inv) (event : ClaudeResponse × Bool) : (s.step event).Inv := by
  obtain ⟨response, accepted⟩ := event
  cases accepted with
  | false =>
    rw [step_rejected]
    exact h
  | true =>
  cases hmay : claudeStreamMayAddToolCallIndex response with
  | false =>
    rw [step_of_not_mayAdd hmay]
    exact h
  | true =>
    obtain ⟨block, hblock⟩ : ∃ block, response.index = some block :=
      Option.isSome_iff_exists.1 (Bool.and_elim_left hmay)
    by_cases hmem : block ∈ s.blocks
    · have hindex : toolCallIndex s.indexes s.next response =
          (↑(s.blocks.idxOf block), s.indexes, s.next) := by
        simp [toolCallIndex, hblock, h.lookup, hmem]
      simp only [ToolCalls.step, hmay, if_true, hindex, hblock, Option.map_some, Option.toList_some]
      have hblocks := s.blocks_snoc s.indexes s.next block (s.blocks.idxOf block)
      rw [if_pos hmem] at hblocks
      refine ⟨by rw [hblocks]; exact h.next, by rw [hblocks]; exact h.lookup, ?_⟩
      rw [hblocks]
      simpa [or_imp, forall_and] using h.given
    · have hindex : toolCallIndex s.indexes s.next response =
          (s.next, (block, s.next) :: s.indexes, s.next + 1) := by
        simp [toolCallIndex, hblock, h.lookup, hmem, hmay]
      simp only [ToolCalls.step, hmay, if_true, hindex, hblock, Option.map_some, Option.toList_some]
      have hblocks := s.blocks_snoc ((block, s.next) :: s.indexes) (s.next + 1) block s.next
      rw [if_neg hmem] at hblocks
      refine ⟨?_, fun other => ?_, ?_⟩
      · rw [hblocks, List.length_append, Nat.cast_add, ← h.next]
        rfl
      · rw [hblocks, List.lookup_cons, h.lookup]
        by_cases hother : other = block
        · simp [hother, List.idxOf_append_of_notMem hmem, h.next]
        · rw [beq_false_of_ne hother]
          by_cases hold : other ∈ s.blocks
          · simp [hold, List.idxOf_append_of_mem hold]
          · simp [hother, hold]
      · rw [hblocks]
        intro g hg
        obtain hg | rfl := by simpa using hg
        · rw [List.idxOf_append_of_mem (mem_blocks hg), h.given g hg]
        · simp [List.idxOf_append_of_notMem hmem, h.next]

end ToolCalls

/-- **The index of an accepted tool event is the place of its block in the order in which the blocks
of such events appear.** -/
theorem toolCallIndex_eq_idxOf (events : List (ClaudeResponse × Bool)) :
    let s := events.foldl ToolCalls.step {}
    (∀ g ∈ s.given, g.2 = s.blocks.idxOf g.1) ∧
      (∀ g ∈ s.given, ∀ g' ∈ s.given, g.2 = g'.2 ↔ g.1 = g'.1) ∧ s.next = s.blocks.length := by
  have hinv : (events.foldl ToolCalls.step {}).Inv := by
    refine List.foldlRecOn events _ ⟨rfl, fun _ => rfl, by simp⟩ fun s h event _ => h.step event
  refine ⟨hinv.given, fun g hg g' hg' => ?_, hinv.next⟩
  rw [hinv.given g hg, hinv.given g' hg', Nat.cast_inj]
  exact List.idxOf_inj (ToolCalls.mem_blocks hg)

/-- An event that passes all checks; its write may still fail. -/
def Handled.accepted (handled : Handled) : Bool := handled.error.isNone || handled.payload.isSome

/-- The handler numbers the tool calls in this way. -/
theorem handle_toolCalls (hformat : relay.info.relayFormat = .openAI)
    (hresponse : event.response = .ok response)
    (hnumbers : (claude.toolCallIndexes, claude.nextToolCallIndex) = (s.indexes, s.next)) :
    let handled := handleStreamResponseData relay claude event write
    let s := s.step (response, handled.accepted)
    (handled.claude.toolCallIndexes, handled.claude.nextToolCallIndex) = (s.indexes, s.next) := by
  have houtcome := handle_cases relay claude event write
  generalize handleStreamResponseData relay claude event write = handled at houtcome ⊢
  cases houtcome with
  | rejected | uncovered =>
    change _ = ((s.step (response, false)).indexes, (s.step (response, false)).next)
    rwa [ToolCalls.step_rejected]
  | pinged _ hother hmanaged hping =>
    cases hresponse.symm.trans hother
    have hmay : claudeStreamMayAddToolCallIndex response = false := by
      simp [claudeStreamMayAddToolCallIndex, hping]
    have hclaude : (forwardPing relay claude response event.wire write).claude = claude := by
      unfold forwardPing
      split
      · split <;> rfl
      · rfl
    dsimp only
    rwa [ToolCalls.step_of_not_mayAdd hmay, hclaude]
  | committed _ projected written suffix hother hadmitted houtgoing =>
    cases hresponse.symm.trans hother
    have hrecorded := recorded_indexes hformat claude response event.wire projected
    rw [(Prod.mk.inj hnumbers).1, (Prod.mk.inj hnumbers).2, ← ToolCalls.step_accepted] at hrecorded
    generalize recorded relay claude response event.wire projected = after at hrecorded
    unfold commit
    split
    · exact hrecorded
    · split <;> exact hrecorded

end Mujian.Streams
