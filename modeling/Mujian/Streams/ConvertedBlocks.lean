import Mujian.Foundations.Blocks
import Mujian.Streams.Conversion

/-!
# The blocks of a converted stream

What a Claude client reads in the events of a conversion (`mark`), and what the chunks of the
upstream open (`Opened`). Tool calls that follow each other form a group of blocks under
consecutive indexes, which can be stopped only if every index up to the largest one was named.

`Laid next opened marks` is the invariant: the blocks below `next` are stopped, the blocks of
`opened` are open from `next` on, and nothing else was started.
-/

namespace Mujian.Streams

open Blocks

inductive BlockKind
  | text | thinking | toolUse
  | other (type : String)
  deriving DecidableEq

namespace BlockKind

def ofBlockType (type : String) : BlockKind :=
  if type = "text" then .text
  else if type = "thinking" then .thinking
  else if type = "tool_use" then .toolUse
  else .other type

def ofDeltaType (type : String) : BlockKind :=
  if type = "text_delta" then .text
  else if type = "thinking_delta" then .thinking
  else if type = "input_json_delta" then .toolUse
  else .other type

end BlockKind

/-- What an event does to the blocks of the message; an absent index reads as zero. -/
def mark (event : ClaudeResponse) : Mark ℤ BlockKind :=
  match event.type with
  | .messageStart => .first
  | .contentBlockStart =>
    .start (event.index.getD 0) (.ofBlockType ((event.contentBlock.map (·.type)).getD ""))
  | .contentBlockDelta =>
    .delta (event.index.getD 0) (.ofDeltaType ((event.delta.map (·.type)).getD ""))
  | .contentBlockStop => .stop (event.index.getD 0)
  | .messageStop => .last
  | .messageDelta | .ping | .error | .other _ => .other

@[simp] theorem mark_generateStopBlock (i : ℤ) : mark (generateStopBlock i) = .stop i := rfl

@[simp] theorem mark_toolUseStart (i : ℤ) (call : ToolCallResponse) :
    mark (blockStart i (toolUseBlock call)) = .start i .toolUse := rfl

@[simp] theorem mark_inputJsonDelta (i : ℤ) (call : ToolCallResponse) :
    mark (contentDelta i (inputJsonDelta call)) = .delta i .toolUse := rfl

@[simp] theorem mark_messageStopEvent : mark messageStopEvent = .last := rfl

/-- A tool call of a chunk: its offset in the group, whether it has a name and arguments. -/
structure Call where
  offset : ℤ
  (named filled : Bool)

def ToolCallResponse.call (call : ToolCallResponse × ℕ) : Call where
  offset := call.1.offset call.2
  named := decide (call.1.name ≠ "")
  filled := decide (call.1.arguments ≠ "")

def names (calls : List Call) : List ℤ := (calls.filter (·.named)).map (·.offset)

def largest (calls : List Call) : ℤ := calls.foldl (fun m call => max m call.offset) 0

@[simp] theorem names_nil : names [] = [] := rfl

variable {calls : List Call} {o : ℤ}

theorem mem_names_snoc {call : Call} :
    o ∈ names (calls ++ [call]) ↔ o ∈ names calls ∨ call.named = true ∧ call.offset = o := by
  simp only [names, List.filter_append, List.map_append, List.mem_append]
  refine or_congr_right ?_
  cases hnamed : call.named <;> simp [hnamed, eq_comm]

@[simp] theorem largest_snoc (calls : List Call) (call : Call) :
    largest (calls ++ [call]) = max (largest calls) call.offset := by simp [largest]

theorem largest_nonneg (calls : List Call) : 0 ≤ largest calls := by
  induction calls using List.reverseRecOn with
  | nil => exact le_refl 0
  | append_singleton calls call ih =>
    rw [largest_snoc]
    exact ih.trans (le_max_left _ _)

theorem le_largest_of_mem_names (h : o ∈ names calls) : o ≤ largest calls := by
  induction calls using List.reverseRecOn with
  | nil => exact absurd h List.not_mem_nil
  | append_singleton calls call ih =>
    rw [largest_snoc]
    rcases mem_names_snoc.1 h with hold | ⟨-, rfl⟩
    · exact (ih hold).trans (le_max_left _ _)
    · exact le_max_right _ _

/-- A call fits in the group: it names an index that had no name, and not a negative one, and
arguments are for an index with a name. -/
def Admits (calls : List Call) (call : Call) : Prop :=
  (call.named = true → 0 ≤ call.offset ∧ call.offset ∉ names calls) ∧
    (call.filled = true → call.offset ∈ names (calls ++ [call]))

instance (calls : List Call) (call : Call) : Decidable (Admits calls call) :=
  inferInstanceAs (Decidable (_ ∧ _))

/-- Calls fit in the group one after the other. -/
def AdmitsAll (calls : List Call) : List Call → Prop
  | [] => True
  | call :: more => Admits calls call ∧ AdmitsAll (calls ++ [call]) more

instance AdmitsAll.decidable : (calls more : List Call) → Decidable (AdmitsAll calls more)
  | _, [] => .isTrue trivial
  | calls, call :: more =>
    have := AdmitsAll.decidable (calls ++ [call]) more
    inferInstanceAs (Decidable (Admits calls call ∧ _))

/-- What a chunk brings, and what is open: nothing, a block, or a group of tool calls. -/
inductive Opened
  | nothing
  | block (kind : BlockKind)
  | tools (calls : List Call)

namespace Opened

/-- The open blocks, by their distance from the first index that is free. -/
def Opens : Opened → ℤ → BlockKind → Prop
  | nothing, _, _ => False
  | block kind, o, k => o = 0 ∧ k = kind
  | tools calls, o, k => o ∈ names calls ∧ k = .toolUse

/-- How many indexes are stopped with it. -/
def width : Opened → ℤ
  | nothing => 0
  | block _ => 1
  | tools calls => largest calls + 1

/-- Everything that is stopped with it was started: a group has no index without a name. -/
def Complete : Opened → Prop
  | tools calls => ∀ o ∈ List.range (largest calls + 1).toNat, (o : ℤ) ∈ names calls
  | nothing | block _ => True

instance : (opened : Opened) → Decidable opened.Complete
  | nothing | block _ => .isTrue trivial
  | tools calls => inferInstanceAs (Decidable (∀ o ∈ List.range _, (o : ℤ) ∈ names calls))

def Empty : Opened → Prop
  | nothing => True
  | block _ => False
  | tools calls => names calls = []

instance : (opened : Opened) → Decidable opened.Empty
  | nothing => .isTrue trivial
  | block _ => .isFalse id
  | tools calls => inferInstanceAs (Decidable (names calls = []))

variable {opened : Opened}

theorem complete_iff : opened.Complete ↔ ∀ o, 0 ≤ o → o < opened.width → ∃ k, opened.Opens o k := by
  cases opened with
  | nothing =>
    simp only [Complete, width, true_iff]
    omega
  | block kind =>
    simp only [Complete, width, true_iff]
    intro o hnonneg hlt
    exact ⟨kind, by omega, rfl⟩
  | tools calls =>
    simp only [Complete, width, List.mem_range]
    constructor
    · intro h o hnonneg hlt
      have hmem := h o.toNat (by omega)
      rw [Int.toNat_of_nonneg hnonneg] at hmem
      exact ⟨.toolUse, hmem, rfl⟩
    · intro h o hlt
      obtain ⟨k, hmem, -⟩ := h o (by omega) (by omega)
      exact hmem

theorem empty_iff : opened.Empty ↔ ∀ o k, ¬ opened.Opens o k := by
  cases opened with
  | nothing | block => simp [Empty, Opens]
  | tools calls => simp [Empty, Opens, List.eq_nil_iff_forall_not_mem]

theorem lt_width_of_opens {k : BlockKind} (h : opened.Opens o k) : o < opened.width := by
  cases opened with
  | nothing => exact h.elim
  | block kind =>
    obtain ⟨rfl, -⟩ := h
    exact Int.one_pos
  | tools calls => exact Int.lt_add_one_of_le (le_largest_of_mem_names h.1)

theorem width_nonneg (opened : Opened) : 0 ≤ opened.width := by
  cases opened with
  | nothing => exact le_refl 0
  | block kind => exact Int.one_nonneg
  | tools calls => exact Int.le_add_one (largest_nonneg calls)

end Opened

/-- The blocks below `next` are stopped, those of `opened` are open from there on, and no other
was started; the message goes on. -/
structure Laid (next : ℤ) (opened : Opened) (marks : List (Mark ℤ BlockKind)) : Prop where
  safe : Safe marks
  begun : marks ≠ []
  going : .last ∉ marks
  nonneg : 0 ≤ next
  stopped : ∀ i, .stop i ∈ marks ↔ 0 ≤ i ∧ i < next
  started : ∀ i, 0 ≤ i → i < next → ∃ k, .start i k ∈ marks
  current : ∀ i k, ¬ (0 ≤ i ∧ i < next) → (.start i k ∈ marks ↔ opened.Opens (i - next) k)
  offsets : ∀ o k, opened.Opens o k → 0 ≤ o

/-- A block under a negative index is open. -/
def Doomed (marks : List (Mark ℤ BlockKind)) : Prop :=
  ∃ i k, i < 0 ∧ .start i k ∈ marks ∧ .stop i ∉ marks

namespace Laid

variable {next : ℤ} {opened : Opened} {marks : List (Mark ℤ BlockKind)}

variable {m : Mark ℤ BlockKind} {o i : ℤ} {k : BlockKind} {calls : List Call}

section

variable (h : Laid next opened marks)
include h

theorem allowed_iff : Safe (marks ++ [m]) ↔ Follows marks m := by
  rw [safe_snoc_iff]
  exact ⟨fun hm => hm.2.2, fun hm => ⟨h.safe, h.going, hm⟩⟩

theorem mem_of_opens
    (hopen : opened.Opens o k) : .start (next + o) k ∈ marks ∧ .stop (next + o) ∉ marks := by
  have hnonneg := h.offsets o k hopen
  have hbeyond : ¬ (0 ≤ next + o ∧ next + o < next) := by omega
  refine ⟨(h.current _ _ hbeyond).2 ?_, fun hstop => hbeyond ((h.stopped _).1 hstop)⟩
  rwa [show next + o - next = o by omega]

theorem congr {opened' : Opened} (hopens : ∀ o k, opened'.Opens o k ↔ opened.Opens o k) :
    Laid next opened' marks := by
  refine ⟨h.safe, h.begun, h.going, h.nonneg, h.stopped, h.started, fun i k hi => ?_, ?_⟩
  · rw [hopens]
    exact h.current i k hi
  · intro o k hopen
    exact h.offsets o k ((hopens o k).1 hopen)

/-- A mark that starts and stops nothing keeps the blocks. -/
theorem snoc (hfollows : Follows marks m)
    (hlast : m ≠ .last) (hstart : ∀ i k, m ≠ .start i k) (hstop : ∀ i, m ≠ .stop i) :
    Laid next opened (marks ++ [m]) := by
  have hmem : ∀ x, x ≠ m → (x ∈ marks ++ [m] ↔ x ∈ marks) := by
    intro x hx
    simp [hx]
  refine ⟨h.allowed_iff.2 hfollows, by simp, ?_, h.nonneg, ?_, ?_, ?_, h.offsets⟩
  · rw [hmem _ hlast.symm]
    exact h.going
  · intro i
    rw [hmem _ (hstop i).symm]
    exact h.stopped i
  · intro i hnonneg hlt
    obtain ⟨k, hk⟩ := h.started i hnonneg hlt
    exact ⟨k, List.mem_append_left _ hk⟩
  · intro i k hbeyond
    rw [hmem _ (hstart i k).symm]
    exact h.current i k hbeyond

theorem delta (hopen : opened.Opens o k) : Laid next opened (marks ++ [.delta (next + o) k]) := by
  refine h.snoc ⟨h.begun, h.mem_of_opens hopen⟩ ?_ ?_ ?_ <;> simp

/-- A new block after the stopped ones, next to those that are open. -/
theorem start {opened' : Opened} (hnonneg : 0 ≤ o) (hnew : ∀ k, ¬ opened.Opens o k)
    (hopens : ∀ o' k', opened'.Opens o' k' ↔ opened.Opens o' k' ∨ o' = o ∧ k' = k) :
    Laid next opened' (marks ++ [.start (next + o) k]) := by
  have hbeyond : ¬ (0 ≤ next + o ∧ next + o < next) := by omega
  refine ⟨h.allowed_iff.2 ⟨h.begun, fun k' hk' => ?_⟩, by simp, by simpa using h.going, h.nonneg,
    ?_, ?_, ?_, ?_⟩
  · have hold := (h.current _ _ hbeyond).1 hk'
    rw [show next + o - next = o by omega] at hold
    exact hnew k' hold
  · intro i
    simpa using h.stopped i
  · intro i hi hlt
    obtain ⟨k', hk'⟩ := h.started i hi hlt
    exact ⟨k', List.mem_append_left _ hk'⟩
  · intro i k' hi
    rw [hopens, ← h.current i k' hi, List.mem_append, List.mem_singleton, Mark.start.injEq]
    refine or_congr_right (and_congr_left fun _ => ?_)
    omega
  · intro o' k' hopen
    rcases (hopens o' k').1 hopen with hold | ⟨rfl, -⟩
    · exact h.offsets o' k' hold
    · exact hnonneg

end

/-- The indexes that are stopped together. -/
def stopIndexes (next width : ℤ) : List ℤ :=
  (List.range width.toNat).map fun o : ℕ => next + (o : ℤ)

theorem mem_stopIndexes {width : ℤ} (hwidth : 0 ≤ width) :
    i ∈ stopIndexes next width ↔ next ≤ i ∧ i < next + width := by
  simp only [stopIndexes, List.mem_map, List.mem_range]
  constructor
  · omega
  · rintro ⟨hle, hlt⟩
    exact ⟨(i - next).toNat, by omega, by omega⟩

theorem nodup_stopIndexes (next width : ℤ) : (stopIndexes next width).Nodup := by
  refine List.Nodup.map ?_ List.nodup_range
  intro a b hab
  have : next + (a : ℤ) = next + (b : ℤ) := hab
  omega

section

variable (h : Laid next opened marks)
include h

/-- **The open blocks can be stopped iff they are complete.** -/
theorem safe_stops_iff :
    Safe (marks ++ (stopIndexes next opened.width).map .stop) ↔ opened.Complete := by
  rw [safe_append_stops_iff h.safe h.begun h.going, Opened.complete_iff]
  constructor
  · rintro ⟨-, hopen⟩ o hnonneg hlt
    obtain ⟨⟨k, hk⟩, -⟩ := hopen (next + o) ((mem_stopIndexes opened.width_nonneg).2 (by omega))
    have hbeyond : ¬ (0 ≤ next + o ∧ next + o < next) := by omega
    have hopens := (h.current _ _ hbeyond).1 hk
    rw [show next + o - next = o by omega] at hopens
    exact ⟨k, hopens⟩
  · intro hcomplete
    refine ⟨nodup_stopIndexes _ _, fun i hi => ?_⟩
    rw [mem_stopIndexes opened.width_nonneg] at hi
    obtain ⟨k, hk⟩ := hcomplete (i - next) (by omega) (by omega)
    obtain ⟨hstart, hstop⟩ := h.mem_of_opens hk
    rw [show next + (i - next) = i by omega] at hstart hstop
    exact ⟨⟨k, hstart⟩, hstop⟩

theorem close (hcomplete : opened.Complete) : Laid (next + opened.width) .nothing
      (marks ++ (stopIndexes next opened.width).map .stop) := by
  have hwidth := opened.width_nonneg
  have hnonneg := h.nonneg
  have hstarts : ∀ i k, Mark.start i k ∈ marks ++ (stopIndexes next opened.width).map .stop ↔
      .start i k ∈ marks := by simp
  refine ⟨h.safe_stops_iff.2 hcomplete, by simp [h.begun], by simp [h.going], by omega, ?_, ?_,
    ?_, fun _ _ hopen => hopen.elim⟩
  · intro i
    have hmem : (.stop i : Mark ℤ BlockKind) ∈ (stopIndexes next opened.width).map .stop ↔
        i ∈ stopIndexes next opened.width := by simp
    rw [List.mem_append, h.stopped, hmem, mem_stopIndexes hwidth]
    omega
  · intro i hi hlt
    by_cases hold : i < next
    · obtain ⟨k, hk⟩ := h.started i hi hold
      exact ⟨k, List.mem_append_left _ hk⟩
    · obtain ⟨k, hk⟩ := Opened.complete_iff.1 hcomplete (i - next) (by omega) (by omega)
      have hstart := (h.mem_of_opens hk).1
      rw [show next + (i - next) = i by omega] at hstart
      exact ⟨k, List.mem_append_left _ hstart⟩
  · intro i k hbeyond
    rw [hstarts]
    refine iff_of_false (fun hk => ?_) id
    -- what is open lies between the old and the new index
    have hopen := (h.current i k (by omega)).1 hk
    have hlow := h.offsets _ _ hopen
    have hhigh := Opened.lt_width_of_opens hopen
    omega

/-- A message without open blocks is well formed, and no other is. -/
theorem wellFormed_iff_empty : WellFormed marks ↔ opened.Empty := by
  rw [wellFormed_iff, Opened.empty_iff]
  constructor
  · rintro ⟨-, -, hclosed⟩ o k hopen
    obtain ⟨hstart, hstop⟩ := h.mem_of_opens hopen
    exact hstop (hclosed _ k hstart)
  · intro hempty
    refine ⟨h.safe, h.begun, fun i k hk => (h.stopped i).2 ?_⟩
    by_contra hbeyond
    exact hempty _ _ ((h.current i k hbeyond).1 hk)

end

def callMarks (next : ℤ) (call : Call) : List (Mark ℤ BlockKind) :=
  (if call.named then [.start (next + call.offset) .toolUse] else []) ++
    (if call.filled then [.delta (next + call.offset) .toolUse] else [])

section

variable (h : Laid next (.tools calls) marks)
include h

/-- The group with one more call, as far as blocks are concerned: a call without a name opens
nothing. -/
theorem unnamed {call : Call}
    (hnamed : call.named = false) : Laid next (.tools (calls ++ [call])) marks :=
  h.congr (by simp [Opened.Opens, mem_names_snoc, hnamed])

/-- A name that fits starts a block of the group. -/
theorem named {call : Call}
    (hnamed : call.named = true) (hnonneg : 0 ≤ call.offset) (hnew : call.offset ∉ names calls) :
    Laid next (.tools (calls ++ [call])) (marks ++ [.start (next + call.offset) .toolUse]) := by
  refine h.start hnonneg (fun _ hopen => hnew hopen.1) ?_
  simp only [Opened.Opens, mem_names_snoc]
  tauto

/-- **A call that fits keeps the group.** -/
theorem call {call : Call} (hadmits : Admits calls call) :
    Laid next (.tools (calls ++ [call])) (marks ++ callMarks next call) := by
  obtain ⟨hname, hargs⟩ := hadmits
  have hstarted : Laid next (.tools (calls ++ [call]))
      (marks ++ if call.named then [.start (next + call.offset) .toolUse] else []) := by
    cases hnamed : call.named with
    | false => simpa using h.unnamed hnamed
    | true =>
      obtain ⟨hnonneg, hnew⟩ := hname hnamed
      simpa using h.named hnamed hnonneg hnew
  rw [callMarks]
  cases hfilled : call.filled with
  | false => simpa using hstarted
  | true => simpa using hstarted.delta ⟨hargs hfilled, rfl⟩

/-- Arguments for an index without a name are not safe. -/
theorem not_safe_delta
    (hnot : o ∉ names calls) : ¬ Safe (marks ++ [.delta (next + o) .toolUse]) := by
  rw [h.allowed_iff]
  rintro ⟨-, hstart, hstop⟩
  by_cases hbelow : 0 ≤ next + o ∧ next + o < next
  · exact hstop ((h.stopped _).2 hbelow)
  · have hopen := (h.current _ _ hbelow).1 hstart
    rw [show next + o - next = o by omega] at hopen
    exact hnot hopen.1

/-- **A call that does not fit spoils the stream.** -/
theorem call_spoils {call : Call} (hnot : ¬ Admits calls call) :
    ¬ Safe (marks ++ callMarks next call) ∨ Doomed (marks ++ callMarks next call) := by
  cases hnamed : call.named with
  | true =>
    -- the name is that of a negative index or of one that has a name
    have hbad : ¬ (0 ≤ call.offset ∧ call.offset ∉ names calls) := by
      intro hgood
      refine hnot ⟨fun _ => hgood, fun _ => ?_⟩
      exact mem_names_snoc.2 (.inr ⟨hnamed, rfl⟩)
    have hsplit : marks ++ callMarks next call =
        (marks ++ [.start (next + call.offset) .toolUse]) ++
          if call.filled then [.delta (next + call.offset) .toolUse] else [] := by
      rw [callMarks, hnamed, if_pos rfl, List.append_assoc]
    by_cases hnonneg : 0 ≤ call.offset
    · have hold : call.offset ∈ names calls := by
        by_contra hnew
        exact hbad ⟨hnonneg, hnew⟩
      refine .inl fun hsafe => ?_
      rw [hsplit] at hsafe
      have hfollows := h.allowed_iff.1 hsafe.of_append
      exact hfollows.2 .toolUse (h.mem_of_opens ⟨hold, rfl⟩).1
    · by_cases hindex : 0 ≤ next + call.offset
      · refine .inl fun hsafe => ?_
        rw [hsplit] at hsafe
        -- an index from below `next` is not started again
        obtain ⟨k', hk'⟩ := h.started (next + call.offset) hindex (by omega)
        exact (h.allowed_iff.1 hsafe.of_append).2 k' hk'
      · refine .inr ⟨next + call.offset, .toolUse, by omega, ?_, ?_⟩
        · rw [hsplit]
          simp
        · rw [hsplit]
          have hstop : .stop (next + call.offset) ∉ marks := by
            rw [h.stopped]
            omega
          cases call.filled <;> simp [hstop]
  | false =>
    have hnames : ∀ o, o ∈ names (calls ++ [call]) ↔ o ∈ names calls := by
      simp [mem_names_snoc, hnamed]
    have hfilled : call.filled = true ∧ call.offset ∉ names calls := by
      by_contra hfits
      refine hnot ⟨fun hname => absurd hname (by simp [hnamed]), fun hfilled => ?_⟩
      rw [hnames]
      by_contra hmem
      exact hfits ⟨hfilled, hmem⟩
    left
    rw [callMarks, hnamed, hfilled.1]
    simpa using h.not_safe_delta hfilled.2

end

end Laid

end Mujian.Streams
