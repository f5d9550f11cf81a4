import Mathlib.Algebra.BigOperators.Group.List.Basic
import Mathlib.Algebra.Order.Group.Nat
import Mathlib.Algebra.Order.Ring.Int
import Mathlib.Data.List.Infix
import Mujian.Foundations.Text

/-!
# The history of the agent

`recentCompleteAgentHistory` pairs the messages of a session to turns and walks back from the last
one as long as messages and estimated tokens stay within the limits. It returns the longest end of
the turns that fits (`recentCompleteAgentHistory_spec`).
-/

namespace Mujian.Studio

structure HistoryMessage where
  (role content : String)

/-- A message of the user with its answer. -/
structure AgentTurn where
  (user assistant : String)

def AgentTurn.messages (turn : AgentTurn) : List HistoryMessage :=
  [⟨"user", turn.user⟩, ⟨"assistant", turn.assistant⟩]

def agentHistoryMaxMessages : ℕ := 20

def agentHistoryMaxTokens : ℕ := 12000

def estimateAgentTokens (content : String) : ℕ :=
  let ascii := content.toList.countP fun c => c.toNat ≤ 0x7f
  let nonASCII := content.toList.countP fun c => ¬c.toNat ≤ 0x7f
  let tokens := nonASCII + (ascii + 3) / 4
  if tokens = 0 ∧ content ≠ "" then 1 else tokens

def AgentTurn.tokens (turn : AgentTurn) : ℕ :=
  (turn.messages.map fun message => estimateAgentTokens message.content).sum

/-- The turns so far and the message of the user that waits for an answer, after one more message.
`toLower` is `strings.ToLower`. -/
def pairTurn (toLower : String → String) (state : List AgentTurn × Option String)
    (stored : HistoryMessage) : List AgentTurn × Option String :=
  let role := toLower (trimSpace stored.role)
  let blank := trimSpace stored.content = ""
  if role = "user" then (state.1, if blank then none else some stored.content)
  else
    match state.2 with
    | some user =>
      if role = "assistant" ∧ ¬blank then (state.1 ++ [⟨user, stored.content⟩], none) else state
    | none => state

def completeTurns (toLower : String → String) (history : List HistoryMessage) : List AgentTurn :=
  (history.foldl (pairTurn toLower) ([], none)).1

section Turns

variable (toLower : String → String)

def HistoryMessage.Asks (message : HistoryMessage) : Prop :=
  toLower (trimSpace message.role) = "user" ∧ trimSpace message.content ≠ ""

def HistoryMessage.Answers (message : HistoryMessage) : Prop :=
  toLower (trimSpace message.role) = "assistant" ∧ trimSpace message.content ≠ ""

/-- Neither a message of the user, which a blank one is too, nor an answer. -/
def HistoryMessage.Idle (message : HistoryMessage) : Prop :=
  toLower (trimSpace message.role) ≠ "user" ∧ ¬message.Answers toLower

/-- The message of the user that waits for an answer after the history. -/
def waiting (history : List HistoryMessage) : Option String :=
  (history.foldl (pairTurn toLower) ([], none)).2

variable {toLower} {history : List HistoryMessage} {message : HistoryMessage}

theorem waiting_concat_iff {user : String} :
    waiting toLower (history ++ [message]) = some user ↔
      (message.Asks toLower ∧ message.content = user) ∨
        (waiting toLower history = some user ∧ message.Idle toLower) := by
  simp only [waiting, List.foldl_concat, pairTurn, HistoryMessage.Asks, HistoryMessage.Idle,
    HistoryMessage.Answers]
  generalize history.foldl (pairTurn toLower) ([], none) = state
  grind

theorem mem_completeTurns_concat_iff {turn : AgentTurn} :
    turn ∈ completeTurns toLower (history ++ [message]) ↔
      turn ∈ completeTurns toLower history ∨
        (waiting toLower history = some turn.user ∧ message.Answers toLower ∧
          message.content = turn.assistant) := by
  simp only [waiting, completeTurns, List.foldl_concat, pairTurn, HistoryMessage.Answers]
  generalize history.foldl (pairTurn toLower) ([], none) = state
  grind [AgentTurn]

/-- The last message of the user waits as long as only idle messages have followed it. -/
theorem waiting_iff {user : String} :
    waiting toLower history = some user ↔ ∃ older message between,
      history = older ++ message :: between ∧ message.Asks toLower ∧ message.content = user ∧
        ∀ idle ∈ between, idle.Idle toLower := by
  induction history using List.reverseRecOn with
  | nil => simp [waiting]
  | append_singleton history last ih =>
    rw [waiting_concat_iff, ih]
    constructor
    · rintro (⟨hasks, rfl⟩ | ⟨⟨older, message, between, rfl, hasks, rfl, hidle⟩, hlast⟩)
      · exact ⟨history, last, [], rfl, hasks, rfl, by simp⟩
      · refine ⟨older, message, between ++ [last], by simp, hasks, rfl, fun idle hmem => ?_⟩
        rcases List.mem_append.1 hmem with hmem | hmem
        · exact hidle idle hmem
        · rwa [List.mem_singleton.1 hmem]
    · rintro ⟨older, message, between, hsplit, hasks, rfl, hidle⟩
      rcases List.eq_nil_or_concat' between with rfl | ⟨between, idle, rfl⟩
      · obtain ⟨-, rfl⟩ := List.append_singleton_inj.1 hsplit
        exact Or.inl ⟨hasks, rfl⟩
      · rw [← List.cons_append, ← List.append_assoc] at hsplit
        obtain ⟨rfl, rfl⟩ := List.append_singleton_inj.1 hsplit
        exact Or.inr ⟨⟨older, message, between, rfl, hasks, rfl,
          fun idle hmem => hidle idle (by simp [hmem])⟩, hidle _ (by simp)⟩

/-- **What a turn is**: a message of the user and the first answer after it, with no other message
of the user between them. -/
theorem mem_completeTurns_iff {turn : AgentTurn} :
    turn ∈ completeTurns toLower history ↔ ∃ older question between answer newer,
      history = older ++ question :: between ++ answer :: newer ∧
        question.Asks toLower ∧ question.content = turn.user ∧
        answer.Answers toLower ∧ answer.content = turn.assistant ∧
        ∀ idle ∈ between, idle.Idle toLower := by
  induction history using List.reverseRecOn with
  | nil => simp [completeTurns]
  | append_singleton history last ih =>
    rw [mem_completeTurns_concat_iff, ih, waiting_iff]
    constructor
    · rintro (⟨older, question, between, answer, newer, rfl, hturn⟩ |
        ⟨⟨older, question, between, rfl, hasks, huser, hidle⟩, hanswers, hassistant⟩)
      · exact ⟨older, question, between, answer, newer ++ [last], by simp, hturn⟩
      · exact ⟨older, question, between, last, [], by simp, hasks, huser, hanswers, hassistant,
          hidle⟩
    · rintro ⟨older, question, between, answer, newer, hsplit, hasks, huser, hanswers, hassistant,
        hidle⟩
      rcases List.eq_nil_or_concat' newer with rfl | ⟨newer, last', rfl⟩
      · obtain ⟨rfl, rfl⟩ := List.append_singleton_inj.1 hsplit
        exact Or.inr ⟨⟨older, question, between, rfl, hasks, huser, hidle⟩, hanswers, hassistant⟩
      · rw [← List.cons_append, ← List.append_assoc] at hsplit
        obtain ⟨rfl, rfl⟩ := List.append_singleton_inj.1 hsplit
        exact Or.inl ⟨older, question, between, answer, newer, rfl, hasks, huser, hanswers,
          hassistant, hidle⟩

example : (completeTurns id [⟨"user", "a"⟩, ⟨"user", "b"⟩, ⟨"system", "s"⟩, ⟨"assistant", " "⟩,
    ⟨"assistant", "c"⟩, ⟨"assistant", "d"⟩, ⟨"user", "e"⟩]).map (·.messages.map (·.content)) =
    [["b", "c"]] := by
  decide +kernel

end Turns

/-- The walk over the turns, the last one first. -/
def selectTurns (messageCount tokenCount : ℕ) : List AgentTurn → List AgentTurn
  | [] => []
  | turn :: older =>
    if messageCount + turn.messages.length > agentHistoryMaxMessages ∨
        tokenCount + turn.tokens > agentHistoryMaxTokens then []
    else turn :: selectTurns (messageCount + turn.messages.length) (tokenCount + turn.tokens) older

def recentCompleteAgentHistory (toLower : String → String) (history : List HistoryMessage) :
    List HistoryMessage :=
  (selectTurns 0 0 (completeTurns toLower history).reverse).reverse.flatMap AgentTurn.messages

/-- The turns stay within the limits after some messages and tokens. -/
def Fits (messageCount tokenCount : ℕ) (turns : List AgentTurn) : Prop :=
  messageCount + (turns.map (·.messages.length)).sum ≤ agentHistoryMaxMessages ∧
    tokenCount + (turns.map AgentTurn.tokens).sum ≤ agentHistoryMaxTokens

theorem fits_cons {m t : ℕ} {turn : AgentTurn} {turns : List AgentTurn} :
    Fits m t (turn :: turns) ↔ Fits (m + turn.messages.length) (t + turn.tokens) turns := by
  simp only [Fits, List.map_cons, List.sum_cons, add_assoc]

theorem fits_reverse {m t : ℕ} {turns : List AgentTurn} :
    Fits m t turns.reverse ↔ Fits m t turns := by
  simp only [Fits, List.map_reverse, List.sum_reverse]

/-- The walk selects the longest beginning that fits. -/
theorem selectTurns_spec {m t : ℕ} (hfits : Fits m t []) (turns : List AgentTurn) :
    selectTurns m t turns <+: turns ∧ Fits m t (selectTurns m t turns) ∧
      ∀ more, more <+: turns → Fits m t more → more <+: selectTurns m t turns := by
  induction turns generalizing m t with
  | nil => exact ⟨List.prefix_rfl, hfits, fun more hmore _ => hmore⟩
  | cons turn older ih =>
    rw [selectTurns]
    split
    · next hover =>
      refine ⟨List.nil_prefix, hfits, fun more hmore hmoreFits => ?_⟩
      cases more with
      | nil => exact List.prefix_rfl
      | cons first rest =>
        obtain ⟨rfl, -⟩ := List.cons_prefix_cons.1 hmore
        obtain ⟨hmessages, htokens⟩ := fits_cons.1 hmoreFits
        omega
    · next hwithin =>
      obtain ⟨hend, hselected, hlongest⟩ := @ih (m + turn.messages.length) (t + turn.tokens)
        ⟨by simp; omega, by simp; omega⟩
      refine ⟨(List.prefix_cons_inj turn).2 hend, fits_cons.2 hselected, ?_⟩
      intro more hmore hmoreFits
      cases more with
      | nil => exact List.nil_prefix
      | cons first rest =>
        obtain ⟨rfl, hrest⟩ := List.cons_prefix_cons.1 hmore
        exact (List.prefix_cons_inj first).2 (hlongest rest hrest (fits_cons.1 hmoreFits))

/-- **The history is the longest end of the complete turns that fits**: it alternates, beginning
with the user, and the next older turn would exceed a limit. -/
theorem recentCompleteAgentHistory_spec (toLower : String → String)
    (history : List HistoryMessage) :
    let turns := completeTurns toLower history
    let result := recentCompleteAgentHistory toLower history
    ∃ kept, kept <:+ turns ∧ Fits 0 0 kept ∧ result = kept.flatMap AgentTurn.messages ∧
      result.map (·.role) = (List.replicate kept.length ["user", "assistant"]).flatten ∧
      (∀ more, more <:+ turns → Fits 0 0 more → more <:+ kept) ∧
      ∀ turn, turn :: kept <:+ turns → ¬Fits 0 0 (turn :: kept) := by
  intro turns result
  obtain ⟨hend, hfits, hlongest⟩ := selectTurns_spec (m := 0) (t := 0) ⟨by decide, by decide⟩
    turns.reverse
  have hresult : result = (selectTurns 0 0 turns.reverse).reverse.flatMap AgentTurn.messages := rfl
  rw [hresult]
  generalize selectTurns 0 0 turns.reverse = selected at *
  have hmax : ∀ more, more <:+ turns → Fits 0 0 more → more <:+ selected.reverse := by
    intro more hmore hmoreFits
    rw [← List.reverse_prefix, List.reverse_reverse]
    exact hlongest _ (List.reverse_prefix.2 hmore) (fits_reverse.2 hmoreFits)
  refine ⟨_, ?_, fits_reverse.2 hfits, rfl, ?_, hmax, fun turn hturn hturnFits => ?_⟩
  · rwa [← List.reverse_prefix, List.reverse_reverse]
  · generalize selected.reverse = kept
    induction kept with
    | nil => rfl
    | cons turn kept ih => simpa [AgentTurn.messages, List.replicate_succ] using ih
  · exact absurd (hmax _ hturn hturnFits).length_le (by simp)

end Mujian.Studio
