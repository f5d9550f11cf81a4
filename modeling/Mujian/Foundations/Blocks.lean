import Mathlib.Data.List.Count
import Mathlib.Data.List.Induction
import Mathlib.Data.List.Nodup

/-!
# Streams of blocks

A message is sent as a stream of marks: it begins, blocks of several kinds are started, written to
and stopped, each under an index, and the message ends. `WellFormed` says that these come in a
proper order, and a stream is `Safe` if each of its marks may follow the marks before it. A stream
is well formed iff it is safe, not empty, and stops what it starts (`wellFormed_iff`).
-/

namespace Mujian.Blocks

variable {ι κ : Type}

/-- What an event of a stream does. -/
inductive Mark (ι κ : Type)
  | first
  | start (index : ι) (kind : κ)
  | delta (index : ι) (kind : κ)
  | stop (index : ι)
  | last
  | other
  deriving DecidableEq

namespace Mark

def starts [DecidableEq ι] (i : ι) : Mark ι κ → Bool
  | start j _ => decide (j = i)
  | _ => false

end Mark

open Mark

/-- The message begins once, at the start of the stream; an index is started at most once; what is
written goes to a block of its kind that was started and not yet stopped; exactly the started blocks
are stopped, each once; and the message ends at most once, at the end of the stream. -/
structure WellFormed [DecidableEq ι] [DecidableEq κ] (marks : List (Mark ι κ)) : Prop where
  first : ∃ rest, marks = .first :: rest ∧ .first ∉ rest
  started : ∀ i, marks.countP (starts i) ≤ 1
  deltas : ∀ before i k after, marks = before ++ .delta i k :: after →
    .start i k ∈ before ∧ .stop i ∉ before
  stops : ∀ before i after, marks = before ++ .stop i :: after → ∃ k, .start i k ∈ before
  stopped : ∀ i k, .start i k ∈ marks → marks.count (.stop i) = 1
  last : ∀ before after, marks = before ++ .last :: after → after = []

def Follows (before : List (Mark ι κ)) : Mark ι κ → Prop
  | .first => before = []
  | .start i _ => before ≠ [] ∧ ∀ k, .start i k ∉ before
  | .delta i k => before ≠ [] ∧ .start i k ∈ before ∧ .stop i ∉ before
  | .stop i => before ≠ [] ∧ (∃ k, .start i k ∈ before) ∧ .stop i ∉ before
  | .last | .other => before ≠ []

/-- The mark may follow the marks before it, and the message has not ended. -/
def Allowed (before : List (Mark ι κ)) (mark : Mark ι κ) : Prop :=
  .last ∉ before ∧ Follows before mark

/-- Every mark may follow those before it. -/
def Safe (marks : List (Mark ι κ)) : Prop :=
  ∀ before mark after, marks = before ++ mark :: after → Allowed before mark

theorem Safe.nil : Safe ([] : List (Mark ι κ)) := by
  intro before mark after h
  simp at h

theorem Safe.of_append {marks more : List (Mark ι κ)} (h : Safe (marks ++ more)) : Safe marks := by
  intro before mark after hmarks
  apply h before mark (after ++ more)
  rw [hmarks, List.append_assoc, List.cons_append]

variable {marks : List (Mark ι κ)}

/-- **Safety is decided mark by mark.** -/
theorem safe_snoc_iff {mark : Mark ι κ} :
    Safe (marks ++ [mark]) ↔ Safe marks ∧ Allowed marks mark := by
  constructor
  · intro h
    exact ⟨h.of_append, h marks mark [] rfl⟩
  · rintro ⟨hsafe, hallowed⟩ before next after heq
    -- the split is at the new mark or before it
    rcases List.eq_nil_or_concat after with rfl | ⟨front, final, rfl⟩
    · obtain ⟨rfl, hmark⟩ := List.append_inj' heq rfl
      cases hmark
      exact hallowed
    · rw [List.concat_eq_append, ← List.cons_append, ← List.append_assoc] at heq
      obtain ⟨hmarks, -⟩ := List.append_inj' heq rfl
      exact hsafe before next front hmarks

theorem Safe.begins (h : Safe marks) (hne : marks ≠ []) :
    ∃ rest, marks = .first :: rest ∧ .first ∉ rest := by
  obtain ⟨mark, rest, rfl⟩ := List.exists_cons_of_ne_nil hne
  have hhead := (h [] mark rest rfl).2
  obtain rfl : mark = .first := by
    cases mark with
    | first => rfl
    | start | delta | stop => exact absurd rfl hhead.1
    | last | other => exact absurd rfl hhead
  refine ⟨rest, rfl, ?_⟩
  intro hmem
  obtain ⟨before, after, rfl⟩ := List.append_of_mem hmem
  exact absurd (h (.first :: before) .first after rfl).2 (List.cons_ne_nil _ _)

section

variable [DecidableEq ι] [DecidableEq κ] {marks : List (Mark ι κ)}

omit [DecidableEq κ] in
theorem mem_of_countP_starts {i : ι} (h : 0 < marks.countP (starts i)) :
    ∃ k, .start i k ∈ marks := by
  obtain ⟨mark, hmem, hstarts⟩ := List.countP_pos_iff.1 h
  cases mark with
  | start j k =>
    obtain rfl : j = i := by simpa [starts] using hstarts
    exact ⟨k, hmem⟩
  | first | delta | stop | last | other => simp [starts] at hstarts

omit [DecidableEq κ] in
theorem countP_starts_pos {i : ι} {k : κ} (h : .start i k ∈ marks) : 0 < marks.countP (starts i) :=
  List.countP_pos_iff.2 ⟨_, h, by simp [starts]⟩

omit [DecidableEq κ] in
theorem Safe.countP_starts_le (h : Safe marks) (i : ι) : marks.countP (starts i) ≤ 1 := by
  induction marks using List.reverseRecOn with
  | nil => simp
  | append_singleton marks mark ih =>
    obtain ⟨hsafe, hallowed⟩ := safe_snoc_iff.1 h
    rw [List.countP_append, List.countP_singleton]
    split
    · next hstarts =>
      have hnone : marks.countP (starts i) = 0 := by
        by_contra hne
        obtain ⟨k, hk⟩ := mem_of_countP_starts (Nat.pos_of_ne_zero hne)
        cases mark with
        | start j k' =>
          obtain rfl : j = i := by simpa [starts] using hstarts
          exact hallowed.2.2 k hk
        | first | delta | stop | last | other => simp [starts] at hstarts
      omega
    · exact ih hsafe

theorem Safe.count_stop_le (h : Safe marks) (i : ι) : marks.count (.stop i) ≤ 1 := by
  induction marks using List.reverseRecOn with
  | nil => simp
  | append_singleton marks mark ih =>
    obtain ⟨hsafe, hallowed⟩ := safe_snoc_iff.1 h
    rw [List.count_append, List.count_singleton]
    split
    · next heq =>
      obtain rfl : mark = .stop i := by simpa using heq
      have hnone : marks.count (.stop i) = 0 := List.count_eq_zero.2 hallowed.2.2.2
      omega
    · exact ih hsafe

theorem WellFormed.safe (h : WellFormed marks) : Safe marks := by
  intro before mark after heq
  obtain ⟨rest, hfirst, hnot⟩ := h.first
  have hlast : .last ∉ before := by
    intro hmem
    obtain ⟨front, back, rfl⟩ := List.append_of_mem hmem
    have hend := h.last front (back ++ mark :: after) (by rw [heq]; simp)
    simp at hend
  have hne : mark ≠ .first → before ≠ [] := by
    rintro hmark rfl
    rw [heq] at hfirst
    exact hmark (List.cons.inj hfirst).1
  refine ⟨hlast, ?_⟩
  cases mark with
  | first =>
    by_contra hbefore
    obtain ⟨head, front, rfl⟩ := List.exists_cons_of_ne_nil hbefore
    rw [heq] at hfirst
    exact hnot ((List.cons.inj hfirst).2 ▸ List.mem_append_right _ List.mem_cons_self)
  | start i k =>
    refine ⟨hne (by simp), fun k' hk' => ?_⟩
    have hcount := h.started i
    have hpos := countP_starts_pos hk'
    rw [heq, List.countP_append, List.countP_cons_of_pos (by simp [starts])] at hcount
    omega
  | delta i k => exact ⟨hne (by simp), h.deltas before i k after heq⟩
  | stop i =>
    obtain ⟨k, hk⟩ := h.stops before i after heq
    refine ⟨hne (by simp), ⟨k, hk⟩, fun hstop => ?_⟩
    have honce := h.stopped i k (heq ▸ List.mem_append_left _ hk)
    have hpos := List.count_pos_iff.2 hstop
    rw [heq, List.count_append, List.count_cons_self] at honce
    omega
  | last | other => exact hne (by simp)

/-- **A stream is well formed iff it is safe, not empty, and stops every block that it starts.** -/
theorem wellFormed_iff :
    WellFormed marks ↔ Safe marks ∧ marks ≠ [] ∧ ∀ i k, .start i k ∈ marks → .stop i ∈ marks := by
  constructor
  · intro h
    refine ⟨h.safe, ?_, fun i k hk => ?_⟩
    · obtain ⟨rest, hfirst, -⟩ := h.first
      rw [hfirst]
      exact List.cons_ne_nil _ _
    · have honce := h.stopped i k hk
      exact List.count_pos_iff.1 (by omega)
  · rintro ⟨hsafe, hne, hclosed⟩
    refine ⟨hsafe.begins hne, hsafe.countP_starts_le, ?_, ?_, ?_, ?_⟩
    · intro before i k after heq
      exact (hsafe before _ after heq).2.2
    · intro before i after heq
      exact (hsafe before _ after heq).2.2.1
    · intro i k hk
      have hle := hsafe.count_stop_le i
      have hpos := List.count_pos_iff.2 (hclosed i k hk)
      omega
    · intro before after heq
      -- nothing is allowed after the end
      cases after with
      | nil => rfl
      | cons mark after =>
        have hallowed := (hsafe (before ++ [.last]) mark after (by rw [heq]; simp)).1
        simp at hallowed

end

/-- **Stops are safe iff they are of distinct open blocks**, while the message lasts. -/
theorem safe_append_stops_iff {indexes : List ι}
    (hsafe : Safe marks) (hne : marks ≠ []) (hlast : .last ∉ marks) :
    Safe (marks ++ indexes.map .stop) ↔
      indexes.Nodup ∧ ∀ i ∈ indexes, (∃ k, .start i k ∈ marks) ∧ .stop i ∉ marks := by
  induction indexes using List.reverseRecOn with
  | nil => simpa using hsafe
  | append_singleton indexes i ih =>
    have hallowed : Allowed (marks ++ indexes.map .stop) (.stop i) ↔
        (∃ k, .start i k ∈ marks) ∧ .stop i ∉ marks ∧ i ∉ indexes := by
      simp only [Allowed, Follows]
      simp [hlast, hne]
    rw [List.map_append, List.map_singleton, ← List.append_assoc, safe_snoc_iff, ih, hallowed,
      List.nodup_append]
    simp only [List.mem_append, List.mem_singleton, List.nodup_singleton, true_and]
    constructor
    · rintro ⟨⟨hnodup, hopen⟩, hstarted, hstopped, hnew⟩
      refine ⟨⟨hnodup, ?_⟩, ?_⟩
      · rintro j hj k rfl rfl
        exact hnew hj
      · rintro j (hj | rfl)
        · exact hopen j hj
        · exact ⟨hstarted, hstopped⟩
    · rintro ⟨⟨hnodup, hapart⟩, hopen⟩
      obtain ⟨hstarted, hstopped⟩ := hopen i (.inr rfl)
      exact ⟨⟨hnodup, fun j hj => hopen j (.inl hj)⟩, hstarted, hstopped,
        fun hmem => hapart i hmem i rfl rfl⟩

end Mujian.Blocks
