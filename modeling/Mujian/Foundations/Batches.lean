import Mujian.Foundations.Loops
import Mathlib.Data.List.Sort

/-!
# Working off a queue in batches

A queue is worked off from the front in batches of a fixed size. Some items leave the queue when
they are worked on, others stay; some items count as done, others are passed over. The loop goes on
as long as a whole batch counts. It ends unless the queue is jammed (`halts_iff`): the first batch
of the items that stay counts as a whole.
-/

namespace Mujian.Batches

variable {α : Type}

def round (size : ℕ) (moves counts : α → Bool) (queue : List α) : List α ⊕ Unit :=
  if (queue.take size).countP counts < size then .inr ()
  else .inl ((queue.take size).filter (fun a => !moves a) ++ queue.drop size)

def staying (moves : α → Bool) (queue : List α) : List α := queue.filter fun a => !moves a

/-- The first batch of the items that stay is a whole one, and counts as a whole. -/
def Jammed (size : ℕ) (moves counts : α → Bool) (queue : List α) : Prop :=
  size ≤ (staying moves queue).length ∧ ∀ a ∈ (staying moves queue).take size, counts a = true

instance (size : ℕ) (moves counts : α → Bool) (queue : List α) :
    Decidable (Jammed size moves counts queue) := inferInstanceAs (Decidable (_ ∧ _))

variable {size : ℕ} {moves counts : α → Bool} {queue queue' : List α}

theorem round_eq_inl_iff : round size moves counts queue = .inl queue' ↔
    size ≤ queue.length ∧ (∀ a ∈ queue.take size, counts a = true) ∧
      queue' = (queue.take size).filter (fun a => !moves a) ++ queue.drop size := by
  have hlen : (queue.take size).length = min size queue.length := List.length_take
  have hle : (queue.take size).countP counts ≤ (queue.take size).length := List.countP_le_length
  unfold round
  split
  · rename_i hlt
    constructor
    · intro h
      cases h
    · rintro ⟨hsize, hall, -⟩
      rw [List.countP_eq_length.2 hall] at hlt
      omega
  · rw [Sum.inl.injEq]
    constructor
    · rintro rfl
      exact ⟨by omega, List.countP_eq_length.1 (by omega), rfl⟩
    · rintro ⟨-, -, rfl⟩
      rfl

/-- The items that stay do so in the same order. -/
theorem staying_round (h : round size moves counts queue = .inl queue') :
    staying moves queue' = staying moves queue := by
  obtain ⟨-, -, rfl⟩ := round_eq_inl_iff.1 h
  conv_rhs => rw [← List.take_append_drop size queue]
  simp only [staying, List.filter_append, List.filter_filter, Bool.and_self]

/-- The items of a batch that stay are among the first that stay. -/
theorem staying_take_initial (size : ℕ) (moves : α → Bool) (queue : List α) :
    staying moves (queue.take size) <+: (staying moves queue).take size := by
  have hinit : staying moves (queue.take size) <+: staying moves queue :=
    List.IsPrefix.filter _ <| List.take_prefix size queue
  have hlen : (staying moves (queue.take size)).length ≤ size :=
    (List.length_filter_le _ _).trans (List.length_take_le _ _)
  exact List.prefix_take_iff.2 ⟨hinit, hlen⟩

theorem round_of_jammed (hmoves : ∀ a, moves a = true → counts a = true)
    (h : Jammed size moves counts queue) :
    ∃ queue', round size moves counts queue = .inl queue' := by
  refine ⟨_, round_eq_inl_iff.2 ⟨h.1.trans (List.length_filter_le _ _), fun a ha => ?_, rfl⟩⟩
  cases hm : moves a with
  | true => exact hmoves a hm
  | false =>
    refine h.2 a ((staying_take_initial size moves queue).subset ?_)
    exact List.mem_filter.2 ⟨ha, by rw [hm]; rfl⟩

theorem countP_moves_round (hjam : ¬Jammed size moves counts queue)
    (h : round size moves counts queue = .inl queue') :
    queue'.countP moves < queue.countP moves := by
  obtain ⟨hsize, hcounts, rfl⟩ := round_eq_inl_iff.1 h
  have hbatch : 0 < (queue.take size).countP moves := by
    rw [List.countP_pos_iff]
    by_contra hnone
    push Not at hnone
    -- a batch that stays as a whole is the first batch of the items that stay
    have hstay : staying moves (queue.take size) = queue.take size :=
      List.filter_eq_self.2 fun a ha => by simpa using hnone a ha
    have hinit := staying_take_initial size moves queue
    rw [hstay] at hinit
    have hlen : (queue.take size).length = size := List.length_take_of_le hsize
    have hrest : ((staying moves queue).take size).length ≤ size := List.length_take_le _ _
    have heq : queue.take size = (staying moves queue).take size :=
      hinit.eq_of_length (le_antisymm hinit.length_le (by omega))
    refine hjam ⟨?_, fun a ha => hcounts a (heq ▸ ha)⟩
    have := congrArg List.length heq
    rw [hlen, List.length_take] at this
    omega
  have hzero : ((queue.take size).filter fun a => !moves a).countP moves = 0 := by simp
  conv_rhs => rw [← List.take_append_drop size queue]
  rw [List.countP_append, List.countP_append]
  omega

/-- **A queue is worked off unless it is jammed.** -/
theorem halts_iff (hmoves : ∀ a, moves a = true → counts a = true) :
    Loop.Halts (round size moves counts) queue ↔ ¬Jammed size moves counts queue := by
  have hjam : ∀ {q q' : List α}, round size moves counts q = .inl q' →
      (Jammed size moves counts q' ↔ Jammed size moves counts q) := by
    intro q q' h
    rw [Jammed, staying_round h, Jammed]
  constructor
  · intro hhalts h
    refine Loop.not_halts_of_invariant (I := Jammed size moves counts) (fun q hq => ?_) h hhalts
    obtain ⟨q', hq'⟩ := round_of_jammed hmoves hq
    exact ⟨q', hq', (hjam hq').2 hq⟩
  · intro h
    refine Loop.halts_of_measure (I := fun q => ¬Jammed size moves counts q)
      (fun q => q.countP moves) (fun q q' hq hstep => ?_) h
    exact ⟨fun hq' => hq ((hjam hstep).1 hq'), countP_moves_round hq hstep⟩

section

variable {r : α → α → Prop} [DecidableRel r] [IsTrans α r]

theorem filter_orderedInsert {l : List α} (hl : l.Pairwise r) (p : α → Bool) (a : α) :
    (l.orderedInsert r a).filter p =
      if p a then (l.filter p).orderedInsert r a else l.filter p := by
  induction l with
  | nil => cases hp : p a <;> simp [hp]
  | cons b l ih =>
    obtain ⟨hb, hl⟩ := List.pairwise_cons.1 hl
    by_cases hab : r a b
    · rw [List.orderedInsert_cons_of_le _ _ hab]
      cases hp : p a with
      | false => simp [hp]
      | true =>
        -- all items from `b` on come after `a`, also those that the filter leaves
        rw [List.filter_cons_of_pos hp, if_pos rfl]
        have hall : ∀ c ∈ (b :: l).filter p, r a c := by
          intro c hc
          rcases List.mem_cons.1 (List.mem_filter.1 hc).1 with rfl | hc
          · exact hab
          · exact IsTrans.trans a b c hab (hb c hc)
        cases hfilter : (b :: l).filter p with
        | nil => rfl
        | cons c t =>
          rw [List.orderedInsert_cons_of_le _ _
            (hall c (by rw [hfilter]; exact List.mem_cons_self))]
    · rw [List.orderedInsert_of_not_le _ _ hab]
      cases hp : p b with
      | false =>
        rw [List.filter_cons_of_neg (by simp [hp]), ih hl, List.filter_cons_of_neg (by simp [hp])]
      | true =>
        rw [List.filter_cons_of_pos hp, ih hl, List.filter_cons_of_pos hp]
        split
        · rw [List.orderedInsert_of_not_le _ _ hab]
        · rfl

theorem filter_insertionSort [Std.Total r] (p : α → Bool) (l : List α) :
    (l.insertionSort r).filter p = (l.filter p).insertionSort r := by
  induction l with
  | nil => rfl
  | cons a l ih =>
    rw [List.insertionSort_cons, filter_orderedInsert (List.pairwise_insertionSort r l), ih]
    cases hp : p a with
    | false => rw [List.filter_cons_of_neg (by simp [hp]), if_neg Bool.false_ne_true]
    | true => rw [List.filter_cons_of_pos hp, List.insertionSort_cons, if_pos rfl]

end

end Mujian.Batches
