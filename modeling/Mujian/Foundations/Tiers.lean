import Mathlib.Algebra.BigOperators.Ring.Finset
import Mathlib.Algebra.Order.BigOperators.Group.List
import Mathlib.Algebra.Order.Ring.Int

/-!
# Priority tiers and weighted choice

A list of candidates falls into tiers of equal priority, and a choice is made in one tier by
walking through it with a random number until the weights use it up (`pickWeighted`). `highest` and
the head of `priorities` find the same tier (`isTop_highest`, `isTop_of_head_priorities`), and
`card_pickWeighted` counts the numbers that choose a member.
-/

namespace Mujian

variable {α : Type*}

/-- The members of priority `k`. -/
def tier (p : α → ℤ) (k : ℤ) (l : List α) : List α := l.filter fun x => p x = k

variable {p weight : α → ℤ} {k bound r : ℤ} {l : List α} {x : α}

@[simp] theorem mem_tier : x ∈ tier p k l ↔ x ∈ l ∧ p x = k := by simp [tier]

/-- `k` is the highest priority in a list. -/
def IsTop (p : α → ℤ) (l : List α) (k : ℤ) : Prop := (∃ x ∈ l, p x = k) ∧ ∀ x ∈ l, p x ≤ k

theorem IsTop.unique {k' : ℤ} (h : IsTop p l k) (h' : IsTop p l k') : k = k' := by
  obtain ⟨⟨x, hx, rfl⟩, hle⟩ := h
  obtain ⟨⟨y, hy, rfl⟩, hle'⟩ := h'
  exact le_antisymm (hle' x hx) (hle y hy)

/-- Lists with the same priorities have the same highest one. -/
theorem IsTop.transfer {β : Type*} {q : β → ℤ} {l' : List β}
    (h : IsTop p l k) (hto : ∀ x ∈ l, ∃ y ∈ l', q y = p x) (hfrom : ∀ y ∈ l', ∃ x ∈ l, p x = q y) :
    IsTop q l' k := by
  obtain ⟨⟨x, hx, rfl⟩, hle⟩ := h
  refine ⟨hto x hx, fun y hy => ?_⟩
  obtain ⟨x', hx', heq⟩ := hfrom y hy
  exact heq ▸ hle x' hx'

/-- The highest priority by a scan from the left; zero for the empty list. -/
def highest (p : α → ℤ) : List α → ℤ
  | [] => 0
  | x :: l => l.foldl (fun k y => if k < p y then p y else k) (p x)

theorem isTop_highest (hl : l ≠ []) : IsTop p l (highest p l) := by
  obtain ⟨x, l, rfl⟩ := List.exists_cons_of_ne_nil hl
  clear hl
  induction l generalizing x with
  | nil => exact ⟨⟨x, by simp, rfl⟩, by simp [highest]⟩
  | cons y l ih =>
    -- the scan goes on from whichever of the two first members is higher
    have hnext : highest p (x :: y :: l) =
        if p x < p y then highest p (y :: l) else highest p (x :: l) := by
      simp only [highest, List.foldl_cons]
      split <;> rfl
    rw [hnext]
    by_cases hxy : p x < p y
    · obtain ⟨⟨z, hz, hzk⟩, hle⟩ := ih y
      rw [if_pos hxy]
      refine ⟨⟨z, List.mem_cons_of_mem _ hz, hzk⟩, fun v hv => ?_⟩
      rcases List.mem_cons.1 hv with rfl | hv
      · exact hxy.le.trans (hle y (by simp))
      · exact hle v hv
    · obtain ⟨⟨z, hz, hzk⟩, hle⟩ := ih x
      rw [if_neg hxy]
      refine ⟨⟨z, ?_, hzk⟩, fun v hv => ?_⟩
      · rcases List.mem_cons.1 hz with rfl | hz <;> simp [*]
      · rcases List.mem_cons.1 hv with rfl | hv
        · exact hle v (by simp)
        · rcases List.mem_cons.1 hv with rfl | hv
          · exact (Int.not_lt.1 hxy).trans (hle x (by simp))
          · exact hle v (List.mem_cons_of_mem _ hv)

/-- The distinct priorities of a list, the highest first. -/
def priorities (p : α → ℤ) (l : List α) : List ℤ := (l.map p).dedup.insertionSort (· ≥ ·)

theorem mem_priorities : k ∈ priorities p l ↔ ∃ x ∈ l, p x = k := by simp [priorities]

theorem isTop_of_head_priorities {ks : List ℤ} (h : priorities p l = k :: ks) : IsTop p l k := by
  have hsorted : (priorities p l).Pairwise (· ≥ ·) := List.sortedGE_insertionSort.pairwise
  rw [h, List.pairwise_cons] at hsorted
  refine ⟨mem_priorities.1 (h ▸ List.mem_cons_self), fun x hx => ?_⟩
  have hmem : p x ∈ k :: ks := h ▸ mem_priorities.2 ⟨x, hx, rfl⟩
  rcases List.mem_cons.1 hmem with heq | hmem
  · exact heq.le
  · exact hsorted.1 _ hmem

/-- Walks through a list, taking the weights off the number `r`, and stops at the first member
that brings it below `bound`. -/
def pickWeighted (weight : α → ℤ) (bound : ℤ) : List α → ℤ → Option α
  | [], _ => none
  | x :: l, r => if r - weight x < bound then some x else pickWeighted weight bound l (r - weight x)

theorem mem_of_pickWeighted (h : pickWeighted weight bound l r = some x) : x ∈ l := by
  induction l generalizing r with
  | nil => cases h
  | cons y l ih =>
    unfold pickWeighted at h
    split at h
    · cases h
      simp
    · exact List.mem_cons_of_mem _ (ih h)

/-- What is chosen has a positive weight. -/
theorem pos_of_pickWeighted (hr : bound ≤ r)
    (h : pickWeighted weight bound l r = some x) : 0 < weight x := by
  induction l generalizing r with
  | nil => cases h
  | cons y l ih =>
    unfold pickWeighted at h
    split at h
    · cases h
      omega
    · exact ih (by omega) h

/-- A number below the sum of the weights is used up. -/
theorem exists_pickWeighted (hl : l ≠ [])
    (hr : r < (l.map weight).sum + bound) : ∃ x, pickWeighted weight bound l r = some x := by
  induction l generalizing r with
  | nil => exact absurd rfl hl
  | cons y l ih =>
    rw [List.map_cons, List.sum_cons] at hr
    unfold pickWeighted
    split
    · exact ⟨y, rfl⟩
    next hstop =>
      refine ih ?_ (by omega)
      rintro rfl
      rw [List.map_nil, List.sum_nil] at hr
      omega

/-- A random number modulo the sum of the weights always leads to a choice. -/
theorem exists_pickWeighted_mod (weight : α → ℕ) (hbound : 0 ≤ bound)
    (hpos : 0 < (l.map weight).sum) (draw : ℕ) :
    ∃ x, pickWeighted (fun x => (weight x : ℤ)) bound l (draw % (l.map weight).sum : ℕ) =
      some x := by
  have hl : l ≠ [] := by
    rintro rfl
    cases hpos
  have hsum : (l.map fun x => (weight x : ℤ)).sum = ((l.map weight).sum : ℕ) := by
    rw [Nat.cast_list_sum, List.map_map]
    rfl
  have hlt := Nat.mod_lt draw hpos
  refine exists_pickWeighted hl ?_
  omega

/-- The number that the weights add up to chooses the last member. -/
theorem pickWeighted_sum {weight : α → ℕ} (hpos : ∀ y, 0 < weight y) (bound : ℤ) (y : α)
    (l : List α) :
    pickWeighted (fun y => (weight y : ℤ)) (bound + 1) (y :: l)
      (((y :: l).map weight).sum + bound) = some ((y :: l).getLast (List.cons_ne_nil y l)) := by
  induction l generalizing y with
  | nil =>
    rw [pickWeighted, if_pos (by simp)]
    rfl
  | cons z l ih =>
    have hz := hpos z
    have hsum : ((y :: z :: l).map weight).sum = weight y + (weight z + (l.map weight).sum) := by
      simp
    rw [List.getLast_cons_cons, ← ih z, pickWeighted, if_neg]
    · congr 1
      rw [hsum, List.map_cons, List.sum_cons]
      omega
    · rw [hsum]
      omega

section

variable [DecidableEq α]

/-- **The law of the weighted choice**: of the numbers from `bound` on, as many as the weights add
up to, each member is chosen by as many as its weight. -/
theorem card_pickWeighted (weight : α → ℕ) (bound : ℤ) (l : List α) (x : α) :
    ((Finset.range (l.map weight).sum).filter fun d : ℕ =>
      pickWeighted (fun y => (weight y : ℤ)) bound l (d + bound) = some x).card =
        l.count x * weight x := by
  induction l with
  | nil => simp
  | cons y l ih =>
    rw [Finset.card_filter] at ih ⊢
    rw [List.map_cons, List.sum_cons, Finset.sum_range_add]
    -- the first `weight y` numbers choose `y`, the others choose in the rest of the list
    have hfirst : ∀ d ∈ Finset.range (weight y),
        (if pickWeighted (fun y => (weight y : ℤ)) bound (y :: l) (d + bound) = some x then 1
          else 0) = if y = x then 1 else 0 := by
      intro d hd
      rw [Finset.mem_range] at hd
      have hstop : (d : ℤ) + bound - weight y < bound := by omega
      simp only [pickWeighted, if_pos hstop, Option.some.injEq]
    have hrest : ∀ d : ℕ, pickWeighted (fun y => (weight y : ℤ)) bound (y :: l)
        ((weight y + d : ℕ) + bound) =
          pickWeighted (fun y => (weight y : ℤ)) bound l (d + bound) := by
      intro d
      have hgo : ¬((weight y + d : ℕ) + bound - weight y : ℤ) < bound := by omega
      rw [pickWeighted, if_neg hgo]
      congr 1
      omega
    rw [Finset.sum_congr rfl hfirst]
    simp only [hrest, ih, Finset.sum_const, Finset.card_range, nsmul_eq_mul, Nat.cast_id,
      List.count_cons, beq_iff_eq]
    split_ifs with heq
    · rw [heq, Nat.succ_mul, mul_one, add_comm]
    · rw [mul_zero, zero_add, add_zero]

/-- With the bound one higher, a number goes from the last member to the first. -/
theorem card_pickWeighted_succ {weight : α → ℕ} (hpos : ∀ y, 0 < weight y) (bound : ℤ) (y : α)
    (l : List α) (x : α) :
    ((Finset.range ((y :: l).map weight).sum).filter fun d : ℕ =>
      pickWeighted (fun y => (weight y : ℤ)) (bound + 1) (y :: l) (d + bound) = some x).card +
        (if (y :: l).getLast (List.cons_ne_nil y l) = x then 1 else 0) =
      (y :: l).count x * weight x + if y = x then 1 else 0 := by
  have hlast := pickWeighted_sum hpos bound y l
  have hfirst : pickWeighted (fun y => (weight y : ℤ)) (bound + 1) (y :: l) ((0 : ℕ) + bound) =
      some y := by rw [pickWeighted, if_pos (by omega)]
  rw [← card_pickWeighted weight (bound + 1) (y :: l) x, Finset.card_filter, Finset.card_filter]
  have hshift := (Finset.sum_range_succ (fun d : ℕ => if pickWeighted (fun y => (weight y : ℤ))
    (bound + 1) (y :: l) (d + bound) = some x then 1 else 0) ((y :: l).map weight).sum).symm.trans
      (Finset.sum_range_succ' _ _)
  rw [hlast, hfirst] at hshift
  simp only [Option.some.injEq] at hshift
  rw [hshift]
  simp only [Nat.cast_add, Nat.cast_one, add_assoc, add_comm (1 : ℤ)]

end

end Mujian
