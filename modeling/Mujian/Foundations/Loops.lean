import Mathlib.Data.List.Basic

/-!
# Loops that may not end

A loop is given by its body, which from a state goes on to another state or ends with a result.
`Loop.Yields` relates a state to the result the loop ends with, and `Loop.Halts` says that there
is one. A loop halts when a measure decreases (`halts_of_measure`), it does not when it can be
kept inside a set of states (`not_halts_of_invariant`), and it halts exactly when a loop that
simulates it does (`halts_iff_of_simulation`).
-/

namespace Mujian.Loop

variable {σ τ β γ : Type} {step : σ → σ ⊕ β} {s s' : σ} {b b' : β}

/-- The result of the loop if it ends within some number of rounds. -/
def rounds (step : σ → σ ⊕ β) : ℕ → σ → Option β
  | 0, _ => none
  | n + 1, s =>
    match step s with
    | .inl s' => rounds step n s'
    | .inr b => some b

/-- The loop ends with a result. -/
def Yields (step : σ → σ ⊕ β) (s : σ) (b : β) : Prop := ∃ n, rounds step n s = some b

def Halts (step : σ → σ ⊕ β) (s : σ) : Prop := ∃ b, Yields step s b

theorem yields_of_done (h : step s = .inr b) : Yields step s b := ⟨1, by rw [rounds, h]⟩

theorem yields_iff_of_next (h : step s = .inl s') : Yields step s b ↔ Yields step s' b := by
  constructor
  · rintro ⟨n, hn⟩
    cases n with
    | zero => cases hn
    | succ n =>
      rw [rounds, h] at hn
      exact ⟨n, hn⟩
  · rintro ⟨n, hn⟩
    exact ⟨n + 1, by rw [rounds, h]; exact hn⟩

theorem halts_iff_of_next (h : step s = .inl s') : Halts step s ↔ Halts step s' :=
  exists_congr fun _ => yields_iff_of_next h

theorem Yields.unique (h : Yields step s b) (h' : Yields step s b') : b = b' := by
  obtain ⟨n, hn⟩ := h
  obtain ⟨m, hm⟩ := h'
  induction n generalizing s m with
  | zero => cases hn
  | succ n ih =>
    cases m with
    | zero => cases hm
    | succ m =>
      rw [rounds] at hn hm
      cases hstep : step s with
      | inl s' =>
        rw [hstep] at hn hm
        exact ih hn m hm
      | inr c =>
        rw [hstep] at hn hm
        exact Option.mem_unique hn hm

theorem halts_of_measure {I : σ → Prop} (μ : σ → ℕ)
    (h : ∀ s s', I s → step s = .inl s' → I s' ∧ μ s' < μ s) (hs : I s) : Halts step s := by
  induction hn : μ s using Nat.strongRecOn generalizing s with
  | _ n ih =>
    cases hstep : step s with
    | inl s' =>
      obtain ⟨hs', hlt⟩ := h s s' hs hstep
      exact (halts_iff_of_next hstep).2 (ih (μ s') (hn ▸ hlt) hs' rfl)
    | inr b => exact ⟨b, yields_of_done hstep⟩

/-- A loop that always goes on does not end. -/
theorem not_halts_of_invariant {I : σ → Prop} (h : ∀ s, I s → ∃ s', step s = .inl s' ∧ I s')
    (hs : I s) : ¬Halts step s := by
  rintro ⟨b, n, hn⟩
  induction n generalizing s with
  | zero => cases hn
  | succ n ih =>
    obtain ⟨s', hstep, hs'⟩ := h s hs
    rw [rounds, hstep] at hn
    exact ih hs' hn

/-- Two loops whose rounds correspond end together. -/
theorem halts_iff_of_simulation {step' : τ → τ ⊕ γ} (f : σ → τ) {I : σ → Prop}
    (hnext : ∀ s s', I s → step s = .inl s' → I s' ∧ step' (f s) = .inl (f s'))
    (hdone : ∀ s b, I s → step s = .inr b → ∃ c, step' (f s) = .inr c) (hs : I s) :
    Halts step s ↔ Halts step' (f s) := by
  constructor
  · rintro ⟨b, n, hn⟩
    induction n generalizing s with
    | zero => cases hn
    | succ n ih =>
      rw [rounds] at hn
      cases hstep : step s with
      | inl s' =>
        rw [hstep] at hn
        obtain ⟨hs', hstep'⟩ := hnext s s' hs hstep
        exact (halts_iff_of_next hstep').2 (ih hs' hn)
      | inr b =>
        obtain ⟨c, hc⟩ := hdone s b hs hstep
        exact ⟨c, yields_of_done hc⟩
  · rintro ⟨c, n, hn⟩
    induction n generalizing s with
    | zero => cases hn
    | succ n ih =>
      rw [rounds] at hn
      cases hstep : step s with
      | inl s' =>
        obtain ⟨hs', hstep'⟩ := hnext s s' hs hstep
        rw [hstep'] at hn
        exact (halts_iff_of_next hstep).2 (ih hs' hn)
      | inr b => exact ⟨b, yields_of_done hstep⟩

end Mujian.Loop
