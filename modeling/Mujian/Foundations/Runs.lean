import Mathlib.Data.List.Basic

/-!
# Runs under a condition

A system is a step function on states, driven by a list of events. `Runs.Meets` says that every
event of a run meets a condition in the state in which it happens, and `Runs.induction` is the
rule for invariants of such runs; `Runs.Meets.imp` is the rule for what single events do.
-/

namespace Mujian.Runs

variable {σ ε : Type} {step : σ → ε → σ} {cond : σ → ε → Prop}

/-- Every event meets a condition in the state in which it happens. -/
def Meets (step : σ → ε → σ) (cond : σ → ε → Prop) : σ → List ε → Prop
  | _, [] => True
  | s, e :: es => cond s e ∧ Meets step cond (step s e) es

instance Meets.decidable [∀ s e, Decidable (cond s e)] : ∀ s es, Decidable (Meets step cond s es)
  | _, [] => isTrue trivial
  | s, e :: es => @instDecidableAnd _ _ _ (Meets.decidable (step s e) es)

theorem meets_append {s : σ} {es es' : List ε} : Meets step cond s (es ++ es') ↔
    Meets step cond s es ∧ Meets step cond (es.foldl step s) es' := by
  induction es generalizing s with
  | nil => simp [Meets]
  | cons e es ih => exact (and_congr_right fun _ => ih).trans and_assoc.symm

/-- What holds at the start and is kept by every step that meets the condition holds after every
run whose steps all meet it. -/
theorem induction {P : σ → Prop} (hstep : ∀ s e, P s → cond s e → P (step s e)) {s : σ} (h : P s)
    {es : List ε} (hmeets : Meets step cond s es) : P (es.foldl step s) := by
  induction es generalizing s with
  | nil => exact h
  | cons e es ih => exact ih (hstep s e h hmeets.1) hmeets.2

/-- What an invariant and the condition imply of one event holds of every event of a run. -/
theorem Meets.imp {P : σ → Prop} {goal : σ → ε → Prop}
    (hstep : ∀ s e, P s → cond s e → P (step s e)) (hgoal : ∀ s e, P s → cond s e → goal s e)
    {s : σ} (h : P s) {es : List ε} (hmeets : Meets step cond s es) : Meets step goal s es := by
  induction es generalizing s with
  | nil => trivial
  | cons e es ih => exact ⟨hgoal s e h hmeets.1, ih (hstep s e h hmeets.1) hmeets.2⟩

end Mujian.Runs
