import Mathlib.Algebra.Ring.Rat
import Mathlib.Data.List.Induction

/-!
# Typing an input price

Every value that is typed into the input price of the pricing editor fills the prices that are
empty and have a ratio, and keeps those that are filled. So the first number decides them, however
the typing goes on (`typed_eq_iff`).
-/

namespace Mujian.Pricing.Editor

/-- The text of a field, empty or with its number; a lone point has none. -/
abbrev Field := Option (Option ℚ)

inductive Price
  | completion | cache | createCache | image | audioInput | audioOutput
  deriving DecidableEq

structure ModelState where
  inputPrice : Field
  price : Price → Field
  completionRatioLocked : Bool
  lockedCompletionRatio : Option ℚ
  /-- That of the audio output is `audioCompletionRatio`. -/
  rawRatio : Price → Option ℚ

variable (model : ModelState) (values : List Field) (value : Field)

/-- The ratio of a price that is always computed from the input price. -/
def lockedRatio : Price → Option ℚ
  | .completion => if model.completionRatioLocked then model.lockedCompletionRatio else none
  | _ => none

def fillRatio : Price → Option ℚ
  | .audioOutput => do return (← model.rawRatio .audioInput) * (← model.rawRatio .audioOutput)
  | p => model.rawRatio p

def fillDerivedPricesFromBase : ModelState :=
  match value.join with
  | none => model
  | some base =>
    { model with
      price := fun p =>
        match lockedRatio model p, model.price p, fillRatio model p with
        | some ratio, _, _ | none, none, some ratio => some (some (base * ratio))
        | none, price, _ => price }

/-- `handleNumericFieldChange` for the input price. -/
def typeInputPrice : ModelState :=
  fillDerivedPricesFromBase { model with inputPrice := value } value

/-- A price after numbers were typed: the last of them counts for a locked price, and the first for
one that was empty. -/
def priceAfter (numbers : List ℚ) (p : Price) : Field :=
  match lockedRatio model p, model.price p, fillRatio model p with
  | some ratio, price, _ => (numbers.getLast?.map fun base => some (base * ratio)).or price
  | none, none, some ratio => numbers.head?.map fun base => some (base * ratio)
  | none, price, _ => price

theorem typed_eq : values.foldl typeInputPrice model =
    { model with
      inputPrice := values.getLast?.getD model.inputPrice
      price := priceAfter model (values.filterMap Option.join) } := by
  induction values using List.reverseRecOn with
  | nil =>
    have hsame : priceAfter model [] = model.price := by
      funext p
      unfold priceAfter
      split <;> simp_all
    simp [hsame]
  | append_singleton values value ih =>
    rw [List.foldl_append, ih, List.filterMap_append]
    cases hvalue : value.join with
    | none => simp [typeInputPrice, fillDerivedPricesFromBase, hvalue]
    | some base =>
      simp only [List.foldl_cons, List.foldl_nil, typeInputPrice, fillDerivedPricesFromBase, hvalue,
        List.getLast?_concat, Option.getD_some, ModelState.mk.injEq, and_self, true_and, and_true]
      funext p
      change (match lockedRatio model p, priceAfter model _ p, fillRatio model p with
        | some ratio, _, _ | none, none, some ratio => _
        | none, price, _ => price) = _
      unfold priceAfter
      generalize values.filterMap Option.join = numbers
      cases lockedRatio model p with
      | some ratio => simp [hvalue, List.getLast?_append]
      | none =>
        rcases model.price p with - | price <;> rcases fillRatio model p with - | ratio <;>
          cases numbers <;> simp [hvalue]

/-- **Typing values before the last one changes nothing exactly if** the first number among them
gives every empty price what the last value gives it, and, where the last value is no number, the
last number among them leaves the locked price as it was. -/
theorem typed_eq_iff :
    (values ++ [value]).foldl typeInputPrice model = typeInputPrice model value ↔
      (∀ p, lockedRatio model p = none → model.price p = none → ∀ ratio ∈ fillRatio model p,
        ∀ first ∈ (values.filterMap Option.join).head?, ∃ last ∈ value.join,
          first * ratio = last * ratio) ∧
      ∀ p, ∀ ratio ∈ lockedRatio model p, value.join = none →
        ∀ last ∈ (values.filterMap Option.join).getLast?,
          model.price p = some (some (last * ratio)) := by
  have hdirect := typed_eq model [value]
  rw [List.foldl_cons, List.foldl_nil] at hdirect
  rw [hdirect, typed_eq, List.filterMap_append, List.getLast?_concat]
  simp only [ModelState.mk.injEq, and_self, true_and, and_true, List.getLast?_singleton,
    Option.getD_some]
  rw [funext_iff, ← forall_and]
  refine forall_congr' fun p => ?_
  unfold priceAfter
  generalize values.filterMap Option.join = numbers
  cases lockedRatio model p with
  | some ratio =>
    rcases hvalue : value.join with - | base <;> rcases hlast : numbers.getLast? with - | last <;>
      simp [hvalue, hlast, List.getLast?_append, eq_comm]
  | none =>
    rcases model.price p with - | price <;> rcases fillRatio model p with - | ratio <;>
      rcases numbers with - | ⟨first, numbers⟩ <;> rcases hvalue : value.join with - | base <;>
      simp [hvalue]

/-- A cache price that is filled at the first digit of 12 stays at half of 1. -/
theorem first_digit_fills_price :
    let model : ModelState :=
      ⟨none, fun _ => none, false, none, fun p => if p = .cache then some (1 / 2) else none⟩
    let twelve := some (some 12)
    ([some (some 1), twelve].foldl typeInputPrice model).price .cache = some (some (1 / 2)) ∧
      (typeInputPrice model twelve).price .cache = some (some 6) := by
  decide +kernel

end Mujian.Pricing.Editor
