import Mathlib.Data.Rat.Floor

/-!
# Rounding

The roundings of a decimal library and the arithmetic of a binary floating-point format, over
exact numbers. `roundHalfAway` rounds to the nearest integer, halves away from zero, and
`roundPlaces` does so at a number of decimal places; `divRound` is a division that is rounded so.
`FloatFormat` is given by the rounding of an exact result, `none` for one that is not finite.
-/

namespace Mujian

section

variable {α : Type*} [Field α] [LinearOrder α] [IsStrictOrderedRing α] [FloorRing α]

/-- The nearest integer, halves away from zero. -/
def roundHalfAway (x : α) : ℤ := if 0 ≤ x then ⌊x + 1 / 2⌋ else -⌊-x + 1 / 2⌋

theorem roundHalfAway_zero : roundHalfAway (0 : α) = 0 := by
  rw [roundHalfAway, if_pos le_rfl, Int.floor_eq_zero_iff]
  constructor <;> norm_num

theorem roundHalfAway_le_ceil (x : α) : roundHalfAway x ≤ ⌈x⌉ := by
  unfold roundHalfAway
  split
  · have hlt : x + 1 / 2 < ((⌈x⌉ + 1 : ℤ) : α) := by
      push_cast
      linarith [Int.le_ceil x]
    exact Int.lt_add_one_iff.1 (Int.floor_lt.2 hlt)
  · have hle : ⌊-x⌋ ≤ ⌊-x + 1 / 2⌋ := Int.floor_le_floor (by linarith)
    rw [Int.floor_neg] at hle
    omega

/-- A number below three halves rounds to at most one. -/
theorem roundHalfAway_le_one {x : α} (hx : x < 3 / 2) : roundHalfAway x ≤ 1 := by
  by_cases h0 : 0 ≤ x
  · rw [roundHalfAway, if_pos h0]
    have hlt : x + 1 / 2 < ((1 + 1 : ℤ) : α) := by linarith
    exact Int.lt_add_one_iff.1 (Int.floor_lt.2 hlt)
  · have hceil : ⌈x⌉ ≤ 0 := Int.ceil_le.2 (by push_cast; linarith)
    exact (roundHalfAway_le_ceil x).trans (by omega)

theorem roundHalfAway_mono {x y : α} (h : x ≤ y) : roundHalfAway x ≤ roundHalfAway y := by
  unfold roundHalfAway
  split_ifs with hx hy hy
  · exact Int.floor_le_floor (by linarith)
  · exact absurd (hx.trans h) hy
  · have hxpos : 0 ≤ ⌊-x + 1 / 2⌋ := Int.floor_nonneg.2 (by linarith)
    have hypos : 0 ≤ ⌊y + 1 / 2⌋ := Int.floor_nonneg.2 (by linarith)
    omega
  · exact neg_le_neg (Int.floor_le_floor (by linarith))

/-- Rounding at `places` decimal places, halves away from zero. -/
def roundPlaces (places : ℕ) (x : α) : α := roundHalfAway (x * 10 ^ places) / 10 ^ places

/-- The quotient of two decimals, rounded at `places` decimal places. -/
def divRound (places : ℕ) (x y : α) : α := roundPlaces places (x / y)

theorem divRound_le_divRound (places : ℕ) {x x' y : α} (hy : 0 < y) (h : x ≤ x') :
    divRound places x y ≤ divRound places x' y := by
  unfold divRound roundPlaces
  gcongr
  exact roundHalfAway_mono (by gcongr)

theorem zero_divRound (places : ℕ) (y : α) : divRound places 0 y = 0 := by
  simp [divRound, roundPlaces, roundHalfAway_zero]

/-- The integer part of a number. -/
def truncate (x : α) : ℤ := if 0 ≤ x then ⌊x⌋ else ⌈x⌉

end

/-- The rounding of an exact result, or `none` when it overflows, and what the conversion to an
integer yields when there is no such integer. -/
structure FloatFormat where
  round : ℚ → Option ℚ
  badInteger : ℤ

namespace FloatFormat

variable (F : FloatFormat)

/-- The float nearest to an integer. -/
def ofInt (n : ℤ) : Option ℚ := F.round n

def add (x y : ℚ) : Option ℚ := F.round (x + y)
def sub (x y : ℚ) : Option ℚ := F.round (x - y)
def mul (x y : ℚ) : Option ℚ := F.round (x * y)

/-- Division; a zero divisor has no finite quotient. -/
def div (x y : ℚ) : Option ℚ := if y = 0 then none else F.round (x / y)

/-- The conversion of a float to an integer within the bounds `lo` and `hi`. -/
def toInt (lo hi : ℤ) : Option ℚ → ℤ
  | none => F.badInteger
  | some x => if lo ≤ truncate x ∧ truncate x ≤ hi then truncate x else F.badInteger

def exact : FloatFormat := ⟨some, 0⟩

end FloatFormat

end Mujian
