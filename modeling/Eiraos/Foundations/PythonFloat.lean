import Mathlib.Algebra.Order.Ring.Unbundled.Rat

/-! # Python's floats, as far as they are compared

A float is a number, an infinity or not a number, which compares to nothing.  `min` and `max` keep
their first argument unless the second one is strictly smaller, or greater.
-/

inductive PythonFloat where
  | nan
  | negativeInfinity
  | finite (value : ℚ)
  | infinity
  deriving DecidableEq, Repr

namespace PythonFloat

def lt : PythonFloat → PythonFloat → Bool
  | .nan, _ => false
  | _, .nan => false
  | .finite left, .finite right => left < right
  | .negativeInfinity, other => other ≠ .negativeInfinity
  | .finite _, other => other = .infinity
  | .infinity, _ => false

/-- `min(left, right)`. -/
def min (left right : PythonFloat) : PythonFloat := if right.lt left then right else left

/-- `max(left, right)`. -/
def max (left right : PythonFloat) : PythonFloat := if left.lt right then right else left

example : max (.finite 0) .nan = .finite 0 := by decide

/-- A float clamped from below by a number and then from above is a number between the two. -/
theorem clamped {floor ceiling : ℚ} (ordered : floor ≤ ceiling) (value : PythonFloat) :
    ∃ clamp, min (max (.finite floor) value) (.finite ceiling) = .finite clamp ∧
      floor ≤ clamp ∧ clamp ≤ ceiling := by
  cases value with
  | nan =>
    refine ⟨floor, ?_, le_rfl, ordered⟩
    simp [min, max, lt, not_lt.mpr ordered]
  | negativeInfinity =>
    refine ⟨floor, ?_, le_rfl, ordered⟩
    simp [min, max, lt, not_lt.mpr ordered]
  | infinity => exact ⟨ceiling, by simp [min, max, lt], ordered, le_rfl⟩
  | finite value =>
    by_cases above : floor < value
    · by_cases beyond : ceiling < value
      · exact ⟨ceiling, by simp [min, max, lt, above, beyond], ordered, le_rfl⟩
      · exact ⟨value, by simp [min, max, lt, above, beyond], above.le, not_lt.mp beyond⟩
    · refine ⟨floor, ?_, le_rfl, ordered⟩
      simp [min, max, lt, above, not_lt.mpr ordered]

/-- The smaller of two numbers. -/
theorem min_finite (left right : ℚ) :
    min (.finite left) (.finite right) = .finite (if right < left then right else left) := by
  by_cases smaller : right < left <;> simp [min, lt, smaller]

end PythonFloat
