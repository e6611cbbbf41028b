import Mathlib
import ItemRecommender.Scalar

/-! # Exact scalars

    Every stage of the recommender is written over a `Scalar`. Read over the rationals, its
    sums and products are exact: a co-occurrence count is the number of units added, a score is
    the sum of the products the specification names, and no value is unordered. The lemmas here
    turn the scalar operations into the ones of `ℚ`, so that the stage lemmas proved for
    rationals end in `Finset` sums and `abs`. -/

namespace ItemRecommender

/-- The rationals, with their own arithmetic and order. -/
instance instRat : Scalar ℚ where
  toAdd := inferInstance
  toMul := inferInstance
  toLT := inferInstance
  toBEq := ⟨fun a b => decide (a = b)⟩
  zero := 0
  one := 1
  magnitude := abs
  decideLt := fun _ _ => inferInstance

namespace Scalar

@[simp] theorem zero_rat : (Scalar.zero : ℚ) = 0 := rfl

@[simp] theorem one_rat : (Scalar.one : ℚ) = 1 := rfl

@[simp] theorem magnitude_rat (a : ℚ) : Scalar.magnitude a = |a| := rfl

@[simp] theorem beq_rat (a b : ℚ) : (a == b) = decide (a = b) := rfl

@[simp] theorem isUnordered_rat (a : ℚ) : isUnordered a = false := by
  simp [isUnordered]

/-- Over the rationals, ranking before is being larger. -/
@[simp] theorem ranksBefore_rat (a b : ℚ) : ranksBefore a b = decide (b < a) := by
  simp [ranksBefore]

end Scalar

end ItemRecommender
