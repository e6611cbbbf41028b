/-! # Scalars

    Preference values, co-occurrence counts and scores are scalars: things that can be added,
    multiplied, compared and measured. Every stage of the recommender is written once over a
    `Scalar`; doubles run it, and an exact number type reads it exactly.

    A comparison `a < b` may fail both ways (a double's NaN compares false with everything);
    `a == b` is the numeric equality, under which the two zeros of a double are equal. -/

namespace ItemRecommender

/-- What the recommender needs of a number type. -/
class Scalar (α : Type) extends Add α, Mul α, LT α, BEq α where
  /-- The sum of nothing. -/
  zero : α
  /-- The value of a preference in boolean data, and one unit of co-occurrence. -/
  one : α
  /-- The magnitude `|a|`. -/
  magnitude : α → α
  /-- Comparisons can be decided. -/
  decideLt : ∀ a b : α, Decidable (a < b)

instance decidableLt {α : Type} [Scalar α] (a b : α) : Decidable (a < b) := Scalar.decideLt a b

/-- Doubles with their usual arithmetic: every operation rounds to nearest, ties to even. -/
instance instFloat : Scalar Float where
  zero := 0.0
  one := 1.0
  magnitude := Float.abs
  decideLt := Float.decLt

namespace Scalar

variable {α : Type} [Scalar α]

/-- Whether a value differs from itself (a NaN); such a value ranks after every other. -/
def isUnordered (a : α) : Bool := !(a == a)

/-- `a` ranks before `b` in descending order: it is larger, or `b` is unordered and `a` is
not. -/
def ranksBefore (a b : α) : Bool := decide (b < a) || (isUnordered b && !isUnordered a)

end Scalar

end ItemRecommender
