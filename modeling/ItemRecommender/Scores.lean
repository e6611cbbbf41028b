import ItemRecommender.Join
/-! # Partial scores

    A rated column fans out one partial score vector per rater: the rater's value times each
    entry of the column, and the column's item marked as rated. An excluded slot gives no
    scores but still marks the item. Partial vectors add up entry by entry, left to right, and
    their rated items unite. -/

namespace ItemRecommender

variable {α : Type} [Scalar α]

/-- Scores by item index, with the indices the user already rated. -/
structure PartialScores (α : Type) where
  scores : Ledger Int α
  rated : List Int

/-- The partial score vectors of one rated column, one per rater. -/
def partialMultiply (index : Int) (rc : RatedColumn α) : List (Int × PartialScores α) :=
  (rc.raters.zip rc.slots).map fun
    | (u, .excluded) => (u, ⟨Ledger.empty, [index]⟩)
    | (u, .value v) => (u, ⟨rc.column.mapValues (v * ·), [index]⟩)

/-- Adds a list of indices to a set kept as a list without repeats. -/
def unite (set more : List Int) : List Int :=
  more.foldl (fun s i => if i ∈ s then s else s ++ [i]) set

/-- The sum of partial score vectors, left to right. -/
def sumPartials (vectors : List (PartialScores α)) : PartialScores α :=
  vectors.foldl (fun acc v =>
    ⟨v.scores.entries.foldl (fun t e => t.alter e.1 fun old => old.getD Scalar.zero + e.2)
      acc.scores, unite acc.rated v.rated⟩) ⟨Ledger.empty, []⟩

end ItemRecommender
