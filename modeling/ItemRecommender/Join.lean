import ItemRecommender.Cooccurrence
import ItemRecommender.Pruning
/-! # Joining columns with ratings

    For each item index the join brings together the item's co-occurrence column and the users
    who rated the item, with their slots. An index with no column, or with no rating, yields
    nothing; an index with two columns fails. Columns come first and ratings after them, in the
    order of the user vectors. -/

namespace ItemRecommender

variable {α : Type} [Scalar α] [Inhabited α]

/-- An item's column with the users who rated the item and their slots, in order. -/
structure RatedColumn (α : Type) where
  column : Column α
  raters : List Int
  slots : List (Slot α)

/-- The joined record of one item index from its parts. -/
def ratedColumn (index : Int) (parts : List (JoinPart α)) :
    Except Failure (List (Int × RatedColumn α)) := do
  let step : Option (Column α) × List Int × List (Slot α) → JoinPart α →
      Except Failure (Option (Column α) × List Int × List (Slot α)) := fun acc part =>
    match part, acc with
    | .column c, (none, us, ss) => pure (some c, us, ss)
    | .column _, (some _, _, _) => throw (.duplicateColumn index)
    | .rating u s, (c, us, ss) => pure (c, us ++ [u], ss ++ [s])
  let (column?, raters, slots) ← parts.foldlM step (none, [], [])
  match column? with
  | some c => if raters.isEmpty then pure [] else pure [(index, ⟨c, raters, slots⟩)]
  | none => pure []

/-- Joins co-occurrence columns with the pruned vectors of the selected users. -/
def joinColumns (columns : List (Int × Column α)) (vectors : List (Int × UserVector α))
    (k : Int) (users : Option (List Int)) (splits : Int) :
    Except Failure (List (Int × RatedColumn α)) :=
  let stage : Batch.Stage (JoinPart α) (RatedColumn α) := ⟨none, ratedColumn⟩
  stage.run [columns.map (fun c => pure [(c.1, .column c.2)]),
    vectors.map fun v => splitUserVector k users v.1 v.2] splits

end ItemRecommender
