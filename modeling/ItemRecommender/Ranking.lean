import ItemRecommender.Scores
/-! # Ranking and recommending

    A user's candidates are the summed scores of items the user has not rated whose score is not
    zero (either zero). They are ranked by score, largest first, with unordered scores (NaN)
    last; then by item id, smallest first; then by their order among the scores. The first `n`
    are recommended. Item ids must lie in the signed 64-bit range and every index must be in
    the table; the first candidate that breaks either rule fails the ranking. -/

namespace ItemRecommender

variable {α : Type} [Scalar α]

/-- A recommended item with its score. -/
structure Recommendation (α : Type) where
  item : Int
  score : α

/-- Whether an item id fits in a signed 64-bit word. -/
def fitsWord (id : Int) : Bool := -Int.ofNat (Nat.pow 2 63) ≤ id ∧ id < Int.ofNat (Nat.pow 2 63)

/-- `a` comes before `b` in the ranking. -/
def Recommendation.precedes (a b : Recommendation α) : Bool :=
  Scalar.ranksBefore a.score b.score ||
    (!Scalar.ranksBefore b.score a.score && decide (a.item < b.item))

/-- The first `n` scores by rank, with their item ids. -/
def topItems (scores : Ledger Int α) (table : ItemTable) (n : Int) :
    Except Failure (List (Recommendation α)) := do
  if scores.size = 0 ∨ n ≤ 0 then return []
  let items ← scores.entries.mapM fun e =>
    match table.itemAt? e.1 with
    | none => throw (.missingIndex e.1)
    | some id => if fitsWord id then pure (⟨id, e.2⟩ : Recommendation α) else throw .idTooLarge
  pure ((items.mergeSort fun a b => !b.precedes a).take n.toNat)

/-- The recommendations of one user from the user's partial score vectors. -/
def recommendFor (table : ItemTable) (n : Int) (user : Int) (vectors : List (PartialScores α)) :
    Except Failure (List (Int × List (Recommendation α))) := do
  let total := sumPartials vectors
  let candidates := total.scores.filter fun j s => j ∉ total.rated && !(s == Scalar.zero)
  let items ← topItems candidates table n
  pure (if items.isEmpty then [] else [(user, items)])

/-- The recommendations of every user with at least one, in ascending user order. -/
def aggregate (joined : List (Int × RatedColumn α)) (table : ItemTable) (n : Int)
    (splits : Int) : Except Failure (List (Int × List (Recommendation α))) :=
  let combine : Int → List (PartialScores α) → Except Failure (List (Int × PartialScores α)) :=
    fun u vs => pure [(u, sumPartials vs)]
  let stage : Batch.Stage (PartialScores α) (List (Recommendation α)) :=
    ⟨some combine, recommendFor table n⟩
  stage.run [joined.map fun r => pure (partialMultiply r.1 r.2)] splits

end ItemRecommender
