import ItemRecommender.Batch.Stage
import ItemRecommender.Preference
/-! # The item table

    Items are numbered densely from zero in ascending order of their ids, so the table depends
    only on the set of items seen. Its rows pair an index with an item id. Looking up in either
    direction takes the last row that matches, as a table read into a map would. -/

namespace ItemRecommender

/-- Rows `(index, item id)`. -/
structure ItemTable where
  rows : List (Int × Int)
  deriving DecidableEq, Repr

namespace ItemTable

/-- The index of an item id. -/
def indexOf? (t : ItemTable) (item : Int) : Option Int :=
  (t.rows.reverse.find? (·.2 = item)).map Prod.fst

/-- The item id at an index. -/
def itemAt? (t : ItemTable) (index : Int) : Option Int :=
  (t.rows.reverse.find? (·.1 = index)).map Prod.snd

end ItemTable

/-- Drops each element equal to the one before it. -/
def dropRepeats : List Int → List Int
  | a :: b :: rest => if a = b then dropRepeats (b :: rest) else a :: dropRepeats (b :: rest)
  | l => l

/-- The distinct ids in ascending order, numbered from zero. -/
def assignIndices (ids : List Int) : ItemTable :=
  ⟨(dropRepeats (ids.mergeSort fun a b => decide (a ≤ b))).zipIdx.map fun p => ((p.2 : Int), p.1)⟩

/-- The item table of a list of preferences, built by a stage that keeps one record per item. -/
def buildItemTable {α : Type} (prefs : List (Preference α)) (splits : Int) :
    Except Failure ItemTable := do
  let keep : Int → List Unit → Except Failure (List (Int × Unit)) := fun k _ => pure [(k, ())]
  let stage : Batch.Stage Unit Unit := ⟨some keep, keep⟩
  let distinct ← stage.run [prefs.map fun p => pure [(p.item, ())]] splits
  pure (assignIndices (distinct.map Prod.fst))

end ItemRecommender
