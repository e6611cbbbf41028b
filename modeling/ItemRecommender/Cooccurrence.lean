import ItemRecommender.UserVector
/-! # Co-occurrence columns

    Every ordered pair of distinct items rated by one user is one unit of co-occurrence. The
    column of item index `i` maps each other index `j` to the number of units for `(i, j)`.
    A user rates the items of the vector's entries, excluded or not; a user with fewer than two
    entries adds nothing. -/

namespace ItemRecommender

/-- Co-occurrence counts by item index. -/
abbrev Column (α : Type) := Ledger Int α

variable {α : Type} [Scalar α]

/-- The partial columns one user adds: for each rated index, in ascending order, one unit for
every other rated index. -/
def userColumns (vector : UserVector α) : List (Int × Column α) :=
  let indices := vector.keys.mergeSort fun a b => decide (a ≤ b)
  if indices.length < 2 then []
  else indices.map fun i => (i, Ledger.ofList ((indices.filter (· ≠ i)).map (·, Scalar.one)))

/-- Adds a column into a running total, entry by entry. -/
def addInto (total other : Column α) : Column α :=
  other.entries.foldl (fun t e => t.alter e.1 fun old => old.getD Scalar.zero + e.2) total

/-- The sum of partial columns, left to right. -/
def sumColumns (columns : List (Column α)) : Column α :=
  columns.foldl addInto Ledger.empty

/-- The co-occurrence columns of a list of user vectors, in ascending index order. -/
def buildCooccurrence (vectors : List (Int × UserVector α)) (splits : Int) :
    Except Failure (List (Int × Column α)) :=
  let sum : Int → List (Column α) → Except Failure (List (Int × Column α)) :=
    fun index cs => pure [(index, sumColumns cs)]
  let stage : Batch.Stage (Column α) (Column α) := ⟨some sum, sum⟩
  stage.run [vectors.map fun r => pure (userColumns r.2)] splits

end ItemRecommender
