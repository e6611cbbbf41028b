import ItemRecommender.Pruning.Heap
import ItemRecommender.UserVector
/-! # Pruning user vectors

    Only the `K` values of largest magnitude of a user's vector take part in scoring. A vector
    with at most `K` entries, or at most `K` entries that are not excluded, is kept as it is.
    Otherwise the threshold is the least of the `K` largest magnitudes of the values present,
    in entry order (`Heap.smallestLarge`), and every value whose magnitude is below it becomes
    excluded; values equal to the threshold stay, so ties may keep more than `K`.

    Splitting a pruned vector re-keys it by item index for the join: one rating per entry,
    excluded ones included, in ascending index order. -/

namespace ItemRecommender

variable {α : Type} [Scalar α] [Inhabited α]

/-- The vector with all values below the `k`-th largest magnitude excluded. -/
def prune (vector : UserVector α) (k : Int) : Except Failure (UserVector α) := do
  if (vector.size : Int) ≤ k then return vector
  let present := vector.entries.filterMap fun e => e.2.value?
  if (present.length : Int) ≤ k then return vector
  let threshold ← Heap.smallestLarge present k
  pure (vector.mapValues fun
    | .excluded => .excluded
    | .value v => if Scalar.magnitude v < threshold then .excluded else .value v)

/-- What the join receives for an item index: the item's co-occurrence column, or one user's
slot for it. -/
inductive JoinPart (α : Type) where
  | column (c : Ledger Int α)
  | rating (user : Int) (slot : Slot α)

/-- The ratings of one user by item index, in ascending index order; nothing when a set of
users is given and does not hold the user. -/
def splitUserVector (k : Int) (users : Option (List Int)) (user : Int) (vector : UserVector α) :
    Except Failure (List (Int × JoinPart α)) := do
  if let some us := users then
    if user ∉ us then return []
  let pruned ← prune vector k
  let sorted := pruned.entries.mergeSort fun a b => decide (a.1 ≤ b.1)
  pure (sorted.map fun e => (e.1, .rating user e.2))

end ItemRecommender
