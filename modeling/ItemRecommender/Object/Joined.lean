import ItemRecommender.Object.Columns
/-! # Pruning and joining objects

    The third stage of recommending, over objects. Each user vector is pruned to the values of
    its `K` largest magnitudes and split into one rating per index; the ratings meet the
    co-occurrence columns of the same index, and an index with a column and at least one rating
    gives a joined record.

    Pruning keeps a vector's entries (as a new map) when it has at most `K` of them, or at most
    `K` that are not excluded. Otherwise the threshold is the least of the `K` largest
    magnitudes, found with a bounded min-heap that compares as `Heap` does, and every entry whose
    magnitude is below it becomes excluded. Magnitudes compare by the language's `<` and `>`,
    so magnitudes without order fail the stage. -/

namespace ItemRecommender.Object

open ItemRecommender.Text

/-! ## A heap with fallible comparisons -/

/-- Moves the item at `pos` up while it is smaller than its parent, not above `start`. -/
def siftUpBy {α : Type} [Inhabited α] (lt : α → α → Act Bool) (heap : Array α) (start pos : Nat) :
    Act (Array α) :=
  let item := heap.getD pos default
  let rec go (heap : Array α) (pos : Nat) : Act (Array α) := do
    if start < pos then
      let parentPos := (pos - 1) / 2
      let parent := heap.getD parentPos default
      if ← lt item parent then go (heap.setIfInBounds pos parent) parentPos
      else pure (heap.setIfInBounds pos item)
    else pure (heap.setIfInBounds pos item)
  termination_by pos
  decreasing_by omega
  go heap pos

/-- Moves children up from the root to a free leaf, the right child when the left is not
smaller than it, then places the root's item there and moves it up. -/
def siftToLeafBy {α : Type} [Inhabited α] (lt : α → α → Act Bool) (heap : Array α) :
    Act (Array α) :=
  let item := heap.getD 0 default
  let size := heap.size
  let rec go (heap : Array α) (pos : Nat) : Act (Array α) := do
    let child := 2 * pos + 1
    if child < size then
      let right := child + 1
      let smaller ←
        if right < size then do
          if ← lt (heap.getD child default) (heap.getD right default) then pure child else pure right
        else pure child
      if pos < smaller then go (heap.setIfInBounds pos (heap.getD smaller default)) smaller
      else pure heap
    else siftUpBy lt (heap.setIfInBounds pos item) 0 pos
  termination_by size - pos
  decreasing_by omega
  go heap 0

/-- The least of the `k` largest magnitudes of some values, found with a bounded min-heap;
none at all is an index out of range. -/
def smallestLargeMagnitude (values : List Value) (k : Int) : Act Value := do
  let lt : Value → Value → Act Bool := fun a b => reading fun h => a.compare h .lt b
  let heap ← values.foldlM (fun (heap : Array Value) v => do
    let m ← v.magnitude
    if (heap.size : Int) < k then siftUpBy lt (heap.push m) 0 heap.size
    else
      match heap[0]? with
      | none => throw ⟨"IndexError", "list index out of range"⟩
      | some top =>
        if ← reading fun h => m.compare h .gt top then siftToLeafBy lt (heap.setIfInBounds 0 m)
        else pure heap) #[]
  match heap[0]? with
  | none => throw ⟨"IndexError", "list index out of range"⟩
  | some top => pure top

/-! ## Pruning and splitting -/

/-- The entries of a vector pruned to its `k` largest magnitudes, as a new map. -/
def pruneEntries (entries : Value) (k : Int) : Act Value := do
  if ((← entries.length) : Int) ≤ k then return ← newDict (← entries.entriesFrom)
  let items ← entries.items
  let present ← items.foldlM (fun acc (i, v) =>
    if isExcludedSlot v then pure acc else reading fun h => putEntry h acc i v) []
  if (present.length : Int) ≤ k then return ← newDict (← entries.entriesFrom)
  let threshold ← smallestLargeMagnitude (present.map Prod.snd) k
  let pruned ← items.foldlM (fun acc (i, v) => do
    let excluded ← if isExcludedSlot v then pure true
      else do
        let m ← v.magnitude
        reading fun h => m.compare h .lt threshold
    reading fun h => putEntry h acc i (if excluded then excludedMember else v)) []
  newDict pruned

/-- A rating or a column as the join receives it. -/
def joinPart (vector user value : Value) : Act Value :=
  newRecord "VectorOrPref" [("vector", vector), ("user_id", user), ("value", value)]

/-- The ratings of one user by item index in ascending order, after pruning; nothing for a
user outside the selected users. -/
def splitVector (k : Int) (users : Option (List Int)) : Mapper := fun user vector => do
  if let some us := users then
    if !(← reading fun h => hasMember h (us.map Value.int) user) then return []
  let pruned ← pruneEntries (← vector.attribute "entries") k
  let indices ← sortValues (← pruned.elements)
  indices.mapM fun i => do pure (i, ← joinPart .none user (← pruned.getItem i))

/-- The joined record of one index from its column and ratings. -/
def joinParts : Reducer := fun index parts => do
  let (column, users, values) ← parts.foldlM (fun (column, users, values) part => do
    let vector ← part.attribute "vector"
    match vector with
    | .none => pure (column, users ++ [← part.attribute "user_id"], values ++ [← part.attribute "value"])
    | _ =>
      if column.isSome then
        throw ⟨"InvariantViolationError", "Found two co-occurrence columns for item index " ++
          (← reading fun h => index.text h)⟩
      pure (some vector, users, values)) (none, [], [])
  match column with
  | some c =>
    if users.isEmpty then pure []
    else do
      let record ← newRecord "VectorAndPrefs"
        [("vector", c), ("user_ids", ← newList users), ("values", ← newList values)]
      pure [(index, record)]
  | none => pure []

/-- Joins co-occurrence columns of objects with the pruned user vectors of objects. -/
def joinedOf (columns vectors : Value) (k : Int) (users : Option (List Int)) (splits : Int) :
    Act (List (Value × Value)) :=
  let wrap : Mapper := fun index column => do pure [(index, ← joinPart column .none .none)]
  runStage [⟨columns, wrap⟩, ⟨vectors, splitVector k users⟩] joinParts none splits

end ItemRecommender.Object
