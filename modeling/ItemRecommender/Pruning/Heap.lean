import ItemRecommender.Failure
import ItemRecommender.Scalar
/-! # A bounded min-heap of magnitudes

    The pruning threshold of a vector is the least of its `K` largest magnitudes. One pass keeps
    a binary min-heap, stored level by level in an array (the children of position `i` at
    `2i + 1` and `2i + 2`): while it holds fewer than `K` magnitudes each new one is pushed;
    after that a magnitude larger than the root replaces the root. The root is the answer.

    Both operations compare with `<` only, in a fixed pattern, so a magnitude that compares
    false both ways (a NaN) lands where that pattern puts it:

    * `push` appends and moves the new item up while it is smaller than its parent;
    * `replaceTop` moves the smaller child up, level by level, until a leaf is free (the right
      child when the left is not smaller than it), puts the new item there and moves it up as
      `push` does. -/

namespace ItemRecommender.Heap

variable {α : Type} [Scalar α] [Inhabited α]

/-- Moves the item at `pos` up while it is smaller than its parent, not above `start`. -/
def siftUp (heap : Array α) (start pos : Nat) : Array α :=
  let item := heap.getD pos default
  let rec go (heap : Array α) (pos : Nat) : Array α :=
    if h : start < pos then
      let parentPos := (pos - 1) / 2
      let parent := heap.getD parentPos default
      if item < parent then go (heap.setIfInBounds pos parent) parentPos
      else heap.setIfInBounds pos item
    else heap.setIfInBounds pos item
  termination_by pos
  decreasing_by omega
  go heap pos

/-- Appends an item and restores the heap order. -/
def push (heap : Array α) (item : α) : Array α :=
  siftUp (heap.push item) 0 heap.size

/-- Moves children up from `pos` to a free leaf, then places the item held at `pos` there and
moves it up. -/
def siftToLeaf (heap : Array α) (pos : Nat) : Array α :=
  let item := heap.getD pos default
  let size := heap.size
  let rec go (heap : Array α) (pos : Nat) : Array α :=
    let child := 2 * pos + 1
    if h : child < size then
      let right := child + 1
      let smaller :=
        if right < size ∧ ¬(heap.getD child default < heap.getD right default) then right
        else child
      go (heap.setIfInBounds pos (heap.getD smaller default)) smaller
    else siftUp (heap.setIfInBounds pos item) 0 pos
  termination_by size - pos
  decreasing_by
    all_goals
      first
      | omega
      | (split <;> omega)
  go heap pos

/-- Replaces the root with an item and restores the heap order. -/
def replaceTop (heap : Array α) (item : α) : Array α :=
  siftToLeaf (heap.setIfInBounds 0 item) 0

/-- The least of the `k` largest magnitudes of `values`, or of all of them when there are
fewer; an empty list or `k ≤ 0` has none. -/
def smallestLarge (values : List α) (k : Int) : Except Failure α := do
  let step : Array α → α → Except Failure (Array α) := fun heap v =>
    let m := Scalar.magnitude v
    if (heap.size : Int) < k then pure (push heap m)
    else match heap[0]? with
      | none => throw .outOfRange
      | some top => pure (if top < m then replaceTop heap m else heap)
  let heap ← values.foldlM step #[]
  match heap[0]? with
  | none => throw .outOfRange
  | some top => pure top

end ItemRecommender.Heap
