import ItemRecommender.Object.Value
/-! # Sorting by a comparison that may fail

    The language sorts lists with a merge sort of natural runs, and the pairs it compares decide
    which error a sort of values without order meets first. `sortBy` compares the same pairs for
    lists of fewer than 64 elements:

    1. the longest run at the front, ascending (each element not less than the one before) or
       strictly descending (each element less than the one before), is found by comparing each
       element with the one before it; a descending run is reversed;
    2. every later element is inserted into the sorted front by binary search: it is compared
       with the middle of the remaining range, and goes right of every element it is not less
       than.

    Longer lists are cut into runs of the same minimum length, each sorted so, and the runs are
    merged, an element of a later run going first only when it is less. The sort is stable. -/

namespace ItemRecommender.Object

variable {α : Type}

/-- The length of the run at the front of a list and whether it descends, comparing each
element with the one before it. -/
def countRun (lt : α → α → Except Raised Bool) : List α → Except Raised (Nat × Bool)
  | [] => pure (0, false)
  | [_] => pure (1, false)
  | a :: b :: rest => do
    let descending ← lt b a
    let rec extend (prev : α) (n : Nat) : List α → Except Raised Nat
      | [] => pure n
      | x :: more => do
        let less ← lt x prev
        if less == descending then extend x (n + 1) more else pure n
    pure (← extend b 2 rest, descending)

/-- The position where `pivot` goes in the sorted `sorted[lo, hi)`: right of every element it is
not less than, found by halving the range. -/
def insertionPoint (lt : α → α → Except Raised Bool) (sorted : Array α) (pivot : α)
    (lo hi : Nat) : Except Raised Nat :=
  if lo < hi then do
    let mid := lo + (hi - lo) / 2
    match sorted[mid]? with
    | some x =>
      if ← lt pivot x then insertionPoint lt sorted pivot lo mid
      else insertionPoint lt sorted pivot (mid + 1) hi
    | none => pure lo
  else pure lo
termination_by hi - lo
decreasing_by all_goals omega

/-- Inserts each of `rest` into the sorted array by binary search. -/
def binaryInsert (lt : α → α → Except Raised Bool) (sorted : Array α) :
    List α → Except Raised (Array α)
  | [] => pure sorted
  | x :: more => do
    let i ← insertionPoint lt sorted x 0 sorted.size
    binaryInsert lt (sorted.insertIdxIfInBounds i x) more

/-- Sorts a short list: its front run, then binary insertion of the rest. -/
def sortRun (lt : α → α → Except Raised Bool) (xs : List α) : Except Raised (List α) := do
  let (n, descending) ← countRun lt xs
  let front := if descending then (xs.take n).reverse else xs.take n
  pure (← binaryInsert lt front.toArray (xs.drop n)).toList

/-- Merges two sorted lists, an element of the second going first only when it is less. -/
def mergeRuns (lt : α → α → Except Raised Bool) : List α → List α → Except Raised (List α)
  | [], ys => pure ys
  | xs, [] => pure xs
  | x :: xs, y :: ys => do
    if ← lt y x then pure (y :: (← mergeRuns lt (x :: xs) ys))
    else pure (x :: (← mergeRuns lt xs (y :: ys)))
termination_by xs ys => xs.length + ys.length

/-- The minimum run length for a list of `n` elements: `n` itself below 64, otherwise the top
six bits of `n`, plus one if any lower bit is set. -/
def minRun (n : Nat) : Nat :=
  if n < 64 then n
  else
    let shift := n.log2 - 5
    n / Nat.pow 2 shift + (if n % Nat.pow 2 shift = 0 then 0 else 1)

/-- Cuts a list into pieces of `size` elements, the last possibly shorter. -/
def chunks (size : Nat) (xs : List α) : List (List α) :=
  if size = 0 then [xs]
  else if xs.isEmpty then []
  else xs.take size :: chunks size (xs.drop size)
termination_by xs.length
decreasing_by
  simp only [List.length_drop]
  have : xs.length ≠ 0 := by simp_all
  omega

/-- Sorts a list by a comparison that may fail, stably. -/
def sortBy (lt : α → α → Except Raised Bool) (xs : List α) : Except Raised (List α) := do
  let runs ← (chunks (minRun xs.length) xs).mapM (sortRun lt)
  runs.foldlM (mergeRuns lt) []

end ItemRecommender.Object
