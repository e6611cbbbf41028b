import ItemRecommender.Object.Library.Arguments
import ItemRecommender.Object.Sort
/-! # Heaps and sorted lists

    A heap is a list whose item at each position `i` is at or below its children at `2i + 1`
    and `2i + 2`, by the language's `<`, so that its least item comes first.

    * `siftDown` moves the item at a position towards the root while it is below its parent;
    * `siftUp` moves the smaller child up into a hole until the hole reaches a leaf, then puts
      the item there and sifts it down, which is fewer comparisons than comparing it at each
      level;
    * pushing appends and sifts down; popping moves the last item to the root and sifts it up;
      making a heap sifts up every parent from the last.

    A comparison that fails stops a sift where it is, and the list keeps the moves made so far.
    The `n` largest or smallest items are those of a stable sort; merging sorted iterables takes
    the least head each time, the earlier iterable first among equals.

    Bisection finds where an item goes in a sorted sequence: before its equals (left) or after
    them (right), comparing only with `<`. -/

namespace ItemRecommender.Object

/-- The parent position of a position of a heap. -/
def parentOf (i : Nat) : Nat := (i - 1) / 2

/-- An array with the items at two positions exchanged. -/
def exchange (arr : Array Value) (i j : Nat) : Array Value :=
  let a := arr.getD i .none
  let b := arr.getD j .none
  (arr.setIfInBounds i b).setIfInBounds j a

/-- Moves the item at `pos` towards `start` while it is below its parent: the array, and the
error of a comparison that failed. -/
def siftDown (lt : Value → Value → Except Raised Bool) (start : Nat) :
    Nat → Array Value → Nat → Array Value × Option Raised
  | 0, arr, _ => (arr, none)
  | fuel + 1, arr, pos =>
    if pos ≤ start then (arr, none)
    else
      let parent := parentOf pos
      match lt (arr.getD pos .none) (arr.getD parent .none) with
      | .error e => (arr, some e)
      | .ok false => (arr, none)
      | .ok true => siftDown lt start fuel (exchange arr pos parent) parent

/-- Moves the smaller child of the hole at `pos` up into it until the hole is a leaf: the array
and the leaf, or the array and the error of a comparison that failed. -/
def climbChildren (lt : Value → Value → Except Raised Bool) (size : Nat) :
    Nat → Array Value → Nat → Except (Array Value × Raised) (Array Value × Nat)
  | 0, arr, pos => .ok (arr, pos)
  | fuel + 1, arr, pos =>
    if pos < size / 2 then
      let child := 2 * pos + 1
      let chosen : Except Raised Nat :=
        if child + 1 < size then do
          if ← lt (arr.getD child .none) (arr.getD (child + 1) .none) then pure child
          else pure (child + 1)
        else pure child
      match chosen with
      | .error e => .error (arr, e)
      | .ok c => climbChildren lt size fuel (exchange arr pos c) c
    else .ok (arr, pos)

/-- Settles the item at `pos` below its children: the smaller child climbs into its place
until a leaf is reached, and the item is sifted down from there. -/
def siftUp (lt : Value → Value → Except Raised Bool) (arr : Array Value) (pos : Nat) :
    Array Value × Option Raised :=
  match climbChildren lt arr.size (arr.size + 1) arr pos with
  | .error (arr, e) => (arr, some e)
  | .ok (arr, leaf) => siftDown lt pos (arr.size + 1) arr leaf

/-- The heap order of the language's `<`. -/
def heapLess (h : Heap) (a b : Value) : Except Raised Bool := a.compare h .lt b

/-- The list a heap function changes, at its address. -/
def heapList (name what : String) (v : Value) : Act (Nat × Array Value) := do
  let h ← get
  match v with
  | .ref a =>
    match h.get a with
    | .list xs => pure (a, xs.toArray)
    | _ => throw ⟨"TypeError", name ++ "() " ++ what ++ " must be list, not " ++ v.typeName h⟩
  | _ => throw ⟨"TypeError", name ++ "() " ++ what ++ " must be list, not " ++ v.typeName h⟩

/-- Stores a heap's items after a sift, then raises the sift's error, if any. -/
def settle (a : Nat) (result : Array Value × Option Raised) : Act Unit := do
  store a (.list result.1.toList)
  match result.2 with
  | some e => throw e
  | none => pure ()

/-- Adds an item to a heap. -/
def heapPush (heap item : Value) : Act Unit := do
  let (a, arr) ← heapList "heappush" "argument 1" heap
  let arr := arr.push item
  let lt := heapLess (← get)
  settle a (siftDown lt 0 (arr.size + 1) arr (arr.size - 1))

/-- Takes the least item off a heap. -/
def heapPop (heap : Value) : Act Value := do
  let (a, arr) ← heapList "heappop" "argument" heap
  match arr.back? with
  | none => throw ⟨"IndexError", "index out of range"⟩
  | some last =>
    let arr := arr.pop
    if arr.isEmpty then
      store a (.list [])
      pure last
    else
      let top := arr.getD 0 .none
      settle a (siftUp (heapLess (← get)) (arr.setIfInBounds 0 last) 0)
      pure top

/-- Replaces the least item of a heap by another: the least item. -/
def heapReplace (heap item : Value) : Act Value := do
  let (a, arr) ← heapList "heapreplace" "argument 1" heap
  if arr.isEmpty then throw ⟨"IndexError", "index out of range"⟩
  let top := arr.getD 0 .none
  settle a (siftUp (heapLess (← get)) (arr.setIfInBounds 0 item) 0)
  pure top

/-- Pushes an item and pops the least: the item itself when it is not above the least. -/
def heapPushPop (heap item : Value) : Act Value := do
  let (a, arr) ← heapList "heappushpop" "argument 1" heap
  if arr.isEmpty then pure item
  else
    let h ← get
    let top := arr.getD 0 .none
    if ← reading fun h => heapLess h top item then
      settle a (siftUp (heapLess h) (arr.setIfInBounds 0 item) 0)
      pure top
    else pure item

/-- Sifts up every parent position from the last to the root. -/
def heapifyFrom (lt : Value → Value → Except Raised Bool) :
    List Nat → Array Value → Array Value × Option Raised
  | [], arr => (arr, none)
  | i :: rest, arr =>
    match siftUp lt arr i with
    | (arr, some e) => (arr, some e)
    | (arr, none) => heapifyFrom lt rest arr

/-- Makes a list a heap in place. -/
def heapify (heap : Value) : Act Unit := do
  let (a, arr) ← heapList "heapify" "argument" heap
  let parents := (List.range (arr.size / 2)).reverse
  settle a (heapifyFrom (heapLess (← get)) parents arr)

/-- The items of an iterable with their keys, the key function applied to each in order. -/
def keyed (call : Value → List Value → Act Value) (key : Value) (items : List Value) :
    Act (List (Value × Value)) :=
  match key with
  | .none => pure (items.map fun x => (x, x))
  | f => items.mapM fun x => do pure (x, ← call f [x])

/-- Items sorted stably by their keys, ascending or descending; equal keys keep their order. -/
def sortKeyed (descending : Bool) (items : List (Value × Value)) : Act (List Value) := do
  let h ← get
  let lt := fun (a b : Value × Value) =>
    if descending then b.2.compare h .lt a.2 else a.2.compare h .lt b.2
  pure ((← reading fun _ => sortBy lt items).map (·.1))

/-- The `n` smallest (or largest) items of an iterable, as a stable sort orders them; one item
is the first least (or greatest). -/
def extremes (call : Value → List Value → Act Value) (largest : Bool) (n : Int)
    (iterable key : Value) : Act Value := do
  let items ← iterable.elements
  let pairs ← keyed call key items
  if n = 1 then
    match pairs with
    | [] => newList []
    | first :: rest =>
      let h ← get
      let best ← reading fun _ => rest.foldlM (fun best x =>
        if largest then do pure (if ← best.2.compare h .lt x.2 then x else best)
        else do pure (if ← x.2.compare h .lt best.2 then x else best)) first
      newList [best.1]
  else
    let sorted ← sortKeyed largest pairs
    newList (sorted.take n.toNat)

/-- The items of sorted lists merged: each step takes the least head, the earliest list first
among equals, or the greatest when `descending`. The error of a comparison ends the merge. -/
def mergeHeads (h : Heap) (descending : Bool) :
    Nat → List (List (Value × Value)) → List Value × Option Raised
  | 0, _ => ([], none)
  | fuel + 1, lists =>
    let heads := lists.zipIdx.filterMap fun (l, i) => l.head?.map fun x => (x, i)
    match heads with
    | [] => ([], none)
    | first :: rest =>
      let pick : Except Raised ((Value × Value) × Nat) := rest.foldlM (fun best x =>
        if descending then do pure (if ← best.1.2.compare h .lt x.1.2 then x else best)
        else do pure (if ← x.1.2.compare h .lt best.1.2 then x else best)) first
      match pick with
      | .error e => ([], some e)
      | .ok ((x, _), i) =>
        let lists := lists.zipIdx.map fun (l, j) => if j = i then l.drop 1 else l
        let (more, fault) := mergeHeads h descending fuel lists
        (x :: more, fault)

/-- A generator of sorted iterables merged. -/
def mergeSorted (call : Value → List Value → Act Value) (iterables : List Value)
    (key reverse : Value) : Act Value := do
  let lists ← iterables.mapM fun it => do keyed call key (← it.elements)
  let descending ← reverse.truthy
  let total := lists.foldl (fun n l => n + l.length) 0
  let (items, fault) := mergeHeads (← get) descending (total + 1) lists
  allocate (.iterator "generator merge" items fault)

/-- The items of a sequence for bisection, with its length. -/
def sequenceItems (v : Value) : Act (List Value) := do
  let h ← get
  match v with
  | .ref a =>
    match h.get a with
    | .dict .. => throw ⟨"TypeError", v.typeName h ++ " is not a sequence"⟩
    | .set .. => throw ⟨"TypeError", "'" ++ v.typeName h ++ "' object is not subscriptable"⟩
    | _ => v.elements
  | .frozenset .. => throw ⟨"TypeError", "'" ++ v.typeName h ++ "' object is not subscriptable"⟩
  | _ => v.elements

/-- The place of `x` in the sorted part `[lo, hi)` of a sequence, found by halving: after the
items at or below it (right) or before the items at or above it (left). A position past the
sequence raises `outside`. -/
def bisectIn (call : Value → List Value → Act Value) (right : Bool) (items : Array Value)
    (outside : Raised) (x key : Value) : Nat → Int → Int → Act Int
  | 0, lo, _ => pure lo
  | fuel + 1, lo, hi =>
    if lo < hi then do
      let mid := (lo + hi) / 2
      if items.size ≤ mid.toNat then throw outside
      let item := items.getD mid.toNat .none
      let item ← match key with
        | .none => pure item
        | f => call f [item]
      let h ← get
      if right then
        if ← reading fun _ => x.compare h .lt item then bisectIn call right items outside x key fuel lo mid
        else bisectIn call right items outside x key fuel (mid + 1) hi
      else
        if ← reading fun _ => item.compare h .lt x then bisectIn call right items outside x key fuel (mid + 1) hi
        else bisectIn call right items outside x key fuel lo mid
    else pure lo

/-- The bounds of a bisection from its arguments: `lo` at least zero, `hi` the length when not
given. -/
def bisectBounds (lo hi : Option Value) (length : Nat) : Act (Int × Int) := do
  let h ← get
  let lo ← match lo with
    | some v => reading fun _ => asIndex h v
    | none => pure 0
  if lo < 0 then throw ⟨"ValueError", "lo must be non-negative"⟩
  let hi ← match hi with
    | some .none | none => pure (length : Int)
    | some v => reading fun _ => asIndex h v
  pure (lo, hi)

/-- The place where an item goes in a sorted sequence, and the sequence's items. -/
def bisectPlace (call : Value → List Value → Act Value) (right : Bool) (a x : Value)
    (lo hi key : Option Value) : Act Int := do
  let key := key.getD .none
  let items := (← sequenceItems a).toArray
  let (lo, hi) ← bisectBounds lo hi items.size
  let h ← get
  let kind := match a with
    | .str _ => "string"
    | .range .. => "range object"
    | _ => a.typeName h
  let outside : Raised := ⟨"IndexError", .text (kind ++ " index out of range")⟩
  bisectIn call right items outside x key (hi.toNat + 2) lo hi

/-- Inserts an item into a sorted list at the place bisection finds for it. -/
def insortPlace (call : Value → List Value → Act Value) (right : Bool) (a x : Value)
    (lo hi key : Option Value) : Act Unit := do
  let probe ← match key.getD .none with
    | .none => pure x
    | f => call f [x]
  let i ← bisectPlace call right a probe lo hi key
  let h ← get
  match a with
  | .ref addr =>
    match h.get addr with
    | .list xs =>
      let i := i.toNat
      store addr (.list (xs.take i ++ x :: xs.drop i))
    | _ => throw ⟨"AttributeError", "'" ++ a.typeName h ++ "' object has no attribute 'insert'"⟩
  | _ => throw ⟨"AttributeError", "'" ++ a.typeName h ++ "' object has no attribute 'insert'"⟩

/-- A function of the heap queue or bisection modules, applied, or `none` for a name they do not
have. -/
def orderedListFunction (call : Value → List Value → Act Value) (m name : String)
    (args : List Value) (kwargs : List (String × Value)) : Option (Act Value) :=
  let fixed (lo hi : Nat) (run : Act Value) : Act Value := do
    if !kwargs.isEmpty then throw (keywordsRefused name)
    match countFault name lo hi args.length with
    | some e => throw e
    | none => run
  let single (run : Value → Act Value) : Act Value := do
    if !kwargs.isEmpty then throw (keywordsRefused ("_heapq." ++ name))
    match args with
    | [x] => run x
    | _ => throw (singleFault ("_heapq." ++ name) args.length)
  let arg (i : Nat) : Value := args.getD i .none
  if m = "heapq" ∨ m = "_heapq" then
    match name with
    | "heappush" => some (fixed 2 2 do heapPush (arg 0) (arg 1); pure .none)
    | "heappop" => some (single heapPop)
    | "heapify" => some (single fun x => do heapify x; pure .none)
    | "heapreplace" => some (fixed 2 2 (heapReplace (arg 0) (arg 1)))
    | "heappushpop" => some (fixed 2 2 (heapPushPop (arg 0) (arg 1)))
    | "nlargest" | "nsmallest" => some do
      let bound ← reading fun _ => bindParameters (name ++ "()")
        [required "n", required "iterable", optional "key"] args kwargs
      match bound with
      | [some n, some it, key] =>
        let h ← get
        let count ← match n with
          | .int i => pure i
          | .bool b => pure (if b then 1 else 0)
          | _ => throw ⟨"TypeError", "'>=' not supported between instances of '" ++
              n.typeName h ++ "' and 'int'"⟩
        extremes call (name = "nlargest") count it (key.getD .none)
      | _ => pure .none
    | "merge" => some do
      let bound ← reading fun _ => bindParameters "merge()" [keyword "key", keyword "reverse"] [] kwargs
      match bound with
      | [key, reverse] => mergeSorted call args (key.getD .none) (reverse.getD (.bool false))
      | _ => pure .none
    | _ => none
  else if m = "bisect" ∨ m = "_bisect" then
    let params := [required "a", required "x", optional "lo", optional "hi", keyword "key"]
    let plain := if name = "bisect" then "bisect_right" else if name = "insort" then "insort_right"
      else name
    match plain with
    | "bisect_right" | "bisect_left" => some do
      match ← reading fun _ => bindKeywords plain params args kwargs with
      | [some a, some x, lo, hi, key] => do
        pure (.int (← bisectPlace call (plain = "bisect_right") a x lo hi key))
      | _ => pure .none
    | "insort_right" | "insort_left" => some do
      match ← reading fun _ => bindKeywords plain params args kwargs with
      | [some a, some x, lo, hi, key] => do
        insortPlace call (plain = "insort_right") a x lo hi key
        pure .none
      | _ => pure .none
    | _ => none
  else none

end ItemRecommender.Object
