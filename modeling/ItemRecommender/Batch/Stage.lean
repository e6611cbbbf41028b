import ItemRecommender.Batch.Split
import ItemRecommender.Failure
/-! # Batch stages

    A stage turns keyed inputs into keyed output in four steps:

    1. each input is cut into splits (`splitRecords`), and the records of a split are mapped,
       each to a list of keyed values (the inputs arrive already mapped, as `Input`s);
    2. with a combiner, the values a split emits are grouped by key, keys in first-seen order,
       and each group is combined;
    3. the values of all splits are grouped by key, and every key is placed in a partition: the
       floor residue of its hash modulo the split count;
    4. the partitions are reduced in order, the keys of a partition in ascending order, and the
       output of all reductions is sorted by key, stably.

    A key's values reach the reducer in input order, split order and emission order. The hash
    only decides which failing key a reduction meets first. A split count of zero or below has
    no partitions: the first emitted value fails the stage. -/

namespace ItemRecommender.Batch

variable {ν ω : Type}

/-- The hash that places integer keys in partitions: the residue of the key's magnitude modulo
the prime `2^61 - 1`, negative for a negative key, with `-1` taken to `-2`. -/
def keyHash (k : Int) : Int :=
  let r : Int := ((k.natAbs % (Nat.pow 2 61 - 1) : Nat) : Int)
  let h := if k < 0 then -r else r
  if h = -1 then -2 else h

/-- Adds one value to the group of its key, or opens a group at the end. -/
def addToGroup (k : Int) (v : ν) : List (Int × List ν) → List (Int × List ν)
  | [] => [(k, [v])]
  | (k', vs) :: rest => if k' = k then (k', v :: vs) :: rest else (k', vs) :: addToGroup k v rest

/-- The values of each key, keys in first-seen order and values in order. -/
def groupByKey (pairs : List (Int × ν)) : List (Int × List ν) :=
  (pairs.foldl (fun groups p => addToGroup p.1 p.2 groups) []).map fun g => (g.1, g.2.reverse)

/-- One input of a stage: the outcome of its mapper on each of its records, in order. -/
abbrev Input (ν : Type) := List (Except Failure (List (Int × ν)))

/-- The combine and reduce steps of a stage. -/
structure Stage (ν ω : Type) where
  combiner : Option (Int → List ν → Except Failure (List (Int × ν)))
  reducer : Int → List ν → Except Failure (List (Int × ω))

/-- Runs a list of steps in order and joins their outputs; the first failure stops it. -/
def collect {β : Type} (steps : List (Except Failure (List β))) : Except Failure (List β) :=
  (steps.mapM id).map List.flatten

/-- The keyed values one split emits, combined if the stage has a combiner. -/
def mapSplit (combiner : Option (Int → List ν → Except Failure (List (Int × ν))))
    (split : Input ν) : Except Failure (List (Int × ν)) := do
  let emitted ← collect split
  match combiner with
  | none => pure emitted
  | some c => collect ((groupByKey emitted).map fun g => c g.1 g.2)

/-- Sorts keyed records by key, keeping the order of equal keys. -/
def sortByKey {β : Type} (records : List (Int × β)) : List (Int × β) :=
  records.mergeSort fun a b => decide (a.1 ≤ b.1)

/-- The order in which keys are reduced: by partition, then by key. -/
def reduceOrder (hash : Int → Int) (splits : Int) (groups : List (Int × List ν)) :
    List (Int × List ν) :=
  groups.mergeSort fun a b =>
    let pa := Int.fmod (hash a.1) splits
    let pb := Int.fmod (hash b.1) splits
    decide (pa < pb ∨ (pa = pb ∧ a.1 ≤ b.1))

/-- Runs a stage over its inputs with `splits` splits and partitions. -/
def Stage.run (stage : Stage ν ω) (inputs : List (Input ν)) (splits : Int)
    (hash : Int → Int := keyHash) : Except Failure (List (Int × ω)) := do
  let tasks := inputs.flatMap fun input => splitRecords input splits
  let emitted ← collect (tasks.map (mapSplit stage.combiner))
  if !emitted.isEmpty then
    if splits = 0 then throw .zeroPartitions
    if splits < 0 then throw .outOfRange
  let groups := reduceOrder hash splits (groupByKey emitted)
  let reduced ← collect (groups.map fun g => stage.reducer g.1 g.2)
  pure (sortByKey reduced)

end ItemRecommender.Batch
