import ItemRecommender.Batch.Split
import ItemRecommender.Object.Call
/-! # A stage over objects

    The stage of `Batch.Stage` with keys and values that are objects, for datasets that another
    program wrote. Its steps are those of every stage, with the objects' own hashing, equality
    and order:

    1. every input's records are listed, in input order, and cut into splits;
    2. each record of a split is unpacked into a key and a value and mapped; with a combiner,
       the split's output is grouped by key (keys in first-seen order, found by hash and
       equality) and each group combined;
    3. every output record goes to the partition its key's hash selects, modulo the number of
       partitions, and joins its key's group there;
    4. the groups of every partition are sorted by key, all partitions before any reduction,
       and then reduced partition by partition;
    5. the reduced records are sorted by key.

    A key that cannot be hashed or ordered fails the stage where the language would fail. -/

namespace ItemRecommender.Object

/-- What a mapper emits for one record's key and value. -/
abbrev Mapper := Value → Value → Act (List (Value × Value))

/-- What a combiner or reducer emits for one key and its values. -/
abbrev Reducer := Value → List Value → Act (List (Value × Value))

/-- One input of a stage: the object holding its records, and its mapper. -/
structure StageInput where
  records : Value
  mapper : Mapper

/-- Groups with a value added to the group of an equal key, or a new group at the end. -/
def addToGroup (groups : List (Value × List Value)) (k v : Value) :
    Act (List (Value × List Value)) := do
  let hk ← reading fun h => k.hash h
  let rec go : List (Value × List Value) → Act (Option (List (Value × List Value)))
    | [] => pure none
    | (k', vs) :: rest => do
      if (← reading fun h => k'.hash h) == hk then
        if ← reading fun h => k'.equals h k then return some ((k', vs ++ [v]) :: rest)
      match ← go rest with
      | some rest' => pure (some ((k', vs) :: rest'))
      | none => pure none
  match ← go groups with
  | some groups' => pure groups'
  | none => pure (groups ++ [(k, [v])])

/-- The values of each key, keys in first-seen order and values in order. -/
def groupByKey (pairs : List (Value × Value)) : Act (List (Value × List Value)) :=
  pairs.foldlM (fun groups (k, v) => addToGroup groups k v) []

/-- Runs a reducer on each group in order and joins what it emits. -/
def reduceGroups (reducer : Reducer) (groups : List (Value × List Value)) :
    Act (List (Value × Value)) := do
  pure (← groups.mapM fun (k, vs) => reducer k vs).flatten

/-- The records one split emits: each record unpacked and mapped, then combined by key if the
stage has a combiner. -/
def mapSplit (mapper : Mapper) (combiner : Option Reducer) (records : List Value) :
    Act (List (Value × Value)) := do
  let emitted := (← records.mapM fun r => do
    let (k, v) ← r.pair
    mapper k v).flatten
  match combiner with
  | none => pure emitted
  | some c => reduceGroups c (← groupByKey emitted)

/-- The partition of a key among `splits`: its hash modulo their number, rounded toward minus
infinity. There is no partition when their number is not positive. -/
def partitionOf (k : Value) (splits : Int) : Act Nat := do
  let hk ← reading fun h => k.hash h
  if splits = 0 then throw ⟨"ZeroDivisionError", "integer modulo by zero"⟩
  if splits < 0 then throw ⟨"IndexError", "list index out of range"⟩
  pure (Int.fmod hk splits).toNat

/-- Partitions, by index in ascending order, with a record added to its key's group in the
partition its key selects. -/
def shuffleInto (splits : Int) (parts : List (Nat × List (Value × List Value)))
    (record : Value × Value) : Act (List (Nat × List (Value × List Value))) := do
  let (k, v) := record
  let p ← partitionOf k splits
  match parts.find? (·.1 = p) with
  | some (_, groups) =>
    let groups ← addToGroup groups k v
    pure (parts.map fun e => if e.1 = p then (p, groups) else e)
  | none =>
    let groups ← addToGroup [] k v
    pure ((parts ++ [(p, groups)]).mergeSort fun a b => decide (a.1 ≤ b.1))

/-- Sorts keyed records by key with the language's `<`, stably. -/
def sortByKey {β : Type} (records : List (Value × β)) : Act (List (Value × β)) :=
  reading fun h => sortBy (fun a b => a.1.compare h .lt b.1) records

/-- Runs a stage over its inputs with `splits` splits and partitions. -/
def runStage (inputs : List StageInput) (reducer : Reducer) (combiner : Option Reducer)
    (splits : Int) : Act (List (Value × Value)) := do
  let tasks ← inputs.mapM fun input => do
    let records ← input.records.elements
    pure ((Batch.splitRecords records splits).map fun split => (input.mapper, split))
  let outputs ← tasks.flatten.mapM fun (mapper, split) => mapSplit mapper combiner split
  let parts ← outputs.flatten.foldlM (shuffleInto splits) []
  let sorted ← parts.mapM fun (_, groups) => sortByKey groups
  let reduced ← sorted.mapM (reduceGroups reducer)
  sortByKey reduced.flatten

end ItemRecommender.Object
