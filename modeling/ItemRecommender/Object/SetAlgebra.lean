import ItemRecommender.Object.Mapping
/-! # Union, intersection and differences of sets

    The operators `|`, `&`, `-` and `^` of two sets or frozen sets, and their in-place forms on
    a set. The result is of the left operand's kind, and its members sit in the slots the
    language's own algorithm puts them in, so that iterating it gives them in the same order:

    * the union is a copy of the left set with the right one merged into it;
    * the intersection walks the smaller set and adds each member the larger one holds, so
      its members are those of the smaller;
    * the difference copies the left set and removes the right one's members when the left is
      more than four times as large, and otherwise walks the left set adding the members the
      right one lacks;
    * the symmetric difference copies the right set and walks the left one, removing each
      member it finds there and adding each it does not.

    The in-place forms change the left set: a union merges, a difference removes, a symmetric
    difference removes or adds member by member, and an intersection replaces the table with
    the intersection's. -/

namespace ItemRecommender.Object

/-- An operation of two sets. -/
inductive SetOperation where
  | union
  | intersection
  | difference
  | symmetricDifference
  deriving DecidableEq, Repr

/-- The table of a set or frozen set, and whether it is frozen. -/
def setTable? (h : Heap) (v : Value) : Option (Bool × Table Value) :=
  match v with
  | .frozenset xs l => some (true, Table.ofLayout xs l)
  | .ref a =>
    match h.get a with
    | .set xs l => some (false, Table.ofLayout xs l)
    | _ => none
  | _ => none

namespace SetOperation

/-- The table of the operation on two tables, as a new set. -/
def apply (h : Heap) (op : SetOperation) (a b : Table Value) : Except Raised (Table Value) :=
  let eq : Value → Value → Except Raised Bool := fun y x => y.equals h x
  match op with
  | .union => (Table.copy a).merge eq b
  | .intersection =>
    let (large, small) := if b.size > a.size then (b, a) else (a, b)
    small.entries.foldlM (fun acc (_, k, x) => do
      match ← large.probe eq k x with
      | .equal _ => acc.add eq k x
      | _ => pure acc) Table.empty
  | .difference =>
    if a.size / 4 > b.size then
      b.entries.foldlM (fun acc (_, k, x) => do pure (← acc.discard eq k x).1) (Table.copy a)
    else
      a.entries.foldlM (fun acc (_, k, x) => do
        match ← b.probe eq k x with
        | .equal _ => pure acc
        | _ => acc.add eq k x) Table.empty
  | .symmetricDifference =>
    a.entries.foldlM (fun acc (_, k, x) => do
      let (removed, found) ← acc.discard eq k x
      if found then pure removed else acc.add eq k x) (Table.copy b)

/-- The table of the operation done in place on the left table. -/
def applyInPlace (h : Heap) (op : SetOperation) (a b : Table Value) :
    Except Raised (Table Value) :=
  let eq : Value → Value → Except Raised Bool := fun y x => y.equals h x
  match op with
  | .union => a.merge eq b
  | .intersection => op.apply h a b
  | .difference =>
    b.entries.foldlM (fun acc (_, k, x) => do pure (← acc.discard eq k x).1) a
  | .symmetricDifference =>
    b.entries.foldlM (fun acc (_, k, x) => do
      let (removed, found) ← acc.discard eq k x
      if found then pure removed else acc.add eq k x) a

end SetOperation

/-- The operation on two values, when both are sets: a new set of the left one's kind. -/
def Value.combineSets (op : SetOperation) (a b : Value) : Act (Option Value) := do
  let h ← get
  match setTable? h a, setTable? h b with
  | some (frozen, ta), some (_, tb) =>
    let t ← reading fun h => op.apply h ta tb
    if frozen then pure (some t.frozen) else do pure (some (← allocate t.cell))
  | _, _ => pure Option.none

/-- The operation done in place on the left value when both are sets: a set changes and is the
result, a frozen set gives a new one. -/
def Value.combineSetsInPlace (op : SetOperation) (a b : Value) : Act (Option Value) := do
  let h ← get
  match a, setTable? h a, setTable? h b with
  | .ref address, some (false, ta), some (_, tb) =>
    let t ← reading fun h => op.applyInPlace h ta tb
    store address t.cell
    pure (some a)
  | _, _, _ => a.combineSets op b

end ItemRecommender.Object
