import ItemRecommender.Object.Library.Arguments
/-! # Folding and copying

    Folding an iterable with a function of two arguments calls it on the result so far and each
    item in turn, starting from the first item or from the initial value given. The items of
    an iterator are drawn as the calls go, so an iterator that fails fails after the calls on
    the items before its failure.

    A shallow copy of a value makes a new list, map, set, byte array, object or iterator with
    the same contents; a value that cannot change is its own copy. A deep copy copies the
    contents as well, each container once however often it is reached, so shared and cyclic
    structures keep their shape. -/

namespace ItemRecommender.Object

open ItemRecommender.Text

/-- The items of a source, and the error an iterator raises after them; an iterator is used
up. -/
def Source.itemsThenFault (s : Source) : Act (List Value × Option Raised) := do
  match s with
  | .iterator a =>
    match ← cellAt a with
    | .iterator kind pending fault =>
      store a (.iterator kind [] none)
      pure (pending, fault)
    | _ => pure ([], none)
  | s => do pure (← s.take ((← s.count) + 1), none)

/-- An iterable folded by a function of two arguments, from an initial value if one is given. -/
def foldIterable (call : Value → List Value → Act Value) (f iterable : Value)
    (initial : Option Value) : Act Value := do
  let s ← (fun h => match iterable.source h with
    | .ok r => .ok r
    | .error _ => .error ⟨"TypeError", "reduce() arg 2 must support iteration"⟩ : Act Source)
  let (items, fault) ← s.itemsThenFault
  let folded ← items.foldlM (fun acc x => do
    match acc with
    | none => pure (some x)
    | some a => pure (some (← call f [a, x]))) initial
  if let some e := fault then throw e
  match folded with
  | some v => pure v
  | none => throw ⟨"TypeError", "reduce() of empty iterable with no initial value"⟩

/-- A shallow copy of a value. -/
def shallowCopy (v : Value) : Act Value := do
  let h ← get
  match v with
  | .ref a =>
    match h.get a with
    | .iterator kind pending fault =>
      if kind.startsWith "generator" then
        throw ⟨"TypeError", "cannot pickle 'generator' object"⟩
      else allocate (.iterator kind pending fault)
    | c => allocate c
  | _ => pure v

/-- Copies of values, deep: `memo` pairs each address copied with the address of its copy,
and `fuel` bounds the depth. -/
def deepCopyIn : Nat → Value → StateT (List (Nat × Nat)) Act Value
  | 0, _ => throw (nestingFault " while calling a Python object")
  | fuel + 1, v => do
    match v with
    | .tuple xs => do pure (.tuple (← xs.mapM (deepCopyIn fuel)))
    | .frozenset xs l => do pure (.frozenset (← xs.mapM (deepCopyIn fuel)) l)
    | .ref a =>
      match (← get).lookup a with
      | some b => pure (.ref b)
      | none =>
        let h ← getThe Heap
        let cell := h.get a
        match cell with
        | .iterator kind _ _ =>
          if kind.startsWith "generator" then
            throw ⟨"TypeError", "cannot pickle 'generator' object"⟩
        | _ => pure ()
        let copy ← allocate cell
        let b := match copy with
          | .ref b => b
          | _ => a
        modify ((a, b) :: ·)
        let made ← match cell with
          | .list xs => do pure (Cell.list (← xs.mapM (deepCopyIn fuel)))
          | .dict cls es factory => do
            pure (.dict cls (← es.mapM fun (k, x) => do pure (← deepCopyIn fuel k, ← deepCopyIn fuel x))
              (← deepCopyIn fuel factory))
          | .set xs l => do pure (.set (← xs.mapM (deepCopyIn fuel)) l)
          | .object cls args attrs => do
            pure (.object cls (← args.mapM (deepCopyIn fuel))
              (← attrs.mapM fun (k, x) => do pure (k, ← deepCopyIn fuel x)))
          | .iterator kind pending fault => do
            pure (.iterator kind (← pending.mapM (deepCopyIn fuel)) fault)
          | c => pure c
        store b made
        pure (.ref b)
    | _ => pure v

/-- A deep copy of a value. -/
def deepCopy (v : Value) : Act Value := do
  let (copy, _) ← (deepCopyIn nestingLimit v).run []
  pure copy

/-- A function of the folding and copying modules, applied, or `none` for a name they do not
have. -/
def foldingFunction (call : Value → List Value → Act Value) (m name : String)
    (args : List Value) (kwargs : List (String × Value)) : Option (Act Value) :=
  if m = "functools" ∨ m = "_functools" then
    match name with
    | "reduce" => some do
      if !kwargs.isEmpty then throw (keywordsRefused "reduce")
      if let some e := countFault "reduce" 2 3 args.length then throw e
      match args with
      | f :: it :: rest => foldIterable call f it rest.head?
      | _ => pure .none
    | _ => none
  else if m = "copy" then
    match name with
    | "copy" => some do
      match ← reading fun _ => bindParameters "copy()" [required "x"] args kwargs with
      | [some x] => shallowCopy x
      | _ => pure .none
    | "deepcopy" => some do
      match ← reading fun _ => bindParameters "deepcopy()"
          [required "x", optional "memo", optional "_nil"] args kwargs with
      | [some x, _, _] => deepCopy x
      | _ => pure .none
    | _ => none
  else none

end ItemRecommender.Object
