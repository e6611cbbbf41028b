import ItemRecommender.Object.Arithmetic
/-! # Maps and sets of objects

    A map holds its entries in insertion order and each key once. Finding a key hashes it and
    compares it with the stored keys of the same hash, so a key that cannot be hashed fails
    before any comparison. Putting a key that is there replaces the value and keeps the stored
    key; a new key goes last. A set keeps the first of equal members, in the slots of its table
(`Table`).

    A value may be read as a map (`Value.mapEntries`): a map of any kind, or the map a wrapper
    holds. Subscripting (`Value.getItem`) finds a key of a map, or an element of a sequence by
    position. -/

namespace ItemRecommender.Object

/-- The value under a key among entries, comparing the key with every stored key of its hash. -/
def findEntry (h : Heap) (es : List (Value × Value)) (k : Value) :
    Except Raised (Option Value) := do
  let hk ← k.hash h
  let rec go : List (Value × Value) → Except Raised (Option Value)
    | [] => pure none
    | (k', v) :: rest => do
      if (← k'.hash h) == hk then
        if ← k'.equals h k then return some v
      go rest
  go es

/-- Entries with a key put under a value: the value of an equal key is replaced, the stored key
kept; a new key goes last. -/
def putEntry (h : Heap) (es : List (Value × Value)) (k v : Value) :
    Except Raised (List (Value × Value)) := do
  let hk ← k.hash h
  let rec go : List (Value × Value) → Except Raised (Option (List (Value × Value)))
    | [] => pure none
    | (k', v') :: rest => do
      if (← k'.hash h) == hk then
        if ← k'.equals h k then return some ((k', v) :: rest)
      match ← go rest with
      | some rest' => pure (some ((k', v') :: rest'))
      | none => pure none
  match ← go es with
  | some es' => pure es'
  | none => pure (es ++ [(k, v)])

/-- Whether a set's members hold one equal to `x`, which must be hashable. -/
def hasMember (h : Heap) (xs : List Value) (x : Value) : Except Raised Bool := do
  let hx ← x.hash h
  xs.anyM fun y => do
    if (← y.hash h) == hx then y.equals h x else pure false

/-- A set's table with `x` added unless an equal member is there. -/
def addMember (h : Heap) (t : Table Value) (x : Value) : Except Raised (Table Value) := do
  t.add (fun y x => y.equals h x) (← x.hash h) x

/-- The table of a set built from values in order. -/
def tableOf (h : Heap) (items : List Value) : Except Raised (Table Value) :=
  items.foldlM (addMember h) Table.empty

/-- The frozen set of a table. -/
def Table.frozen (t : Table Value) : Value := .frozenset t.members t.layout

/-- The set cell of a table. -/
def Table.cell (t : Table Value) : Cell := .set t.members t.layout

/-- A table with the members of an iterable added, as updating a set adds them: another set is
merged, the keys of a plain map are added after growing the table for all of them, and the
elements of any other iterable are hashed and added one by one, so that an element that cannot
be hashed fails before an iterator's own error. -/
def Table.update (t : Table Value) (v : Value) : Act (Table Value) := do
  let h ← get
  let eq : Value → Value → Except Raised Bool := fun y x => y.equals h x
  let addEach (items : List Value) : Act (Table Value) :=
    reading fun h => items.foldlM (addMember h) t
  match v with
  | .frozenset xs l => reading fun _ => t.merge eq (Table.ofLayout xs l)
  | .ref a =>
    match h.get a with
    | .set xs l => reading fun _ => t.merge eq (Table.ofLayout xs l)
    | .dict cls es _ =>
      if cls = builtin "dict" then
        reading fun h => do t.addKeys eq (← es.mapM fun (k, _) => do pure (← k.hash h, k))
      else addEach (← v.elements)
    | .iterator .. =>
      let s ← v.source
      let t ← addEach (← s.take (← s.count))
      let _ ← s.take 1
      pure t
    | _ => addEach (← v.elements)
  | _ => addEach (← v.elements)

/-- Puts a key and value into the map at an address. -/
def Value.putItem (target k v : Value) : Act Unit := do
  let h ← get
  match target with
  | .ref a =>
    match h.get a with
    | .dict cls es factory =>
      let es ← reading fun h => putEntry h es k v
      store a (.dict cls es factory)
    | _ => throw ⟨"TypeError", "'" ++ target.typeName h ++ "' object does not support item assignment"⟩
  | _ => throw ⟨"TypeError", "'" ++ target.typeName h ++ "' object does not support item assignment"⟩

/-- The entries of a value read as a map: a map's own, or those of the map a wrapper holds. -/
def Value.mapEntries? (h : Heap) (v : Value) : Option (List (Value × Value)) :=
  match v with
  | .ref a =>
    match h.get a with
    | .dict _ es _ => some es
    | .object cls _ attrs =>
      if cls = mapWrapper then
        match attrs.lookup "data" with
        | some (.ref d) =>
          match h.get d with
          | .dict _ es _ => some es
          | _ => Option.none
        | _ => Option.none
      else Option.none
    | _ => Option.none
  | _ => Option.none

/-- The error of a missing key: the key is the error's argument, and its words are the key's
representation, which may itself fail to be written. -/
def missingKey (h : Heap) (k : Value) : Raised :=
  match k.repr h with
  | .ok s => ⟨"KeyError", s⟩
  | .error r => ⟨"KeyError", .unwritable r.kind r.message.shown⟩

/-- The index a value stands for in a sequence of a kind. -/
def indexOf (h : Heap) (kind : String) (k : Value) : Except Raised Int :=
  match k with
  | .bool b => pure (if b then 1 else 0)
  | .int i =>
    if (maxLength : Int) < i ∨ i < -(maxLength : Int) - 1 then
      throw ⟨"IndexError", "cannot fit 'int' into an index-sized integer"⟩
    else pure i
  | _ =>
    if kind = "string" then
      throw ⟨"TypeError", "string indices must be integers, not '" ++ k.typeName h ++ "'"⟩
    else throw ⟨"TypeError", kind ++ " indices must be integers or slices, not " ++ k.typeName h⟩

/-- A position `i` of a sequence of length `n`, counted from the end when negative. -/
def position? (i : Int) (n : Nat) : Option Nat :=
  let j := if i < 0 then i + n else i
  if 0 ≤ j ∧ j < n then some j.toNat else none

/-- The element at a position of a sequence of a kind. -/
def elementAt (h : Heap) (kind : String) (xs : List Value) (k : Value) : Except Raised Value := do
  let i ← indexOf h kind k
  match position? i xs.length with
  | some j => pure (xs.getD j .none)
  | none => throw ⟨"IndexError", kind ++ " index out of range"⟩

/-- The value a container holds under a key. -/
def Value.getItem (container k : Value) : Act Value := do
  let h ← get
  match container with
  | .tuple xs | .named _ _ xs => reading fun h => elementAt h "tuple" xs k
  | .str s => reading fun h => elementAt h "string" (s.toList.map fun c => .str (String.singleton c)) k
  | .ref a =>
    match h.get a with
    | .list xs => reading fun h => elementAt h "list" xs k
    | .dict _ es _ =>
      match ← reading fun h => findEntry h es k with
      | some v => pure v
      | Option.none => throw (missingKey h k)
    | .object cls _ _ =>
      if cls = mapWrapper then
        match container.mapEntries? h with
        | some es =>
          match ← reading fun h => findEntry h es k with
          | some v => pure v
          | Option.none => throw (missingKey h k)
        | Option.none => throw ⟨"AttributeError", "'UserDict' object has no attribute 'data'"⟩
      else throw ⟨"TypeError", "'" ++ container.typeName h ++ "' object is not subscriptable"⟩
    | _ => throw ⟨"TypeError", "'" ++ container.typeName h ++ "' object is not subscriptable"⟩
  | _ => throw ⟨"TypeError", "'" ++ container.typeName h ++ "' object is not subscriptable"⟩

/-- The entries of a map built from a value: the entries of a map, or the pairs that iterating
the value gives, each of which must have exactly two elements. -/
def Value.entriesFrom (v : Value) : Act (List (Value × Value)) := do
  let h ← get
  match v.mapEntries? h with
  | some es => es.foldlM (fun acc (k, x) => reading fun h => putEntry h acc k x) []
  | Option.none =>
    let items ← v.elements
    let rec pairs : Nat → List Value → List (Value × Value) → Act (List (Value × Value))
      | _, [], acc => pure acc
      | i, x :: rest, acc => do
        let h ← get
        match sourceIn h nestingLimit x with
        | .error _ =>
          throw ⟨"TypeError", "cannot convert dictionary update sequence element #" ++
            toString i ++ " to a sequence"⟩
        | .ok _ =>
          let parts ← x.elements
          match parts with
          | [k, y] =>
            let acc ← reading fun h => putEntry h acc k y
            pairs (i + 1) rest acc
          | _ =>
            throw ⟨"ValueError", "dictionary update sequence element #" ++ toString i ++
              " has length " ++ toString parts.length ++ "; 2 is required"⟩
    pairs 0 items []

end ItemRecommender.Object
