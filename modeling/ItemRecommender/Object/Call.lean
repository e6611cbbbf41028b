import ItemRecommender.Object.Construct
import ItemRecommender.Object.Division
import ItemRecommender.Object.Operator
import ItemRecommender.Object.Reflection
import ItemRecommender.Object.Conversion
import ItemRecommender.Object.Sort
import ItemRecommender.Object.RealFunctions
import ItemRecommender.Object.Library
/-! # Calling the globals a dataset names

    A dataset may call a class or function it names with positional and keyword arguments
    (`Value.call`), make an object of a class without initialising it (`Name.instantiate`), and
    set the state of an object it made (`Value.setState`).

    * Calling a class makes an object of it from the arguments (`Object.Construct`); the
      iterators the core makes (`zip`, `map`, `filter`, `enumerate`, `reversed`, `iter`) are
      made at once, holding what they will give, and an error a function raises on the way
      waits at the end of them until they are iterated that far.
    * The functions of the core compute as the core does (`len`, `abs`, `sorted`, `min`,
      `max`, `sum`, `round`, `getattr`, `next`, ...), and so do a few of other modules: the
      operators, the text encoder, the JSON reader, the path joiner, the reconstructors that
      datasets use to make objects, and the pipeline's own helpers.
    * Making an object without initialising it gives an empty container, or an object without
      attributes, for the classes whose initialiser fills them; for the others it is a call.
    * Setting an object's state puts the entries of a map into its attributes.

    A call that calls back (a function given to `map` or `sorted`) is one level deeper; `fuel`
    bounds the depth. -/

namespace ItemRecommender.Object

open ItemRecommender.Text

/-- Keyword arguments, in order. -/
abbrev Keywords := List (String × Value)

/-- The error of calling a value that cannot be called. -/
def notCallable (h : Heap) (v : Value) : Raised :=
  ⟨"TypeError", "'" ++ v.typeName h ++ "' object is not callable"⟩

/-- The error of a function of the core given the wrong number of arguments. -/
def exactlyOne (what : String) (got : Nat) : Raised :=
  ⟨"TypeError", what ++ "() takes exactly one argument (" ++ toString got ++ " given)"⟩

/-- Makes an iterator of a kind that gives some values and then, if it has one, raises an
error. -/
def newIterator (kind : String) (pending : List Value) (fault : Option Raised) : Act Value :=
  allocate (.iterator kind pending fault)

/-- Maps a fallible function over values until it fails: the results before the failure, and
the failure. -/
def mapUntilFault {α : Type} (f : α → Act Value) : List α → Act (List Value × Option Raised)
  | [] => pure ([], none)
  | x :: rest => fun h =>
    match f x h with
    | .ok (y, h') =>
      match mapUntilFault f rest h' with
      | .ok ((ys, fault), h'') => .ok ((y :: ys, fault), h'')
      | .error e => .error e
    | .error e => .ok (([], some e), h)

/-- The values of calling a function until it returns a value equal to `sentinel`, at most
`fuel` times; an error of a call or of a comparison waits at the end. -/
def callsUntil (call : Act Value) (sentinel : Value) : Nat → Act (List Value × Option Raised)
  | 0 => pure ([], none)
  | fuel + 1 => fun h =>
    match call h with
    | .ok (v, h') =>
      match v.equals h' sentinel with
      | .ok true => .ok (([], none), h')
      | .ok false =>
        match callsUntil call sentinel fuel h' with
        | .ok ((vs, fault), h'') => .ok ((v :: vs, fault), h'')
        | .error e => .error e
      | .error e => .ok (([], some e), h')
    | .error e => .ok (([], some e), h)

/-- The most calls an iterator of calls makes. -/
def callBound : Nat := 4096

/-- The elements of each of some iterables, cut to the shortest, as the language's `zip`
takes them: an iterator before the shortest gives one element more, which is lost. -/
def zipElements (args : List Value) : Act (List (List Value)) := do
  let sources ← args.mapM Value.source
  let lengths : List Nat ← sources.mapM Source.count
  match lengths.min? with
  | none => pure []
  | some n =>
    if memoryBound < n then throw memoryFault
    let first := (lengths.findIdx? (· = n)).getD 0
    let columns ← (sources.zipIdx).mapM fun (s, i) => do
      match s with
      | .iterator _ => do
        let taken ← s.take (if i < first then n + 1 else n)
        pure (taken.take n)
      | _ => s.take n
    pure ((List.range n).map fun j => columns.map fun c => c.getD j .none)

/-- The kind of iterator that iterating a value gives. -/
def iteratorKind (h : Heap) (v : Value) : Except Raised String :=
  match v with
  | .str s => pure (if s.toList.all (fun c => c.toNat < 128) then "str_ascii_iterator" else "str_iterator")
  | .bytes _ => pure "bytes_iterator"
  | .tuple _ | .named .. => pure "tuple_iterator"
  | .frozenset .. => pure "set_iterator"
  | .range _ _ _ => pure "range_iterator"
  | .ref a =>
    match h.get a with
    | .list _ => pure "list_iterator"
    | .dict _ _ _ => pure "dict_keyiterator"
    | .set .. => pure "set_iterator"
    | .bytearray _ => pure "bytearray_iterator"
    | .object cls _ _ => if cls = mapWrapper then pure "generator" else throw (notIterable h v)
    | .iterator kind _ _ => pure kind
  | _ => throw (notIterable h v)

/-- The kind of iterator that reversing a value gives, if it can be reversed. -/
def reversedKind (h : Heap) (v : Value) : Except Raised String :=
  match v with
  | .str _ | .bytes _ | .tuple _ | .named .. => pure "reversed"
  | .range _ _ _ => pure "range_iterator"
  | .ref a =>
    match h.get a with
    | .list _ => pure "list_reverseiterator"
    | .dict cls _ _ => pure (if cls = orderedMap then "odict_iterator" else "dict_reversekeyiterator")
    | .bytearray _ => pure "reversed"
    | _ => throw ⟨"TypeError", "'" ++ v.typeName h ++ "' object is not reversible"⟩
  | _ => throw ⟨"TypeError", "'" ++ v.typeName h ++ "' object is not reversible"⟩

/-- A double rounded to `digits` decimal places, the half going to the even neighbour. Past
323 places a double is left as it is, and before 308 places to the left of the point it
becomes a zero of its sign; a result too large for a double is an error. -/
def roundFloat (x : Float) (digits : Int) : Except Raised Float :=
  if x.isNaN || x.isInf || x == 0 || 323 < digits then pure x
  else if digits < -308 then pure (if x < 0 then -0.0 else 0.0)
  else
    match Exact.ofFloat x with
    | .ratio p q =>
      let (num, den) : Int × Nat :=
        if 0 ≤ digits then (p * Nat.pow 10 digits.toNat, q) else (p, q * Nat.pow 10 (-digits).toNat)
      let m := roundHalfEven num den
      let r :=
        if 0 ≤ digits then ratioToFloat (m < 0) m.natAbs (Nat.pow 10 digits.toNat)
        else ratioToFloat (m < 0) (m.natAbs * Nat.pow 10 (-digits).toNat) 1
      if r.isInf then throw ⟨"OverflowError", "rounded value too large to represent"⟩
      else pure (if r == 0 && x < 0 then -0.0 else r)
    | _ => pure x
where
  /-- The integer nearest to `num / den`, a half going to the even one. -/
  roundHalfEven (num : Int) (den : Nat) : Int :=
    let q := num / den
    let r := num - q * den
    if 2 * r > den ∨ (2 * r = den ∧ q % 2 = 1) then q + 1 else q

/-- A number rounded to an integer, a half going to the even one. -/
def roundToInt (h : Heap) (v : Value) : Except Raised Value := do
  let half (p : Int) (q : Nat) : Int := roundFloat.roundHalfEven p q
  match v with
  | .bool b => pure (.int (if b then 1 else 0))
  | .int i => pure (.int i)
  | .float x | .double x =>
    if x.isNaN then throw ⟨"ValueError", "cannot convert float NaN to integer"⟩
    else if x.isInf then throw ⟨"OverflowError", "cannot convert float infinity to integer"⟩
    else
      match Exact.ofFloat x with
      | .ratio p q => pure (.int (half p q))
      | _ => pure (.int 0)
  | .fraction p q => pure (.int (half p q))
  | .decimal d =>
    match d with
    | .nan .. => throw ⟨"ValueError", "cannot round a NaN"⟩
    | .infinite _ => throw ⟨"OverflowError", "cannot round an infinity"⟩
    | .finite .. =>
      match d.toExact with
      | .ratio p q => pure (.int (half p q))
      | _ => pure (.int 0)
  | _ => throw ⟨"TypeError", "type " ++ v.typeName h ++ " doesn't define __round__ method"⟩

/-- A number rounded to some decimal places. -/
def roundTo (h : Heap) (v : Value) (digits : Int) : Except Raised Value :=
  match v with
  | .bool b => pure (.int (if b then 1 else 0))
  | .int i =>
    if 0 ≤ digits then pure (.int i)
    else
      let scale := Nat.pow 10 (-digits).toNat
      pure (.int (roundFloat.roundHalfEven i scale * scale))
  | .float x => do pure (.float (← roundFloat x digits))
  | .double x => do pure (.double (← roundFloat x digits))
  | .fraction p q =>
    if 0 ≤ digits then
      let scale := Nat.pow 10 digits.toNat
      pure (makeFraction (roundFloat.roundHalfEven (p * scale) q) scale)
    else
      let scale := Nat.pow 10 (-digits).toNat
      pure (makeFraction (roundFloat.roundHalfEven p (q * scale) * scale) 1)
  | .decimal d => do pure (.decimal (← d.quantize (-digits)))
  | _ => throw ⟨"TypeError", "type " ++ v.typeName h ++ " doesn't define __round__ method"⟩

/-- The map from item id to index of an item table: each record unpacked into an index and an
item id. -/
def itemIndexOf (table : Value) : Act (List (Value × Value)) := do
  let rows ← table.elements
  rows.foldlM (fun acc row => do
    let (index, item) ← row.pair
    reading fun h => putEntry h acc item index) []

/-- The map from index to item id of an item table. -/
def indexItemOf (table : Value) : Act (List (Value × Value)) := do
  let rows ← table.elements
  rows.foldlM (fun acc row => do
    let (index, item) ← row.pair
    reading fun h => putEntry h acc index item) []

/-- Sorts values by the language's `<`, stably. -/
def sortValues (xs : List Value) : Act (List Value) :=
  reading fun h => sortBy (fun a b => a.compare h .lt b) xs

/-- The item table of some item ids: the distinct ids in ascending order, numbered from
zero. -/
def assignIndices (ids : Value) : Act Value := do
  let distinct ← Table.empty.update ids
  let sorted ← sortValues distinct.members
  newList (sorted.zipIdx.map fun (x, i) => .tuple [.int i, x])

/-- Whether a slot is the marker of a pruned slot. -/
def isExcludedSlot (v : Value) : Bool :=
  match v with
  | .member c n => c = slotClass && n = "EXCLUDED"
  | _ => false

/-- The classes of the core whose objects are made whole by making them, so that making one
without initialising it is calling it. -/
def madeWhole (cls : Name) : Bool :=
  (cls.module = "builtins" ∧
    ["tuple", "frozenset", "int", "float", "str", "bytes", "complex", "bool", "range", "enumerate",
      "zip", "map", "filter", "reversed", "type"].contains cls.name) ∨
  cls = ⟨"decimal", "Decimal"⟩ ∨ cls = ⟨"fractions", "Fraction"⟩ ∨
  cls = ⟨"numpy", "float64"⟩ ∨ cls = ⟨"numpy", "int64"⟩ ∨ isEnumeration cls ∨
  (namedTupleFields? cls).isSome

/-- The types of the core that make their objects themselves rather than through the root
class; making an object of another type names the root class in its errors. -/
def ownNewTypes : List String :=
  ["NoneType", "bool", "int", "float", "complex", "str", "bytes", "bytearray", "list", "tuple",
    "dict", "set", "frozenset", "range", "slice", "type", "enumerate", "zip", "map", "filter",
    "reversed", "memoryview", "property", "staticmethod", "classmethod", "super", "module"]

/-- An object of a class made without initialising it, for the classes whose initialiser
fills their objects: an empty container, or an object without attributes. Errors keep their
arguments. -/
def blankObject (cls : Name) (args : List Value) : Act Value := do
  if cls = builtin "list" then newList []
  else if cls = builtin "dict" then newDict []
  else if cls = builtin "set" then allocate (.set [] Layout.empty)
  else if cls = builtin "bytearray" then allocate (.bytearray [])
  else if cls = orderedMap ∨ cls = defaultMap then allocate (.dict cls [] .none)
  else if cls = builtin "object" ∧ !args.isEmpty then throw ⟨"TypeError", "object() takes no arguments"⟩
  else if isError cls then allocate (.object cls args [])
  else allocate (.object cls [] [])

/-- Whether an object of class `cls` is an instance of a class, or of any class of a tuple (the
first that holds decides), tuples nested at most `fuel` deep; `none` when what it is checked
against is no class. -/
def isInstance (cls : Name) : Nat → Value → Option Bool
  | 0, _ => none
  | fuel + 1, v =>
    match v with
    | .global n => if n.isClass then some (Name.derivesFrom n 64 cls) else none
    | .tuple xs | .named _ _ xs =>
      (xs.map (isInstance cls fuel)).foldr (fun r later => if r = some false then later else r)
        (some false)
    | _ => none

/-- Calls a value with arguments, calls back at most `fuel` levels deep. -/
def callIn : Nat → Value → List Value → Keywords → Act Value
  | 0, _, _, _ => throw (nestingFault " while calling a Python object")
  | fuel + 1, f, args, kwargs => do
    let h ← get
    let call (g : Value) (xs : List Value) : Act Value := callIn fuel g xs []
    let noKw (what : String) : Act Unit := if kwargs.isEmpty then pure () else throw (noKeywords what)
    let instantiate (cls : Name) (xs : List Value) (kws : Keywords) : Act Value :=
      if madeWhole cls then callIn fuel (.global cls) xs kws else blankObject cls xs
    -- the least (`lt`) or greatest (`gt`) of the arguments, or of the elements of the only one
    let extreme (what : String) (op : Comparison) : Act Value := do
      let items ← match args with
        | [x] => x.elements
        | [] => throw ⟨"TypeError", what ++ " expected at least 1 argument, got 0"⟩
        | xs => pure xs
      let keyOf (v : Value) : Act Value :=
        match kwargs.lookup "key" with
        | some .none | none => pure v
        | some g => call g [v]
      match items with
      | [] =>
        match kwargs.lookup "default" with
        | some d => pure d
        | none => throw ⟨"ValueError", what ++ "() arg is an empty sequence"⟩
      | first :: rest => do
        let k0 ← keyOf first
        let (best, _) ← rest.foldlM (fun (best, bk) v => do
          let k ← keyOf v
          if ← reading fun h => k.compare h op bk then pure (v, k) else pure (best, bk)) (first, k0)
        pure best
    match f with
    | .global n =>
      let m := n.module
      let name := n.name
      if name.endsWith ".__new__" then
        let owner : Name := ⟨m, (name.dropEnd 8).toString⟩
        match args with
        | [] => throw ⟨"TypeError", owner.name ++ ".__new__(): not enough arguments"⟩
        | .global cls :: rest =>
          if cls.isClass then instantiate cls rest kwargs
          else throw ⟨"TypeError", owner.name ++ ".__new__(X): X is not a type object (" ++ cls.typeName ++ ")"⟩
        | x :: _ =>
          throw ⟨"TypeError", owner.name ++ ".__new__(X): X is not a type object (" ++ x.typeName h ++ ")"⟩
      else if m = "builtins" then
        match name, args with
        -- containers
        | "list", _ => do
          noKw "list"
          match args with
          | [] => newList []
          | [x] => do newList (← x.elements)
          | _ => throw (atMostOne "list" args.length)
        | "tuple", _ => do
          noKw "tuple"
          match args with
          | [] => pure (.tuple [])
          | [x] => do pure (.tuple (← x.elements))
          | _ => throw (atMostOne "tuple" args.length)
        | "set", _ => do
          noKw "set"
          match args with
          | [] => allocate (.set [] Layout.empty)
          | [x] => do allocate (← Table.empty.update x).cell
          | _ => throw (atMostOne "set" args.length)
        | "frozenset", _ => do
          noKw "frozenset"
          match args with
          | [] => pure (.frozenset [] Layout.empty)
          | [x@(.frozenset ..)] => pure x
          | [x] => do pure (← Table.empty.update x).frozen
          | _ => throw (atMostOne "frozenset" args.length)
        | "dict", _ => do
          let es ← match args with
            | [] => pure []
            | [x] => x.entriesFrom
            | _ => throw (atMostOne "dict" args.length)
          let es ← kwargs.foldlM (fun acc (k, v) => reading fun h => putEntry h acc (.str k) v) es
          newDict es
        | "dict.fromkeys", x :: rest => do
          let keys ← x.elements
          let v := rest.headD .none
          let es ← keys.foldlM (fun acc k => reading fun h => putEntry h acc k v) []
          newDict es
        | "bytes", [] => pure (.bytes [])
        | "bytes", [x] => do pure (.bytes (← bytesFrom "bytes" x))
        | "bytes", x :: enc :: _ => do
          match x with
          | .str s => reading fun h => do pure (.bytes (← (← encodingOf h enc).encode s))
          | _ => throw ⟨"TypeError", "encoding without a string argument"⟩
        | "bytearray", [] => allocate (.bytearray [])
        | "bytearray", [x] => do allocate (.bytearray (← bytesFrom "bytearray" x))
        | "bytearray", x :: enc :: _ => do
          match x with
          | .str s => do
            let bs ← reading fun h => do (← encodingOf h enc).encode s
            allocate (.bytearray bs)
          | _ => throw ⟨"TypeError", "encoding without a string argument"⟩
        -- numbers and texts
        | "str", _ => textFrom args
        | "int", [] => pure (.int 0)
        | "int", [x] => do pure (.int (← x.toInt))
        | "int", x :: base :: _ => reading fun h => do pure (.int (← intInBase h x base))
        | "float", [] => pure (.float 0.0)
        | "float", [x] => do pure (.float (← x.toFloat))
        | "float", _ => throw ⟨"TypeError", "float expected at most 1 argument, got " ++ toString args.length⟩
        | "bool", [] => pure (.bool false)
        | "bool", [x] => do pure (.bool (← x.truthy))
        | "bool", _ => throw ⟨"TypeError", "bool expected at most 1 argument, got " ++ toString args.length⟩
        | "complex", _ => complexFrom args
        | "range", _ => rangeFrom args
        | "object", [] => allocate (.object (builtin "object") [] [])
        | "object", _ => throw ⟨"TypeError", "object() takes no arguments"⟩
        | "type", [x] => pure (.global (x.classOf h))
        | "type", [] | "type", [_, _] => throw ⟨"TypeError", "type() takes 1 or 3 arguments"⟩
        | "isinstance", [x, cls] => do
          let some found := isInstance (x.classOf h) nestingLimit cls
            | throw ⟨"TypeError", "isinstance() arg 2 must be a type, a tuple of types, or a union"⟩
          pure (.bool found)
        | "isinstance", _ =>
          throw ⟨"TypeError", "isinstance expected 2 arguments, got " ++ toString args.length⟩
        -- iterators
        | "iter", [x] => do
          match x with
          | .ref a =>
            match h.get a with
            | .iterator .. => pure x
            | _ => do
              let kind ← reading fun h => iteratorKind h x
              newIterator kind (← x.elements) none
          | _ => do
            let kind ← reading fun h => iteratorKind h x
            newIterator kind (← x.elements) none
        | "iter", [g, sentinel] => do
          if !(g.isCallable h) then throw ⟨"TypeError", "iter(v, w): v must be callable"⟩
          let (values, fault) ← callsUntil (call g []) sentinel callBound
          newIterator "callable_iterator" values fault
        | "iter", [] => throw ⟨"TypeError", "iter expected at least 1 argument, got 0"⟩
        | "iter", _ :: _ :: _ :: _ =>
          throw ⟨"TypeError", "iter expected at most 2 arguments, got " ++ toString args.length⟩
        | "next", [] => throw ⟨"TypeError", "next expected at least 1 argument, got 0"⟩
        | "next", _ :: _ :: _ :: _ =>
          throw ⟨"TypeError", "next expected at most 2 arguments, got " ++ toString args.length⟩
        | "next", it :: rest => do
          match it with
          | .ref a =>
            match h.get a with
            | .iterator .. => do
              match ← drawFrom a 1 with
              | [x] => pure x
              | _ =>
                match rest with
                | d :: _ => pure d
                | [] => throw ⟨"StopIteration", ""⟩
            | _ => throw ⟨"TypeError", "'" ++ it.typeName h ++ "' object is not an iterator"⟩
          | _ => throw ⟨"TypeError", "'" ++ it.typeName h ++ "' object is not an iterator"⟩
        | "zip", _ => do
          let rows ← zipElements args
          newIterator "zip" (rows.map Value.tuple) none
        | "enumerate", _ :: _ :: _ :: _ =>
          throw ⟨"TypeError", "enumerate() takes at most 2 arguments (" ++ toString args.length ++ " given)"⟩
        | "enumerate", x :: rest => do
          let start ← match rest, kwargs.lookup "start" with
            | s :: _, _ => reading fun h => asIndex h s
            | [], some s => reading fun h => asIndex h s
            | [], none => pure 0
          let items ← x.elements
          newIterator "enumerate" (items.zipIdx.map fun (v, i) => .tuple [.int (start + i), v]) none
        | "enumerate", [] => throw ⟨"TypeError", "enumerate() missing required argument 'iterable'"⟩
        | "reversed", [x] => do
          let kind ← reading fun h => reversedKind h x
          newIterator kind (← x.elements).reverse none
        | "reversed", _ => throw ⟨"TypeError", "reversed expected 1 argument, got " ++ toString args.length⟩
        | "map", g :: its@(_ :: _) => do
          let rows ← zipElements its
          let (results, fault) ← mapUntilFault (fun row => callIn fuel g row []) rows
          newIterator "map" results fault
        | "map", _ => throw ⟨"TypeError", "map() must have at least two arguments."⟩
        | "filter", [g, x] => do
          let items ← x.elements
          let (flags, fault) ← mapUntilFault (fun v => do
            let r ← match g with
              | .none => pure v
              | _ => call g [v]
            pure (.bool (← r.truthy))) items
          let kept := (items.zip flags).filterMap fun (v, b) =>
            match b with
            | .bool true => some v
            | _ => Option.none
          newIterator "filter" kept fault
        | "filter", _ => throw ⟨"TypeError", "filter expected 2 arguments, got " ++ toString args.length⟩
        -- functions
        | "len", [x] => do noKw "len"; pure (.int (← x.length))
        | "len", _ => throw (exactlyOne "len" args.length)
        | "abs", [x] => x.magnitude
        | "abs", _ => throw (exactlyOne "abs" args.length)
        | "repr", [x] => reading fun h => do pure (.str (← x.repr h))
        | "repr", _ => throw (exactlyOne "repr" args.length)
        | "hash", [x] => reading fun h => do pure (.int (← x.hash h))
        | "hash", _ => throw (exactlyOne "hash" args.length)
        | "chr", [x] => do
          let i ← reading fun h => asIndex h x
          if i < -Int.ofNat (Nat.pow 2 31) ∨ Int.ofNat (Nat.pow 2 31) ≤ i then
            throw ⟨"OverflowError", "Python int too large to convert to C int"⟩
          if i < 0 ∨ 0x110000 ≤ i then throw ⟨"ValueError", "chr() arg not in range(0x110000)"⟩
          let c := ofCodePoint i.toNat
          pure (.str (String.singleton c))
        | "ord", [x] => do
          match x with
          | .str s =>
            match s.toList with
            | [c] => pure (.int (codePoint c))
            | cs => throw ⟨"TypeError", "ord() expected a character, but string of length " ++
                toString cs.length ++ " found"⟩
          | _ =>
            match bytesOf? h x with
            | some [b] => pure (.int b.toNat)
            | some bs => throw ⟨"TypeError", "ord() expected a character, but string of length " ++
                toString bs.length ++ " found"⟩
            | none => throw ⟨"TypeError", "ord() expected string of length 1, but " ++ x.typeName h ++ " found"⟩
        | "chr", _ => throw (exactlyOne "chr" args.length)
        | "ord", _ => throw (exactlyOne "ord" args.length)
        | "divmod", [a, b] => do pure ((← a.divmod b).getD .none)
        | "divmod", _ => throw ⟨"TypeError", "divmod expected 2 arguments, got " ++ toString args.length⟩
        | "pow", [a, b] => do pure ((← a.power b none).getD .none)
        | "pow", [a, b, m] => do pure ((← a.power b (some m)).getD .none)
        | "pow", [] => throw ⟨"TypeError", "pow() missing required argument 'base' (pos 1)"⟩
        | "pow", [_] => throw ⟨"TypeError", "pow() missing required argument 'exp' (pos 2)"⟩
        | "pow", _ => throw ⟨"TypeError", "pow() takes at most 3 arguments (" ++ toString args.length ++ " given)"⟩
        | "sorted", [x] => do
          let items ← x.elements
          let keyed ← match kwargs.lookup "key" with
            | some .none | none => pure (items.map fun v => (v, v))
            | some g => items.mapM fun v => do pure (← call g [v], v)
          let reverse ← match kwargs.lookup "reverse" with
            | some r => r.truthy
            | none => pure false
          let order := if reverse then keyed.reverse else keyed
          let sorted ← reading fun h => sortBy (fun a b => a.1.compare h .lt b.1) order
          newList ((if reverse then sorted.reverse else sorted).map Prod.snd)
        | "sorted", _ => throw ⟨"TypeError", "sorted expected 1 argument, got " ++ toString args.length⟩
        | "sum", x :: rest => do
          let start := match rest, kwargs.lookup "start" with
            | s :: _, _ => s
            | [], some s => s
            | [], none => .int 0
          match start with
          | .str _ => throw ⟨"TypeError", "sum() can't sum strings [use ''.join(seq) instead]"⟩
          | .bytes _ => throw ⟨"TypeError", "sum() can't sum bytes [use b''.join(seq) instead]"⟩
          | _ => pure ()
          let items ← x.elements
          items.foldlM (fun acc v => acc.combine .add v) start
        | "sum", [] => throw ⟨"TypeError", "sum() takes at least 1 positional argument (0 given)"⟩
        | "min", _ => extreme "min" .lt
        | "max", _ => extreme "max" .gt
        | "round", [x] => reading fun h => roundToInt h x
        | "round", [x, .none] => reading fun h => roundToInt h x
        | "round", [x, d] => reading fun h => do
          match x with
          | .bool _ | .int _ | .float _ | .double _ | .fraction .. | .decimal _ =>
            roundTo h x (← asIndex h d)
          | _ => roundTo h x 0
        | "round", [] => throw ⟨"TypeError", "round() missing required argument 'number' (pos 1)"⟩
        | "round", _ => throw ⟨"TypeError", "round() takes at most 2 arguments (" ++ toString args.length ++ " given)"⟩
        | "any", [x] => do
          let items ← x.elements
          pure (.bool (← items.anyM Value.truthy))
        | "all", [x] => do
          let items ← x.elements
          pure (.bool (← items.allM Value.truthy))
        | "callable", [x] => pure (.bool (x.isCallable h))
        | "hex", [x] => do pure (.str (radixText "0x" 16 (← reading fun h => asIndex h x)))
        | "oct", [x] => do pure (.str (radixText "0o" 8 (← reading fun h => asIndex h x)))
        | "bin", [x] => do pure (.str (radixText "0b" 2 (← reading fun h => asIndex h x)))
        | "ascii", [x] => reading fun h => do pure (.str (asciiEscaped (← x.repr h)))
        | "any", _ | "all", _ | "callable", _ | "hex", _ | "oct", _ | "bin", _ | "ascii", _ =>
          throw (exactlyOne name args.length)
        | "format", [x] => reading fun h => do pure (.str (← x.formatted h ""))
        | "format", [x, .str spec] => reading fun h => do pure (.str (← x.formatted h spec))
        | "format", [_, spec] =>
          throw ⟨"TypeError", "format() argument 2 must be str, not " ++ spec.typeName h⟩
        | "format", [] => throw ⟨"TypeError", "format expected at least 1 argument, got 0"⟩
        | "format", _ =>
          throw ⟨"TypeError", "format expected at most 2 arguments, got " ++ toString args.length⟩
        | "hasattr", [x, n] => do
          let attr ← reading fun h => attributeName h n
          pure (.bool (← x.hasAttribute attr))
        | "setattr", [x, n, v] => do
          let attr ← reading fun h => attributeName h n
          x.setAttributeTo attr v
          pure .none
        | "delattr", [x, n] => do
          let attr ← reading fun h => attributeName h n
          x.deleteAttribute attr
          pure .none
        | "issubclass", [c, b] => reading fun _ => do pure (.bool (← subclassOf c b))
        | "hasattr", _ | "delattr", _ | "issubclass", _ =>
          throw ⟨"TypeError", name ++ " expected 2 arguments, got " ++ toString args.length⟩
        | "setattr", _ =>
          throw ⟨"TypeError", "setattr expected 3 arguments, got " ++ toString args.length⟩
        | "vars", [x] => x.attributeMap
        | "vars", _ :: _ :: _ =>
          throw ⟨"TypeError", "vars expected at most 1 argument, got " ++ toString args.length⟩
        | "__import__", x :: _ => reading fun _ => importedModule x
        | "__import__", [] =>
          throw ⟨"TypeError", "__import__() missing required argument 'name' (pos 1)"⟩
        | "bytes.fromhex", [x] => reading fun h => do pure (.bytes (← fromHex h x))
        | "bytearray.fromhex", [x] => do allocate (.bytearray (← reading fun h => fromHex h x))
        | "float.fromhex", [x] => reading fun _ => do pure (.float (← fromHexFloat x))
        | "bytes.fromhex", _ | "bytearray.fromhex", _ | "float.fromhex", _ =>
          throw (exactlyOne "fromhex" args.length)
        | "int.from_bytes", _ => intFromBytes args
        | "str.maketrans", _ => do newDict (← translationTable args)
        | "getattr", obj :: attr :: rest => do
          match attr with
          | .str a =>
            match rest with
            | [] => obj.attribute a
            | d :: _ => fun h =>
              match obj.attribute a h with
              | .ok r => .ok r
              | .error e => if e.kind = "AttributeError" then .ok (d, h) else .error e
          | _ => throw ⟨"TypeError", "attribute name must be string, not '" ++ attr.typeName h ++ "'"⟩
        | "getattr", _ => throw ⟨"TypeError", "getattr expected at least 2 arguments, got " ++ toString args.length⟩
        | _, _ =>
          if isError n then do
            noKw name
            allocate (.object (madeErrorClass n args) args [])
          else if n.isClass then allocate (.object n [] [])
          else match n.kind? with
            | some (.cls _ _) => allocate (.object n [] [])
            | some .builtinFunction | some .function => pure .none
            | _ => throw (notCallable h f)
      else if m = "decimal" ∧ name = "Decimal" then
        match args with
        | [] => pure (.decimal (.finite false 0 0))
        | x :: _ => decimalFrom x
      else if m = "fractions" ∧ name = "Fraction" then fractionFrom args
      else if m = "numpy" ∧ name = "float64" then
        match args with
        | [] => pure (.double 0.0)
        | .none :: _ => pure (.double (0.0 / 0.0))
        | x :: _ => do pure (.double (← x.toFloat))
      else if m = "numpy" ∧ name = "int64" then
        match args with
        | [] => pure (.int 0)
        | x :: _ => wordFrom x
      else if n = simpleNamespace ∨ n = argumentNamespace then namespaceFrom n args kwargs
      else if n = orderedMap ∨ n = defaultMap then do
        let (factory, rest) ← if n = defaultMap then
            match args with
            | [] => pure (Value.none, [])
            | g :: more =>
              match g with
              | .none | .global _ => pure (g, more)
              | _ => throw ⟨"TypeError", "first argument must be callable or None"⟩
          else pure (Value.none, args)
        let es ← match rest with
          | [] => pure []
          | [x] => x.entriesFrom
          | _ => throw ⟨"TypeError", "expected at most 1 argument, got " ++ toString rest.length⟩
        let es ← kwargs.foldlM (fun acc (k, v) => reading fun h => putEntry h acc (.str k) v) es
        allocate (.dict n es factory)
      else if n = mapWrapper then do
        let es ← match args with
          | [] => pure []
          | [x] =>
            match x.mapEntries? h with
            | some es => pure es
            | none => do
              let items ← x.elements
              items.foldlM (fun acc item => do
                let (k, v) ← item.pair
                reading fun h => putEntry h acc k v) []
          | _ => throw ⟨"TypeError", "UserDict.__init__() takes from 1 to 2 positional arguments but " ++
              toString (args.length + 1) ++ " were given"⟩
        let es ← kwargs.foldlM (fun acc (k, v) => reading fun h => putEntry h acc (.str k) v) es
        let data ← newDict es
        allocate (.object n [] [("data", data)])
      else if (libraryFunction call m name args kwargs).isSome then
        (libraryFunction call m name args kwargs).getD (pure .none)
      else if m = "math" ∧ (mathFunction name args kwargs).isSome then
        (mathFunction name args kwargs).getD (pure .none)
      else if (m = "_operator" ∨ m = "operator") ∧ (operatorFunction name args).isSome then
        (operatorFunction name args).getD (pure .none)
      else if m = "copyreg" ∧ name = "_reconstructor" then
        match args with
        | [.global cls, .global base, state] =>
          if base = builtin "object" then
            if madeWhole cls ∨ cls.module = "builtins" ∧ cls ≠ builtin "object" ∧ !isError cls then
              throw ⟨"TypeError", "object.__new__(" ++ cls.name ++ ") is not safe, use " ++ cls.name ++
                ".__new__()"⟩
            else blankObject cls []
          else
            match namedTupleFields? cls with
            | some fields =>
              if base = builtin "tuple" then do pure (.named cls fields (← state.elements))
              else callIn fuel (.global base) [state] []
            | none => callIn fuel (.global base) [state] []
        | [cls, _, _] => throw ⟨"TypeError", "object.__new__(X): X is not a type object (" ++
            cls.typeName h ++ ")"⟩
        | _ => do
          let _ ← reading fun _ => bindParameters "_reconstructor()"
            [required "cls", required "base", required "state"] args []
          pure .none
      else if m = "copyreg" ∧ name = "__newobj__" then
        match args with
        | .global cls :: rest => instantiate cls rest []
        | [] => throw ⟨"TypeError", "__newobj__() missing 1 required positional argument: 'cls'"⟩
        | x :: _ =>
          let t := x.typeName h
          let owner := if ownNewTypes.contains t then t else "object"
          throw ⟨"TypeError", owner ++ ".__new__(X): X is not a type object (" ++ t ++ ")"⟩
      else if m = "copyreg" ∧ name = "__newobj_ex__" then
        match args with
        | [.global cls, xs, kws] => do
          let xs ← xs.elements
          let kws := (kws.mapEntries? h).getD []
          let kws := kws.filterMap fun (k, v) =>
            match k with
            | .str s => some (s, v)
            | _ => Option.none
          instantiate cls xs kws
        | [cls, _, _] =>
          let t := cls.typeName h
          let owner := if ownNewTypes.contains t then t else "object"
          throw ⟨"TypeError", owner ++ ".__new__(X): X is not a type object (" ++ t ++ ")"⟩
        | _ => do
          let _ ← reading fun _ => bindParameters "__newobj_ex__()"
            [required "cls", required "args", required "kwargs"] args []
          pure .none
      else if m = "itemcf.item_index" ∧ name = "assign_indices" then
        match args with
        | [x] => assignIndices x
        | _ => throw ⟨"TypeError", "assign_indices() takes 1 positional argument but " ++
            toString args.length ++ " were given"⟩
      else if m = "itemcf.item_index" ∧ (name = "item_id_to_index" ∨ name = "index_to_item_id") then
        match args with
        | [x] => do newDict (← if name = "item_id_to_index" then itemIndexOf x else indexItemOf x)
        | _ => throw ⟨"TypeError", name ++ "() takes 1 positional argument but " ++
            toString args.length ++ " were given"⟩
      else if m = recordModule ∧ name = "is_excluded" then
        match args with
        | [x] => pure (.bool (isExcludedSlot x))
        | _ => throw ⟨"TypeError", "is_excluded() takes 1 positional argument but " ++
            toString args.length ++ " were given"⟩
      else if isEnumeration n then
        match args with
        | [x] => memberFrom n x
        | _ => throw ⟨"TypeError", "EnumType.__call__() missing 1 required positional argument: 'value'"⟩
      else if let some fields := namedTupleFields? n then do
        let bound ← reading fun _ => bindParameters (name ++ ".__new__()")
          (required "_cls" :: fields.map required) (f :: args) kwargs
        pure (.named n fields ((bound.drop 1).map (·.getD .none)))
      else
        match recordClass? n with
        | some r => recordFrom n r args kwargs
        | none =>
          if isError n then errorFrom n args kwargs
          else match n.kind? with
            | some (.cls _ _) => allocate (.object n [] [])
            | some .builtinFunction | some .function => pure .none
            | Option.none => allocate (.object n [] [])
            | _ => throw (notCallable h f)
    | _ => throw (notCallable h f)

/-- Calls a value with positional and keyword arguments. -/
def Value.call (f : Value) (args : List Value) (kwargs : Keywords) : Act Value :=
  callIn nestingLimit f args kwargs

/-- Makes an object of a class without initialising it. -/
def Name.instantiate (cls : Name) (args : List Value) (kwargs : Keywords) : Act Value :=
  if madeWhole cls then callIn nestingLimit (.global cls) args kwargs else blankObject cls args

/-- The error of a state that is not a map. -/
def stateNotMap (slots : Bool) : Raised :=
  ⟨"UnpicklingError", (if slots then "slot state" else "state") ++ " is not a dictionary"⟩

/-- Puts the entries of a map into the attributes of the object at an address; keys that are
not texts are hashed but keep no attribute. -/
def storeAttributes (a : Nat) (entries : List (Value × Value)) : Act Unit := do
  for (k, v) in entries do
    match k with
    | .str name =>
      match ← cellAt a with
      | .object cls args attrs => store a (.object cls args (setAttribute attrs name v))
      | _ => pure ()
    | _ => let _ ← reading fun h => k.hash h

/-- Sets the state of an object: the entries of a map become its attributes, through the map of
its attributes; with a second map, each entry is set as an attribute one by one. Errors set
their attributes one by one, and iterators take their state as it is. -/
def Value.setState (inst state : Value) : Act Unit := do
  let h ← get
  let entriesOf (v : Value) (slots : Bool) : Except Raised (List (Value × Value)) :=
    match v with
    | .ref a =>
      match h.get a with
      | .dict _ es _ => pure es
      | _ => throw (stateNotMap slots)
    | _ => throw (stateNotMap slots)
  match inst with
  | .ref a =>
    match h.get a with
    | .iterator .. => return
    | .object cls _ _ =>
      if isError cls then
        match state with
        | .none => return
        | _ =>
          match state.mapEntries? h with
          | some es =>
            for (k, _) in es do
              match k with
              | .str _ => pure ()
              | _ => throw ⟨"TypeError", "attribute name must be string, not '" ++ k.typeName h ++ "'"⟩
            storeAttributes a es
            return
          | Option.none => throw ⟨"TypeError", "state is not a dictionary"⟩
    | _ => pure ()
  | _ => pure ()
  let (state, slots) := match state with
    | .tuple [s, t] => (s, some t)
    | s => (s, Option.none)
  match state with
  | .none => pure ()
  | _ =>
    let es ← reading fun _ => entriesOf state false
    match inst with
    | .ref a =>
      match h.get a with
      | .object cls _ _ =>
        if cls = builtin "object" then throw (noAttribute h inst "__dict__")
        else storeAttributes a es
      -- an ordered map has attributes besides its entries, which no phase reads
      | .dict cls _ _ => if cls = orderedMap then pure () else throw (noAttribute h inst "__dict__")
      | _ => throw (noAttribute h inst "__dict__")
    | .global n =>
      match n.kind? with
      | some .function | some (.module _) => pure ()
      | some .builtinFunction => throw (noAttribute h inst "__dict__")
      | _ =>
        if !es.isEmpty then
          throw ⟨"TypeError", "'mappingproxy' object does not support item assignment"⟩
    | .module _ => pure ()
    | _ => throw (noAttribute h inst "__dict__")
  match slots with
  | Option.none | some .none => pure ()
  | some t =>
    let es ← reading fun _ => entriesOf t true
    for (k, v) in es do
      let h ← get
      match k with
      | .str name =>
        match inst with
        | .ref a =>
          match h.get a with
          | .object cls args attrs =>
            if cls = builtin "object" then throw (noAttribute h inst name)
            else if (recordClass? cls).any (·.frozen) then
              throw ⟨"FrozenInstanceError", "cannot assign to field " ++ quote name⟩
            else store a (.object cls args (setAttribute attrs name v))
          | .dict cls _ _ => if cls = orderedMap then pure () else throw (noAttribute h inst name)
          | _ => throw (noAttribute h inst name)
        | .global _ | .module _ => pure ()
        | _ => throw (noAttribute h inst name)
      | _ => throw ⟨"TypeError", "attribute name must be string, not '" ++ k.typeName h ++ "'"⟩

end ItemRecommender.Object
