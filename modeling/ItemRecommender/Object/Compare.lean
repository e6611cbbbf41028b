import ItemRecommender.Object.DecimalNumber
import ItemRecommender.Object.TextHash
import ItemRecommender.Object.TypeName
import ItemRecommender.Text.CodePoint
/-! # Equality, hashing and order of objects

    * Numbers are equal when their exact values are, whatever their types; a complex number
      equals a real one when its imaginary part is zero. Texts, byte strings, tuples and lists
      are equal element by element, maps when they hold equal keys with equal values (ordered
      maps also in the same order), sets when they hold equal members. Records of one class are
      equal when their fields are, namespaces when their attributes are; any other object is
      equal only to itself.
    * Equal values have equal hashes (`hashIn`): a number hashes by its exact value, a tuple
      combines its items' hashes, a frozen set its members'. Lists, maps, sets, byte arrays,
      namespaces and records that can change cannot be hashed. Texts and byte strings hash by
      their contents (`textHash`), a member of an enumeration by its name; the hash of an
      object hashed by its identity depends on the running process and is taken as zero.
    * `<`, `<=`, `>`, `>=` order real numbers, texts, byte strings, tuples and lists
      (lexicographically, by the first pair of items that differ) and sets (by inclusion); any
      other pair fails.

    Nested values are walked to a depth of `nestingLimit`, past which an operation fails as
    the language's recursion limit does. -/

namespace ItemRecommender.Object

/-- How deep the comparison of nested values may go. -/
def nestingLimit : Nat := 1000

/-- The error of walking values nested too deep. -/
def nestingFault (during : String) : Raised :=
  ⟨"RecursionError", "maximum recursion depth exceeded" ++ during⟩

/-- The exact value of a real number. -/
def Value.real? : Value → Option Exact
  | .bool b => some (.ratio (if b then 1 else 0) 1)
  | .int i => some (.ratio i 1)
  | .float x | .double x => some (Exact.ofFloat x)
  | .decimal d => some d.toExact
  | .fraction p q => some (.ratio p q)
  | _ => Option.none

/-- Whether a value is a number: a real one or a complex one. -/
def Value.isNumber (v : Value) : Bool :=
  match v with
  | .complex _ _ => true
  | _ => v.real?.isSome

/-- Whether a value is a decimal NaN of either kind. -/
def Value.isDecimalNaN : Value → Bool
  | .decimal (.nan ..) => true
  | _ => false

/-- Whether a value is a signaling decimal NaN. -/
def Value.isSignaling : Value → Bool
  | .decimal (.nan _ true _) => true
  | _ => false

/-- Whether two numbers are equal. -/
def numberEquals (a b : Value) : Except Raised Bool := do
  if a.isSignaling || b.isSignaling then throw (decimalFault "InvalidOperation")
  match a, b with
  | .complex r i, .complex r' i' => pure (r == r' && i == i')
  | .complex r i, x | x, .complex r i =>
    pure (i == 0 && (x.real?.map fun e => Exact.eq (Exact.ofFloat r) e).getD false)
  | x, y =>
    match x.real?, y.real? with
    | some e, some f => pure (Exact.eq e f)
    | _, _ => pure false

/-- The members of a set value, if it is one. -/
def setMembers? (h : Heap) : Value → Option (List Value)
  | .frozenset xs _ => some xs
  | .ref a =>
    match h.get a with
    | .set xs _ => some xs
    | _ => none
  | _ => none

/-- The bytes of a byte string or byte array, if the value is one. -/
def bytesOf? (h : Heap) : Value → Option (List UInt8)
  | .bytes bs => some bs
  | .ref a =>
    match h.get a with
    | .bytearray bs => some bs
    | _ => none
  | _ => none

/-- The fields of a record that decide equality, in order. A field the record lacks reads its
class's default when it is a value; a default made afresh for each record is no attribute of the
class. -/
def equalityFields (cls : Name) (attrs : List (String × Value)) : Except Raised (List Value) :=
  match recordClass? cls with
  | some r => r.fields.mapM fun (f, d) =>
    match attrs.lookup f, d with
    | some v, _ => pure v
    | none, some (.value v) => pure v
    | none, _ => throw ⟨"AttributeError", "'" ++ cls.display ++ "' object has no attribute '" ++ f ++ "'"⟩
  | none => pure []

/-- Whether two values are equal, walking at most `fuel` levels. -/
def equalsIn (h : Heap) : Nat → Value → Value → Except Raised Bool
  | 0, _, _ => throw (nestingFault " in comparison")
  | fuel + 1, a, b =>
    let members (x : Value) (ys : List Value) : Except Raised Bool :=
      ys.anyM fun y => equalsIn h fuel x y
    let sameItems (xs ys : List Value) : Except Raised Bool :=
      if xs.length != ys.length then pure false
      else (xs.zip ys).allM fun (x, y) => equalsIn h fuel x y
    let sameEntries (ordered : Bool) (es fs : List (Value × Value)) : Except Raised Bool :=
      if es.length != fs.length then pure false
      else if ordered then
        (es.zip fs).allM fun ((k, v), (k', v')) => do
          pure ((← equalsIn h fuel k k') && (← equalsIn h fuel v v'))
      else es.allM fun (k, v) => do
        match ← fs.findM? fun (k', _) => equalsIn h fuel k k' with
        | some (_, v') => equalsIn h fuel v v'
        | none => pure false
    match a, b with
    | .ref x, .ref y =>
      if x = y then pure true
      else
        match h.get x, h.get y with
        | .list xs, .list ys => sameItems xs ys
        | .dict c es _, .dict c' fs _ => sameEntries (c = orderedMap && c' = orderedMap) es fs
        | .set xs _, .set ys _ =>
          if xs.length != ys.length then pure false else xs.allM fun x => members x ys
        | .bytearray xs, .bytearray ys => pure (xs == ys)
        | .object c _ attrs, .object c' _ attrs' =>
          if (recordClass? c).isSome ∧ c = c' then do
            sameItems (← equalityFields c attrs) (← equalityFields c' attrs')
          else if isNamespace c ∧ isNamespace c' ∧ (c = c' ∨ c = simpleNamespace) then
            sameEntries false (attrs.map fun (k, v) => (.str k, v))
              (attrs'.map fun (k, v) => (.str k, v))
          else pure false
        | .object c _ attrs, .dict _ fs _ | .dict _ fs _, .object c _ attrs =>
          if c = mapWrapper then
            match attrs.lookup "data" with
            | some (.ref d) =>
              match h.get d with
              | .dict _ es _ => sameEntries false es fs
              | _ => pure false
            | _ => pure false
          else pure false
        | _, _ => pure false
    | .ref x, .frozenset ys _ | .frozenset ys _, .ref x =>
      match h.get x with
      | .set xs _ => if xs.length != ys.length then pure false else xs.allM fun x => members x ys
      | _ => pure false
    | .ref x, .bytes ys | .bytes ys, .ref x =>
      match h.get x with
      | .bytearray xs => pure (xs == ys)
      | _ => pure false
    | .none, .none => pure true
    | .str s, .str t => pure (s == t)
    | .bytes s, .bytes t => pure (s == t)
    | .tuple xs, .tuple ys | .tuple xs, .named _ _ ys | .named _ _ xs, .tuple ys
    | .named _ _ xs, .named _ _ ys => sameItems xs ys
    | .frozenset xs _, .frozenset ys _ =>
      if xs.length != ys.length then pure false else xs.allM fun x => members x ys
    | .range s e k, .range s' e' k' =>
      let count (s e k : Int) : Int :=
        if k > 0 then max 0 ((e - s + k - 1) / k) else if k < 0 then max 0 ((s - e - k - 1) / (-k)) else 0
      let n := count s e k
      pure (n == count s' e' k' && (n == 0 || (s == s' && (n == 1 || k == k'))))
    | .global n, .global n' => pure (n == n')
    | .module m, .module m' => pure (m == m')
    | .member c n, .member c' n' => pure (c == c' && n == n')
    | x, y => if x.isNumber && y.isNumber then numberEquals x y else pure false

/-- Whether two values are equal. -/
def Value.equals (h : Heap) (a b : Value) : Except Raised Bool := equalsIn h nestingLimit a b

/-- Whether a value is equal to one of some values. -/
def Value.memberOf (h : Heap) (x : Value) (ys : List Value) : Except Raised Bool :=
  ys.anyM fun y => x.equals h y

/-! ## Hashes -/

/-- An integer as a 64-bit word, modulo `2^64`. -/
def toWord (i : Int) : UInt64 := (i % Int.ofNat (Nat.pow 2 64)).toNat.toUInt64

/-- A 64-bit word as a signed integer. -/
def ofWord (w : UInt64) : Int :=
  if w.toNat < Nat.pow 2 63 then w.toNat else (w.toNat : Int) - Int.ofNat (Nat.pow 2 64)

/-- The hash of a tuple from its items' hashes: each item's hash is mixed into an accumulator
by multiplying, rotating and multiplying again, and the length is mixed in at the end. -/
def tupleHash (hashes : List Int) : Int :=
  let prime1 : UInt64 := 11400714785074694791
  let prime2 : UInt64 := 14029467366897019727
  let prime5 : UInt64 := 2870177450012600261
  let acc := hashes.foldl (fun acc h =>
    let acc := acc + toWord h * prime2
    let acc := (acc <<< (31 : UInt64)) ||| (acc >>> (33 : UInt64))
    acc * prime1) prime5
  let acc := acc + (hashes.length.toUInt64 ^^^ (prime5 ^^^ (3527539 : UInt64)))
  if acc = 0xFFFFFFFFFFFFFFFF then 1546275796 else ofWord acc

/-- The hash of a frozen set from its members' hashes, independent of their order. -/
def frozensetHash (hashes : List Int) : Int :=
  let shuffle (h : UInt64) : UInt64 := ((h ^^^ (89869747 : UInt64)) ^^^ (h <<< (16 : UInt64))) * 3644798167
  let acc := hashes.foldl (fun acc h => acc ^^^ shuffle (toWord h)) (0 : UInt64)
  let acc := acc ^^^ ((hashes.length.toUInt64 + 1) * (1927868237 : UInt64))
  let acc := acc ^^^ ((acc >>> (11 : UInt64)) ^^^ (acc >>> (25 : UInt64)))
  let acc := acc * (69069 : UInt64) + 907133923
  if acc = 0xFFFFFFFFFFFFFFFF then 590923713 else ofWord acc

/-- The hash of a double. -/
def floatHash (x : Float) : Int := (Exact.ofFloat x).hash

/-- The error of hashing a value that cannot be hashed. -/
def unhashable (typeName : String) : Raised := ⟨"TypeError", "unhashable type: '" ++ typeName ++ "'"⟩

/-- The hash of a value, walking at most `fuel` levels; an error for a value that cannot be a
key. -/
def hashIn (h : Heap) : Nat → Value → Except Raised Int
  | 0, _ => throw (nestingFault " while calling a Python object")
  | fuel + 1, v =>
    match v with
    | .bool b => pure (if b then 1 else 0)
    | .int i => pure (ratioHash i 1)
    | .float x | .double x => pure (floatHash x)
    | .complex r i =>
      let w := toWord (floatHash r) + 1000003 * toWord (floatHash i)
      pure (if w = 0xFFFFFFFFFFFFFFFF then -2 else ofWord w)
    | .decimal d =>
      match d with
      | .nan _ true _ => throw ⟨"TypeError", "Cannot hash a signaling NaN value."⟩
      | _ => pure d.toExact.hash
    | .fraction p q => pure (ratioHash p q)
    | .str s => pure (textHash (Text.codePoints s))
    | .bytes bs => pure (messageHash bs)
    | .member _ name => pure (textHash (name.toList.map Char.toNat))
    | .tuple xs | .named _ _ xs => do pure (tupleHash (← xs.mapM (hashIn h fuel)))
    | .frozenset xs _ => do pure (frozensetHash (← xs.mapM (hashIn h fuel)))
    | .range s e k => do
      let n : Int :=
        if k > 0 then max 0 ((e - s + k - 1) / k) else if k < 0 then max 0 ((s - e - k - 1) / (-k)) else 0
      if n = 0 then hashIn h fuel (.tuple [.int 0, .none, .none])
      else if n = 1 then hashIn h fuel (.tuple [.int 1, .int s, .none])
      else hashIn h fuel (.tuple [.int n, .int s, .int k])
    | .ref a =>
      match h.get a with
      | .object cls _ attrs =>
        match recordClass? cls with
        | some r =>
          if r.frozen then do hashIn h fuel (.tuple (← equalityFields cls attrs))
          else throw (unhashable cls.display)
        | none =>
          if isNamespace cls || cls = mapWrapper then throw (unhashable cls.display) else pure 0
      | .iterator .. => pure 0
      | c => throw (unhashable c.typeName)
    | _ => pure 0

/-- The hash of a value; an error for a value that cannot be a key. -/
def Value.hash (h : Heap) (v : Value) : Except Raised Int := hashIn h nestingLimit v

/-! ## Order -/

/-- An order comparison. -/
inductive Comparison where
  | lt
  | le
  | gt
  | ge
  deriving DecidableEq, Repr

namespace Comparison

/-- The operator's symbol. -/
def symbol : Comparison → String
  | .lt => "<"
  | .le => "<="
  | .gt => ">"
  | .ge => ">="

/-- Whether an ordering satisfies the comparison. -/
def holds : Comparison → Ordering → Bool
  | .lt, o => o == .lt
  | .le, o => o != .gt
  | .gt, o => o == .gt
  | .ge, o => o != .lt

end Comparison

/-- The error of comparing two values that have no order. -/
def unordered (h : Heap) (op : Comparison) (a b : Value) : Raised :=
  ⟨"TypeError", "'" ++ op.symbol ++ "' not supported between instances of '" ++ a.typeName h ++
    "' and '" ++ b.typeName h ++ "'"⟩

/-- The sequence items of a tuple or list value. -/
def sequenceItems? (h : Heap) : Value → Option (Bool × List Value)
  | .tuple xs | .named _ _ xs => some (false, xs)
  | .ref a =>
    match h.get a with
    | .list xs => some (true, xs)
    | _ => none
  | _ => none

/-- Whether `a op b` holds, walking at most `fuel` levels. -/
def compareIn (h : Heap) : Nat → Comparison → Value → Value → Except Raised Bool
  | 0, _, _, _ => throw (nestingFault " in comparison")
  | fuel + 1, op, a, b =>
    match a.real?, b.real? with
    | some x, some y =>
      if (a.isDecimalNaN || b.isDecimalNaN) ||
          ((a matches .decimal _) || (b matches .decimal _)) && (x == .nan || y == .nan) then
        throw (decimalFault "InvalidOperation")
      else pure ((Exact.compare? x y).any op.holds)
    | _, _ =>
      match a, b with
      | .str s, .str t =>
        if s.any Text.isStandIn || t.any Text.isStandIn then
          pure (op.holds (compareOfLessAndEq (Text.codePoints s) (Text.codePoints t)))
        else pure (op.holds (compare s t))
      | _, _ =>
        match bytesOf? h a, bytesOf? h b with
        | some s, some t => pure (op.holds (compareOfLessAndEq s t))
        | _, _ =>
          match sequenceItems? h a, sequenceItems? h b with
          | some (k, xs), some (k', ys) =>
            if k != k' then throw (unordered h op a b)
            else do
              let pairs := xs.zip ys
              match ← pairs.findM? fun (x, y) => do pure !(← equalsIn h fuel x y) with
              | some (x, y) => compareIn h fuel op x y
              | none => pure (op.holds (compare xs.length ys.length))
          | _, _ =>
            match setMembers? h a, setMembers? h b with
            | some xs, some ys => do
              let within (us vs : List Value) : Except Raised Bool :=
                us.allM fun u => vs.anyM fun v => equalsIn h fuel u v
              match op with
              | .le => within xs ys
              | .ge => within ys xs
              | .lt => pure (xs.length < ys.length && (← within xs ys))
              | .gt => pure (ys.length < xs.length && (← within ys xs))
            | _, _ => throw (unordered h op a b)

/-- Whether `a op b` holds. -/
def Value.compare (h : Heap) (op : Comparison) (a b : Value) : Except Raised Bool :=
  compareIn h nestingLimit op a b

end ItemRecommender.Object
