import ItemRecommender.Object.Repr
import ItemRecommender.Url.Parts
import ItemRecommender.Text.Casing
/-! # Lengths, iteration and attributes

    * `Value.length` is the number of elements of a text, byte string, container or range, and
      of the entries of a record that defines its length by them; other values have none.
    * Iterating a value (`Value.elements`, `Value.prefix`) gives the characters of a text, the
      byte values of a byte string, the items of a tuple, list or set, the keys of a map and the
      numbers of a range. An iterator gives what it has left and is consumed by it; its error,
      if it has one, is raised when it is reached.
    * Unpacking a value into two (`Value.pair`) needs exactly two elements: it takes at most
      three from an iterator.
    * `Value.attribute` finds an attribute of an object: its own, or its class's default. A
      named tuple has its fields, and a split URL also the user name, password, host name and
      port of its network location. -/

namespace ItemRecommender.Object

/-- The error of iterating a value that cannot be iterated. -/
def notIterable (h : Heap) (v : Value) : Raised :=
  ⟨"TypeError", "'" ++ v.typeName h ++ "' object is not iterable"⟩

/-- The number of values of a range. -/
def rangeLength (start stop step : Int) : Nat :=
  if step > 0 then (max 0 ((stop - start + step - 1) / step)).toNat
  else if step < 0 then (max 0 ((start - stop - step - 1) / (-step))).toNat
  else 0

/-- The first `n` values of a range. -/
def rangeValues (start step : Int) (n : Nat) : List Value :=
  (List.range n).map fun (i : Nat) => .int (start + step * (i : Int))

/-- The largest length an object may have. -/
def maxLength : Nat := Nat.pow 2 63 - 1

/-- The error of a value without length. -/
def noLength (h : Heap) (v : Value) : Raised :=
  ⟨"TypeError", "object of type '" ++ v.typeName h ++ "' has no len()"⟩

/-- The length of a value, walking at most `fuel` records that define theirs by a field. -/
def lengthIn (h : Heap) : Nat → Value → Except Raised Nat
  | 0, _ => throw (nestingFault " while calling a Python object")
  | fuel + 1, v =>
    match v with
    | .str s => pure s.length
    | .bytes bs => pure bs.length
    | .tuple xs | .named _ _ xs | .frozenset xs _ => pure xs.length
    | .range s e k =>
      let n := rangeLength s e k
      if maxLength < n then throw ⟨"OverflowError", "Python int too large to convert to C ssize_t"⟩
      else pure n
    | .global n => if n = slotClass then pure 1 else throw (noLength h v)
    | .ref a =>
      match h.get a with
      | .list xs | .set xs _ => pure xs.length
      | .dict _ es _ => pure es.length
      | .bytearray bs => pure bs.length
      | .object cls _ attrs =>
        let field := if cls = ⟨recordModule, "UserVector"⟩ then some "entries"
          else if cls = mapWrapper then some "data" else none
        match field with
        | some f =>
          match attrs.lookup f with
          | some inner => lengthIn h fuel inner
          | none => throw ⟨"AttributeError", "'" ++ cls.display ++ "' object has no attribute '" ++ f ++ "'"⟩
        | none => throw (noLength h v)
      | .iterator .. => throw (noLength h v)
    | _ => throw (noLength h v)

/-- The length of a value. -/
def Value.length (v : Value) : Act Nat := reading fun h => lengthIn h nestingLimit v

/-- The most elements a container made here may hold: making a larger one fails for lack of
memory. -/
def memoryBound : Nat := Nat.pow 2 24

/-- The error of running out of memory. -/
def memoryFault : Raised := ⟨"MemoryError", ""⟩

/-- What iterating a value gives: some elements, the numbers of a range, or for an iterator the
address of its cell. -/
inductive Source where
  | values (xs : List Value)
  | numbers (start step : Int) (count : Nat)
  | iterator (address : Nat)

/-- Where a value's elements come from, walking at most `fuel` wrappers. -/
def sourceIn (h : Heap) : Nat → Value → Except Raised Source
  | 0, _ => throw (nestingFault " while calling a Python object")
  | fuel + 1, v =>
    match v with
    | .str s => pure (.values (s.toList.map fun c => .str (String.singleton c)))
    | .bytes bs => pure (.values (bs.map fun b => .int b.toNat))
    | .tuple xs | .named _ _ xs | .frozenset xs _ => pure (.values xs)
    | .range s e k => pure (.numbers s k (rangeLength s e k))
    | .global n =>
      if n = slotClass then pure (.values [excludedMember]) else throw (notIterable h v)
    | .ref a =>
      match h.get a with
      | .list xs | .set xs _ => pure (.values xs)
      | .dict _ es _ => pure (.values (es.map Prod.fst))
      | .bytearray bs => pure (.values (bs.map fun b => .int b.toNat))
      | .object cls _ attrs =>
        if cls = mapWrapper then
          match attrs.lookup "data" with
          | some inner => sourceIn h fuel inner
          | none => throw ⟨"AttributeError", "'UserDict' object has no attribute 'data'"⟩
        else throw (notIterable h v)
      | .iterator .. => pure (.iterator a)
    | _ => throw (notIterable h v)

/-- Where a value's elements come from. -/
def Value.source (v : Value) : Act Source := reading fun h => sourceIn h nestingLimit v

/-- The number of elements a source has left. -/
def Source.count (s : Source) : Act Nat :=
  match s with
  | .values xs => pure xs.length
  | .numbers _ _ n => pure n
  | .iterator a => do
    match ← cellAt a with
    | .iterator _ pending _ => pure pending.length
    | _ => pure 0

/-- Takes up to `n` values from the iterator at an address, consuming them; its error is
raised when fewer remain. -/
def drawFrom (a : Nat) (n : Nat) : Act (List Value) := do
  match ← cellAt a with
  | .iterator kind pending fault =>
    let taken := pending.take n
    let rest := pending.drop n
    if taken.length < n then
      store a (.iterator kind [] none)
      match fault with
      | some r => throw r
      | none => pure taken
    else
      store a (.iterator kind rest fault)
      pure taken
  | _ => pure []

/-- The first `n` elements of a source, fewer if it has fewer; an iterator gives them up. -/
def Source.take (s : Source) (n : Nat) : Act (List Value) :=
  match s with
  | .values xs => pure (xs.take n)
  | .numbers start step count =>
    let m := min n count
    if memoryBound < m then throw memoryFault else pure (rangeValues start step m)
  | .iterator a => drawFrom a n

/-- The first `n` elements of a value, fewer if it has fewer. -/
def Value.prefix (v : Value) (n : Nat) : Act (List Value) := do
  (← v.source).take n

/-- All the elements of a value. -/
def Value.elements (v : Value) : Act (List Value) := do
  let s ← v.source
  match s with
  | .numbers _ _ count =>
    if maxLength < count then throw ⟨"OverflowError", "Python int too large to convert to C ssize_t"⟩
    s.take count
  | _ => s.take ((← s.count) + 1)

/-- A value unpacked into exactly two. -/
def Value.pair (v : Value) : Act (Value × Value) := do
  let h ← get
  match sourceIn h nestingLimit v with
  | .error _ => throw ⟨"TypeError", "cannot unpack non-iterable " ++ v.typeName h ++ " object"⟩
  | .ok _ =>
    let xs ← v.prefix 3
    match xs with
    | [a, b] => pure (a, b)
    | _ =>
      if xs.length < 2 then
        throw ⟨"ValueError", "not enough values to unpack (expected 2, got " ++
          toString xs.length ++ ")"⟩
      else throw ⟨"ValueError", "too many values to unpack (expected 2)"⟩

/-- The error of asking a value for an attribute it lacks. -/
def noAttribute (h : Heap) (v : Value) (name : String) : Raised :=
  match v with
  | .module m => ⟨"AttributeError", "module " ++ Text.quote m ++ " has no attribute " ++ Text.quote name⟩
  | .global n =>
    if n.isClass then
      ⟨"AttributeError", "type object " ++ Text.quote n.name ++ " has no attribute " ++ Text.quote name⟩
    else ⟨"AttributeError", "'" ++ v.typeName h ++ "' object has no attribute " ++ Text.quote name⟩
  | _ => ⟨"AttributeError", "'" ++ v.typeName h ++ "' object has no attribute " ++ Text.quote name⟩

/-- The attributes every number has: the numerator and denominator of a rational number, and the
real and imaginary parts of any. -/
def numberAttribute? (v : Value) (name : String) : Option Value :=
  match v, name with
  | .bool b, "numerator" | .bool b, "real" => some (.int (if b then 1 else 0))
  | .bool _, "denominator" => some (.int 1)
  | .bool _, "imag" => some (.int 0)
  | .int i, "numerator" | .int i, "real" => some (.int i)
  | .int _, "denominator" => some (.int 1)
  | .int _, "imag" => some (.int 0)
  | .float x, "real" => some (.float x)
  | .float _, "imag" => some (.float 0.0)
  | .double x, "real" => some (.double x)
  | .double _, "imag" => some (.double 0.0)
  | .complex re _, "real" => some (.float re)
  | .complex _ im, "imag" => some (.float im)
  | .fraction p _, "numerator" => some (.int p)
  | .fraction _ q, "denominator" => some (.int q)
  | .fraction p q, "real" => some (.fraction p q)
  | .fraction _ _, "imag" => some (.int 0)
  | .decimal d, "real" => some (.decimal d)
  | .decimal _, "imag" => some (.decimal (.finite false 0 0))
  | _, _ => none

/-- The user name, password, host name or port of the network location of a split URL, read from
its `netloc` field; `fromBytes` tells the classes for bytes. -/
def netlocProperty (fromBytes : Bool) (netloc : Value) (name : String) : Act Value := do
  let h ← get
  let cs ← match netloc, bytesOf? h netloc with
    | .str s, _ =>
      if fromBytes then throw ⟨"TypeError", "must be str, not bytes"⟩ else pure s.toList
    | _, some bs =>
      if fromBytes then pure (bs.map fun b => Char.ofNat b.toNat)
      else throw ⟨"TypeError", "a bytes-like object is required, not 'str'"⟩
    | _, none => throw (noAttribute h netloc "rpartition")
  let shown (cs : List Char) : Value :=
    if fromBytes then .bytes (cs.map fun c => c.toNat.toUInt8) else .str (String.ofList cs)
  let optional (cs : Option (List Char)) : Value := (cs.map shown).getD .none
  match name with
  | "username" => pure (optional (Url.userInfo cs).1)
  | "password" => pure (optional (Url.userInfo cs).2)
  | "hostname" =>
    let lower := if fromBytes then List.map Url.asciiLower else Text.lowerText
    pure (optional (Url.hostName lower cs))
  | _ =>
    match (Url.hostInfo cs).2 with
    | none => pure .none
    | some port =>
      if !port.all Text.isAsciiDigit then
        throw ⟨"ValueError", "Port could not be cast to integer value as " ++
          (← reading fun h => (shown port).repr h)⟩
      let n := Url.digitsValue port
      if 65535 < n then throw ⟨"ValueError", "Port out of range 0-65535"⟩
      pure (.int n)

/-- An attribute of a named tuple: one of its fields, or a property of a split URL. -/
def namedAttribute (v : Value) (cls : Name) (fields : List String) (xs : List Value)
    (name : String) : Act Value := do
  match (fields.zip xs).lookup name with
  | some x => pure x
  | Option.none =>
    let urlClass := cls.module = "urllib.parse" ∧
      ["SplitResult", "ParseResult", "SplitResultBytes", "ParseResultBytes"].contains cls.name
    if urlClass ∧ ["username", "password", "hostname", "port"].contains name then
      netlocProperty (cls.name.endsWith "Bytes") (((fields.zip xs).lookup "netloc").getD .none)
        name
    else throw (noAttribute (← get) v name)

/-- An attribute of an object: its own, or the default of its record class's field. -/
def Value.attribute (v : Value) (name : String) : Act Value := do
  let h ← get
  match v with
  | .ref a =>
    match h.get a with
    | .object cls args attrs =>
      match attrs.lookup name with
      | some x => pure x
      | Option.none =>
        let default? := (recordClass? cls).bind fun r =>
          match r.fields.lookup name with
          | some (some (.value x)) => some x
          | _ => Option.none
        match default? with
        | some x => pure x
        | Option.none =>
          if isError cls ∧ name = "args" then pure (.tuple args)
          else throw (noAttribute h v name)
    | _ => throw (noAttribute h v name)
  | .member cls label =>
    if name = "name" then pure (.str label)
    else if name = "value" then
      match (enumerationMembers cls).lookup label with
      | some x => pure x
      | Option.none => throw (noAttribute h v name)
    else throw (noAttribute h v name)
  | .named cls fields xs => namedAttribute v cls fields xs name
  | .module m =>
    match moduleAttribute? m name with
    | some x => pure x
    | Option.none => throw (noAttribute h v name)
  | .global n =>
    match walkAttribute? v name with
    | some x => pure x
    | Option.none =>
      if n.isClass then throw (noAttribute h v name)
      else throw (noAttribute h v name)
  | _ =>
    match numberAttribute? v name with
    | some x => pure x
    | Option.none => throw (noAttribute h v name)

end ItemRecommender.Object
