import ItemRecommender.Object.Construct
import ItemRecommender.Object.Division
import ItemRecommender.Object.SetAlgebra
import ItemRecommender.Object.Interpolation
/-! # The operators of the language

    The operators beside `+`, `*` and `**` (which `Value.combine` and `Value.power` apply), as
    the operator functions of the core give them to a dataset:

    * `-`, `/`, `//` and `%` follow the tower of numbers as `+` does. Two integers subtract to
      an integer, divide to the nearest double of their exact quotient, and floor-divide with a
      remainder of the divisor's sign; fractions stay fractions, but a floor quotient is an
      integer; decimals subtract and divide at the decimal precision, their integer quotient
      truncated and their remainder of the dividend's sign; doubles divide as `divmod` does,
      and a zero divisor fails for every kind but the array library's doubles.
    * `<<`, `>>`, `&`, `|` and `^` apply to integers, in two's complement; `&`, `|` and `^` of
      two truth values give a truth value, and `|` of two maps the first updated by the second.
    * `%` of a text without conversions checks its arguments as formatting does.
    * The unary operators negate, keep or complement a number.
    * Containment, counting and finding an element walk a container as `in` does.

    An operator of two values outside these fails as the language reports it; the operators on
    sets and formatting with conversions are outside what is modelled, which `none` marks. -/

namespace ItemRecommender.Object

/-- The binary operators of the language beside `+`, `*` and `**`. -/
inductive Binary where
  | sub
  | trueDiv
  | floorDiv
  | mod
  | leftShift
  | rightShift
  | bitAnd
  | bitOr
  | bitXor
  | matMul
  deriving DecidableEq, Repr

namespace Binary

/-- The symbol of an operator, as messages show it. -/
def symbol : Binary → String
  | .sub => "-"
  | .trueDiv => "/"
  | .floorDiv => "//"
  | .mod => "%"
  | .leftShift => "<<"
  | .rightShift => ">>"
  | .bitAnd => "&"
  | .bitOr => "|"
  | .bitXor => "^"
  | .matMul => "@"

end Binary

/-! ## Integers in two's complement -/

/-- `a & b` of integers, a negative integer being the complement of a natural number. -/
def intAnd : Int → Int → Int
  | .ofNat a, .ofNat b => .ofNat (a &&& b)
  | .ofNat a, .negSucc n | .negSucc n, .ofNat a => .ofNat (a - (a &&& n))
  | .negSucc m, .negSucc n => .negSucc (m ||| n)

/-- `a | b` of integers in two's complement. -/
def intOr : Int → Int → Int
  | .ofNat a, .ofNat b => .ofNat (a ||| b)
  | .ofNat a, .negSucc n | .negSucc n, .ofNat a => .negSucc (n - (n &&& a))
  | .negSucc m, .negSucc n => .negSucc (m &&& n)

/-- `a ^ b` of integers in two's complement. -/
def intXor : Int → Int → Int
  | .ofNat a, .ofNat b => .ofNat (a ^^^ b)
  | .ofNat a, .negSucc n | .negSucc n, .ofNat a => .negSucc (a ^^^ n)
  | .negSucc m, .negSucc n => .ofNat (m ^^^ n)

/-- An integer shifted left by `n` bits, refused when the result would be too large to hold. -/
def shiftLeft (i : Int) (n : Nat) : Except Raised Int :=
  if i = 0 then pure 0
  else if powerBitBound < i.natAbs.log2 + n then throw memoryFault
  else pure (i * (Nat.pow 2 n : Nat))

/-- An integer shifted right by `n` bits, rounding down. -/
def shiftRight (i : Int) (n : Nat) : Int :=
  if i.natAbs.log2 < n then (if i < 0 then -1 else 0) else Int.fdiv i (Nat.pow 2 n : Nat)

/-! ## Numbers -/

/-- `-`, `/`, `//` or `%` of two integers. -/
def intArith (op : Binary) (p r : Int) : Option (Except Raised Value) :=
  match op with
  | .sub => some (pure (.int (p - r)))
  | .trueDiv => some (do
      if r = 0 then throw ⟨"ZeroDivisionError", "division by zero"⟩
      let x := ratioToFloat ((p < 0) != (r < 0)) p.natAbs r.natAbs
      if x.isInf then throw ⟨"OverflowError", "integer division result too large for a float"⟩
      pure (.float x))
  | .floorDiv => some (do
      if r = 0 then throw ⟨"ZeroDivisionError", "integer division or modulo by zero"⟩
      pure (.int (Int.fdiv p r)))
  | .mod => some (do
      if r = 0 then throw ⟨"ZeroDivisionError", "integer modulo by zero"⟩
      pure (.int (Int.fmod p r)))
  | _ => none

/-- `-`, `/`, `//` or `%` of two fractions `p/q` and `r/s`. Dividing by zero names the
fraction the division would have made: its numerator is the sign of `p`, as reducing by the
common factor of the numerators leaves it. -/
def fractionArith (op : Binary) (p : Int) (q : Nat) (r : Int) (s : Nat) :
    Option (Except Raised Value) :=
  match op with
  | .sub => some (pure (makeFraction (p * s - r * q) (q * s)))
  | .trueDiv => some (do
      if r = 0 then throw ⟨"ZeroDivisionError", "Fraction(" ++ toString p.sign ++ ", 0)"⟩
      pure (makeFraction (p * s) (q * r)))
  | .floorDiv => some (do
      if r = 0 then throw ⟨"ZeroDivisionError", "integer division or modulo by zero"⟩
      pure (.int (Int.fdiv (p * s) (q * r))))
  | .mod => some (do
      if r = 0 then throw ⟨"ZeroDivisionError", "integer modulo by zero"⟩
      pure (makeFraction (Int.fmod (p * s) (r * q)) (q * s)))
  | _ => none

/-- `-`, `/`, `//` or `%` of two doubles; `wide` for the array library's doubles, which do not
fail on a zero divisor. -/
def floatArith (op : Binary) (wide : Bool) (x y : Float) : Option (Except Raised Value) :=
  let make (r : Float) : Value := if wide then .double r else .float r
  match op with
  | .sub => some (pure (make (x - y)))
  | .trueDiv => some (do
      if y == 0 && !wide then throw ⟨"ZeroDivisionError", "float division by zero"⟩
      pure (make (x / y)))
  | .floorDiv => some (do
      if y == 0 then
        if wide then pure (make (x / y))
        else throw ⟨"ZeroDivisionError", "float floor division by zero"⟩
      else pure (make (floatDivmod x y).1))
  | .mod => some (do
      if y == 0 then
        if wide then pure (make (floatMod x y))
        else throw ⟨"ZeroDivisionError", "float modulo"⟩
      else pure (make (floatDivmod x y).2))
  | _ => none

/-- `-`, `/`, `//` or `%` of two numbers, if both are numbers the operator applies to. -/
def numberArith (op : Binary) (a b : Value) : Option (Except Raised Value) :=
  if (a matches .decimal _) || (b matches .decimal _) then
    match asDecimal? a, asDecimal? b with
    | some x, some y =>
      let result (r : Except Raised DecimalNumber) : Option (Except Raised Value) :=
        some (do pure (.decimal (← r)))
      match op with
      | .sub => result (x.sub y)
      | .trueDiv => result (x.div y)
      | .floorDiv => result (x.divInt y)
      | .mod => result (x.rem y)
      | _ => none
    | _, _ => none
  else
    match asFraction? a, asFraction? b with
    | some (p, q), some (r, s) =>
      if (a matches .fraction ..) || (b matches .fraction ..) then fractionArith op p q r s
      else intArith op p r
    | _, _ =>
      if (a matches .complex ..) || (b matches .complex ..) then
        match asComplex? a, asComplex? b with
        | some x, some y =>
          match op with
          | .sub => some (do
              let (ar, ai) ← x
              let (br, bi) ← y
              pure (.complex (ar - br) (ai - bi)))
          | .trueDiv => some (do
              match complexQuotient (← x) (← y) with
              | some (re, im) => pure (.complex re im)
              | none => throw ⟨"ZeroDivisionError", "complex division by zero"⟩)
          | _ => none
        | _, _ => none
      else
        match asFloat? a, asFloat? b with
        | some x, some y =>
          let wide := (a matches .double _) || (b matches .double _)
          match x, y with
          | .ok x, .ok y => floatArith op wide x y
          | .error e, _ | _, .error e => some (throw e)
        | _, _ => none

/-- The integer a value stands for in bitwise arithmetic. -/
def bitOperand? : Value → Option Int
  | .bool b => some (if b then 1 else 0)
  | .int i => some i
  | _ => none

/-- A shift or bitwise operator on two integers; truth values give a truth value under `&`,
`|` and `^`. -/
def bitwiseArith (op : Binary) (a b : Value) : Option (Except Raised Value) :=
  match bitOperand? a, bitOperand? b with
  | some i, some j =>
    match op, a, b with
    | .bitAnd, .bool x, .bool y => some (pure (.bool (x && y)))
    | .bitOr, .bool x, .bool y => some (pure (.bool (x || y)))
    | .bitXor, .bool x, .bool y => some (pure (.bool (x != y)))
    | .bitAnd, _, _ => some (pure (.int (intAnd i j)))
    | .bitOr, _, _ => some (pure (.int (intOr i j)))
    | .bitXor, _, _ => some (pure (.int (intXor i j)))
    | .leftShift, _, _ => some (do
        if j < 0 then throw ⟨"ValueError", "negative shift count"⟩
        pure (.int (← shiftLeft i j.toNat)))
    | .rightShift, _, _ => some (do
        if j < 0 then throw ⟨"ValueError", "negative shift count"⟩
        pure (.int (shiftRight i j.toNat)))
    | _, _, _ => none
  | _, _ => none

/-! ## Other operands -/

/-- A binary operator applied to two values; `none` for the cases outside what is modelled
(the operators on sets, formatting with conversions). -/
def Value.binary (op : Binary) (a b : Value) : Act (Option Value) := do
  let h ← get
  let numeric := match op with
    | .sub | .trueDiv | .floorDiv | .mod => numberArith op a b
    | _ => bitwiseArith op a b
  match numeric with
  | some r => do pure (some (← reading fun _ => r))
  | Option.none =>
    let isSet (v : Value) : Bool := (setMembers? h v).isSome
    let plainMap? (v : Value) : Option (List (Value × Value)) :=
      match v with
      | .ref x =>
        match h.get x with
        | .dict cls es _ => if cls = builtin "dict" then some es else Option.none
        | _ => Option.none
      | _ => Option.none
    match op, a with
    | .mod, .str s => do pure (some (.str (← interpolate s b)))
    | .bitOr, _ =>
      match plainMap? a, plainMap? b with
      | some xs, some ys => do
        let es ← ys.foldlM (fun acc (k, v) => reading fun h => putEntry h acc k v) xs
        pure (some (← newDict es))
      | _, _ =>
        if isSet a && isSet b then a.combineSets .union b else throw (unsupported h op.symbol a b)
    | .sub, _ | .bitAnd, _ | .bitXor, _ =>
      let setOp : SetOperation := match op with
        | .sub => .difference
        | .bitAnd => .intersection
        | _ => .symmetricDifference
      if isSet a && isSet b then a.combineSets setOp b else throw (unsupported h op.symbol a b)
    | _, _ => throw (unsupported h op.symbol a b)

/-- The negation of a number. -/
def Value.negate (v : Value) : Act Value := do
  let h ← get
  match v with
  | .bool b => pure (.int (if b then -1 else 0))
  | .int i => pure (.int (-i))
  | .float x => pure (.float (-x))
  | .double x => pure (.double (-x))
  | .complex re im => pure (.complex (-re) (-im))
  | .fraction p q => pure (.fraction (-p) q)
  | .decimal d => reading fun _ => do pure (.decimal (← d.neg))
  | _ => throw ⟨"TypeError", "bad operand type for unary -: '" ++ v.typeName h ++ "'"⟩

/-- A number under unary plus: a truth value becomes an integer, a decimal is rounded. -/
def Value.positive (v : Value) : Act Value := do
  let h ← get
  match v with
  | .bool b => pure (.int (if b then 1 else 0))
  | .int _ | .float _ | .double _ | .complex .. | .fraction .. => pure v
  | .decimal d => reading fun _ => do pure (.decimal (← d.plus))
  | _ => throw ⟨"TypeError", "bad operand type for unary +: '" ++ v.typeName h ++ "'"⟩

/-- The bitwise complement of an integer. -/
def Value.complement (v : Value) : Act Value := do
  let h ← get
  match bitOperand? v with
  | some i => pure (.int (-i - 1))
  | Option.none => throw ⟨"TypeError", "bad operand type for unary ~: '" ++ v.typeName h ++ "'"⟩

/-! ## Containers -/

/-- The error of searching a value that cannot be iterated. -/
def notSearchable (h : Heap) (v : Value) : Raised :=
  ⟨"TypeError", "argument of type '" ++ v.typeName h ++ "' is not iterable"⟩

/-- Whether `t` occurs in `s` as a run of consecutive elements. -/
def occursIn {α : Type} [BEq α] (t s : List α) : Bool :=
  match s with
  | [] => t.isEmpty
  | _ :: rest => t.isPrefixOf s || occursIn t rest

/-- The position, counted from `i`, of the first value that satisfies a fallible test. -/
def firstMatch (p : Value → Except Raised Bool) : List Value → Nat → Except Raised (Option Nat)
  | [], _ => pure none
  | x :: rest, i => do if ← p x then pure (some i) else firstMatch p rest (i + 1)

/-- Whether `x` is in `container`, as `in` decides: a substring of a text or byte string, a key
of a map, a member of a set (which hashes `x`), a number of a range, or an element equal to `x`
of anything else that can be iterated, an iterator giving up its elements up to the one
found. -/
def Value.contains (container x : Value) : Act Bool := do
  let h ← get
  let search : Act Bool := do
    let items ← match sourceIn h nestingLimit container with
      | .ok s => s.take maxLength
      | .error _ => throw (notSearchable h container)
    reading fun h => x.memberOf h items
  match container with
  | .str s =>
    match x with
    | .str t => pure (occursIn t.toList s.toList)
    | _ => throw ⟨"TypeError", "'in <string>' requires string as left operand, not " ++ x.typeName h⟩
  | .frozenset xs _ => reading fun h => hasMember h xs x
  | .range start stop step =>
    match bitOperand? x with
    | some i =>
      if 0 < step then pure (start ≤ i ∧ i < stop ∧ (i - start) % step = 0)
      else pure (stop < i ∧ i ≤ start ∧ (start - i) % (-step) = 0)
    | Option.none => search
  | _ =>
    match bytesOf? h container with
    | some bs =>
      match x with
      | .int i =>
        if i < 0 ∨ 256 ≤ i then throw ⟨"ValueError", "byte must be in range(0, 256)"⟩
        else pure (bs.contains i.toNat.toUInt8)
      | .bool b => pure (bs.contains (if b then 1 else 0))
      | _ =>
        match bytesOf? h x with
        | some t => pure (occursIn t bs)
        | Option.none =>
          throw ⟨"TypeError", "a bytes-like object is required, not '" ++ x.typeName h ++ "'"⟩
    | Option.none =>
      match container with
      | .ref a =>
        match h.get a with
        | .dict _ es _ => do pure (← reading fun h => findEntry h es x).isSome
        | .set xs _ => reading fun h => hasMember h xs x
        | .iterator _ pending _ => do
          match ← reading fun h => firstMatch (fun y => y.equals h x) pending 0 with
          | some i => do let _ ← drawFrom a (i + 1); pure true
          | Option.none => do let _ ← drawFrom a (pending.length + 1); pure false
        | _ => search
      | _ => search

/-- The elements of a value searched for an element, failing as a search of a value that
cannot be iterated does. -/
def Value.searched (v : Value) : Act (List Value) := do
  let h ← get
  match sourceIn h nestingLimit v with
  | .error _ => throw (notSearchable h v)
  | .ok _ => v.elements

/-- How many elements of a value equal `x`. -/
def Value.countOf (v x : Value) : Act Nat := do
  let items ← v.searched
  reading fun h => items.foldlM (fun n y => do pure (if ← y.equals h x then n + 1 else n)) 0

/-- The position of the first element of a value equal to `x`. -/
def Value.indexOf (v x : Value) : Act Nat := do
  let items ← v.searched
  match ← reading fun h => firstMatch (fun y => y.equals h x) items 0 with
  | some i => pure i
  | Option.none => throw ⟨"ValueError", "sequence.index(x): x not in sequence"⟩

/-- Whether two values are one object, as far as values show it: cells by their address, and
the objects the language keeps one of — `None`, the truth values, small integers, empty or
one-letter texts, empty tuples and byte strings, classes, functions and modules. -/
def Value.same (a b : Value) : Bool :=
  match a, b with
  | .none, .none => true
  | .bool x, .bool y => x == y
  | .int i, .int j => i == j && -5 ≤ i && i ≤ 256
  | .str s, .str t => s == t && s.length ≤ 1 && s.toList.all fun c => c.toNat < 256
  | .tuple [], .tuple [] => true
  | .bytes x, .bytes y => x == y && x.length ≤ 1
  | .global m, .global n => m == n
  | .module m, .module n => m == n
  | .member c m, .member d n => c == d && m == n
  | .ref x, .ref y => x == y
  | _, _ => false

/-- The kinds of iterators that know how many elements they have left. -/
def hintedIterators : List String :=
  ["list_iterator", "tuple_iterator", "range_iterator", "longrange_iterator", "str_ascii_iterator",
    "str_iterator", "bytes_iterator", "bytearray_iterator", "set_iterator", "dict_keyiterator",
    "dict_valueiterator", "dict_itemiterator", "list_reverseiterator", "reversed",
    "dict_reversekeyiterator", "dict_reversevalueiterator", "dict_reverseitemiterator"]

/-- How many elements a value is expected to give: its length, the elements an iterator that
knows has left, or a default. -/
def Value.lengthHint (v : Value) (default : Int) : Act Int := do
  let h ← get
  match lengthIn h nestingLimit v with
  | .ok n => pure n
  | .error _ =>
    match v with
    | .ref a =>
      match h.get a with
      | .iterator kind pending _ =>
        if hintedIterators.contains kind then pure pending.length else pure default
      | _ => pure default
    | _ => pure default

/-! ## The operator functions -/

/-- An error of an operator restated for its in-place form: the symbol `plain` in the message
of operands the operator does not apply to becomes the augmented symbol `augmented`. -/
def inPlaceFault (plain augmented : String) (r : Raised) : Raised :=
  let shown := "unsupported operand type(s) for " ++ plain ++ ":"
  if r.kind = "TypeError" ∧ r.message.shown.startsWith shown then
    ⟨r.kind, "unsupported operand type(s) for " ++ augmented ++ ":" ++
      (r.message.shown.drop shown.length).toString⟩
  else r

/-- An operation whose errors of operands it does not apply to name the in-place symbol. -/
def inPlace {α : Type} (plain augmented : String) (act : Act α) : Act α :=
  tryCatch act fun r => throw (inPlaceFault plain augmented r)

/-- The list at an address, if the value is a list. -/
def listAt? (h : Heap) : Value → Option (Nat × List Value)
  | .ref a =>
    match h.get a with
    | .list xs => some (a, xs)
    | _ => none
  | _ => none

/-- Whether a value is a sequence that concatenates: a text, byte string, list or tuple. -/
def concatenates (h : Heap) (v : Value) : Bool :=
  match v with
  | .str _ | .bytes _ | .tuple _ | .named .. => true
  | .ref a =>
    match h.get a with
    | .list _ | .bytearray _ => true
    | _ => false
  | _ => false

/-- The function of the operator module of a name applied to arguments; `none` for a name it
does not model. In-place forms extend and repeat a list in place, update a map in place, and
otherwise compute as the plain operators do. -/
def operatorFunction (name : String) (args : List Value) : Option (Act Value) :=
  let two (f : Value → Value → Act Value) : Act Value :=
    match args with
    | [a, b] => f a b
    | _ => throw ⟨"TypeError", name ++ " expected 2 arguments, got " ++ toString args.length⟩
  let one (f : Value → Act Value) : Act Value :=
    match args with
    | [x] => f x
    | _ => throw ⟨"TypeError", "_operator." ++ name ++ "() takes exactly one argument (" ++
        toString args.length ++ " given)"⟩
  let binary (op : Binary) : Act Value := two fun a b => do pure ((← a.binary op b).getD .none)
  let augmented (op : Binary) : Act Value :=
    two fun a b => do
      let setOp? : Option SetOperation := match op with
        | .bitOr => some .union
        | .bitAnd => some .intersection
        | .sub => some .difference
        | .bitXor => some .symmetricDifference
        | _ => Option.none
      let inPlaceSet ← match setOp? with
        | some setOp => a.combineSetsInPlace setOp b
        | Option.none => pure Option.none
      match inPlaceSet with
      | some r => pure r
      | Option.none => inPlace op.symbol (op.symbol ++ "=") (binary op)
  let compare (c : Comparison) : Act Value :=
    two fun a b => reading fun h => do pure (.bool (← a.compare h c b))
  let concat (a b : Value) : Act Value := do
    if concatenates (← get) a then a.combine .add b
    else throw ⟨"TypeError", "'" ++ a.typeName (← get) ++ "' object can't be concatenated"⟩
  let extend (a b : Value) (otherwise : Act Value) : Act Value := do
    match listAt? (← get) a with
    | some (addr, xs) => do
      let ys ← b.elements
      store addr (.list (xs ++ ys))
      pure a
    | Option.none => otherwise
  match name with
  | "add" => some (two fun a b => a.combine .add b)
  | "iadd" => some (two fun a b => extend a b (inPlace "+" "+=" (a.combine .add b)))
  | "mul" => some (two fun a b => a.combine .mul b)
  | "imul" => some (two fun a b => do
      match listAt? (← get) a with
      | some (addr, xs) => do
        match repeatCount? b with
        | some n =>
          if memoryBound < n.toNat * xs.length then throw memoryFault
          store addr (.list (repeatList xs n))
          pure a
        | Option.none =>
          throw ⟨"TypeError", "can't multiply sequence by non-int of type '" ++
            b.typeName (← get) ++ "'"⟩
      | Option.none => inPlace "*" "*=" (a.combine .mul b))
  | "pow" => some (two fun a b => do pure ((← a.power b none).getD .none))
  | "ipow" => some (two fun a b =>
      inPlace "** or pow()" "**=" do pure ((← a.power b none).getD .none))
  | "sub" => some (binary .sub)
  | "isub" => some (augmented .sub)
  | "truediv" => some (binary .trueDiv)
  | "itruediv" => some (augmented .trueDiv)
  | "floordiv" => some (binary .floorDiv)
  | "ifloordiv" => some (augmented .floorDiv)
  | "mod" => some (binary .mod)
  | "imod" => some (augmented .mod)
  | "lshift" => some (binary .leftShift)
  | "ilshift" => some (augmented .leftShift)
  | "rshift" => some (binary .rightShift)
  | "irshift" => some (augmented .rightShift)
  | "and_" => some (binary .bitAnd)
  | "iand" => some (augmented .bitAnd)
  | "or_" => some (binary .bitOr)
  | "ior" => some (two fun a b => do
      match a with
      | .ref addr =>
        match (← get).get addr with
        | .dict cls es factory =>
          if cls = builtin "dict" then do
            let more ← b.entriesFrom
            let es ← more.foldlM (fun acc (k, v) => reading fun h => putEntry h acc k v) es
            store addr (.dict cls es factory)
            pure a
          else augmented .bitOr
        | _ => augmented .bitOr
      | _ => augmented .bitOr)
  | "xor" => some (binary .bitXor)
  | "ixor" => some (augmented .bitXor)
  | "matmul" => some (binary .matMul)
  | "imatmul" => some (augmented .matMul)
  | "concat" => some (two concat)
  | "iconcat" => some (two fun a b => extend a b (concat a b))
  | "getitem" => some (two fun a b => a.getItem b)
  | "contains" => some (two fun a b => do pure (.bool (← a.contains b)))
  | "countOf" => some (two fun a b => do pure (.int (← a.countOf b)))
  | "indexOf" => some (two fun a b => do pure (.int (← a.indexOf b)))
  | "is_" => some (two fun a b => pure (.bool (a.same b)))
  | "is_not" => some (two fun a b => pure (.bool !(a.same b)))
  | "eq" => some (two fun a b => reading fun h => do pure (.bool (← a.equals h b)))
  | "ne" => some (two fun a b => reading fun h => do pure (.bool !(← a.equals h b)))
  | "lt" => some (compare .lt)
  | "le" => some (compare .le)
  | "gt" => some (compare .gt)
  | "ge" => some (compare .ge)
  | "truth" => some (one fun x => do pure (.bool (← x.truthy)))
  | "not_" => some (one fun x => do pure (.bool !(← x.truthy)))
  | "index" => some (one fun x => do pure (.int (← reading fun h => asIndex h x)))
  | "abs" => some (one Value.magnitude)
  | "neg" => some (one Value.negate)
  | "pos" => some (one Value.positive)
  | "inv" | "invert" => some (one Value.complement)
  | "length_hint" => some (do
      match args with
      | [] => throw ⟨"TypeError", "length_hint expected at least 1 argument, got 0"⟩
      | [x] => do pure (.int (← x.lengthHint 0))
      | [x, d] => do
        let d ← reading fun h => asIndex h d
        pure (.int (← x.lengthHint d))
      | _ => throw ⟨"TypeError", "length_hint expected at most 2 arguments, got " ++
          toString args.length⟩)
  | _ => none

end ItemRecommender.Object
