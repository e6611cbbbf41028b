import ItemRecommender.Object.Iteration
/-! # Arithmetic on objects

    Sums and products follow the language's tower of numbers: two integers give an integer;
    an integer or a fraction with a fraction gives a fraction; a decimal with an integer or a
    decimal gives a decimal, rounded to its precision, and cannot meet a double, a fraction or
    a complex number; anything with a double gives a double (of the array library's type when
    one operand is); anything with a complex number gives a complex number. Texts, byte strings,
    tuples and lists are joined by `+` and repeated by `*` with an integer. Any other pair
    fails, naming the operator and both types.

    `Value.toFloat` and `Value.toInt` are the conversions of the core's `float` and `int`:
    numbers convert (integers toward zero), texts are read as literals, anything else fails. -/

namespace ItemRecommender.Object

open ItemRecommender.Decimal

/-- The error of an operator that does not apply to two values. -/
def unsupported (h : Heap) (symbol : String) (a b : Value) : Raised :=
  ⟨"TypeError", "unsupported operand type(s) for " ++ symbol ++ ": '" ++ a.typeName h ++
    "' and '" ++ b.typeName h ++ "'"⟩

/-- The error of converting an integer too large for a double. -/
def intTooLarge : Raised := ⟨"OverflowError", "int too large to convert to float"⟩

/-- An integer as a double. -/
def intAsFloat (i : Int) : Except Raised Float :=
  match intToFloat? i with
  | some x => pure x
  | none => throw intTooLarge

/-- The double a real number converts to inside arithmetic with doubles. -/
def asFloat? : Value → Option (Except Raised Float)
  | .bool b => some (pure (if b then 1.0 else 0.0))
  | .int i => some (intAsFloat i)
  | .float x | .double x => some (pure x)
  | .fraction p q => some (pure (ratioToFloat (p < 0) p.natAbs q))
  | _ => none

/-- A fraction in lowest terms. -/
def makeFraction (p : Int) (q : Int) : Value :=
  let g := Nat.gcd p.natAbs q.natAbs
  let g := if g = 0 then 1 else g
  let (p, q) := if q < 0 then (-p, -q) else (p, q)
  .fraction (p / g) (q / g).toNat

/-- The fraction an integer or fraction stands for. -/
def asFraction? : Value → Option (Int × Nat)
  | .bool b => some (if b then 1 else 0, 1)
  | .int i => some (i, 1)
  | .fraction p q => some (p, q)
  | _ => none

/-- The decimal an integer or decimal stands for. -/
def asDecimal? : Value → Option DecimalNumber
  | .bool b => some (DecimalNumber.ofInt (if b then 1 else 0))
  | .int i => some (DecimalNumber.ofInt i)
  | .decimal d => some d
  | _ => none

/-- The complex number a number stands for in complex arithmetic. -/
def asComplex? (v : Value) : Option (Except Raised (Float × Float)) :=
  match v with
  | .complex re im => some (pure (re, im))
  | _ => (asFloat? v).map fun r => do pure (← r, 0.0)

/-- The arithmetic operators. -/
inductive Operator where
  | add
  | mul
  deriving DecidableEq, Repr

/-- Two numbers combined by an operator, if both are numbers that combine. -/
def numberOp (op : Operator) (a b : Value) : Option (Except Raised Value) :=
  let isDecimal (v : Value) : Bool := v matches .decimal _
  if isDecimal a || isDecimal b then
    match asDecimal? a, asDecimal? b with
    | some x, some y =>
      some (do pure (.decimal (← match op with
        | .add => x.add y
        | .mul => x.mul y)))
    | _, _ => none
  else
    match asFraction? a, asFraction? b with
    | some (p, q), some (r, s) =>
      match a, b with
      | .fraction .., _ | _, .fraction .. =>
        some (pure (match op with
          | .add => makeFraction (p * s + r * q) (q * s)
          | .mul => makeFraction (p * r) (q * s)))
      | _, _ =>
        some (pure (.int (match op with
          | .add => p + r
          | .mul => p * r)))
    | _, _ =>
      let isComplex (v : Value) : Bool := v matches .complex _ _
      if isComplex a || isComplex b then
        match asComplex? a, asComplex? b with
        | some x, some y =>
          some (do
            let (ar, ai) ← x
            let (br, bi) ← y
            pure (match op with
              | .add => .complex (ar + br) (ai + bi)
              | .mul => .complex (ar * br - ai * bi) (ar * bi + ai * br)))
        | _, _ => none
      else
        match asFloat? a, asFloat? b with
        | some x, some y =>
          let wide := (a matches .double _) || (b matches .double _)
          some (do
            let x ← x
            let y ← y
            let r := match op with
              | .add => x + y
              | .mul => x * y
            pure (if wide then .double r else .float r))
        | _, _ => none

/-- The count a value stands for when it repeats a sequence. -/
def repeatCount? : Value → Option Int
  | .bool b => some (if b then 1 else 0)
  | .int i => some i
  | _ => none

/-- A list repeated `n` times. -/
def repeatList {α : Type} (xs : List α) (n : Int) : List α :=
  (List.replicate n.toNat xs).flatten

/-- Combines two values by an operator. -/
def Value.combine (op : Operator) (a b : Value) : Act Value := do
  let h ← get
  match numberOp op a b with
  | some r => reading fun _ => r
  | Option.none =>
    let sequence? (v : Value) : Option (Bool × List Value) :=
      match v with
      | .tuple xs | .named _ _ xs => some (false, xs)
      | .ref x =>
        match h.get x with
        | .list xs => some (true, xs)
        | _ => Option.none
      | _ => Option.none
    match op with
    | .add =>
      match a, b with
      | .str s, .str t => pure (.str (s ++ t))
      | .str _, _ =>
        throw ⟨"TypeError", "can only concatenate str (not \"" ++ b.typeName h ++ "\") to str"⟩
      | .bytes s, .bytes t => pure (.bytes (s ++ t))
      | _, _ =>
        match sequence? a, sequence? b with
        | some (true, xs), some (true, ys) => newList (xs ++ ys)
        | some (false, xs), some (false, ys) => pure (.tuple (xs ++ ys))
        | some (list, _), _ =>
          let kind := if list then "list" else "tuple"
          throw ⟨"TypeError", "can only concatenate " ++ kind ++ " (not \"" ++ b.typeName h ++
            "\") to " ++ kind⟩
        | _, _ => throw (unsupported h "+" a b)
    | .mul =>
      let repeatOf (seq count : Value) : Option (Act Value) :=
        match repeatCount? count with
        | Option.none => Option.none
        | some n =>
          let size : Nat := match seq with
            | .str s => s.length
            | .bytes bs => bs.length
            | _ => ((sequence? seq).map fun p => p.2.length).getD 0
          let isSequence := (seq matches .str _) || (seq matches .bytes _) || (sequence? seq).isSome
          if isSequence && (maxLength : Int) < n then
            some (throw ⟨"OverflowError", "cannot fit 'int' into an index-sized integer"⟩)
          else if isSequence && memoryBound < n.toNat * size then some (throw memoryFault)
          else
          match seq with
          | .str s => some (pure (.str (String.join (List.replicate n.toNat s))))
          | .bytes bs => some (pure (.bytes (repeatList bs n)))
          | _ =>
            match sequence? seq with
            | some (true, xs) => some (newList (repeatList xs n))
            | some (false, xs) => some (pure (.tuple (repeatList xs n)))
            | Option.none => Option.none
      let isSequence (v : Value) : Bool :=
        (v matches .str _) || (v matches .bytes _) || (sequence? v).isSome
      match repeatOf a b, repeatOf b a with
      | some r, _ => r
      | Option.none, some r => r
      | Option.none, Option.none =>
        if isSequence a && !(b matches .ref _) && !(b matches .tuple _) &&
            !(b matches .named ..) then
          throw ⟨"TypeError", "can't multiply sequence by non-int of type '" ++ b.typeName h ++ "'"⟩
        else if isSequence b && !(a matches .ref _) && !(a matches .tuple _) &&
            !(a matches .named ..) then
          throw ⟨"TypeError", "can't multiply sequence by non-int of type '" ++ a.typeName h ++ "'"⟩
        else if isSequence a && isSequence b then
          throw ⟨"TypeError", "can't multiply sequence by non-int of type '" ++ b.typeName h ++ "'"⟩
        else throw (unsupported h "*" a b)

/-- The magnitude of a double's complex number, scaled to avoid overflow in the squares. -/
def complexMagnitude (re im : Float) : Float :=
  let a := re.abs
  let b := im.abs
  if a.isInf || b.isInf then Float.ofScientific 1 false 400
  else
    let m := max a b
    let n := min a b
    if m == 0 then 0 else m * Float.sqrt (1 + (n / m) * (n / m))

/-- The magnitude of a number. -/
def Value.magnitude (v : Value) : Act Value := do
  let h ← get
  match v with
  | .bool b => pure (.int (if b then 1 else 0))
  | .int i => pure (.int i.natAbs)
  | .float x => pure (.float x.abs)
  | .double x => pure (.double x.abs)
  | .complex re im => pure (.float (complexMagnitude re im))
  | .decimal d => reading fun _ => do pure (.decimal (← d.abs))
  | .fraction p q => pure (.fraction p.natAbs q)
  | _ => throw ⟨"TypeError", "bad operand type for abs(): '" ++ v.typeName h ++ "'"⟩

/-- Reads a text as a double, as the core's `float` does. -/
def readFloatText (shown : String) (s : String) : Except Raised Float :=
  match readFloatLiteral? s.toList with
  | some x => pure x
  | none => throw ⟨"ValueError", "could not convert string to float: " ++ shown⟩

/-- A value as a double, as the core's `float` converts it. -/
def Value.toFloat (v : Value) : Act Float := do
  let h ← get
  match v with
  | .bool b => pure (if b then 1.0 else 0.0)
  | .int i => reading fun _ => intAsFloat i
  | .float x | .double x => pure x
  | .decimal d => reading fun _ => d.toFloat
  | .fraction p q => pure (ratioToFloat (p < 0) p.natAbs q)
  | .str s => reading fun _ => readFloatText (Text.quote s) s
  | _ =>
    match bytesOf? h v with
    | some bs =>
      reading fun _ => readFloatText (bytesText bs) (String.ofList (bs.map fun b => Char.ofNat b.toNat))
    | Option.none =>
      throw ⟨"TypeError", "float() argument must be a string or a real number, not '" ++
        v.typeName h ++ "'"⟩

/-- The integer part of a double. -/
def truncateFloat (x : Float) : Except Raised Int :=
  if x.isNaN then throw ⟨"ValueError", "cannot convert float NaN to integer"⟩
  else if x.isInf then throw ⟨"OverflowError", "cannot convert float infinity to integer"⟩
  else
    match Exact.ofFloat x with
    | .ratio p q => pure (truncRatio p q)
    | _ => pure 0

/-- Reads a text as a base-10 integer, as the core's `int` does. -/
def readIntText (shown : String) (s : String) : Except Raised Int :=
  match readInt s.toList with
  | .ok i => pure i
  | .error (.tooLong n) =>
    throw ⟨"ValueError", "Exceeds the limit (" ++ toString maxIntDigits ++
      " digits) for integer string conversion: value has " ++ toString n ++
      " digits; use sys.set_int_max_str_digits() to increase the limit"⟩
  | .error .malformed =>
    throw ⟨"ValueError", "invalid literal for int() with base 10: " ++ shown⟩

/-- A value as an integer, as the core's `int` converts it. -/
def Value.toInt (v : Value) : Act Int := do
  let h ← get
  match v with
  | .bool b => pure (if b then 1 else 0)
  | .int i => pure i
  | .float x | .double x => reading fun _ => truncateFloat x
  | .decimal d =>
    match d with
    | .finite _ _ _ =>
      match d.toExact with
      | .ratio p q => pure (truncRatio p q)
      | _ => pure 0
    | .infinite _ => throw ⟨"OverflowError", "cannot convert Infinity to integer"⟩
    | .nan .. => throw ⟨"ValueError", "cannot convert NaN to integer"⟩
  | .fraction p q => pure (truncRatio p q)
  | .str s => reading fun _ => readIntText (Text.quote s) s
  | _ =>
    match bytesOf? h v with
    | some bs =>
      reading fun _ => readIntText (bytesText bs) (String.ofList (bs.map fun b => Char.ofNat b.toNat))
    | Option.none =>
      throw ⟨"TypeError", "int() argument must be a string, a bytes-like object or a real number, not '" ++
        v.typeName h ++ "'"⟩

/-- Whether a value counts as true. -/
def Value.truthy (v : Value) : Act Bool := do
  match v with
  | .none => pure false
  | .bool b => pure b
  | .int i => pure (i != 0)
  | .float x | .double x => pure (x != 0)
  | .complex re im => pure (re != 0 || im != 0)
  | .decimal d =>
    match d with
    | .finite _ c _ => pure (c != 0)
    | _ => pure true
  | .fraction p _ => pure (p != 0)
  | .str s => pure !s.isEmpty
  | .bytes bs => pure !bs.isEmpty
  | .tuple xs | .named _ _ xs | .frozenset xs _ => pure !xs.isEmpty
  | .range s e k => pure (rangeLength s e k != 0)
  | .ref a =>
    match ← cellAt a with
    | .list xs | .set xs _ => pure !xs.isEmpty
    | .dict _ es _ => pure !es.isEmpty
    | .bytearray bs => pure !bs.isEmpty
    | .object cls _ _ =>
      if cls = ⟨recordModule, "UserVector"⟩ || cls = mapWrapper then do pure ((← v.length) != 0)
      else pure true
    | .iterator .. => pure true
  | _ => pure true

end ItemRecommender.Object
