import ItemRecommender.Object.Arithmetic
import ItemRecommender.Object.DecimalPower
/-! # Division with remainder and powers

    `divmod` and `pow` of the core, on the numbers they apply to:

    * two integers divide by floor division, the remainder taking the divisor's sign; a power
      of a negative exponent is a double, and a power with a modulus lies between the modulus
      and zero;
    * a fraction with an integer or a fraction divides into an integer quotient and a fraction
      remainder, and is raised to an integer power as a fraction;
    * doubles divide as the core does: the remainder of the C library's `fmod`, moved to the
      divisor's sign, and the quotient snapped to the nearest integer. Powers treat zeros,
      infinities, NaNs and negative bases before the C library's `pow`, and a negative base with
      a fractional exponent gives a complex number;
    * a double of the array library computes as the array library does, without errors: a
      division by zero gives an infinity or a NaN, and a power is the C library's `pow`.

    Powers of decimals are outside what these model. -/

namespace ItemRecommender.Object

/-- Whether a double's sign bit is set. -/
def signBit (x : Float) : Bool := x.toBits >>> 63 == 1

/-- The magnitude of `x` with the sign of `y`. -/
def copySign (x y : Float) : Float :=
  let magnitude := x.abs
  if signBit y then -magnitude else magnitude

/-- The remainder of `x` by `y` with the sign of `x`, as the C library's `fmod` gives it. It is
exact, since the remainder is a double; it is a NaN when `x` is infinite or `y` is zero, and `x`
when only `y` is infinite. -/
def floatMod (x y : Float) : Float :=
  if x.isNaN || y.isNaN || x.isInf || y == 0 then 0.0 / 0.0
  else if y.isInf then x
  else
    match Exact.ofFloat x, Exact.ofFloat y with
    | .ratio p q, .ratio r s =>
      let t := Int.tdiv (p * s) (q * r)
      let num := p * s - t * r * q
      if num = 0 then copySign 0.0 x
      else ratioToFloat (num < 0) num.natAbs (q * s)
    | _, _ => 0.0 / 0.0

/-- The floor quotient and remainder of two doubles, the divisor not zero: the remainder of
`floatMod` moved to the divisor's sign, a zero remainder taking the divisor's sign, and the
quotient `(x - remainder) / y` snapped to the nearest integer, a zero quotient taking the sign
of `x / y`. -/
def floatDivmod (x y : Float) : Float × Float :=
  let m := floatMod x y
  let d := (x - m) / y
  let (d, m) :=
    if m != 0 then
      if (y < 0) != (m < 0) then (d - 1.0, m + y) else (d, m)
    else (d, copySign 0.0 y)
  let q :=
    if d != 0 then
      let f := d.floor
      if d - f > 0.5 then f + 1.0 else f
    else copySign 0.0 (x / y)
  (q, m)

/-- The error of `divmod` on two values it does not apply to. -/
def noDivmod (h : Heap) (a b : Value) : Raised := unsupported h "divmod()" a b

/-- `divmod` of two values: a decimal with an integer or a decimal divides into the truncated
integer quotient and the remainder of the dividend's sign. The result is always present. -/
def Value.divmod (a b : Value) : Act (Option Value) := do
  let h ← get
  match asFraction? a, asFraction? b with
  | some (p, q), some (r, s) =>
    if r = 0 then throw ⟨"ZeroDivisionError", "integer division or modulo by zero"⟩
    match a, b with
    | .fraction .., _ | _, .fraction .. =>
      pure (some (.tuple [.int (Int.fdiv (p * s) (q * r)),
        makeFraction (Int.fmod (p * s) (q * r)) (q * s)]))
    | _, _ => pure (some (.tuple [.int (Int.fdiv p r), .int (Int.fmod p r)]))
  | _, _ =>
    match a, b with
    | .decimal _, _ | _, .decimal _ =>
      match asDecimal? a, asDecimal? b with
      | some x, some y => do
        let (q, r) ← reading fun _ => x.divRem y
        pure (some (.tuple [.decimal q, .decimal r]))
      | _, _ => throw (noDivmod h a b)
    | .complex .., _ | _, .complex .. => throw (noDivmod h a b)
    | _, _ =>
      match asFloat? a, asFloat? b with
      | some x, some y =>
        let x ← reading fun _ => x
        let y ← reading fun _ => y
        if (a matches .double _) || (b matches .double _) then
          if y == 0 then pure (some (.tuple [.double (x / y), .double (floatMod x y)]))
          else
            let (q, m) := floatDivmod x y
            pure (some (.tuple [.double q, .double m]))
        else if y == 0 then throw ⟨"ZeroDivisionError", "float divmod()"⟩
        else
          let (q, m) := floatDivmod x y
          pure (some (.tuple [.float q, .float m]))
      | _, _ => throw (noDivmod h a b)

/-- Whether a double is an odd integer. -/
def isOddInteger (x : Float) : Bool := floatMod x.abs 2.0 == 1.0

/-- The product of two complex numbers. -/
def complexProduct (a b : Float × Float) : Float × Float :=
  (a.1 * b.1 - a.2 * b.2, a.1 * b.2 + a.2 * b.1)

/-- The quotient of two complex numbers, dividing through by the larger part of the divisor;
`none` for a zero divisor. -/
def complexQuotient (a b : Float × Float) : Option (Float × Float) :=
  let (ar, ai) := a
  let (br, bi) := b
  if br.abs >= bi.abs then
    if br.abs == 0 then none
    else
      let ratio := bi / br
      let denom := br + bi * ratio
      some ((ar + ai * ratio) / denom, (ai - ar * ratio) / denom)
  else if bi.abs >= br.abs then
    let ratio := br / bi
    let denom := br * ratio + bi
    some ((ar * ratio + ai) / denom, (ai * ratio - ar) / denom)
  else some (0.0 / 0.0, 0.0 / 0.0)

/-- `r` times a complex number `p` raised to a natural power, by squaring: each bit of the power
from the lowest multiplies `r` by the current square, with at most `fuel` bits. -/
def complexPowerNat (r p : Float × Float) (n : Nat) : Nat → Float × Float
  | 0 => r
  | fuel + 1 =>
    if n = 0 then r
    else
      let r := if n % 2 = 1 then complexProduct r p else r
      complexPowerNat r (complexProduct p p) (n / 2) fuel

/-- A complex number raised to a complex power: an integer power of at most a hundred by
squaring, any other through the polar form. Zero raised to a negative or complex power is a
division by zero, and an infinite part an overflow. -/
def complexPower (a b : Float × Float) : Except Raised Value := do
  let divisionByZero : Raised := ⟨"ZeroDivisionError", "0.0 to a negative or complex power"⟩
  let (re, im) ← if b.2 == 0 && b.1 == b.1.floor && b.1.abs <= 100.0 then
      let n := b.1.abs.toUInt64.toNat
      let p := complexPowerNat (1.0, 0.0) a n 8
      if 0 < b.1 then pure p
      else
        match complexQuotient (1.0, 0.0) p with
        | some q => pure q
        | none => throw divisionByZero
    else if b.1 == 0 && b.2 == 0 then pure (1.0, 0.0)
    else if a.1 == 0 && a.2 == 0 then
      if b.2 != 0 || b.1 < 0 then throw divisionByZero else pure (0.0, 0.0)
    else
      let magnitude := Float.sqrt (a.1 * a.1 + a.2 * a.2)
      let angle := Float.atan2 a.2 a.1
      let length := Float.pow magnitude b.1
      let phase := angle * b.1
      let (length, phase) :=
        if b.2 != 0 then (length / Float.exp (angle * b.2), phase + b.2 * Float.log magnitude)
        else (length, phase)
      pure (length * Float.cos phase, length * Float.sin phase)
  if re.isInf || im.isInf then throw ⟨"OverflowError", "complex exponentiation"⟩
  pure (.complex re im)

/-- A double raised to a double, as the core's `**` on doubles: zero exponents, NaNs,
infinities, zero and negative bases first, then the C library's `pow`; a finite result out of
range is an overflow. -/
def floatPower (x y : Float) : Except Raised Value := do
  if y == 0 then return .float 1.0
  if x.isNaN then return .float x
  if y.isNaN then return .float (if x == 1.0 then 1.0 else y)
  if y.isInf then
    let m := x.abs
    return .float (if m == 1.0 then 1.0 else if (y > 0) == (m > 1.0) then y.abs else 0.0)
  if x.isInf then
    let odd := isOddInteger y
    return .float (if y > 0 then (if odd then x else x.abs) else (if odd then copySign 0.0 x else 0.0))
  if x == 0 then
    if y < 0 then throw ⟨"ZeroDivisionError", "0.0 cannot be raised to a negative power"⟩
    return .float (if isOddInteger y then x else 0.0)
  if x < 0 ∧ y != y.floor then return ← complexPower (x, 0.0) (y, 0.0)
  let negate := x < 0 && isOddInteger y
  let base := x.abs
  if base == 1.0 then return .float (if negate then -1.0 else 1.0)
  let r := Float.pow base y
  if r.isInf then throw ⟨"OverflowError", "(34, 'Numerical result out of range')"⟩
  pure (.float (if negate then -r else r))

/-- The most bits a power of integers may have before it is refused for want of memory. -/
def powerBitBound : Nat := Nat.pow 2 26

/-- An integer raised to a natural power, refused when the result would be too large to hold. -/
def intPower (b : Int) (e : Nat) : Except Raised Int :=
  if 1 < b.natAbs ∧ powerBitBound < e * (b.natAbs.log2 + 1) then throw memoryFault
  else pure (Int.pow b e)

/-- The inverse of `a` modulo `m` (`m > 1`), if there is one, by the extended Euclidean
algorithm with at most `fuel` steps. -/
def modularInverse (a m : Int) : Option Int :=
  let rec go : Nat → Int → Int → Int → Int → Option Int
    | 0, _, _, _, _ => none
    | fuel + 1, r0, r1, t0, t1 =>
      if r1 = 0 then (if r0 = 1 then some (Int.emod t0 m) else none)
      else
        let q := r0 / r1
        go fuel r1 (r0 - q * r1) t1 (t0 - q * t1)
  go (2 * m.natAbs.log2 + 4) m (Int.emod a m) 0 1

/-- A fraction raised to an integer power: a negative power inverts it, and inverting zero is a
division by zero. -/
def fractionPower (p : Int) (q : Nat) (e : Int) : Except Raised Value := do
  if 0 ≤ e then pure (makeFraction (← intPower p e.toNat) (← intPower q e.toNat))
  else if p = 0 then throw ⟨"ZeroDivisionError", "Fraction(" ++ toString (← intPower q e.natAbs) ++ ", 0)"⟩
  else pure (makeFraction (← intPower q e.natAbs) (← intPower p e.natAbs))

/-- `pow` of two values, with an optional modulus. An integer power of integers is an integer,
of a fraction a fraction, and a fraction of denominator one as the exponent counts as its
numerator; a power with a decimal number is a decimal number. -/
def Value.power (a b : Value) (modulus : Option Value) : Act (Option Value) := do
  let h ← get
  let integer? (v : Value) : Option Int := match v with
    | .int i => some i
    | .bool x => some (if x then 1 else 0)
    | _ => Option.none
  let wholeExponent? (v : Value) : Option Int := match v with
    | .fraction e 1 => some e
    | _ => integer? v
  match modulus with
  | some .none | Option.none =>
    match integer? a, integer? b with
    | some x, some y =>
      if 0 ≤ y then do pure (some (.int (← reading fun _ => intPower x y.toNat)))
      else reading fun _ => do pure (some (← floatPower (← intAsFloat x) (← intAsFloat y)))
    | _, _ =>
      match asFraction? a, wholeExponent? b with
      | some (p, q), some e =>
        if (a matches .fraction ..) || e < 0 then reading fun _ => do pure (some (← fractionPower p q e))
        else do pure (some (.int (← reading fun _ => intPower p e.toNat)))
      | _, _ =>
        match a, b with
        | .decimal _, _ | _, .decimal _ =>
          match asDecimal? a, asDecimal? b with
          | some x, some y => reading fun _ => do pure (some (.decimal (← x.pow y)))
          | _, _ => throw (unsupported h "** or pow()" a b)
        | .complex .., _ | _, .complex .. =>
          match asComplex? a, asComplex? b with
          | some x, some y => reading fun _ => do pure (some (← complexPower (← x) (← y)))
          | _, _ => throw (unsupported h "** or pow()" a b)
        | _, _ =>
          match asFloat? a, asFloat? b with
          | some x, some y =>
            let x ← reading fun _ => x
            let y ← reading fun _ => y
            if (a matches .double _) || (b matches .double _) then pure (some (.double (Float.pow x y)))
            else reading fun _ => do pure (some (← floatPower x y))
          | _, _ => throw (unsupported h "** or pow()" a b)
  | some m =>
    match integer? a, integer? b, integer? m with
    | some x, some y, some m =>
      if m = 0 then throw ⟨"ValueError", "pow() 3rd argument cannot be 0"⟩
      let n := m.natAbs
      let base ← if 0 ≤ y then pure (Int.emod x n)
        else if n = 1 then pure 0
        else
          match modularInverse x n with
          | some inv => pure inv
          | Option.none => throw ⟨"ValueError", "base is not invertible for the given modulus"⟩
      let r : Int := powMod base.toNat y.natAbs n
      pure (some (.int (if m < 0 ∧ r ≠ 0 then r + m else r)))
    | _, _, _ =>
      throw ⟨"TypeError", "pow() 3rd argument not allowed unless all arguments are integers"⟩

end ItemRecommender.Object
