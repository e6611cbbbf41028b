import ItemRecommender.Object.Operator
import ItemRecommender.Object.SpecialFunctions
/-! # Functions of real numbers

    The functions of the math module. Each takes its arguments as doubles, or as integers where
    it counts, and fails as the module does:

    * a real number of any kind converts to a double: an integer too large for one fails, a
      decimal or a fraction converts as its own conversion does, and anything else is refused;
    * a function of the C library gives a NaN only outside its domain and an infinity only at a
      pole or on overflow, so a NaN from a number that is not a NaN is a domain error, and an
      infinity from a finite number is a range error for the functions that grow past every
      double (`exp`, `sinh`, ...) and a domain error for the others (`checkedResult`);
    * `floor`, `ceil` and `trunc` give integers, exactly, of any real number;
    * the logarithms take an integer too large for a double as its leading bits times a power
      of two;
    * `fsum` adds exactly, keeping the sum as partials that do not overlap, and rounds once
      (`ExactSum`);
    * `gamma` and `lgamma` follow Lanczos' approximation, with the reflection formula for
      negative arguments;
    * `hypot` and `dist` scale the squares by a power of two, add them with their roundoffs,
      and correct the square root once (`vectorNorm`);
    * `gcd`, `lcm`, `isqrt`, `factorial`, `comb` and `perm` compute on integers exactly. -/

namespace ItemRecommender.Object

/-! ## Doubles -/

/-- The double nearest to π. -/
def piDouble : Float := Float.ofBits 4614256656552045848

/-- The least positive normal double, `2^-1022`. -/
def leastNormal : Float := Float.ofBits 4503599627370496

/-- The error of an argument outside a function's domain. -/
def domainFault : Raised := ⟨"ValueError", "math domain error"⟩

/-- The error of a result too large for a double. -/
def rangeFault : Raised := ⟨"OverflowError", "math range error"⟩

/-- The result `r` of a function of the C library at `x`, checked: a NaN from a number is a
domain error, an infinity from a finite number a range error when the function `overflows` and
a domain error otherwise. -/
def checkedResult (overflows : Bool) (x r : Float) : Except Raised Float :=
  if r.isNaN && !x.isNaN then throw domainFault
  else if r.isInf && x.isFinite then throw (if overflows then rangeFault else domainFault)
  else pure r

/-- The result `r` of a function of two doubles, checked as `checkedResult` does: a NaN from
two numbers is a domain error, an infinity from two finite numbers a range error. -/
def checkedResult₂ (x y r : Float) : Except Raised Float :=
  if r.isNaN && !x.isNaN && !y.isNaN then throw domainFault
  else if r.isInf && x.isFinite && y.isFinite then throw rangeFault
  else pure r

/-- The functions of one double that the C library computes, with whether a finite argument can
overflow to an infinite result. -/
def libraryFunction? : String → Option ((Float → Float) × Bool)
  | "acos" => some (Float.acos, false)
  | "acosh" => some (Float.acosh, false)
  | "asin" => some (Float.asin, false)
  | "asinh" => some (Float.asinh, false)
  | "atan" => some (Float.atan, false)
  | "atanh" => some (Float.atanh, false)
  | "cbrt" => some (Float.cbrt, false)
  | "cos" => some (Float.cos, false)
  | "cosh" => some (Float.cosh, true)
  | "exp" => some (Float.exp, true)
  | "exp2" => some (Float.exp2, true)
  | "erf" => some (errorFunction, false)
  | "erfc" => some (complementaryErrorFunction, false)
  | "expm1" => some (expMinusOne, true)
  | "log1p" => some (logOnePlus, false)
  | "fabs" => some (Float.abs, false)
  | "sin" => some (Float.sin, false)
  | "sinh" => some (Float.sinh, true)
  | "sqrt" => some (Float.sqrt, false)
  | "tan" => some (Float.tan, false)
  | "tanh" => some (Float.tanh, false)
  | _ => none

/-- The integral part of a double, rounded toward zero. -/
def truncDouble (x : Float) : Float := if x < 0 then x.ceil else x.floor

/-- The fractional and integral parts of a double, both with its sign. -/
def splitParts (x : Float) : Float × Float :=
  if x.isInf then (copySign 0.0 x, x)
  else if x.isNaN then (x, x)
  else
    let whole := truncDouble x
    (copySign (x - whole) x, whole)

/-- The next double after `x` toward `y`. -/
def nextToward (x y : Float) : Float :=
  if x.isNaN then x
  else if y.isNaN then y
  else if x == y then y
  else if x == 0 then copySign (Float.ofBits 1) y
  else if (y > x) == (x > 0) then Float.ofBits (x.toBits + 1)
  else Float.ofBits (x.toBits - 1)

/-- The distance from a double's magnitude to the next larger double, or to the next smaller one
at the largest. -/
def unitInLastPlace (x : Float) : Float :=
  if x.isNaN then x
  else
    let x := x.abs
    if x.isInf then x
    else
      let up := nextToward x infinity
      if up.isInf then x - nextToward x (-infinity) else up - x

/-- `x` times two to the power `e`, as `ldexp` gives it: zeros, infinities and NaNs unchanged,
and an infinite result a range error. -/
def scaleByPower (x : Float) (e : Int) : Except Raised Float :=
  if x == 0 || !x.isFinite then pure x
  else
    let r := Float.scaleB x (max (-2200) (min 2200 e))
    if r.isInf then throw rangeFault else pure r

/-- The remainder of `x` by `y` nearest to zero, ties to the even multiple. -/
def nearestRemainder (x y : Float) : Float :=
  if x.isFinite && y.isFinite then
    if y == 0 then notANumber
    else
      let ax := x.abs
      let ay := y.abs
      let m := floatMod ax ay
      let c := ay - m
      let r := if m < c then m else if m > c then -c else m - 2.0 * floatMod (0.5 * (ax - m)) ay
      copySign 1.0 x * r
  else if x.isNaN then x
  else if y.isNaN then y
  else if x.isInf then notANumber
  else x

/-- The angle of the point `(x, y)`, with the signed zeros and infinities resolved first. -/
def angleOf (y x : Float) : Float :=
  if x.isNaN || y.isNaN then notANumber
  else if y.isInf then
    if x.isInf then
      copySign ((if signBit x then 0.75 else 0.25) * piDouble) y
    else copySign (0.5 * piDouble) y
  else if x.isInf || y == 0 then
    if signBit x then copySign piDouble y else copySign 0.0 y
  else Float.atan2 y x

/-- Whether `x` is an odd integer. -/
def isOddDouble (x : Float) : Bool := x.isFinite && floatMod x.abs 2.0 == 1.0

/-- `x` to the power `y`, with the infinities and NaNs resolved first; a NaN from finite
numbers, or an infinity from a zero base, is a domain error, and an infinity from other finite
numbers a range error. -/
def realPower (x y : Float) : Except Raised Float :=
  if !x.isFinite || !y.isFinite then
    if x.isNaN then pure (if y == 0 then 1.0 else x)
    else if y.isNaN then pure (if x == 1.0 then 1.0 else y)
    else if x.isInf then
      if y > 0 then pure (if isOddDouble y then x else x.abs)
      else if y == 0 then pure 1.0
      else pure (if isOddDouble y then copySign 0.0 x else 0.0)
    else if x.abs == 1.0 then pure 1.0
    else if y > 0 && x.abs > 1.0 then pure y
    else if y < 0 && x.abs < 1.0 then pure (-y)
    else pure 0.0
  else
    let r := Float.pow x y
    if r.isNaN then throw domainFault
    else if r.isInf then throw (if x == 0 then domainFault else rangeFault)
    else pure r

/-- Whether two doubles are close: equal, or within a tolerance relative to the larger or an
absolute one. -/
def closeDoubles (a b relative absolute : Float) : Bool :=
  if a == b then true
  else if a.isInf || b.isInf then false
  else
    let d := (b - a).abs
    d ≤ (relative * b).abs || d ≤ (relative * a).abs || d ≤ absolute

/-! ## Logarithms -/

/-- A logarithm of the C library on the whole line: zero gives negative infinity, and negative
numbers and negative infinity give a NaN. -/
def extendedLog (f : Float → Float) (x : Float) : Float :=
  if x.isFinite then
    if x > 0 then f x else if x == 0 then -infinity else notANumber
  else if x.isNaN || x > 0 then x
  else notANumber

/-- A logarithm of a value. An integer must be positive; one too large for a double is taken as
a double in `[0.5, 1)` times a power of two, so its logarithm is `f m + f 2 · e`. Anything else
is taken as a double. -/
def logarithmOf (h : Heap) (f : Float → Float) (v : Value) : Except Raised Float := do
  let integer? : Option Int := match v with
    | .bool b => some (if b then 1 else 0)
    | .int i => some i
    | _ => none
  match integer? with
  | some i =>
    if i ≤ 0 then throw domainFault
    else
      match intToFloat? i with
      | some x => pure (f x)
      | none =>
        let e := i.natAbs.log2 + 1
        let m := ratioToFloat false i.natAbs (Nat.pow 2 e)
        let (m, e) := if m == 1.0 then (0.5, e + 1) else (m, e)
        pure (f m + f 2.0 * Float.ofNat e)
  | none =>
    let x ← realArgument h v
    checkedResult false x (extendedLog f x)

/-- `log` with one argument, or two: the logarithm of the first over that of the base. -/
def logarithm (h : Heap) (args : List Value) : Except Raised Float :=
  match args with
  | [x] => logarithmOf h Float.log x
  | [x, base] => do
    let num ← logarithmOf h Float.log x
    let den ← logarithmOf h Float.log base
    if den == 0 then throw ⟨"ZeroDivisionError", "float division by zero"⟩
    else pure (num / den)
  | _ => throw ⟨"TypeError", "math.log requires 1 to 2 arguments"⟩

/-! ## Integers of real numbers -/

/-- The integer of a decimal under a rounding of its exact value; a NaN or an infinity has
none. -/
def decimalInteger (d : DecimalNumber) (rounding : Int → Nat → Int) : Except Raised Int :=
  match d with
  | .nan .. => throw ⟨"ValueError", "cannot convert NaN to integer"⟩
  | .infinite _ => throw ⟨"OverflowError", "cannot convert Infinity to integer"⟩
  | .finite .. =>
    match d.toExact with
    | .ratio p q => pure (rounding p q)
    | _ => pure 0

/-- The floor of a fraction with a positive denominator. -/
def floorRatio (p : Int) (q : Nat) : Int := Int.fdiv p q

/-- The ceiling of a fraction with a positive denominator. -/
def ceilRatio (p : Int) (q : Nat) : Int := -Int.fdiv (-p) q

/-- The integer `floor` (or `ceil`, when `up`) gives of a value: integers stay, fractions and
decimals round exactly, and anything else rounds as a double. -/
def roundedInteger (h : Heap) (up : Bool) (v : Value) : Except Raised Int := do
  let rounding := if up then ceilRatio else floorRatio
  match v with
  | .bool b => pure (if b then 1 else 0)
  | .int i => pure i
  | .fraction p q => pure (rounding p q)
  | .decimal d => decimalInteger d rounding
  | _ =>
    let x ← realArgument h v
    truncateFloat (if up then x.ceil else x.floor)

/-- The integer `trunc` gives of a value: only real numbers have one. -/
def truncatedInteger (h : Heap) (v : Value) : Except Raised Int :=
  match v with
  | .bool b => pure (if b then 1 else 0)
  | .int i => pure i
  | .float x | .double x => truncateFloat x
  | .fraction p q => pure (truncRatio p q)
  | .decimal d => decimalInteger d truncRatio
  | _ => throw ⟨"TypeError", "type " ++ v.typeName h ++ " doesn't define __trunc__ method"⟩

/-! ## Exact sums -/

/-- A sum of doubles kept exactly: partials of increasing magnitude whose binary digits do not
overlap, and the sum of the infinities and NaNs met, kept apart together with the sum of the
infinities alone. -/
structure ExactSum where
  partials : List Float
  special : Float
  infinities : Float

namespace ExactSum

/-- The empty sum. -/
def empty : ExactSum := ⟨[], 0.0, 0.0⟩

/-- Adds `x` into partials: each partial in turn is added by the two-sum, its roundoff kept when
not zero; the running total is the last. -/
def spread (partials : List Float) (x : Float) : List Float × Float :=
  partials.foldl (fun (kept, x) y =>
    let (x, y) := if x.abs < y.abs then (y, x) else (x, y)
    let hi := x + y
    let lo := y - (hi - x)
    (if lo != 0 then kept ++ [lo] else kept, hi)) ([], x)

/-- Adds a double. A total that stops being finite comes from overflow when the double was
finite; an infinity or NaN added is kept apart, and the partials start again. -/
def add (s : ExactSum) (x : Float) : Except Raised ExactSum :=
  let (kept, hi) := spread s.partials x
  if hi != 0 then
    if !hi.isFinite then
      if x.isFinite then throw ⟨"OverflowError", "intermediate overflow in fsum"⟩
      else pure ⟨[], s.special + x, if x.isInf then s.infinities + x else s.infinities⟩
    else pure { s with partials := kept ++ [hi] }
  else pure { s with partials := kept }

/-- Adds the partials from the largest down while the sum stays exact: the sum, the roundoff of
the last addition, and the partials left below it. -/
def fromTop (hi : Float) : List Float → Float × Float × List Float
  | [] => (hi, 0.0, [])
  | y :: rest =>
    let total := hi + y
    let lo := y - (total - hi)
    if lo != 0 then (total, lo, rest) else fromTop total rest

/-- The sum rounded once. Infinities of both signs make no sum; otherwise the largest partials
are added while exact, and a tie is broken toward the side of the partial below. -/
def total (s : ExactSum) : Except Raised Float :=
  if s.special != 0 then
    if s.infinities.isNaN then throw ⟨"ValueError", "-inf + inf in fsum"⟩ else pure s.special
  else
    match s.partials.reverse with
    | [] => pure 0.0
    | top :: rest =>
      let (hi, lo, below) := fromTop top rest
      match below with
      | next :: _ =>
        if (lo < 0 && next < 0) || (lo > 0 && next > 0) then
          let y := lo * 2.0
          let x := hi + y
          if y == x - hi then pure x else pure hi
        else pure hi
      | [] => pure hi

end ExactSum

/-! ## Gamma -/

/-- The numerator coefficients of the Lanczos sum, for `g = 6.0246...` and thirteen terms. -/
def lanczosNumerator : List Float :=
  [4761969815764182174, 4765930390633663575, 4764985644051772954, 4760499098151822874,
    4753126926655529448, 4743825433057030975, 4732626853539962666, 4719201174427651224,
    4703431370238653516, 4685632857438652395, 4665596911923288068, 4641621736398011218,
    4612826843881809669].map Float.ofBits

/-- The denominator coefficients of the Lanczos sum: those of `x (x + 1) ⋯ (x + 11)`. -/
def lanczosDenominator : List Float :=
  [0.0, 39916800.0, 120543840.0, 150917976.0, 105258076.0, 45995730.0, 13339535.0, 2637558.0,
    357423.0, 32670.0, 1925.0, 66.0, 1.0]

/-- The Lanczos parameter `g`. -/
def lanczosG : Float := Float.ofBits 4618469205124055040

/-- `g - 1/2`. -/
def lanczosGMinusHalf : Float := Float.ofBits 4617906255170633728

/-- The natural logarithm of π. -/
def logPi : Float := Float.ofBits 4607834224259998141

/-- The Lanczos sum at a positive `x`: the rational function evaluated by Horner's rule in `x`
below 5, and in `1 / x` above, where the powers of `x` would overflow. -/
def lanczosSum (x : Float) : Float :=
  let coefficients := lanczosNumerator.zip lanczosDenominator
  let (num, den) :=
    if x < 5.0 then
      coefficients.reverse.foldl (fun (n, d) (a, b) => (n * x + a, d * x + b)) (0.0, 0.0)
    else coefficients.foldl (fun (n, d) (a, b) => (n / x + a, d / x + b)) (0.0, 0.0)
  num / den

/-- `sin (π x)` for a finite `x`, reduced to the first half period so that it is exact at the
integers and half integers. -/
def sinPi (x : Float) : Float :=
  let y := floatMod x.abs 2.0
  let n := (2.0 * y).round
  let r :=
    if n == 0 then Float.sin (piDouble * y)
    else if n == 1 then Float.cos (piDouble * (y - 0.5))
    else if n == 2 then Float.sin (piDouble * (1.0 - y))
    else if n == 3 then -Float.cos (piDouble * (y - 1.5))
    else Float.sin (piDouble * (y - 2.0))
  copySign 1.0 x * r

/-- The product of the integers from `lo` up to `hi - 1`, split in halves so that the factors
stay balanced. -/
def rangeProduct (lo hi : Nat) : Nat :=
  if hi ≤ lo then 1
  else if hi = lo + 1 then lo
  else rangeProduct lo ((lo + hi) / 2) * rangeProduct ((lo + hi) / 2) hi
termination_by hi - lo

/-- The gamma function. Positive integers up to 23 give the factorials exactly; tiny arguments
give `1 / x`; beyond 200 the result overflows, or underflows for negative arguments; otherwise
Lanczos' approximation, corrected for the rounding of `x + g - 1/2`, with the reflection formula
for negative arguments. Zero and the negative integers are outside the domain. -/
def gammaOf (x : Float) : Except Raised Float :=
  if !x.isFinite then
    if x.isNaN || x > 0 then pure x else throw domainFault
  else if x == 0 then throw domainFault
  else if x == x.floor && x < 0 then throw domainFault
  else if x == x.floor && x ≤ 23.0 then
    pure (ratioToFloat false (rangeProduct 1 x.toUInt64.toNat) 1)
  else
    let absx := x.abs
    if absx < 1e-20 then
      let r := 1.0 / x
      if r.isInf then throw rangeFault else pure r
    else if absx > 200.0 then
      if x < 0 then pure (0.0 / sinPi x) else throw rangeFault
    else
      let y := absx + lanczosGMinusHalf
      let z := if absx > lanczosGMinusHalf then (y - absx) - lanczosGMinusHalf
        else (y - lanczosGMinusHalf) - absx
      let z := z * lanczosG / y
      let r :=
        if x < 0 then
          let r := -piDouble / sinPi absx / absx * Float.exp y / lanczosSum absx
          let r := r - z * r
          if absx < 140.0 then r / Float.pow y (absx - 0.5)
          else
            let s := Float.pow y (absx / 2.0 - 0.25)
            r / s / s
        else
          let r := lanczosSum absx / Float.exp y
          let r := r + z * r
          if absx < 140.0 then r * Float.pow y (absx - 0.5)
          else
            let s := Float.pow y (absx / 2.0 - 0.25)
            r * s * s
      if r.isInf then throw rangeFault else pure r

/-- The logarithm of the magnitude of the gamma function, by Lanczos' approximation and the
reflection formula; zero and the negative integers are poles. -/
def logGammaOf (x : Float) : Except Raised Float :=
  if !x.isFinite then pure (if x.isNaN then x else infinity)
  else if x == x.floor && x ≤ 2.0 then
    if x ≤ 0 then throw domainFault else pure 0.0
  else
    let absx := x.abs
    if absx < 1e-20 then pure (-Float.log absx)
    else
      let r := Float.log (lanczosSum absx) - lanczosG
      let r := r + (absx - 0.5) * (Float.log (absx + lanczosG - 0.5) - 1.0)
      let r := if x < 0 then logPi - Float.log (sinPi absx).abs - Float.log absx - r else r
      if r.isInf then throw rangeFault else pure r

/-! ## Norms -/

/-- A double split into a high part of 26 significant bits and the rest, by Veltkamp's
constant `2^27 + 1`. -/
def splitDouble (x : Float) : Float × Float :=
  let t := x * 134217729.0
  let hi := t - (t - x)
  (hi, x - hi)

/-- The product of two doubles as the rounded product and its roundoff (Dekker). -/
def exactProduct (x y : Float) : Float × Float :=
  let (xh, xl) := splitDouble x
  let (yh, yl) := splitDouble y
  let p := xh * yh
  let q := xh * yl + xl * yh
  let z := p + q
  (z, p - z + q + xl * yl)

/-- The sum of two doubles, the first the larger in magnitude, as the rounded sum and its
roundoff. -/
def fastSum (a b : Float) : Float × Float :=
  let x := a + b
  (x, (a - x) + b)

/-- The Euclidean norm of magnitudes whose largest is `max`, each scaled by the power of two
that brings `max` into `[0.5, 1)`: the squares are added to one with their roundoffs, and the
square root is corrected once by the residual. -/
def scaledNorm (xs : List Float) (max : Float) : Float :=
  let scale := Float.scaleB 1.0 (-max.frExp.2)
  let (csum, frac1, frac2) := xs.foldl (fun (csum, frac1, frac2) x =>
    let x := x * scale
    let (prHi, prLo) := exactProduct x x
    let (smHi, smLo) := fastSum csum prHi
    (smHi, frac1 + prLo, frac2 + smLo)) (1.0, 0.0, 0.0)
  let h := Float.sqrt (csum - 1.0 + (frac1 + frac2))
  let (prHi, prLo) := exactProduct (-h) h
  let (smHi, smLo) := fastSum csum prHi
  let x := smHi - 1.0 + ((frac1 + prLo) + (frac2 + smLo))
  (h + x / (2.0 * h)) / scale

/-- The Euclidean norm of magnitudes whose largest is `max`: an infinity wins over a NaN, a
single magnitude is itself, and subnormal magnitudes are first scaled up to normal ones. -/
def vectorNorm (xs : List Float) (max : Float) (foundNaN : Bool) : Float :=
  if max.isInf then max
  else if foundNaN then notANumber
  else if max == 0 || xs.length ≤ 1 then max
  else if max.frExp.2 < -1023 then
    leastNormal * scaledNorm (xs.map (· / leastNormal)) (max / leastNormal)
  else scaledNorm xs max

/-- The norm of a list of doubles, as `hypot` takes them. -/
def normOf (xs : List Float) : Float :=
  let ms := xs.map Float.abs
  vectorNorm ms (ms.foldl (fun m x => if x > m then x else m) 0.0) (ms.any Float.isNaN)

/-! ## Integers -/

/-- The largest value of a signed 64-bit word. -/
def wordMax : Int := 9223372036854775807

/-- The factorial of a natural number, refused when it would be too large to hold. -/
def factorialOf (n : Nat) : Except Raised Nat :=
  if powerBitBound < n * (n.log2 + 1) then throw memoryFault else pure (rangeProduct 1 (n + 1))

/-- `factorial` of an integer value. -/
def factorialValue (h : Heap) (v : Value) : Except Raised Value := do
  let n ← asIndex h v
  if n > wordMax then
    throw ⟨"OverflowError", "factorial() argument should not exceed " ++ toString wordMax⟩
  else if n < 0 then throw ⟨"ValueError", "factorial() not defined for negative values"⟩
  else pure (.int (← factorialOf n.toNat))

/-- The integers `comb` and `perm` take, which must not be negative. -/
def choiceArguments (h : Heap) (n k : Value) : Except Raised (Nat × Nat) := do
  let n ← asIndex h n
  let k ← asIndex h k
  if n < 0 then throw ⟨"ValueError", "n must be a non-negative integer"⟩
  if k < 0 then throw ⟨"ValueError", "k must be a non-negative integer"⟩
  pure (n.toNat, k.toNat)

/-- The product of the `k` integers below `n + 1`, refused when too large to hold. -/
def fallingProduct (n k : Nat) : Except Raised Nat :=
  if powerBitBound < k * (n.log2 + 1) then throw memoryFault else pure (rangeProduct (n + 1 - k) (n + 1))

/-- The number of ways to choose `k` of `n` things without order. -/
def combinations (h : Heap) (n k : Value) : Except Raised Value := do
  let (n, k) ← choiceArguments h n k
  if n < k then return .int 0
  let k := min k (n - k)
  if (k : Int) > wordMax then
    throw ⟨"OverflowError", "min(n - k, k) must not exceed " ++ toString wordMax⟩
  pure (.int ((← fallingProduct n k) / rangeProduct 1 (k + 1)))

/-- The number of ways to choose `k` of `n` things in order; without `k`, all of them. -/
def permutations (h : Heap) (n : Value) (k : Option Value) : Except Raised Value := do
  match k with
  | none | some .none => factorialValue h n
  | some k =>
    let (n, k) ← choiceArguments h n k
    if n < k then return .int 0
    if (k : Int) > wordMax then
      throw ⟨"OverflowError", "k must not exceed " ++ toString wordMax⟩
    pure (.int (← fallingProduct n k))

/-- The greatest common divisor of integer values, zero for none. -/
def gcdOf (h : Heap) (args : List Value) : Except Raised Int := do
  let xs ← args.mapM (asIndex h)
  pure (xs.foldl (fun g x => Int.ofNat (Int.gcd g x)) 0)

/-- The least common multiple of integer values, one for none. -/
def lcmOf (h : Heap) (args : List Value) : Except Raised Int := do
  match ← args.mapM (asIndex h) with
  | [] => pure 1
  | x :: xs => pure (xs.foldl (fun l y => Int.ofNat (Int.lcm l y)) x.natAbs)

/-! ## Dispatch -/

/-- The functions of the module that take exactly one argument. -/
def unaryMathFunctions : List String :=
  ["acos", "acosh", "asin", "asinh", "atan", "atanh", "cbrt", "ceil", "cos", "cosh", "degrees",
    "erf", "erfc", "exp", "exp2", "expm1", "fabs", "factorial", "floor", "frexp", "fsum", "gamma",
    "isfinite", "isinf", "isnan", "isqrt", "lgamma", "log10", "log1p", "log2", "modf", "radians",
    "sin", "sinh", "sqrt", "tan", "tanh", "trunc", "ulp"]

/-- The functions of the module that take exactly two arguments. -/
def binaryMathFunctions : List String :=
  ["atan2", "comb", "copysign", "dist", "fmod", "ldexp", "nextafter", "pow", "remainder"]

/-- The functions of the module that take keyword arguments. -/
def keywordMathFunctions : List String := ["isclose", "prod"]

/-- The tolerances of `isclose` from its keyword arguments. -/
def tolerances (h : Heap) (kwargs : List (String × Value)) : Except Raised (Float × Float) := do
  let (relative, absolute) ← kwargs.foldlM (fun (r, a) (k, v) =>
    if k = "rel_tol" then pure (some v, a)
    else if k = "abs_tol" then pure (r, some v)
    else throw ⟨"TypeError", "'" ++ k ++ "' is an invalid keyword argument for isclose()"⟩)
    ((none : Option Value), (none : Option Value))
  let relative ← match relative with
    | some v => realArgument h v
    | none => pure 1e-9
  let absolute ← match absolute with
    | some v => realArgument h v
    | none => pure 0.0
  if relative < 0 || absolute < 0 then throw ⟨"ValueError", "tolerances must be non-negative"⟩
  pure (relative, absolute)

/-- The function of one argument `name`, if it is one, applied. -/
def unaryMath (name : String) (x : Value) : Act Value := do
  let h ← get
  let real : Act Float := reading fun h => realArgument h x
  let double (f : Except Raised Float) : Act Value := do pure (.float (← reading fun _ => f))
  match libraryFunction? name with
  | some (f, overflows) => do
    let y ← real
    double (checkedResult overflows y (f y))
  | none =>
    match name with
    | "ceil" => do pure (.int (← reading fun h => roundedInteger h true x))
    | "floor" => do pure (.int (← reading fun h => roundedInteger h false x))
    | "trunc" => do pure (.int (← reading fun h => truncatedInteger h x))
    | "degrees" => do pure (.float ((← real) * (180.0 / piDouble)))
    | "radians" => do pure (.float ((← real) * (piDouble / 180.0)))
    | "isnan" => do pure (.bool (← real).isNaN)
    | "isinf" => do pure (.bool (← real).isInf)
    | "isfinite" => do pure (.bool (← real).isFinite)
    | "ulp" => do pure (.float (unitInLastPlace (← real)))
    | "frexp" => do
      let y ← real
      if y == 0 || !y.isFinite then pure (.tuple [.float y, .int 0])
      else
        let (m, e) := y.frExp
        pure (.tuple [.float m, .int e])
    | "modf" => do
      let (f, w) := splitParts (← real)
      pure (.tuple [.float f, .float w])
    | "gamma" => do double (gammaOf (← real))
    | "lgamma" => do double (logGammaOf (← real))
    | "log2" => double (logarithmOf h Float.log2 x)
    | "log10" => double (logarithmOf h Float.log10 x)
    | "factorial" => reading fun h => factorialValue h x
    | "isqrt" => do
      let n ← reading fun h => asIndex h x
      if n < 0 then throw ⟨"ValueError", "isqrt() argument must be nonnegative"⟩
      pure (.int n.toNat.sqrt)
    | "fsum" => do
      let items ← x.elements
      let s ← items.foldlM (fun s item => do
        let y ← reading fun h => realArgument h item
        reading fun _ => s.add y) ExactSum.empty
      double s.total
    | _ => throw ⟨"AttributeError", "module 'math' has no attribute '" ++ name ++ "'"⟩

/-- The function of two arguments `name` applied. -/
def binaryMath (name : String) (x y : Value) : Act Value := do
  let double (f : Except Raised Float) : Act Value := do pure (.float (← reading fun _ => f))
  let reals : Act (Float × Float) := reading fun h => do pure (← realArgument h x, ← realArgument h y)
  match name with
  | "atan2" => do
    let (a, b) ← reals
    double (checkedResult₂ a b (angleOf a b))
  | "copysign" => do
    let (a, b) ← reals
    double (checkedResult₂ a b (copySign a b))
  | "remainder" => do
    let (a, b) ← reals
    double (checkedResult₂ a b (nearestRemainder a b))
  | "fmod" => do
    let (a, b) ← reals
    if b.isInf && a.isFinite then pure (.float a)
    else
      let r := floatMod a b
      if r.isNaN && !a.isNaN && !b.isNaN then throw domainFault else pure (.float r)
  | "pow" => do
    let (a, b) ← reals
    double (realPower a b)
  | "nextafter" => do
    let (a, b) ← reals
    pure (.float (nextToward a b))
  | "ldexp" => do
    let a ← reading fun h => realArgument h x
    let e ← match y with
      | .int i => pure i
      | .bool b => pure (if b then 1 else 0)
      | _ => throw ⟨"TypeError", "Expected an int as second argument to ldexp."⟩
    double (scaleByPower a e)
  | "comb" => reading fun h => combinations h x y
  | "dist" => do
    let ps ← x.elements
    let qs ← y.elements
    if ps.length ≠ qs.length then
      throw ⟨"ValueError", "both points must have the same number of dimensions"⟩
    let ds ← (ps.zip qs).mapM fun (p, q) => reading fun h => do
      pure ((← realArgument h p) - (← realArgument h q))
    pure (.float (normOf ds))
  | _ => throw ⟨"AttributeError", "module 'math' has no attribute '" ++ name ++ "'"⟩

/-- The function `name` of the math module called with arguments, if the module has a function
of that name. -/
def mathFunction (name : String) (args : List Value) (kwargs : List (String × Value)) :
    Option (Act Value) :=
  let known := unaryMathFunctions.contains name || binaryMathFunctions.contains name ||
    keywordMathFunctions.contains name || ["gcd", "lcm", "hypot", "perm", "log"].contains name
  if !known then none
  else some do
    if !kwargs.isEmpty && !keywordMathFunctions.contains name then
      throw ⟨"TypeError", (if name = "log" then "" else "math.") ++ name ++
        "() takes no keyword arguments"⟩
    if unaryMathFunctions.contains name then
      match args with
      | [x] => unaryMath name x
      | _ => throw ⟨"TypeError", "math." ++ name ++ "() takes exactly one argument (" ++
          toString args.length ++ " given)"⟩
    else if binaryMathFunctions.contains name then
      match args with
      | [x, y] => binaryMath name x y
      | _ => throw ⟨"TypeError", name ++ " expected 2 arguments, got " ++ toString args.length⟩
    else
      match name with
      | "log" => do pure (.float (← reading fun h => logarithm h args))
      | "gcd" => do pure (.int (← reading fun h => gcdOf h args))
      | "lcm" => do pure (.int (← reading fun h => lcmOf h args))
      | "hypot" => do pure (.float (normOf (← args.mapM fun a => reading fun h => realArgument h a)))
      | "perm" =>
        match args with
        | [] => throw ⟨"TypeError", "perm expected at least 1 argument, got 0"⟩
        | [n] => reading fun h => permutations h n none
        | [n, k] => reading fun h => permutations h n (some k)
        | _ => throw ⟨"TypeError", "perm expected at most 2 arguments, got " ++
            toString args.length⟩
      | "isclose" =>
        if args.length + kwargs.length > 4 then
          throw ⟨"TypeError", "isclose() takes at most 4 arguments (" ++
            toString (args.length + kwargs.length) ++ " given)"⟩
        match args with
        | [a, b] => do
          let a ← reading fun h => realArgument h a
          let b ← reading fun h => realArgument h b
          let (r, t) ← reading fun h => tolerances h kwargs
          pure (.bool (closeDoubles a b r t))
        | [] => throw ⟨"TypeError", "isclose() missing required argument 'a' (pos 1)"⟩
        | [_] => throw ⟨"TypeError", "isclose() missing required argument 'b' (pos 2)"⟩
        | _ => throw ⟨"TypeError", "isclose() takes exactly 2 positional arguments (" ++
            toString args.length ++ " given)"⟩
      | _ =>
        if args.length + kwargs.length > 2 then
          throw ⟨"TypeError", "prod() takes at most 2 arguments (" ++
            toString (args.length + kwargs.length) ++ " given)"⟩
        match args with
        | [xs] => do
          let start ← match kwargs with
            | [] => pure (Value.int 1)
            | [("start", s)] => pure s
            | (k, _) :: _ =>
              if k = "start" then throw ⟨"TypeError", "prod() got multiple values for argument 'start'"⟩
              else throw ⟨"TypeError", "'" ++ k ++ "' is an invalid keyword argument for prod()"⟩
          let items ← xs.elements
          items.foldlM (fun acc item => Value.combine .mul acc item) start
        | _ => throw ⟨"TypeError", "prod() takes exactly 1 positional argument (" ++
            toString args.length ++ " given)"⟩

end ItemRecommender.Object
