import ItemRecommender.Object.Library.Arguments
import ItemRecommender.Object.RealFunctions
/-! # Functions of a complex variable

    The elementary functions on complex doubles, each reduced to functions of one double that
    the C library computes, with their branch cuts on the axes:

    * `sqrt` halves the argument of `z` with a scaling that keeps `hypot` from overflowing;
    * `exp`, `cosh`, `sinh` and `tanh` combine the real functions of the real part with the
      cosine and sine of the imaginary part, stepping the real part down by one near overflow;
    * `log` is `log |z| + i arg z`, its real part through `log1p` when `|z|` is near one;
    * the inverse functions use square roots of `1 ± z` and the real `asinh`, with an
      asymptotic form for large arguments; `cos`, `sin`, `tan`, `asin` and `atan` are the
      hyperbolic ones turned a quarter.

    A part that is infinite or a NaN does not go through these formulas: the result is read
    from the function's table of special values (`specialTable`), by the kinds of the two parts
    (`edgeKind`). A result that overflows, or a value where the function has none, is an error. -/

namespace ItemRecommender.Object

/-- Euler's number as a double. -/
def eDouble : Float := Float.ofBits 4613303445314885481

/-- The natural logarithm of 2 as a double. -/
def lnTwo : Float := Float.ofBits 4604418534313441775

/-- The natural logarithm of 10 as a double. -/
def lnTen : Float := Float.ofBits 4612367379483415830

/-- A quarter of the largest double: a part beyond it makes `hypot` overflow. -/
def largeDouble : Float := Float.ofBits 9209861237972664319

/-- The square root of `largeDouble`. -/
def sqrtLargeDouble : Float := Float.ofBits 6908521828386340863

/-- The natural logarithm of `largeDouble`. -/
def logLargeDouble : Float := Float.ofBits 4649442336612990162

/-- The square root of the least normal double. -/
def sqrtLeastNormal : Float := Float.ofBits 2305843009213693952

/-- A complex double: real and imaginary part. -/
abbrev Complex := Float × Float

/-- Why a complex function has no result: a value where it has none, or one too large. -/
inductive ComplexFault where
  | domain
  | range
  deriving DecidableEq

/-- The error a fault raises. -/
def ComplexFault.raised : ComplexFault → Raised
  | .domain => domainFault
  | .range => rangeFault

/-- The kind of a part, indexing a table of special values: minus infinity, negative, minus
zero, plus zero, positive, plus infinity, NaN. -/
def edgeKind (x : Float) : Nat :=
  if x.isNaN then 6
  else if x.isInf then (if x < 0 then 0 else 5)
  else if x == 0 then (if signBit x then 2 else 3)
  else if x < 0 then 1 else 4

/-- The double a letter of a table stands for: `I` infinity, `Z` zero, `N` NaN, `P` π, `H`
π/2, `Q` π/4, `T` 3π/4, `O` one; a small letter the negative. Any other letter stands for a
place never read. -/
def edgeValue (c : Char) : Float :=
  let magnitude : Float := match c.toUpper with
    | 'I' => 1.0 / 0.0
    | 'Z' => 0.0
    | 'P' => piDouble
    | 'H' => piDouble / 2.0
    | 'Q' => piDouble / 4.0
    | 'T' => 0.75 * piDouble
    | 'O' => 1.0
    | _ => 0.0 / 0.0
  if c.isLower then -magnitude else magnitude

/-- The tables of special values, row by kind of the real part and column by kind of the
imaginary part, two letters for each place, seven places a row. -/
def specialTable : String → String
  | "sqrt" => "IiZiZiZIZIIINI" ++ "IiUUUUUUUUIINN" ++ "IiUUUUUUUUIINN" ++ "IiUUUUUUUUIINN" ++
      "IiUUUUUUUUIINN" ++ "IiIzIzIZIZIIIN" ++ "IiNNNNNNNNIINN"
  | "exp" => "ZZzzZzZZzZZZZZ" ++ "UUUUUUUUUUUUNN" ++ "UUUUUUUUUUUUNN" ++ "UUUUUUUUUUUUNN" ++
      "UUUUUUUUUUUUNN" ++ "UUiiIzIZiIUUIN" ++ "NNNNNzNZNNNNNN"
  | "log" => "ItIpIpIPIPITIN" ++ "IhUUUUUUUUIHNN" ++ "IhUUUUUUUUIHNN" ++ "IhUUUUUUUUIHNN" ++
      "IhUUUUUUUUIHNN" ++ "IqIzIzIZIZIQIN" ++ "INNNNNNNNNINNN"
  | "cosh" => "UUiIIZIziiUUIN" ++ "UUUUUUUUUUUUNN" ++ "UUUUUUUUUUUUNZ" ++ "UUUUUUUUUUUUNZ" ++
      "UUUUUUUUUUUUNN" ++ "UUiiIzIZiIUUIN" ++ "NNNNNZNZNNNNNN"
  | "sinh" => "UUIiiziZIIUUIN" ++ "UUUUUUUUUUUUNN" ++ "UUUUUUUUUUUUZN" ++ "UUUUUUUUUUUUZN" ++
      "UUUUUUUUUUUUNN" ++ "UUiiIzIZiIUUIN" ++ "NNNNNzNZNNNNNN"
  | "tanh" => "oZoZozoZozoZoZ" ++ "UUUUUUUUUUUUNN" ++ "UUUUUUUUUUUUNN" ++ "UUUUUUUUUUUUNN" ++
      "UUUUUUUUUUUUNN" ++ "OZOZOzOZOzOZOZ" ++ "NNNNNzNZNNNNNN"
  | "acos" => "TIPIPIPiPiTiNI" ++ "HIUUUUUUUUHiNN" ++ "HIUUUUUUUUHiHN" ++ "HIUUUUUUUUHiHN" ++
      "HIUUUUUUUUHiNN" ++ "QIZIZIZiZiQiNI" ++ "NINNNNNNNNNiNN"
  | "acosh" => "ItIpIpIPIPITIN" ++ "IhUUUUUUUUIHNN" ++ "IhUUUUUUUUIHNN" ++ "IhUUUUUUUUIHNN" ++
      "IhUUUUUUUUIHNN" ++ "IqIzIzIZIZIQIN" ++ "INNNNNNNNNINNN"
  | "asinh" => "iqiziziZiZiQiN" ++ "ihUUUUUUUUiHNN" ++ "ihUUUUUUUUiHNN" ++ "IhUUUUUUUUIHNN" ++
      "IhUUUUUUUUIHNN" ++ "IqIzIzIZIZIQIN" ++ "INNNNzNZNNINNN"
  | "atanh" => "zhzhzhzHzHzHzN" ++ "zhUUUUUUUUzHNN" ++ "zhUUUUUUUUzHzN" ++ "ZhUUUUUUUUZHZN" ++
      "ZhUUUUUUUUZHNN" ++ "ZhZhZhZHZHZHZN" ++ "ZhNNNNNNNNZHNN"
  | "rect" => "UUIIiZizIiUUIN" ++ "UUUUUUUUUUUUNN" ++ "ZZUUUUUUUUZZZZ" ++ "ZZUUUUUUUUZZZZ" ++
      "UUUUUUUUUUUUNN" ++ "UUiiIzIZiIUUIN" ++ "NNNNNZNZNNNNNN"
  | _ => ""

/-- The special value of a function at a complex number with a part that is infinite or a
NaN. -/
def specialValue (table : String) (z : Complex) : Complex :=
  let letters := (specialTable table).toList
  let letterAt (k : Nat) : Float := edgeValue (letters.getD k 'U')
  let place := 2 * (7 * edgeKind z.1 + edgeKind z.2)
  (letterAt place, letterAt (place + 1))

/-- Whether both parts are finite. -/
def Complex.finite (z : Complex) : Bool := z.1.isFinite && z.2.isFinite

/-- The length of the hypotenuse of a right triangle with the sides given. -/
def hypotenuse (x y : Float) : Float := normOf [x, y]

/-- The complex square root, its real part never negative. -/
def complexSqrt (z : Complex) : Complex :=
  let (x, y) := z
  if !z.finite then specialValue "sqrt" z
  else if x == 0 ∧ y == 0 then (0.0, y)
  else
    let ax := x.abs
    let ay := y.abs
    let s :=
      if ax < leastNormal ∧ ay < leastNormal then
        let ax := ax.scaleB 53
        (ax + hypotenuse ax (ay.scaleB 53)).sqrt.scaleB (-27)
      else
        let ax := ax / 8.0
        2.0 * (ax + hypotenuse ax (ay / 8.0)).sqrt
    let d := ay / (2.0 * s)
    if x ≥ 0 then (s, copySign d y) else (d, copySign s y)

/-- The complex exponential. -/
def complexExp (z : Complex) : Except ComplexFault Complex :=
  let (x, y) := z
  if !z.finite then
    let r := if x.isInf ∧ y.isFinite ∧ y != 0 then
        if x > 0 then (copySign (1.0 / 0.0) y.cos, copySign (1.0 / 0.0) y.sin)
        else (copySign 0.0 y.cos, copySign 0.0 y.sin)
      else specialValue "exp" z
    if y.isInf ∧ (x.isFinite ∨ (x.isInf ∧ x > 0)) then .error .domain else .ok r
  else
    let r := if x > logLargeDouble then
        let l := (x - 1.0).exp
        (l * y.cos * eDouble, l * y.sin * eDouble)
      else
        let l := x.exp
        (l * y.cos, l * y.sin)
    if r.1.isInf ∨ r.2.isInf then .error .range else .ok r

/-- The complex hyperbolic cosine. -/
def complexCosh (z : Complex) : Except ComplexFault Complex :=
  let (x, y) := z
  let infinity : Float := 1.0 / 0.0
  if !z.finite then
    let r := if x.isInf ∧ y.isFinite ∧ y != 0 then
        if x > 0 then (copySign infinity y.cos, copySign infinity y.sin)
        else (copySign infinity y.cos, -copySign infinity y.sin)
      else specialValue "cosh" z
    if y.isInf ∧ !x.isNaN then .error .domain else .ok r
  else
    let r := if x.abs > logLargeDouble then
        let t := x - copySign 1.0 x
        (y.cos * t.cosh * eDouble, y.sin * t.sinh * eDouble)
      else (y.cos * x.cosh, y.sin * x.sinh)
    if r.1.isInf ∨ r.2.isInf then .error .range else .ok r

/-- The complex hyperbolic sine. -/
def complexSinh (z : Complex) : Except ComplexFault Complex :=
  let (x, y) := z
  let infinity : Float := 1.0 / 0.0
  if !z.finite then
    let r := if x.isInf ∧ y.isFinite ∧ y != 0 then
        if x > 0 then (copySign infinity y.cos, copySign infinity y.sin)
        else (-copySign infinity y.cos, copySign infinity y.sin)
      else specialValue "sinh" z
    if y.isInf ∧ !x.isNaN then .error .domain else .ok r
  else
    let r := if x.abs > logLargeDouble then
        let t := x - copySign 1.0 x
        (y.cos * t.sinh * eDouble, y.sin * t.cosh * eDouble)
      else (y.cos * x.sinh, y.sin * x.cosh)
    if r.1.isInf ∨ r.2.isInf then .error .range else .ok r

/-- The complex hyperbolic tangent. -/
def complexTanh (z : Complex) : Except ComplexFault Complex :=
  let (x, y) := z
  if !z.finite then
    let r := if x.isInf ∧ y.isFinite ∧ y != 0 then
        (if x > 0 then 1.0 else -1.0, copySign 0.0 (2.0 * y.sin * y.cos))
      else specialValue "tanh" z
    if y.isInf ∧ x.isFinite then .error .domain else .ok r
  else if x.abs > logLargeDouble then
    .ok (copySign 1.0 x, 4.0 * y.sin * y.cos * (-2.0 * x.abs).exp)
  else
    let tx := x.tanh
    let ty := y.tan
    let cx := 1.0 / x.cosh
    let txty := tx * ty
    let denom := 1.0 + txty * txty
    .ok (tx * (1.0 + ty * ty) / denom, ((ty / denom) * cx) * cx)

/-- The complex natural logarithm, and whether it fell on the pole at zero. -/
def complexLog (z : Complex) : Complex × Option ComplexFault :=
  let (x, y) := z
  if !z.finite then (specialValue "log" z, none)
  else
    let ax := x.abs
    let ay := y.abs
    if ax > largeDouble ∨ ay > largeDouble then
      ((hypotenuse (ax / 2.0) (ay / 2.0)).log + lnTwo, Float.atan2 y x) |> (·, none)
    else if ax < leastNormal ∧ ay < leastNormal then
      if ax > 0 ∨ ay > 0 then
        ((hypotenuse (ax.scaleB 53) (ay.scaleB 53)).log - 53.0 * lnTwo, Float.atan2 y x) |> (·, none)
      else ((-(1.0 / 0.0), Float.atan2 y x), some .domain)
    else
      let h := hypotenuse ax ay
      let re := if 0.71 ≤ h ∧ h ≤ 1.73 then
          let am := if ax > ay then ax else ay
          let an := if ax > ay then ay else ax
          logOnePlus ((am - 1.0) * (am + 1.0) + an * an) / 2.0
        else h.log
      ((re, Float.atan2 y x), none)

/-- The complex arc cosine. -/
def complexAcos (z : Complex) : Complex :=
  let (x, y) := z
  if !z.finite then specialValue "acos" z
  else if x.abs > largeDouble ∨ y.abs > largeDouble then
    let re := Float.atan2 y.abs x
    let l := (hypotenuse (x / 2.0) (y / 2.0)).log + lnTwo * 2.0
    (re, if x < 0 then -copySign l y else copySign l (-y))
  else
    let s1 := complexSqrt (1.0 - x, -y)
    let s2 := complexSqrt (1.0 + x, y)
    (2.0 * Float.atan2 s1.1 s2.1, (s2.1 * s1.2 - s2.2 * s1.1).asinh)

/-- The complex inverse hyperbolic cosine. -/
def complexAcosh (z : Complex) : Complex :=
  let (x, y) := z
  if !z.finite then specialValue "acosh" z
  else if x.abs > largeDouble ∨ y.abs > largeDouble then
    ((hypotenuse (x / 2.0) (y / 2.0)).log + lnTwo * 2.0, Float.atan2 y x)
  else
    let s1 := complexSqrt (x - 1.0, y)
    let s2 := complexSqrt (x + 1.0, y)
    ((s1.1 * s2.1 + s1.2 * s2.2).asinh, 2.0 * Float.atan2 s1.2 s2.1)

/-- The complex inverse hyperbolic sine. -/
def complexAsinh (z : Complex) : Complex :=
  let (x, y) := z
  if !z.finite then specialValue "asinh" z
  else if x.abs > largeDouble ∨ y.abs > largeDouble then
    let l := (hypotenuse (x / 2.0) (y / 2.0)).log + lnTwo * 2.0
    (if y ≥ 0 then copySign l x else -copySign l (-x), Float.atan2 y x.abs)
  else
    let s1 := complexSqrt (1.0 + y, -x)
    let s2 := complexSqrt (1.0 - y, x)
    ((s1.1 * s2.2 - s2.1 * s1.2).asinh, Float.atan2 y (s1.1 * s2.1 - s1.2 * s2.2))

/-- The complex inverse hyperbolic tangent of a number whose real part is not negative, and
whether it fell on a pole. -/
def atanhRight (z : Complex) : Complex × Option ComplexFault :=
  let (x, y) := z
  let ay := y.abs
  if x > sqrtLargeDouble ∨ ay > sqrtLargeDouble then
    let h := hypotenuse (x / 2.0) (y / 2.0)
    ((x / 4.0 / h / h, -copySign (piDouble / 2.0) (-y)), none)
  else if x == 1.0 ∧ ay < sqrtLeastNormal then
    if ay == 0 then ((1.0 / 0.0, y), some .domain)
    else ((-(ay.sqrt / (hypotenuse ay 2.0).sqrt).log, copySign (Float.atan2 2.0 (-ay) / 2.0) y), none)
  else
    ((logOnePlus (4.0 * x / ((1.0 - x) * (1.0 - x) + ay * ay)) / 4.0,
      -Float.atan2 (-2.0 * y) ((1.0 - x) * (1.0 + x) - ay * ay) / 2.0), none)

/-- The complex inverse hyperbolic tangent, and whether it fell on a pole. -/
def complexAtanh (z : Complex) : Complex × Option ComplexFault :=
  if !z.finite then (specialValue "atanh" z, none)
  else if z.1 < 0 then
    let (r, fault) := atanhRight (-z.1, -z.2)
    ((-r.1, -r.2), fault)
  else atanhRight z

/-- A function turned a quarter: `f(i z)` turned back by `-i`, as the circular functions are
the hyperbolic ones. -/
def quarterTurn {ε : Type} (f : Complex → Except ε Complex) (z : Complex) : Except ε Complex := do
  let s ← f (-z.2, z.1)
  pure (s.2, -s.1)

/-- The argument of a complex number, in `[-π, π]`, with the signs of zeros kept. -/
def complexPhase (z : Complex) : Float :=
  let (x, y) := z
  if x.isNaN ∨ y.isNaN then 0.0 / 0.0
  else if y.isInf then
    if x.isInf then copySign ((if signBit x then 0.75 else 0.25) * piDouble) y
    else copySign (0.5 * piDouble) y
  else if x.isInf ∨ y == 0 then
    if signBit x then copySign piDouble y else copySign 0.0 y
  else Float.atan2 y x

/-- The modulus of a complex number: infinite when a part is, even beside a NaN. -/
def complexAbs (z : Complex) : Except ComplexFault Float :=
  let (x, y) := z
  if !z.finite then
    if x.isInf then .ok x.abs
    else if y.isInf then .ok y.abs
    else .ok (0.0 / 0.0)
  else
    let r := hypotenuse x y
    if r.isFinite then .ok r else .error .range

/-- The complex number of a modulus and an argument. -/
def complexRect (r phi : Float) : Except ComplexFault Complex :=
  let infinity : Float := 1.0 / 0.0
  if !r.isFinite ∨ !phi.isFinite then
    let z := if r.isInf ∧ phi.isFinite ∧ phi != 0 then
        if r > 0 then (copySign infinity phi.cos, copySign infinity phi.sin)
        else (-copySign infinity phi.cos, -copySign infinity phi.sin)
      else specialValue "rect" (r, phi)
    if r != 0 ∧ !r.isNaN ∧ phi.isInf then .error .domain else .ok z
  else if phi == 0 then .ok (r, r * phi)
  else .ok (r * phi.cos, r * phi.sin)

/-- Whether two complex numbers are close: equal, or both finite and apart by at most the
relative tolerance times the modulus of either or by the absolute tolerance. -/
def closeComplex (a b : Complex) (relative absolute : Float) : Bool :=
  let modulus (z : Complex) : Float :=
    match complexAbs z with
    | .ok r => r
    | .error _ => 1.0 / 0.0
  let diff : Float := modulus (Float.sub a.1 b.1, Float.sub a.2 b.2)
  let limits : List Float := [relative * modulus b, relative * modulus a, absolute]
  if a.1 == b.1 ∧ a.2 == b.2 then true
  else if a.1.isInf ∨ a.2.isInf ∨ b.1.isInf ∨ b.2.isInf then false
  else limits.any fun limit => Float.decLe diff limit |>.decide

/-- A value as a complex number: a complex as it is, a real number with imaginary part
zero. -/
def complexArgument (h : Heap) (v : Value) : Except Raised Complex :=
  match v with
  | .complex re im => pure (re, im)
  | _ => do pure (← realArgument h v, 0.0)

/-- A complex function's result as a value, or the error of its fault. -/
def complexResult (r : Except ComplexFault Complex) : Except Raised Value :=
  match r with
  | .ok (re, im) => pure (.complex re im)
  | .error f => throw f.raised

/-- The complex functions of one argument, by name. -/
def complexFunction? : String → Option (Complex → Except ComplexFault Complex)
  | "sqrt" => some fun z => .ok (complexSqrt z)
  | "exp" => some complexExp
  | "cosh" => some complexCosh
  | "sinh" => some complexSinh
  | "tanh" => some complexTanh
  | "cos" => some fun z => complexCosh (-z.2, z.1)
  | "sin" => some (quarterTurn complexSinh)
  | "tan" => some (quarterTurn complexTanh)
  | "acos" => some fun z => .ok (complexAcos z)
  | "acosh" => some fun z => .ok (complexAcosh z)
  | "asinh" => some fun z => .ok (complexAsinh z)
  | "asin" => some (quarterTurn fun z => .ok (complexAsinh z))
  | "atanh" => some fun z =>
    match complexAtanh z with
    | (r, none) => .ok r
    | (_, some f) => .error f
  | "atan" => some (quarterTurn fun z =>
    match complexAtanh z with
    | (r, none) => .ok r
    | (_, some f) => .error f)
  | "log10" => some fun z =>
    match complexLog z with
    | ((re, im), none) => .ok (re / lnTen, im / lnTen)
    | (_, some f) => .error f
  | _ => none

/-- `cmath.log`: the natural logarithm, or the logarithm to a base as the quotient of the two;
only the base's logarithm and the division decide whether there is a result then. -/
def complexLogarithm (h : Heap) (args : List Value) : Except Raised Value := do
  match args with
  | [x] =>
    match complexLog (← complexArgument h x) with
    | ((re, im), none) => pure (.complex re im)
    | (_, some f) => throw f.raised
  | [x, b] =>
    let (lx, _) := complexLog (← complexArgument h x)
    let (lb, fault) := complexLog (← complexArgument h b)
    if let some f := fault then throw f.raised
    match complexQuotient lx lb with
    | some (re, im) => pure (.complex re im)
    | none => throw domainFault
  | _ => throw (countFault "log" 1 2 args.length |>.getD domainFault)

/-- A function of the complex math module, applied, or `none` for a name it does not have. -/
def complexMathFunction (m name : String) (args : List Value) (kwargs : List (String × Value)) :
    Option (Act Value) :=
  let shown := "cmath." ++ name
  let one (f : Complex → Except Raised Value) : Act Value := do
    if !kwargs.isEmpty then throw (keywordsRefused shown)
    match args with
    | [x] => reading fun h => do f (← complexArgument h x)
    | _ => throw (singleFault shown args.length)
  if m ≠ "cmath" then none
  else match complexFunction? name with
    | some f => some (one fun z => complexResult (f z))
    | none =>
      match name with
      | "phase" => some (one fun z => pure (.float (complexPhase z)))
      | "isfinite" => some (one fun z => pure (.bool z.finite))
      | "isinf" => some (one fun z => pure (.bool (z.1.isInf || z.2.isInf)))
      | "isnan" => some (one fun z => pure (.bool (z.1.isNaN || z.2.isNaN)))
      | "polar" => some (one fun z =>
        match complexAbs z with
        | .ok r => pure (.tuple [.float r, .float (complexPhase z)])
        | .error f => throw f.raised)
      | "log" => some do
        if !kwargs.isEmpty then throw (keywordsRefused shown)
        reading fun h => complexLogarithm h args
      | "rect" => some do
        if !kwargs.isEmpty then throw (keywordsRefused shown)
        match args with
        | [r, phi] => reading fun h => do
          complexResult (complexRect (← realArgument h r) (← realArgument h phi))
        | _ => throw ⟨"TypeError", "rect expected 2 arguments, got " ++ toString args.length⟩
      | "isclose" => some do
        let bound ← reading fun _ => bindKeywords "isclose"
          [required "a", required "b", keyword "rel_tol", keyword "abs_tol"] args kwargs
        match bound with
        | [some a, some b, rel, absolute] => reading fun h => do
          let a ← complexArgument h a
          let b ← complexArgument h b
          let rel : Float ← match rel with
            | some v => realArgument h v
            | none => pure 1e-9
          let absolute : Float ← match absolute with
            | some v => realArgument h v
            | none => pure 0.0
          if rel < 0 ∨ absolute < 0 then throw ⟨"ValueError", "tolerances must be non-negative"⟩
          pure (.bool (closeComplex a b rel absolute))
        | _ => pure .none
      | _ => none


end ItemRecommender.Object
