import ItemRecommender.Object.DecimalNumber
/-! # Powers of decimal numbers

    `x ** y` of two decimal numbers, as the decimal context computes it.

    * An integral exponent multiplies by repeated squaring, each product rounded, a tie to the
      even digit, to a working precision of the context's 28 digits plus the exponent's digits
      and two more; a negative exponent first takes the reciprocal, with one more digit. The
      result is then rounded to the context.
    * Any other exponent needs a positive base and gives `exp (y · ln x)`: the logarithm, the
      product and the exponential are each rounded to a working precision of 23 digits above
      the larger of 28 and the base's digits, and the result to the context. Such a result
      always has the full 28 digits, and one that comes out exactly `1` is written with them.
    * Zeros, infinities, a base equal to one and exponents far too large to compute are
      settled before any arithmetic. -/

namespace ItemRecommender.Object

namespace DecimalNumber

/-- A coefficient and exponent rounded to `p` significant digits, a tie to the even digit,
with no limit on the exponent. -/
def roundDigits (p : Nat) (c : Nat) (e : Int) : Nat × Int :=
  let n := digitCount c
  if n ≤ p then (c, e)
  else
    let k := n - p
    let unit := Nat.pow 10 k
    let q := c / unit
    let r := c % unit
    let q := if 2 * r > unit ∨ (2 * r = unit ∧ q % 2 = 1) then q + 1 else q
    if q = Nat.pow 10 p then (q / 10, e + k + 1) else (q, e + k)

/-- The product of two coefficient and exponent pairs, rounded to `p` digits. -/
def mulDigits (p : Nat) (x y : Nat × Int) : Nat × Int := roundDigits p (x.1 * y.1) (x.2 + y.2)

/-- The reciprocal of a nonzero coefficient and exponent to `p` digits. The quotient is taken
with one digit beyond `p`; a remainder turns a last digit of 0 or 5 into 1 or 6, so that
rounding that digit away rounds as the exact quotient would. An exact quotient keeps the
exponent nearest the negated exponent of the divisor. -/
def reciprocalDigits (p : Nat) (c : Nat) (e : Int) : Nat × Int :=
  let shift := digitCount c + p
  let exp : Int := -e - shift
  let x := Nat.pow 10 shift
  let q := x / c
  if x % c = 0 then
    let (q, exp) := dropZeros shift q exp
    roundDigits p q exp
  else roundDigits p (if q % 5 = 0 then q + 1 else q) exp

/-- The bits of a positive natural number, most significant first. -/
def bitsOf (n : Nat) : List Bool :=
  (List.range (n.log2 + 1)).reverse.map fun i => n.testBit i

/-- `base ^ n` for `n ≥ 1` by repeated squaring, each product rounded to `p` digits. -/
def powDigits (p : Nat) (base : Nat × Int) (n : Nat) : Nat × Int :=
  (bitsOf n).drop 1 |>.foldl (fun acc bit =>
    let sq := mulDigits p acc acc
    if bit then mulDigits p sq base else sq) base

/-- Whether a finite decimal number is an integer. -/
def isIntegral (c : Nat) (e : Int) : Bool :=
  0 ≤ e || c % Nat.pow 10 (-e).toNat == 0

/-- The integer value of an integral finite decimal number's magnitude. -/
def integralValue (c : Nat) (e : Int) : Nat :=
  if 0 ≤ e then c * Nat.pow 10 e.toNat else c / Nat.pow 10 (-e).toNat

/-- Twice the inverse hyperbolic tangent of `u / s`, times `s`, for a scale `s` and
`|u| ≤ s / 3`: the series `2 (u + u³/3 + u⁵/5 + …)` summed until its terms vanish. -/
def atanhScaled (s : Nat) (u : Int) : Int :=
  let u2 : Int := u * u / (s : Int)
  let rec go : Nat → Int → Nat → Int → Int
    | 0, _, _, acc => acc
    | fuel + 1, term, k, acc =>
      if term = 0 then acc else go fuel (term * u2 / (s : Int)) (k + 2) (acc + term / (k : Int))
  2 * go (4 * (digitCount s) + 20) u 1 0

/-- `ln 2 · s`. -/
def ln2Scaled (s : Nat) : Int := atanhScaled s ((s : Int) / 3)

/-- `ln 10 · s`, as `3 ln 2 + ln (5/4)`. -/
def ln10Scaled (s : Nat) : Int := 3 * ln2Scaled s + atanhScaled s ((s : Int) / 9)

/-- `ln (c · 10^e) · s` for `c > 0`. The coefficient is brought into `[1, 10)`, halved at
most three times into `[3/4, 3/2)`, and its logarithm taken by the inverse hyperbolic tangent
of `(t - 1)/(t + 1)`. -/
def lnScaled (s : Nat) (c : Nat) (e : Int) : Int :=
  let n := digitCount c
  let m := c * s / Nat.pow 10 (n - 1)
  let k : Nat := if 2 * m < 3 * s then 0 else if m < 3 * s then 1 else if m < 6 * s then 2 else 3
  let t : Int := (m / Nat.pow 2 k : Nat)
  let u : Int := (t - s) * s / (t + s)
  atanhScaled s u + k * ln2Scaled s + (((n : Int) - 1 + e) * ln10Scaled s)

/-- `exp (r / s) · s` for `0 ≤ r < 3 s`, by its series summed until the terms vanish. -/
def expScaled (s : Nat) (r : Nat) : Nat :=
  let rec go : Nat → Nat → Nat → Nat → Nat
    | 0, _, _, acc => acc
    | fuel + 1, term, k, acc =>
      if term = 0 then acc else go fuel (term * r / (s * k)) (k + 1) (acc + term)
  go (10 * digitCount s + 50) s 1 0

/-- A signed fixed-point number `v · 10^-q` rounded to `p` significant digits. -/
def fixedDigits (p : Nat) (v : Int) (q : Nat) : Bool × Nat × Int :=
  let (c, e) := roundDigits p v.natAbs (-(q : Int))
  (v < 0, c, e)

/-- `ln (c · 10^e)` rounded to `p` digits, with a sign. -/
def lnDigits (p : Nat) (c : Nat) (e : Int) : Bool × Nat × Int :=
  let q := p + digitCount c + 30
  fixedDigits p (lnScaled (Nat.pow 10 q) c e) q

/-- The result of an exponential: a coefficient and exponent rounded to the working
precision, or a value far past either limit. -/
inductive Growth where
  | value (c : Nat) (e : Int)
  | huge
  | tiny

/-- `exp (±c · 10^e)` rounded to `p` digits. The argument is split into `q · ln 10 + r` with
`0 ≤ r < ln 10`, so that the result is `10^q · exp r`; an argument of eight or more digits
before the point is far past the limits. -/
def expDigits (p : Nat) (negative : Bool) (c : Nat) (e : Int) : Growth :=
  if c ≠ 0 ∧ 8 ≤ adjusted c e then (if negative then .tiny else .huge)
  else
    let q := p + 40
    let s := Nat.pow 10 q
    let z : Int := (if negative then -1 else 1) *
      (if 0 ≤ e + q then (c * Nat.pow 10 (e + q).toNat : Nat) else (c / Nat.pow 10 (-(e + q)).toNat : Nat))
    let ln10 := ln10Scaled s
    let k := Int.fdiv z ln10
    let r := z - k * ln10
    let v := expScaled s r.toNat
    let (c, e) := roundDigits p v (k - q)
    .value c e

/-- A lower bound of `log₁₀ |log₁₀ x|` for a positive `x ≠ 1`, from the exponents of `x` and
of `x - 1`. -/
def logLogBound (c : Nat) (e : Int) : Int :=
  let t := adjusted c e
  let exponentDigits (i : Int) : Int := digitCount i.natAbs
  if 0 < t then exponentDigits t - 1
  else if t < -1 then exponentDigits (t + 1) - 1
  else
    -- the exponent of `x - 1`
    let one := Nat.pow 10 (-e).toNat
    let d : Nat := if c ≥ one then c - one else one - c
    let u := adjusted d e
    if t = 0 then u - 2 else u - 1

/-- Whether `x ** y` surely passes the largest exponent (`some true`) or falls below the least
(`some false`), from lower bounds of `log₁₀ |log₁₀ x|` and `log₁₀ |y|`. -/
def powerBeyond (c : Nat) (e : Int) (yNegative : Bool) (yc : Nat) (ye : Int) : Option Bool :=
  let bound := logLogBound c e + adjusted yc ye
  let growing := (adjusted c e < 0) == yNegative
  if growing then
    if (digitCount maxExponent.natAbs : Int) < bound then some true else none
  else if (digitCount leastExponent.natAbs : Int) < bound then some false else none

/-- The number `1` with the context's full digits. -/
def fullOne (negative : Bool) : DecimalNumber :=
  .finite negative (Nat.pow 10 (decimalPrecision - 1)) (-(decimalPrecision - 1 : Nat))

/-- `x ** y` of two decimal numbers. -/
def pow (x y : DecimalNumber) : Except Raised DecimalNumber :=
  match x, y with
  | .nan _ true _, _ | _, .nan _ true _ => throw (decimalFault "InvalidOperation")
  | .nan n _ p, _ | _, .nan n _ p => pure (.nan n false p)
  | _, _ =>
    let yIntegral := match y with
      | .finite _ yc ye => isIntegral yc ye
      | _ => false
    let yOdd := match y with
      | .finite _ yc ye => yIntegral && integralValue yc ye % 2 == 1
      | _ => false
    let xNegative := match x with
      | .finite a _ _ | .infinite a => a
      | _ => false
    let sign := xNegative && yOdd
    match x, y with
    | .finite _ 0 _, .finite b yc _ =>
      if yc = 0 then throw (decimalFault "InvalidOperation")
      else if b then pure (.infinite sign) else pure (.finite sign 0 0)
    | .finite _ 0 _, .infinite b => if b then pure (.infinite false) else pure (.finite false 0 0)
    | _, _ =>
      if xNegative && !yIntegral then throw (decimalFault "InvalidOperation")
      else match x, y with
      | .finite _ c e, .infinite b =>
        match compareScaled c e with
        | .eq => pure (fullOne false)
        | .lt => if b then pure (.infinite false) else pure (.finite false 0 0)
        | .gt => if b then pure (.finite false 0 0) else pure (.infinite false)
      | .infinite _, .finite b yc _ =>
        if yc = 0 then pure (.finite false 1 0)
        else if b then pure (.finite sign 0 0) else pure (.infinite sign)
      | .infinite _, .infinite b => if b then pure (.finite false 0 0) else pure (.infinite false)
      | .finite _ c e, .finite b yc ye =>
        if yc = 0 then pure (.finite false 1 0)
        else if compareScaled c e = .eq then
          if yIntegral then
            if b then pure (.finite sign 1 0)
            else
              let shift := min (integralValue yc ye * (-e).toNat) (decimalPrecision - 1)
              pure (.finite sign (Nat.pow 10 shift) (-(shift : Int)))
          else pure (fullOne false)
        else match powerBeyond c e b yc ye with
          | some true => throw overflowFault
          | some false => fix sign 0 leastExponent
          | none =>
            if yIntegral then
              let work := decimalPrecision + digitCount yc + 2 + (if b then 1 else 0)
              let work := (work : Int) + ye
              let work := work.toNat
              let base := if b then reciprocalDigits work c e else (c, e)
              let (rc, re) := powDigits work base (integralValue yc ye)
              fix sign rc re
            else
              let work := max (digitCount c) decimalPrecision + 23
              let (lnNegative, lc, le) := lnDigits work c e
              let (zc, ze) := roundDigits work (lc * yc) (le + ye)
              match expDigits work (lnNegative != b) zc ze with
              | .huge => throw overflowFault
              | .tiny => fix false 0 leastExponent
              | .value rc re =>
                if rc = Nat.pow 10 (digitCount rc - 1) ∧ re = -((digitCount rc : Int) - 1) then
                  pure (fullOne false)
                else fix false rc re
      | _, _ => pure (.nan false false 0)
where
  /-- Compares a positive coefficient and exponent with one. -/
  compareScaled (c : Nat) (e : Int) : Ordering :=
    if 0 ≤ e then compare (c * Nat.pow 10 e.toNat) 1 else compare c (Nat.pow 10 (-e).toNat)

end DecimalNumber

end ItemRecommender.Object
