import ItemRecommender.Decimal.Shortest
/-! # Digits of a double at a precision, and their layouts

    A finite double `m * 2^e` is written from decimal digits `0.d₁d₂… × 10^point`, found by one
    of three rules: the shortest digits that read back (`shortest`), a count of significant
    digits, or a count of places after the point. The last two round the exact value on that
    grid, a tie to the even neighbour. Trailing zeros are dropped; the layout puts back those
    it needs.

    A `Rendering` lays the digits out: in scientific notation `d.ddde±XX`, positionally, in the
    general form that picks one of the two by the exponent, or in the form of the shortest
    digits that writes exponents from `-4` to `16` positionally. Its flags force a point,
    force a `.0` on an integral value, put a sign on positive values and write a zero that
    rounds from a negative value without its sign. -/

namespace ItemRecommender.Decimal

/-- Decimal digits and the place of the point: the number `0.d₁d₂… × 10^point`. The digits have
no trailing zero; zero is the single digit `0` with `point = 1`, and a value that rounds to
nothing at a count of places has no digits at all. -/
structure DigitString where
  digits : List Char
  point : Int
  deriving DecidableEq, Repr

/-- `m * 2^e * 10^k` rounded to a natural number, a tie to the even one. -/
def roundScaled (m : Nat) (e k : Int) : Nat :=
  let num := m * Nat.pow 2 e.toNat * Nat.pow 10 k.toNat
  let den := Nat.pow 2 (-e).toNat * Nat.pow 10 (-k).toNat
  let q := num / den
  let r := num % den
  if 2 * r > den ∨ (2 * r = den ∧ q % 2 = 1) then q + 1 else q

/-- Digits without their trailing zeros. -/
def dropTrailingZeros (ds : List Char) : List Char := (ds.reverse.dropWhile (· == '0')).reverse

namespace Binary

/-- The digits of a nonzero double rounded to `n ≥ 1` significant digits. A carry out of the
leading digit leaves the single digit `1` one place higher. -/
def significantDigits (b : Binary) (n : Nat) : DigitString :=
  let lead := b.leadExponent
  let q := roundScaled b.significand b.exponent ((n : Int) - 1 - lead)
  if Nat.pow 10 n ≤ q then ⟨['1'], lead + 2⟩
  else ⟨dropTrailingZeros (Nat.toDigits 10 q), lead + 1⟩

/-- The digits of a double rounded to `n` places after the point: none, with the point `n`
places left of the first, when it rounds to zero. -/
def placeDigits (b : Binary) (n : Nat) : DigitString :=
  let q := roundScaled b.significand b.exponent n
  if q = 0 then ⟨[], -(n : Int)⟩
  else
    let ds := Nat.toDigits 10 q
    ⟨dropTrailingZeros ds, (ds.length : Int) - n⟩

/-- The shortest digits that read back as a nonzero double. -/
def shortestDigits (b : Binary) : DigitString :=
  let d := shortest b
  let ds := Nat.toDigits 10 d.digits
  ⟨ds, (ds.length : Int) + d.exponent⟩

end Binary

/-- How the digits of a double are chosen and laid out. -/
inductive Style where
  /-- One digit before the point and `precision` after it, then the exponent. -/
  | scientific
  /-- `precision` digits after the point. -/
  | positional
  /-- `precision` significant digits, in scientific notation when the exponent is below `-4`
  or reaches the precision, positionally otherwise. -/
  | general
  /-- The shortest digits that read back, in scientific notation when the exponent is below
  `-4` or above `15`. -/
  | shortest
  deriving DecidableEq, Repr

/-- The layout of a double: a style, a precision, and flags. -/
structure Rendering where
  style : Style
  precision : Nat
  /-- Write the exponent mark and the texts of infinity and NaN in capitals. -/
  upper : Bool := false
  /-- Keep the point even with no digit after it, and the trailing zeros of the general style. -/
  alternate : Bool := false
  /-- Write an integral value positionally with `.0` after it. -/
  dotZero : Bool := false
  /-- Put `+` before a positive value. -/
  plusSign : Bool := false
  /-- Write a value whose digits are all zero without a minus sign. -/
  plainZero : Bool := false
  deriving Repr

/-- The exponent of scientific notation: its sign and at least two digits. -/
def exponentChars (e : Int) : List Char :=
  let ds := Nat.toDigits 10 e.natAbs
  (if e < 0 then '-' else '+') :: (List.replicate (2 - ds.length) '0' ++ ds)

/-- `k` zeros, none when `k` is not positive. -/
def zeroRun (k : Int) : List Char := List.replicate k.toNat '0'

/-- The digits `ds` with the point `point` places after their start, laid out between the
virtual places `0` and `last`: zeros before the point when it lies before the digits, zeros
after the digits up to `last`. -/
def placePoint (ds : List Char) (point last : Int) : List Char :=
  let n : Int := ds.length
  let head := if point ≤ 0 then '0' :: '.' :: zeroRun (-point) else []
  let body :=
    if 0 < point ∧ point ≤ n then ds.take point.toNat ++ '.' :: ds.drop point.toNat else ds
  let tail := if n < point then zeroRun (point - n) ++ '.' :: zeroRun (last - point)
    else zeroRun (last - n)
  head ++ body ++ tail

/-- The text of a double in a rendering. NaN has no sign, an infinity keeps its own. -/
def Rendering.write (f : Rendering) (x : Float) : String :=
  let signText (negative : Bool) : String :=
    if negative then "-" else if f.plusSign then "+" else ""
  match Binary.ofFloat? x with
  | none =>
    if x.isNaN then signText false ++ (if f.upper then "NAN" else "nan")
    else signText (x < 0) ++ (if f.upper then "INF" else "inf")
  | some b =>
    let precision := if f.style = .general then max f.precision 1 else f.precision
    let ds : DigitString :=
      if b.significand = 0 then ⟨['0'], 1⟩
      else match f.style with
        | .scientific => b.significantDigits (precision + 1)
        | .positional => b.placeDigits precision
        | .general => b.significantDigits precision
        | .shortest => b.shortestDigits
    let allZero := ds.digits.all (· == '0')
    let negative := b.negative && !(f.plainZero && allZero)
    let n : Int := ds.digits.length
    let point := ds.point
    let (useExp, last) : Bool × Int := match f.style with
      | .scientific => (true, precision + 1)
      | .positional => (false, point + precision)
      | .general =>
        let top : Int := if f.dotZero then (precision : Int) - 1 else precision
        (point ≤ -4 || decide (point > top), if f.alternate then precision else n)
      | .shortest => (point ≤ -4 || decide (point > 16), n)
    let shown := if useExp then 1 else point
    let last := if !useExp && f.dotZero then max last (shown + 1) else max last shown
    let body := placePoint ds.digits shown last
    let body := if body.getLast? = some '.' && !f.alternate then body.dropLast else body
    let mark := if useExp then (if f.upper then 'E' else 'e') :: exponentChars (point - 1) else []
    signText negative ++ String.ofList (body ++ mark)

end ItemRecommender.Decimal
