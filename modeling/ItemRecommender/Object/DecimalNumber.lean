import ItemRecommender.Decimal.Literal
import ItemRecommender.Object.Exact
import ItemRecommender.Object.Value
/-! # Decimal numbers

    A decimal number keeps its coefficient and exponent as written: `1.50` is `150 × 10^-2`
    and stays distinct in its text from `1.5`, though the two are equal numbers.

    * `DecimalNumber.read?` reads the decimal literal grammar: an optional sign, then digits
      with an optional point and an optional exponent, or `Infinity`/`Inf`, or `NaN`/`sNaN`
      with optional diagnostic digits, letters in any case, blanks around, a single underscore
      between two digits, digits of any script.
    * `DecimalNumber.text` writes scientific notation when the exponent is positive or the
      number is below `10^-6`, and positional notation otherwise.
    * Arithmetic rounds the exact result to 28 significant digits, a tie going to the even
      digit. -/

namespace ItemRecommender.Object

open ItemRecommender.Decimal ItemRecommender.Text

/-- The number of significant digits arithmetic keeps. -/
def decimalPrecision : Nat := 28

/-- The error every invalid decimal operation raises, naming the condition. -/
def decimalFault (condition : String) : Raised :=
  ⟨"InvalidOperation", "[<class 'decimal." ++ condition ++ "'>]"⟩

namespace DecimalNumber

/-- The number of decimal digits of a natural number (one for zero). The binary length gives
an estimate `⌊log₂ n⌋ · 0.301029995` at most one below `⌊log₁₀ n⌋`, and one power of ten
settles it. -/
def digitCount (n : Nat) : Nat :=
  let estimate := n.log2 * 301029995 / 1000000000
  if n < Nat.pow 10 (estimate + 1) then estimate + 1
  else if n < Nat.pow 10 (estimate + 2) then estimate + 2
  else estimate + 3

/-- An integer as a decimal number with exponent zero. -/
def ofInt (i : Int) : DecimalNumber := .finite (i < 0) i.natAbs 0

/-- `s / 2^k` with the factors of two that `s` and `2^k` share removed. -/
def dropHalves : Nat → Nat → Nat × Nat
  | s, 0 => (s, 0)
  | s, k + 1 => if s % 2 = 0 then dropHalves (s / 2) k else (s, k + 1)

/-- The exact value of a double as a decimal number with the fewest digits: `s / 2^k` in lowest
terms is `s · 5^k / 10^k`. A NaN of either sign is the quiet NaN without sign. -/
def ofFloat (x : Float) : DecimalNumber :=
  match Decimal.Binary.ofFloat? x with
  | some b =>
    if b.significand = 0 then .finite b.negative 0 0
    else if 0 ≤ b.exponent then .finite b.negative (b.significand * Nat.pow 2 b.exponent.toNat) 0
    else
      let (s, k) := dropHalves b.significand (-b.exponent).toNat
      .finite b.negative (s * Nat.pow 5 k) (-(k : Int))
  | none => if x.isNaN then .nan false false 0 else .infinite (x < 0)

/-- The exact value of a decimal number. -/
def toExact : DecimalNumber → Exact
  | .finite negative c e =>
    let m : Int := if negative then -(c : Int) else c
    if 0 ≤ e then .ratio (m * (Nat.pow 10 e.toNat : Nat)) 1 else .ratio m (Nat.pow 10 (-e).toNat)
  | .infinite negative => .infinite negative
  | .nan .. => .nan

/-- The double nearest to a decimal number; a signaling NaN has none. -/
def toFloat : DecimalNumber → Except Raised Float
  | .finite negative c e => pure (Decimal.toFloat negative c e)
  | .infinite negative =>
    pure (if negative then -Float.ofScientific 1 false 400 else Float.ofScientific 1 false 400)
  | .nan negative false _ =>
    let nan := Float.ofScientific 0 false 0 / 0
    pure (if negative then -nan else nan)
  | .nan _ true _ => throw ⟨"ValueError", "cannot convert signaling NaN to float"⟩

/-- Digits as a number, ten to the power of their count. -/
def digitsOf (ds : List Nat) : Nat := ds.foldl (fun acc d => acc * 10 + d) 0

/-- The text with each underscore between two digits removed, or `none` if one stands
elsewhere. -/
def dropUnderscores? (s : List Char) : Option (List Char) :=
  if s.contains '_' then dropGroupMarks? none s else some s

/-- The digit values at the front of a text and the rest. -/
def spanDigitValues : List Char → List Nat × List Char
  | c :: rest =>
    match asciiDigit? c with
    | some d => let (ds, r) := spanDigitValues rest; (d :: ds, r)
    | none => ([], c :: rest)
  | [] => ([], [])

/-- Reads an unsigned finite numeral: digits with an optional point, at least one digit, and
an optional exponent. -/
def readUnsigned? (negative : Bool) (s : List Char) : Option DecimalNumber := do
  let (whole, rest) := spanDigitValues s
  let (fraction, rest) := match rest with
    | '.' :: more => spanDigitValues more
    | _ => ([], rest)
  if whole.isEmpty ∧ fraction.isEmpty then none
  let exponent ← match rest with
    | [] => some (0 : Int)
    | c :: more =>
      if c = 'e' ∨ c = 'E' then do
        let (eNegative, digits) := spanSign more
        let (ds, tail) := spanDigitValues digits
        if ds.isEmpty ∨ !tail.isEmpty then none
        let v : Int := digitsOf ds
        some (if eNegative then -v else v)
      else none
  -- a point needs digits after it unless digits stand before it
  if s.contains '.' ∧ rest.isEmpty ∧ fraction.isEmpty ∧ whole.isEmpty then none
  pure (.finite negative (digitsOf (whole ++ fraction)) (exponent - fraction.length))

/-- Reads a decimal literal. -/
def read? (text : String) : Option DecimalNumber := do
  let a := trimAsciiSpace (asciiForm text.toList)
  let body ← dropUnderscores? a
  let (negative, rest) := spanSign body
  let lower := lowerAscii rest
  if lower = "inf".toList ∨ lower = "infinity".toList then return .infinite negative
  let special (signaling : Bool) (digits : List Char) : Option DecimalNumber := do
    let ds ← digits.mapM asciiDigit?
    pure (.nan negative signaling (digitsOf ds))
  match lower with
  | 'n' :: 'a' :: 'n' :: digits => special false digits
  | 's' :: 'n' :: 'a' :: 'n' :: digits => special true digits
  | _ => readUnsigned? negative rest

/-- The largest adjusted exponent (the exponent of the leading digit) a number may have. -/
def maxAdjusted : Int := 999999999999999999

/-- Reads a decimal literal as the constructor reads it: a text outside the grammar is a syntax
error, and a number whose adjusted exponent passes `maxAdjusted` cannot be held exactly, which
is an invalid operation. -/
def read (text : String) : Except Raised DecimalNumber :=
  match read? text with
  | none => throw (decimalFault "ConversionSyntax")
  | some (.finite negative c e) =>
    if maxAdjusted < e + (max 1 (digitCount c) : Nat) - 1 then throw (decimalFault "InvalidOperation")
    else pure (.finite negative c e)
  | some d => pure d

/-- The scientific text of a decimal number. -/
def text : DecimalNumber → String
  | .infinite negative => (if negative then "-" else "") ++ "Infinity"
  | .nan negative signaling payload =>
    (if negative then "-" else "") ++ (if signaling then "sNaN" else "NaN") ++
      (if payload = 0 then "" else toString payload)
  | .finite negative c e =>
    let digits := Nat.toDigits 10 c
    let lead : Int := e + digits.length
    let dot : Int := if e ≤ 0 ∧ -6 < lead then lead else 1
    let (whole, fraction) :=
      if dot ≤ 0 then (['0'], '.' :: List.replicate (-dot).toNat '0' ++ digits)
      else if digits.length ≤ dot.toNat then
        (digits ++ List.replicate (dot.toNat - digits.length) '0', [])
      else (digits.take dot.toNat, '.' :: digits.drop dot.toNat)
    let exponent : String :=
      if lead = dot then ""
      else
        let x := lead - dot
        "E" ++ (if x < 0 then "-" else "+") ++ toString x.natAbs
    (if negative then "-" else "") ++ String.ofList (whole ++ fraction) ++ exponent

/-- A coefficient and exponent rounded to the precision, a tie to the even digit. -/
def roundTo (negative : Bool) (c : Nat) (e : Int) : DecimalNumber :=
  let n := digitCount c
  if n ≤ decimalPrecision then .finite negative c e
  else
    let k := n - decimalPrecision
    let unit := Nat.pow 10 k
    let q := c / unit
    let r := c % unit
    let q := if 2 * r > unit ∨ (2 * r = unit ∧ q % 2 = 1) then q + 1 else q
    if q = Nat.pow 10 decimalPrecision then .finite negative (q / 10) (e + k + 1)
    else .finite negative q (e + k)

/-- The largest exponent the leading digit of a result may have. -/
def maxExponent : Int := 999999

/-- The least exponent a result may have: a number of the precision's digits whose leading
digit has the least normal exponent `-999999`. -/
def leastExponent : Int := -999999 - (decimalPrecision : Int) + 1

/-- The error of a result whose leading digit passes `maxExponent`. -/
def overflowFault : Raised := ⟨"Overflow", "[<class 'decimal.Overflow'>]"⟩

/-- A coefficient and exponent rounded to the least exponent `low`, a tie to the even digit;
a carry out of the precision's digits moves the exponent up by one. -/
def roundAt (c : Nat) (e low : Int) : Nat × Int :=
  let k := (low - e).toNat
  let q := if digitCount c + 1 < k then 0
    else
      let unit := Nat.pow 10 k
      let q := c / unit
      let r := c % unit
      if 2 * r > unit ∨ (2 * r = unit ∧ q % 2 = 1) then q + 1 else q
  if decimalPrecision < digitCount q then (q / 10, low + 1) else (q, low)

/-- A finite result brought within the context: rounded to the precision, a tie to the even
digit. A result whose leading digit passes `maxExponent` overflows; a smaller one keeps no
digit below `leastExponent`, and may round to zero there. A zero keeps its exponent between
the two limits. -/
def fix (negative : Bool) (c : Nat) (e : Int) : Except Raised DecimalNumber :=
  let top := maxExponent - decimalPrecision + 1
  if c = 0 then pure (.finite negative 0 (min (max e leastExponent) maxExponent))
  else
    let low : Int := (digitCount c : Int) + e - decimalPrecision
    if top < low then throw overflowFault
    else
      let low := max low leastExponent
      if low ≤ e then pure (.finite negative c e)
      else
        let (q, low) := roundAt c e low
        if top < low then throw overflowFault else pure (.finite negative q low)

/-- The product of two decimal numbers. -/
def mul : DecimalNumber → DecimalNumber → Except Raised DecimalNumber
  | .nan _ true _, _ | _, .nan _ true _ => throw (decimalFault "InvalidOperation")
  | .nan n _ p, _ | _, .nan n _ p => pure (.nan n false p)
  | .infinite a, .infinite b => pure (.infinite (a != b))
  | .infinite a, .finite b c _ | .finite b c _, .infinite a =>
    if c = 0 then throw (decimalFault "InvalidOperation") else pure (.infinite (a != b))
  | .finite a c e, .finite b d f => fix (a != b) (c * d) (e + f)

/-- The sum of two decimal numbers. -/
def add : DecimalNumber → DecimalNumber → Except Raised DecimalNumber
  | .nan _ true _, _ | _, .nan _ true _ => throw (decimalFault "InvalidOperation")
  | .nan n _ p, _ | _, .nan n _ p => pure (.nan n false p)
  | .infinite a, .infinite b =>
    if a == b then pure (.infinite a) else throw (decimalFault "InvalidOperation")
  | .infinite a, .finite .. | .finite .., .infinite a => pure (.infinite a)
  | .finite a c e, .finite b d f =>
    if c = 0 ∧ d = 0 then fix (a && b) 0 (min e f)
    else if c = 0 then
      let x := max (min e f) (f - decimalPrecision - 1)
      fix b (d * Nat.pow 10 (f - x).toNat) x
    else if d = 0 then
      let x := max (min e f) (e - decimalPrecision - 1)
      fix a (c * Nat.pow 10 (e - x).toNat) x
    else
      -- a term far below the other's last digit only decides the rounding, as any smaller
      -- term of its sign would: it is replaced by one unit just below that digit
      let near (big : Nat) (bigExp : Int) (small : Nat) (smallExp : Int) : Nat × Int :=
        let floor := bigExp + min (-1) ((digitCount big : Int) - decimalPrecision - 2)
        if (digitCount small : Int) + smallExp - 1 < floor then (1, floor) else (small, smallExp)
      let ((c, e), (d, f)) := if e < f then ((near d f c e), (d, f)) else ((c, e), near c e d f)
      let low := min e f
      let x : Int := (if a then -(c : Int) else c) * (Nat.pow 10 (e - low).toNat : Nat)
      let y : Int := (if b then -(d : Int) else d) * (Nat.pow 10 (f - low).toNat : Nat)
      let s := x + y
      -- an exact zero sum is positive unless both terms are negative
      let negative := if s = 0 then a && b else s < 0
      fix negative s.natAbs low

/-- The magnitude of a decimal number, rounded to the precision. -/
def abs : DecimalNumber → Except Raised DecimalNumber
  | .nan _ true _ => throw (decimalFault "InvalidOperation")
  | .nan _ _ p => pure (.nan false false p)
  | .infinite _ => pure (.infinite false)
  | .finite _ c e => fix false c e

/-- The negation of a decimal number, rounded to the precision; a zero comes out positive and
a quiet NaN unchanged. -/
def neg : DecimalNumber → Except Raised DecimalNumber
  | .nan _ true _ => throw (decimalFault "InvalidOperation")
  | .nan n _ p => pure (.nan n false p)
  | .infinite a => pure (.infinite !a)
  | .finite a c e => fix (c ≠ 0 && !a) c e

/-- A decimal number rounded to the precision, as unary plus gives it; a zero comes out
positive. -/
def plus : DecimalNumber → Except Raised DecimalNumber
  | .nan _ true _ => throw (decimalFault "InvalidOperation")
  | .nan n _ p => pure (.nan n false p)
  | .infinite a => pure (.infinite a)
  | .finite a c e => fix (c ≠ 0 && a) c e

/-- The difference of two decimal numbers: the sum with the second negated, a NaN keeping its
sign. -/
def sub (x : DecimalNumber) : DecimalNumber → Except Raised DecimalNumber
  | .finite b d f => add x (.finite (!b) d f)
  | .infinite b => add x (.infinite !b)
  | y@(.nan ..) => add x y

/-- The error of dividing a decimal number other than zero by zero. -/
def zeroDivisionFault : Raised := ⟨"DivisionByZero", "[<class 'decimal.DivisionByZero'>]"⟩

/-- The exponent of a finite number's leading digit. -/
def adjusted (c : Nat) (e : Int) : Int := e + digitCount c - 1

/-- Drops up to `n` trailing zeros of a coefficient, raising its exponent by as many. -/
def dropZeros : Nat → Nat → Int → Nat × Int
  | 0, c, e => (c, e)
  | n + 1, c, e => if c ≠ 0 ∧ c % 10 = 0 then dropZeros n (c / 10) (e + 1) else (c, e)

/-- The quotient of two decimal numbers. The coefficient is divided after scaling so that the
quotient has one digit more than the precision; a remainder turns a last digit of 0 or 5 into
1 or 6, so that rounding that digit away rounds as the exact quotient would. An exact quotient
keeps the exponent nearest the difference of the operands' exponents. -/
def div : DecimalNumber → DecimalNumber → Except Raised DecimalNumber
  | .nan _ true _, _ | _, .nan _ true _ => throw (decimalFault "InvalidOperation")
  | .nan n _ p, _ | _, .nan n _ p => pure (.nan n false p)
  | .infinite _, .infinite _ => throw (decimalFault "InvalidOperation")
  | .infinite a, .finite b _ _ => pure (.infinite (a != b))
  | .finite a _ _, .infinite b => pure (.finite (a != b) 0 leastExponent)
  | .finite a c e, .finite b d f =>
    if d = 0 then
      if c = 0 then throw (decimalFault "DivisionUndefined") else throw zeroDivisionFault
    else if c = 0 then fix (a != b) 0 (e - f)
    else
      let shift : Int := (digitCount d : Int) - digitCount c + decimalPrecision + 1
      let exp := e - f - shift
      let (x, y) :=
        if 0 ≤ shift then (c * Nat.pow 10 shift.toNat, d) else (c, d * Nat.pow 10 (-shift).toNat)
      let q := x / y
      if x % y = 0 then
        let (q, exp) := dropZeros shift.toNat q exp
        fix (a != b) q exp
      else fix (a != b) (if q % 5 = 0 then q + 1 else q) exp

/-- The integer quotient, truncated, and the remainder of two finite decimal numbers, the
divisor not zero: the quotient has exponent zero and at most the precision's digits, the
remainder the sign of the dividend and the lesser exponent. -/
def divideFinite (a : Bool) (c : Nat) (e : Int) (b : Bool) (d : Nat) (f : Int) :
    Except Raised (DecimalNumber × DecimalNumber) :=
  let low := min e f
  let scaled (c : Nat) (e : Int) : Nat := c * Nat.pow 10 (e - low).toNat
  if c = 0 then pure (.finite (a != b) 0 0, .finite a 0 low)
  else if adjusted c e < adjusted d f then pure (.finite (a != b) 0 0, roundTo a (scaled c e) low)
  else if adjusted c e - adjusted d f > decimalPrecision then
    throw (decimalFault "DivisionImpossible")
  else
    let x := scaled c e
    let y := scaled d f
    if digitCount (x / y) > decimalPrecision then throw (decimalFault "DivisionImpossible")
    else pure (.finite (a != b) (x / y) 0, roundTo a (x % y) low)

/-- The integer part of the quotient of two decimal numbers, truncated towards zero. -/
def divInt : DecimalNumber → DecimalNumber → Except Raised DecimalNumber
  | .nan _ true _, _ | _, .nan _ true _ => throw (decimalFault "InvalidOperation")
  | .nan n _ p, _ | _, .nan n _ p => pure (.nan n false p)
  | .infinite _, .infinite _ => throw (decimalFault "InvalidOperation")
  | .infinite a, .finite b _ _ => pure (.infinite (a != b))
  | .finite a _ _, .infinite b => pure (.finite (a != b) 0 0)
  | .finite a c e, .finite b d f =>
    if d = 0 then
      if c = 0 then throw (decimalFault "DivisionUndefined") else throw zeroDivisionFault
    else do pure (← divideFinite a c e b d f).1

/-- The remainder of two decimal numbers after the truncated integer quotient, with the sign of
the dividend. -/
def rem : DecimalNumber → DecimalNumber → Except Raised DecimalNumber
  | .nan _ true _, _ | _, .nan _ true _ => throw (decimalFault "InvalidOperation")
  | .nan n _ p, _ | _, .nan n _ p => pure (.nan n false p)
  | .infinite _, _ => throw (decimalFault "InvalidOperation")
  | .finite a c e, .infinite _ => pure (roundTo a c e)
  | .finite a c e, .finite b d f =>
    if d = 0 then
      if c = 0 then throw (decimalFault "DivisionUndefined") else throw (decimalFault "InvalidOperation")
    else do pure (← divideFinite a c e b d f).2

/-- The integer quotient and remainder together, as `divmod` gives them; dividing by zero is an
invalid operation and a division by zero at once. -/
def divRem (x y : DecimalNumber) : Except Raised (DecimalNumber × DecimalNumber) :=
  match x, y with
  | .finite _ c _, .finite _ 0 _ =>
    if c = 0 then throw (decimalFault "DivisionUndefined")
    else throw ⟨"InvalidOperation",
      "[<class 'decimal.InvalidOperation'>, <class 'decimal.DivisionByZero'>]"⟩
  | _, _ => do pure (← divInt x y, ← rem x y)

/-- A decimal number rounded to the exponent `x`, a tie going to the even digit, as `round`
with a count of places gives it; a coefficient beyond the precision is invalid, and so is an
infinity. -/
def quantize (d : DecimalNumber) (x : Int) : Except Raised DecimalNumber :=
  match d with
  | .nan _ true _ => throw (decimalFault "InvalidOperation")
  | .nan n _ p => pure (.nan n false p)
  | .infinite _ => throw (decimalFault "InvalidOperation")
  | .finite a c e =>
    if x < leastExponent ∨ maxExponent < x then throw (decimalFault "InvalidOperation")
    else if x ≤ e then
      if c ≠ 0 ∧ (e - x) + digitCount c > decimalPrecision then
        throw (decimalFault "InvalidOperation")
      else pure (.finite a (c * Nat.pow 10 (e - x).toNat) x)
    else if (digitCount c : Int) < x - e then pure (.finite a 0 x)
    else
      let unit := Nat.pow 10 (x - e).toNat
      let q := c / unit
      let r := c % unit
      let c' := if 2 * r > unit ∨ (2 * r = unit ∧ q % 2 = 1) then q + 1 else q
      if digitCount c' > decimalPrecision then throw (decimalFault "InvalidOperation")
      else pure (.finite a c' x)

/-- The square root of a positive finite number `c × 10^e`, rounded to the precision, a tie
to the even digit. The coefficient, made even in its exponent, is scaled to one base-100 digit
more than the precision and its integer square root taken; a remainder turns a last digit of 0
or 5 into 1 or 6, so that rounding that digit away rounds as the exact root would. An exact
root keeps the exponent half the operand's, rounded down. -/
def sqrtFinite (c : Nat) (e : Int) : Except Raised DecimalNumber :=
  let places : Int := decimalPrecision + 1
  let ideal := e / 2
  let (c, l) := if e % 2 = 1 then (c * 10, digitCount c / 2 + 1) else (c, (digitCount c + 1) / 2)
  let shift : Int := places - l
  let (scaled, whole) :=
    if 0 ≤ shift then (c * Nat.pow 100 shift.toNat, true)
    else (c / Nat.pow 100 (-shift).toNat, c % Nat.pow 100 (-shift).toNat = 0)
  let root := scaled.sqrt
  if whole ∧ root * root = scaled then
    if 0 ≤ shift then fix false (root / Nat.pow 10 shift.toNat) ideal
    else fix false (root * Nat.pow 10 (-shift).toNat) ideal
  else fix false (if root % 5 = 0 then root + 1 else root) (ideal - shift)

/-- The least number of the precision's digits above a positive finite number of at most that
many digits. -/
def nextAbove (c : Nat) (e : Int) : Nat × Int :=
  let k := decimalPrecision - digitCount c
  let c := c * Nat.pow 10 k + 1
  if c = Nat.pow 10 decimalPrecision then (c / 10, e - k + 1) else (c, e - k)

/-- The greatest number of the precision's digits below a positive finite number of at most
that many digits. -/
def nextBelow (c : Nat) (e : Int) : Nat × Int :=
  let k := decimalPrecision - digitCount c
  let c := c * Nat.pow 10 k
  if c = Nat.pow 10 (decimalPrecision - 1) then (10 * c - 1, e - k - 1) else (c - 1, e - k)

/-- A finite number `c × 10^e` as a ratio of natural numbers. -/
def ratioOf (c : Nat) (e : Int) : Nat × Nat :=
  if 0 ≤ e then (c * Nat.pow 10 e.toNat, 1) else (c, Nat.pow 10 (-e).toNat)

/-- The square root of `n / m`, for natural numbers with `m` positive, correctly rounded to the
precision: the root of the rounded quotient is moved one step up or down when the exact root
lies past the midpoint to that neighbour. The root of zero is `0.0`. -/
def rootOfRatio (n m : Nat) : Except Raised DecimalNumber := do
  if n = 0 then return .finite false 0 (-1)
  match ← (div (.finite false n 0) (.finite false m 0)) with
  | .finite _ qc qe =>
    match ← sqrtFinite qc qe with
    | .finite _ rc re =>
      let (nr, dr) := ratioOf rc re
      let (pc, pe) := nextAbove rc re
      let (np, dp) := ratioOf pc pe
      let (a, b) := (dr * dp, dr * np + dp * nr)
      if 4 * n * (a * a) > m * (b * b) then return .finite false pc pe
      let (mc, me) := nextBelow rc re
      let (nm, dm) := ratioOf mc me
      let (a, b) := (dr * dm, dr * nm + dm * nr)
      if 4 * n * (a * a) < m * (b * b) then return .finite false mc me
      pure (.finite false rc re)
    | d => pure d
  | d => pure d

end DecimalNumber

end ItemRecommender.Object
