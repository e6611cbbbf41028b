/-! # Reading decimal numerals

    A decimal numeral `±digits × 10^exponent` is turned into the double nearest to it, a tie
    going to the even significand (`toFloat`); numerals beyond the largest double become
    infinities, and those below half the least subnormal become zeros of their sign.

    `readNumeral?` is the numeral grammar of preference values:
    an optional sign, then digits with at most one point and at least one digit, then an optional
    exponent `e` or `E` with an optional sign and at least one digit; or an optional sign and
    `inf` or `infinity` in any case. Digits are ASCII digits. A numeral with neither point nor
    exponent is an integer numeral. -/

namespace ItemRecommender.Decimal

/-- The number of decimal digits of `n` (one for zero). -/
def decimalLength (n : Nat) : Nat := (Nat.toDigits 10 n).length

/-- The double nearest to `±mantissa × 10^exponent`. -/
def toFloat (negative : Bool) (mantissa : Nat) (exponent : Int) : Float :=
  let magnitude : Float :=
    if mantissa = 0 then 0
    else if (decimalLength mantissa : Int) - 1 + exponent > 309 then Float.ofScientific 1 false 400
    else if (decimalLength mantissa : Int) + exponent < -325 then 0
    else if exponent < 0 then Float.ofScientific mantissa true (-exponent).toNat
    else Float.ofScientific mantissa false exponent.toNat
  if negative then -magnitude else magnitude

/-- The value of ASCII digits, most significant first. -/
def digitsValue (ds : List Nat) : Nat := ds.foldl (fun acc d => acc * 10 + d) 0

/-- A numeral as written. -/
structure Numeral where
  negative : Bool
  whole : List Nat
  fraction : List Nat
  exponent : Int
  /-- Written with a point or an exponent. -/
  decimal : Bool
  deriving DecidableEq, Repr

/-- The double a numeral denotes. -/
def Numeral.toFloat (n : Numeral) : Float :=
  Decimal.toFloat n.negative (digitsValue (n.whole ++ n.fraction)) (n.exponent - n.fraction.length)

/-- The integer an integer numeral denotes. -/
def Numeral.toInt (n : Numeral) : Int :=
  if n.negative then -(digitsValue n.whole : Int) else digitsValue n.whole

/-- What a value text reads as. -/
inductive Reading where
  | numeral (n : Numeral)
  | infinity (negative : Bool)
  deriving DecidableEq, Repr

/-- The double a reading denotes. -/
def Reading.toFloat : Reading → Float
  | .numeral n => n.toFloat
  | .infinity negative => if negative then -Float.ofScientific 1 false 400
      else Float.ofScientific 1 false 400

/-- The value of an ASCII digit. -/
def asciiDigit? (c : Char) : Option Nat :=
  if '0' ≤ c ∧ c ≤ '9' then some (c.toNat - '0'.toNat) else none

/-- The leading ASCII digits of a text and the rest. -/
def spanDigits : List Char → List Nat × List Char
  | [] => ([], [])
  | c :: rest =>
    match asciiDigit? c with
    | some d => let (ds, r) := spanDigits rest; (d :: ds, r)
    | none => ([], c :: rest)

/-- An optional sign and the rest. -/
def spanSign : List Char → Bool × List Char
  | '-' :: rest => (true, rest)
  | '+' :: rest => (false, rest)
  | s => (false, s)

/-- An exponent part `[eE][+-]?digits`, which must take the whole rest. -/
def readExponent? : List Char → Option Int
  | [] => some 0
  | c :: rest =>
    if c = 'e' ∨ c = 'E' then
      let (neg, r) := spanSign rest
      match spanDigits r with
      | (ds@(_ :: _), []) => some (if neg then -(digitsValue ds : Int) else digitsValue ds)
      | _ => none
    else none

/-- Lower-cases ASCII letters. -/
def lowerAscii (s : List Char) : List Char := s.map Char.toLower

/-- A numeral without sign: digits, an optional point with digits, an optional exponent. -/
def readUnsigned? (negative : Bool) (s : List Char) : Option Numeral :=
  let (whole, r) := spanDigits s
  match r with
  | '.' :: r' =>
    let (fraction, r'') := spanDigits r'
    if whole.isEmpty ∧ fraction.isEmpty then none
    else (readExponent? r'').map fun e => ⟨negative, whole, fraction, e, true⟩
  | _ =>
    if whole.isEmpty then none
    else (readExponent? r).map fun e => ⟨negative, whole, [], e, !r.isEmpty⟩

/-- The reading of a preference value text, or `none` when it is not a numeral. -/
def readNumeral? (s : List Char) : Option Reading :=
  let (negative, r) := spanSign s
  if lowerAscii r = "inf".toList ∨ lowerAscii r = "infinity".toList then some (.infinity negative)
  else (readUnsigned? negative r).map .numeral

end ItemRecommender.Decimal
