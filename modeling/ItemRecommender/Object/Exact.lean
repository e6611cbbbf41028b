import ItemRecommender.Decimal.Shortest
/-! # Numbers as exact ratios

    The language compares and hashes its numbers by their exact values, whatever their types:
    `1 == 1.0`, `0.5 == Fraction(1, 2)`, and equal numbers have equal hashes. Every real number
    the library handles is a ratio of integers, an infinity or a NaN (`Exact`).

    * `Exact.compare?` orders two of them, and finds no order when either is a NaN.
    * `Exact.hash` is the number's residue modulo the prime `2^61 - 1` (the denominator by its
      inverse), negative for a negative number, `-1` taken to `-2`; infinities hash to
      `±314159`.
    * `ratioToFloat` is the double nearest to a ratio, a tie going to the even significand.
    * `Exact.ofFloat` is the exact value of a double. -/

namespace ItemRecommender.Object

/-- A real number: a NaN, an infinity, or `num / den` with `den > 0`. -/
inductive Exact where
  | nan
  | infinite (negative : Bool)
  | ratio (num : Int) (den : Nat)
  deriving DecidableEq, Repr, Inhabited

/-- `b ^ e` modulo `m`, by squaring. -/
def powMod (b e m : Nat) : Nat :=
  if h : e = 0 then 1 % m
  else
    let half := powMod (b * b % m) (e / 2) m
    if e % 2 = 1 then b * half % m else half
termination_by e
decreasing_by omega

/-- The prime modulus of number hashes. -/
def hashModulus : Nat := Nat.pow 2 61 - 1

/-- The hash of an infinity of positive sign. -/
def infinityHash : Int := 314159

/-- The hash of `num / den`. -/
def ratioHash (num : Int) (den : Nat) : Int :=
  let p := hashModulus
  let h : Int :=
    if den % p = 0 then infinityHash
    else ((num.natAbs % p * powMod (den % p) (p - 2) p % p : Nat) : Int)
  let h := if num < 0 then -h else h
  if h = -1 then -2 else h

/-- The exact ratio of a double's parts. -/
def binaryRatio (negative : Bool) (significand : Nat) (exponent : Int) : Exact :=
  let m : Int := if negative then -(significand : Int) else significand
  if 0 ≤ exponent then .ratio (m * (Nat.pow 2 exponent.toNat : Nat)) 1
  else .ratio m (Nat.pow 2 (-exponent).toNat)

namespace Exact

/-- The exact value of a double. -/
def ofFloat (x : Float) : Exact :=
  match Decimal.Binary.ofFloat? x with
  | some b => binaryRatio b.negative b.significand b.exponent
  | none => if x.isNaN then .nan else .infinite (x < 0)

/-- How two numbers compare, or `none` when either is a NaN. -/
def compare? : Exact → Exact → Option Ordering
  | .nan, _ | _, .nan => none
  | .infinite a, .infinite b => some (if a == b then .eq else if a then .lt else .gt)
  | .infinite a, .ratio _ _ => some (if a then .lt else .gt)
  | .ratio _ _, .infinite b => some (if b then .gt else .lt)
  | .ratio p q, .ratio r s => some (compare (p * s) (r * q))

/-- `a == b` as numbers. -/
def eq (a b : Exact) : Bool := compare? a b == some .eq

/-- The hash of a number; a NaN's hash is its identity's, taken as zero. -/
def hash : Exact → Int
  | .nan => 0
  | .infinite negative => if negative then -infinityHash else infinityHash
  | .ratio num den => ratioHash num den

end Exact

/-- The double nearest to `p / q` (`q > 0`), a tie going to the even significand, with a sign;
beyond the largest double, an infinity. -/
def ratioToFloat (negative : Bool) (p q : Nat) : Float :=
  if p = 0 ∨ q = 0 then (if negative then -0.0 else 0.0)
  else
    -- the exponent that brings the quotient between 2^52 and 2^53
    let guess : Int := (p.log2 : Int) - q.log2 - 52
    let scaled (e : Int) : Nat × Nat :=
      if 0 ≤ e then (p, q * Nat.pow 2 e.toNat) else (p * Nat.pow 2 (-e).toNat, q)
    let e :=
      let (n, d) := scaled guess
      if n / d < Nat.pow 2 52 then guess - 1 else if Nat.pow 2 53 ≤ n / d then guess + 1 else guess
    let e := max e (-1074)
    let (n, d) := scaled e
    let quotient := n / d
    let twice := 2 * (n % d)
    let rounded := if d < twice ∨ (d = twice ∧ quotient % 2 = 1) then quotient + 1 else quotient
    let magnitude := if 1024 < (rounded.log2 : Int) + e then Float.ofScientific 1 false 400
      else Float.scaleB (Float.ofNat rounded) e
    if negative then -magnitude else magnitude

/-- The double nearest to an integer, or `none` beyond the largest double. -/
def intToFloat? (i : Int) : Option Float :=
  let x := ratioToFloat (i < 0) i.natAbs 1
  if x.isInf then none else some x

/-- The double nearest to a number. -/
def Exact.toFloat : Exact → Float
  | .nan => Float.ofScientific 0 false 0 / 0
  | .infinite n => if n then -Float.ofScientific 1 false 400 else Float.ofScientific 1 false 400
  | .ratio p q => ratioToFloat (p < 0) p.natAbs q

/-- The integer part of a ratio, rounded toward zero. -/
def truncRatio (p : Int) (q : Nat) : Int :=
  if p < 0 then -((p.natAbs / q : Nat) : Int) else ((p.natAbs / q : Nat) : Int)

end ItemRecommender.Object
