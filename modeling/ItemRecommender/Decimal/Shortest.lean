/-! # Shortest decimal digits of a double

    A finite nonzero double is `m * 2^e` for a significand `m` and an exponent `e`
    (`Binary.ofFloat?`). The reals that round to it form an interval whose ends lie halfway to
    the neighbouring doubles; the ends belong to it exactly when `m` is even, since a tie rounds
    to the even significand.

    `shortest` finds the decimal `d * 10^k` with the fewest significant digits inside that
    interval, and of two such the one nearer to the double. For one, two, ... seventeen digits it
    looks at the two neighbours of the double on the grid of that many digits: if a point of the
    grid lies in the interval, one of the two neighbours does. Seventeen digits always suffice.
    All comparisons are exact, in natural numbers. -/

namespace ItemRecommender.Decimal

/-- A finite double as sign, significand and binary exponent: its magnitude is
`significand * 2 ^ exponent`. `narrowBelow` says that the next smaller double is nearer than
the next larger one (the significand is the least of its binade, above the least binade). -/
structure Binary where
  negative : Bool
  significand : Nat
  exponent : Int
  narrowBelow : Bool
  deriving DecidableEq, Repr

/-- The parts of a finite double, or `none` for an infinity or a NaN. -/
def Binary.ofFloat? (x : Float) : Option Binary :=
  let bits : Nat := x.toBits.toNat
  let negative : Bool := decide (bits / Nat.pow 2 63 % 2 = 1)
  let biased : Nat := bits / Nat.pow 2 52 % Nat.pow 2 11
  let fraction : Nat := bits % Nat.pow 2 52
  if biased = Nat.pow 2 11 - 1 then none
  else if biased = 0 then some ⟨negative, fraction, -1074, false⟩
  else some ⟨negative, fraction + Nat.pow 2 52, (biased : Int) - 1075, decide (fraction = 0 ∧ 1 < biased)⟩

/-- Compares `d * 10^k` with `n * 2^a`, exactly. -/
def compareScaled (d : Nat) (k : Int) (n : Nat) (a : Int) : Ordering :=
  compare (d * Nat.pow 10 k.toNat * Nat.pow 2 (-a).toNat) (n * Nat.pow 2 a.toNat * Nat.pow 10 (-k).toNat)

/-- A decimal `digits * 10 ^ exponent`. -/
structure Digits where
  digits : Nat
  exponent : Int
  deriving DecidableEq, Repr

namespace Binary

/-- The lower end of the rounding interval, in units of `2 ^ (exponent - 2)`. -/
def lowEnd (b : Binary) : Nat := 4 * b.significand - if b.narrowBelow then 1 else 2

/-- The upper end of the rounding interval, in units of `2 ^ (exponent - 2)`. -/
def highEnd (b : Binary) : Nat := 4 * b.significand + 2

/-- Whether `d * 10^k` reads back as this double. -/
def holds (b : Binary) (d : Nat) (k : Int) : Bool :=
  let closed := b.significand % 2 = 0
  let lo := compareScaled d k b.lowEnd (b.exponent - 2)
  let hi := compareScaled d k b.highEnd (b.exponent - 2)
  (lo == .gt || (closed && lo == .eq)) && (hi == .lt || (closed && hi == .eq))

/-- The exponent `k` with `10^k ≤ value < 10^(k+1)`, refined from an estimate `k`. -/
def refineExponent (b : Binary) : Nat → Int → Int
  | 0, k => k
  | fuel + 1, k =>
    if compareScaled 1 k b.significand b.exponent == .gt then b.refineExponent fuel (k - 1)
    else if compareScaled 1 (k + 1) b.significand b.exponent != .gt then
      b.refineExponent fuel (k + 1)
    else k

/-- The decimal exponent of the leading digit of a nonzero double. -/
def leadExponent (b : Binary) : Int :=
  b.refineExponent 4 (((Nat.log2 b.significand : Int) + b.exponent) * 30103 / 100000)

/-- The value's neighbour below on the grid `10^k`: `⌊m * 2^e / 10^k⌋`. -/
def gridFloor (b : Binary) (k : Int) : Nat :=
  b.significand * Nat.pow 2 b.exponent.toNat * Nat.pow 10 (-k).toNat / (Nat.pow 2 (-b.exponent).toNat * Nat.pow 10 k.toNat)

/-- The decimal with `n` significant digits that reads back as this double, if there is one;
of two, the nearer, and of two equally near, the one with an even last digit. -/
def onGrid (b : Binary) (n : Nat) : Option Digits :=
  let k := b.leadExponent + 1 - n
  let lo := b.gridFloor k
  let hi := lo + 1
  match b.holds lo k, b.holds hi k with
  | true, true =>
    match compareScaled (2 * lo + 1) k (2 * b.significand) b.exponent with
    | .gt => some ⟨lo, k⟩
    | .lt => some ⟨hi, k⟩
    | .eq => some ⟨if lo % 2 = 0 then lo else hi, k⟩
  | true, false => some ⟨lo, k⟩
  | false, true => some ⟨hi, k⟩
  | false, false => none

end Binary

/-- Moves trailing zeros of the digits into the exponent. -/
def Digits.normalize : Nat → Digits → Digits
  | 0, d => d
  | fuel + 1, d =>
    if d.digits ≠ 0 ∧ d.digits % 10 = 0 then Digits.normalize fuel ⟨d.digits / 10, d.exponent + 1⟩
    else d

/-- The shortest decimal that reads back as a nonzero finite double, nearest of the shortest. -/
def shortest (b : Binary) : Digits :=
  let found := (List.range 17).findSome? fun i => b.onGrid (i + 1)
  let d := found.getD ⟨b.gridFloor (b.leadExponent - 16), b.leadExponent - 16⟩
  Digits.normalize 20 d

end ItemRecommender.Decimal
