import ItemRecommender.Decimal.Shortest
/-! # Writing a double

    A double is written with the shortest digits that read back (`shortest`), laid out by a
    `Layout`: positionally when the decimal exponent of its leading digit lies in a range, and in
    scientific notation otherwise. Zero keeps its sign. -/

namespace ItemRecommender.Decimal

/-- The decisions of a number format. -/
structure Layout where
  /-- Leading-digit exponents from here up are written positionally. -/
  lowestPositional : Int
  /-- Leading-digit exponents up to here are written positionally. -/
  highestPositional : Int
  /-- Least number of exponent digits in scientific notation. -/
  exponentWidth : Nat
  /-- Text of a NaN. -/
  nanText : String
  /-- Text of a positive infinity; a negative one has a minus sign before it. -/
  infinityText : String

/-- Scores are written positionally from `0.0001` to below `10^16`, always with a point and at
least one digit after it; otherwise as `d.ddde±XX` with at least two exponent digits and a sign;
NaN is `nan` and infinity `inf`. -/
def Layout.score : Layout := ⟨-4, 15, 2, "nan", "inf"⟩

/-- The digits of a natural number, most significant first. -/
def decimalChars (n : Nat) : List Char := Nat.toDigits 10 n

/-- Digits `ds` (no trailing zero) times `10^k`, laid out by `f`. -/
def Layout.place (f : Layout) (ds : List Char) (k : Int) : List Char :=
  let lead : Int := ds.length - 1 + k
  if f.lowestPositional ≤ lead ∧ lead ≤ f.highestPositional then
    if 0 ≤ k then ds ++ List.replicate k.toNat '0' ++ ['.', '0']
    else if 0 ≤ lead then ds.take (lead.toNat + 1) ++ '.' :: ds.drop (lead.toNat + 1)
    else ['0', '.'] ++ List.replicate ((-lead).toNat - 1) '0' ++ ds
  else
    let exp := decimalChars lead.natAbs
    ds.take 1 ++ (if ds.length > 1 then '.' :: ds.drop 1 else []) ++
      'e' :: (if lead < 0 then '-' else '+') ::
      (List.replicate (f.exponentWidth - exp.length) '0' ++ exp)

/-- The text of a double in layout `f`. -/
def Layout.render (f : Layout) (x : Float) : String :=
  match Binary.ofFloat? x with
  | none => if x.isNaN then f.nanText else if x < 0 then "-" ++ f.infinityText else f.infinityText
  | some b =>
    let sign := if b.negative then "-" else ""
    if b.significand = 0 then sign ++ "0.0"
    else
      let d := shortest b
      sign ++ String.ofList (f.place (decimalChars d.digits) d.exponent)

end ItemRecommender.Decimal
