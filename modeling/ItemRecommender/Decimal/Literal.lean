import ItemRecommender.Decimal.Read
import ItemRecommender.Text.Blank
import ItemRecommender.Text.Digit
/-! # Lenient number literals

    The item ids and scores of a recommendation line are read leniently:

    * a decimal digit of any script counts as its ASCII digit, and a blank outside ASCII as a
      space; any other character outside ASCII makes the literal invalid (`asciiForm`);
    * spaces, tabs, line feeds, vertical tabs, form feeds and carriage returns around the
      literal are ignored;
    * a single underscore may stand between two digits.

    An integer literal is an optional sign and digits, at most `maxIntDigits` of them: a longer
    literal is refused rather than read, since reading it takes time quadratic in its length. A real literal is an optional sign and
    then a decimal numeral (digits with at most one point, at least one digit, an optional
    exponent) or `inf`, `infinity` or `nan` in any case. -/

namespace ItemRecommender.Decimal

open ItemRecommender.Text

/-- The ASCII form of a literal: a decimal digit of any script becomes its ASCII digit, a blank
outside ASCII a space, and any other character outside ASCII a `?`, which no literal holds. -/
def asciiForm (s : List Char) : List Char :=
  s.map fun c =>
    if c.toNat < 0x7F then c
    else if isBlank c then ' '
    else match decimalValue? c with
      | some d => Char.ofNat (0x30 + d)
      | none => '?'

/-- The ASCII white space ignored around a literal. -/
def isAsciiSpace (c : Char) : Bool :=
  c = ' ' || c = '\t' || c = '\n' || c = '\x0b' || c = '\x0c' || c = '\r'

/-- Drops ASCII white space at both ends. -/
def trimAsciiSpace (s : List Char) : List Char :=
  ((s.dropWhile isAsciiSpace).reverse.dropWhile isAsciiSpace).reverse

/-- Removes the underscores of a text if each stands between two ASCII digits. -/
def dropGroupMarks? : Option Char → List Char → Option (List Char)
  | _, [] => some []
  | prev, '_' :: rest =>
    match prev, rest with
    | some p, n :: _ =>
      if p.isDigit ∧ n.isDigit then dropGroupMarks? (some '_') rest else none
    | _, _ => none
  | _, c :: rest => (dropGroupMarks? (some c) rest).map (c :: ·)

/-- Digits with single underscores between them, as the list of digit values. -/
def groupedDigits? (s : List Char) : Option (List Nat) :=
  match s with
  | [] => none
  | '_' :: _ => none
  | _ => (dropGroupMarks? none s).bind fun t => t.mapM asciiDigit?

/-- The most digits an integer literal may have. -/
def maxIntDigits : Nat := 4300

/-- Why a text is not read as an integer. -/
inductive IntFault where
  /-- The text is no integer literal. -/
  | malformed
  /-- The literal has `count` digits, more than `maxIntDigits`. -/
  | tooLong (count : Nat)
  deriving DecidableEq, Repr

/-- The value of a sign and digits, refused when there are more than `maxIntDigits` digits. -/
def signedValue (negative : Bool) (ds : List Nat) : Except IntFault Int :=
  if maxIntDigits < ds.length then throw (.tooLong ds.length)
  else pure (if negative then -(digitsValue ds : Int) else digitsValue ds)

/-- The digits at the front of a text, where an underscore may stand before a digit, and the
rest; `none` when an underscore stands before anything else. -/
def scanDigits : List Char → Option (List Nat × List Char)
  | [] => some ([], [])
  | '_' :: rest =>
    match rest with
    | c :: _ => if c.isDigit then scanDigits rest else none
    | [] => none
  | c :: rest =>
    match asciiDigit? c with
    | some d => (scanDigits rest).map fun (ds, r) => (d :: ds, r)
    | none => some ([], c :: rest)

/-- The integer a lenient integer literal denotes. The digits are counted as soon as they are
scanned: a run of more than `maxIntDigits` digits is too long even when the text goes on with
something that no literal holds. -/
def readInt (s : List Char) : Except IntFault Int := do
  let (negative, body) := spanSign ((asciiForm s).dropWhile isAsciiSpace)
  if body.head? = some '_' then throw .malformed
  let some (ds, rest) := scanDigits body | throw .malformed
  if maxIntDigits < ds.length then throw (.tooLong ds.length)
  if ds.isEmpty ∨ !rest.all isAsciiSpace then throw .malformed
  pure (if negative then -(digitsValue ds : Int) else digitsValue ds)

/-- The integer a lenient integer literal denotes, if it is one of at most `maxIntDigits`
digits. -/
def readIntLiteral? (s : List Char) : Option Int := (readInt s).toOption

/-- The double a lenient real literal denotes. -/
def readFloatLiteral? (s : List Char) : Option Float := do
  let a := asciiForm s
  let plain ← if a.contains '_' then dropGroupMarks? none a else some a
  let text := trimAsciiSpace plain
  if lowerAscii (spanSign text).2 = "nan".toList then some (0.0 / 0.0)
  else (readNumeral? text).map Reading.toFloat

end ItemRecommender.Decimal
