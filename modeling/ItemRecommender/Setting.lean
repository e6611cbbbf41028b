import ItemRecommender.Decimal.Literal
import ItemRecommender.Decimal.Shortest
/-! # Settings as given

    Configuration values arrive loosely typed: a setting is null, a truth value, an integer,
    a double, a text, or something else (a list or a map). Reading a setting as the type a field
    wants follows fixed coercion rules:

    * an integer field takes an integer, a truth value (one or zero), a double without fraction
      below `2^63` in size (`floatToInt`), or a text that is an integer numeral (`intOfText`);
    * a truth-value field takes a truth value, the integers one and zero, the doubles one and
      zero, or one of the words `1 on t true y yes` and `0 off f false n no` in any case;
      integers and doubles outside the signed 64-bit range are of the wrong type;
    * a path field takes a text.

    A rejected setting is reported with a kind and a message (`SettingError`). -/

namespace ItemRecommender

/-- A configuration value as given. -/
inductive Setting where
  | null
  | bool (b : Bool)
  | int (i : Int)
  | float (x : Float)
  | text (s : String)
  | other

/-- Why a setting was rejected: a kind and its message. -/
structure SettingError where
  kind : String
  message : String
  deriving DecidableEq, Repr

namespace Setting

/-- The white space trimmed from integer texts. -/
def isTrimmed (c : Char) : Bool :=
  (0x9 ≤ c.toNat ∧ c.toNat ≤ 0xD) || c = ' ' || c = '\x85' || c = '\u00A0' || c = '\u1680' ||
    (0x2000 ≤ c.toNat ∧ c.toNat ≤ 0x200A) || c = '\u2028' || c = '\u2029' || c = '\u202F' ||
    c = '\u205F' || c = '\u3000'

/-- The longest an integer numeral may be, its minus sign included. -/
def maxNumeralLength : Nat := 4300

/-- The message of a number too large to be read as an integer. -/
def tooLarge : SettingError :=
  ⟨"int_parsing_size", "Unable to parse input string as an integer, exceeded maximum size"⟩

/-- The message of a text that is no integer. -/
def unparsable : SettingError :=
  ⟨"int_parsing", "Input should be a valid integer, unable to parse string as an integer"⟩

/-- Whether a text, as given, starts with a numeral too long to read: an optional minus sign and
a run of ASCII digits that starts with a nonzero digit and is longer than `maxNumeralLength`.
Whatever follows the run does not matter. -/
def startsTooLong (s : List Char) : Bool :=
  let body := match s with
    | '-' :: r => r
    | r => r
  match body with
  | d :: _ => d ≠ '0' && d.isDigit && maxNumeralLength < (body.takeWhile Char.isDigit).length
  | [] => false

/-- The integer a text denotes. A text that starts with a numeral too long to read is too large
(`startsTooLong`). Otherwise, trimmed of white space, the text is an optional sign, ASCII digits
with single underscores between them, and optionally a point followed by one or more zeros;
leading zeros are dropped, and the numeral left must not be longer than `maxNumeralLength`. -/
def intOfText (s : String) : Except SettingError Int := do
  if startsTooLong s.toList then throw tooLarge
  let t := ((s.toList.dropWhile isTrimmed).reverse.dropWhile isTrimmed).reverse
  let (negative, body) := Decimal.spanSign t
  let whole := body.takeWhile (· ≠ '.')
  let fraction := body.drop (whole.length + 1)
  if whole.length < body.length ∧ (fraction.isEmpty ∨ !fraction.all (· = '0')) then
    throw unparsable
  let some ds := Decimal.groupedDigits? whole | throw unparsable
  let significant := ds.dropWhile (· = 0)
  if maxNumeralLength < significant.length then throw unparsable
  let v := Decimal.digitsValue significant
  pure (if negative then -(v : Int) else v)

/-- The integer a text denotes, if `intOfText` reads one. -/
def intOfText? (s : String) : Option Int := (intOfText s).toOption

/-- The integer a double denotes: it must be finite, without fraction, and strictly between
`-2^63` and `2^63`. -/
def floatToInt (x : Float) : Except SettingError Int :=
  match Decimal.Binary.ofFloat? x with
  | none => throw ⟨"finite_number", "Input should be a finite number"⟩
  | some b =>
    let scale := Nat.pow 2 (-b.exponent).toNat
    if b.exponent < 0 ∧ b.significand % scale ≠ 0 then
      throw ⟨"int_from_float", "Input should be a valid integer, got a number with a fractional part"⟩
    else
      let magnitude : Nat :=
        if 0 ≤ b.exponent then b.significand * Nat.pow 2 b.exponent.toNat else b.significand / scale
      if Nat.pow 2 63 ≤ magnitude then throw tooLarge
      else pure (if b.negative then -(magnitude : Int) else magnitude)

/-- The message of a value that is not an integer. -/
def notInteger : SettingError := ⟨"int_type", "Input should be a valid integer"⟩

/-- A setting read as an integer. -/
def toInt : Setting → Except SettingError Int
  | .bool b => pure (if b then 1 else 0)
  | .int i => pure i
  | .float x => floatToInt x
  | .text s => intOfText s
  | _ => throw notInteger

/-- The message of a value that cannot be read as a truth value. -/
def unreadableBool : SettingError :=
  ⟨"bool_parsing", "Input should be a valid boolean, unable to interpret input"⟩

/-- The message of a value of a type that is no truth value. -/
def notBool : SettingError := ⟨"bool_type", "Input should be a valid boolean"⟩

/-- A truth value from an integer: one or zero. Integers outside the signed 64-bit range are
not numbers a truth value is read from. -/
def boolOfInt (i : Int) : Except SettingError Bool :=
  if i < -Int.ofNat (Nat.pow 2 63) ∨ Int.ofNat (Nat.pow 2 63) ≤ i then throw notBool
  else if i = 1 then pure true else if i = 0 then pure false else throw unreadableBool

/-- A setting read as a truth value. -/
def toBool : Setting → Except SettingError Bool
  | .bool b => pure b
  | .int i => boolOfInt i
  | .float x => match floatToInt x with
    | .ok i => boolOfInt i
    | .error _ => throw notBool
  | .text s =>
    let w := s.toList.map Char.toLower
    if w ∈ ["1", "on", "t", "true", "y", "yes"].map String.toList then pure true
    else if w ∈ ["0", "off", "f", "false", "n", "no"].map String.toList then pure false
    else throw unreadableBool
  | _ => throw notBool

/-- A setting read as the text of a path. -/
def toPathText : Setting → Except SettingError String
  | .text s => pure s
  | _ => throw ⟨"path_type", "Input is not a valid path for <class 'pathlib.Path'>"⟩

end Setting

end ItemRecommender
