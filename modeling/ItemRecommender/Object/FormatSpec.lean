import ItemRecommender.Decimal.Rounded
import ItemRecommender.Object.Conversion
import ItemRecommender.Object.Division
/-! # Format specifications

    The text that follows the colon of a replacement field,
    `[[fill]align][sign][z][#][0][width][,|_][.precision][type]`, read once into a `FormatSpec`,
    and the formatting of texts, integers, doubles and complex numbers by it.

    A number is laid out as left padding, sign, radix mark, inner padding, the digits grouped
    from the right, the point, the rest of the number and right padding; the alignment picks
    which one of the three paddings is not empty. A fill of `0` with the alignment `=` pads
    inside the digits instead, so that the separators of a grouping run through the zeros. -/

namespace ItemRecommender.Object

open ItemRecommender.Decimal (Rendering Style)

/-- A value as the double a function of real numbers takes. -/
def realArgument (h : Heap) (v : Value) : Except Raised Float :=
  match v with
  | .decimal d => d.toFloat
  | .fraction p q =>
    let x := ratioToFloat (p < 0) p.natAbs q
    if x.isInf then throw ⟨"OverflowError", "integer division result too large for a float"⟩
    else pure x
  | _ =>
    match asFloat? v with
    | some r => r
    | none => throw ⟨"TypeError", "must be real number, not " ++ v.typeName h⟩

/-- A parsed format specification. The type `'\x00'` stands for none given. -/
structure FormatSpec where
  fill : Char
  align : Char
  sign : Option Char
  plainZero : Bool
  alternate : Bool
  width : Option Nat
  /-- The separator and the size of its groups. -/
  grouping : Option (Char × Nat)
  precision : Option Nat
  type : Char
  deriving Repr

/-- Whether a character picks an alignment. -/
def isAlignment (c : Char) : Bool := c == '<' || c == '>' || c == '=' || c == '^'

/-- The largest width or precision a specification may give. -/
def countLimit : Nat := Nat.pow 2 63 - 1

/-- The largest precision a number can be formatted with. -/
def precisionLimit : Nat := Nat.pow 2 31 - 1

/-- The error of a count past `countLimit`. -/
def digitCountFault : Raised := ⟨"ValueError", "Too many decimal digits in format string"⟩

/-- Reads a run of decimal digits of any script: the number, how many digits there were, and
the rest of the text. -/
def readCount : List Char → Nat → Nat → Except Raised (Nat × Nat × List Char)
  | [], acc, n => pure (acc, n, [])
  | c :: rest, acc, n =>
    match Text.decimalValue? c with
    | some d =>
      if acc > (countLimit - d) / 10 then throw digitCountFault else readCount rest (acc * 10 + d) (n + 1)
    | none => pure (acc, n, c :: rest)

/-- A presentation type as the errors show it: the character, or its code in hexadecimal. -/
def typeShown (t : Char) : String :=
  if 32 < t.toNat ∧ t.toNat < 128 then String.singleton t
  else "\\x" ++ String.ofList (Nat.toDigits 16 t.toNat)

/-- The error of a presentation type a kind of value does not have. -/
def unknownType (t : Char) (typeName : String) : Raised :=
  ⟨"ValueError", "Unknown format code '" ++ typeShown t ++ "' for object of type '" ++ typeName ++ "'"⟩

/-- The error of asking for both separators. -/
def bothSeparators : Raised := ⟨"ValueError", "Cannot specify both ',' and '_'."⟩

/-- Reads a specification for a value of type `typeName`, whose type and alignment default to
`defaultType` and `defaultAlign`. A `0` before the width fills with zeros and, for numbers,
pads between the sign and the digits. A separator groups by threes, or by fours for `_` in
binary, octal and hexadecimal. -/
def FormatSpec.parse (typeName : String) (defaultType defaultAlign : Char) (spec : String) :
    Except Raised FormatSpec := do
  let cs := spec.toList
  let (fill, align, fillGiven, alignGiven, cs) : Char × Char × Bool × Bool × List Char :=
    match cs with
    | f :: a :: rest =>
      if isAlignment a then (f, a, true, true, rest)
      else if isAlignment f then (' ', f, false, true, a :: rest)
      else (' ', defaultAlign, false, false, cs)
    | [a] => if isAlignment a then (' ', a, false, true, []) else (' ', defaultAlign, false, false, cs)
    | [] => (' ', defaultAlign, false, false, [])
  let (sign, cs) : Option Char × List Char := match cs with
    | c :: rest => if c == '+' || c == '-' || c == ' ' then (some c, rest) else (none, cs)
    | [] => (none, [])
  let (plainZero, cs) := match cs with
    | 'z' :: rest => (true, rest)
    | _ => (false, cs)
  let (alternate, cs) := match cs with
    | '#' :: rest => (true, rest)
    | _ => (false, cs)
  let (fill, align, cs) := match cs with
    | '0' :: rest =>
      if fillGiven then (fill, align, cs)
      else ('0', if !alignGiven && defaultAlign == '>' then '=' else align, rest)
    | _ => (fill, align, cs)
  let (width, widthDigits, cs) ← readCount cs 0 0
  let (comma, cs) := match cs with
    | ',' :: rest => (true, rest)
    | _ => (false, cs)
  let (separator, cs) ← match cs with
    | '_' :: rest => if comma then throw bothSeparators else pure (some '_', rest)
    | _ => pure (if comma then some ',' else none, cs)
  if separator = some '_' ∧ cs.head? = some ',' then throw bothSeparators
  let (precision, cs) ← match cs with
    | '.' :: rest => do
      let (p, digits, rest) ← readCount rest 0 0
      if digits = 0 then throw ⟨"ValueError", "Format specifier missing precision"⟩
      pure (some p, rest)
    | _ => pure (none, cs)
  let type ← match cs with
    | [] => pure defaultType
    | [c] => pure c
    | _ => throw ⟨"ValueError", "Invalid format specifier '" ++ spec ++ "' for object of type '" ++
        typeName ++ "'"⟩
  let grouping ← match separator with
    | none => pure none
    | some s =>
      if "defgEG%F\x00".contains type then pure (some (s, 3))
      else if s == '_' && "boxX".contains type then pure (some (s, 4))
      else throw ⟨"ValueError", "Cannot specify '" ++ String.singleton s ++ "' with '" ++
        typeShown type ++ "'."⟩
  pure ⟨fill, align, sign, plainZero, alternate, if widthDigits = 0 then none else some width,
    grouping, precision, type⟩

/-- Reversed digits cut into groups of `size` by `sep`, with zeros added on the left until
`minWidth` characters are filled; the first group takes no separator. The result is reversed
too. -/
def groupReversed (sep : Char) (size : Nat) : Nat → List Char → Int → Bool → List Char
  | 0, _, _, _ => []
  | fuel + 1, rev, minWidth, separated =>
    let remaining : Int := rev.length
    let len : Int := min (size : Int) (max (max remaining minWidth) 1)
    let chars := (min remaining len).toNat
    let chunk := (if separated then [sep] else []) ++ rev.take chars ++
      List.replicate (len - remaining).toNat '0'
    let rest := rev.drop chars
    let minWidth := minWidth - len
    if rest.isEmpty ∧ minWidth ≤ 0 then chunk
    else chunk ++ groupReversed sep size fuel rest (minWidth - 1) true

/-- Digits grouped as a grouping asks, padded with zeros to at least `minWidth` characters. -/
def groupDigits (grouping : Option (Char × Nat)) (digits : List Char) (minWidth : Int) :
    List Char :=
  match grouping with
  | none => List.replicate (minWidth - digits.length).toNat '0' ++ digits
  | some (sep, size) =>
    (groupReversed sep size (digits.length + minWidth.toNat + 1) digits.reverse minWidth false).reverse

/-- The parts of a number to lay out. -/
structure NumberParts where
  negative : Bool
  radixMark : List Char
  digits : List Char
  point : Bool
  rest : List Char

/-- A number written as a double, cut into sign, digits, point and the rest. -/
def NumberParts.ofText (text : String) : NumberParts :=
  let (negative, cs) := match text.toList with
    | '-' :: rest => (true, rest)
    | cs => (false, cs)
  let digits := cs.takeWhile Char.isDigit
  let (point, rest) := match cs.drop digits.length with
    | '.' :: rest => (true, rest)
    | rest => (false, rest)
  ⟨negative, [], digits, point, rest⟩

/-- The padding before and after a field of `n` characters for a width and an alignment. -/
def padding (width : Option Nat) (align : Char) (n : Nat) : Nat × Nat :=
  let total := max (width.getD 0) n
  let left := match align with
    | '>' => total - n
    | '^' => (total - n) / 2
    | _ => 0
  (left, total - n - left)

/-- A number laid out by a specification; `upper` writes its digits and radix mark in
capitals. -/
def FormatSpec.layNumber (s : FormatSpec) (p : NumberParts) (upper : Bool) : String :=
  let signChars : List Char := match s.sign with
    | some '+' => [if p.negative then '-' else '+']
    | some ' ' => [if p.negative then '-' else ' ']
    | _ => if p.negative then ['-'] else []
  let fixed : Int := signChars.length + p.radixMark.length + (if p.point then 1 else 0) +
    p.rest.length
  let width : Int := match s.width with
    | some w => w
    | none => -1
  let minWidth : Int := if s.fill == '0' && s.align == '=' then width - fixed else 0
  let grouped := if p.digits.isEmpty then [] else groupDigits s.grouping p.digits minWidth
  let capital (cs : List Char) := if upper then cs.map Char.toUpper else cs
  let pad := (width - (fixed + grouped.length)).toNat
  let (l, m, r) := match s.align with
    | '<' => (0, 0, pad)
    | '^' => (pad / 2, 0, pad - pad / 2)
    | '=' => (0, pad, 0)
    | _ => (pad, 0, 0)
  let fill (n : Nat) := List.replicate n s.fill
  String.ofList (fill l ++ signChars ++ capital p.radixMark ++ fill m ++ capital grouped ++
    (if p.point then ['.'] else []) ++ p.rest ++ fill r)

/-- A text formatted by a specification: cut to the precision and padded. -/
def FormatSpec.layText (s : FormatSpec) (text : String) : Except Raised String := do
  match s.sign with
  | some ' ' => throw ⟨"ValueError", "Space not allowed in string format specifier"⟩
  | some _ => throw ⟨"ValueError", "Sign not allowed in string format specifier"⟩
  | none => pure ()
  if s.plainZero then
    throw ⟨"ValueError", "Negative zero coercion (z) not allowed in string format specifier"⟩
  if s.alternate then
    throw ⟨"ValueError", "Alternate form (#) not allowed in string format specifier"⟩
  if s.align == '=' then
    throw ⟨"ValueError", "'=' alignment not allowed in string format specifier"⟩
  let cs := text.toList
  let cs := match s.precision with
    | some p => cs.take p
    | none => cs
  let (l, r) := padding s.width s.align cs.length
  pure (String.ofList (List.replicate l s.fill ++ cs ++ List.replicate r s.fill))

/-- The rendering of a double for a presentation type, and whether it is a percentage; `none`
for a type that doubles do not have. No type writes the shortest digits with `.0`, or with a
precision the general form. -/
def FormatSpec.rendering? (s : FormatSpec) (dotZero : Bool) : Option (Rendering × Bool) :=
  let make (style : Style) (upper : Bool) (default : Nat) : Rendering :=
    ⟨style, s.precision.getD default, upper, s.alternate, false, false, s.plainZero⟩
  match s.type with
  | '\x00' =>
    let style := if s.precision.isSome then Style.general else .shortest
    some ({ make style false 0 with dotZero := dotZero }, false)
  | 'e' => some (make .scientific false 6, false)
  | 'E' => some (make .scientific true 6, false)
  | 'f' => some (make .positional false 6, false)
  | 'F' => some (make .positional true 6, false)
  | 'g' | 'n' => some (make .general false 6, false)
  | 'G' => some (make .general true 6, false)
  | '%' => some (make .positional false 6, true)
  | _ => none

/-- The error of a precision past `precisionLimit`. -/
def precisionFault : Raised := ⟨"ValueError", "precision too big"⟩

/-- A double formatted by a specification. -/
def FormatSpec.layDouble (s : FormatSpec) (typeName : String) (x : Float) :
    Except Raised String := do
  let some (rendering, percent) := s.rendering? true | throw (unknownType s.type typeName)
  if s.precision.getD 0 > precisionLimit then throw precisionFault
  let text := rendering.write (if percent then x * 100 else x)
  let text := if percent then text ++ "%" else text
  pure (s.layNumber (NumberParts.ofText text) false)

/-- An integer formatted by a specification: in a radix, as a character, or as a double. -/
def FormatSpec.layInteger (s : FormatSpec) (typeName : String) (i : Int) :
    Except Raised String := do
  if !(['b', 'c', 'd', 'o', 'x', 'X', 'n', 'e', 'E', 'f', 'F', 'g', 'G', '%'].contains s.type) then
    throw (unknownType s.type typeName)
  if "eEfFgG%".contains s.type then s.layDouble typeName (← intAsFloat i)
  else
    if s.precision.isSome then
      throw ⟨"ValueError", "Precision not allowed in integer format specifier"⟩
    if s.plainZero then
      throw ⟨"ValueError", "Negative zero coercion (z) not allowed in integer format specifier"⟩
    if s.type == 'c' then
      if s.sign.isSome then
        throw ⟨"ValueError", "Sign not allowed with integer format specifier 'c'"⟩
      if s.alternate then
        throw ⟨"ValueError", "Alternate form (#) not allowed with integer format specifier 'c'"⟩
      if i < -Int.ofNat (Nat.pow 2 63) ∨ Int.ofNat (Nat.pow 2 63) ≤ i then
        throw ⟨"OverflowError", "Python int too large to convert to C long"⟩
      if i < 0 ∨ 0x10FFFF < i then throw ⟨"OverflowError", "%c arg not in range(0x110000)"⟩
      pure (s.layNumber ⟨false, [], [], false, [Char.ofNat i.toNat]⟩ false)
    else
      let (radix, mark) : Nat × List Char := match s.type with
        | 'b' => (2, ['0', 'b'])
        | 'o' => (8, ['0', 'o'])
        | 'x' | 'X' => (16, ['0', 'x'])
        | _ => (10, [])
      let digits ← if radix = 10 then do pure (← intText i.natAbs).toList
        else pure (Nat.toDigits radix i.natAbs)
      pure (s.layNumber ⟨i < 0, if s.alternate then mark else [], digits, false, []⟩
        (s.type == 'X'))

/-- A complex number formatted by a specification: both parts in the rendering of the type, the
imaginary one always signed, padded as one field. With no type, a real part that is a positive
zero is left out, and otherwise the number stands in parentheses. -/
def FormatSpec.layComplex (s : FormatSpec) (typeName : String) (re im : Float) :
    Except Raised String := do
  let some (rendering, percent) := s.rendering? false | throw (unknownType s.type typeName)
  if percent then throw (unknownType s.type typeName)
  if s.precision.getD 0 > precisionLimit then throw precisionFault
  if s.fill == '0' then
    throw ⟨"ValueError", "Zero padding is not allowed in complex format specifier"⟩
  if s.align == '=' then
    throw ⟨"ValueError", "'=' alignment flag is not allowed in complex format specifier"⟩
  let bare := s.type == '\x00'
  let omitReal := bare && re == 0 && !signBit re
  let parens := bare && !omitReal
  let plain : FormatSpec := { s with fill := ' ', align := '<', width := none }
  let reText := if omitReal then "" else plain.layNumber (NumberParts.ofText (rendering.write re)) false
  let imSpec := if omitReal then plain else { plain with sign := some '+' }
  let imText := imSpec.layNumber (NumberParts.ofText (rendering.write im)) false
  let body := (if parens then "(" else "") ++ reText ++ imText ++ "j" ++ (if parens then ")" else "")
  let (l, r) := padding s.width s.align body.length
  pure (String.ofList (List.replicate l s.fill) ++ body ++ String.ofList (List.replicate r s.fill))

/-- A value formatted by a specification text, as the built-in `format` does it: an empty
specification gives the value's text; texts, integers, truth values, doubles and complex
numbers read the specification; any other value refuses a specification. -/
def Value.formatted (h : Heap) (v : Value) (spec : String) : Except Raised String := do
  if spec.isEmpty then v.text h
  else
    let name := v.typeName h
    match v with
    | .str text =>
      let s ← FormatSpec.parse name 's' '<' spec
      if s.type == 's' then s.layText text else throw (unknownType s.type name)
    | .bool b => (← FormatSpec.parse name 'd' '>' spec).layInteger name (if b then 1 else 0)
    | .int i => (← FormatSpec.parse name 'd' '>' spec).layInteger name i
    | .float x => (← FormatSpec.parse name '\x00' '>' spec).layDouble name x
    | .double x => (← FormatSpec.parse "float" '\x00' '>' spec).layDouble "float" x
    | .complex re im => (← FormatSpec.parse name '\x00' '>' spec).layComplex name re im
    | _ => throw ⟨"TypeError", "unsupported format string passed to " ++ name ++ ".__format__"⟩

end ItemRecommender.Object
