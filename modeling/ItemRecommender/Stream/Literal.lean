import ItemRecommender.Decimal.Literal
import ItemRecommender.Object.Value
import ItemRecommender.Text.Quoted
/-! # Literals inside a dataset stream

    Some instructions of a dataset stream carry their argument as a line of text: integers,
    doubles, quoted byte strings and texts with escapes. This module reads them.

    * An integer line is first read the way the C library reads a long in base 0 (`cLong?`):
      blanks, a sign, then hexadecimal after `0x`, octal after a leading `0`, else decimal, only
      a line feed after the digits, and the value within 64 bits. Otherwise, and wherever an
      instruction wants a number of any size, it is read as an integer literal (`readLiteral`):
      in base 10, or in base 0 where the prefixes `0x`, `0o` and `0b` choose the base; single
      underscores may stand between digits, and a decimal literal with a leading `0` may only
      stand for zero.
    * A double line is read from its front (`leadingFloat?`): a sign, then digits with at most
      one point and at least one digit, then an exponent if it has digits; or `inf`,
      `infinity` or `nan` in any case.
    * A quoted byte string undoes the escapes of its quotes (`unescapeBytes`); a text line undoes
      `\u` and `\U` escapes and reads every other byte as the character of that number
      (`rawUnicode`). -/

namespace ItemRecommender.Stream

open ItemRecommender.Text ItemRecommender.Object

/-- The value of a digit in a base up to thirty-six: a decimal digit, or a letter of either
case from ten for `a`. -/
def digitIn (base : Nat) (c : Char) : Option Nat :=
  let v : Option Nat :=
    if '0' ≤ c ∧ c ≤ '9' then some (c.toNat - '0'.toNat)
    else if 'a' ≤ c ∧ c ≤ 'z' then some (c.toNat - 'a'.toNat + 10)
    else if 'A' ≤ c ∧ c ≤ 'Z' then some (c.toNat - 'A'.toNat + 10)
    else none
  v.bind fun d => if d < base then some d else none

/-- The value of digits in a base, most significant first. -/
def baseValue (base : Nat) (ds : List Nat) : Nat := ds.foldl (fun acc d => acc * base + d) 0

/-- Whether a character is a blank of the C library. -/
def isCSpace (c : Char) : Bool :=
  c = ' ' || c = '\t' || c = '\n' || c = '\x0b' || c = '\x0c' || c = '\r'

/-- A sign and the rest. -/
def spanSign : List Char → Bool × List Char
  | '-' :: r => (true, r)
  | '+' :: r => (false, r)
  | r => (false, r)

/-- The digits of a base at the front of a text, where one underscore may stand before a
digit, and the rest; `none` when an underscore stands before anything but a digit. -/
def spanDigitsIn (base : Nat) : List Char → Option (List Nat × List Char)
  | [] => some ([], [])
  | '_' :: rest =>
    match rest with
    | c :: _ => if (digitIn base c).isSome then spanDigitsIn base rest else none
    | [] => none
  | c :: rest =>
    match digitIn base c with
    | some d => (spanDigitsIn base rest).map fun (ds, r) => (d :: ds, r)
    | none => some ([], c :: rest)

/-- A line read the way the C library reads a long in base 0: blanks, a sign, then hexadecimal
after `0x`, octal after a leading `0`, else decimal; only a line feed may follow the digits,
and the value must fit in 64 bits. An empty text reads as zero. -/
def cLong? (s : List Char) : Option Int :=
  let (negative, body) := spanSign (s.dropWhile isCSpace)
  let (base, digits) : Nat × List Char := match body with
    | '0' :: x :: r =>
      if (x = 'x' ∨ x = 'X') ∧ (r.head?.bind (digitIn 16)).isSome then (16, r) else (8, body)
    | _ => (10, body)
  let ds := digits.takeWhile fun c => (digitIn base c).isSome
  let after := digits.drop ds.length
  let v : Int :=
    if negative then -(baseValue base (ds.filterMap (digitIn base)) : Int)
    else baseValue base (ds.filterMap (digitIn base))
  if ds.isEmpty then (if s.isEmpty then some 0 else none)
  else if !(after.isEmpty ∨ after.head? = some '\n') then none
  else if v < -Int.ofNat (Nat.pow 2 63) ∨ Int.ofNat (Nat.pow 2 63) ≤ v then none
  else some v

/-- Why an integer literal is not read. -/
inductive LiteralFault where
  /-- The text is no literal of the base it is reported under. -/
  | invalid (base : Nat)
  /-- A literal of `count` digits, more than `Decimal.maxIntDigits`, in a base that is no power
  of two. -/
  | tooManyDigits (count : Nat)
  deriving DecidableEq, Repr

/-- The base a literal of base 0 is read in, from its prefix, and whether it is an old-style
literal with a leading zero, which may only stand for zero. -/
def radixOf : List Char → Nat × Bool
  | '0' :: x :: _ =>
    if x = 'x' ∨ x = 'X' then (16, false)
    else if x = 'o' ∨ x = 'O' then (8, false)
    else if x = 'b' ∨ x = 'B' then (2, false)
    else (10, true)
  | ['0'] => (10, true)
  | _ => (10, false)

/-- A literal's body after the prefix of its base, and one underscore after the prefix. -/
def afterRadixMark (base : Nat) : List Char → List Char
  | '0' :: x :: r =>
    if (base = 16 ∧ (x = 'x' ∨ x = 'X')) ∨ (base = 8 ∧ (x = 'o' ∨ x = 'O')) ∨
        (base = 2 ∧ (x = 'b' ∨ x = 'B')) then
      match r with
      | '_' :: r' => r'
      | r' => r'
    else '0' :: x :: r
  | s => s

/-- An integer literal in a base from 2 to 36, or in base 0 where a prefix chooses the base:
blanks, a sign, the prefix and one underscore after it, digits with single underscores between
them, and blanks. A literal of more than `Decimal.maxIntDigits` digits in a base that is no power
of two is refused as soon as its digits are counted. An error names the base the literal was read in, or 0 for an old-style literal with a
leading zero. -/
def readLiteral (base : Nat) (s : List Char) : Except LiteralFault Int := do
  let (negative, body) := spanSign (s.dropWhile isCSpace)
  let (radix, zeroOnly) := if base = 0 then radixOf body else (base, false)
  let digits := afterRadixMark radix body
  if digits.head? = some '_' then throw (.invalid radix)
  let some (ds, rest) := spanDigitsIn radix digits | throw (.invalid radix)
  if radix &&& (radix - 1) ≠ 0 ∧ Decimal.maxIntDigits < ds.length then throw (.tooManyDigits ds.length)
  let reported := if zeroOnly then 0 else radix
  let v := baseValue radix ds
  if zeroOnly ∧ v ≠ 0 then throw (.invalid 0)
  if ds.isEmpty ∨ !rest.all isCSpace then throw (.invalid reported)
  pure (if negative then -(v : Int) else v)

/-- A double read from the front of a line. -/
structure FloatScan where
  value : Float
  /-- The double was read from digits, not from a name such as `inf`. -/
  fromDigits : Bool
  rest : List Char

/-- A double at the front of a line: a sign, then digits with at most one point and at least one
digit, then an exponent if it has digits; or else a sign and `inf`, `infinity` or `nan` in any
case. -/
def leadingFloat? (s : List Char) : Option FloatScan :=
  let (negative, body) := spanSign s
  let (whole, r1) := Decimal.spanDigits body
  let (fraction, r2) : List Nat × List Char := match r1 with
    | '.' :: r => Decimal.spanDigits r
    | r => ([], r)
  if whole.isEmpty ∧ fraction.isEmpty then
    let lower := body.map Char.toLower
    if "infinity".toList.isPrefixOf lower then some ⟨if negative then -(1.0 / 0.0) else 1.0 / 0.0, false, body.drop 8⟩
    else if "inf".toList.isPrefixOf lower then some ⟨if negative then -(1.0 / 0.0) else 1.0 / 0.0, false, body.drop 3⟩
    else if "nan".toList.isPrefixOf lower then some ⟨0.0 / 0.0, false, body.drop 3⟩
    else none
  else
    let (exponent, r3) : Int × List Char := match r2 with
      | e :: r =>
        if e = 'e' ∨ e = 'E' then
          let (en, r') := spanSign r
          match Decimal.spanDigits r' with
          | (ds@(_ :: _), r'') =>
            (if en then -(Decimal.digitsValue ds : Int) else Decimal.digitsValue ds, r'')
          | _ => (0, r2)
        else (0, r2)
      | [] => (0, [])
    some ⟨Decimal.toFloat negative (Decimal.digitsValue (whole ++ fraction))
      (exponent - fraction.length), true, r3⟩

/-- The bytes a quoted byte string's inside stands for; `\x` needs two hexadecimal digits. -/
def unescapeBytes (start : Nat) : List UInt8 → Except Raised (List UInt8)
  | [] => pure []
  | 92 :: rest =>
    match rest with
    | [] => throw ⟨"ValueError", "Trailing \\ in string"⟩
    | e :: more =>
      let simple : Option UInt8 := match e with
        | 10 => some 0 | 92 => some 92 | 39 => some 39 | 34 => some 34 | 98 => some 8
        | 102 => some 12 | 116 => some 9 | 110 => some 10 | 114 => some 13 | 118 => some 11
        | 97 => some 7 | _ => none
      if e = 10 then unescapeBytes (start + 2) more
      else match simple with
      | some b => do pure (b :: (← unescapeBytes (start + 2) more))
      | none =>
        if 48 ≤ e ∧ e ≤ 55 then
          let octal := (e :: more).takeWhile (fun b => 48 ≤ b ∧ b ≤ 55) |>.take 3
          let v := octal.foldl (fun acc b => acc * 8 + (b.toNat - 48)) 0
          do pure ((v % 256).toUInt8 :: (← unescapeBytes (start + 1 + octal.length)
            (more.drop (octal.length - 1))))
        else if e = 120 then
          match more with
          | a :: b :: tail =>
            match digitIn 16 (Char.ofNat a.toNat), digitIn 16 (Char.ofNat b.toNat) with
            | some x, some y => do pure ((x * 16 + y).toUInt8 :: (← unescapeBytes (start + 4) tail))
            | _, _ => throw ⟨"ValueError", s!"invalid \\x escape at position {start}"⟩
          | _ => throw ⟨"ValueError", s!"invalid \\x escape at position {start}"⟩
        else do pure (92 :: e :: (← unescapeBytes (start + 2) more))
  | b :: rest => do pure (b :: (← unescapeBytes (start + 1) rest))
termination_by bs => bs.length
decreasing_by all_goals (simp only [List.length_cons, List.length_drop] at *; omega)

/-- Bytes read as ASCII text. -/
def asciiText (bytes : List UInt8) : Except Raised String :=
  match bytes.findIdx? (· ≥ 0x80) with
  | some i =>
    let b := bytes.getD i 0
    throw ⟨"UnicodeDecodeError", "'ascii' codec can't decode byte 0x" ++
      String.ofList (hexDigits 2 b.toNat) ++ " in position " ++ toString i ++
      ": ordinal not in range(128)"⟩
  | none => pure (String.ofList (bytes.map fun b => Char.ofNat b.toNat))

/-- The error of an escape that `rawUnicode` cannot read, from the backslash at `start` to the
byte at `stop`. -/
def rawEscapeError (start stop : Nat) (reason : String) : Raised :=
  ⟨"UnicodeDecodeError",
    s!"'rawunicodeescape' codec can't decode bytes in position {start}-{stop - 1}: {reason}"⟩

/-- A text line with `\u` and `\U` escapes, every other byte the character of its number. A
surrogate is kept as the character that holds it. -/
def rawUnicode (pos : Nat) : List UInt8 → Except Raised (List Char)
  | [] => pure []
  | 92 :: e :: rest =>
    if e = 117 ∨ e = 85 then
      let count := if e = 117 then 4 else 8
      let reason := if e = 117 then "truncated \\uXXXX escape" else "truncated \\UXXXXXXXX escape"
      let hex := (rest.take count).takeWhile fun b => (digitIn 16 (Char.ofNat b.toNat)).isSome
      if hex.length < count then throw (rawEscapeError pos (pos + 2 + hex.length) reason)
      else
        let v := baseValue 16 (hex.filterMap fun b => digitIn 16 (Char.ofNat b.toNat))
        if v > 0x10FFFF then
          throw (rawEscapeError pos (pos + 2 + count) "\\Uxxxxxxxx out of range")
        else
          let c := ofCodePoint v
          do pure (c :: (← rawUnicode (pos + 2 + count) (rest.drop count)))
    else do pure ('\\' :: Char.ofNat e.toNat :: (← rawUnicode (pos + 2) rest))
  | b :: rest => do pure (Char.ofNat b.toNat :: (← rawUnicode (pos + 1) rest))
termination_by bs => bs.length
decreasing_by all_goals (simp only [List.length_cons, List.length_drop] at *; omega)

end ItemRecommender.Stream
