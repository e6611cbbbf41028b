import ItemRecommender.Decimal.Read
import ItemRecommender.Text.Quoted
/-! # JSON text

    JSON values (RFC 8259) as the state file and the requests of the test harness hold them.
    Numbers are kept as their literal text, so that a reader can tell an integer literal from a
    decimal one, and minus zero from zero. Object members keep their order and repeats.

    Reading is strict: only the four JSON blanks between tokens, no control character inside a
    string, nothing after the value. A reader follows a `Variant`: the standard one reads a lone
    surrogate escape as U+FFFD and nests to any depth; the extended one also reads `NaN`,
    `Infinity` and `-Infinity`, refuses lone surrogates and limits nesting. Each reading step
    consumes at least one character, so the readers run on fuel of twice the length of the
    text. Writing escapes a quote, a backslash
    and the control characters. The compact form, as the standard library writes it, also
    escapes a surrogate and leaves every other character as it is. The pretty form, as the
    state file is written, leaves every other character as it is, the stand-in of a surrogate
    included; it puts every member and element on a line of its own, indented two spaces per
    level, and writes an empty object or array as `{}` or `[]`. -/

namespace ItemRecommender

/-- A JSON value. -/
inductive Json where
  | null
  | bool (b : Bool)
  | number (literal : String)
  | string (s : String)
  | array (items : List Json)
  | object (members : List (String × Json))
  deriving Repr, Inhabited

namespace Json

open ItemRecommender.Text ItemRecommender.Decimal

/-- Whether a character is JSON white space. -/
def isSpace (c : Char) : Bool := c = ' ' || c = '\t' || c = '\n' || c = '\r'

/-- Drops JSON white space at the front. -/
def skipSpace (s : List Char) : List Char := s.dropWhile isSpace

/-- The value of a hexadecimal digit. -/
def hexValue? (c : Char) : Option Nat :=
  if '0' ≤ c ∧ c ≤ '9' then some (c.toNat - '0'.toNat)
  else if 'a' ≤ c ∧ c ≤ 'f' then some (c.toNat - 'a'.toNat + 10)
  else if 'A' ≤ c ∧ c ≤ 'F' then some (c.toNat - 'A'.toNat + 10)
  else none

/-- Four hexadecimal digits and the rest. -/
def readHex4? : List Char → Option (Nat × List Char)
  | a :: b :: c :: d :: rest => do
    let va ← hexValue? a
    let vb ← hexValue? b
    let vc ← hexValue? c
    let vd ← hexValue? d
    pure (((va * 16 + vb) * 16 + vc) * 16 + vd, rest)
  | _ => none

/-- The variant of JSON a reader accepts. -/
structure Variant where
  /-- Whether `NaN`, `Infinity` and `-Infinity` are read as numbers. -/
  nonFinite : Bool
  /-- Whether an escaped surrogate without its partner makes the text unreadable; otherwise it
  reads as U+FFFD. -/
  pairedSurrogates : Bool
  /-- How deep values may nest below the outermost one, if that is limited. -/
  maxDepth : Option Nat
  /-- How many digits the integer part of a number may have, if that is limited. -/
  maxWholeDigits : Option Nat

/-- JSON as RFC 8259 has it, nested to any depth; a lone surrogate reads as U+FFFD. -/
def Variant.standard : Variant := ⟨false, false, none, none⟩

/-- JSON extended by the non-finite numbers, refusing lone surrogates, with values nested at most
200 levels below the outermost one and numbers of at most 4300 digits before the point. -/
def Variant.extended : Variant := ⟨true, true, some 200, some 4300⟩

/-- The character an escape `\uXXXX` (or a surrogate pair of them) stands for, and the rest. A
surrogate without its partner stands for U+FFFD, or makes the escape invalid when `paired`. -/
def readUnicodeEscape? (paired : Bool) (s : List Char) : Option (Char × List Char) := do
  let (hi, r) ← readHex4? s
  let lone := fun (rest : List Char) => if paired then none else some (ofCodePoint hi, rest)
  if 0xD800 ≤ hi ∧ hi < 0xDC00 then
    match r with
    | '\\' :: 'u' :: r' =>
      let (lo, r'') ← readHex4? r'
      if 0xDC00 ≤ lo ∧ lo < 0xE000 then
        pure (Char.ofNat (0x10000 + (hi - 0xD800) * 0x400 + (lo - 0xDC00)), r'')
      else lone r
    | _ => lone r
  else if 0xDC00 ≤ hi ∧ hi < 0xE000 then lone r
  else pure (Char.ofNat hi, r)

/-- The characters of a string after its opening quote, and the rest after its closing quote. -/
def readString? (paired : Bool) : Nat → List Char → Option (List Char × List Char)
  | 0, _ => none
  | _ + 1, [] => none
  | _ + 1, '"' :: rest => some ([], rest)
  | fuel + 1, '\\' :: e :: rest => do
    let (c, r) ← match e with
      | '"' => some ('"', rest)
      | '\\' => some ('\\', rest)
      | '/' => some ('/', rest)
      | 'b' => some ('\x08', rest)
      | 'f' => some ('\x0c', rest)
      | 'n' => some ('\n', rest)
      | 'r' => some ('\r', rest)
      | 't' => some ('\t', rest)
      | 'u' => readUnicodeEscape? paired rest
      | _ => none
    let (s, r') ← readString? paired fuel r
    pure (c :: s, r')
  | fuel + 1, c :: rest =>
    if c.toNat < 0x20 ∨ c = '\\' then none
    else (readString? paired fuel rest).map fun (s, r) => (c :: s, r)

/-- ASCII digits at the front and the rest. -/
def spanAsciiDigits (s : List Char) : List Char × List Char :=
  (s.takeWhile Char.isDigit, s.dropWhile Char.isDigit)

/-- An optional minus sign and the rest. -/
def spanMinus : List Char → List Char × List Char
  | '-' :: r => (['-'], r)
  | r => ([], r)

/-- The integer part of a number: `0`, or a nonzero digit and more digits. -/
def readWhole? : List Char → Option (List Char × List Char)
  | '0' :: r => some (['0'], r)
  | c :: r =>
    if '1' ≤ c ∧ c ≤ '9' then some (c :: (spanAsciiDigits r).1, (spanAsciiDigits r).2) else none
  | [] => none

/-- An optional fraction: a point and at least one digit. -/
def readFraction? : List Char → Option (List Char × List Char)
  | '.' :: r =>
    let (ds, r') := spanAsciiDigits r
    if ds.isEmpty then none else some ('.' :: ds, r')
  | r => some ([], r)

/-- An optional exponent: `e` or `E`, an optional sign and at least one digit. -/
def readExponentPart? : List Char → Option (List Char × List Char)
  | e :: r =>
    if e = 'e' ∨ e = 'E' then
      let (sign, r') : List Char × List Char := match r with
        | '+' :: t => (['+'], t)
        | '-' :: t => (['-'], t)
        | t => ([], t)
      let (ds, r'') := spanAsciiDigits r'
      if ds.isEmpty then none else some (e :: sign ++ ds, r'')
    else some ([], e :: r)
  | [] => some ([], [])

/-- The literal of a number and the rest: `-?(0|[1-9][0-9]*)(.[0-9]+)?([eE][+-]?[0-9]+)?`, or
one of `NaN`, `Infinity` and `-Infinity` when `nonFinite`. The integer part has at most
`maxWhole` digits, when that is given. -/
def readNumber? (nonFinite : Bool) (maxWhole : Option Nat) (s : List Char) :
    Option (List Char × List Char) := do
  let special := ["NaN", "Infinity", "-Infinity"].find? fun w => w.toList.isPrefixOf s
  match special with
  | some w => if nonFinite then pure (w.toList, s.drop w.length) else none
  | none =>
    let (sign, r0) := spanMinus s
    let (whole, r1) ← readWhole? r0
    if maxWhole.any (· < whole.length) then none
    let (frac, r2) ← readFraction? r1
    let (exp, r3) ← readExponentPart? r2
    pure (sign ++ whole ++ frac ++ exp, r3)

/-- The room left one level deeper, if there is any. -/
def deeper? : Nat → Option Nat
  | 0 => none
  | n + 1 => some n

mutual

/-- A value at the front of the text (after white space), and the rest. Its elements and member
values may nest `room` levels deeper. -/
def readValue? (v : Variant) (room : Nat) : Nat → List Char → Option (Json × List Char)
  | 0, _ => none
  | fuel + 1, s =>
    match skipSpace s with
    | 'n' :: 'u' :: 'l' :: 'l' :: r => some (.null, r)
    | 't' :: 'r' :: 'u' :: 'e' :: r => some (.bool true, r)
    | 'f' :: 'a' :: 'l' :: 's' :: 'e' :: r => some (.bool false, r)
    | '"' :: r =>
      (readString? v.pairedSurrogates (r.length + 1) r).map fun (str, r') =>
        (.string (String.ofList str), r')
    | '[' :: r =>
      match skipSpace r with
      | ']' :: r' => some (.array [], r')
      | _ => (readItems? v room fuel r).map fun (xs, r') => (.array xs, r')
    | '{' :: r =>
      match skipSpace r with
      | '}' :: r' => some (.object [], r')
      | _ => (readMembers? v room fuel r).map fun (ms, r') => (.object ms, r')
    | r => (readNumber? v.nonFinite v.maxWholeDigits r).map fun (lit, r') => (.number (String.ofList lit), r')

/-- The elements of an array up to and past its closing bracket; each is one level deeper. -/
def readItems? (v : Variant) (room : Nat) : Nat → List Char → Option (List Json × List Char)
  | 0, _ => none
  | fuel + 1, s => do
    let inner ← deeper? room
    let (x, r) ← readValue? v inner fuel s
    match skipSpace r with
    | ',' :: r' => (readItems? v room fuel r').map fun (xs, r'') => (x :: xs, r'')
    | ']' :: r' => some ([x], r')
    | _ => none

/-- The members of an object up to and past its closing brace; each value is one level
deeper. -/
def readMembers? (v : Variant) (room : Nat) : Nat → List Char →
    Option (List (String × Json) × List Char)
  | 0, _ => none
  | fuel + 1, s =>
    match skipSpace s with
    | '"' :: r => do
      let (key, r1) ← readString? v.pairedSurrogates (r.length + 1) r
      match skipSpace r1 with
      | ':' :: r2 => do
        let inner ← deeper? room
        let (x, r3) ← readValue? v inner fuel r2
        match skipSpace r3 with
        | ',' :: r4 =>
          (readMembers? v room fuel r4).map fun (ms, r5) => ((String.ofList key, x) :: ms, r5)
        | '}' :: r4 => some ([(String.ofList key, x)], r4)
        | _ => none
      | _ => none
    | _ => none

end

/-- The value a whole text holds, if it is JSON of the given variant. -/
def parseWith? (v : Variant) (text : String) : Option Json :=
  let s := text.toList
  match readValue? v (v.maxDepth.getD s.length) (2 * s.length + 2) s with
  | some (x, rest) => if (skipSpace rest).isEmpty then some x else none
  | none => none

/-- The value a whole text holds, if it is standard JSON. -/
def parse? (text : String) : Option Json := parseWith? .standard text

/-- How a character is written inside a JSON string literal. The stand-in of a surrogate is
written as the escape of the surrogate when `standIns` is set, and as it is otherwise. -/
def escaped (standIns : Bool) (c : Char) : List Char :=
  if c = '"' then ['\\', '"']
  else if c = '\\' then ['\\', '\\']
  else if c = '\n' then ['\\', 'n']
  else if c = '\r' then ['\\', 'r']
  else if c = '\t' then ['\\', 't']
  else if c = '\x08' then ['\\', 'b']
  else if c = '\x0c' then ['\\', 'f']
  else if c.toNat < 0x20 then ['\\', 'u', '0', '0'] ++ hexDigits 2 c.toNat
  else if standIns && isStandIn c then ['\\', 'u'] ++ hexDigits 4 (codePoint c)
  else [c]

/-- A string as a JSON string literal, stand-ins of surrogates escaped or not. -/
def quoteWith (standIns : Bool) (s : String) : String :=
  String.ofList ('"' :: s.toList.flatMap (escaped standIns) ++ ['"'])

/-- A string as a JSON string literal, as the standard library writes it: a surrogate is
escaped. -/
def quoteString (s : String) : String := quoteWith true s

mutual

/-- The compact text of a value. -/
def compact : Json → String
  | .null => "null"
  | .bool b => if b then "true" else "false"
  | .number lit => lit
  | .string s => quoteString s
  | .array xs => "[" ++ compactItems xs ++ "]"
  | .object ms => "\x7b" ++ compactMembers ms ++ "\x7d"

/-- The compact text of array elements, separated by commas. -/
def compactItems : List Json → String
  | [] => ""
  | [x] => compact x
  | x :: xs => compact x ++ "," ++ compactItems xs

/-- The compact text of object members, separated by commas. -/
def compactMembers : List (String × Json) → String
  | [] => ""
  | [(k, v)] => quoteString k ++ ":" ++ compact v
  | (k, v) :: ms => quoteString k ++ ":" ++ compact v ++ "," ++ compactMembers ms

end

/-- Two spaces per level. -/
def indent (depth : Nat) : String := String.ofList (List.replicate (2 * depth) ' ')

mutual

/-- The pretty text of a value whose first line is indented by `depth` levels. -/
def pretty (depth : Nat) : Json → String
  | .array [] => "[]"
  | .object [] => "\x7b\x7d"
  | .array xs => "[\n" ++ prettyItems (depth + 1) xs ++ "\n" ++ indent depth ++ "]"
  | .object ms => "\x7b\n" ++ prettyMembers (depth + 1) ms ++ "\n" ++ indent depth ++ "\x7d"
  | .string s => quoteWith false s
  | v => compact v

/-- Array elements on lines of their own at `depth`. -/
def prettyItems (depth : Nat) : List Json → String
  | [] => ""
  | [x] => indent depth ++ pretty depth x
  | x :: xs => indent depth ++ pretty depth x ++ ",\n" ++ prettyItems depth xs

/-- Object members on lines of their own at `depth`. -/
def prettyMembers (depth : Nat) : List (String × Json) → String
  | [] => ""
  | [(k, v)] => indent depth ++ quoteWith false k ++ ": " ++ pretty depth v
  | (k, v) :: ms => indent depth ++ quoteWith false k ++ ": " ++ pretty depth v ++ ",\n" ++
    prettyMembers depth ms

end

/-- The member of an object with a key (the last one, if repeated). -/
def field? (v : Json) (key : String) : Option Json :=
  match v with
  | .object ms => (ms.reverse.find? (·.1 = key)).map Prod.snd
  | _ => none

/-- The integer a number literal without point or exponent denotes. -/
def toInt? : Json → Option Int
  | .number lit =>
    match readNumeral? lit.toList with
    | some (.numeral n) => if n.decimal then none else some n.toInt
    | _ => none
  | _ => none

/-- The double a number literal denotes. -/
def numberToFloat? : Json → Option Float
  | .number lit => (readNumeral? lit.toList).map Reading.toFloat
  | _ => none

/-- An integer as a JSON number. -/
def ofInt (i : Int) : Json := .number (toString i)

end Json

end ItemRecommender
