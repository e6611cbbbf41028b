import ItemRecommender.Json
import ItemRecommender.Text.CodePoint
import ItemRecommender.Decimal.Literal
/-! # Reading a JSON document with positions

    The reader of documents that the loading function of the standard library's JSON module
    uses: it reads the text as an array of characters and reports the first fault with the
    position it was found at, as `msg: line L column C (char P)`.

    It reads what the strict reader of `Json` reads, with the non-finite numbers `NaN`,
    `Infinity` and `-Infinity` besides, and its faults come in the order of reading:

    * a value is expected where none starts (`Expecting value`), at the character where one
      should; a number is read greedily, a fraction only when a digit follows its point and an
      exponent only when a digit ends it, so that `1.` and `1e` read `1` and stop there;
    * inside an array a comma or the closing bracket, inside an object a name in double quotes,
      a colon, then a comma or the closing brace (`Expecting ',' delimiter` and the like);
    * a string ends at its closing quote (else it is unterminated, reported at its opening
      quote); a backslash starts one of the escapes `\" \\ \/ \b \f \n \r \t`, or `\u` and four
      hexadecimal digits, which must leave room for the closing quote; a high surrogate escape
      followed by a low one joins it when there is room after the pair, else each stands alone;
      a control character may not stand in it;
    * after the value only blanks (`Extra data`).

    What the values read become is up to a `JsonBuilder`, whose steps run in a monad as the
    values are read, each before anything after it is read: a step that fails stops reading
    there; `strict` refuses control characters in strings, and a reader that is not strict
    takes them. -/

namespace ItemRecommender.Json

open ItemRecommender.Text

/-- Why a text is not a JSON document. -/
inductive DecodeFault where
  | expectingValue
  | expectingComma
  | expectingColon
  | expectingName
  | unterminatedString
  | invalidEscape
  | invalidUnicodeEscape
  | controlCharacter
  | extraData
  | byteOrderMark
  deriving DecidableEq, Repr

/-- The words a fault is reported with. -/
def DecodeFault.words : DecodeFault → String
  | .expectingValue => "Expecting value"
  | .expectingComma => "Expecting ',' delimiter"
  | .expectingColon => "Expecting ':' delimiter"
  | .expectingName => "Expecting property name enclosed in double quotes"
  | .unterminatedString => "Unterminated string starting at"
  | .invalidEscape => "Invalid \\escape"
  | .invalidUnicodeEscape => "Invalid \\uXXXX escape"
  | .controlCharacter => "Invalid control character at"
  | .extraData => "Extra data"
  | .byteOrderMark => "Unexpected UTF-8 BOM (decode using utf-8-sig)"

/-- A fault at a position of the text: where reading stops short of a value. -/
structure DecodeStop where
  fault : DecodeFault
  pos : Nat
  deriving DecidableEq, Repr

/-- What a reader makes of the values it reads, each step in a monad `m`. -/
structure JsonBuilder (m : Type → Type) (α : Type) where
  null : m α
  bool : Bool → m α
  /-- A number literal, and whether it has a fraction or an exponent. -/
  number : String → Bool → m α
  /-- One of `NaN`, `Infinity` and `-Infinity`. -/
  constant : String → m α
  string : String → m α
  array : List α → m α
  object : List (String × α) → m α

/-- The line and column (both from 1) of a position of a text. -/
def lineAndColumn (s : Array Char) (pos : Nat) : Nat × Nat :=
  let before := (s.toList.take pos)
  let line := before.count '\n' + 1
  match (before.reverse.findIdx? (· == '\n')) with
  | some k => (line, k + 1)
  | none => (line, pos + 1)

/-- The report of a fault at a position of a text. -/
def DecodeFault.report (f : DecodeFault) (s : Array Char) (pos : Nat) : String :=
  let (line, column) := lineAndColumn s pos
  f.words ++ ": line " ++ toString line ++ " column " ++ toString column ++ " (char " ++
    toString pos ++ ")"

/-- The first position from `i` on, within `fuel` more, whose character fails `p`. -/
def skipWhile (p : Char → Bool) (s : Array Char) : Nat → Nat → Nat
  | 0, i => i
  | fuel + 1, i => if (s[i]?).any p then skipWhile p s fuel (i + 1) else i

/-- The first position from `i` on that holds no blank. -/
def skipBlanks (s : Array Char) (i : Nat) : Nat := skipWhile isSpace s (s.size - i) i

/-- The first position from `i` on that holds no ASCII digit. -/
def skipDigits (s : Array Char) (i : Nat) : Nat := skipWhile Char.isDigit s (s.size - i) i

/-- Whether the character at a position is one of some characters. -/
def holdsAt (s : Array Char) (i : Nat) (cs : List Char) : Bool :=
  match s[i]? with
  | some c => cs.contains c
  | none => false

/-- Whether a word stands at a position. -/
def wordAt (s : Array Char) (i : Nat) (w : String) : Bool :=
  (w.toList.zipIdx.all fun (c, k) => s[i + k]? == some c)

/-- The end of the integer part of a number at a position (after its sign), if one is
there: `0`, or a nonzero digit and more digits. -/
def wholeEnd? (s : Array Char) (i : Nat) : Option Nat :=
  match s[i]? with
  | some '0' => some (i + 1)
  | some c => if '1' ≤ c ∧ c ≤ '9' then some (skipDigits s (i + 1)) else none
  | none => none

/-- The end of a number literal at a position and whether it is a decimal one, if one is there.
A fraction is read when a digit follows the point; an exponent, with its sign, when it is not
the last character and a digit ends it. -/
def numberEnd? (s : Array Char) (start : Nat) : Option (Nat × Bool) := do
  let i := if s[start]? == some '-' then start + 1 else start
  let i ← wholeEnd? s i
  let (i, decimal) :=
    if i + 1 < s.size ∧ s[i]? == some '.' ∧ holdsAt s (i + 1) "0123456789".toList then
      (skipDigits s (i + 2), true)
    else (i, false)
  if i + 1 < s.size ∧ holdsAt s i ['e', 'E'] then
    let j := if i + 2 < s.size ∧ holdsAt s (i + 1) ['+', '-'] then i + 2 else i + 1
    let k := skipDigits s j
    if holdsAt s (k - 1) "0123456789".toList then pure (k, true) else pure (i, decimal)
  else pure (i, decimal)

/-- The value of four hexadecimal digits at a position. -/
def hexAt? (s : Array Char) (i : Nat) : Option Nat := do
  let a ← hexValue? (← s[i]?)
  let b ← hexValue? (← s[i + 1]?)
  let c ← hexValue? (← s[i + 2]?)
  let d ← hexValue? (← s[i + 3]?)
  pure (((a * 16 + b) * 16 + c) * 16 + d)

/-- The character of an escape other than `\u`, by its letter. -/
def escapedBy? : Char → Option Char
  | '"' => some '"'
  | '\\' => some '\\'
  | '/' => some '/'
  | 'b' => some '\x08'
  | 'f' => some '\x0c'
  | 'n' => some '\n'
  | 'r' => some '\r'
  | 't' => some '\t'
  | _ => none

/-- The character of an escape `\uXXXX` whose backslash is at `i`, and whether it is a pair of
them: a high surrogate joins a low one escaped right after it when a character follows the
pair. -/
def unicodeEscape (s : Array Char) (i : Nat) : Except DecodeStop (Char × Bool) := do
  if s.size ≤ i + 6 then throw (.mk .invalidUnicodeEscape (i + 1))
  let some hi := hexAt? s (i + 2) | throw (.mk .invalidUnicodeEscape (i + 1))
  let next := i + 6
  if 0xD800 ≤ hi ∧ hi < 0xDC00 ∧ next + 6 < s.size ∧ s[next]? == some '\\' ∧
      s[next + 1]? == some 'u' then
    let some lo := hexAt? s (next + 2) | throw (.mk .invalidUnicodeEscape (next + 1))
    if 0xDC00 ≤ lo ∧ lo < 0xE000 then
      pure (Char.ofNat (0x10000 + (hi - 0xD800) * 0x400 + (lo - 0xDC00)), true)
    else pure (ofCodePoint hi, false)
  else pure (ofCodePoint hi, false)

/-- The characters of a string opened by the quote at `start` from position `i` on, after `acc`,
and the position after its closing quote; a `strict` reader refuses control characters in it.
Each step reads at least one character, so `fuel` of the characters left is enough. -/
def scanString (strict : Bool) (s : Array Char) (start : Nat) (acc : Array Char) :
    Nat → Nat → Except DecodeStop (String × Nat)
  | 0, _ => throw (.mk .unterminatedString start)
  | fuel + 1, i =>
    match s[i]? with
    | none => throw (.mk .unterminatedString start)
    | some '"' => pure (String.ofList acc.toList, i + 1)
    | some '\\' =>
      match s[i + 1]? with
      | none => throw (.mk .unterminatedString start)
      | some 'u' => do
        let (x, paired) ← unicodeEscape s i
        scanString strict s start (acc.push x) fuel (i + if paired then 12 else 6)
      | some e =>
        match escapedBy? e with
        | some x => scanString strict s start (acc.push x) fuel (i + 2)
        | none => throw (.mk .invalidEscape i)
    | some c =>
      if strict ∧ c.toNat ≤ 0x1f then throw (.mk .controlCharacter i)
      else scanString strict s start (acc.push c) fuel (i + 1)

/-- The string whose opening quote is at a position, and the position after it. -/
def scanQuoted (strict : Bool) (s : Array Char) (i : Nat) : Except DecodeStop (String × Nat) :=
  scanString strict s i #[] (s.size - i) (i + 1)

section Reading

variable {m : Type → Type} [Monad m] {α : Type}

/-- A step of a builder, or a fault, as a step of reading. -/
def lift {β : Type} (x : Except DecodeStop β) : ExceptT DecodeStop m β := ExceptT.mk (pure x)

mutual

/-- The value at a position and the position after it. -/
def scanValue (b : JsonBuilder m α) (strict : Bool) (s : Array Char) :
    Nat → Nat → ExceptT DecodeStop m (α × Nat)
  | 0, i => throw (.mk .expectingValue i)
  | fuel + 1, i =>
    match s[i]? with
    | none => throw (.mk .expectingValue i)
    | some '"' => do
      let (text, j) ← lift (scanQuoted strict s i)
      pure (← b.string text, j)
    | some '[' =>
      let j := skipBlanks s (i + 1)
      if s[j]? == some ']' then do pure (← b.array [], j + 1)
      else do
        let (xs, k) ← scanItems b strict s fuel j
        pure (← b.array xs, k)
    | some '{' =>
      let j := skipBlanks s (i + 1)
      if s[j]? == some '}' then do pure (← b.object [], j + 1)
      else do
        let (ms, k) ← scanMembers b strict s fuel j
        pure (← b.object ms, k)
    | some _ =>
      match ["null", "true", "false", "NaN", "Infinity", "-Infinity"].find? (wordAt s i) with
      | some "null" => do pure (← b.null, i + 4)
      | some "true" => do pure (← b.bool true, i + 4)
      | some "false" => do pure (← b.bool false, i + 5)
      | some w => do pure (← b.constant w, i + w.length)
      | none =>
        match numberEnd? s i with
        | none => throw (.mk .expectingValue i)
        | some (j, decimal) => do
          pure (← b.number (String.ofList (s.extract i j).toList) decimal, j)

/-- The elements of an array from the position of one up to past its closing bracket. -/
def scanItems (b : JsonBuilder m α) (strict : Bool) (s : Array Char) :
    Nat → Nat → ExceptT DecodeStop m (List α × Nat)
  | 0, i => throw (.mk .expectingValue i)
  | fuel + 1, i => do
    let (x, j) ← scanValue b strict s fuel i
    let j := skipBlanks s j
    match s[j]? with
    | some ']' => pure ([x], j + 1)
    | some ',' =>
      let (xs, k) ← scanItems b strict s fuel (skipBlanks s (j + 1))
      pure (x :: xs, k)
    | _ => throw (.mk .expectingComma j)

/-- The members of an object from the position of one up to past its closing brace. -/
def scanMembers (b : JsonBuilder m α) (strict : Bool) (s : Array Char) :
    Nat → Nat → ExceptT DecodeStop m (List (String × α) × Nat)
  | 0, i => throw (.mk .expectingName i)
  | fuel + 1, i => do
    if s[i]? != some '"' then throw (.mk .expectingName i)
    let (key, j) ← lift (scanQuoted strict s i)
    let j := skipBlanks s j
    if s[j]? != some ':' then throw (.mk .expectingColon j)
    let (x, k) ← scanValue b strict s fuel (skipBlanks s (j + 1))
    let k := skipBlanks s k
    match s[k]? with
    | some '}' => pure ([(key, x)], k + 1)
    | some ',' =>
      let (ms, l) ← scanMembers b strict s fuel (skipBlanks s (k + 1))
      pure ((key, x) :: ms, l)
    | _ => throw (.mk .expectingComma k)

end

/-- What a whole document holds, built by a builder: blanks, one value, blanks. -/
def readDocument (b : JsonBuilder m α) (strict : Bool) (s : Array Char) :
    ExceptT DecodeStop m α := do
  let (x, j) ← scanValue b strict s (2 * s.size + 2) (skipBlanks s 0)
  let k := skipBlanks s j
  if k < s.size then throw (.mk .extraData k) else pure x

end Reading

end ItemRecommender.Json
