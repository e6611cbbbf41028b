import ItemRecommender.Object.Construct
/-! # Conversions between numbers, texts and bytes

    The conversions of the core that a dataset may call by name:

    * `hex`, `oct` and `bin` write an integer in base 16, 8 or 2 after its sign and a prefix;
    * `ascii` writes a representation with every character outside ASCII escaped, as `\xhh`,
      `\uhhhh` or `\Uhhhhhhhh` by its size;
    * `bytes.fromhex` reads pairs of hexadecimal digits, blanks allowed before each pair;
    * `float.fromhex` reads a hexadecimal significand and a binary exponent, rounded to the
      nearest double, or an infinity or NaN by name;
    * `int.from_bytes` reads bytes as an unsigned integer, most or least significant first;
    * `str.maketrans` builds the table of a translation from two texts of one length, or from a
      map with one-letter or integer keys.

    Each fails as the core does: the position of the first character that is not a digit, the
    text that is not a literal, the value outside a byte. -/

namespace ItemRecommender.Object

open ItemRecommender.Text

/-- An integer written in a base of at most sixteen after its sign and a prefix. -/
def radixText (pre : String) (radix : Nat) (i : Int) : String :=
  let digits := String.ofList (Nat.toDigits radix i.natAbs)
  (if i < 0 then "-" else "") ++ pre ++ digits

/-- A number as a fixed count of lower-case hexadecimal digits. -/
def hexDigits (width n : Nat) : String :=
  let ds := Nat.toDigits 16 n
  String.ofList (List.replicate (width - ds.length) '0' ++ ds)

/-- A text with every character outside ASCII escaped by its size. -/
def asciiEscaped (s : String) : String :=
  String.join (s.toList.map fun c =>
    let n := c.toNat
    if n < 0x80 then String.singleton c
    else if n < 0x100 then "\\x" ++ hexDigits 2 n
    else if n < 0x10000 then "\\u" ++ hexDigits 4 n
    else "\\U" ++ hexDigits 8 n)

/-- Whether a character is a blank of the C library. -/
def isHexBlank (c : Char) : Bool :=
  c = ' ' || c = '\t' || c = '\n' || c = '\x0b' || c = '\x0c' || c = '\r'

/-- The value of a hexadecimal digit. -/
def hexValue? (c : Char) : Option Nat :=
  if '0' ≤ c ∧ c ≤ '9' then some (c.toNat - '0'.toNat)
  else if 'a' ≤ c ∧ c ≤ 'f' then some (c.toNat - 'a'.toNat + 10)
  else if 'A' ≤ c ∧ c ≤ 'F' then some (c.toNat - 'A'.toNat + 10)
  else none

/-- The bytes of pairs of hexadecimal digits from position `pos` of a text on, blanks allowed
before each pair; the error names the position of the first character out of place, a missing
second digit being out of place at the end. -/
def bytesOfHex (pos : Nat) : List Char → Except Raised (List UInt8)
  | [] => pure []
  | c :: rest =>
    let fault (at_ : Nat) : Raised :=
      ⟨"ValueError", "non-hexadecimal number found in fromhex() arg at position " ++ toString at_⟩
    if isHexBlank c then bytesOfHex (pos + 1) rest
    else
      match hexValue? c, rest with
      | some hi, d :: more =>
        match hexValue? d with
        | some lo => do pure ((hi * 16 + lo).toUInt8 :: (← bytesOfHex (pos + 2) more))
        | none => throw (fault (pos + 1))
      | some _, [] => throw (fault (pos + 1))
      | none, _ => throw (fault pos)

/-- `bytes.fromhex` of a value, which must be a text. -/
def fromHex (h : Heap) (v : Value) : Except Raised (List UInt8) :=
  match v with
  | .str s => bytesOfHex 0 s.toList
  | _ => throw ⟨"TypeError", "fromhex() argument must be str, not " ++ v.typeName h⟩

/-- The hexadecimal digits at the front of a text and the rest. -/
def spanHex : List Char → List Nat × List Char
  | [] => ([], [])
  | c :: rest =>
    match hexValue? c with
    | some d => let (ds, r) := spanHex rest; (d :: ds, r)
    | none => ([], c :: rest)

/-- The decimal digits at the front of a text and the rest. -/
def spanDecimal : List Char → List Nat × List Char
  | [] => ([], [])
  | c :: rest =>
    if c.isDigit then let (ds, r) := spanDecimal rest; ((c.toNat - '0'.toNat) :: ds, r)
    else ([], c :: rest)

/-- The double of a sign and the exact value `m × 2^e`, rounded to the nearest; an exponent far
beyond the doubles is an overflow or a zero without being computed. -/
def scaledDouble (negative : Bool) (m : Nat) (e : Int) : Except Raised Float :=
  let hexOverflow : Raised := ⟨"OverflowError", "hexadecimal value too large to represent as a float"⟩
  if m = 0 then pure (if negative then -0.0 else 0.0)
  else
    let top : Int := e + m.log2
    if 1024 ≤ top then throw hexOverflow
    else if top < -1080 then pure (if negative then -0.0 else 0.0)
    else
      let x := if 0 ≤ e then ratioToFloat negative (m * Nat.pow 2 e.toNat) 1
        else ratioToFloat negative m (Nat.pow 2 (-e).toNat)
      if x.isInf then throw hexOverflow else pure x

/-- `float.fromhex` of a text: blanks, a sign, then an infinity or NaN by name, or an optional
`0x`, hexadecimal digits with at most one point and at least one digit, and an optional binary
exponent `p` with decimal digits; then blanks. -/
def floatOfHex (s : String) : Except Raised Float := do
  let invalid : Raised := ⟨"ValueError", "invalid hexadecimal floating-point string"⟩
  let cs := s.toList.dropWhile isHexBlank
  let (negative, body) := match cs with
    | '-' :: r => (true, r)
    | '+' :: r => (false, r)
    | r => (false, r)
  let lower := body.map Char.toLower
  let finish (x : Float) (rest : List Char) : Except Raised Float :=
    if rest.all isHexBlank then pure x else throw invalid
  let infinity : Float := 1.0 / 0.0
  if "infinity".toList.isPrefixOf lower then finish (if negative then -infinity else infinity) (body.drop 8)
  else if "inf".toList.isPrefixOf lower then finish (if negative then -infinity else infinity) (body.drop 3)
  else if "nan".toList.isPrefixOf lower then finish (0.0 / 0.0) (body.drop 3)
  else
    let body := match body with
      | '0' :: x :: r => if x = 'x' ∨ x = 'X' then r else body
      | _ => body
    let (whole, r1) := spanHex body
    let (fraction, r2) := match r1 with
      | '.' :: r => spanHex r
      | r => ([], r)
    if whole.isEmpty ∧ fraction.isEmpty then throw invalid
    let (exponent, r3) ← match r2 with
      | p :: r =>
        if p = 'p' ∨ p = 'P' then
          let (en, r') := match r with
            | '-' :: t => (true, t)
            | '+' :: t => (false, t)
            | t => (false, t)
          match spanDecimal r' with
          | ([], _) => throw invalid
          | (ds, r'') =>
            let n : Int := ((ds.foldl (fun acc d => acc * 10 + d) 0 : Nat) : Int)
            pure (if en then -n else n, r'')
        else pure (0, r2)
      | [] => pure (0, [])
    let m := (whole ++ fraction).foldl (fun acc d => acc * 16 + d) 0
    let x ← scaledDouble negative m (exponent - 4 * fraction.length)
    finish x r3

/-- `float.fromhex` of a value, which must be a text. -/
def fromHexFloat (v : Value) : Except Raised Float :=
  match v with
  | .str s => floatOfHex s
  | _ => throw ⟨"TypeError", "bad argument type for built-in operation"⟩

/-- The bytes of a value as `int.from_bytes` takes them: a byte string or byte array, or the
integers of anything that can be iterated, each a byte. -/
def bytesToRead (v : Value) : Act (List UInt8) := do
  let h ← get
  match bytesOf? h v with
  | some bs => pure bs
  | Option.none =>
    let refused : Raised := ⟨"TypeError", "cannot convert '" ++ v.typeName h ++ "' object to bytes"⟩
    match v, sourceIn h nestingLimit v with
    | .str _, _ | _, .error _ => throw refused
    | _, .ok _ => do
      let items ← v.elements
      items.mapM fun x => do
        let i ← reading fun h => asIndex h x
        if i < 0 ∨ 256 ≤ i then throw ⟨"ValueError", "bytes must be in range(0, 256)"⟩
        pure i.toNat.toUInt8

/-- `int.from_bytes`: an unsigned integer of bytes in the order a name gives. -/
def intFromBytes (args : List Value) : Act Value := do
  let h ← get
  match args with
  | [] => throw ⟨"TypeError", "from_bytes() missing required argument 'bytes' (pos 1)"⟩
  | _ :: _ :: _ :: _ =>
    throw ⟨"TypeError", "from_bytes() takes at most 2 positional arguments (" ++
      toString args.length ++ " given)"⟩
  | x :: rest =>
    let little ← match rest with
      | [] => pure false
      | .str "big" :: _ => pure false
      | .str "little" :: _ => pure true
      | .str _ :: _ => throw ⟨"ValueError", "byteorder must be either 'little' or 'big'"⟩
      | o :: _ => throw ⟨"TypeError", "from_bytes() argument 'byteorder' must be str, not " ++
          o.typeName h⟩
    let bs ← bytesToRead x
    let ordered := if little then bs.reverse else bs
    pure (.int (ordered.foldl (fun acc b => acc * 256 + b.toNat) 0))

/-- The key of a translation table from a key of a map: a one-letter text becomes its code. -/
def translationKey (k : Value) : Except Raised Value :=
  match k with
  | .str s =>
    match s.toList with
    | [c] => pure (.int c.toNat)
    | _ => throw ⟨"ValueError", "string keys in translate table must be of length 1"⟩
  | .int _ | .bool _ => pure k
  | _ => throw ⟨"TypeError", "keys in translate table must be strings or integers"⟩

/-- `str.maketrans`: the entries of a translation table. -/
def translationTable (args : List Value) : Act (List (Value × Value)) := do
  let h ← get
  match args with
  | [] => throw ⟨"TypeError", "maketrans expected at least 1 argument, got 0"⟩
  | [m] =>
    match m.mapEntries? h with
    | some es =>
      es.foldlM (fun acc (k, v) => do
        let k ← reading fun _ => translationKey k
        reading fun h => putEntry h acc k v) []
    | Option.none =>
      throw ⟨"TypeError", "if you give only one argument to maketrans it must be a dict"⟩
  | x :: y :: rest =>
    if rest.length > 1 then
      throw ⟨"TypeError", "maketrans expected at most 3 arguments, got " ++ toString args.length⟩
    match x, y with
    | .str a, .str b =>
      if a.length ≠ b.length then
        throw ⟨"ValueError", "the first two maketrans arguments must have equal length"⟩
      let es ← (a.toList.zip b.toList).foldlM (fun acc (c, d) =>
        reading fun h => putEntry h acc (.int c.toNat) (.int d.toNat)) []
      match rest with
      | [] => pure es
      | [.str z] => z.toList.foldlM (fun acc c => reading fun h => putEntry h acc (.int c.toNat) .none) es
      | [z] => throw ⟨"TypeError", "maketrans() argument 3 must be str, not " ++ z.typeName h⟩
      | _ => pure es
    | .str _, _ => throw ⟨"TypeError", "maketrans() argument 2 must be str, not " ++ y.typeName h⟩
    | _, _ =>
      throw ⟨"TypeError", "first maketrans argument must be a string if there is a second argument"⟩

end ItemRecommender.Object
