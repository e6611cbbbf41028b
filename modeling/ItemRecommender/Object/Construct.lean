import ItemRecommender.Json
import ItemRecommender.Object.Mapping
import ItemRecommender.Stream.Literal
import ItemRecommender.Text.Utf8
/-! # Making objects from arguments

    The constructors of the core's classes and of the library classes a dataset may hold, each
    as a function of its arguments:

    * sequences, maps and sets from any iterable; byte strings from a count, an iterable of
      bytes or a text with an encoding; texts, integers, doubles, truth values and complex
      numbers by the core's conversions; ranges from integers;
    * decimals and fractions from numbers and texts, and the array library's scalars;
    * records, whose arguments bind to their fields as a generated initializer binds them, with
      the errors of a missing, repeated or unexpected argument; namespaces from keywords;
      errors, which keep their arguments; members of an enumeration by their value;
    * texts encoded as bytes, JSON texts read into objects, and paths joined. -/

namespace ItemRecommender.Object

open ItemRecommender.Text

/-- The error of a call with keyword arguments to a constructor that takes none. -/
def noKeywords (what : String) : Raised := ⟨"TypeError", what ++ "() takes no keyword arguments"⟩

/-- The error of a constructor given more than one argument. -/
def atMostOne (what : String) (got : Nat) : Raised :=
  ⟨"TypeError", what ++ " expected at most 1 argument, got " ++ toString got⟩

/-- The integer a value stands for where an index is needed. -/
def asIndex (h : Heap) (v : Value) : Except Raised Int :=
  match v with
  | .bool b => pure (if b then 1 else 0)
  | .int i => pure i
  | _ => throw ⟨"TypeError", "'" ++ v.typeName h ++ "' object cannot be interpreted as an integer"⟩

/-! ## Encodings -/

/-- The text encodings a dataset may name. -/
inductive Encoding where
  | utf8
  | latin1
  | ascii
  deriving DecidableEq, Repr

/-- The encoding a name stands for: letters in any case, with `-`, `_` and blanks alike. -/
def Encoding.ofName? (name : String) : Option Encoding :=
  let n := String.ofList (name.toList.map fun c =>
    if c = '-' ∨ c = ' ' then '_' else c.toLower)
  if ["utf_8", "utf8", "u8", "utf", "cp65001"].contains n then some .utf8
  else if ["latin_1", "latin1", "iso_8859_1", "iso8859_1", "8859", "cp819", "latin", "l1"].contains n then
    some .latin1
  else if ["ascii", "us_ascii", "646"].contains n then some .ascii
  else none

/-- The name an encoding reports itself with. -/
def Encoding.codec : Encoding → String
  | .utf8 => "utf-8"
  | .latin1 => "latin-1"
  | .ascii => "ascii"

/-- A character as an encoding error shows it: its code in hexadecimal after `\x`, `\u` or
`\U`. -/
def escapedChar (c : Char) : String :=
  let n := codePoint c
  if n < 0x100 then "\\x" ++ String.ofList (hexDigits 2 n)
  else if n < 0x10000 then "\\u" ++ String.ofList (hexDigits 4 n)
  else "\\U" ++ String.ofList (hexDigits 8 n)

/-- A text encoded by an encoding. An encoding of one byte per character refuses the first
run of characters beyond its range. -/
def Encoding.encode (e : Encoding) (s : String) : Except Raised (List UInt8) :=
  let limit := match e with
    | .utf8 => 0x110000
    | .latin1 => 0x100
    | .ascii => 0x80
  match e with
  | .utf8 =>
    let cs := s.toList
    match cs.findIdx? isStandIn with
    | some i =>
      let run := ((cs.drop i).takeWhile isStandIn).length
      let what := if run = 1 then
          "character '" ++ escapedChar (cs.getD i ' ') ++ "' in position " ++ toString i
        else "characters in position " ++ toString i ++ "-" ++ toString (i + run - 1)
      throw ⟨"UnicodeEncodeError", "'utf-8' codec can't encode " ++ what ++ ": surrogates not allowed"⟩
    | none => pure s.toUTF8.toList
  | _ =>
    let cs := s.toList
    match cs.findIdx? (·.toNat ≥ limit) with
    | some i =>
      let run := ((cs.drop i).takeWhile (·.toNat ≥ limit)).length
      let what := if run = 1 then
          "character '" ++ escapedChar (cs.getD i ' ') ++ "' in position " ++ toString i
        else "characters in position " ++ toString i ++ "-" ++ toString (i + run - 1)
      throw ⟨"UnicodeEncodeError", "'" ++ e.codec ++ "' codec can't encode " ++ what ++
        ": ordinal not in range(" ++ toString limit ++ ")"⟩
    | none => pure (cs.map fun c => c.toNat.toUInt8)

/-- Bytes decoded by an encoding. -/
def Encoding.decode (e : Encoding) (bs : List UInt8) : Except Raised String :=
  match e with
  | .utf8 =>
    match decodeUtf8 bs with
    | .ok cs => pure (String.ofList cs)
    | .error err => throw ⟨"UnicodeDecodeError", err.message⟩
  | .latin1 => pure (String.ofList (bs.map fun b => Char.ofNat b.toNat))
  | .ascii => Stream.asciiText bs

/-- The encoding a value names. -/
def encodingOf (h : Heap) (v : Value) : Except Raised Encoding :=
  match v with
  | .str name =>
    match Encoding.ofName? name with
    | some e => pure e
    | none => throw ⟨"LookupError", "unknown encoding: " ++ name⟩
  | _ => throw ⟨"TypeError", "encode() argument 'encoding' must be str, not " ++ v.typeName h⟩

/-! ## Core classes -/

/-- The bytes an integer, a byte string or an iterable of integers stands for. -/
def bytesFrom (what : String) (v : Value) : Act (List UInt8) := do
  let h ← get
  match v with
  | .int n =>
    if n < 0 then throw ⟨"ValueError", "negative count"⟩
    else if (maxLength : Int) < n then throw ⟨"OverflowError", "cannot fit 'int' into an index-sized integer"⟩
    else if (memoryBound : Int) < n then throw memoryFault
    else pure (List.replicate n.toNat 0)
  | .bool b => pure (if b then [0] else [])
  | .str _ => throw ⟨"TypeError", "string argument without an encoding"⟩
  | _ =>
    match bytesOf? h v with
    | some bs => pure bs
    | none =>
      match sourceIn h nestingLimit v with
      | .error _ => throw ⟨"TypeError", "cannot convert '" ++ v.typeName h ++ "' object to " ++ what⟩
      | .ok _ =>
        let items ← v.elements
        items.mapM fun x => do
          let i ← reading fun h => asIndex h x
          if 0 ≤ i ∧ i < 256 then pure i.toNat.toUInt8
          else throw ⟨"ValueError", (if what = "bytearray" then "byte" else "bytes") ++
            " must be in range(0, 256)"⟩

/-- The text of a value, or of bytes in an encoding. -/
def textFrom (args : List Value) : Act Value := do
  let h ← get
  if 3 < args.length then
    throw ⟨"TypeError", "str() takes at most 3 arguments (" ++ toString args.length ++ " given)"⟩
  match args with
  | [] => pure (.str "")
  | [x] => reading fun h => do pure (.str (← x.text h))
  | x :: enc :: _ =>
    match bytesOf? h x with
    | some bs => reading fun h => do pure (.str (← (← encodingOf h enc).decode bs))
    | none =>
      match x with
      | .str _ => throw ⟨"TypeError", "decoding str is not supported"⟩
      | _ => throw ⟨"TypeError", "decoding to str: need a bytes-like object, " ++ x.typeName h ++ " found"⟩

/-- The integer of a text in a base from 2 to 36, or 0 for the base its prefix names. -/
def intInBase (h : Heap) (x base : Value) : Except Raised Int := do
  let b ← asIndex h base
  if !(b = 0 ∨ (2 ≤ b ∧ b ≤ 36)) then
    throw ⟨"ValueError", "int() base must be >= 2 and <= 36, or 0"⟩
  let text ← match x with
    | .str s => pure (Decimal.asciiForm s.toList)
    | _ =>
      match bytesOf? h x with
      | some bs => pure (bs.map fun c => Char.ofNat c.toNat)
      | none => throw ⟨"TypeError", "int() can't convert non-string with explicit base"⟩
  match Stream.readLiteral b.toNat text with
  | .ok i => pure i
  | .error (.tooManyDigits n) =>
    throw ⟨"ValueError", "Exceeds the limit (" ++ toString Decimal.maxIntDigits ++
      " digits) for integer string conversion: value has " ++ toString n ++
      " digits; use sys.set_int_max_str_digits() to increase the limit"⟩
  | .error (.invalid reported) =>
    throw ⟨"ValueError", "invalid literal for int() with base " ++ toString reported ++ ": " ++
      (← x.repr h)⟩

/-- A complex number read from a text as `complex` reads one: blanks, an optional parenthesis,
then a real part, an imaginary part ending in `j`, or a real part and a signed imaginary part
(a sign alone standing for one), then the closing parenthesis and blanks. Each part is a
double as a literal spells it, `inf` and `nan` included; a single underscore may stand between
two digits anywhere in the text. -/
def readComplex? (text : List Char) : Option (Float × Float) := do
  let a := Decimal.asciiForm text
  let s ← if a.contains '_' then Decimal.dropGroupMarks? none a else some a
  let s := s.dropWhile Decimal.isAsciiSpace
  let (bracket, s) := match s with
    | '(' :: r => (true, r.dropWhile Decimal.isAsciiSpace)
    | _ => (false, s)
  let isJ (c : Char) : Bool := c = 'j' || c = 'J'
  let unit (c : Char) : Float := if c = '+' then 1.0 else -1.0
  let (re, im, rest) ← match Stream.leadingFloat? s with
    | some scan =>
      match scan.rest with
      | c :: r =>
        if c = '+' ∨ c = '-' then
          match Stream.leadingFloat? scan.rest with
          | some y =>
            match y.rest with
            | j :: r' => if isJ j then some (scan.value, y.value, r') else none
            | [] => none
          | none =>
            match r with
            | j :: r' => if isJ j then some (scan.value, unit c, r') else none
            | [] => none
        else if isJ c then some (0.0, scan.value, r)
        else some (scan.value, 0.0, scan.rest)
      | [] => some (scan.value, 0.0, [])
    | none =>
      match s with
      | c :: r =>
        if c = '+' ∨ c = '-' then
          match r with
          | j :: r' => if isJ j then some (0.0, unit c, r') else none
          | [] => none
        else if isJ c then some (0.0, 1.0, r)
        else none
      | [] => none
  let rest := rest.dropWhile Decimal.isAsciiSpace
  let rest ← if bracket then
      match rest with
      | ')' :: r => some (r.dropWhile Decimal.isAsciiSpace)
      | _ => none
    else some rest
  if rest.isEmpty then some (re, im) else none

/-- A complex number from a real and an imaginary part. -/
def complexFrom (args : List Value) : Act Value := do
  let h ← get
  let part (v : Value) (which : String) : Act (Float × Float) := do
    match v with
    | .complex re im => pure (re, im)
    | _ =>
      match asFloat? v with
      | some r => do pure (← reading fun _ => r, 0.0)
      | none =>
        match v with
        | .decimal d => do pure (← reading fun _ => d.toFloat, 0.0)
        | _ => throw ⟨"TypeError", "complex() " ++ which ++ " argument must be a string or a number, not '" ++
            v.typeName h ++ "'"⟩
  match args with
  | [] => pure (.complex 0.0 0.0)
  | [.str s] =>
    let a := Decimal.asciiForm s.toList
    if a.contains '_' ∧ (Decimal.dropGroupMarks? none a).isNone then
      throw ⟨"ValueError", "could not convert string to complex: " ++ quote s⟩
    match readComplex? s.toList with
    | some (re, im) => pure (.complex re im)
    | none => throw ⟨"ValueError", "complex() arg is a malformed string"⟩
  | .str _ :: _ => throw ⟨"TypeError", "complex() can't take second arg if first is a string"⟩
  | [a] => do
    let (re, im) ← part a "first"
    pure (.complex re im)
  | a :: b :: _ => do
    let (ar, ai) ← part a "first"
    match b with
    | .str _ => throw ⟨"TypeError", "complex() second arg can't be a string"⟩
    | _ =>
      let (br, bi) ← part b "second"
      -- a part that is not complex adds nothing, so that a zero keeps its sign
      let re := match b with
        | .complex .. => ar - bi
        | _ => ar
      let im := match a with
        | .complex .. => ai + br
        | _ => br
      pure (.complex re im)

/-- A range from one to three integers. -/
def rangeFrom (args : List Value) : Act Value := do
  let ints ← args.mapM fun a => reading fun h => asIndex h a
  match ints with
  | [] => throw ⟨"TypeError", "range expected at least 1 argument, got 0"⟩
  | [e] => pure (.range 0 e 1)
  | [s, e] => pure (.range s e 1)
  | [s, e, k] =>
    if k = 0 then throw ⟨"ValueError", "range() arg 3 must not be zero"⟩ else pure (.range s e k)
  | _ => throw ⟨"TypeError", "range expected at most 3 arguments, got " ++ toString args.length⟩

/-! ## Numbers of other modules -/

/-- An integer of a C long, or its overflow. -/
def cLong (i : Int) : Except Raised Int :=
  if i < -Int.ofNat (Nat.pow 2 63) ∨ Int.ofNat (Nat.pow 2 63) ≤ i then
    throw ⟨"OverflowError", "Python int too large to convert to C long"⟩
  else pure i

/-- A decimal number from its sign, its digits and its exponent (or the letter of a special
value: `F` for infinity, `n` for a NaN, `N` for a signaling NaN), written as the literal they
spell and read as one. Truth values count as the integers they are. -/
def decimalFromParts (h : Heap) (parts : List Value) : Act Value := do
  let invalid (message : String) : Raised := ⟨"ValueError", message⟩
  let integer? (v : Value) : Option Int := match v with
    | .int i => some i
    | .bool b => some (if b then 1 else 0)
    | _ => none
  match parts with
  | [sign, digits, exponent] =>
    let signBad := invalid "sign must be an integer with the value 0 or 1"
    let some sign := integer? sign | throw signBad
    let sign ← reading fun _ => cLong sign
    if sign ≠ 0 ∧ sign ≠ 1 then throw signBad
    let (special, infinite, power) ← match exponent with
      | .str "F" => pure ("Inf", true, "")
      | .str "n" => pure ("NaN", false, "")
      | .str "N" => pure ("sNaN", false, "")
      | .str _ => throw (invalid "string argument in the third position must be 'F', 'n' or 'N'")
      | e =>
        match integer? e with
        | some e =>
          if e < -Int.ofNat (Nat.pow 2 63) ∨ Int.ofNat (Nat.pow 2 63) ≤ e then
            throw ⟨"OverflowError", "Python int too large to convert to C ssize_t"⟩
          else pure ("", false, "E" ++ toString e)
        | none => throw (invalid "exponent must be an integer")
    let digitsBad := invalid "coefficient must be a tuple of digits"
    let ds ← match digits with
      | .tuple xs | .named _ _ xs => pure xs
      | .ref a =>
        match h.get a with
        | .list xs => pure xs
        | _ => throw digitsBad
      | _ => throw digitsBad
    let ds ← ds.mapM fun d => do
      let some i := integer? d | throw digitsBad
      let i ← reading fun _ => cLong i
      if 0 ≤ i ∧ i ≤ 9 then pure (Char.ofNat (0x30 + i.toNat)) else throw digitsBad
    let coefficient := if infinite then "" else if ds.isEmpty then "0" else String.ofList ds
    let text := (if sign = 1 then "-" else "+") ++ special ++ coefficient ++ power
    pure (.decimal (← reading fun _ => DecimalNumber.read text))
  | _ => throw (invalid "argument must be a sequence of length 3")

/-- A decimal from a number, a text, or a tuple or list of its parts. -/
def decimalFrom (v : Value) : Act Value := do
  let h ← get
  match v with
  | .decimal d => pure (.decimal d)
  | .bool b => pure (.decimal (DecimalNumber.ofInt (if b then 1 else 0)))
  | .int i => pure (.decimal (DecimalNumber.ofInt i))
  | .float x | .double x => pure (.decimal (DecimalNumber.ofFloat x))
  | .str s => do pure (.decimal (← reading fun _ => DecimalNumber.read s))
  | .tuple parts | .named _ _ parts => decimalFromParts h parts
  | .ref a =>
    match h.get a with
    | .list parts => decimalFromParts h parts
    | _ => throw ⟨"TypeError", "conversion from " ++ v.typeName h ++ " to Decimal is not supported"⟩
  | _ => throw ⟨"TypeError", "conversion from " ++ v.typeName h ++ " to Decimal is not supported"⟩

/-- Whether a character is a decimal digit of any script. -/
def isDigitChar (c : Char) : Bool := (decimalValue? c).isSome

/-- The longest run of digits at the front of a text with single underscores between them, and
the rest. -/
def groupedRun : List Char → List Char × List Char
  | [] => ([], [])
  | c :: '_' :: d :: more =>
    if isDigitChar c then
      if isDigitChar d then
        let (run, after) := groupedRun (d :: more)
        (c :: '_' :: run, after)
      else ([c], '_' :: d :: more)
    else ([], c :: '_' :: d :: more)
  | c :: rest =>
    if isDigitChar c then
      let (run, after) := groupedRun rest
      (c :: run, after)
    else ([], c :: rest)
termination_by s => s.length

/-- The parts of a fraction literal after its numerator: a denominator, or a fractional part and
an exponent, each as its text. -/
structure FractionTail where
  denominator : Option (List Char)
  fractional : Option (List Char)
  exponent : Option (List Char)

/-- The tail of a fraction literal from its fractional part on: an optional exponent, an `e` of
either case and a signed run of digits, and blanks to the end. -/
def exponentTail (fractional : Option (List Char)) (s : List Char) : Option FractionTail :=
  if s.all isBlank then some ⟨none, fractional, none⟩
  else
    match s with
    | e :: r =>
      if e = 'e' ∨ e = 'E' then
        let (sign, r) := match r with
          | '+' :: x => (['+'], x)
          | '-' :: x => (['-'], x)
          | x => ([], x)
        let (ds, after) := groupedRun r
        if !ds.isEmpty ∧ after.all isBlank then some ⟨none, fractional, some (sign ++ ds)⟩ else none
      else none
    | [] => none

/-- The tail of a fraction literal after its numerator, as the fraction class's pattern matches
it: a slash and a run of digits; or a point and a fractional part that may be empty, then an
exponent; each then blanks to the end. -/
def fractionTail (s : List Char) : Option FractionTail :=
  match s with
  | '/' :: r =>
    let (ds, after) := groupedRun r
    if !ds.isEmpty ∧ after.all isBlank then some ⟨some ds, none, none⟩ else none
  | '.' :: r =>
    let (ds, after) := groupedRun r
    exponentTail (some ds) after
  | _ => exponentTail none s

/-- The largest exponent of ten a fraction literal is read with; a larger one needs more memory
than there is. -/
def exponentBound : Int := 1000000

/-- The ratio a text stands for, as the fraction class reads it: blanks and a sign, then a
numerator of digits (empty before a point and a digit), then a denominator after a slash or a
fractional part and an exponent, then blanks. Each part is read as the core's `int` reads it. -/
def readFraction (text : String) : Except Raised (Int × Int) := do
  let invalid : Raised := ⟨"ValueError", "Invalid literal for Fraction: " ++ quote text⟩
  let (negative, body) := match text.toList.dropWhile isBlank with
    | '-' :: r => (true, r)
    | '+' :: r => (false, r)
    | r => (false, r)
  let starts := match body with
    | c :: r => isDigitChar c || (c = '.' && (r.head?.map isDigitChar).getD false)
    | [] => false
  if !starts then throw invalid
  let (num, rest) := groupedRun body
  let some tail := fractionTail rest | throw invalid
  let number (ds : List Char) : Except Raised Int :=
    readIntText (quote (String.ofList ds)) (String.ofList ds)
  let n ← number (if num.isEmpty then ['0'] else num)
  let (n, d) ← match tail.denominator with
    | some ds => do pure (n, ← number ds)
    | none => do
      let (n, d) ← match tail.fractional with
        | some ds =>
          if ds.isEmpty then pure (n, 1)
          else do
            let ds := ds.filter (· ≠ '_')
            let scale : Int := Int.ofNat (Nat.pow 10 ds.length)
            pure (n * scale + (← number ds), scale)
        | none => pure (n, 1)
      match tail.exponent with
      | some es => do
        let e ← number es
        if exponentBound < e.natAbs then throw memoryFault
        if 0 ≤ e then pure (n * Int.ofNat (Nat.pow 10 e.toNat), d)
        else pure (n, d * Int.ofNat (Nat.pow 10 e.natAbs))
      | none => pure (n, d)
  pure (if negative then -n else n, d)

/-- The ratio a value stands for when a fraction is made of it alone. -/
def ratioOf (v : Value) : Except Raised (Option (Int × Int)) :=
  let exact (e : Exact) (what : String) : Except Raised (Option (Int × Int)) :=
    match e with
    | .ratio p q => pure (some (p, q))
    | .infinite _ => throw ⟨"OverflowError", "cannot convert Infinity to integer ratio"⟩
    | .nan => throw ⟨"ValueError", "cannot convert NaN to integer ratio" ++ what⟩
  match v with
  | .bool b => pure (some (if b then 1 else 0, 1))
  | .int i => pure (some (i, 1))
  | .fraction p q => pure (some (p, q))
  | .float x | .double x => exact (Exact.ofFloat x) ""
  | .decimal d => exact d.toExact ""
  | _ => pure none

/-- A fraction from a number, a text, or two rational numbers. -/
def fractionFrom (args : List Value) : Act Value := do
  match args with
  | [] => pure (.fraction 0 1)
  | [v] =>
    match v with
    | .str s =>
      let (p, q) ← reading fun _ => readFraction s
      if q = 0 then throw ⟨"ZeroDivisionError", "Fraction(" ++ toString p ++ ", 0)"⟩
      else pure (makeFraction p q)
    | _ =>
      match ← reading fun _ => ratioOf v with
      | some (p, q) => pure (makeFraction p q)
      | none => throw ⟨"TypeError", "argument should be a string or a Rational instance"⟩
  | n :: d :: _ =>
    match asFraction? n, asFraction? d with
    | some (p, q), some (r, s) =>
      if r = 0 then
        throw ⟨"ZeroDivisionError", "Fraction(" ++ (← reading fun h => n.text h) ++ ", 0)"⟩
      else pure (makeFraction (p * s) (q * r))
    | _, _ => throw ⟨"TypeError", "both arguments should be Rational instances"⟩

/-- The largest magnitude of a signed 64-bit integer, plus one. -/
def wordBound : Int := Int.ofNat (Nat.pow 2 63)

/-- An integer of the array library's 64-bit type, which refuses integers beyond its range. -/
def wordFrom (v : Value) : Act Value := do
  let i ← v.toInt
  if i < -wordBound ∨ wordBound ≤ i then
    throw ⟨"OverflowError", "Python int too large to convert to C long"⟩
  pure (.int i)

/-! ## Records, namespaces, errors and enumerations -/

/-- Names joined as a message lists them: `'a'`, `'a' and 'b'`, `'a', 'b', and 'c'`. -/
def nameList (names : List String) : String :=
  let quoted := names.map quote
  match quoted with
  | [] => ""
  | [a] => a
  | [a, b] => a ++ " and " ++ b
  | _ => ", ".intercalate quoted.dropLast ++ ", and " ++ quoted.getLastD ""

/-- Binds positional and keyword arguments to parameters with optional defaults, as a function
of the language binds them: the value of each parameter, or the error of the call. -/
def bindArguments {δ : Type} (callee : String) (params : List (String × Option δ))
    (args : List Value) (kwargs : List (String × Value)) :
    Except Raised (List (String × Sum Value δ)) := do
  let required := (params.filter fun p => p.2.isNone).length
  if params.length < args.length then
    let takes :=
      if required = params.length then
        toString (params.length + 1) ++ (if params.length = 0 then " positional argument" else " positional arguments")
      else "from " ++ toString (required + 1) ++ " to " ++ toString (params.length + 1) ++
        " positional arguments"
    throw ⟨"TypeError", callee ++ " takes " ++ takes ++ " but " ++ toString (args.length + 1) ++
      (if args.length + 1 = 1 then " was given" else " were given")⟩
  for (k, _) in kwargs do
    match params.findIdx? (·.1 = k) with
    | none => throw ⟨"TypeError", callee ++ " got an unexpected keyword argument " ++ quote k⟩
    | some i =>
      if i < args.length then
        throw ⟨"TypeError", callee ++ " got multiple values for argument " ++ quote k⟩
  let indexed := params.zipIdx
  let missing := indexed.filter fun ((name, d), i) =>
    d.isNone ∧ args.length ≤ i ∧ (kwargs.lookup name).isNone
  if !missing.isEmpty then
    let n := missing.length
    throw ⟨"TypeError", callee ++ " missing " ++ toString n ++ " required positional argument" ++
      (if n = 1 then "" else "s") ++ ": " ++ nameList (missing.map fun ((name, _), _) => name)⟩
  pure (indexed.map fun ((name, d), i) =>
    match args[i]?, kwargs.lookup name, d with
    | some v, _, _ => (name, .inl v)
    | none, some v, _ => (name, .inl v)
    | none, none, some x => (name, .inr x)
    | none, none, none => (name, .inl .none))

/-- A record of a class, its fields bound from the arguments; a field left out takes its
default, a new map where the default is made afresh. -/
def recordFrom (cls : Name) (r : RecordClass) (args : List Value)
    (kwargs : List (String × Value)) : Act Value := do
  let bound ← reading fun _ => bindArguments (cls.name ++ ".__init__()") r.fields args kwargs
  let attrs ← bound.mapM fun (name, b) => do
    match b with
    | .inl v => pure (name, v)
    | .inr (.value v) => pure (name, v)
    | .inr (.fresh _) => do pure (name, ← newDict [])
  allocate (.object cls [] attrs)

/-- A namespace of a class from keyword arguments. -/
def namespaceFrom (cls : Name) (args : List Value) (kwargs : List (String × Value)) : Act Value := do
  if !args.isEmpty then
    if cls = simpleNamespace then throw ⟨"TypeError", "no positional arguments expected"⟩
    else
      throw ⟨"TypeError", cls.name ++ ".__init__() takes 1 positional argument but " ++
        toString (args.length + 1) ++ " were given"⟩
  allocate (.object cls [] kwargs)

/-- An error of a class made with arguments. The pipeline's own failure of a phase takes the
phase and the reason, and words its message from them. -/
def errorFrom (cls : Name) (args : List Value) (kwargs : List (String × Value)) : Act Value := do
  if cls = ⟨"itemcf.errors", "PipelineError"⟩ then
    let params : List (String × Option Unit) := [("phase", none), ("reason", none)]
    let bound ← reading fun _ => bindArguments "PipelineError.__init__()" params args kwargs
    let values := bound.map fun (name, b) => match b with
      | .inl v => (name, v)
      | .inr _ => (name, Value.none)
    let phase := (values.lookup "phase").getD .none
    let reason := (values.lookup "reason").getD .none
    let message ← reading fun h => do
      pure ("phase " ++ (← phase.text h) ++ " failed: " ++ (← reason.text h))
    allocate (.object cls [.str message] values)
  else
    if !kwargs.isEmpty then throw (noKeywords cls.name)
    allocate (.object cls args [])

/-- The member of an enumeration class with a value. -/
def memberFrom (cls : Name) (v : Value) : Act Value := do
  match v with
  | .member c _ => if c = cls then return v
  | _ => pure ()
  let members := enumerationMembers cls
  match ← members.findM? (fun (_, x) => reading fun h => x.equals h v) with
  | some (label, _) => pure (.member cls label)
  | none => throw ⟨"ValueError", (← reading fun h => v.repr h) ++ " is not a valid " ++ cls.name⟩

/-! ## Texts, JSON and paths -/

/-- A JSON number as an object: an integer unless it has a point or an exponent. -/
def jsonNumber (literal : String) : Except Raised Value :=
  match literal with
  | "NaN" => pure (.float (0.0 / 0.0))
  | "Infinity" => pure (.float (1.0 / 0.0))
  | "-Infinity" => pure (.float (-1.0 / 0.0))
  | _ =>
    if literal.any fun c => c = '.' ∨ c = 'e' ∨ c = 'E' then
      match Decimal.readFloatLiteral? literal.toList with
      | some x => pure (.float x)
      | none => pure (.float 0.0)
    else
      match Decimal.readInt literal.toList with
      | .ok i => pure (.int i)
      | .error (.tooLong n) =>
        throw ⟨"ValueError", "Exceeds the limit (" ++ toString Decimal.maxIntDigits ++
          " digits) for integer string conversion: value has " ++ toString n ++
          " digits; use sys.set_int_max_str_digits() to increase the limit"⟩
      | .error .malformed => pure (.int 0)

end ItemRecommender.Object
