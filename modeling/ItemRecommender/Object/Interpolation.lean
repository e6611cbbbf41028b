import ItemRecommender.Object.FormatSpec
/-! # Interpolating values into a text with `%`

    `text % arguments` replaces each conversion `%[(key)][flags][width][.precision]code` of
    the text by the next argument, converted by the code: `s`, `r` and `a` by the value's text,
    representation or ASCII representation, `d`, `i`, `u`, `o`, `x` and `X` as an integer,
    `e`, `f` and `g` (and their capitals) as a double, `c` as a character; `%%` is a percent
    sign. The arguments are a tuple's items in turn, or a single value. A key looks its value up
    in the mapping the arguments are.

    A converted number is padded to the width with zeros after its sign and radix mark when the
    flag `0` is given, and with spaces before them otherwise; `-` pads on the right. -/

namespace ItemRecommender.Object

open ItemRecommender.Decimal (Rendering Style)

/-- The arguments not yet taken: the rest of a tuple's items, or one value and whether it is
taken. -/
inductive Supply where
  | items (rest : List Value)
  | single (v : Value) (taken : Bool)

namespace Supply

/-- The arguments of a formatting. -/
def ofArguments : Value → Supply
  | .tuple xs | .named _ _ xs => .items xs
  | v => .single v false

/-- The next argument, and what is left. -/
def next : Supply → Except Raised (Value × Supply)
  | .items (x :: rest) => pure (x, .items rest)
  | .single v false => pure (v, .single v true)
  | _ => throw ⟨"TypeError", "not enough arguments for format string"⟩

/-- Whether arguments are left over. -/
def leftOver : Supply → Bool
  | .items xs => !xs.isEmpty
  | .single _ taken => !taken

end Supply

/-- The flags, width, precision and code of a conversion. -/
structure Conversion where
  leftAlign : Bool := false
  plus : Bool := false
  blank : Bool := false
  alternate : Bool := false
  zero : Bool := false
  width : Option Nat := none
  precision : Option Nat := none
  code : Char := 's'

/-- The error of a conversion cut short. -/
def incompleteFormat : Raised := ⟨"ValueError", "incomplete format"⟩

/-- The key of a conversion up to its matching parenthesis, and the text after it. -/
def keyText : Nat → List Char → List Char → Option (List Char × List Char)
  | _, [], _ => none
  | depth, c :: rest, acc =>
    if c == ')' then
      if depth = 0 then some (acc.reverse, rest) else keyText (depth - 1) rest (c :: acc)
    else keyText (if c == '(' then depth + 1 else depth) rest (c :: acc)

/-- The flags at the head of a conversion. -/
def takeFlags (c : Conversion) : List Char → Conversion × List Char
  | '-' :: rest => takeFlags { c with leftAlign := true } rest
  | '+' :: rest => takeFlags { c with plus := true } rest
  | ' ' :: rest => takeFlags { c with blank := true } rest
  | '#' :: rest => takeFlags { c with alternate := true } rest
  | '0' :: rest => takeFlags { c with zero := true } rest
  | cs => (c, cs)

/-- Reads ASCII digits into `acc`, refusing a number past `limit`: the number and the rest. -/
def readDigits (limit : Nat) (fault : Raised) : List Char → Nat → Except Raised (Nat × List Char)
  | [], acc => pure (acc, [])
  | c :: rest, acc =>
    if '0' ≤ c ∧ c ≤ '9' then
      let d := c.toNat - '0'.toNat
      if acc > (limit - d) / 10 then throw fault else readDigits limit fault rest (acc * 10 + d)
    else pure (acc, c :: rest)

/-- The first character of the rest of a conversion. -/
def nextChar : List Char → Except Raised (Char × List Char)
  | c :: rest => pure (c, rest)
  | [] => throw incompleteFormat

/-- An integer taken from the arguments for `*`, refused past `bound` either way; the error
names `target`, the machine integer type of that size. -/
def starCount (v : Value) (bound : Nat) (target : String) : Except Raised Int := do
  let i ← match v with
    | .int i => pure i
    | .bool b => pure (if b then 1 else 0)
    | _ => throw ⟨"TypeError", "* wants int"⟩
  if (bound : Int) < i ∨ i < -(bound : Int) - 1 then
    throw ⟨"OverflowError", "Python int too large to convert to C " ++ target⟩
  pure i

/-- The largest width of a conversion. -/
def widthLimit : Nat := Nat.pow 2 63 - 1

/-- Reads a conversion after its `%`: the conversion, the arguments left, and the rest of the
text. A key takes the argument from the mapping; a `*` takes the width or the precision from
the arguments, a negative width aligning left. Running out of text before the code is an
error. -/
def readConversion (mapping : Option Value) (supply : Supply) (cs : List Char) :
    Act (Conversion × Supply × List Char) := do
  let (supply, cs) ← match cs with
    | '(' :: rest =>
      match mapping with
      | none => throw ⟨"TypeError", "format requires a mapping"⟩
      | some m =>
        match keyText 0 rest [] with
        | none => throw ⟨"ValueError", "incomplete format key"⟩
        | some (key, after) => do
          pure (Supply.single (← m.getItem (.str (String.ofList key))) false, after)
    | _ => pure (supply, cs)
  let (conv, cs) := takeFlags {} cs
  let (c, cs) ← reading fun _ => nextChar cs
  let (conv, supply, c, cs) ←
    if c == '*' then do
      let (v, supply) ← reading fun _ => supply.next
      let w ← reading fun _ => starCount v widthLimit "ssize_t"
      let conv := if w < 0 then { conv with leftAlign := true, width := some w.natAbs }
        else { conv with width := some w.toNat }
      let (c, cs) ← reading fun _ => nextChar cs
      pure (conv, supply, c, cs)
    else if '0' ≤ c ∧ c ≤ '9' then do
      let (w, cs) ← reading fun _ =>
        readDigits widthLimit ⟨"ValueError", "width too big"⟩ cs (c.toNat - '0'.toNat)
      let (c, cs) ← reading fun _ => nextChar cs
      pure ({ conv with width := some w }, supply, c, cs)
    else pure (conv, supply, c, cs)
  let (conv, supply, c, cs) ←
    if c == '.' then do
      let (c, cs) ← reading fun _ => nextChar cs
      if c == '*' then do
        let (v, supply) ← reading fun _ => supply.next
        let p ← reading fun _ => starCount v precisionLimit "int"
        let (c, cs) ← reading fun _ => nextChar cs
        pure ({ conv with precision := some p.toNat }, supply, c, cs)
      else if '0' ≤ c ∧ c ≤ '9' then do
        let (p, cs) ← reading fun _ =>
          readDigits precisionLimit ⟨"ValueError", "precision too big"⟩ cs (c.toNat - '0'.toNat)
        let (c, cs) ← reading fun _ => nextChar cs
        pure ({ conv with precision := some p }, supply, c, cs)
      else pure ({ conv with precision := some 0 }, supply, c, cs)
    else pure (conv, supply, c, cs)
  let (c, cs) ← if c == 'h' || c == 'l' || c == 'L' then reading fun _ => nextChar cs
    else pure (c, cs)
  pure ({ conv with code := c }, supply, cs)

/-- The integer an argument stands for under an integer code: an integer itself, or under a
decimal code any real number truncated. -/
def integerArgument (code : Char) (v : Value) : Act Int := do
  let h ← get
  let radix := code == 'o' || code == 'x' || code == 'X'
  let wrong : Raised := ⟨"TypeError", "%" ++ String.singleton code ++
    (if radix then " format: an integer is required, not " else
      " format: a real number is required, not ") ++ v.typeName h⟩
  match v with
  | .int i => pure i
  | .bool b => pure (if b then 1 else 0)
  | .float _ | .double _ | .decimal _ | .fraction .. => if radix then throw wrong else v.toInt
  | _ => throw wrong

/-- An integer written for a conversion: sign, radix mark when the form is alternate, and at
least `precision` digits. -/
def Conversion.integerText (conv : Conversion) (i : Int) : Except Raised String := do
  let (radix, mark) : Nat × String := match conv.code with
    | 'o' => (8, "0o")
    | 'x' => (16, "0x")
    | 'X' => (16, "0X")
    | _ => (10, "")
  let digits ← if radix = 10 then do pure (← intText i.natAbs).toList
    else pure (Nat.toDigits radix i.natAbs)
  let digits := if conv.code == 'X' then digits.map Char.toUpper else digits
  let digits := List.replicate (conv.precision.getD 0 - digits.length) '0' ++ digits
  pure ((if i < 0 then "-" else "") ++ (if conv.alternate then mark else "") ++ String.ofList digits)

/-- The rendering of a double conversion. -/
def Conversion.rendering (conv : Conversion) : Rendering :=
  let style : Style := match conv.code.toLower with
    | 'e' => .scientific
    | 'f' => .positional
    | _ => .general
  ⟨style, conv.precision.getD 6, conv.code.isUpper, conv.alternate, false, false, false⟩

/-- The error of a `c` conversion of anything but a code point or a single character. -/
def charFault : Raised := ⟨"TypeError", "%c requires int or char"⟩

/-- The text of an argument converted by a conversion's code, and whether the code is
numeric. `index` is the place of the code in the whole text, which the error of an unknown
code shows. -/
def Conversion.convert (conv : Conversion) (v : Value) (index : Nat) : Act (String × Bool) := do
  match conv.code with
  | 's' => pure (← reading fun h => v.text h, false)
  | 'r' => pure (← reading fun h => v.repr h, false)
  | 'a' => pure (asciiEscaped (← reading fun h => v.repr h), false)
  | 'd' | 'i' | 'u' | 'o' | 'x' | 'X' =>
    let i ← integerArgument conv.code v
    pure (← reading fun _ => conv.integerText i, true)
  | 'e' | 'E' | 'f' | 'F' | 'g' | 'G' =>
    let x ← reading fun h => realArgument h v
    pure (conv.rendering.write x, true)
  | 'c' =>
    match v with
    | .str s => if s.length = 1 then pure (s, false) else throw charFault
    | .int _ | .bool _ =>
      let i := match v with
        | .int i => i
        | .bool b => if b then 1 else 0
        | _ => 0
      if i < 0 ∨ 0x10FFFF < i then throw ⟨"OverflowError", "%c arg not in range(0x110000)"⟩
      pure (String.singleton (Char.ofNat i.toNat), false)
    | _ => throw charFault
  | c =>
    let shown := if 31 ≤ c.toNat ∧ c.toNat ≤ 126 then c else '?'
    throw ⟨"ValueError", "unsupported format character '" ++ String.singleton shown ++ "' (0x" ++
      String.ofList (Nat.toDigits 16 c.toNat) ++ ") at index " ++ toString index⟩

/-- A converted text padded to a conversion's width. A numeric text moves its sign, or the
sign the flags ask for, ahead of the padding when the fill is zeros, and so does an alternate
radix mark; the flag `-` pads on the right with spaces. Texts are cut to the precision. -/
def Conversion.lay (conv : Conversion) (numeric : Bool) (text : String) : String :=
  let zeroFill := numeric && conv.zero
  let cs := text.toList
  let cs := if conv.code == 's' || conv.code == 'r' || conv.code == 'a' then
      match conv.precision with
      | some p => cs.take p
      | none => cs
    else cs
  let (signs, body) : List Char × List Char :=
    if numeric then
      match cs with
      | c :: rest =>
        if c == '-' || c == '+' then ([c], rest)
        else if conv.plus then (['+'], cs)
        else if conv.blank then ([' '], cs)
        else ([], cs)
      | [] => ([], [])
    else ([], cs)
  let width := max (conv.width.getD 0) body.length
  let width := if !signs.isEmpty ∧ width > body.length then width - 1 else width
  let marked := conv.alternate && (conv.code == 'x' || conv.code == 'X' || conv.code == 'o')
  let (mark, body) := if marked then (body.take 2, body.drop 2) else ([], body)
  let width := if marked then width - 2 else width
  let left := if width > body.length ∧ !conv.leftAlign then width - body.length else 0
  let right := if left > 0 then 0 else width - body.length
  if zeroFill then
    String.ofList (signs ++ mark ++ List.replicate left '0' ++ body ++ List.replicate right ' ')
  else
    String.ofList (List.replicate left ' ' ++ signs ++ mark ++ body ++ List.replicate right ' ')

/-- Whether a value serves as the mapping of a formatting's arguments: the containers that can
be indexed, other than tuples and texts. -/
def formatMapping (h : Heap) : Value → Bool
  | .bytes _ | .range .. => true
  | .ref a =>
    match h.get a with
    | .list _ | .dict .. | .bytearray _ => true
    | _ => false
  | _ => false

/-- The conversions of the rest `cs` of a text, each taking its arguments in turn, appended to
`acc`; `total` is the length of the whole text. -/
def interpolateFrom (mapping : Option Value) (total : Nat) :
    Nat → List Char → Supply → String → Act (String × Supply)
  | 0, _, supply, acc => pure (acc, supply)
  | fuel + 1, cs, supply, acc =>
    match cs with
    | [] => pure (acc, supply)
    | '%' :: '%' :: rest => interpolateFrom mapping total fuel rest supply (acc.push '%')
    | '%' :: rest => do
      let (conv, supply, rest) ← readConversion mapping supply rest
      let (v, supply) ← reading fun _ => supply.next
      let (text, numeric) ← conv.convert v (total - rest.length - 1)
      interpolateFrom mapping total fuel rest supply (acc ++ conv.lay numeric text)
    | _ =>
      let plain := cs.takeWhile (· != '%')
      interpolateFrom mapping total fuel (cs.drop plain.length) supply (acc ++ String.ofList plain)

/-- A text with its conversions replaced by the arguments. Arguments that no conversion takes
are an error, unless they are a mapping. -/
def interpolate (format : String) (args : Value) : Act String := do
  let h ← get
  let mapping := match args with
    | .tuple _ | .named .. | .str _ => none
    | _ => if formatMapping h args then some args else none
  let cs := format.toList
  let (text, supply) ← interpolateFrom mapping cs.length (cs.length + 1) cs (Supply.ofArguments args) ""
  if supply.leftOver && mapping.isNone then
    throw ⟨"TypeError", "not all arguments converted during string formatting"⟩
  pure text

end ItemRecommender.Object
