import ItemRecommender.Decimal.Format
import ItemRecommender.Object.Compare
import ItemRecommender.Text.Quoted
/-! # The text of an object

    Every value has a representation (`Value.repr`), the text that messages show of it, and a
    text (`Value.text`), which is its representation except for texts (the text itself), errors
    (their message), enumeration members (`Class.MEMBER`), decimals and fractions (their digits).

    * Integers are written in decimal, refused beyond `maxIntDigits` digits; doubles with the
      fewest digits that read back (`Decimal.Layout.score`); a complex number as its parts
      without a trailing `.0`, in parentheses unless its real part is a positive zero.
    * Texts and byte strings are quoted; tuples, lists, maps and sets are written with their
      brackets and the representations of their items; a container met again inside itself is
      written `[...]`, `{...}` or `set(...)`.
    * Records are written as `Class(field=value, ...)`, namespaces likewise; classes,
      functions and modules as the language shows them. An object shown by its address shows a
      fixed one, since addresses belong to the running process. -/

namespace ItemRecommender.Object

open ItemRecommender.Text

/-- The error of writing an integer of too many digits. -/
def intDigitsFault : Raised :=
  ⟨"ValueError", "Exceeds the limit (" ++ toString Decimal.maxIntDigits ++
    " digits) for integer string conversion; use sys.set_int_max_str_digits() to increase the limit"⟩

/-- The decimal text of an integer, refused beyond `maxIntDigits` digits. -/
def intText (i : Int) : Except Raised String :=
  if Decimal.maxIntDigits < (Nat.toDigits 10 i.natAbs).length then throw intDigitsFault
  else pure (toString i)

/-- The text of a double. -/
def floatText (x : Float) : String := Decimal.Layout.score.render x

/-- The text of a part of a complex number: a double without a trailing `.0`. -/
def complexPart (x : Float) : String :=
  let s := floatText x
  if s.endsWith ".0" then (s.dropEnd 2).toString else s

/-- The text of a complex number. -/
def complexText (re im : Float) : String :=
  let imText := complexPart im
  if re == 0 ∧ !(floatText re).startsWith "-" then imText ++ "j"
  else
    let signed := if imText.startsWith "-" then imText else "+" ++ imText
    "(" ++ complexPart re ++ signed ++ "j)"

/-- The representation of a byte string: quoted, with `\t`, `\n`, `\r` and `\xHH` escapes. -/
def bytesText (bs : List UInt8) : String :=
  let q : UInt8 := if bs.contains 0x27 && !bs.contains 0x22 then 0x22 else 0x27
  let escape (b : UInt8) : List Char :=
    if b = q ∨ b = 0x5C then ['\\', Char.ofNat b.toNat]
    else if b = 9 then ['\\', 't']
    else if b = 10 then ['\\', 'n']
    else if b = 13 then ['\\', 'r']
    else if b < 0x20 ∨ 0x7F ≤ b then '\\' :: 'x' :: hexDigits 2 b.toNat
    else [Char.ofNat b.toNat]
  String.ofList ('b' :: Char.ofNat q.toNat :: bs.flatMap escape ++ [Char.ofNat q.toNat])

/-- The text of a fraction: its numerator, and its denominator unless it is one. -/
def fractionText (p : Int) (q : Nat) : String :=
  if q = 1 then toString p else toString p ++ "/" ++ toString q

/-- A fixed address for objects shown by their address. -/
def shownAddress : String := "0x7f0000000000"

/-- The representation of a global. -/
def Name.repr (n : Name) : String :=
  let full := if n.module = "builtins" then n.name else n.module ++ "." ++ n.name
  match n.kind? with
  | some (.cls _ "EnumType") => "<enum " ++ quote n.name ++ ">"
  | some (.cls _ _) => "<class " ++ quote full ++ ">"
  | some .builtinFunction => "<built-in function " ++ n.name ++ ">"
  | some .function => "<function " ++ n.name ++ " at " ++ shownAddress ++ ">"
  | some (.other t) => "<" ++ t ++ " object at " ++ shownAddress ++ ">"
  | _ => "<class " ++ quote full ++ ">"

/-- Joins texts with commas. -/
def commaJoin (parts : List String) : String := ", ".intercalate parts

/-- The first `n` characters of a text. -/
def clip (n : Nat) (s : String) : String := String.ofList (s.toList.take n)

/-- The flags of a compiled pattern as its representation names them, in their fixed order,
the bits no name covers in hexadecimal; a text pattern does not name the Unicode flag when it
is the only choice of alphabet. -/
def patternFlagsText (isText : Bool) (flags : Nat) : List String :=
  let flags := if isText && flags &&& (4 ||| 32 ||| 256) = 32 then flags - 32 else flags
  let names : List (String × Nat) := [("re.TEMPLATE", 1), ("re.IGNORECASE", 2),
    ("re.LOCALE", 4), ("re.MULTILINE", 8), ("re.DOTALL", 16), ("re.UNICODE", 32),
    ("re.VERBOSE", 64), ("re.DEBUG", 128), ("re.ASCII", 256)]
  let named := names.filter fun (_, bit) => flags &&& bit != 0
  let rest := flags - (flags &&& 511)
  named.map (·.1) ++ (if rest = 0 then [] else ["0x" ++ String.ofList (Nat.toDigits 16 rest)])

/-- The representation of the part of a string from `s` to `e`: a text, or bytes for anything
bytes-like. -/
def sliceText (h : Heap) (v : Value) (s e : Nat) : String :=
  match v with
  | .str text => quote (String.ofList ((text.toList.drop s).take (e - s)))
  | _ =>
    match bytesOf? h v with
    | some bs => bytesText ((bs.drop s).take (e - s))
    | none => "None"

/-- The representation of a value, walking at most `fuel` levels; `seen` holds the containers
being written, which are written as an ellipsis when met again. -/
def reprIn (h : Heap) : Nat → List Nat → Value → Except Raised String
  | 0, _, _ => throw (nestingFault " while getting the repr of an object")
  | fuel + 1, seen, v =>
    let items (xs : List Value) : Except Raised String := do
      pure (commaJoin (← xs.mapM (reprIn h fuel seen)))
    let entries (seen : List Nat) (es : List (Value × Value)) : Except Raised String := do
      pure (commaJoin (← es.mapM fun (k, x) => do
        pure ((← reprIn h fuel seen k) ++ ": " ++ (← reprIn h fuel seen x))))
    match v with
    | .none => pure "None"
    | .bool b => pure (if b then "True" else "False")
    | .int i => intText i
    | .float x => pure (floatText x)
    | .double x => pure ("np.float64(" ++ floatText x ++ ")")
    | .complex re im => pure (complexText re im)
    | .decimal d => pure ("Decimal(" ++ quote d.text ++ ")")
    | .fraction p q => pure ("Fraction(" ++ toString p ++ ", " ++ toString q ++ ")")
    | .str s => pure (quote s)
    | .bytes bs => pure (bytesText bs)
    | .tuple [x] => do pure ("(" ++ (← reprIn h fuel seen x) ++ ",)")
    | .tuple xs => do pure ("(" ++ (← items xs) ++ ")")
    | .named cls fields xs => do
      -- the fields are filled in by a format with one place per field
      if xs.length < fields.length then
        throw ⟨"TypeError", "not enough arguments for format string"⟩
      if fields.length < xs.length then
        throw ⟨"TypeError", "not all arguments converted during string formatting"⟩
      let shown ← xs.mapM (reprIn h fuel seen)
      pure (cls.display ++ "(" ++
        commaJoin ((fields.zip shown).map fun (f, x) => f ++ "=" ++ x) ++ ")")
    | .frozenset [] _ => pure "frozenset()"
    | .frozenset xs _ => do pure ("frozenset(\x7b" ++ (← items xs) ++ "\x7d)")
    | .range s e k =>
      pure ("range(" ++ toString s ++ ", " ++ toString e ++
        (if k = 1 then "" else ", " ++ toString k) ++ ")")
    | .global n => pure n.repr
    | .module m => pure (moduleText m)
    | .member _ name => pure name
    | .ref a =>
      let inner := a :: seen
      match h.get a with
      | .list xs =>
        if seen.contains a then pure "[...]"
        else do pure ("[" ++ commaJoin (← xs.mapM (reprIn h fuel inner)) ++ "]")
      | .dict cls es factory =>
        if seen.contains a then pure "\x7b...\x7d"
        else if cls = orderedMap then
          if es.isEmpty then pure "OrderedDict()"
          else do
            let pairs ← es.mapM fun (k, x) => do
              pure ("(" ++ (← reprIn h fuel inner k) ++ ", " ++ (← reprIn h fuel inner x) ++ ")")
            pure ("OrderedDict([" ++ commaJoin pairs ++ "])")
        else if cls = defaultMap then do
          pure ("defaultdict(" ++ (← reprIn h fuel inner factory) ++ ", \x7b" ++
            (← entries inner es) ++ "\x7d)")
        else do pure ("\x7b" ++ (← entries inner es) ++ "\x7d")
      | .set [] _ => pure "set()"
      | .set xs _ =>
        if seen.contains a then pure "set(...)"
        else do pure ("\x7b" ++ commaJoin (← xs.mapM (reprIn h fuel inner)) ++ "\x7d")
      | .bytearray bs => pure ("bytearray(" ++ bytesText bs ++ ")")
      | .object cls args attrs =>
        if seen.contains a then pure "..."
        else
          let fields (pairs : List (String × Value)) : Except Raised String := do
            pure (commaJoin (← pairs.mapM fun (k, x) => do pure (k ++ "=" ++ (← reprIn h fuel inner x))))
          match recordClass? cls with
          | some r => do
            let values ← equalityFields cls attrs
            pure (cls.name ++ "(" ++ (← fields (r.fields.map Prod.fst |>.zip values)) ++ ")")
          | none =>
            if cls = simpleNamespace then do pure ("namespace(" ++ (← fields attrs) ++ ")")
            else if isNamespace cls then do pure (cls.display ++ "(" ++ (← fields attrs) ++ ")")
            else if cls = mapWrapper then
              match attrs.lookup "data" with
              | some d => reprIn h fuel inner d
              | none => throw ⟨"AttributeError", "'UserDict' object has no attribute 'data'"⟩
            else if cls = ⟨"re", "Match"⟩ then
              match attrs.lookup "regs", attrs.lookup "string" with
              | some (.tuple (.tuple [.int st, .int en] :: _)), some subject =>
                pure ("<re.Match object; span=(" ++ toString st ++ ", " ++ toString en ++
                  "), match=" ++ clip 50 (sliceText h subject st.toNat en.toNat) ++ ">")
              | _, _ => pure ("<re.Match object at " ++ shownAddress ++ ">")
            else if cls = ⟨"re", "Pattern"⟩ then
              match attrs.lookup "pattern", attrs.lookup "flags" with
              | some src, some (.int f) => do
                let shown := clip 200 (← reprIn h fuel inner src)
                let named := patternFlagsText (src matches .str _) f.toNat
                pure ("re.compile(" ++ shown ++
                  (if named.isEmpty then "" else ", " ++ "|".intercalate named) ++ ")")
              | _, _ => pure ("<re.Pattern object at " ++ shownAddress ++ ">")
            else if isError cls then do
              match args with
              | [x] => pure (cls.name ++ "(" ++ (← reprIn h fuel inner x) ++ ")")
              | _ => pure (cls.name ++ "(" ++ commaJoin (← args.mapM (reprIn h fuel inner)) ++ ")")
            else if cls.module = "builtins" then pure ("<" ++ cls.name ++ " object at " ++ shownAddress ++ ">")
            else pure ("<" ++ cls.module ++ "." ++ cls.name ++ " object at " ++ shownAddress ++ ">")
      | .iterator kind _ _ =>
        if kind.startsWith "generator " then
          pure ("<generator object " ++ (kind.drop 10).toString ++ " at " ++ shownAddress ++ ">")
        else pure ("<" ++ kind ++ " object at " ++ shownAddress ++ ">")

/-- The representation of a value. -/
def Value.repr (h : Heap) (v : Value) : Except Raised String := reprIn h nestingLimit [] v

/-- The text of a value. -/
def Value.text (h : Heap) (v : Value) : Except Raised String :=
  match v with
  | .str s => pure s
  | .double x => pure (floatText x)
  | .decimal d => pure d.text
  | .fraction p q => pure (fractionText p q)
  | .member cls name => pure (cls.name ++ "." ++ name)
  | .ref a =>
    match h.get a with
    | .object cls args _ =>
      if isError cls then
        match args with
        | [] => pure ""
        | [x] => if cls = builtin "KeyError" then v.repr h |>.bind fun _ => x.repr h
            else match x with
              | .str s => pure s
              | _ => x.repr h
        | xs => (Value.tuple xs).repr h
      else v.repr h
    | _ => v.repr h
  | _ => v.repr h

end ItemRecommender.Object
