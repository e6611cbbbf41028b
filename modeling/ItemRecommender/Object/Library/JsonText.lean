import ItemRecommender.Object.Library.Arguments
import ItemRecommender.Object.Sort
/-! # Writing JSON text

    A value is written as JSON by its kind: `None`, `True` and `False` as `null`, `true` and
    `false`; a text as a quoted string; an integer by its decimal digits; a float by its
    shortest repr, NaN and the infinities as `NaN`, `Infinity` and `-Infinity` unless they are
    refused; a list or tuple as an array; a map as an object. Any other value is handed to the
    fallback function, if one is given, and its result written in its place; without one it is
    refused.

    * A string escapes the quote, the backslash and the control characters; with `asciiOnly`
      every character outside printable ASCII is escaped too, as `\u` and four hexadecimal
      digits, a character beyond the basic plane as its two surrogates.
    * An object's keys are texts, or numbers, booleans and `None` written as texts; other keys
      are refused or, with `skipKeys`, left out. With `sortKeys` the entries are sorted by
      key first, so keys that cannot be compared are refused.
    * Without an indent everything is on one line, items parted by `, ` and keys by `: `. With
      one, each item of a non-empty container starts a new line indented one level deeper than
      the container, items parted by `,`; an empty container is `[]` or `{}` either way.
    * A container met again inside itself is a circular reference, and refused. -/

namespace ItemRecommender.Object

open ItemRecommender.Text

/-- The choices that decide how values are written. -/
structure JsonLayout where
  asciiOnly : Bool
  allowNaN : Bool
  sortKeys : Bool
  skipKeys : Bool
  checkCircular : Bool
  /-- The text of one level of indentation, or `none` for the one-line form. -/
  indent : Option String
  itemSeparator : String
  keySeparator : String
  /-- The function whose result stands in for a value JSON has no form for. -/
  fallback : Option Value

/-- One character of a JSON string as written. -/
def jsonEscape (asciiOnly : Bool) (c : Char) : List Char :=
  let n := codePoint c
  let unit (k : Nat) : List Char := '\\' :: 'u' :: Text.hexDigits 4 k
  if c = '"' then ['\\', '"']
  else if c = '\\' then ['\\', '\\']
  else if n = 0x08 then ['\\', 'b']
  else if n = 0x0C then ['\\', 'f']
  else if c = '\n' then ['\\', 'n']
  else if c = '\r' then ['\\', 'r']
  else if c = '\t' then ['\\', 't']
  else if n < 0x20 then unit n
  else if asciiOnly ∧ 0x7E < n then
    if 0x10000 ≤ n then
      let v := n - 0x10000
      unit (0xD800 + v / 0x400) ++ unit (0xDC00 + v % 0x400)
    else unit n
  else [c]

/-- A text as a JSON string. -/
def jsonString (asciiOnly : Bool) (s : String) : String :=
  String.ofList ('"' :: s.toList.flatMap (jsonEscape asciiOnly) ++ ['"'])

/-- The error of writing a NaN or an infinity when they are refused. The one-line form names
no value; the indented form names it. -/
def jsonRangeFault (layout : JsonLayout) (shown : String) : Raised :=
  ⟨"ValueError", "Out of range float values are not JSON compliant" ++
    (if layout.indent.isSome then ": " ++ shown else "")⟩

/-- A float as JSON text. -/
def jsonFloat (h : Heap) (layout : JsonLayout) (x : Float) : Except Raised String := do
  let special := if x.isNaN then some ("NaN", "nan")
    else if x.isInf then some (if x < 0 then ("-Infinity", "-inf") else ("Infinity", "inf"))
    else none
  match special with
  | some (text, shown) =>
    if layout.allowNaN then pure text else throw (jsonRangeFault layout shown)
  | none => (Value.float x).repr h

/-- An object key as text, or `none` for a key left out. -/
def jsonKey (h : Heap) (layout : JsonLayout) (k : Value) : Except Raised (Option String) :=
  match k with
  | .str s => pure (some s)
  | .float x | .double x => do pure (some (← jsonFloat h layout x))
  | .bool b => pure (some (if b then "true" else "false"))
  | .none => pure (some "null")
  | .int _ => do pure (some (← k.repr h))
  | _ =>
    if layout.skipKeys then pure none
    else throw ⟨"TypeError", "keys must be str, int, float, bool or None, not " ++ k.typeName h⟩

/-- The items of an array and the address that holds them, for a list or tuple. -/
def arrayItems? (h : Heap) : Value → Option (List Value × Option Nat)
  | .tuple xs | .named _ _ xs => some (xs, none)
  | .ref a =>
    match h.get a with
    | .list xs => some (xs, some a)
    | _ => none
  | _ => none

/-- The entries of an object, for a map of any kind. -/
def objectEntries? (h : Heap) : Value → Option (List (Value × Value) × Nat)
  | .ref a =>
    match h.get a with
    | .dict _ es _ => some (es, a)
    | _ => none
  | _ => none

/-- The error of meeting a container inside itself. -/
def circularFault : Raised := ⟨"ValueError", "Circular reference detected"⟩

/-- Marks a container as being written: the addresses of those being written, with its own,
or the circular-reference error if it is among them already. -/
def enterContainer (layout : JsonLayout) (around : List Nat) (a : Option Nat) :
    Except Raised (List Nat) :=
  match a with
  | some a =>
    if !layout.checkCircular then pure around
    else if around.contains a then throw circularFault
    else pure (a :: around)
  | none => pure around

/-- A container's parts joined: the items, each on its own line one level deeper when
indenting. -/
def joinLines (layout : JsonLayout) (level : Nat) (opening closing : String)
    (parts : List String) : String :=
  match layout.indent with
  | none => opening ++ String.intercalate layout.itemSeparator parts ++ closing
  | some step =>
    let inner := "\n" ++ String.join (List.replicate (level + 1) step)
    let outer := "\n" ++ String.join (List.replicate level step)
    opening ++ inner ++ String.intercalate (layout.itemSeparator ++ inner) parts ++ outer ++
      closing

/-- A value written as JSON at an indentation level, at most `fuel` containers deep; `around`
holds the addresses of the containers being written around it. -/
def writeJson (call : Value → List Value → Act Value) (layout : JsonLayout) :
    Nat → List Nat → Nat → Value → Act String
  | 0, _, _, _ => throw (nestingFault " while encoding a JSON object")
  | fuel + 1, around, level, v => do
    let h ← get
    match v with
    | .str s => pure (jsonString layout.asciiOnly s)
    | .none => pure "null"
    | .bool b => pure (if b then "true" else "false")
    | .int _ => reading fun h => v.repr h
    | .float x | .double x => reading fun h => jsonFloat h layout x
    | _ =>
      match arrayItems? h v with
      | some (xs, a) =>
        if xs.isEmpty then pure "[]"
        else do
          let around ← reading fun _ => enterContainer layout around a
          let parts ← xs.mapM (writeJson call layout fuel around (level + 1))
          pure (joinLines layout level "[" "]" parts)
      | none =>
        match objectEntries? h v with
        | some (es, a) =>
          if es.isEmpty then pure "\x7b\x7d"
          else do
            let around ← reading fun _ => enterContainer layout around (some a)
            let es ← if layout.sortKeys then
                reading fun h => sortBy (fun x y => x.1.compare h .lt y.1) es
              else pure es
            let parts ← es.filterMapM fun (k, x) => do
              match ← reading fun h => jsonKey h layout k with
              | none => pure none
              | some key => do
                let text ← writeJson call layout fuel around (level + 1) x
                pure (some (jsonString layout.asciiOnly key ++ layout.keySeparator ++ text))
            pure (joinLines layout level "\x7b" "\x7d" parts)
        | none =>
          let address := match v with
            | .ref a => some a
            | _ => none
          let around ← reading fun _ => enterContainer layout around address
          match layout.fallback with
          | some f => do writeJson call layout fuel around level (← call f [v])
          | none =>
            throw ⟨"TypeError", "Object of type " ++ v.typeName h ++ " is not JSON serializable"⟩

/-- The parameters of the JSON writer, after the value. -/
def jsonOptionNames : List String :=
  ["skipkeys", "ensure_ascii", "check_circular", "allow_nan", "cls", "indent", "separators",
    "default", "sort_keys"]

/-- The text of one level of indentation an indent argument gives: a text as it is, a number
as that many blanks. -/
def indentText (h : Heap) (v : Value) : Except Raised String :=
  match v with
  | .str s => pure s
  | .int n => pure (String.ofList (List.replicate n.toNat ' '))
  | .bool b => pure (if b then " " else "")
  | _ => throw ⟨"TypeError", "can't multiply sequence by non-int of type '" ++ v.typeName h ++ "'"⟩

/-- A separator of the one-line form, which must be a text: `position` is its place among the
encoder's arguments. -/
def separatorText (h : Heap) (position : Nat) (v : Value) : Except Raised String :=
  match v with
  | .str s => pure s
  | _ => throw ⟨"TypeError", "make_encoder() argument " ++ toString position ++ " must be str, not " ++
      v.typeName h⟩

/-- `json.dumps`: a value written as JSON text under the options given. -/
def jsonDumps (call : Value → List Value → Act Value) (args : List Value)
    (kwargs : List (String × Value)) : Act Value := do
  let known := kwargs.filter fun (k, _) => jsonOptionNames.contains k
  let params := required "obj" :: jsonOptionNames.map keyword
  let bound ← reading fun _ => bindParameters "dumps()" params args known
  if let some (k, _) := kwargs.find? fun (k, _) => !jsonOptionNames.contains k then
    throw ⟨"TypeError", "JSONEncoder.__init__() got an unexpected keyword argument '" ++ k ++ "'"⟩
  match bound with
  | [some obj, skip, ascii, circular, nan, _, indent, separators, fallback, sortKeys] => do
    let flag (o : Option Value) (default : Bool) : Act Bool :=
      match o with
      | some x => x.truthy
      | none => pure default
    let indent := match indent with
      | some .none | none => none
      | some x => some x
    let separators := match separators with
      | some .none | none => none
      | some x => some x
    let (item, key) ← match separators with
      | some s => s.pair
      | none => pure (.str (if indent.isSome then "," else ", "), .str ": ")
    let layout : JsonLayout := {
      asciiOnly := ← flag ascii true
      allowNaN := ← flag nan true
      sortKeys := ← flag sortKeys false
      skipKeys := ← flag skip false
      checkCircular := ← flag circular true
      indent := none
      itemSeparator := ""
      keySeparator := ""
      fallback := match fallback with
        | some .none | none => none
        | some f => some f }
    if let .str s := obj then return .str (jsonString layout.asciiOnly s)
    let layout ← match indent with
      | none => do
        let key ← reading fun h => separatorText h 5 key
        let item ← reading fun h => separatorText h 6 item
        pure { layout with itemSeparator := item, keySeparator := key }
      | some i => do
        let step ← reading fun h => indentText h i
        let item ← reading fun h => separatorText h 6 item
        let key ← reading fun h => separatorText h 5 key
        pure { layout with indent := some step, itemSeparator := item, keySeparator := key }
    pure (.str (← writeJson call layout nestingLimit [] 0 obj))
  | _ => pure .none

/-- A function of the JSON module that writes text, applied, or `none` for a name it does not
have. -/
def jsonFunction (call : Value → List Value → Act Value) (m name : String) (args : List Value)
    (kwargs : List (String × Value)) : Option (Act Value) :=
  if m = "json" ∧ name = "dumps" then some (jsonDumps call args kwargs) else none

end ItemRecommender.Object
