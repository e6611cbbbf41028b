import ItemRecommender.Object.Library.Codecs
import ItemRecommender.Json.Decode
import ItemRecommender.Text.WideUnits
/-! # Reading JSON text into values

    `json.loads` reads a document (`Json.readDocument`) into values: `null`, `true` and
    `false` as `None`, `True` and `False`, a string as a text, an integer literal as an integer,
    any other number as a float, an array as a new list and an object as a new map, a later
    member replacing an earlier one of the same name in its place.

    Its hooks replace these steps as they are met: `parse_int`, `parse_float` and
    `parse_constant` are called on the literal of an integer, of another number and of `NaN`,
    `Infinity` or `-Infinity`; `object_pairs_hook` on the list of an object's members as pairs,
    in place of the map; otherwise `object_hook` on the map. A number hook that is false counts
    as none given, while an object hook counts unless it is `None`. Without `strict` a string
    may hold control characters.

    A text that starts with a byte-order mark is refused. Bytes are read in the encoding their
    first bytes show: a mark of UTF-32, UTF-16 or UTF-8, else the pattern of zero bytes of
    UTF-16 or UTF-32 in either byte order, else UTF-8; surrogates pass through. A fault of the
    document is reported with its position, as `msg: line L column C (char P)`. -/

namespace ItemRecommender.Object

open ItemRecommender.Text ItemRecommender.Json

/-- The hooks of a reader of JSON text; `none` is the default step. -/
structure JsonHooks where
  objectHook : Option Value := none
  pairsHook : Option Value := none
  parseFloat : Option Value := none
  parseInt : Option Value := none
  parseConstant : Option Value := none

/-- The builder of values that calls the hooks given. -/
def jsonObjects (call : Value → List Value → Act Value) (hooks : JsonHooks) :
    JsonBuilder Act Value where
  null := pure .none
  bool b := pure (.bool b)
  number literal decimal :=
    match (if decimal then hooks.parseFloat else hooks.parseInt) with
    | some f => call f [.str literal]
    | none => reading fun _ => jsonNumber literal
  constant w :=
    match hooks.parseConstant with
    | some f => call f [.str w]
    | none => reading fun _ => jsonNumber w
  string t := pure (.str t)
  array xs := newList xs
  object members := do
    match hooks.pairsHook with
    | some f => call f [← newList (members.map fun (k, v) => .tuple [.str k, v])]
    | none =>
      let entries ← members.foldlM
        (fun acc (k, v) => reading fun h => putEntry h acc (.str k) v) []
      let map ← newDict entries
      match hooks.objectHook with
      | some f => call f [map]
      | none => pure map

/-- Text in UTF-16 or UTF-32 in a byte order, refused as the codec of that name refuses it. -/
def wideText (wide32 bigEndian : Bool) (skipped : Nat) (bytes : List UInt8) :
    Except Raised String :=
  let codec := (if wide32 then "utf-32-" else "utf-16-") ++ (if bigEndian then "be" else "le")
  let read := if wide32 then decodeUtf32From bigEndian skipped bytes
    else decodeUtf16From bigEndian skipped bytes
  match read with
  | .ok cs => pure (String.ofList cs)
  | .error e => throw ⟨"UnicodeDecodeError", e.message codec⟩

/-- UTF-8 text with surrogates let through. -/
def passingText (bytes : List UInt8) : Except Raised String :=
  match decodeUtf8Passing bytes with
  | .ok cs => pure (String.ofList cs)
  | .error e => throw ⟨"UnicodeDecodeError", e.message⟩

/-- The text of JSON bytes, in the encoding their first bytes show. -/
def jsonBytesText (bytes : List UInt8) : Except Raised String :=
  match bytes with
  | 0 :: 0 :: 0xFE :: 0xFF :: rest => wideText true true 4 rest
  | 0xFF :: 0xFE :: 0 :: 0 :: rest => wideText true false 4 rest
  | 0xFE :: 0xFF :: rest => wideText false true 2 rest
  | 0xFF :: 0xFE :: rest => wideText false false 2 rest
  | 0xEF :: 0xBB :: 0xBF :: rest => passingText rest
  | b0 :: b1 :: b2 :: b3 :: _ =>
    if b0 = 0 then wideText (b1 = 0) true 0 bytes
    else if b1 = 0 then wideText (b2 = 0 ∧ b3 = 0) false 0 bytes
    else passingText bytes
  | [b0, b1] =>
    if b0 = 0 then wideText false true 0 bytes
    else if b1 = 0 then wideText false false 0 bytes
    else passingText bytes
  | _ => passingText bytes

/-- The error of a fault of a document. -/
def decodeFault (s : Array Char) (stop : DecodeStop) : Raised :=
  ⟨"JSONDecodeError", stop.fault.report s stop.pos⟩

/-- The names of the keyword arguments a reader of JSON text takes besides its hooks. -/
def decoderOptionNames : List String :=
  ["object_hook", "parse_float", "parse_int", "parse_constant", "strict", "object_pairs_hook"]

/-- `json.loads`: the values a JSON document holds. -/
def jsonLoads (call : Value → List Value → Act Value) (args : List Value)
    (kwargs : List (String × Value)) : Act Value := do
  let names := ["cls", "object_hook", "parse_float", "parse_int", "parse_constant",
    "object_pairs_hook"]
  let known := kwargs.filter fun (k, _) => k = "s" ∨ names.contains k
  let bound ← reading fun _ =>
    bindParameters "loads()" (required "s" :: names.map keyword) args known
  match bound with
  | [some doc, _, objectHook, parseFloat, parseInt, parseConstant, pairsHook] => do
    let h ← get
    let text ← match doc with
      | .str t =>
        if t.toList.head? = some '\uFEFF' then
          throw (decodeFault t.toList.toArray ⟨.byteOrderMark, 0⟩)
        else pure t
      | .bytes bs => reading fun _ => jsonBytesText bs
      | .ref a =>
        match h.get a with
        | .bytearray bs => reading fun _ => jsonBytesText bs
        | _ => throw ⟨"TypeError", "the JSON object must be str, bytes or bytearray, not " ++
            doc.typeName h⟩
      | _ => throw ⟨"TypeError", "the JSON object must be str, bytes or bytearray, not " ++
          doc.typeName h⟩
    let extra := kwargs.filter fun (k, _) => !(k = "s" ∨ names.contains k)
    if let some (k, _) := extra.find? fun (k, _) => !decoderOptionNames.contains k then
      throw ⟨"TypeError", "JSONDecoder.__init__() got an unexpected keyword argument " ++
        quote k⟩
    let strict ← match extra.lookup "strict" with
      | some v => v.truthy
      | none => pure true
    let given (v : Option Value) : Option Value := match v with
      | some .none | none => none
      | some f => some f
    let unlessFalse (v : Option Value) : Act (Option Value) := do
      match v with
      | some f => if ← f.truthy then pure (some f) else pure none
      | none => pure none
    let hooks : JsonHooks := {
      objectHook := given objectHook
      pairsHook := given pairsHook
      parseFloat := ← unlessFalse parseFloat
      parseInt := ← unlessFalse parseInt
      parseConstant := ← unlessFalse parseConstant }
    let s := text.toList.toArray
    match ← (readDocument (jsonObjects call hooks) strict s).run with
    | .ok v => pure v
    | .error stop => throw (decodeFault s stop)
  | _ => pure .none

/-- A function of the JSON module that reads text, or `none` for another function. -/
def jsonReadingFunction (call : Value → List Value → Act Value) (m name : String)
    (args : List Value) (kwargs : List (String × Value)) : Option (Act Value) :=
  if m = "json" ∧ name = "loads" then some (jsonLoads call args kwargs) else none

end ItemRecommender.Object
