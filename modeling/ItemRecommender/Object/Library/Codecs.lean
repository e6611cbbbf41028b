import ItemRecommender.Object.Library.Arguments
import ItemRecommender.Text.ByteEscape
import ItemRecommender.Text.CharacterNames
/-! # Codecs and their error handling

    A codec turns text into bytes and back: UTF-8, Latin-1 (one byte per code point below
    256) or ASCII (below 128). What it cannot write or read is handled as the caller names:

    * `strict` raises the error;
    * `ignore` drops what cannot be read or written;
    * `replace` reads U+FFFD for each refused run of bytes, and writes `?` for each character;
    * `surrogateescape` reads each refused byte as the surrogate `0xDC00` plus it, and writes
      such surrogates back as their bytes;
    * `surrogatepass` reads and writes surrogates in UTF-8 as three bytes each;
    * `backslashreplace` writes `\xHH`, `\uHHHH` or `\UHHHHHHHH`, and reads `\xHH`;
    * `xmlcharrefreplace` and `namereplace` only write: `&#N;`, and `\N{NAME}` (the
      backslash escape for a character without a name).

    A decoder refuses a byte that starts no character, and the bytes of a character that breaks
    off; when the input is not final, a character cut off by the end is left unread. An encoder
    refuses runs of characters the codec cannot write: surrogates for UTF-8, code points at or
    above 256 or 128 for the others. A refused run in a handler that cannot deal with it
    raises the error for the run from its first character it cannot deal with. -/

namespace ItemRecommender.Object

open ItemRecommender.Text

/-- How a codec handles what it cannot read or write. -/
inductive ErrorHandling where
  | strict
  | ignore
  | replace
  | escapeBytes
  | passSurrogates
  | backslashes
  | characterReferences
  | names
  | unknown (name : String)
  deriving DecidableEq, Repr

/-- The handling a name stands for. -/
def ErrorHandling.ofName : String → ErrorHandling
  | "strict" => .strict
  | "ignore" => .ignore
  | "replace" => .replace
  | "surrogateescape" => .escapeBytes
  | "surrogatepass" => .passSurrogates
  | "backslashreplace" => .backslashes
  | "xmlcharrefreplace" => .characterReferences
  | "namereplace" => .names
  | n => .unknown n

/-- The error of a handling name that names none. -/
def unknownHandling (name : String) : Raised :=
  ⟨"LookupError", "unknown error handler name " ++ quote name⟩

/-- A code point written after a backslash: `\xHH`, `\uHHHH` or `\UHHHHHHHH`. -/
def backslashEscape (n : Nat) : List Char :=
  if n < 0x100 then '\\' :: 'x' :: Text.hexDigits 2 n
  else if n < 0x10000 then '\\' :: 'u' :: Text.hexDigits 4 n
  else '\\' :: 'U' :: Text.hexDigits 8 n

/-- The escape of a character by its name between braces after `\N`, or its backslash escape
when it has no name. -/
def nameEscape (n : Nat) : List Char :=
  match characterName? n with
  | some name => ['\\', 'N', '\x7b'] ++ name.toList ++ ['\x7d']
  | none => backslashEscape n

/-- Whether a codec cannot write a character. -/
def Encoding.refuses (e : Encoding) (c : Char) : Bool :=
  match e with
  | .utf8 => isStandIn c
  | .latin1 => 0x100 ≤ codePoint c
  | .ascii => 0x80 ≤ codePoint c

/-- Why a codec cannot write a character. -/
def Encoding.refusal : Encoding → String
  | .utf8 => "surrogates not allowed"
  | .latin1 => "ordinal not in range(256)"
  | .ascii => "ordinal not in range(128)"

/-- The bytes of a character a codec can write. -/
def Encoding.bytesOf (e : Encoding) (c : Char) : List UInt8 :=
  match e with
  | .utf8 => (String.singleton c).toUTF8.toList
  | _ => [c.toNat.toUInt8]

/-- The error of a codec that cannot write the characters from `first` to `last` of a text. -/
def encodeFault (e : Encoding) (cs : List Char) (first last : Nat) : Raised :=
  let what := if first = last then
      "character '" ++ escapedChar (cs.getD first ' ') ++ "' in position " ++ toString first
    else "characters in position " ++ toString first ++ "-" ++ toString last
  ⟨"UnicodeEncodeError", "'" ++ e.codec ++ "' codec can't encode " ++ what ++ ": " ++ e.refusal⟩

/-- The bytes written for a refused run of characters that starts at position `start` of the
text `cs`. -/
def encodeRun (e : Encoding) (handling : ErrorHandling) (cs : List Char) (start : Nat)
    (run : List Char) : Except Raised (List UInt8) :=
  let last := start + run.length - 1
  let ascii (s : List Char) : List UInt8 := s.map fun c => c.toNat.toUInt8
  match handling with
  | .strict => throw (encodeFault e cs start last)
  | .ignore => pure []
  | .replace => pure (run.map fun _ => 0x3F)
  | .backslashes => pure (ascii (run.flatMap fun c => backslashEscape (codePoint c)))
  | .names => pure (ascii (run.flatMap fun c => nameEscape (codePoint c)))
  | .characterReferences =>
    pure (ascii (run.flatMap fun c => '&' :: '#' :: (toString (codePoint c)).toList ++ [';']))
  | .escapeBytes =>
    let kept := run.takeWhile keepsByte
    if kept.length = run.length then pure (kept.map fun c => (codePoint c - 0xDC00).toUInt8)
    else throw (encodeFault e cs (start + kept.length) last)
  | .passSurrogates =>
    if e = .utf8 then
      pure (run.flatMap fun c =>
        let n := codePoint c
        [0xED, (0x80 + (n / 64) % 64).toUInt8, (0x80 + n % 64).toUInt8])
    else throw (encodeFault e cs start last)
  | .unknown n => throw (unknownHandling n)

/-- The bytes of a text written by a codec with a handling, from position `i` on. -/
def encodeFrom (e : Encoding) (handling : ErrorHandling) (cs : List Char) :
    Nat → Nat → List Char → Except Raised (List UInt8)
  | 0, _, _ => pure []
  | _ + 1, _, [] => pure []
  | fuel + 1, i, c :: rest =>
    if e.refuses c then do
      let run := (c :: rest).takeWhile e.refuses
      let written ← encodeRun e handling cs i run
      pure (written ++ (← encodeFrom e handling cs fuel (i + run.length) ((c :: rest).drop run.length)))
    else do pure (e.bytesOf c ++ (← encodeFrom e handling cs fuel (i + 1) rest))

/-- The bytes of a text written by a codec with a handling. -/
def Encoding.encodeWith (e : Encoding) (handling : ErrorHandling) (s : String) :
    Except Raised (List UInt8) :=
  let cs := s.toList
  encodeFrom e handling cs (cs.length + 1) 0 cs

/-- The first byte a codec cannot read in bytes, with the length of the refused run and the
error's message, positions counted from `pos`; or `none` when it reads them all. A run cut off
by the end is marked. -/
structure DecodeRefusal where
  position : Nat
  length : Nat
  cutOff : Bool
  message : String

/-- The first refusal of a codec reading bytes that start at position `pos`. -/
def Encoding.refusalIn (e : Encoding) (pos : Nat) (bytes : List UInt8) : Option DecodeRefusal :=
  match e with
  | .utf8 =>
    match decodeUtf8 bytes with
    | .ok _ => none
    | .error err => some ⟨err.position, max err.length 1, err.fault = .unexpectedEnd,
        { err with position := pos + err.position }.message⟩
  | .latin1 => none
  | .ascii =>
    match bytes.findIdx? (· ≥ 0x80) with
    | some i => some ⟨i, 1, false, "'ascii' codec can't decode byte 0x" ++
        String.ofList (Text.hexDigits 2 (bytes.getD i 0).toNat) ++ " in position " ++ toString (pos + i) ++
        ": ordinal not in range(128)"⟩
    | none => none

/-- The characters of bytes a codec reads without refusal. -/
def Encoding.plainText (e : Encoding) (bytes : List UInt8) : List Char :=
  match e with
  | .utf8 => (decodeUtf8 bytes).toOption.getD []
  | _ => bytes.map fun b => Char.ofNat b.toNat

/-- The characters of bytes read by a codec with a handling, from position `pos`, and the
number of bytes read. -/
def readWithHandling (e : Encoding) (handling : ErrorHandling) (final : Bool) :
    Nat → Nat → List UInt8 → Except Raised (List Char × Nat)
  | 0, pos, _ => pure ([], pos)
  | fuel + 1, pos, bytes =>
    match e.refusalIn pos bytes with
    | none => pure (e.plainText bytes, pos + bytes.length)
    | some r =>
      let good := e.plainText (bytes.take r.position)
      if !final && r.cutOff then pure (good, pos + r.position)
      else
        let fault : Raised := ⟨"UnicodeDecodeError", r.message⟩
        let run := (bytes.drop r.position).take r.length
        let resume (read : List Char) (skip : Nat) : Except Raised (List Char × Nat) := do
          let (more, n) ← readWithHandling e handling final fuel (pos + r.position + skip)
            (bytes.drop (r.position + skip))
          pure (good ++ read ++ more, n)
        match handling with
        | .strict => throw fault
        | .ignore => resume [] r.length
        | .replace => resume ['�'] r.length
        | .escapeBytes => resume (run.map fun b => ofCodePoint (0xDC00 + b.toNat)) r.length
        | .backslashes => resume (run.flatMap fun b => backslashEscape b.toNat) r.length
        | .passSurrogates =>
          match bytes.drop r.position with
          | a :: b :: c :: _ =>
            if e = .utf8 && encodesSurrogate a b c then
              resume [ofCodePoint ((a.toNat % 0x10) * 0x1000 + (b.toNat % 64) * 64 + c.toNat % 64)] 3
            else throw fault
          | _ => throw fault
        | .characterReferences | .names =>
          throw ⟨"TypeError", "don't know how to handle UnicodeDecodeError in error callback"⟩
        | .unknown n => throw (unknownHandling n)

/-- The text of bytes read by a codec with a handling, and the number of bytes read. -/
def Encoding.decodeWith (e : Encoding) (handling : ErrorHandling) (final : Bool)
    (bytes : List UInt8) : Except Raised (String × Nat) := do
  let (cs, n) ← readWithHandling e handling final (bytes.length + 1) 0 bytes
  pure (String.ofList cs, n)

/-- The handling an argument names: `None` is strict. -/
def handlingArgument (function : String) (position : Nat) (h : Heap) (v : Option Value) :
    Except Raised ErrorHandling :=
  match v with
  | none | some .none => pure .strict
  | some (.str s) => pure (ErrorHandling.ofName s)
  | some x => throw ⟨"TypeError", function ++ "() argument " ++ toString position ++
      " must be str or None, not " ++ x.typeName h⟩

/-- The bytes of a bytes-like argument. -/
def bytesArgument (h : Heap) (v : Value) : Except Raised (List UInt8) :=
  match bytesOf? h v with
  | some bs => pure bs
  | none => throw ⟨"TypeError", "a bytes-like object is required, not " ++ quote (v.typeName h)⟩

/-- The codec of a codec function's name, and whether it decodes. -/
def codecFunction? (name : String) : Option (Encoding × Bool) :=
  match name with
  | "utf_8_decode" => some (.utf8, true)
  | "utf_8_encode" => some (.utf8, false)
  | "latin_1_decode" => some (.latin1, true)
  | "latin_1_encode" => some (.latin1, false)
  | "ascii_decode" => some (.ascii, true)
  | "ascii_encode" => some (.ascii, false)
  | _ => none

/-- An error of a codec, as the generic functions report it: type and lookup errors wrapped
with the codec's name as given. -/
def wrapCodecFault (decoding : Bool) (given : String) (e : Raised) : Raised :=
  if e.kind = "TypeError" ∨ e.kind = "LookupError" then
    ⟨e.kind, (if decoding then "decoding" else "encoding") ++ " with " ++ quote given ++
      " codec failed (" ++ e.kind ++ ": " ++ e.message.shown ++ ")"⟩
  else e

/-- A text or bytes turned by a codec function of a codec. -/
def applyCodec (h : Heap) (e : Encoding) (decoding : Bool) (x : Value) (handling : ErrorHandling)
    (final : Bool) : Except Raised (Value × Nat) := do
  if decoding then
    let bs ← bytesArgument h x
    let (s, n) ← e.decodeWith handling final bs
    pure (.str s, n)
  else
    match x with
    | .str s => do pure (.bytes (← e.encodeWith handling s), s.length)
    | _ =>
      let fn := match e with
        | .utf8 => "utf_8_encode"
        | .latin1 => "latin_1_encode"
        | .ascii => "ascii_encode"
      throw ⟨"TypeError", fn ++ "() argument 1 must be str, not " ++ x.typeName h⟩

/-- A function of the codec modules, applied, or `none` for a name they do not have. -/
def codecFunction (m name : String) (args : List Value) (kwargs : List (String × Value)) :
    Option (Act Value) :=
  if m = "_codecs" ∨ m = "codecs" then
    match codecFunction? name with
    | some (e, decoding) => some do
      if !kwargs.isEmpty then throw (keywordsRefused name)
      let most := if decoding ∧ e = .utf8 then 3 else 2
      if let some f := countFault name 1 most args.length then throw f
      let h ← get
      let x := args.getD 0 .none
      -- the first argument is checked before the second
      if decoding then let _ ← reading fun h => bytesArgument h x
      else if !(x matches .str _) then
        let _ ← reading fun h => applyCodec h e false x .strict true
      let handling ← reading fun h => handlingArgument name 2 h args[1]?
      let final ← match (args[2]? : Option Value) with
        | none => pure false
        | some (.bool b) => pure b
        | some (.int i) => pure (i != 0)
        | some x => throw ⟨"TypeError", "'" ++ x.typeName h ++
            "' object cannot be interpreted as an integer"⟩
      let final := final || !(decoding ∧ e = .utf8)
      let (v, n) ← reading fun h => applyCodec h e decoding x handling final
      pure (.tuple [v, .int n])
    | none =>
      if name = "encode" ∨ name = "decode" then some do
        let decoding := name = "decode"
        let bound ← reading fun _ => bindKeywords name
          [required "obj", optional "encoding", optional "errors"] args kwargs
        match bound with
        | [some x, enc, errors] =>
          let h ← get
          let given ← match enc with
            | none => pure "utf-8"
            | some (.str s) => pure s
            | some v => throw ⟨"TypeError", name ++ "() argument 'encoding' must be str, not " ++
                v.typeName h⟩
          let handling ← match errors with
            | none => pure ErrorHandling.strict
            | some (.str s) => pure (ErrorHandling.ofName s)
            | some v => throw ⟨"TypeError", name ++ "() argument 'errors' must be str, not " ++
                v.typeName h⟩
          match Encoding.ofName? given with
          | none => throw ⟨"LookupError", "unknown encoding: " ++ given⟩
          | some e =>
            match applyCodec h e decoding x handling true with
            | .ok (v, _) => pure v
            | .error f => throw (wrapCodecFault decoding given f)
        | _ => pure .none
      else none
  else none

end ItemRecommender.Object
