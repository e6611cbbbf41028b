import ItemRecommender.Object.Library.Codecs
import ItemRecommender.Binary.Base85
import ItemRecommender.Binary.Checksum
import ItemRecommender.Binary.QuotedPrintable
import ItemRecommender.Binary.Uuencode
/-! # Binary data as text

    The functions that write bytes as text and read them back (`Binary`): Base64, Base32,
    Base16 and hexadecimal, Ascii85 and Base85, quoted-printable and uuencoded lines, and the
    checksums CRC-32, Adler-32 and CRC-CCITT.

    The functions that write take bytes-like arguments only. Those that read also take an ASCII
    text, read as its bytes; a text with any other character is refused with a `ValueError`.
    Each family words the refusal of other values its own way. A malformed text raises the
    codec module's `Error`, except in base 85, which raises a `ValueError`.

    Base64 may use two other digits for `+` and `/`, which must be exactly two: the check
    shows the value given. Base32 may map the digits `0` and `1` to letters, and both Base32 and
    Base16 may fold lowercase digits. A checksum continues from a start value given as an
    integer, of which only the low bits count. -/

namespace ItemRecommender.Object

open ItemRecommender.Text ItemRecommender.Binary

/-- The bytes of an argument read through a buffer view. -/
def viewedBytes (h : Heap) (v : Value) : Except Raised (List UInt8) :=
  match bytesOf? h v with
  | some bs => pure bs
  | none => throw ⟨"TypeError", "memoryview: a bytes-like object is required, not " ++
      quote (v.typeName h)⟩

/-- The bytes of an ASCII text or of a bytes-like argument; `refusal` words the error of any
other value, before its type's name. -/
def asciiData (refusal : String) (h : Heap) (v : Value) : Except Raised (List UInt8) :=
  match v with
  | .str s =>
    if s.toList.all (·.toNat < 128) then pure (asciiBytes s)
    else throw ⟨"ValueError", "string argument should contain only ASCII characters"⟩
  | _ =>
    match bytesOf? h v with
    | some bs => pure bs
    | none => throw ⟨"TypeError", refusal ++ quote (v.typeName h)⟩

/-- The bytes of a text the encoding module reads. -/
def encodedText (h : Heap) (v : Value) : Except Raised (List UInt8) :=
  asciiData "argument should be a bytes-like object or ASCII string, not " h v

/-- The bytes of a text the codec module reads. -/
def codedText (h : Heap) (v : Value) : Except Raised (List UInt8) :=
  asciiData "argument should be bytes, buffer or ASCII string, not " h v

/-- The bytes of an argument the line-wise Base64 functions take. -/
def lineData (h : Heap) (v : Value) : Except Raised (List UInt8) :=
  match bytesOf? h v with
  | some bs => pure bs
  | none => throw ⟨"TypeError", "expected bytes-like object, not " ++ v.typeName h⟩

/-- The result of reading a text, its fault raised as an error of `kind`. -/
def readOrRaise {ε α : Type} (kind : String) (message : ε → String) (r : Except ε α) : Act α :=
  match r with
  | .ok a => pure a
  | .error e => throw ⟨kind, message e⟩

/-- Checks that a value has `size` elements, as an assertion that shows `shown` when it fails. -/
def checkSize (v : Value) (size : Nat) (shown : Value) : Act Unit := do
  if (← v.length) ≠ size then throw ⟨"AssertionError", ← reading fun h => shown.repr h⟩

/-- The value an optional argument was given, when it is not `None`. -/
def given : Option Value → Option Value
  | some .none | none => none
  | some v => some v

/-- Bytes with some bytes replaced, the last pair for a byte counting. -/
def replaceBytes (pairs : List (UInt8 × UInt8)) (bytes : List UInt8) : List UInt8 :=
  bytes.map fun b => (pairs.reverse.lookup b).getD b

/-- The two replacement digits of Base64, read from an argument by `read`. -/
def digitPair (read : Heap → Value → Except Raised (List UInt8)) (v : Value) :
    Act (UInt8 × UInt8) := do
  let bytes ← reading fun h => read h v
  let shown := match v with
    | .str _ => Value.bytes bytes
    | _ => v
  checkSize v 2 shown
  match bytes with
  | [a, b] => pure (a, b)
  | _ => pure (43, 47)

/-- Base64 of bytes, with other digits for `+` and `/` when given. -/
def base64Call (callee : String) (args : List Value) (kwargs : List (String × Value))
    (alternative : Bool) : Act Value := do
  let params := if alternative then [required "s", optional "altchars"] else [required "s"]
  match ← reading fun _ => bindParameters callee params args kwargs with
  | some s :: rest => do
    let encoded := base64Encode (← reading fun h => bytesArgument h s)
    match given rest.head?.join with
    | none => pure (.bytes encoded)
    | some alt => do
      checkSize alt 2 alt
      let (a, b) ← digitPair bytesArgument alt
      pure (.bytes (replaceBytes [(43, a), (47, b)] encoded))
  | _ => pure .none

/-- The bytes of a Base64 text, with other digits for `+` and `/` when given, read strictly
when `validate` is true. -/
def base64Read (text : Value) (alternative validate : Option Value) : Act Value := do
  let bytes ← reading fun h => encodedText h text
  let bytes ← match given alternative with
    | none => pure bytes
    | some alt => do
      let (a, b) ← digitPair encodedText alt
      pure (replaceBytes [(a, 43), (b, 47)] bytes)
  let strict ← match validate with
    | some v => v.truthy
    | none => pure false
  pure (.bytes (← readOrRaise "Error" Base64Fault.message (base64Decode strict bytes)))

/-- The bytes of a Base32 text, its lowercase digits folded when `casefold` is true, and the
digits `0` and `1` read as `O` and the letter `mapped` names when it is given. -/
def base32Read (alphabet : List Char) (text : Value) (casefold mapped : Option Value) :
    Act Value := do
  let bytes ← reading fun h => encodedText h text
  if bytes.length % 8 ≠ 0 then throw ⟨"Error", "Incorrect padding"⟩
  let one ← match given mapped with
    | none => pure none
    | some m => do
      let letters ← reading fun h => encodedText h m
      let shown := match m with
        | .str _ => Value.bytes letters
        | _ => m
      checkSize m 1 shown
      pure letters.head?
  let fold ← match casefold with
    | some v => v.truthy
    | none => pure false
  pure (.bytes (← readOrRaise "Error" Base32Fault.message
    (base32Decode alphabet fold one bytes)))

/-- A function of one argument written in the language: `f` gets the argument. -/
def ofText (callee param : String) (args : List Value) (kwargs : List (String × Value))
    (f : Value → Act Value) : Act Value := do
  match ← reading fun _ => bindParameters callee [required param] args kwargs with
  | [some v] => f v
  | _ => pure .none

/-- A function of the encoding module applied, or `none` for another name. -/
def encodingFunction (name : String) (args : List Value) (kwargs : List (String × Value)) :
    Option (Act Value) :=
  let callee := name ++ "()"
  let bind (params : List Parameter) : Act (List (Option Value)) :=
    reading fun _ => bindParameters callee params args kwargs
  match name with
  | "b64encode" => some (base64Call callee args kwargs true)
  | "standard_b64encode" => some (base64Call callee args kwargs false)
  | "urlsafe_b64encode" => some do
    let encoded ← base64Call callee args kwargs false
    match encoded with
    | .bytes bs => pure (.bytes (replaceBytes [(43, 45), (47, 95)] bs))
    | v => pure v
  | "b64decode" => some do
    match ← bind [required "s", optional "altchars", optional "validate"] with
    | [some s, alt, validate] => base64Read s alt validate
    | _ => pure .none
  | "standard_b64decode" => some (ofText callee "s" args kwargs fun s => base64Read s none none)
  | "urlsafe_b64decode" => some (ofText callee "s" args kwargs fun s => do
      let bytes ← reading fun h => encodedText h s
      base64Read (.bytes (replaceBytes [(45, 43), (95, 47)] bytes)) none none)
  | "b32encode" => some (ofText callee "s" args kwargs fun s => do
      pure (.bytes (base32Encode base32Alphabet (← reading fun h => viewedBytes h s))))
  | "b32hexencode" => some (ofText callee "s" args kwargs fun s => do
      pure (.bytes (base32Encode base32HexAlphabet (← reading fun h => viewedBytes h s))))
  | "b32decode" => some do
    match ← bind [required "s", optional "casefold", optional "map01"] with
    | [some s, casefold, mapped] => base32Read base32Alphabet s casefold mapped
    | _ => pure .none
  | "b32hexdecode" => some do
    match ← bind [required "s", optional "casefold"] with
    | [some s, casefold] => base32Read base32HexAlphabet s casefold none
    | _ => pure .none
  | "b16encode" => some (ofText callee "s" args kwargs fun s => do
      pure (.bytes (hexEncode true (← reading fun h => bytesArgument h s))))
  | "b16decode" => some do
    match ← bind [required "s", optional "casefold"] with
    | [some s, casefold] => do
      let bytes ← reading fun h => encodedText h s
      let fold ← match casefold with
        | some v => v.truthy
        | none => pure false
      pure (.bytes (← readOrRaise "Error" HexFault.message (base16Decode fold bytes)))
    | _ => pure .none
  | "a85encode" => some do
    match ← bind [required "b", keyword "foldspaces", keyword "wrapcol", keyword "pad",
        keyword "adobe"] with
    | some b :: _ => pure (.bytes (ascii85Encode (← reading fun h => viewedBytes h b)))
    | _ => pure .none
  | "a85decode" => some do
    match ← bind [required "b", keyword "foldspaces", keyword "adobe", keyword "ignorechars"] with
    | some b :: _ => do
      let bytes ← reading fun h => encodedText h b
      pure (.bytes (← readOrRaise "ValueError" Base85Fault.message (ascii85Decode bytes)))
    | _ => pure .none
  | "b85encode" => some do
    match ← bind [required "b", optional "pad"] with
    | [some b, pad] => do
      let bytes ← reading fun h => viewedBytes h b
      let pad ← match pad with
        | some v => v.truthy
        | none => pure false
      pure (.bytes (base85Encode pad bytes))
    | _ => pure .none
  | "b85decode" => some (ofText callee "b" args kwargs fun b => do
      let bytes ← reading fun h => encodedText h b
      pure (.bytes (← readOrRaise "ValueError" Base85Fault.message (base85Decode bytes))))
  | "encodebytes" => some (ofText callee "s" args kwargs fun s => do
      pure (.bytes (base64Lines (← reading fun h => lineData h s))))
  | "decodebytes" => some (ofText callee "s" args kwargs fun s => do
      let bytes ← reading fun h => lineData h s
      pure (.bytes (← readOrRaise "Error" Base64Fault.message (base64Decode false bytes))))
  | "encode" | "decode" => some do
    match ← bind [required "input", required "output"] with
    | [some input, _] => do
      let h ← get
      throw ⟨"AttributeError", quote (input.typeName h) ++ " object has no attribute " ++
        quote (if name = "encode" then "read" else "readline")⟩
    | _ => pure .none
  | _ => none

/-- The start value of a checksum: an integer, of which the low `bits` count. -/
def checksumStart (v : Value) (bits : Nat) : Act Nat := do
  let i ← reading fun h => asIndex h v
  pure (Int.emod i (Int.ofNat (Nat.pow 2 bits))).toNat

/-- A checksum of bytes from a start value: the bytes, then the start if given. -/
def checksumCall (name : String) (lo : Nat) (args : List Value) (kwargs : List (String × Value))
    (fallback : Nat) (sum : Nat → List UInt8 → Nat) : Act Value := do
  if !kwargs.isEmpty then throw (keywordsRefused name)
  if let some e := countFault name lo 2 args.length then throw e
  match args with
  | data :: rest => do
    let bytes ← reading fun h => bytesArgument h data
    let start ← match rest with
      | v :: _ => checksumStart v 32
      | [] => pure fallback
    pure (.int (sum start bytes))
  | [] => pure .none

/-- The separator of a hexadecimal text: one character below 256, or one byte. -/
def separatorByte (v : Value) : Act UInt8 := do
  if (← v.length) ≠ 1 then throw ⟨"ValueError", "sep must be length 1."⟩
  match v with
  | .str s =>
    match s.toList with
    | [c] =>
      if c.toNat < 256 then pure (byteOf c) else throw ⟨"ValueError", "sep must be ASCII."⟩
    | _ => pure 0
  | .bytes [b] => pure b
  | _ => throw ⟨"TypeError", "sep must be str or bytes."⟩

/-- The bound, in magnitude, of the integers the codec module takes as counts and flags. -/
def countBound : Int := Int.ofNat (Nat.pow 2 31)

/-- An integer argument of the codec module, which must fit its bound. -/
def smallInteger (v : Value) : Act Int := do
  let i ← reading fun h => asIndex h v
  if i < -countBound ∨ countBound ≤ i then
    throw ⟨"OverflowError", "Python int too large to convert to C int"⟩
  pure i

/-- A flag of the codec module given as an integer, or its default. -/
def integerFlag (v : Option Value) (fallback : Bool) : Act Bool := do
  match v with
  | some v => pure ((← smallInteger v) ≠ 0)
  | none => pure fallback

/-- A function of the codec module applied, or `none` for another name. -/
def codecModuleFunction (name : String) (args : List Value) (kwargs : List (String × Value)) :
    Option (Act Value) :=
  match name with
  | "b2a_base64" => some do
    match ← reading fun _ => bindPositionalFirst name 1
        [required "data", keyword "newline"] args kwargs with
    | [some data, newline] => do
      let bytes ← reading fun h => bytesArgument h data
      let newline ← match newline with
        | some v => v.truthy
        | none => pure true
      pure (.bytes (base64Encode bytes ++ (if newline then [10] else [])))
    | _ => pure .none
  | "a2b_base64" => some do
    match ← reading fun _ => bindPositionalFirst name 1
        [required "data", keyword "strict_mode"] args kwargs with
    | [some data, strict] => do
      let bytes ← reading fun h => codedText h data
      let strict ← match strict with
        | some v => v.truthy
        | none => pure false
      pure (.bytes (← readOrRaise "Error" Base64Fault.message (base64Decode strict bytes)))
    | _ => pure .none
  | "hexlify" | "b2a_hex" => some do
    match ← reading fun _ => bindKeywords name
        [required "data", optional "sep", optional "bytes_per_sep"] args kwargs with
    | [some data, sep, group] => do
      let bytes ← reading fun h => bytesArgument h data
      let group ← match group with
        | some v => smallInteger v
        | none => pure 1
      match sep with
      | some s => pure (.bytes (hexGrouped bytes (← separatorByte s) group))
      | none => pure (.bytes (hexEncode false bytes))
    | _ => pure .none
  | "unhexlify" | "a2b_hex" => some do
    if !kwargs.isEmpty then throw (keywordsRefused ("binascii." ++ name))
    match args with
    | [x] => do
      let bytes ← reading fun h => codedText h x
      pure (.bytes (← readOrRaise "Error" HexFault.message (hexDecode bytes)))
    | _ => throw (singleFault ("binascii." ++ name) args.length)
  | "b2a_qp" => some do
    match ← reading fun _ => bindKeywords name [required "data", optional "quotetabs",
        optional "istext", optional "header"] args kwargs with
    | [some data, tabs, text, header] => do
      let bytes ← reading fun h => bytesArgument h data
      let style : QuoteStyle :=
        { quoteTabs := ← integerFlag tabs false, isText := ← integerFlag text true,
          header := ← integerFlag header false }
      pure (.bytes (quotedEncode style bytes))
    | _ => pure .none
  | "a2b_qp" => some do
    match ← reading fun _ => bindKeywords name [required "data", optional "header"]
        args kwargs with
    | [some data, header] => do
      let bytes ← reading fun h => codedText h data
      pure (.bytes (quotedDecode (← integerFlag header false) bytes))
    | _ => pure .none
  | "b2a_uu" => some do
    match ← reading fun _ => bindPositionalFirst name 1
        [required "data", keyword "backtick"] args kwargs with
    | [some data, backtick] => do
      let bytes ← reading fun h => bytesArgument h data
      let backtick ← match backtick with
        | some v => v.truthy
        | none => pure false
      if 45 < bytes.length then throw ⟨"Error", UuFault.tooLong.message⟩
      pure (.bytes (uuEncode backtick bytes))
    | _ => pure .none
  | "a2b_uu" => some do
    if !kwargs.isEmpty then throw (keywordsRefused ("binascii." ++ name))
    match args with
    | [x] => do
      let bytes ← reading fun h => codedText h x
      pure (.bytes (← readOrRaise "Error" UuFault.message (uuDecode bytes)))
    | _ => throw (singleFault ("binascii." ++ name) args.length)
  | "crc32" => some (checksumCall name 1 args kwargs 0 fun s bs => (crc32 s.toUInt32 bs).toNat)
  | "crc_hqx" => some (checksumCall name 2 args kwargs 0 fun s bs =>
      (crcHqx (s % 65536).toUInt16 bs).toNat)
  | _ => none

/-- A function of the modules of binary data as text applied, or `none` for another function. -/
def binaryTextFunction (m name : String) (args : List Value) (kwargs : List (String × Value)) :
    Option (Act Value) :=
  match m with
  | "base64" => encodingFunction name args kwargs
  | "binascii" => codecModuleFunction name args kwargs
  | "zlib" =>
    match name with
    | "crc32" => some (checksumCall name 1 args kwargs 0 fun s bs =>
        (crc32 s.toUInt32 bs).toNat)
    | "adler32" => some (checksumCall name 1 args kwargs 1 fun s bs =>
        (adler32 s.toUInt32 bs).toNat)
    | _ => none
  | _ => none

end ItemRecommender.Object
