import ItemRecommender.Object.Library.BinaryText
import ItemRecommender.Url.Parts
import ItemRecommender.Url.Percent
/-! # URLs on values

    The functions of the URL module on values (`Url`): splitting a URL into its parts and
    joining them back, resolving a reference against a base, cutting off the fragment, and
    percent-encoding.

    The splitting and joining functions take texts and byte strings alike, as their first
    argument decides. After a text, every other argument must be a text or empty; after
    anything else, each argument is decoded from ASCII (an empty one is the empty text) and the
    result is encoded back, so that byte strings give byte strings. The parts come back as
    named tuples, whose classes for bytes have names ending in `Bytes`. Splitting keeps the
    arguments it has seen, so they must be hashable.

    Quoting encodes a text (UTF-8 by default) and percent-encodes the bytes; unquoting reads
    the escapes of each ASCII run of a text and decodes them, replacing what cannot be read.
    A query is encoded from the pairs of a mapping or sequence, each side quoted, and parsed
    into its fields. Older helpers cut a URL at one of its separators, giving `None` for a
    part that is missing. -/

namespace ItemRecommender.Object

open ItemRecommender.Text ItemRecommender.Url

/-! ## Texts and byte strings alike -/

/-- A value decoded from ASCII, as the arguments of byte strings are. -/
def decodedArgument (v : Value) : Act Value := do
  if !(← v.truthy) then return .str ""
  let h ← get
  match v with
  | .bytes bs => reading fun _ => do pure (.str (← Stream.asciiText bs))
  | .ref a =>
    match h.get a with
    | .bytearray bs => reading fun _ => do pure (.str (← Stream.asciiText bs))
    | _ => throw (noAttribute h v "decode")
  | _ => throw (noAttribute h v "decode")

/-- The arguments of a function that takes texts and byte strings alike, and whether they are
read from byte strings: the first argument decides, a non-empty argument of the other kind is
refused, and after anything but a text each argument is decoded from ASCII. -/
def coerceArguments (args : List Value) : Act (Bool × List Value) := do
  match args with
  | [] => throw ⟨"IndexError", "tuple index out of range"⟩
  | first :: rest =>
    let textual := first matches .str _
    for a in rest do
      if (← a.truthy) && (a matches .str _) != textual then
        throw ⟨"TypeError", "Cannot mix str and non-str arguments"⟩
    if textual then pure (false, args)
    else pure (true, ← args.mapM decodedArgument)

/-- A text of a URL function's result, encoded to bytes when the arguments were byte strings. -/
def urlText (fromBytes : Bool) (cs : List Char) : Value :=
  if fromBytes then .bytes (cs.map fun c => c.toNat.toUInt8) else .str (String.ofList cs)

/-- A named tuple of texts of the URL module, of the class for bytes when the arguments were
byte strings. -/
def urlTuple (fromBytes : Bool) (cls : String) (fields : List String) (parts : List (List Char)) :
    Value :=
  .named ⟨"urllib.parse", if fromBytes then cls ++ "Bytes" else cls⟩ fields
    (parts.map (urlText fromBytes))

/-- The characters of a text argument, or of an empty argument of another type. -/
def textOrEmpty (v : Value) : List Char :=
  match v with
  | .str s => s.toList
  | _ => []

/-- The default scheme given to splitting, which must be a text. -/
def schemeText (v : Value) : Act (List Char) := do
  let h ← get
  match v with
  | .str s => pure s.toList
  | _ =>
    if (bytesOf? h v).isSome then
      throw ⟨"TypeError", "a bytes-like object is required, not 'str'"⟩
    else throw (noAttribute h v "strip")

/-- The result of splitting, its fault raised as a `ValueError`. -/
def splitOrRaise {α : Type} (r : Except UrlFault α) : Act α :=
  readOrRaise "ValueError" UrlFault.message r

/-- Checks that the arguments of a kept function can be kept: each must be hashable. -/
def checkHashable (args : List Value) : Act Unit := do
  for a in args do
    let _ ← reading fun h => a.hash h

/-- The five fields of a split URL. -/
def splitFields : List String := ["scheme", "netloc", "path", "query", "fragment"]

/-- The six fields of a parsed URL. -/
def parseFields : List String := ["scheme", "netloc", "path", "params", "query", "fragment"]

/-- The parts of a URL given as text and a default scheme, split with or without the path's
parameters. -/
def splitText (url scheme allowFragments : Value) : Act UrlParts := do
  checkHashable [url, scheme, allowFragments]
  let scheme ← schemeText scheme
  let allow ← allowFragments.truthy
  splitOrRaise (UrlParts.split scheme allow (textOrEmpty url))

/-- `urlsplit` and `urlparse`: the parts of a URL, as a named tuple. -/
def splitCall (withParams : Bool) (args : List Value) (kwargs : List (String × Value)) :
    Act Value := do
  let name := if withParams then "urlparse()" else "urlsplit()"
  if !withParams then checkHashable (args ++ kwargs.map Prod.snd)
  match ← reading fun _ => bindParameters name
      [required "url", optional "scheme", optional "allow_fragments"] args kwargs with
  | [some url, scheme, allow] =>
    let (fromBytes, coerced) ← coerceArguments [url, scheme.getD (.str "")]
    let url := coerced.getD 0 .none
    let scheme := coerced.getD 1 .none
    let parts ← splitText url scheme (allow.getD (.bool true))
    if withParams then
      let parts := if schemeIn paramSchemes parts.scheme && parts.path.contains ';' then
          let (path, params) := splitParams parts.path
          { parts with path, params }
        else parts
      pure (urlTuple fromBytes "ParseResult" parseFields
        [parts.scheme, parts.netloc, parts.path, parts.params, parts.query, parts.fragment])
    else
      pure (urlTuple fromBytes "SplitResult" splitFields
        [parts.scheme, parts.netloc, parts.path, parts.query, parts.fragment])
  | _ => pure .none

/-- The parts given to a joining function: the elements of the argument, coerced together, in
the number the function takes. -/
def joinedParts (count : Nat) (components : Value) : Act (Bool × List Value) := do
  let h ← get
  let items ← match sourceIn h nestingLimit components with
    | .error _ => throw ⟨"TypeError", "urllib.parse._coerce_args() argument after * must be " ++
        "an iterable, not " ++ components.typeName h⟩
    | .ok _ => components.elements
  let (fromBytes, items) ← coerceArguments items
  if items.length < count then
    throw ⟨"ValueError", "not enough values to unpack (expected " ++ toString (count + 1) ++
      ", got " ++ toString (items.length + 1) ++ ")"⟩
  if count < items.length then
    throw ⟨"ValueError", "too many values to unpack (expected " ++ toString (count + 1) ++ ")"⟩
  pure (fromBytes, items)

/-- `urlunsplit` and `urlunparse`: the URL of five or six parts. -/
def unsplitCall (withParams : Bool) (args : List Value) (kwargs : List (String × Value)) :
    Act Value := do
  let name := if withParams then "urlunparse()" else "urlunsplit()"
  match ← reading fun _ => bindParameters name [required "components"] args kwargs with
  | [some components] =>
    let (fromBytes, items) ← joinedParts (if withParams then 6 else 5) components
    let part (i : Nat) := items.getD i .none
    let path ← if withParams && (← (part 3).truthy) then
        reading fun h => do
          pure ((← (part 2).text h).toList ++ ';' :: (← (part 3).text h).toList)
      else pure (textOrEmpty (part 2))
    let rest := if withParams then [part 4, part 5] else [part 3, part 4]
    let query := textOrEmpty (rest.getD 0 .none)
    let fragment := textOrEmpty (rest.getD 1 .none)
    let p : UrlParts :=
      { scheme := textOrEmpty (part 0), netloc := textOrEmpty (part 1), path, query, fragment }
    pure (urlText fromBytes p.unsplit)
  | _ => pure .none

/-- `urljoin`: a reference resolved against a base URL. -/
def joinCall (args : List Value) (kwargs : List (String × Value)) : Act Value := do
  match ← reading fun _ => bindParameters "urljoin()"
      [required "base", required "url", optional "allow_fragments"] args kwargs with
  | [some base, some url, allow] =>
    if !(← base.truthy) then return url
    if !(← url.truthy) then return base
    let (fromBytes, coerced) ← coerceArguments [base, url]
    let allow := allow.getD (.bool true)
    checkHashable [allow]
    let resolved ← splitOrRaise (resolve (← allow.truthy) (textOrEmpty (coerced.getD 0 .none))
      (textOrEmpty (coerced.getD 1 .none)))
    pure (urlText fromBytes resolved)
  | _ => pure .none

/-- `urldefrag`: a URL without its fragment, and the fragment. -/
def defragCall (args : List Value) (kwargs : List (String × Value)) : Act Value := do
  match ← reading fun _ => bindParameters "urldefrag()" [required "url"] args kwargs with
  | [some url] =>
    let (fromBytes, coerced) ← coerceArguments [url]
    let (url, fragment) ← splitOrRaise (defragment (textOrEmpty (coerced.getD 0 .none)))
    pure (urlTuple fromBytes "DefragResult" ["url", "fragment"] [url, fragment])
  | _ => pure .none

/-! ## Percent-encoding -/

/-- The bytes an argument names safe: the ASCII characters of a text, or the elements below 128
of any other iterable, which must be byte values. -/
def safeBytes (safe : Value) : Act (List UInt8) := do
  match safe with
  | .str s => pure ((s.toList.filter (·.toNat < 128)).map fun c => c.toNat.toUInt8)
  | _ =>
    let kept ← (← safe.elements).filterM fun c => c.lessThan (.int 128)
    kept.mapM fun c => do
      let i ← reading fun h => asIndex h c
      if 0 ≤ i ∧ i < 256 then pure i.toNat.toUInt8
      else throw ⟨"ValueError", "bytes must be in range(0, 256)"⟩

/-- The bytes of a byte string or byte array, or `none` for another value. -/
def ownBytes? (h : Heap) (v : Value) : Option (List UInt8) :=
  match v with
  | .bytes bs => some bs
  | .ref a =>
    match h.get a with
    | .bytearray bs => some bs
    | _ => none
  | _ => none

/-- A text of ASCII bytes. -/
def asciiValue (bytes : List UInt8) : Value :=
  .str (String.ofList (bytes.map fun b => Char.ofNat b.toNat))

/-- `quote_from_bytes`: bytes percent-encoded, keeping the unreserved and the safe bytes. -/
def quoteBytes (bs safe : Value) : Act Value := do
  match ownBytes? (← get) bs with
  | none => throw ⟨"TypeError", "quote_from_bytes() expected bytes"⟩
  | some bytes =>
    if bytes.isEmpty then return .str ""
    pure (asciiValue (percentEncode (← safeBytes safe) bytes))

/-- A text argument of a codec method (`what`) named `param`, `none` standing for `default`. -/
def codecText (what param default : String) (v : Value) : Act String := do
  match v with
  | .none => pure default
  | .str e => pure e
  | _ => throw ⟨"TypeError", what ++ "() argument '" ++ param ++ "' must be str, not " ++
      v.typeName (← get)⟩

/-- The codec of a name. -/
def codecNamed (name : String) : Act Encoding :=
  match Encoding.ofName? name with
  | some e => pure e
  | none => throw ⟨"LookupError", "unknown encoding: " ++ name⟩

/-- `quote`: a text encoded (UTF-8 strictly by default) and percent-encoded, or bytes
percent-encoded, which take no codec. -/
def quoteCall (string safe encoding errors : Value) : Act Value := do
  match string with
  | .str s =>
    if s.isEmpty then return string
    let name ← codecText "encode" "encoding" "utf-8" encoding
    let handling := ErrorHandling.ofName (← codecText "encode" "errors" "strict" errors)
    let codec ← codecNamed name
    quoteBytes (.bytes (← reading fun _ => codec.encodeWith handling s)) safe
  | _ =>
    if !(encoding matches .none) then
      throw ⟨"TypeError", "quote() doesn't support 'encoding' for bytes"⟩
    if !(errors matches .none) then
      throw ⟨"TypeError", "quote() doesn't support 'errors' for bytes"⟩
    quoteBytes string safe

/-- `quote_plus`: as `quote`, with spaces safe and then written as `+`. -/
def quotePlusCall (string safe encoding errors : Value) : Act Value := do
  let spaceless := match string with
    | .str s => !s.contains ' '
    | .bytes bs => !bs.contains 32
    | _ => false
  if spaceless then return ← quoteCall string safe encoding errors
  let space : Value := if safe matches .str _ then .str " " else .bytes [32]
  match ← quoteCall string (← safe.combine .add space) encoding errors with
  | .str s => pure (.str (s.replace " " "+"))
  | v => pure v

/-- `unquote_to_bytes`: the bytes of a text (in UTF-8) or of bytes, with their escapes read. -/
def unquoteBytesCall (string : Value) : Act Value := do
  let h ← get
  let splits := (string matches .str _) || (ownBytes? h string).isSome
  if !(← string.truthy) then
    if splits then return .bytes [] else throw (noAttribute h string "split")
  let bytes ← match string with
    | .str s => reading fun _ => Encoding.utf8.encodeWith .strict s
    | _ => pure ((ownBytes? h string).getD [])
  if !splits then throw (noAttribute h string "split")
  if !bytes.contains 37 then
    return (if string matches .str _ then .bytes bytes else string)
  -- the escapes of a byte array are looked up by slices of it, which cannot be hashed
  if !((string matches .str _) || (string matches .bytes _)) then
    throw ⟨"TypeError", "unhashable type: 'bytearray'"⟩
  pure (.bytes (percentDecode bytes))

/-- Bytes decoded by the codec and the error handling that arguments name. -/
def decodeBy (encoding errors : Value) (bytes : List UInt8) : Act (List Char) := do
  let name ← codecText "decode" "encoding" "utf-8" encoding
  let handling := ErrorHandling.ofName (← codecText "decode" "errors" "replace" errors)
  let codec ← codecNamed name
  let (text, _) ← reading fun _ => codec.decodeWith handling true bytes
  pure text.toList

/-- `unquote`: a text with the escapes of its ASCII runs read and decoded (UTF-8, replacing
what cannot be read, by default); bytes are read and then decoded. -/
def unquoteCall (string encoding errors : Value) : Act Value := do
  match string with
  | .bytes _ =>
    match ← unquoteBytesCall string with
    | .bytes bytes =>
      -- bytes are decoded with the arguments as given, where `None` names no codec
      if encoding matches .none then
        throw ⟨"TypeError", "decode() argument 'encoding' must be str, not None"⟩
      if errors matches .none then
        throw ⟨"TypeError", "decode() argument 'errors' must be str, not None"⟩
      pure (.str (String.ofList (← decodeBy encoding errors bytes)))
    | v => pure v
  | _ =>
    if !(← string.contains (.str "%")) then
      if string matches .str _ then return string
      throw (noAttribute (← get) string "split")
    match string with
    | .str s => do
      pure (.str (String.ofList (← percentDecodeText (decodeBy encoding errors) s.toList)))
    | _ => throw ⟨"TypeError", "expected string or bytes-like object, got " ++
        quote (string.typeName (← get))⟩

/-- `unquote_plus`: as `unquote`, with each `+` read as a space first. -/
def unquotePlusCall (string encoding errors : Value) : Act Value := do
  match string with
  | .str s => unquoteCall (.str (s.replace "+" " ")) encoding errors
  | _ =>
    let h ← get
    if (ownBytes? h string).isSome then
      throw ⟨"TypeError", "a bytes-like object is required, not 'str'"⟩
    throw (noAttribute h string "replace")

/-! ## Queries -/

/-- The pairs of a query to encode: the items of a mapping, or the elements of a sequence
whose first element is a tuple. -/
def queryPairs (query : Value) : Act (List (Value × Value)) := do
  let h ← get
  match query.mapEntries? h with
  | some entries => pure entries
  | none =>
    let refused : Raised := ⟨"TypeError", "not a valid non-string sequence or mapping object"⟩
    let n ← try query.length catch e => if e.kind = "TypeError" then throw refused else throw e
    if 0 < n then
      let first ← try query.getItem (.int 0)
        catch e => if e.kind = "TypeError" then throw refused else throw e
      if !((first matches .tuple _) || (first matches .named ..)) then throw refused
    (← query.elements).mapM Value.pair

/-- A text from parts, each a text, else refused as `join` refuses it. -/
def joinedTexts (sep : String) (parts : List Value) : Act Value := do
  let h ← get
  let texts ← parts.zipIdx.mapM fun (v, i) =>
    match v with
    | .str s => pure s
    | _ => throw ⟨"TypeError", "sequence item " ++ toString i ++
        ": expected str instance, " ++ v.typeName h ++ " found"⟩
  pure (.str (sep.intercalate texts))

/-- `urlencode`: the pairs of a mapping or sequence as `key=value` joined by `&`, each side
quoted by `quote_via`; with `doseq`, a value that is a sequence gives one pair per element. -/
def encodeQuery (call : Value → List Value → Act Value) (args : List Value)
    (kwargs : List (String × Value)) : Act Value := do
  match ← reading fun _ => bindParameters "urlencode()"
      [required "query", optional "doseq", optional "safe", optional "encoding",
        optional "errors", optional "quote_via"] args kwargs with
  | [some query, doseq, safe, encoding, errors, quoteVia] =>
    let safe := safe.getD (.str "")
    let encoding := encoding.getD .none
    let errors := errors.getD .none
    let quoteVia := quoteVia.getD (.global ⟨"urllib.parse", "quote_plus"⟩)
    let quoted (v : Value) : Act Value := do
      if v matches .bytes _ then call quoteVia [v, safe]
      else call quoteVia [.str (← reading fun h => v.text h), safe, encoding, errors]
    let pair (k v : Value) : Act Value := do
      (← k.combine .add (.str "=")).combine .add v
    let pairs ← queryPairs query
    let bySequence ← (doseq.getD (.bool false)).truthy
    let items ← pairs.flatMapM fun (k, v) => do
      let k ← quoted k
      if !bySequence then return [← pair k (← quoted v)]
      match v with
      | .bytes _ | .str _ => return [← pair k (← call quoteVia
          (if v matches .bytes _ then [v, safe] else [v, safe, encoding, errors]))]
      | _ =>
        match ← (try some <$> v.length catch e =>
            if e.kind = "TypeError" then pure none else throw e) with
        | none => return [← pair k (← quoted v)]
        | some _ => (← v.elements).mapM fun x => do pair k (← quoted x)
    joinedTexts "&" items
  | _ => pure .none

/-- The fields of a query: its pieces between separators, each cut at its first `=` into a name
and a value, both read by `unquote`. Empty pieces are skipped, and so are pieces with an empty
value unless blanks are kept; when parsing is strict, a piece without `=` is refused. -/
def queryFields (unquote : List Char → Act Value) (shown : List Char → Value)
    (keepBlanks strict : Bool) (sep query : List Char) : Act (List (Value × Value)) := do
  let fields ← (splitOnSeq sep query).filterMapM fun piece => do
    if piece.isEmpty && !strict then return none
    match Url.cutAt '=' piece with
    | (_, none) =>
      if strict then
        throw ⟨"ValueError", "bad query field: " ++ (← reading fun h => (shown piece).repr h)⟩
      else if keepBlanks then return some (← unquote piece, ← unquote [])
      else return none
    | (name, some value) =>
      if value.isEmpty && !keepBlanks then return none
      return some (← unquote name, ← unquote value)
  pure fields

/-- The fields of a query, as `parse_qsl` reads them: a text with its escapes and `+` read, or
bytes with theirs. -/
def parseQuery (args : List Value) (kwargs : List (String × Value)) (callee : String) :
    Act (List (Value × Value)) := do
  match ← reading fun _ => bindParameters callee
      [required "qs", optional "keep_blank_values", optional "strict_parsing",
        optional "encoding", optional "errors", optional "max_num_fields",
        optional "separator"] args kwargs with
  | [some qs, keep, strict, encoding, errors, most, sep] =>
    let sep := sep.getD (.str "&")
    if !(← sep.truthy) || !((sep matches .str _) || (sep matches .bytes _)) then
      throw ⟨"ValueError", "Separator must be of type string or bytes."⟩
    let keep ← (keep.getD (.bool false)).truthy
    let strict ← (strict.getD (.bool false)).truthy
    let encoding := encoding.getD (.str "utf-8")
    let errors := errors.getD (.str "replace")
    let (textual, query, sep) ← match qs with
      | .str q => do
        let sep ← match sep with
          | .bytes bs => reading fun _ => Stream.asciiText bs
          | .str t => pure t
          | _ => pure ""
        pure (true, q.toList, sep.toList)
      | _ => do
        if !(← qs.truthy) then return []
        let bytes ← reading fun h => viewedBytes h qs
        let sep ← match sep with
          | .str t => reading fun _ => Encoding.ascii.encodeWith .strict t
          | .bytes bs => pure bs
          | _ => pure []
        pure (false, bytes.map (Char.ofNat ·.toNat), sep.map (Char.ofNat ·.toNat))
    if query.isEmpty then return []
    if let some most := most then
      if !(most matches .none) then
        let count := (splitOnSeq sep query).length
        if ← most.lessThan (.int count) then
          throw ⟨"ValueError", "Max number of fields exceeded"⟩
    let shown (cs : List Char) : Value :=
      if textual then .str (String.ofList cs) else .bytes (cs.map (·.toNat.toUInt8))
    let unquote (cs : List Char) : Act Value :=
      if textual then unquotePlusCall (shown cs) encoding errors
      else
        let plain := cs.map fun c => if c = '+' then ' ' else c
        pure (.bytes (percentDecode (plain.map (·.toNat.toUInt8))))
    queryFields unquote shown keep strict sep query
  | _ => pure []

/-- `parse_qs`: the fields of a query gathered by name, each name with the list of its values
in order. -/
def parseQueryMap (args : List Value) (kwargs : List (String × Value)) : Act Value := do
  let fields ← parseQuery args kwargs "parse_qs()"
  let sameKey (a b : Value) : Bool :=
    match a, b with
    | .str x, .str y => x == y
    | .bytes x, .bytes y => x == y
    | _, _ => false
  let grouped := fields.foldl (fun (acc : List (Value × List Value)) (k, v) =>
    match acc.findIdx? fun (k', _) => sameKey k' k with
    | some i => acc.modify i fun (k', vs) => (k', vs ++ [v])
    | none => acc ++ [(k, [v])]) []
  let entries ← grouped.mapM fun (k, vs) => do pure (k, ← newList vs)
  newDict entries

/-! ## Older helpers -/

/-- The text of an argument that older helpers search with a pattern: a text, as bytes are
refused by a text pattern. -/
def patternText (v : Value) : Act (List Char) := do
  let h ← get
  match v with
  | .str s => pure s.toList
  | _ =>
    if (ownBytes? h v).isSome then
      throw ⟨"TypeError", "cannot use a string pattern on a bytes-like object"⟩
    throw ⟨"TypeError", "expected string or bytes-like object, got " ++ quote (v.typeName h)⟩

/-- The text of an argument that older helpers cut with the text method `method`. -/
def methodText (method : String) (v : Value) : Act (List Char) := do
  let h ← get
  match v with
  | .str s => pure s.toList
  | _ =>
    if (ownBytes? h v).isSome then
      throw ⟨"TypeError", "a bytes-like object is required, not 'str'"⟩
    throw (noAttribute h v method)

/-- A text value of characters, or `None`. -/
def optionalText (cs : Option (List Char)) : Value :=
  match cs with
  | some cs => .str (String.ofList cs)
  | none => .none

/-- A pair of texts, the second perhaps `None`. -/
def textPair (a : List Char) (b : Option (List Char)) : Value :=
  .tuple [.str (String.ofList a), optionalText b]

/-- An older helper that cuts a URL, applied to its one argument `arg`. -/
def olderHelper (name : String) (arg : Value) (defport : Value) : Act Value := do
  match name with
  | "splittype" =>
    let cs ← patternText arg
    match schemeAndRest? cs with
    | some (scheme, rest) => pure (.tuple [.str (String.ofList (lowerText scheme)),
        .str (String.ofList rest)])
    | none => pure (.tuple [.none, arg])
  | "splithost" =>
    let cs ← patternText arg
    match hostAndPath? cs with
    | some (host, path) => pure (textPair host (some path))
    | none => pure (.tuple [.none, arg])
  | "splituser" =>
    let (user, host) := cutAtLast '@' (← methodText "rpartition" arg)
    pure (.tuple [optionalText user, .str (String.ofList host)])
  | "splitpasswd" =>
    let (user, password) := Url.cutAt ':' (← methodText "partition" arg)
    pure (textPair user password)
  | "splitport" =>
    let (host, port) := hostAndPort (← patternText arg)
    pure (textPair host port)
  | "splitnport" =>
    match cutAtLast ':' (← methodText "rpartition" arg) with
    | (some host, port@(_ :: _)) =>
      pure (.tuple [.str (String.ofList host),
        if port.all isAsciiDigit then .int (digitsValue port) else .none])
    | (some host, []) => pure (.tuple [.str (String.ofList host), defport])
    | (none, host) => pure (.tuple [.str (String.ofList host), defport])
  | "splitquery" =>
    match cutAtLast '?' (← methodText "rpartition" arg) with
    | (some path, query) => pure (textPair path (some query))
    | (none, url) => pure (textPair url none)
  | "splittag" =>
    match cutAtLast '#' (← methodText "rpartition" arg) with
    | (some path, tag) => pure (textPair path (some tag))
    | (none, url) => pure (textPair url none)
  | "splitattr" =>
    match (← methodText "split" arg).splitOn ';' with
    | first :: rest => do
      pure (.tuple [.str (String.ofList first), ← newList (rest.map (.str ∘ String.ofList))])
    | [] => pure (.tuple [.str "", ← newList []])
  | _ =>
    let (attr, value) := Url.cutAt '=' (← methodText "partition" arg)
    pure (textPair attr value)

/-- The names of the older helpers, with their one parameter's name. -/
def olderHelpers : List (String × String) :=
  [("splittype", "url"), ("splithost", "url"), ("splituser", "host"), ("splitpasswd", "user"),
    ("splitport", "host"), ("splitnport", "host"), ("splitquery", "url"), ("splittag", "url"),
    ("splitattr", "url"), ("splitvalue", "attr")]

/-- `unwrap`: the text of a value without blanks around it, the angle brackets around it, or a
leading `URL:`. -/
def unwrapText (v : Value) : Act Value := do
  let cs := trimBlank (← reading fun h => v.text h).toList
  let cs := if cs.head? == some '<' && cs.getLast? == some '>' then
      trimBlank ((cs.drop 1).dropLast) else cs
  let cs := if cs.take 4 == "URL:".toList then trimBlank (cs.drop 4) else cs
  pure (.str (String.ofList cs))

/-- `to_bytes`: a URL that must be ASCII when it is a text. -/
def asciiUrl (v : Value) : Act Value := do
  match v with
  | .str s =>
    if s.toList.all (·.toNat < 128) then pure v
    else throw ⟨"UnicodeError", "URL " ++ quote s ++ " contains non-ASCII characters"⟩
  | _ => pure v

/-- The arguments of a function of the URL module bound to its parameters, each given or
`default`. -/
def boundArguments (callee : String) (params : List (String × Value)) (args : List Value)
    (kwargs : List (String × Value)) : Act (List Value) := do
  let bound ← reading fun _ => bindParameters callee
    (params.zipIdx.map fun ((p, _), i) => if i = 0 then required p else optional p) args kwargs
  pure ((bound.zip params).map fun (v, (_, d)) => v.getD d)

/-- A function of the URL module applied, or `none` for another function. -/
def urlFunction (call : Value → List Value → Act Value) (m name : String) (args : List Value)
    (kwargs : List (String × Value)) : Option (Act Value) :=
  let quoting (callee safe : String) (act : Value → Value → Value → Value → Act Value) :
      Act Value := do
    match ← boundArguments callee [("string", .none), ("safe", .str safe),
        ("encoding", .none), ("errors", .none)] args kwargs with
    | [string, safe, encoding, errors] => act string safe encoding errors
    | _ => pure .none
  let unquoting (callee : String) (act : Value → Value → Value → Act Value) : Act Value := do
    match ← boundArguments callee [("string", .none), ("encoding", .str "utf-8"),
        ("errors", .str "replace")] args kwargs with
    | [string, encoding, errors] => act string encoding errors
    | _ => pure .none
  if m ≠ "urllib.parse" then none
  else if let some param := olderHelpers.lookup name then some do
    let params := if name = "splitnport" then [(param, .none), ("defport", .int (-1))]
      else [(param, .none)]
    match ← boundArguments (name ++ "()") params args kwargs with
    | arg :: rest => olderHelper name arg (rest.headD .none)
    | [] => pure .none
  else match name with
    | "quote" => some (quoting "quote()" "/" quoteCall)
    | "quote_plus" => some (quoting "quote_plus()" "" quotePlusCall)
    | "quote_from_bytes" => some do
      match ← boundArguments "quote_from_bytes()" [("bs", .none), ("safe", .str "/")]
          args kwargs with
      | [bs, safe] => quoteBytes bs safe
      | _ => pure .none
    | "unquote" => some (unquoting "unquote()" unquoteCall)
    | "unquote_plus" => some (unquoting "unquote_plus()" unquotePlusCall)
    | "unquote_to_bytes" => some do
      match ← boundArguments "unquote_to_bytes()" [("string", .none)] args kwargs with
      | [string] => unquoteBytesCall string
      | _ => pure .none
    | "urlencode" => some (encodeQuery call args kwargs)
    | "parse_qsl" => some do
      let fields ← parseQuery args kwargs "parse_qsl()"
      newList (fields.map fun (k, v) => .tuple [k, v])
    | "parse_qs" => some (parseQueryMap args kwargs)
    | "unwrap" => some do
      match ← boundArguments "unwrap()" [("url", .none)] args kwargs with
      | [url] => unwrapText url
      | _ => pure .none
    | "to_bytes" => some do
      match ← boundArguments "to_bytes()" [("url", .none)] args kwargs with
      | [url] => asciiUrl url
      | _ => pure .none
    | "urlsplit" => some (splitCall false args kwargs)
    | "urlparse" => some (splitCall true args kwargs)
    | "urlunsplit" => some (unsplitCall false args kwargs)
    | "urlunparse" => some (unsplitCall true args kwargs)
    | "urljoin" => some (joinCall args kwargs)
    | "urldefrag" => some (defragCall args kwargs)
    | _ => none

end ItemRecommender.Object
