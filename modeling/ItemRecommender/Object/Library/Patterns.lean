import ItemRecommender.Object.Library.Arguments
import ItemRecommender.Object.Reflection
import ItemRecommender.Regex.Template
import ItemRecommender.Regex.Match
/-! # Patterns

    The functions of the pattern module on values: a pattern is a text or bytes, or a
    compiled pattern; the string searched must be of the same kind. A compiled pattern is an
    object that keeps its source and its flags, its count of groups and the indices of its
    named groups; a match is an object that keeps the string, the pattern, the span of every
    group (`(-1, -1)` for one that did not match), and the last group that closed.

    * `search`, `match` and `fullmatch` look for one match: anywhere, at the start, or over the
      whole string; `findall` and `finditer` give all the matches that do not overlap, `split`
      cuts the string at them, and `sub` and `subn` replace them by a template's expansion, by
      what a function returns for each, or by plain text.
    * `escape` puts a backslash before every character that has a meaning in a pattern.

    The refusals of the reader of patterns are raised as the module's `error`, its message
    followed by the position, and by the line and column when the pattern has several lines;
    a template naming a group the pattern lacks raises an index error. -/

namespace ItemRecommender.Object

open ItemRecommender.Text

/-- The class of compiled patterns. -/
def patternClass : Name := ⟨"re", "Pattern"⟩

/-- The class of matches. -/
def matchClass : Name := ⟨"re", "Match"⟩

/-- The characters of a text or of bytes, with whether it is a text. -/
structure Chars where
  chars : List Char
  isText : Bool

/-- The characters of a pattern or a template: a text's, or the bytes' as code points. -/
def charsOf? (h : Heap) (v : Value) : Option Chars :=
  match v with
  | .str s => some ⟨s.toList, true⟩
  | _ => (bytesOf? h v).map fun bs => ⟨bs.map fun b => Char.ofNat b.toNat, false⟩

/-- The error a refusal of the reader of patterns raises; `source` is the text that was read. -/
def regexFault (source : List Char) : Regex.Error → Raised
  | .malformed message pos =>
    let before := source.take pos
    let line := before.count '\n' + 1
    let column := match (before.zipIdx.filter (·.1 = '\n')).getLast? with
      | some (_, j) => pos - j
      | none => pos + 1
    let place := if source.contains '\n' then
        " (line " ++ toString line ++ ", column " ++ toString column ++ ")"
      else ""
    ⟨"error", message ++ " at position " ++ toString pos ++ place⟩
  | .compile message => ⟨"error", message⟩
  | .countTooLarge => ⟨"OverflowError", "the repetition number is too large"⟩
  | .flags message => ⟨"ValueError", message⟩
  | .unknownGroupName name => ⟨"IndexError", "unknown group name " ++ quote name⟩

/-- The value of each flag of the module by its names. -/
def flagByName? : String → Option Nat
  | "T" | "TEMPLATE" => some Regex.templateFlag
  | "I" | "IGNORECASE" => some Regex.ignoreCaseFlag
  | "L" | "LOCALE" => some Regex.localeFlag
  | "M" | "MULTILINE" => some Regex.multilineFlag
  | "S" | "DOTALL" => some Regex.dotAllFlag
  | "U" | "UNICODE" => some Regex.unicodeFlag
  | "X" | "VERBOSE" => some Regex.verboseFlag
  | "DEBUG" => some Regex.debugFlag
  | "A" | "ASCII" => some Regex.asciiFlag
  | "NOFLAG" => some 0
  | _ => none

/-- Flags given as an integer, a truth value or a flag of the module; a negative integer gives
its bits of two's complement. -/
def flagsOf (h : Heap) (v : Value) : Except Raised Nat :=
  match v with
  | .int i => pure (if i < 0 then (i % 4294967296).toNat else i.toNat)
  | .bool b => pure (if b then 1 else 0)
  | .global ⟨"re", n⟩ =>
    match flagByName? n with
    | some f => pure f
    | none => throw (andFault v)
  | _ => throw (andFault v)
where
  /-- The error of combining a value that is no integer with a flag. -/
  andFault (v : Value) : Raised :=
    ⟨"TypeError", "unsupported operand type(s) for &: '" ++ v.typeName h ++ "' and 'RegexFlag'"⟩

/-- A compiled pattern: its source as a value, what reading it gave, and the object that
stands for it. -/
structure Compiled where
  source : Value
  isText : Bool
  parsed : Regex.Parsed
  object : Value

/-- Reads a pattern's source under flags. -/
def readPattern (h : Heap) (source : Value) (flags : Nat) :
    Except Raised (Regex.Parsed × Bool) :=
  match charsOf? h source with
  | some cs =>
    match Regex.parsePattern cs.chars cs.isText flags with
    | .ok p => pure (p, cs.isText)
    | .error e => throw (regexFault cs.chars e)
  | none => throw ⟨"TypeError", "first argument must be string or compiled pattern"⟩

/-- The compiled pattern an object of the pattern class stands for. -/
def compiledOf? (h : Heap) (v : Value) : Option (Value × Nat) :=
  match v with
  | .ref a =>
    match h.get a with
    | .object cls _ attrs =>
      if cls = patternClass then
        match attrs.lookup "pattern", attrs.lookup "flags" with
        | some src, some (.int f) => some (src, f.toNat)
        | _, _ => none
      else none
    | _ => none
  | _ => none

/-- Compiles a pattern under flags, or takes a compiled one, which refuses flags. The pattern
and the flags are hashed first, as the cache of compiled patterns does. -/
def compile (pattern flags : Value) : Act Compiled := do
  let h ← get
  let _ ← reading fun h => pattern.hash h
  let _ ← reading fun h => flags.hash h
  match compiledOf? h pattern with
  | some (src, f) =>
    if ← flags.truthy then
      throw ⟨"ValueError", "cannot process flags argument with a compiled pattern"⟩
    let (parsed, isText) ← reading fun h => readPattern h src f
    pure ⟨src, isText, parsed, pattern⟩
  | none =>
    if (charsOf? h pattern).isNone then
      throw ⟨"TypeError", "first argument must be string or compiled pattern"⟩
    let f ← reading fun h => flagsOf h flags
    let (parsed, isText) ← reading fun h => readPattern h pattern f
    let index ← newDict (parsed.names.map fun (k, i) => (.str k, .int i))
    let object ← allocate (.object patternClass [] [("pattern", pattern),
      ("flags", .int parsed.flags), ("groups", .int parsed.groups), ("groupindex", index)])
    pure ⟨pattern, isText, parsed, object⟩

/-- The code points of a string searched, checked against the kind of the pattern. -/
def subjectCodes (h : Heap) (c : Compiled) (v : Value) : Except Raised (Array Nat) :=
  match v with
  | .str s =>
    if c.isText then pure (s.toList.map codePoint).toArray
    else throw ⟨"TypeError", "cannot use a bytes pattern on a string-like object"⟩
  | _ =>
    match bytesOf? h v with
    | some bs =>
      if c.isText then throw ⟨"TypeError", "cannot use a string pattern on a bytes-like object"⟩
      else pure (bs.map (·.toNat)).toArray
    | none => throw ⟨"TypeError", "expected string or bytes-like object, got '" ++ v.typeName h ++ "'"⟩

/-- The part of a string searched from `s` to `e`: a text for a text, bytes for anything
bytes-like. -/
def sliceOf (v : Value) (s e : Nat) : Act Value := do
  match v with
  | .str text => pure (.str (String.ofList ((text.toList.drop s).take (e - s))))
  | _ =>
    match bytesOf? (← get) v with
    | some bs => pure (.bytes ((bs.drop s).take (e - s)))
    | none => pure .none

/-- The text a group of a match recorded, or `missing` for a group that did not match. -/
def groupText (subject : Value) (found : Regex.Found) (gid : Nat) (missing : Value) : Act Value :=
  if gid = 0 then sliceOf subject found.start found.stop
  else
    match found.captures.span? gid with
    | some (s, e) => sliceOf subject s e
    | none => pure missing

/-- The empty string of a string's kind. -/
def emptyOf (subject : Value) : Act Value := sliceOf subject 0 0

/-- A match object. -/
def newMatch (c : Compiled) (subject : Value) (endpos : Nat) (found : Regex.Found) : Act Value := do
  let span (p : Option (Nat × Nat)) : Value :=
    match p with
    | some (s, e) => .tuple [.int s, .int e]
    | none => .tuple [.int (-1), .int (-1)]
  let regs := span (some (found.start, found.stop)) ::
    (List.range c.parsed.groups).map fun i => span (found.captures.span? (i + 1))
  let lastIndex := found.captures.lastIndex
  let lastGroup := match lastIndex with
    | some g =>
      match c.parsed.names.find? (·.2 == g) with
      | some (n, _) => Value.str n
      | none => .none
    | none => .none
  allocate (.object matchClass [] [("string", subject), ("re", c.object), ("pos", .int 0),
    ("endpos", .int endpos), ("lastindex", (lastIndex.map fun g => Value.int g).getD .none),
    ("lastgroup", lastGroup), ("regs", .tuple regs)])

/-- Which one match is looked for. -/
inductive Search where
  | anywhere | atStart | whole

/-- `search`, `match` or `fullmatch`: a match object, or `None`. -/
def searchOne (how : Search) (callee : String) (args : List Value)
    (kwargs : List (String × Value)) : Act Value := do
  let bound ← reading fun _ => bindParameters callee
    [required "pattern", required "string", optional "flags"] args kwargs
  match bound with
  | [some pattern, some subject, flags] => do
    let c ← compile pattern (flags.getD (.int 0))
    let codes ← reading fun h => subjectCodes h c subject
    let found := match how with
      | .anywhere => c.parsed.searchFrom codes 0 false
      | .atStart => c.parsed.matchFrom codes 0 false
      | .whole => c.parsed.matchFrom codes 0 true
    match found with
    | some m => newMatch c subject codes.size m
    | none => pure .none
  | _ => pure .none

/-- What `findall` gives for a match: the whole match without groups, the one group's text
with one, the tuple of the groups' texts with more; a group that did not match gives the
empty string. -/
def foundItem (c : Compiled) (subject : Value) (m : Regex.Found) : Act Value := do
  let empty ← emptyOf subject
  match c.parsed.groups with
  | 0 => groupText subject m 0 empty
  | 1 => groupText subject m 1 empty
  | n => do pure (.tuple (← (List.range n).mapM fun i => groupText subject m (i + 1) empty))

/-- `findall` (a list of items) or `finditer` (an iterator of match objects). -/
def searchAll (asIterator : Bool) (callee : String) (args : List Value)
    (kwargs : List (String × Value)) : Act Value := do
  let bound ← reading fun _ => bindParameters callee
    [required "pattern", required "string", optional "flags"] args kwargs
  match bound with
  | [some pattern, some subject, flags] => do
    let c ← compile pattern (flags.getD (.int 0))
    let codes ← reading fun h => subjectCodes h c subject
    let found := c.parsed.allMatches codes
    if asIterator then
      allocate (.iterator "callable_iterator" (← found.mapM (newMatch c subject codes.size)) none)
    else newList (← found.mapM (foundItem c subject))
  | _ => pure .none

/-- A count argument of the matching functions, which must be an integer. -/
def countOf (h : Heap) (v : Value) : Except Raised Int :=
  match v with
  | .int i => pure i
  | .bool b => pure (if b then 1 else 0)
  | _ => throw ⟨"TypeError", "'" ++ v.typeName h ++ "' object cannot be interpreted as an integer"⟩

/-- The splits of a string at the matches, at most `most` of them when it is not zero, from
`start`; each match adds the text before it and its groups' texts. -/
def splitsAt (c : Compiled) (subject : Value) (codes : Array Nat) (most : Int) :
    Nat → Nat → Nat → Bool → Nat → Act (List Value)
  | 0, _, last, _, _ => do pure [← sliceOf subject last codes.size]
  | fuel + 1, start, last, nonEmpty, done => do
    let more := most == 0 || (done : Int) < most
    match (if more then c.parsed.searchFrom codes start nonEmpty else none) with
    | none => pure [← sliceOf subject last codes.size]
    | some m => do
      let before ← sliceOf subject last m.start
      let groups ← (List.range c.parsed.groups).mapM fun i => groupText subject m (i + 1) .none
      let rest ← splitsAt c subject codes most fuel m.stop m.stop (m.stop == m.start) (done + 1)
      pure (before :: groups ++ rest)

/-- `split`: the string cut at the matches, with the groups' texts between the pieces. -/
def splitAt (args : List Value) (kwargs : List (String × Value)) : Act Value := do
  let bound ← reading fun _ => bindParameters "split()"
    [required "pattern", required "string", optional "maxsplit", optional "flags"] args kwargs
  match bound with
  | [some pattern, some subject, most, flags] => do
    let c ← compile pattern (flags.getD (.int 0))
    let most ← reading fun h => countOf h (most.getD (.int 0))
    let codes ← reading fun h => subjectCodes h c subject
    newList (← splitsAt c subject codes most (2 * codes.size + 2) 0 0 false 0)
  | _ => pure .none

/-- How the matches are replaced: by a value as it is, by a template's expansion, or by what a
function returns for the match object. -/
inductive Replacement where
  | plain (v : Value)
  | template (pieces : List Regex.Piece) (isText : Bool)
  | function (f : Value)

/-- The replacement a `repl` argument asks for. A text or bytes without a backslash is plain;
with one it is read as a template; anything else that cannot be called is refused as a
template is. -/
def replacementOf (c : Compiled) (repl : Value) : Act Replacement := do
  let h ← get
  if repl.isCallable h then return .function repl
  match charsOf? h repl with
  | some cs =>
    if !cs.chars.contains '\\' then return .plain repl
    let _ ← reading fun h => repl.hash h
    match Regex.parseTemplate cs.chars cs.isText c.parsed.groups c.parsed.names with
    | .ok pieces =>
      match Regex.literalOf? pieces, pieces with
      | some text, [_] =>
        pure (.plain (if cs.isText then .str (String.ofList text)
          else .bytes (text.map fun ch => ch.toNat.toUInt8)))
      | _, _ => pure (.template pieces cs.isText)
    | .error e => throw (regexFault cs.chars e)
  | none => do
    let _ ← reading fun h => repl.hash h
    throw ⟨"TypeError", "decoding to str: need a bytes-like object, " ++ repl.typeName h ++ " found"⟩

/-- The error of joining a piece of the wrong kind. -/
def pieceFault (isText : Bool) (h : Heap) (index : Nat) (v : Value) : Raised :=
  ⟨"TypeError", "sequence item " ++ toString index ++ ": expected " ++
    (if isText then "str instance" else "a bytes-like object") ++ ", " ++ v.typeName h ++ " found"⟩

/-- Joins pieces into a text or bytes; each piece must be of that kind. -/
def joinPieces (isText : Bool) (pieces : List Value) : Act Value := do
  let h ← get
  if isText then
    let texts ← pieces.zipIdx.mapM fun (v, i) =>
      match v with
      | .str s => pure s
      | _ => throw (pieceFault true h i v)
    pure (.str (String.join texts))
  else
    let parts ← pieces.zipIdx.mapM fun (v, i) =>
      match bytesOf? h v with
      | some bs => pure bs
      | none => throw (pieceFault false h i v)
    pure (.bytes parts.flatten)

/-- The expansion of a template for a match: its text and the groups' texts, an unmatched
group giving the empty string, joined as the string searched is. -/
def expandTemplate (subject : Value) (isText : Bool) (pieces : List Regex.Piece)
    (m : Regex.Found) (subjectIsText : Bool) : Act Value := do
  let empty ← emptyOf subject
  let values ← pieces.mapM fun piece =>
    match piece with
    | .text cs =>
      pure (if isText then Value.str (String.ofList cs)
        else .bytes (cs.map fun ch => ch.toNat.toUInt8))
    | .group g => do
      let v ← groupText subject m g empty
      if ← v.truthy then pure v else pure empty
  joinPieces subjectIsText values

/-- The pieces of the result of replacing matches from `start`, at most `most` of them when it
is not zero: the text before each match, when not empty, and its replacement unless that is
`None`; with the count of replacements. -/
def replacePieces (call : Value → List Value → Act Value) (c : Compiled) (subject : Value)
    (codes : Array Nat) (r : Replacement) (most : Int) :
    Nat → Nat → Nat → Bool → Nat → Act (List Value × Nat)
  | 0, _, last, _, done => do
    if last < codes.size then pure ([← sliceOf subject last codes.size], done)
    else pure ([], done)
  | fuel + 1, start, last, nonEmpty, done => do
    let more := most == 0 || (done : Int) < most
    match (if more then c.parsed.searchFrom codes start nonEmpty else none) with
    | none =>
      if last < codes.size then pure ([← sliceOf subject last codes.size], done)
      else pure ([], done)
    | some m => do
      let before ← if last < m.start then do pure [← sliceOf subject last m.start] else pure []
      let item ← match r with
        | .plain v => pure v
        | .template pieces isText => expandTemplate subject isText pieces m c.isText
        | .function f => do call f [← newMatch c subject codes.size m]
      let items := if item matches .none then [] else [item]
      let (rest, n) ← replacePieces call c subject codes r most fuel m.stop m.stop
        (m.stop == m.start) (done + 1)
      pure (before ++ items ++ rest, n)

/-- `sub` (the new string) or `subn` (the new string and the count of replacements). -/
def replaceAll (call : Value → List Value → Act Value) (withCount : Bool) (callee : String)
    (args : List Value)
    (kwargs : List (String × Value)) : Act Value := do
  let bound ← reading fun _ => bindParameters callee
    [required "pattern", required "repl", required "string", optional "count", optional "flags"]
    args kwargs
  match bound with
  | [some pattern, some repl, some subject, most, flags] => do
    let c ← compile pattern (flags.getD (.int 0))
    let most ← reading fun h => countOf h (most.getD (.int 0))
    let r ← replacementOf c repl
    let codes ← reading fun h => subjectCodes h c subject
    let (pieces, n) ← replacePieces call c subject codes r most (2 * codes.size + 2) 0 0 false 0
    let result ← if pieces.isEmpty then emptyOf subject else joinPieces c.isText pieces
    if withCount then pure (.tuple [result, .int n]) else pure result
  | _ => pure .none

/-- The characters that `escape` puts a backslash before. -/
def patternSpecials : List Char := "()[]\x7b\x7d?*+-|^$\\.&~# \t\n\r\x0b\x0c".toList

/-- A text with a backslash before each special character. -/
def escapeText (cs : List Char) : List Char :=
  cs.flatMap fun c => if patternSpecials.contains c then ['\\', c] else [c]

/-- `escape`: a text escaped as a text, anything bytes-like escaped as bytes. -/
def escapePattern (args : List Value) (kwargs : List (String × Value)) : Act Value := do
  let bound ← reading fun _ => bindParameters "escape()" [required "pattern"] args kwargs
  match bound with
  | [some (.str s)] => pure (.str (String.ofList (escapeText s.toList)))
  | [some v] => do
    match bytesOf? (← get) v with
    | some bs =>
      pure (.bytes ((escapeText (bs.map fun b => Char.ofNat b.toNat)).map fun c => c.toNat.toUInt8))
    | none =>
      throw ⟨"TypeError", "decoding to str: need a bytes-like object, " ++ v.typeName (← get) ++
        " found"⟩
  | _ => pure .none

/-- `compile` and `template`: the compiled pattern, under the template flag too for the
second. -/
def compileCall (template : Bool) (callee : String) (args : List Value)
    (kwargs : List (String × Value)) : Act Value := do
  let bound ← reading fun _ => bindParameters callee [required "pattern", optional "flags"]
    args kwargs
  match bound with
  | [some pattern, flags] => do
    let flags := flags.getD (.int 0)
    let flags ← if template then do
        pure (Value.int ((← reading fun h => flagsOf h flags) ||| Regex.templateFlag))
      else pure flags
    pure (← compile pattern flags).object
  | _ => pure .none

/-- A function of the pattern module, applied, or `none` for a name it does not have. -/
def patternFunction (call : Value → List Value → Act Value) (m name : String) (args : List Value)
    (kwargs : List (String × Value)) : Option (Act Value) :=
  if m ≠ "re" then none
  else match name with
    | "search" => some (searchOne .anywhere "search()" args kwargs)
    | "match" => some (searchOne .atStart "match()" args kwargs)
    | "fullmatch" => some (searchOne .whole "fullmatch()" args kwargs)
    | "findall" => some (searchAll false "findall()" args kwargs)
    | "finditer" => some (searchAll true "finditer()" args kwargs)
    | "split" => some (splitAt args kwargs)
    | "sub" => some (replaceAll call false "sub()" args kwargs)
    | "subn" => some (replaceAll call true "subn()" args kwargs)
    | "escape" => some (escapePattern args kwargs)
    | "compile" => some (compileCall false "compile()" args kwargs)
    | "template" => some (compileCall true "template()" args kwargs)
    | "purge" => some (do
        let _ ← reading fun _ => bindParameters "purge()" [] args kwargs
        pure .none)
    | _ => none

end ItemRecommender.Object
