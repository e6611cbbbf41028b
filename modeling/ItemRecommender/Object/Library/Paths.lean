import ItemRecommender.Object.Library.Arguments
import ItemRecommender.PathName
import ItemRecommender.Text.ByteEscape
import ItemRecommender.Text.Glob
/-! # Path names and shell patterns

    The path functions take a text or a byte string, and give back the same kind; a byte string
    is read as the characters of its bytes. Any other value is refused as not a path. The
    separator is `/`.

    * The tail of a path is what follows its last separator; its head is what comes before,
      without trailing separators unless it is all separators.
    * The extension is the last `.` of the tail and what follows it, when something other than
      a dot comes before it in the tail.
    * The normal form drops empty and `.` components and lets `..` cancel what comes before it
      (`PathName.normal`); exactly two leading separators are kept apart from one.
    * Joining appends each part after a separator, and a part that starts with one starts the
      path afresh.
    * The common prefix of paths is that of their least and greatest, character by character;
      the common path is that of their components.

    A shell pattern matches a whole name (`Text.Glob`); it must be of the kind of the name. -/

namespace ItemRecommender.Object

open ItemRecommender.Text

/-- A path as the path functions read it: its characters, and whether it is a byte string. -/
structure PathText where
  chars : List Char
  binary : Bool

/-- The value of a path: a byte string or a text, as it came. -/
def PathText.value (p : PathText) : Value :=
  if p.binary then .bytes (p.chars.map fun c => c.toNat.toUInt8) else .str (String.ofList p.chars)

/-- A path of the same kind with other characters. -/
def PathText.same (p : PathText) (cs : List Char) : Value := { p with chars := cs }.value

/-- The path a text or byte string is. -/
def pathText? : Value → Option PathText
  | .str s => some ⟨s.toList, false⟩
  | .bytes bs => some ⟨bs.map fun b => Char.ofNat b.toNat, true⟩
  | _ => none

/-- The path a value stands for, or the error of a value that is none. -/
def fsPath (h : Heap) (v : Value) : Except Raised PathText :=
  match pathText? v with
  | some p => pure p
  | none => throw ⟨"TypeError", "expected str, bytes or os.PathLike object, not " ++ v.typeName h⟩

/-- The last component of a path: what follows its last separator. -/
def pathTail (cs : List Char) : List Char := (cs.reverse.takeWhile (· != '/')).reverse

/-- What comes before the last component of a path, without its trailing separators unless it
is all separators. -/
def pathHead (cs : List Char) : List Char :=
  let head := cs.take (cs.length - (pathTail cs).length)
  if head.all (· == '/') then head else (head.reverse.dropWhile (· == '/')).reverse

/-- A path cut before the extension of its last component, if that has one. -/
def splitExtension (cs : List Char) : List Char × List Char :=
  let tail := pathTail cs
  let start := cs.length - tail.length
  match tail.reverse.findIdx? (· == '.') with
  | some r =>
    let dot := tail.length - 1 - r
    if (tail.take dot).any (· != '.') then (cs.take (start + dot), cs.drop (start + dot))
    else (cs, [])
  | none => (cs, [])

/-- The normal form of a path. -/
def normalPath (cs : List Char) : List Char :=
  (PathName.ofString (String.ofList cs)).normal.render.toList

/-- The longest common start of two lists. -/
def commonStart {α : Type} [BEq α] : List α → List α → List α
  | x :: xs, y :: ys => if x == y then x :: commonStart xs ys else []
  | _, _ => []

/-- The error of a part of a path to join, or of parts of both kinds. -/
def joinFault (h : Heap) (function : String) (parts : List Value) : Raised :=
  match parts.find? fun v => (pathText? v).isNone with
  | some v => ⟨"TypeError", function ++ "() argument must be str, bytes, or os.PathLike object, not " ++
      quote (v.typeName h)⟩
  | none => ⟨"TypeError", "Can't mix strings and bytes in path components"⟩

/-- Paths joined. -/
def joinPaths (h : Heap) (first : Value) (rest : List Value) : Except Raised Value := do
  let start ← fsPath h first
  let parts ← match rest.mapM pathText? with
    | some ps => pure ps
    | none => throw (joinFault h "join" (first :: rest))
  if parts.any (·.binary != start.binary) then throw (joinFault h "join" (first :: rest))
  pure (start.same (parts.foldl (fun path b =>
    if b.chars.head? = some '/' then b.chars
    else if path.isEmpty ∨ path.getLast? = some '/' then path ++ b.chars
    else path ++ '/' :: b.chars) start.chars))

/-- How many items at the front of two lists are equal. -/
def equalRun (h : Heap) : List Value → List Value → Except Raised Nat
  | x :: xs, y :: ys => do
    if ← Value.equals h x y then pure ((← equalRun h xs ys) + 1) else pure 0
  | _, _ => pure 0

/-- The common prefix of a list of paths, or of a list of sequences. -/
def commonPrefix (m : Value) : Act Value := do
  if !(← m.truthy) then return .str ""
  let items ← m.elements
  let h ← get
  let sequences := match items.head? with
    | some (.tuple _) | some (.named ..) => true
    | some v => (sequenceItems? h v).isSome
    | none => false
  let items ← if sequences then pure items
    else reading fun h => items.mapM fun v => do pure (← fsPath h v).value
  match items with
  | [] => pure (.str "")
  | first :: rest =>
    let s1 ← Value.extreme false first rest
    let s2 ← Value.extreme true first rest
    match s1, s2 with
    | .str a, .str b => pure (.str (String.ofList (commonStart a.toList b.toList)))
    | .bytes a, .bytes b => pure (.bytes (commonStart a b))
    | _, _ =>
      match sequenceItems? h s1, sequenceItems? h s2 with
      | some (isList, xs), some (_, ys) =>
        let same ← reading fun h => equalRun h xs ys
        let kept := xs.take same
        if isList then newList kept else pure (.tuple kept)
      | _, _ => pure s1

/-- The longest common path of paths, by components. -/
def commonPath (paths : Value) : Act Value := do
  if !(← paths.truthy) then throw ⟨"ValueError", "commonpath() arg is an empty sequence"⟩
  let items ← paths.elements
  let texts ← reading fun h => items.mapM (fsPath h)
  match texts with
  | [] => throw ⟨"ValueError", "commonpath() arg is an empty sequence"⟩
  | first :: _ =>
    if texts.any (·.binary != first.binary) then
      throw ⟨"TypeError", "Can't mix strings and bytes in path components"⟩
    let absolute (p : PathText) : Bool := p.chars.head? == some '/'
    if texts.any (absolute · != absolute first) then
      throw ⟨"ValueError", "Can't mix absolute and relative paths"⟩
    let parts := texts.map fun p => (cutAt '/' p.chars).filter fun c => c ≠ [] ∧ c ≠ ['.']
    let common := match parts with
      | [] => []
      | p :: more => more.foldl commonStart p
    let body := List.intercalate ['/'] common
    pure (first.same (if absolute first then '/' :: body else body))

/-- A shell pattern ready to match: its characters and whether it matches byte strings. A
tuple of single characters is read as the text of them. -/
def globPattern (h : Heap) (pat : Value) : Except Raised PathText :=
  match pathText? pat with
  | some p => pure p
  | none =>
    let single : Value → Option Char := fun v =>
      match v with
      | .str s => match s.toList with
        | [c] => some c
        | _ => none
      | _ => none
    match pat with
    | .tuple xs | .named _ _ xs =>
      match xs.mapM single with
      | some cs => pure ⟨cs, false⟩
      | none => throw ⟨"TypeError", "object of type " ++ quote (pat.typeName h) ++ " has no len()"⟩
    | .ref a =>
      match h.get a with
      | .list _ | .dict .. | .set .. | .bytearray _ => throw (unhashable (pat.typeName h))
      | _ => throw ⟨"TypeError", "object of type " ++ quote (pat.typeName h) ++ " has no len()"⟩
    | _ => throw ⟨"TypeError", "object of type " ++ quote (pat.typeName h) ++ " has no len()"⟩

/-- Whether a shell pattern matches a name, which must be of the pattern's kind. -/
def globName (h : Heap) (pattern : PathText) (name : Value) : Except Raised Bool :=
  match name, bytesOf? h name with
  | .str s, _ =>
    if pattern.binary then throw ⟨"TypeError", "cannot use a bytes pattern on a string-like object"⟩
    else pure (globMatches pattern.chars s.toList)
  | _, some bs =>
    if pattern.binary then pure (globMatches pattern.chars (bs.map fun b => Char.ofNat b.toNat))
    else throw ⟨"TypeError", "cannot use a string pattern on a bytes-like object"⟩
  | _, none => throw ⟨"TypeError", "expected string or bytes-like object, got " ++
      quote (name.typeName h)⟩

/-- A text written as file-name bytes, its surrogates that keep bytes written as those. -/
def fileNameBytes (s : String) : Except Raised (List UInt8) :=
  let cs := s.toList
  match encodeEscaping cs with
  | .ok bs => pure bs
  | .error (i, j) =>
    let what := if i = j then "character '" ++ escapedChar (cs.getD i ' ') ++ "' in position " ++
        toString i
      else "characters in position " ++ toString i ++ "-" ++ toString j
    throw ⟨"UnicodeEncodeError", "'utf-8' codec can't encode " ++ what ++ ": surrogates not allowed"⟩

/-- A function of the path modules, applied, or `none` for a name they do not have. -/
def pathFunction (m name : String) (args : List Value) (kwargs : List (String × Value)) :
    Option (Act Value) :=
  let one (param : String) (run : Value → Act Value) : Act Value := do
    match ← reading fun _ => bindParameters (name ++ "()") [required param] args kwargs with
    | [some p] => run p
    | _ => pure .none
  let path (param : String) (run : PathText → Act Value) : Act Value :=
    one param fun p => do run (← reading fun h => fsPath h p)
  let two (a b : String) (run : Value → Value → Act Value) : Act Value := do
    match ← reading fun _ => bindParameters (name ++ "()") [required a, required b] args kwargs with
    | [some x, some y] => run x y
    | _ => pure .none
  if m = "posixpath" ∨ m = "genericpath" then
    match name with
    | "basename" => some (path "p" fun p => pure (p.same (pathTail p.chars)))
    | "dirname" => some (path "p" fun p => pure (p.same (pathHead p.chars)))
    | "split" => some (path "p" fun p =>
        pure (.tuple [p.same (pathHead p.chars), p.same (pathTail p.chars)]))
    | "splitext" => some (path "p" fun p =>
        let (root, ext) := splitExtension p.chars
        pure (.tuple [p.same root, p.same ext]))
    | "splitdrive" => some (path "p" fun p => pure (.tuple [p.same [], p.value]))
    | "normcase" => some (path "s" fun p => pure p.value)
    | "normpath" => some (path "path" fun p => pure (p.same (normalPath p.chars)))
    | "isabs" => some (path "s" fun p => pure (.bool (p.chars.head? = some '/')))
    | "join" => some do
      if let some (k, _) := kwargs.head? then
        throw ⟨"TypeError", "join() got an unexpected keyword argument " ++ quote k⟩
      match args with
      | [] => throw ⟨"TypeError", "join() missing 1 required positional argument: 'a'"⟩
      | first :: rest => reading fun h => joinPaths h first rest
    | "commonprefix" => some (one "m" commonPrefix)
    | "commonpath" => some (one "paths" commonPath)
    | _ => none
  else if m = "os" ∨ m = "posix" then
    match name with
    | "fspath" => some do
      match ← reading fun _ => bindKeywords "fspath" [required "path"] args kwargs with
      | [some p] => do pure (← reading fun h => fsPath h p).value
      | _ => pure .none
    | "fsencode" => some do
      match ← reading fun _ => bindParameters "_fscodec.<locals>.fsencode()" [required "filename"]
          args kwargs with
      | [some v] =>
        let p ← reading fun h => fsPath h v
        if p.binary then pure p.value
        else do pure (.bytes (← reading fun _ => fileNameBytes (String.ofList p.chars)))
      | _ => pure .none
    | "fsdecode" => some do
      match ← reading fun _ => bindParameters "_fscodec.<locals>.fsdecode()" [required "filename"]
          args kwargs with
      | [some v] =>
        let p ← reading fun h => fsPath h v
        if p.binary then
          pure (.str (String.ofList (decodeEscaping (p.chars.map fun c => c.toNat.toUInt8))))
        else pure p.value
      | _ => pure .none
    | _ => none
  else if m = "fnmatch" then
    match name with
    | "fnmatch" => some (two "name" "pat" fun n p => reading fun h => do
        let n ← fsPath h n
        let p ← fsPath h p
        pure (.bool (← globName h p n.value)))
    | "fnmatchcase" => some (two "name" "pat" fun n p => reading fun h => do
        let p ← globPattern h p
        pure (.bool (← globName h p n)))
    | "filter" => some (two "names" "pat" fun names p => do
        let p ← reading fun h => fsPath h p
        let items ← names.elements
        let kept ← reading fun h => items.filterM (globName h p)
        newList kept)
    | _ => none
  else none

end ItemRecommender.Object
