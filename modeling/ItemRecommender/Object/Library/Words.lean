import ItemRecommender.Object.Library.Arguments
import ItemRecommender.Text.Casing
/-! # Words

    The reserved words of the language, which can never name anything, and its soft keywords,
    which are reserved only where a statement they start may stand. A word is one of them when
    it is a text equal to one of the list; asking about a value first hashes it, so a value
    that cannot be hashed is refused.

    Capitalizing the words of a text splits it at runs of blanks, or at each occurrence of a
    separator, capitalizes each piece (`Text.capitalizeWord`) and joins the pieces with a
    single space, or with the separator. -/

namespace ItemRecommender.Object

open ItemRecommender.Text

/-- The reserved words, in alphabetical order. -/
def reservedWords : List String :=
  ["False", "None", "True", "and", "as", "assert", "async", "await", "break", "class",
    "continue", "def", "del", "elif", "else", "except", "finally", "for", "from", "global",
    "if", "import", "in", "is", "lambda", "nonlocal", "not", "or", "pass", "raise", "return",
    "try", "while", "with", "yield"]

/-- The soft keywords. -/
def softKeywords : List String := ["_", "case", "match"]

/-- Whether a value is one of the words: a set's membership test, which hashes the value
first. -/
def isWordOf (words : List String) (args : List Value) (kwargs : List (String × Value)) :
    Act Value := do
  if !kwargs.isEmpty then throw (keywordsRefused "frozenset.__contains__")
  match args with
  | [x] => do
    let _ ← reading fun h => x.hash h
    match x with
    | .str s => pure (.bool (words.contains s))
    | _ => pure (.bool false)
  | _ => throw (singleFault "frozenset.__contains__" args.length)

/-- The pieces `split` cuts a text or byte string into: at runs of blanks without a separator,
else at each occurrence of it. -/
def splitPieces (h : Heap) (text : Value) (sep : Value) : Except Raised (Option (List (List Char))) :=
  match text with
  | .str s =>
    match sep with
    | .none => pure (some (blankWords s.toList))
    | .str t =>
      if t.isEmpty then throw ⟨"ValueError", "empty separator"⟩
      else pure (some ((s.splitOn t).map String.toList))
    | v => throw ⟨"TypeError", "must be str or None, not " ++ v.typeName h⟩
  | v =>
    match bytesOf? h v with
    | some bs =>
      match sep with
      | .none =>
        let words := (bs.splitOnP fun b => b = 32 ∨ (9 ≤ b ∧ b ≤ 13)).filter (!·.isEmpty)
        pure (if words.isEmpty then some [] else none)
      | t =>
        match bytesOf? h t with
        | some [] => throw ⟨"ValueError", "empty separator"⟩
        | some _ => pure none
        | none => throw ⟨"TypeError", "a bytes-like object is required, not '" ++ t.typeName h ++ "'"⟩
    | none => throw ⟨"AttributeError", "'" ++ v.typeName h ++ "' object has no attribute 'split'"⟩

/-- `string.capwords`: the words of a text capitalized, joined by the separator if it is
given and not empty, else by a space. The pieces of a byte string cannot be capitalized. -/
def capitalizeWords (args : List Value) (kwargs : List (String × Value)) : Act Value := do
  let bound ← reading fun _ => bindParameters "capwords()" [required "s", optional "sep"] args kwargs
  match bound with
  | [some text, sep] => do
    let h ← get
    let sep := sep.getD .none
    let joiner ← do if ← sep.truthy then pure sep else pure (Value.str " ")
    let joinsBytes := (bytesOf? h joiner).isSome
    match joiner with
    | .str _ => pure ()
    | _ =>
      if !joinsBytes then
        throw ⟨"AttributeError", "'" ++ joiner.typeName h ++ "' object has no attribute 'join'"⟩
    match ← reading fun h => splitPieces h text sep with
    | none => throw ⟨"TypeError", "descriptor 'capitalize' for 'str' objects doesn't apply to a '" ++
        text.typeName h ++ "' object"⟩
    | some pieces =>
      match joiner with
      | .str t => pure (.str (String.intercalate t (pieces.map fun w => String.ofList (capitalizeWord w))))
      | _ =>
        if pieces.isEmpty then pure (.bytes [])
        else throw ⟨"TypeError", "sequence item 0: expected a bytes-like object, str found"⟩
  | _ => pure .none

/-- A function of the keyword module or of the string module, applied, or `none` for a name
they do not have. -/
def wordFunction (m name : String) (args : List Value) (kwargs : List (String × Value)) :
    Option (Act Value) :=
  if m = "keyword" then
    match name with
    | "iskeyword" => some (isWordOf reservedWords args kwargs)
    | "issoftkeyword" => some (isWordOf softKeywords args kwargs)
    | _ => none
  else if m = "string" ∧ name = "capwords" then some (capitalizeWords args kwargs)
  else none

end ItemRecommender.Object
