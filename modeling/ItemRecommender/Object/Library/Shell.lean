import ItemRecommender.Object.Library.Arguments
import ItemRecommender.Text.ShellWords
/-! # Shell words on values

    The functions of the shell-lexing module on values (`Text.ShellWords`): `quote` quotes a
    word, `join` quotes each word of a sequence and joins them with spaces, and `split` splits
    a text into words.

    Quoting first asks whether the word is true: a false value of any type is the empty word
    `''`. Any other value that is not a text cannot be searched for characters that need
    quotes. Splitting reads its text as a stream, so any other value fails as one that cannot
    be read; its two flags read comments and choose the default mode. -/

namespace ItemRecommender.Object

open ItemRecommender.Text

/-- `quote`: a word quoted for a shell. -/
def quoteWord (v : Value) : Act Value := do
  if !(← v.truthy) then return .str "''"
  match v with
  | .str s => pure (.str (String.ofList (shellQuote s.toList)))
  | _ =>
    let h ← get
    match bytesOf? h v with
    | some _ => throw ⟨"TypeError", "cannot use a string pattern on a bytes-like object"⟩
    | none =>
      throw ⟨"TypeError", "expected string or bytes-like object, got " ++ quote (v.typeName h)⟩

/-- `split`: the shell words of a text, as a new list. -/
def splitWords (args : List Value) (kwargs : List (String × Value)) : Act Value := do
  match ← reading fun _ => bindParameters "split()"
      [required "s", optional "comments", optional "posix"] args kwargs with
  | [some s, comments, posix] => do
    let posix ← match posix with
      | some v => v.truthy
      | none => pure true
    let comments ← match comments with
      | some v => v.truthy
      | none => pure false
    match s with
    | .str t =>
      match shellSplit posix comments t.toList with
      | .ok words => newList (words.map fun w => .str (String.ofList w))
      | .error e => throw ⟨"ValueError", e.message⟩
    | _ =>
      let h ← get
      throw ⟨"AttributeError", quote (s.typeName h) ++ " object has no attribute 'read'"⟩
  | _ => pure .none

/-- `join`: the words of a sequence, each quoted, joined with spaces. -/
def joinWords (args : List Value) (kwargs : List (String × Value)) : Act Value := do
  match ← reading fun _ => bindParameters "join()" [required "split_command"] args kwargs with
  | [some command] => do
    let quoted ← (← command.elements).mapM quoteWord
    let texts := quoted.map fun v => match v with
      | .str s => s
      | _ => ""
    pure (.str (" ".intercalate texts))
  | _ => pure .none

/-- A function of the shell-lexing module applied, or `none` for another function. -/
def shellFunction (m name : String) (args : List Value) (kwargs : List (String × Value)) :
    Option (Act Value) :=
  if m ≠ "shlex" then none
  else match name with
    | "quote" => some do
      match ← reading fun _ => bindParameters "quote()" [required "s"] args kwargs with
      | [some s] => quoteWord s
      | _ => pure .none
    | "split" => some (splitWords args kwargs)
    | "join" => some (joinWords args kwargs)
    | _ => none

end ItemRecommender.Object
