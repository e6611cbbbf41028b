import ItemRecommender.Object.Library.Arguments
import ItemRecommender.Text.Markup
/-! # Markup

    The functions of the markup module on values (`Text.Markup`): `escape` writes the
    characters of markup as references, and `unescape` reads references back.

    Both work on texts. Escaping anything else fails at its first replacement: a byte string
    cannot replace texts, and other values have no replacement at all. Unescaping first asks
    whether an ampersand is in the value, as `in` does, and returns a value without one as it
    is; a value other than a text that holds one cannot be searched for references. -/

namespace ItemRecommender.Object

open ItemRecommender.Text

/-- `escape`: the text with `&`, `<` and `>` written as references, and the quotes too unless
`quote` is false. -/
def escapeCall (args : List Value) (kwargs : List (String × Value)) : Act Value := do
  match ← reading fun _ => bindParameters "escape()" [required "s", optional "quote"]
      args kwargs with
  | [some s, quotes] =>
    let h ← get
    match s with
    | .str t => do
      let quotes ← match quotes with
        | some v => v.truthy
        | none => pure true
      pure (.str (String.ofList (escapeMarkup quotes t.toList)))
    | _ =>
      if (bytesOf? h s).isSome then
        throw ⟨"TypeError", "a bytes-like object is required, not 'str'"⟩
      else throw ⟨"AttributeError", quote (s.typeName h) ++ " object has no attribute 'replace'"⟩
  | _ => pure .none

/-- `unescape`: the text with its references replaced; a value without an ampersand as it is. -/
def unescapeCall (args : List Value) (kwargs : List (String × Value)) : Act Value := do
  match ← reading fun _ => bindParameters "unescape()" [required "s"] args kwargs with
  | [some s] =>
    if !(← s.contains (.str "&")) then return s
    match s with
    | .str t => pure (.str (String.ofList (unescapeMarkup t.toList)))
    | _ =>
      let h ← get
      throw ⟨"TypeError", "expected string or bytes-like object, got " ++ quote (s.typeName h)⟩
  | _ => pure .none

/-- A function of the markup module applied, or `none` for another function. -/
def markupFunction (m name : String) (args : List Value) (kwargs : List (String × Value)) :
    Option (Act Value) :=
  if m ≠ "html" then none
  else match name with
    | "escape" => some (escapeCall args kwargs)
    | "unescape" => some (unescapeCall args kwargs)
    | _ => none

end ItemRecommender.Object
