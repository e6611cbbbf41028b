import ItemRecommender.Regex.Parse
/-! # Regular expressions: replacement templates

    A replacement is written as a template: text with escapes, where `\g<name>`, `\g<number>`
    and `\number` stand for what a group of the match recorded, `\0` with up to two more octal
    digits and three octal digits stand for a character, the escapes of a single letter (`\n`,
    `\t`, ...) stand for their characters, and a backslash before anything else but an ASCII
    letter stays as it is. A group the pattern does not have is refused, as is an escape of an
    ASCII letter with no meaning. Expanding a template for a match joins the text and the
    groups' text, an unmatched group giving nothing. -/

namespace ItemRecommender.Regex

/-- A piece of a template. -/
inductive Piece where
  | text (cs : List Char)
  | group (gid : Nat)
  deriving DecidableEq, Repr

/-- Adds characters to the pieces of a template, joining them to the text before them. -/
def addText (pieces : Array Piece) (cs : List Char) : Array Piece :=
  match pieces.back? with
  | some (.text before) => pieces.pop.push (.text (before ++ cs))
  | _ => pieces.push (.text cs)

/-- Reads a template for a pattern of `groups` groups with some named ones. -/
def parseTemplate (template : List Char) (isText : Bool) (groups : Nat)
    (names : List (String × Nat)) : Except Error (List Piece) := do
  let start : ParseState :=
    { reader := ⟨template.toArray, isText, 0, none⟩, flags := 0, names := [], widths := #[],
      lookbehindGroups := none, refPositions := [] }
  let addGroup (pieces : Array Piece) (gid offset : Nat) : Parser (Array Piece) := do
    if groups < gid then failWith ("invalid group reference " ++ toString gid) offset
    pure (pieces.push (.group gid))
  let reading : Parser (List Piece) := do
    advance
    let mut pieces : Array Piece := #[]
    for _ in [0:← tokenBound] do
      let some this ← take | break
      match this with
      | .plain c => pieces := addText pieces [c]
      | .escaped c =>
        if c = 'g' then
          if !(← accept '<') then failWith "missing <" 0
          let name ← takeName '>' "group name"
          let text := String.ofList name
          if Text.isIdentifier name then
            checkGroupName name 1
            match names.lookup text with
            | some gid => pieces ← addGroup pieces gid (name.length + 1)
            | none => throw (Error.unknownGroupName text)
          else
            match ItemRecommender.Decimal.readIntLiteral? name with
            | some v =>
              if v < 0 then
                failWith ("bad character in group name " ++ Text.quote text) (name.length + 1)
              if groupLimit ≤ v.toNat then
                failWith ("invalid group reference " ++ toString v) (name.length + 1)
              pieces ← addGroup pieces v.toNat (name.length + 1)
            | none => failWith ("bad character in group name " ++ Text.quote text) (name.length + 1)
        else if c = '0' then
          let ds ← takeWhileIn 2 octDigitChars
          pieces := addText pieces [Char.ofNat (digitsValue 8 ds % 256)]
        else if c.isDigit then
          let mut digits := [c]
          let mut octal := false
          match ← peek with
          | some (.plain d) =>
            if d.isDigit then
              advance
              digits := [c, d]
              if octDigitChars.contains c && octDigitChars.contains d then
                match ← peek with
                | some (.plain e) =>
                  if octDigitChars.contains e then
                    advance
                    octal := true
                    let v := digitsValue 8 [c, d, e]
                    if 0o377 < v then
                      failWith ("octal escape value \\" ++ String.ofList [c, d, e] ++
                        " outside of range 0-0o377") 4
                    pieces := addText pieces [Char.ofNat v]
                | _ => pure ()
          | _ => pure ()
          if !octal then pieces ← addGroup pieces (digitsValue 10 digits) digits.length
        else
          match simpleEscape? c with
          | some v => pieces := addText pieces [Char.ofNat v]
          | none =>
            if ('a' ≤ c && c ≤ 'z') || ('A' ≤ c && c ≤ 'Z') then
              failWith ("bad escape \\" ++ String.ofList [c]) 2
            pieces := addText pieces ['\\', c]
    pure pieces.toList
  let (pieces, _) ← reading.run start
  pure pieces

/-- A template of text only. -/
def literalOf? : List Piece → Option (List Char)
  | [] => some []
  | [.text cs] => some cs
  | _ => none

end ItemRecommender.Regex
