import ItemRecommender.Regex.Match
import ItemRecommender.Regex.Parse
import ItemRecommender.Text.Blank
import ItemRecommender.Text.LineBreak
/-!
# Wrapping paragraphs

A paragraph is wrapped into lines of at most a given width in three steps.

1. Its tabs are expanded to the next multiple of the tab size (a non-positive size drops them),
   and each ASCII blank (tab, line feed, vertical tab, form feed, carriage return, space)
   becomes a space.
2. It is cut into chunks: runs of blanks, and words between them. Under `splitAtHyphens` a
   word is cut further after a hyphen between two letters, and at a dash of two or more hyphens
   between words (`wordSeparators`). A sentence end (a lower-case ASCII letter, a stop, `!` or
   `?`, and perhaps a quote) followed by one space may get a second space.
3. Lines are filled greedily: each takes the chunks that fit after its indent, a first line one
   indent and the others another. A chunk longer than any line is cut where the line ends, or
   after its last hyphen before that when it has one that follows something other than
   hyphens; when long words may not be cut, such a word gets a line of its own. Blank chunks
   at the ends of a line are dropped, except at the very start of the paragraph.

With a most count of lines, the last line allowed ends in a placeholder: the chunks that do not
leave room for it after a word are taken off again, and when none is left the placeholder is
put after the line before, or on a line of its own.

A text is dedented by the longest run of spaces and tabs that starts all its lines that hold
something other than blanks, after the lines of spaces and tabs alone are emptied; and it is
indented by putting a prefix before the lines a test picks, by default those that are not
blank.
-/

namespace ItemRecommender.Text

/-- How a paragraph is wrapped. -/
structure WrapStyle where
  /-- The width of a line, whole (a fractional width is rounded down). -/
  width : Int
  /-- Whether the width was a whole number; a long word is only cut at a whole width. -/
  wholeWidth : Bool := true
  initialIndent : List Char := []
  subsequentIndent : List Char := []
  expandTabs : Bool := true
  replaceWhitespace : Bool := true
  fixSentenceEndings : Bool := false
  breakLongWords : Bool := true
  dropWhitespace : Bool := true
  /-- Whether words are cut into chunks at their hyphens. -/
  splitAtHyphens : Bool := true
  /-- Whether a long word is cut after a hyphen. -/
  breakOnHyphens : Bool := true
  tabSize : Int := 8
  maxLines : Option Int := none
  placeholder : List Char := " [...]".toList

/-- Why a paragraph cannot be wrapped. -/
inductive WrapError where
  /-- The width is not positive. -/
  | invalidWidth
  /-- The indent of the last line allowed and the placeholder do not fit in the width. -/
  | placeholderTooLarge
  /-- A long word must be cut at a fractional width. -/
  | fractionalCut
  deriving DecidableEq, Repr

/-- The blanks that wrapping turns into spaces. -/
def isWrapBlank (c : Char) : Bool :=
  c = '\t' || c = '\n' || c = '\x0b' || c = '\x0c' || c = '\r' || c = ' '

/-- A text with its tabs expanded to the next multiple of `size`, the column counted from
`column` and starting again after a line feed or carriage return. -/
def expandTabsFrom (size : Int) : List Char → Nat → List Char
  | [], _ => []
  | '\t' :: rest, column =>
    if 0 < size then
      let n := size.toNat - column % size.toNat
      List.replicate n ' ' ++ expandTabsFrom size rest (column + n)
    else expandTabsFrom size rest column
  | c :: rest, column =>
    c :: expandTabsFrom size rest (if c = '\n' ∨ c = '\r' then 0 else column + 1)

/-- The pattern of chunks that cuts words at hyphens and dashes. -/
def wordSeparatorPattern : String :=
  "([\\t\\n\\x0b\\x0c\\r ]+|(?<=[\\w!\"\\x27&.,?])-\x7b2,\x7d(?=\\w)|[^\\t\\n\\x0b\\x0c\\r ]+?" ++
  "(?:-(?:(?<=[^\\d\\W]\x7b2\x7d-)|(?<=[^\\d\\W]-[^\\d\\W]-))(?=[^\\d\\W]-?[^\\d\\W])" ++
  "|(?=[\\t\\n\\x0b\\x0c\\r ]|\\Z)|(?<=[\\w!\"\\x27&.,?])(?=-\x7b2,\x7d\\w)))"

/-- The chunk pattern, read once. -/
def wordSeparators : Option Regex.Parsed :=
  (Regex.parsePattern wordSeparatorPattern.toList true 0).toOption

/-- A text cut at the matches of a pattern, each match a chunk of its own, empty pieces left
out. -/
def cutAtMatches (pat : Regex.Parsed) (text : List Char) : List (List Char) :=
  let found := pat.allMatches (text.map codePoint).toArray
  let piece (s e : Nat) : List Char := (text.drop s).take (e - s)
  let (pieces, last) := found.foldl (fun (acc : List (List Char) × Nat) m =>
    (piece m.start m.stop :: piece acc.2 m.start :: acc.1, m.stop)) ([], 0)
  ((piece last text.length :: pieces).reverse).filter (!·.isEmpty)

/-- The chunks of a prepared text. -/
def WrapStyle.chunksOf (st : WrapStyle) (text : List Char) : List (List Char) :=
  match st.splitAtHyphens, wordSeparators with
  | true, some pat => cutAtMatches pat text
  | _, _ => text.splitBy fun a b => isWrapBlank a == isWrapBlank b

/-- A text with tabs expanded and blanks made spaces, as the style asks. -/
def WrapStyle.prepare (st : WrapStyle) (text : List Char) : List Char :=
  let expanded := if st.expandTabs then expandTabsFrom st.tabSize text 0 else text
  if st.replaceWhitespace then expanded.map fun c => if isWrapBlank c then ' ' else c
  else expanded

/-- Whether a chunk ends a sentence: a lower-case ASCII letter, a stop, `!` or `?`, and perhaps
a quote, at its very end. -/
def endsSentence (chunk : List Char) : Bool :=
  let stop (r : List Char) : Bool :=
    match r with
    | p :: l :: _ => (p = '.' || p = '!' || p = '?') && 'a' ≤ l && l ≤ 'z'
    | _ => false
  match chunk.reverse with
  | q :: rest => stop (q :: rest) || ((q = '"' || q = '\'') && stop rest)
  | [] => false

/-- Chunks with a second space after each sentence end followed by one space. -/
def fixEndings : List (List Char) → List (List Char)
  | a :: tail@(b :: rest) =>
    if b = [' '] ∧ endsSentence a then a :: [' ', ' '] :: fixEndings rest
    else a :: fixEndings tail
  | cs => cs

/-- The chunks that fit one after another in `width` after `used` characters, and those left. -/
def takeFitting (width : Int) (used : Nat) : List (List Char) → List (List Char) × List (List Char)
  | c :: rest =>
    if ((used + c.length : Nat) : Int) ≤ width then
      let (taken, left) := takeFitting width (used + c.length) rest
      (c :: taken, left)
    else ([], c :: rest)
  | [] => ([], [])

/-- The count of characters in chunks. -/
def totalLength (chunks : List (List Char)) : Nat :=
  chunks.foldl (fun n c => n + c.length) 0

/-- The position of the last hyphen among the first `n` characters of a chunk. -/
def lastHyphenBefore (chunk : List Char) (n : Nat) : Option Nat :=
  ((chunk.take n).zipIdx.filter (·.1 = '-')).getLast?.map (·.2)

/-- A chunk too long for any line, met after a line of `used` characters in `width`: cut
where the line ends or after a hyphen, or put whole on an empty line, or left for the next
line. Gives the line and the chunks left. -/
def WrapStyle.placeLongWord (st : WrapStyle) (width : Int) (used : Nat) (line : List (List Char)) :
    List (List Char) → Except WrapError (List (List Char) × List (List Char))
  | [] => pure (line, [])
  | chunk :: rest =>
    let spaceLeft : Nat := if width < 1 then 1 else (width - used).toNat
    if st.breakLongWords then do
      if !st.wholeWidth && 1 ≤ width then throw .fractionalCut
      let cut :=
        if st.breakOnHyphens && spaceLeft < chunk.length then
          match lastHyphenBefore chunk spaceLeft with
          | some i => if 0 < i && (chunk.take i).any (· ≠ '-') then i + 1 else spaceLeft
          | none => spaceLeft
        else spaceLeft
      pure (line ++ [chunk.take cut], chunk.drop cut :: rest)
    else if line.isEmpty then pure (line ++ [chunk], rest)
    else pure (line, chunk :: rest)

/-- The chunks of a line, last first, cut back until the last is a word after which the
placeholder fits; `used` is their length. -/
def fitPlaceholder (room : Int) (placeholderLength : Nat) :
    List (List Char) → Nat → Option (List (List Char))
  | [], _ => none
  | last :: before, used =>
    if !isBlankText last && ((used + placeholderLength : Nat) : Int) ≤ room then
      some (last :: before)
    else fitPlaceholder room placeholderLength before (used - last.length)

/-- The lines when the line being filled is the last one allowed and more text follows: it ends
in the placeholder, or the placeholder goes after the line before, or on a line of its own. -/
def WrapStyle.closeWith (st : WrapStyle) (lines : Array (List Char)) (indent : List Char)
    (width : Int) (line : List (List Char)) (used : Nat) : Array (List Char) :=
  match fitPlaceholder width st.placeholder.length line.reverse used with
  | some kept => lines.push (indent ++ kept.reverse.flatten ++ st.placeholder)
  | none =>
    let own := lines.push (indent ++ st.placeholder.dropWhile isBlank)
    match lines.back? with
    | some before =>
      let trimmed := (before.reverse.dropWhile isBlank).reverse
      if ((trimmed.length + st.placeholder.length : Nat) : Int) ≤ st.width then
        lines.pop.push (trimmed ++ st.placeholder)
      else own
    | none => own

/-- The lines of wrapped chunks after `lines`; each round fills one line and consumes at least
one chunk or character, so `fuel` of the chunks' count and length suffices. -/
def WrapStyle.fillLines (st : WrapStyle) :
    Nat → List (List Char) → Array (List Char) → Except WrapError (Array (List Char))
  | 0, _, lines => pure lines
  | _ + 1, [], lines => pure lines
  | fuel + 1, chunks, lines => do
    let indent := if lines.isEmpty then st.initialIndent else st.subsequentIndent
    let width : Int := st.width - indent.length
    let chunks :=
      match chunks with
      | c :: rest => if st.dropWhitespace && isBlankText c && !lines.isEmpty then rest else chunks
      | [] => []
    let (line, chunks) := takeFitting width 0 chunks
    let (line, chunks) ← match chunks with
      | c :: _ =>
        if width < c.length then st.placeLongWord width (totalLength line) line chunks
        else pure (line, chunks)
      | [] => pure (line, chunks)
    let used := totalLength line
    let (line, used) :=
      match line.getLast? with
      | some last =>
        if st.dropWhitespace && isBlankText last then (line.dropLast, used - last.length)
        else (line, used)
      | none => (line, used)
    if line.isEmpty then st.fillLines fuel chunks lines
    else
      let lastLeft :=
        match chunks with
        | [] => true
        | [c] => st.dropWhitespace && isBlankText c
        | _ => false
      let fits := match st.maxLines with
        | none => true
        | some most => ((lines.size + 1 : Nat) : Int) < most || (lastLeft && (used : Int) ≤ width)
      if fits then st.fillLines fuel chunks (lines.push (indent ++ line.flatten))
      else pure (st.closeWith lines indent width line used)

/-- The lines of a paragraph. A positive width is needed (a fractional one rounded down is at
least zero), and with a most count of lines the placeholder must fit after the indent of the last
line allowed. -/
def WrapStyle.wrap (st : WrapStyle) (text : List Char) : Except WrapError (List (List Char)) := do
  if st.width < 0 || (st.wholeWidth && st.width = 0) then throw .invalidWidth
  if let some most := st.maxLines then
    let indent := if 1 < most then st.subsequentIndent else st.initialIndent
    if st.width < ((indent.length + (st.placeholder.dropWhile isBlank).length : Nat) : Int) then
      throw .placeholderTooLarge
  let chunks := st.chunksOf (st.prepare text)
  let chunks := if st.fixSentenceEndings then fixEndings chunks else chunks
  let fuel := chunks.length + totalLength chunks + 1
  pure (← st.fillLines fuel chunks #[]).toList

/-- A paragraph wrapped into one text, its lines joined by line feeds. -/
def WrapStyle.fill (st : WrapStyle) (text : List Char) : Except WrapError (List Char) := do
  pure (['\n'].intercalate (← st.wrap text))

/-- The words of a text, between runs of blanks. -/
def blankSeparated (text : List Char) : List (List Char) :=
  (text.splitBy fun a b => isBlank a == isBlank b).filter fun w => !isBlankText w

/-- Whether a character is a space or a tab. -/
def isIndentChar (c : Char) : Bool := c = ' ' || c = '\t'

/-- The margin common to two indents: the shorter when one starts the other, else their
longest common start. -/
def commonMargin : List Char → List Char → List Char
  | a :: as, b :: bs => if a = b then a :: commonMargin as bs else []
  | _, _ => []

/-- A text without the margin common to its lines that hold more than spaces and tabs, the lines
of spaces and tabs alone emptied. -/
def dedentText (text : List Char) : List Char :=
  let lines := (text.splitOn '\n').map fun l => if l.all isIndentChar then [] else l
  let indents := (lines.filter (!·.isEmpty)).map (·.takeWhile isIndentChar)
  let margin := match indents with
    | first :: rest => rest.foldl commonMargin first
    | [] => []
  let cut (l : List Char) : List Char := if margin.isPrefixOf l then l.drop margin.length else l
  ['\n'].intercalate (if margin.isEmpty then lines else lines.map cut)

/-- The lines of a text after the partial line `current` (reversed), each keeping its break. -/
def linesWithBreaksAfter (current : List Char) : List Char → List (List Char)
  | [] => if current.isEmpty then [] else [current.reverse]
  | '\r' :: '\n' :: rest => ('\n' :: '\r' :: current).reverse :: linesWithBreaksAfter [] rest
  | c :: rest =>
    if isLineBreak c then (c :: current).reverse :: linesWithBreaksAfter [] rest
    else linesWithBreaksAfter (c :: current) rest

/-- The lines of a text, each keeping its break. -/
def linesWithBreaks (s : List Char) : List (List Char) := linesWithBreaksAfter [] s

end ItemRecommender.Text
