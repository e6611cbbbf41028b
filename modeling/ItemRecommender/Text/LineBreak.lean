/-! # Line breaks

    Two ways of cutting a text into lines.

    * `splitLines` breaks at every line break character (line feed, carriage return, the vertical
      tab and form feed, the three information separators `\x1c` to `\x1e`, next line, and the
      Unicode line and paragraph separators); a carriage return followed by a line feed is one
      break, and a break at the very end opens no further line. Preference and user files are
      read this way.
    * `fileLines` first turns every carriage return, alone or before a line feed, into a line feed,
      and then cuts after each line feed, keeping it. The recommendation file is read this way,
      so a line handed on still ends in its line feed. -/

namespace ItemRecommender.Text

/-- Whether a character ends a line for `splitLines`. -/
def isLineBreak (c : Char) : Bool :=
  c = '\n' || c = '\r' || c = '\x0b' || c = '\x0c' || c = '\x1c' || c = '\x1d' || c = '\x1e' ||
    c = '\x85' || c = '\u2028' || c = '\u2029'

/-- The lines of a text after the partial line `current` (held reversed). -/
def splitLinesAfter (current : List Char) : List Char → List (List Char)
  | [] => if current.isEmpty then [] else [current.reverse]
  | '\r' :: '\n' :: rest => current.reverse :: splitLinesAfter [] rest
  | c :: rest =>
    if isLineBreak c then current.reverse :: splitLinesAfter [] rest
    else splitLinesAfter (c :: current) rest

/-- The lines of a text, without their breaks. -/
def splitLines (s : List Char) : List (List Char) := splitLinesAfter [] s

/-- Every carriage return, alone or before a line feed, becomes one line feed. -/
def unifyNewlines : List Char → List Char
  | [] => []
  | '\r' :: '\n' :: rest => '\n' :: unifyNewlines rest
  | '\r' :: rest => '\n' :: unifyNewlines rest
  | c :: rest => c :: unifyNewlines rest

/-- The lines of a text with unified newlines after the partial line `current` (reversed),
each line keeping its line feed. -/
def linesKeepingFeedAfter (current : List Char) : List Char → List (List Char)
  | [] => if current.isEmpty then [] else [current.reverse]
  | '\n' :: rest => ('\n' :: current).reverse :: linesKeepingFeedAfter [] rest
  | c :: rest => linesKeepingFeedAfter (c :: current) rest

/-- The lines of a file read with unified newlines, each ending in its line feed except perhaps
the last. -/
def fileLines (s : List Char) : List (List Char) := linesKeepingFeedAfter [] (unifyNewlines s)

end ItemRecommender.Text
