/-!
# Shell words

Quoting (`shellQuote`) leaves a word of ASCII letters, digits and the marks of `safeMarks` as it
is, writes the empty word as `''`, and puts any other word in single quotes, each single quote
in it written as `'"'"'`.

Splitting (`shellSplit`) reads words the way a shell does, one character at a time through the
states of `ShellState`: blanks (space, tab, carriage return, newline) separate words; a word
goes on through quotes, and a quoted run keeps its blanks. In the default mode (`posix`) the
quotes themselves are dropped, a backslash outside quotes keeps the next character whatever it
is, and inside double quotes it escapes only a double quote or a backslash (else both stay);
an empty quoted word is a word. In the other mode quotes stay in the word, a word that starts
with a quote ends at its closing quote, and backslashes are plain. When comments are read, a
`#` drops the rest of its line. A quote left open, or a backslash at the very end, is refused.
-/

namespace ItemRecommender.Text

/-- The marks besides letters and digits that a word needs no quotes for. -/
def safeMarks : List Char := "_@%+=:,./-".toList

/-- Whether a character may stand in a word that needs no quotes. -/
def isShellSafe (c : Char) : Bool :=
  ('a' ≤ c && c ≤ 'z') || ('A' ≤ c && c ≤ 'Z') || ('0' ≤ c && c ≤ '9') || safeMarks.contains c

/-- A word quoted for a shell. -/
def shellQuote (cs : List Char) : List Char :=
  if cs.isEmpty then ['\'', '\'']
  else if cs.all isShellSafe then cs
  else '\'' :: cs.flatMap (fun c => if c == '\'' then "'\"'\"'".toList else [c]) ++ ['\'']

/-- The states of reading shell words: between words, in a word, inside a quote, after a
backslash. -/
inductive ShellState where
  | blank
  | word
  | quote (q : Char)
  | escape
  deriving DecidableEq, Repr

/-- Why a text cannot be split into shell words. -/
inductive ShellFault where
  | openQuote
  | danglingEscape
  deriving DecidableEq, Repr

/-- The words of a fault of splitting. -/
def ShellFault.message : ShellFault → String
  | .openQuote => "No closing quotation"
  | .danglingEscape => "No escaped character"

/-- The reader of shell words: its state, the word begun, whether a quote was read in it, the
state a backslash returns to, and the words so far. -/
structure ShellReader where
  state : ShellState := .blank
  word : List Char := []
  quoted : Bool := false
  resume : ShellState := .word
  words : Array (List Char) := #[]

/-- Whether a character separates words. -/
def isShellBlank (c : Char) : Bool := c == ' ' || c == '\t' || c == '\r' || c == '\n'

/-- Whether a character opens a quote. -/
def isShellQuote (c : Char) : Bool := c == '\'' || c == '"'

/-- The reader after a word ends: it is kept when it has characters or, in the default mode, was
quoted. -/
def ShellReader.close (r : ShellReader) (posix : Bool) : ShellReader :=
  if !r.word.isEmpty || (posix && r.quoted) then
    { r with words := r.words.push r.word, word := [], quoted := false, resume := .word }
  else r

/-- The rest of a text after the current line. -/
def afterLine (cs : List Char) : List Char := (cs.dropWhile (· != '\n')).drop 1

/-- Reads the rest of a text. -/
def shellRead (posix comments : Bool) (r : ShellReader) (cs : List Char) :
    Except ShellFault (List (List Char)) :=
  match cs with
  | [] =>
    match r.state with
    | .quote _ => throw .openQuote
    | .escape => throw .danglingEscape
    | .blank | .word => pure (r.close posix).words.toList
  | c :: rest =>
    match r.state with
    | .blank =>
      if isShellBlank c then shellRead posix comments (r.close posix) rest
      else if comments && c == '#' then shellRead posix comments r (afterLine rest)
      else if posix && c == '\\' then
        shellRead posix comments { r with resume := .word, state := .escape } rest
      else if isShellQuote c then
        shellRead posix comments
          { r with state := .quote c, word := if posix then r.word else r.word ++ [c] } rest
      else shellRead posix comments { r with word := [c], state := .word } rest
    | .quote q =>
      let r := { r with quoted := true }
      if c == q then
        if posix then shellRead posix comments { r with state := .word } rest
        else
          shellRead posix comments ({ r with word := r.word ++ [c], state := .blank }.close posix)
            rest
      else if posix && c == '\\' && q == '"' then
        shellRead posix comments { r with resume := .quote q, state := .escape } rest
      else shellRead posix comments { r with word := r.word ++ [c] } rest
    | .escape =>
      let kept := match r.resume with
        | .quote q => if c != '\\' && c != q then ['\\', c] else [c]
        | _ => [c]
      shellRead posix comments { r with word := r.word ++ kept, state := r.resume } rest
    | .word =>
      if isShellBlank c then shellRead posix comments ({ r with state := .blank }.close posix) rest
      else if comments && c == '#' then
        if posix then
          shellRead posix comments ({ r with state := .blank }.close posix) (afterLine rest)
        else shellRead posix comments r (afterLine rest)
      else if posix && isShellQuote c then
        shellRead posix comments { r with state := .quote c } rest
      else if posix && c == '\\' then
        shellRead posix comments { r with resume := .word, state := .escape } rest
      else shellRead posix comments { r with word := r.word ++ [c] } rest
termination_by cs.length
decreasing_by
  all_goals simp only [List.length_cons]
  all_goals first
    | omega
    | have := (List.dropWhile_suffix (· != '\n') (l := rest)).length_le
      simp only [afterLine, List.length_drop] at this ⊢
      omega

/-- The shell words of a text. -/
def shellSplit (posix comments : Bool) (cs : List Char) : Except ShellFault (List (List Char)) :=
  shellRead posix comments {} cs

end ItemRecommender.Text
