/-! # Regular expressions: syntax

    A pattern is read into a tree of nodes. A node matches one character (a literal, any
    character, a set of characters), matches nothing but tests the place it stands at (an
    anchor, a look-ahead or look-behind), or combines other nodes: a choice between
    alternatives, a group that records what its body matched, a repetition, an atomic group, a
    reference back to what a group matched, or a choice made by whether a group matched.

    Flags are the bits of a number, as the pattern language spells them; a group may turn some
    on or off for its body. The width of a node is the fewest and the most characters it can
    match (`none` for no bound); a look-behind must have a single width, so that it knows
    where to start. -/

namespace ItemRecommender.Regex

/-- The flag of a template pattern, which may not repeat anything. -/
def templateFlag : Nat := 1
/-- The flag that makes letters match either case. -/
def ignoreCaseFlag : Nat := 2
/-- The flag that takes letters and digits from the locale of a byte pattern. -/
def localeFlag : Nat := 4
/-- The flag that makes `^` and `$` match at every line. -/
def multilineFlag : Nat := 8
/-- The flag that makes `.` match a newline too. -/
def dotAllFlag : Nat := 16
/-- The flag that takes letters and digits from Unicode. -/
def unicodeFlag : Nat := 32
/-- The flag that lets a pattern hold blanks and comments. -/
def verboseFlag : Nat := 64
/-- The flag that asks for the pattern's tree to be shown. -/
def debugFlag : Nat := 128
/-- The flag that takes letters and digits from ASCII only. -/
def asciiFlag : Nat := 256

/-- The flags that choose what counts as a letter or a digit: at most one may be on. -/
def typeFlags : Nat := asciiFlag ||| localeFlag ||| unicodeFlag

/-- The flags that only the whole pattern may set. -/
def globalFlags : Nat := debugFlag ||| templateFlag

/-- Whether the bit of a flag is on. -/
def hasFlag (flags bit : Nat) : Bool := flags &&& bit != 0

/-- The bound that a repetition count must stay below. -/
def repeatLimit : Nat := 4294967295

/-- The most groups a pattern may have. -/
def groupLimit : Nat := 1073741823

/-- The largest width a look-behind may have. -/
def codeLimit : Nat := 4294967295

/-- A class of characters that an escape names. -/
inductive Category where
  | digit | notDigit | space | notSpace | word | notWord
  deriving DecidableEq, Repr

/-- A member of a character set. -/
inductive SetItem where
  | char (c : Nat)
  | range (lo hi : Nat)
  | category (k : Category)
  deriving DecidableEq, Repr

/-- A place an anchor tests. -/
inductive Anchor where
  /-- `^`: the start of the text, or of any line under the multiline flag. -/
  | lineStart
  /-- `$`: the end of the text or just before a final newline; or of any line. -/
  | lineEnd
  /-- `\A`: the start of the text. -/
  | textStart
  /-- `\Z`: the end of the text. -/
  | textEnd
  | boundary
  | nonBoundary
  deriving DecidableEq, Repr

/-- How a repetition chooses its count: the most first, the fewest first, or the most without
giving any back. -/
inductive Greed where
  | greedy | lazy | possessive
  deriving DecidableEq, Repr

/-- A node of a pattern. -/
inductive Node where
  | char (c : Nat)
  | notChar (c : Nat)
  /-- Any character; the newline too under the dot-all flag. -/
  | any
  | set (negated : Bool) (items : List SetItem)
  | anchor (a : Anchor)
  | branch (alternatives : List (List Node))
  /-- A group, capturing when it has an index, with flags turned on and off for its body. -/
  | group (index : Option Nat) (added removed : Nat) (body : List Node)
  /-- The body repeated from `min` to `max` times (`none`: without bound). -/
  | repetition (min : Nat) (max : Option Nat) (greed : Greed) (body : List Node)
  | atomic (body : List Node)
  | backref (index : Nat)
  | ifGroup (index : Nat) (yes : List Node) (no : Option (List Node))
  | look (behind negative : Bool) (body : List Node)
  deriving Repr, Inhabited

/-- A width: the fewest characters, and the most, `none` for no bound. -/
abbrev Width := Nat × Option Nat

/-- The width of two things in a row. -/
def Width.seq (a b : Width) : Width :=
  (a.1 + b.1, match a.2, b.2 with
    | some x, some y => some (x + y)
    | _, _ => none)

/-- The width of a choice between two things. -/
def Width.either (a b : Width) : Width :=
  (Nat.min a.1 b.1, match a.2, b.2 with
    | some x, some y => some (Nat.max x y)
    | _, _ => none)

/-- The width of a thing repeated from `lo` to `hi` times. -/
def Width.times (w : Width) (lo : Nat) (hi : Option Nat) : Width :=
  (w.1 * lo, match w.2, hi with
    | some 0, _ | _, some 0 => some 0
    | some x, some n => some (x * n)
    | _, _ => none)

mutual

/-- The width of a node; `groupWidth` gives the width of each group's body. -/
def Node.width (groupWidth : Nat → Width) : Node → Width
  | .char _ | .notChar _ | .any | .set _ _ => (1, some 1)
  | .anchor _ | .look _ _ _ => (0, some 0)
  | .branch alts => widthOfChoice groupWidth alts
  | .group _ _ _ body | .atomic body => widthOfSeq groupWidth body
  | .repetition lo hi _ body => (widthOfSeq groupWidth body).times lo hi
  | .backref i => groupWidth i
  | .ifGroup _ yes no =>
    match no with
    | some n => (widthOfSeq groupWidth yes).either (widthOfSeq groupWidth n)
    | none => (0, (widthOfSeq groupWidth yes).2)

/-- The width of nodes in a row. -/
def widthOfSeq (groupWidth : Nat → Width) : List Node → Width
  | [] => (0, some 0)
  | n :: rest => (n.width groupWidth).seq (widthOfSeq groupWidth rest)

/-- The width of a choice between alternatives: no alternative at all has the empty width. -/
def widthOfChoice (groupWidth : Nat → Width) : List (List Node) → Width
  | [] => (0, some 0)
  | [alt] => widthOfSeq groupWidth alt
  | alt :: rest => (widthOfSeq groupWidth alt).either (widthOfChoice groupWidth rest)

end

/-- A pattern read from its text. -/
structure Parsed where
  nodes : List Node
  /-- The flags in force for the whole pattern: those given, those the pattern sets, and the
  choice of letters that a text pattern makes when it names none. -/
  flags : Nat
  /-- The count of capturing groups. -/
  groups : Nat
  /-- The names of the named groups with their indices, in the order they are defined. -/
  names : List (String × Nat)
  /-- The width of each group's body, by index from 1. -/
  widths : List Width
  deriving Repr

/-- Why a pattern or a replacement template is refused. -/
inductive Error where
  /-- Text the syntax refuses: what is wrong and the position it is found at. -/
  | malformed (message : String) (position : Nat)
  /-- A pattern that reads but cannot be matched as written. -/
  | compile (message : String)
  /-- A repetition count at or past `repeatLimit`. -/
  | countTooLarge
  /-- Flags that contradict each other or the kind of pattern. -/
  | flags (message : String)
  /-- A replacement naming a group the pattern does not have. -/
  | unknownGroupName (name : String)
  deriving DecidableEq, Repr

end ItemRecommender.Regex
