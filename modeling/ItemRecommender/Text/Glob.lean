/-! # Shell patterns

    A shell pattern matches a whole name: `*` matches any run of characters, `?` any one
    character, `[...]` one character of a set and `[!...]` one character outside it; every
    other character matches itself, and a `[` without its `]` is an ordinary character. There
    is no way to quote a special character.

    Inside brackets a `]` right after the opening bracket (or after `!`) belongs to the set.
    The set is read as chunks cut at hyphens: a hyphen at the start of the set is an ordinary
    character, and after a hyphen that cuts, the next two characters cannot cut. Two
    neighbouring chunks make a range from the last character of the first to the first of the
    second; a range whose ends are out of order is dropped together with its ends, the two
    chunks becoming one. An empty set matches nothing, and an empty set after `!` any
    character.

    A name is matched against the pieces between stars: the piece before the first star at the
    start, each piece between two stars at its earliest place after the one before, and the
    piece after the last star at the end. Pieces have fixed lengths, so the earliest place is
    never worse than a later one. -/

namespace ItemRecommender.Text

/-- One unit of a shell pattern. -/
inductive GlobUnit where
  /-- Any run of characters. -/
  | star
  /-- Any one character. -/
  | any
  /-- The one character given. -/
  | literal (c : Char)
  /-- One character among single characters and ranges, or outside them when `negated`. -/
  | oneOf (negated : Bool) (singles : List Char) (ranges : List (Char × Char))
  deriving DecidableEq, Repr

/-- Whether a unit other than a star matches a character. -/
def GlobUnit.admits (u : GlobUnit) (c : Char) : Bool :=
  match u with
  | .star => true
  | .any => true
  | .literal d => c == d
  | .oneOf negated singles ranges =>
    let inside := singles.contains c || ranges.any fun (lo, hi) => lo ≤ c && c ≤ hi
    if negated && singles.isEmpty && ranges.isEmpty then true else inside != negated

/-- The position of the first hyphen at or after `k` in `cs`. -/
def hyphenFrom (cs : List Char) (k : Nat) : Option Nat :=
  ((cs.drop k).findIdx? (· == '-')).map (· + k)

/-- The chunks of a bracket's contents that contain a hyphen, cut at the hyphens that make
ranges, from position `i` with the next search from `k`; the last chunk is empty when the
contents end with a cutting hyphen. -/
def cutChunks (cs : List Char) : Nat → Nat → Nat → List (List Char)
  | 0, _, _ => []
  | fuel + 1, i, k =>
    match hyphenFrom cs k with
    | some h => (cs.drop i).take (h - i) :: cutChunks cs fuel (h + 1) (h + 3)
    | none => [cs.drop i]

/-- The chunks of a bracket's contents, before ranges out of order are dropped. -/
def chunksOf (cs : List Char) : List (List Char) :=
  if cs.contains '-' then
    let start := if cs.head? = some '!' then 2 else 1
    let pieces := cutChunks cs (cs.length + 1) 0 start
    -- contents ending in a cutting hyphen add it to the chunk before
    match pieces.reverse with
    | [] :: before :: rest => rest.reverse ++ [before ++ ['-']]
    | _ => pieces
  else [cs]

/-- Drops the ranges out of order, from the last pair of chunks to the first: the chunks
`a ++ [x]` and `y :: b` with `x > y` become `a ++ b`. -/
def dropEmptyRanges : List (List Char) → List (List Char)
  | [] => []
  | first :: rest =>
    match dropEmptyRanges rest with
    | [] => [first]
    | next :: more =>
      match first.getLast?, next.head? with
      | some x, some y => if y < x then (first.dropLast ++ next.drop 1) :: more else first :: next :: more
      | _, _ => first :: next :: more

/-- The ranges between neighbouring chunks. -/
def rangesOf : List (List Char) → List (Char × Char)
  | a :: b :: rest =>
    match a.getLast?, b.head? with
    | some x, some y => (x, y) :: rangesOf (b :: rest)
    | _, _ => rangesOf (b :: rest)
  | _ => []

/-- The set a bracket's contents stand for. -/
def bracketSet (cs : List Char) : GlobUnit :=
  let chunks := dropEmptyRanges (chunksOf cs)
  let negated := (chunks.head?.bind List.head?) = some '!'
  let chunks := if negated then
      match chunks with
      | first :: rest => first.drop 1 :: rest
      | [] => []
    else chunks
  .oneOf negated chunks.flatten (rangesOf chunks)

/-- The position of the bracket that closes one opened before `cs`, or `none` when it is not
closed. -/
def closingBracket (cs : List Char) : Option Nat :=
  let skip := if cs.head? = some '!' then 1 else 0
  let skip := if cs[skip]? = some ']' then skip + 1 else skip
  ((cs.drop skip).findIdx? (· == ']')).map (skip + ·)

/-- The units of a shell pattern, with runs of stars as one. Each step reads at least one
character, so `fuel` above the pattern's length reads it all. -/
def globUnitsWith : Nat → List Char → List GlobUnit
  | 0, _ => []
  | _ + 1, [] => []
  | fuel + 1, '*' :: rest =>
    match globUnitsWith fuel rest with
    | .star :: more => .star :: more
    | more => .star :: more
  | fuel + 1, '?' :: rest => .any :: globUnitsWith fuel rest
  | fuel + 1, '[' :: rest =>
    match closingBracket rest with
    | some j => bracketSet (rest.take j) :: globUnitsWith fuel (rest.drop (j + 1))
    | none => .literal '[' :: globUnitsWith fuel rest
  | fuel + 1, c :: rest => .literal c :: globUnitsWith fuel rest

/-- The units of a shell pattern. -/
def globUnits (cs : List Char) : List GlobUnit := globUnitsWith (cs.length + 1) cs

/-- Whether units without stars match the front of a name, one character each. -/
def piecePrefix : List GlobUnit → List Char → Bool
  | [], _ => true
  | u :: us, c :: cs => u.admits c && piecePrefix us cs
  | _ :: _, [] => false

/-- The pieces of a pattern between its stars; a pattern that ends with a star has an empty
last piece. -/
def piecesOf (units : List GlobUnit) : List (List GlobUnit) :=
  units.splitOnP fun u => u == .star

/-- The rest of a name after the earliest place of a piece, if it has one. -/
def afterEarliest (piece : List GlobUnit) : Nat → List Char → Option (List Char)
  | 0, _ => none
  | fuel + 1, cs =>
    if piecePrefix piece cs then some (cs.drop piece.length)
    else match cs with
      | [] => none
      | _ :: rest => afterEarliest piece fuel rest

/-- Whether the pieces between stars occur in order in a name, the last at its end. -/
def piecesMatch : List (List GlobUnit) → List Char → Bool
  | [], _ => true
  | [last], cs => last.length ≤ cs.length && piecePrefix last (cs.drop (cs.length - last.length))
  | piece :: rest, cs =>
    match afterEarliest piece (cs.length + 1) cs with
    | some after => piecesMatch rest after
    | none => false

/-- Whether a shell pattern matches a whole name. -/
def globMatches (pattern name : List Char) : Bool :=
  match piecesOf (globUnits pattern) with
  | [] => name.isEmpty
  | [whole] => whole.length == name.length && piecePrefix whole name
  | first :: rest => piecePrefix first name && piecesMatch rest (name.drop first.length)

end ItemRecommender.Text
