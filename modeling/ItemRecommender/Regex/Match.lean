import ItemRecommender.Regex.CharClass
/-! # Regular expressions: matching

    A pattern is matched by backtracking, each node handed a continuation that matches what
    follows it. Alternatives are tried in order; a greedy repetition tries one more round of
    its body before what follows, a lazy one after, and a possessive one takes as many rounds
    as it can and never gives one back. A round of a repetition that has reached its fewest
    count is not tried where the round before it started, so an empty body cannot repeat
    forever. An atomic group and a look-around take the first way their body matches.

    A group records where its body started and ended each time it matches, the last time
    counting; a reference to a group matches the same text again. A match gives where it ends
    and what the groups recorded.

    Every call is given fuel, which each nested call spends; the fuel is computed from the
    sizes of the pattern and the text, and a match that would need more is no match. -/

namespace ItemRecommender.Regex

/-- What the groups of a match recorded: each group's span by index from 1, and the last group
that closed. -/
structure Captures where
  spans : Array (Option (Nat × Nat))
  lastIndex : Option Nat
  deriving Repr

/-- Nothing recorded, for a pattern of some groups. -/
def Captures.empty (groups : Nat) : Captures := ⟨Array.replicate groups none, none⟩

/-- The span a group recorded. -/
def Captures.span? (c : Captures) (gid : Nat) : Option (Nat × Nat) := (c.spans[gid - 1]?).join

/-- Records a group's span. -/
def Captures.close (c : Captures) (gid start stop : Nat) : Captures :=
  ⟨c.spans.set! (gid - 1) (some (start, stop)), some gid⟩

/-- The end of a match and what it recorded, if there is a match. -/
abbrev Outcome := Option (Nat × Captures)

/-- What is matched after a node: from where the node ended, with what was recorded. -/
abbrev Continuation := Nat → Captures → Outcome

/-- The continuation that accepts wherever it is called. -/
def finish : Continuation := fun p c => some (p, c)

/-- The flags of a group's body: a group that chooses an alphabet drops the one in force. -/
def combineFlags (flags added removed : Nat) : Nat :=
  let base := if added &&& typeFlags != 0 then flags - (flags &&& typeFlags) else flags
  let raised := base ||| added
  raised - (raised &&& removed)

/-- Whether a node matches exactly one character. -/
def Node.isUnit : Node → Bool
  | .char _ | .notChar _ | .any | .set _ _ => true
  | _ => false

/-- Whether a node of one character accepts a code point. -/
def unitAccepts (flags : Nat) (node : Node) (n : Nat) : Bool :=
  match node with
  | .char c => literalMatches flags c n
  | .notChar c => !literalMatches flags c n
  | .any => hasFlag flags dotAllFlag || n != 10
  | .set negated items => setHolds flags items n != negated
  | _ => false

/-- Whether an anchor holds at a place of the text. -/
def anchorHolds (flags : Nat) (text : Array Nat) (p : Nat) : Anchor → Bool
  | .lineStart =>
    p == 0 || (hasFlag flags multilineFlag && text[p - 1]? == some 10)
  | .lineEnd =>
    if hasFlag flags multilineFlag then p == text.size || text[p]? == some 10
    else p == text.size || (p + 1 == text.size && text[p]? == some 10)
  | .textStart => p == 0
  | .textEnd => p == text.size
  | .boundary => text.size != 0 && before != after
  | .nonBoundary => text.size != 0 && before == after
where
  /-- Whether a word character stands before the place. -/
  before : Bool := 0 < p && (text[p - 1]?.map (Alphabet.ofFlags flags).isWord).getD false
  /-- Whether a word character stands after the place. -/
  after : Bool := (text[p]?.map (Alphabet.ofFlags flags).isWord).getD false

/-- How many characters from a place a node of one character accepts in a row, at most
`most`. -/
def unitRun (flags : Nat) (node : Node) (text : Array Nat) (p : Nat) (most : Option Nat) : Nat :=
  let avail := text.size - p
  let cap := match most with
    | some m => Nat.min m avail
    | none => avail
  ((List.range cap).takeWhile fun i => unitAccepts flags node (text[p + i]?.getD 0)).length

/-- Whether the text at `p` repeats the text from `s` to `e`, compared under the flags. -/
def repeatsAt (flags : Nat) (text : Array Nat) (s e p : Nat) : Bool :=
  e - s ≤ text.size - p &&
    (List.range (e - s)).all fun i =>
      sameUnderFlags flags (text[s + i]?.getD 0) (text[p + i]?.getD 0)

/-- Whether a count is below a bound, if there is one. -/
def belowBound (count : Nat) : Option Nat → Bool
  | some m => count < m
  | none => true

mutual

/-- Matches nodes in a row from `p`, then the continuation. -/
def matchSeq (text : Array Nat) (groupWidth : Nat → Width) :
    Nat → Nat → List Node → Nat → Captures → Continuation → Outcome
  | 0, _, _, _, _, _ => none
  | _ + 1, _, [], p, caps, k => k p caps
  | fuel + 1, flags, node :: rest, p, caps, k =>
    let next : Continuation := fun p' caps' => matchSeq text groupWidth fuel flags rest p' caps' k
    match node with
    | .char _ | .notChar _ | .any | .set _ _ =>
      match text[p]? with
      | some n => if unitAccepts flags node n then next (p + 1) caps else none
      | none => none
    | .anchor a => if anchorHolds flags text p a then next p caps else none
    | .branch alts => matchChoice text groupWidth fuel flags alts p caps next
    | .group gid added removed body =>
      matchSeq text groupWidth fuel (combineFlags flags added removed) body p caps
        fun p' caps' =>
          next p' (match gid with
            | some g => caps'.close g p p'
            | none => caps')
    | .atomic body =>
      match matchSeq text groupWidth fuel flags body p caps finish with
      | some (p', caps') => next p' caps'
      | none => none
    | .backref g =>
      match caps.span? g with
      | some (s, e) => if repeatsAt flags text s e p then next (p + (e - s)) caps else none
      | none => none
    | .ifGroup g yes no =>
      if (caps.span? g).isSome then matchSeq text groupWidth fuel flags yes p caps next
      else matchSeq text groupWidth fuel flags (no.getD []) p caps next
    | .look behind negative body =>
      let w := if behind then (widthOfSeq groupWidth body).1 else 0
      if p < w then (if negative then next p caps else none)
      else
        match matchSeq text groupWidth fuel flags body (p - w) caps finish, negative with
        | some _, true => none
        | none, true => next p caps
        | some (_, caps'), false => next p caps'
        | none, false => none
    | .repetition lo hi greed body =>
      match body with
      | [u] =>
        if u.isUnit then
          let run := unitRun flags u text p hi
          if run < lo then none
          else
            match greed with
            | .greedy => (List.range (run - lo + 1)).findSome? fun i => next (p + run - i) caps
            | .lazy => (List.range (run - lo + 1)).findSome? fun i => next (p + lo + i) caps
            | .possessive => next (p + run) caps
        else matchRounds text groupWidth fuel flags lo hi greed body 0 none p caps next
      | _ => matchRounds text groupWidth fuel flags lo hi greed body 0 none p caps next

/-- Matches the first alternative that lets the continuation match. -/
def matchChoice (text : Array Nat) (groupWidth : Nat → Width) :
    Nat → Nat → List (List Node) → Nat → Captures → Continuation → Outcome
  | 0, _, _, _, _, _ => none
  | _ + 1, _, [], _, _, _ => none
  | fuel + 1, flags, alt :: rest, p, caps, k =>
    match matchSeq text groupWidth fuel flags alt p caps k with
    | some r => some r
    | none => matchChoice text groupWidth fuel flags rest p caps k

/-- A repetition after `count` rounds, the last of them started at `last`: another round, or
the continuation, in the order the greed asks for. -/
def matchRounds (text : Array Nat) (groupWidth : Nat → Width) :
    Nat → Nat → Nat → Option Nat → Greed → List Node → Nat → Option Nat → Nat → Captures →
      Continuation → Outcome
  | 0, _, _, _, _, _, _, _, _, _, _ => none
  | fuel + 1, flags, lo, hi, greed, body, count, last, p, caps, k =>
    match greed with
    | .possessive =>
      if count < lo then
        match matchSeq text groupWidth fuel flags body p caps finish with
        | some (p', caps') =>
          matchRounds text groupWidth fuel flags lo hi greed body (count + 1) last p' caps' k
        | none => none
      else if belowBound count hi && last != some p then
        match matchSeq text groupWidth fuel flags body p caps finish with
        | some (p', caps') =>
          matchRounds text groupWidth fuel flags lo hi greed body (count + 1) (some p) p' caps' k
        | none => k p caps
      else k p caps
    | _ =>
      let round (start : Option Nat) : Outcome :=
        matchSeq text groupWidth fuel flags body p caps fun p' caps' =>
          matchRounds text groupWidth fuel flags lo hi greed body (count + 1) start p' caps' k
      if count < lo then round last
      else
        let more := belowBound count hi && last != some p
        if greed == .lazy then
          match k p caps with
          | some r => some r
          | none => if more then round (some p) else none
        else
          match (if more then round (some p) else none) with
          | some r => some r
          | none => k p caps

end

mutual

/-- The count of nodes of a pattern, bodies included. -/
def nodeCount : List Node → Nat
  | [] => 0
  | n :: rest => nodeSize n + nodeCount rest

/-- The count of nodes of one node, its bodies included. -/
def nodeSize : Node → Nat
  | .branch alts => 1 + choiceSize alts
  | .group _ _ _ body | .atomic body | .repetition _ _ _ body | .look _ _ body => 1 + nodeCount body
  | .ifGroup _ yes no => 1 + nodeCount yes + (match no with
    | some n => nodeCount n
    | none => 0)
  | _ => 1

/-- The count of nodes of alternatives. -/
def choiceSize : List (List Node) → Nat
  | [] => 0
  | alt :: rest => nodeCount alt + choiceSize rest

end

/-- The fuel for matching a pattern against a text: enough for every round of every
repetition at every place. -/
def Parsed.fuelFor (pat : Parsed) (text : Array Nat) : Nat :=
  4 * (text.size + 2) * (nodeCount pat.nodes + 2)

/-- The group widths of a pattern, by index from 1. -/
def Parsed.groupWidth (pat : Parsed) (gid : Nat) : Width :=
  (pat.widths[gid - 1]?).getD (0, some 0)

/-- A match of a pattern that starts at `p`, with an end the test accepts. -/
def Parsed.matchAt (pat : Parsed) (text : Array Nat) (p : Nat) (accepts : Nat → Bool) : Outcome :=
  matchSeq text pat.groupWidth (pat.fuelFor text) pat.flags pat.nodes p (Captures.empty pat.groups)
    fun e caps => if accepts e then some (e, caps) else none

/-- A match found: where it starts and ends, and what its groups recorded. -/
structure Found where
  start : Nat
  stop : Nat
  captures : Captures
  deriving Repr

/-- The first match that starts at `from` or later. When `nonEmpty` holds, a match that starts
at `from` must not be empty. -/
def Parsed.searchFrom (pat : Parsed) (text : Array Nat) (start : Nat) (nonEmpty : Bool) :
    Option Found :=
  if text.size < start then none
  else
    (List.range (text.size - start + 1)).findSome? fun i =>
      let s := start + i
      (pat.matchAt text s fun e => !(nonEmpty && i == 0 && e == s)).map
        fun (e, caps) => ⟨s, e, caps⟩

/-- A match that starts at `p`; with `whole`, one that ends at the end of the text. -/
def Parsed.matchFrom (pat : Parsed) (text : Array Nat) (p : Nat) (whole : Bool) : Option Found :=
  (pat.matchAt text p fun e => !whole || e == text.size).map fun (e, caps) => ⟨p, e, caps⟩

/-- The matches that do not overlap, from `start` on: after each match the next is searched
from its end, and after an empty match it may not be empty at that place. At most `fuel`
matches. -/
def Parsed.matchesFrom (pat : Parsed) (text : Array Nat) : Nat → Nat → Bool → List Found
  | 0, _, _ => []
  | fuel + 1, start, nonEmpty =>
    match pat.searchFrom text start nonEmpty with
    | some m => m :: pat.matchesFrom text fuel m.stop (m.stop == m.start)
    | none => []

/-- All the matches of a pattern in a text that do not overlap, in order. -/
def Parsed.allMatches (pat : Parsed) (text : Array Nat) : List Found :=
  pat.matchesFrom text (2 * text.size + 2) 0 false

end ItemRecommender.Regex
