import ItemRecommender.Regex.Syntax
import ItemRecommender.Text.Letters
import ItemRecommender.Text.Quoted
import ItemRecommender.Text.CodePoint
import ItemRecommender.Text.CharacterNames
import ItemRecommender.Decimal.Literal
/-! # Regular expressions: reading a pattern

    A pattern is read token by token, a token being a character or a backslash with the
    character after it; a byte pattern is read as the characters of its bytes. Reading keeps
    the flags the pattern sets for itself, the groups opened so far with the widths of those
    already closed, the names of the named groups, and, inside a look-behind, the first group
    that the look-behind opens, since a reference from inside one may only name a group closed
    before it.

    Each refusal names what is wrong and the position of the token at fault: the position is
    where reading stands, less an offset that points back at the start of the faulty part.
    The refusals of a byte pattern are written in ASCII, other characters escaped.

    Some rewritings keep the meaning and shape the tree: a group that neither captures nor
    changes flags is spliced into its surroundings, a set of one character becomes that
    character, alternatives that start with the same simple node share it, and alternatives
    that are each one character or one set become a single set. -/

namespace ItemRecommender.Regex

open ItemRecommender.Text

/-- A token of a pattern: a character, or a backslash and the character after it. -/
inductive Token where
  | plain (c : Char)
  | escaped (c : Char)
  deriving DecidableEq, Repr

/-- The characters of a token. -/
def Token.text : Token → List Char
  | .plain c => [c]
  | .escaped c => ['\\', c]

/-- Whether a token, if any, is a plain character from a list. -/
def isPlainIn (t : Option Token) (cs : List Char) : Bool :=
  match t with
  | some (.plain c) => cs.contains c
  | _ => false

/-- Where reading a pattern stands. -/
structure Reader where
  chars : Array Char
  /-- Whether the pattern is a text rather than bytes. -/
  isText : Bool
  /-- The place after the token ahead. -/
  index : Nat
  /-- The token ahead, `none` at the end. -/
  ahead : Option Token

/-- The position of the token ahead. -/
def Reader.tell (r : Reader) : Nat :=
  r.index - (r.ahead.map fun t => t.text.length).getD 0

/-- What reading a pattern keeps. -/
structure ParseState where
  reader : Reader
  flags : Nat
  names : List (String × Nat)
  /-- The width of each group by index, `none` while it is open; index 0 is the whole
  pattern. -/
  widths : Array (Option Width)
  /-- Inside a look-behind, the index of the first group opened inside it. -/
  lookbehindGroups : Option Nat
  /-- The groups that conditions name, with the position of the first such name. -/
  refPositions : List (Nat × Nat)

/-- Reading a pattern: it changes what is kept and may refuse the pattern. -/
abbrev Parser := StateT ParseState (Except Error)

/-- A message in ASCII: every other character as a backslash escape. -/
def asciiMessage (s : String) : String :=
  String.ofList (s.toList.flatMap fun c =>
    let n := codePoint c
    if n < 0x80 then [c]
    else if n ≤ 0xFF then '\\' :: 'x' :: hexDigits 2 n
    else if n ≤ 0xFFFF then '\\' :: 'u' :: hexDigits 4 n
    else '\\' :: 'U' :: hexDigits 8 n)

/-- Refuses the pattern with a message, at the position of the token ahead less `offset`. -/
def failWith {α : Type} (message : String) (offset : Nat) : Parser α := do
  let r := (← get).reader
  throw (.malformed (if r.isText then message else asciiMessage message) (r.tell - offset))

/-- Moves to the next token. A backslash at the very end is refused. -/
def advance : Parser Unit := do
  let s ← get
  let r := s.reader
  match r.chars[r.index]? with
  | none => set { s with reader := { r with ahead := none } }
  | some '\\' =>
    match r.chars[r.index + 1]? with
    | none => throw (.malformed "bad escape (end of pattern)" (r.chars.size - 1))
    | some c => set { s with reader := { r with ahead := some (.escaped c), index := r.index + 2 } }
  | some c => set { s with reader := { r with ahead := some (.plain c), index := r.index + 1 } }

/-- The token ahead. -/
def peek : Parser (Option Token) := do pure (← get).reader.ahead

/-- The position of the token ahead. -/
def tell : Parser Nat := do pure (← get).reader.tell

/-- Takes the token ahead. -/
def take : Parser (Option Token) := do
  let t ← peek
  advance
  pure t

/-- Takes the token ahead if it is the plain character `c`. -/
def accept (c : Char) : Parser Bool := do
  if (← peek) == some (.plain c) then
    advance
    pure true
  else pure false

/-- Goes back or forth to a place of the pattern. -/
def seek (i : Nat) : Parser Unit := do
  modify fun s => { s with reader := { s.reader with index := i } }
  advance

/-- The bound on the tokens of the pattern, which bounds every loop of reading. -/
def tokenBound : Parser Nat := do pure ((← get).reader.chars.size + 1)

/-- Takes up to `n` plain characters from a list. -/
def takeWhileIn (n : Nat) (cs : List Char) : Parser (List Char) := do
  let mut out : List Char := []
  for _ in [0:n] do
    match ← peek with
    | some (.plain c) =>
      if cs.contains c then
        advance
        out := out ++ [c]
      else break
    | _ => break
  pure out

/-- Takes the tokens before a terminator, and the terminator: a name. `what` says what the
name is, for the refusals. -/
def takeName (terminator : Char) (what : String) : Parser (List Char) := do
  let mut out : List Char := []
  for _ in [0:← tokenBound] do
    match ← take with
    | none =>
      if out.isEmpty then failWith ("missing " ++ what) 0
      else failWith ("missing " ++ String.ofList [terminator] ++ ", unterminated name") out.length
    | some t =>
      if t == .plain terminator then
        if out.isEmpty then failWith ("missing " ++ what) 1
        return out
      out := out ++ t.text
  pure out

/-- Refuses a group name that is not an identifier. -/
def checkGroupName (name : List Char) (offset : Nat) : Parser Unit := do
  if !isIdentifier name then
    failWith ("bad character in group name " ++ quote (String.ofList name)) (name.length + offset)

/-- The count of groups opened so far, the whole pattern included. -/
def groupCount : Parser Nat := do pure (← get).widths.size

/-- Whether a group is closed. -/
def isClosed (gid : Nat) : Parser Bool := do
  pure ((← get).widths[gid]?.join).isSome

/-- The width of a group's body, once closed. -/
def widthOfGroup (widths : Array (Option Width)) (gid : Nat) : Width :=
  (widths[gid]?.join).getD (0, some 0)

/-- Refuses a reference from inside a look-behind to a group that is open or opened inside
it. -/
def checkLookbehindGroup (gid : Nat) : Parser Unit := do
  match (← get).lookbehindGroups with
  | none => pure ()
  | some first =>
    if !(← isClosed gid) then failWith "cannot refer to an open group" 0
    if first ≤ gid then failWith "cannot refer to group defined in the same lookbehind subpattern" 0

/-- Opens a group, named or not: its index. A name may name one group only. -/
def openGroup (name : Option (List Char)) : Parser Nat := do
  let s ← get
  let gid := s.widths.size
  set { s with widths := s.widths.push none }
  if groupLimit < gid + 1 then failWith "too many groups" 0
  match name with
  | none => pure gid
  | some n =>
    let key := String.ofList n
    match s.names.lookup key with
    | some old =>
      failWith ("redefinition of group name " ++ quote key ++ " as group " ++ toString gid ++
        "; was group " ++ toString old) (n.length + 1)
    | none =>
      modify fun s => { s with names := s.names ++ [(key, gid)] }
      pure gid

/-- Closes a group with its body. -/
def closeGroup (gid : Nat) (body : List Node) : Parser Unit :=
  modify fun s =>
    { s with widths := s.widths.set! gid (some (widthOfSeq (widthOfGroup s.widths) body)) }

/-- The hexadecimal digits. -/
def hexDigitChars : List Char := "0123456789abcdefABCDEF".toList

/-- The octal digits. -/
def octDigitChars : List Char := "01234567".toList

/-- The decimal digits. -/
def decDigitChars : List Char := "0123456789".toList

/-- The value of digits in a base. -/
def digitsValue (base : Nat) (ds : List Char) : Nat :=
  ds.foldl (fun acc d =>
    acc * base + (if d.isDigit then d.toNat - 48 else if d.isLower then d.toNat - 87 else d.toNat - 55)) 0

/-- What an escape stands for. -/
inductive Escape where
  | char (c : Nat)
  | category (k : Category)
  | anchor (a : Anchor)
  | backref (gid : Nat)

/-- The single-character escapes. -/
def simpleEscape? : Char → Option Nat
  | 'a' => some 7
  | 'b' => some 8
  | 'f' => some 12
  | 'n' => some 10
  | 'r' => some 13
  | 't' => some 9
  | 'v' => some 11
  | '\\' => some 92
  | _ => none

/-- The escapes that name a class of characters. -/
def categoryEscape? : Char → Option Category
  | 'd' => some .digit
  | 'D' => some .notDigit
  | 's' => some .space
  | 'S' => some .notSpace
  | 'w' => some .word
  | 'W' => some .notWord
  | _ => none

/-- The escapes that name a place. -/
def anchorEscape? : Char → Option Anchor
  | 'A' => some .textStart
  | 'b' => some .boundary
  | 'B' => some .nonBoundary
  | 'Z' => some .textEnd
  | _ => none

/-- The escapes by code: `\x` with two hexadecimal digits, and in a text pattern `\u` with four,
`\U` with eight and `\N` with a character's name in braces; `none` for any other escape. -/
def codeEscape (c : Char) : Parser (Option Nat) := do
  let isText := (← get).reader.isText
  let digits (n : Nat) : Parser Nat := do
    let ds ← takeWhileIn n hexDigitChars
    let escape := '\\' :: c :: ds
    if ds.length != n then failWith ("incomplete escape " ++ String.ofList escape) escape.length
    pure (digitsValue 16 ds)
  if c = 'x' then pure (some (← digits 2))
  else if c = 'u' && isText then pure (some (← digits 4))
  else if c = 'U' && isText then
    let ds ← takeWhileIn 8 hexDigitChars
    let escape := '\\' :: c :: ds
    if ds.length != 8 then failWith ("incomplete escape " ++ String.ofList escape) escape.length
    let v := digitsValue 16 ds
    if 0x10FFFF < v then failWith ("bad escape " ++ String.ofList escape) escape.length
    pure (some v)
  else if c = 'N' && isText then
    if !(← accept '{') then failWith "missing \x7b" 0
    let name ← takeName '}' "character name"
    match characterOfName? (String.ofList name) with
    | some [code] => pure (some code)
    | _ =>
      failWith ("undefined character name " ++ quote (String.ofList name)) (name.length + 4)
  else pure none

/-- An escape that stands for a character or a class: a letter with no meaning is refused. -/
def plainEscape (c : Char) : Parser Escape := do
  if isAsciiLetter c then failWith ("bad escape \\" ++ String.ofList [c]) 2
  pure (.char (codePoint c))
where
  /-- Whether a character is an ASCII letter. -/
  isAsciiLetter (c : Char) : Bool := ('a' ≤ c && c ≤ 'z') || ('A' ≤ c && c ≤ 'Z')

/-- An escape inside a set: a character or a class. -/
def classEscape (c : Char) : Parser SetItem := do
  if let some v := simpleEscape? c then return .char v
  if let some k := categoryEscape? c then return .category k
  if let some v ← codeEscape c then return .char v
  if octDigitChars.contains c then
    let ds ← takeWhileIn 2 octDigitChars
    let escape := '\\' :: c :: ds
    let v := digitsValue 8 (c :: ds)
    if 0o377 < v then
      failWith ("octal escape value " ++ String.ofList escape ++ " outside of range 0-0o377")
        escape.length
    return .char v
  if c.isDigit then failWith ("bad escape \\" ++ String.ofList [c]) 2
  match ← plainEscape c with
  | .char v => pure (.char v)
  | _ => pure (.char (codePoint c))

/-- An escape outside a set: a place, a class, a character, or a reference to a group. -/
def patternEscape (c : Char) : Parser Escape := do
  if let some a := anchorEscape? c then return .anchor a
  if let some k := categoryEscape? c then return .category k
  if let some v := simpleEscape? c then return .char v
  if let some v ← codeEscape c then return .char v
  if c = '0' then
    let ds ← takeWhileIn 2 octDigitChars
    return .char (digitsValue 8 ds)
  if c.isDigit then
    let mut escape := [c]
    match ← peek with
    | some (.plain d) =>
      if d.isDigit then
        advance
        escape := escape ++ [d]
        if octDigitChars.contains c && octDigitChars.contains d then
          match ← peek with
          | some (.plain e) =>
            if octDigitChars.contains e then
              advance
              let v := digitsValue 8 [c, d, e]
              if 0o377 < v then
                failWith ("octal escape value \\" ++ String.ofList [c, d, e] ++
                  " outside of range 0-0o377") 4
              return .char v
          | _ => pure ()
    | _ => pure ()
    let gid := digitsValue 10 escape
    if gid < (← groupCount) then
      if !(← isClosed gid) then failWith "cannot refer to an open group" (escape.length + 1)
      checkLookbehindGroup gid
      return .backref gid
    failWith ("invalid group reference " ++ toString gid) escape.length
  plainEscape c

/-- The characters that have a meaning of their own in a pattern. -/
def specialChars : List Char := ".\\[\x7b()*+?^$|".toList

/-- The blanks a verbose pattern skips. -/
def verboseBlanks : List Char := [' ', '\t', '\n', '\r', '\x0b', '\x0c']

/-- The flags by letter. -/
def flagOfLetter? : Char → Option Nat
  | 'i' => some ignoreCaseFlag
  | 'L' => some localeFlag
  | 'm' => some multilineFlag
  | 's' => some dotAllFlag
  | 'x' => some verboseFlag
  | 'a' => some asciiFlag
  | 't' => some templateFlag
  | 'u' => some unicodeFlag
  | _ => none

/-- The flag a token names, if it is a flag letter. -/
def flagOfToken? : Option Token → Option Nat
  | some (.plain c) => flagOfLetter? c
  | _ => none

/-- Whether a token is a single letter. -/
def isLetterToken : Token → Bool
  | .plain c => isAlphabetic c
  | .escaped _ => false

/-- The flags after `(?` and a first flag letter or `-`: `none` for flags of the whole
pattern, which end with `)`, else the flags turned on and off for a group, which end with
`:`. -/
def parseFlags (first : Token) : Parser (Option (Nat × Nat)) := do
  let isText := (← get).reader.isText
  let mut added := 0
  let mut removed := 0
  let mut current : Option Token := some first
  if first != .plain '-' then
    for _ in [0:← tokenBound] do
      let some flag := flagOfToken? current | break
      if isText && current == some (.plain 'L') then
        failWith "bad inline flags: cannot use 'L' flag with a str pattern" 0
      if !isText && current == some (.plain 'u') then
        failWith "bad inline flags: cannot use 'u' flag with a bytes pattern" 0
      added := added ||| flag
      if flag &&& typeFlags != 0 && added &&& typeFlags != flag then
        failWith "bad inline flags: flags 'a', 'u' and 'L' are incompatible" 0
      current ← take
      match current with
      | none => failWith "missing -, : or )" 0
      | some t =>
        if isPlainIn current [')', '-', ':'] then break
        if (flagOfToken? current).isNone then
          failWith (if isLetterToken t then "unknown flag" else "missing -, : or )") t.text.length
  if current == some (.plain ')') then
    modify fun s => { s with flags := s.flags ||| added }
    return none
  if added &&& globalFlags != 0 then
    failWith "bad inline flags: cannot turn on global flag" 1
  if current == some (.plain '-') then
    current ← take
    match current with
    | none => failWith "missing flag" 0
    | some t =>
      if (flagOfToken? current).isNone then
        failWith (if isLetterToken t then "unknown flag" else "missing flag") t.text.length
    for _ in [0:← tokenBound] do
      let some flag := flagOfToken? current | break
      if flag &&& typeFlags != 0 then
        failWith "bad inline flags: cannot turn off flags 'a', 'u' and 'L'" 0
      removed := removed ||| flag
      current ← take
      match current with
      | none => failWith "missing :" 0
      | some t =>
        if current == some (.plain ':') then break
        if (flagOfToken? current).isNone then
          failWith (if isLetterToken t then "unknown flag" else "missing :") t.text.length
  if removed &&& globalFlags != 0 then
    failWith "bad inline flags: cannot turn off global flag" 1
  if added &&& removed != 0 then
    failWith "bad inline flags: flag turned on and off" 1
  pure (some (added, removed))

/-- Whether two nodes are the same simple node, so that alternatives starting with them may
share it. Nodes with a body are never the same. -/
def sameSimple : Node → Node → Bool
  | .char a, .char b => a == b
  | .notChar a, .notChar b => a == b
  | .any, .any => true
  | .set n a, .set m b => n == m && a == b
  | .anchor a, .anchor b => a == b
  | .backref a, .backref b => a == b
  | _, _ => false

/-- The members of a list without repeats, each kept at its first place. -/
def dedupe {α : Type} [BEq α] : List α → List α
  | [] => []
  | x :: xs => x :: dedupe (xs.filter (· != x))
termination_by xs => xs.length
decreasing_by
  simp only [List.length_cons, List.unattach_filter, List.unattach_attach]
  exact Nat.lt_succ_of_le (List.length_filter_le _ _)

/-- The first nodes that all alternatives share, and the alternatives without them. -/
def sharedStart (alts : List (List Node)) : Nat → List Node × List (List Node)
  | 0 => ([], alts)
  | fuel + 1 =>
    match alts with
    | (n :: _) :: _ =>
      if alts.all fun a => match a with
          | m :: _ => sameSimple n m
          | [] => false then
        let (shared, rest) := sharedStart (alts.map List.tail) fuel
        (n :: shared, rest)
      else ([], alts)
    | _ => ([], alts)

/-- The members of one set that alternatives of one character or one set each make. -/
def asOneSet : List (List Node) → Option (List SetItem)
  | [] => some []
  | [.char c] :: rest => (asOneSet rest).map (.char c :: ·)
  | [.set false items] :: rest => (asOneSet rest).map (items ++ ·)
  | _ => none

/-- The nodes of a choice between alternatives. -/
def choiceOf (alts : List (List Node)) : List Node :=
  match alts with
  | [alt] => alt
  | _ =>
    let (shared, rest) := sharedStart alts (alts.foldl (fun m a => Nat.max m a.length) 0)
    match asOneSet rest with
    | some items => shared ++ [.set false (dedupe items)]
    | none => shared ++ [.branch rest]

/-- The nodes a group stands for where it stands: its body, if it neither captures nor changes
flags. -/
def spliced : Node → List Node
  | .group none 0 0 body => body
  | n => [n]

/-- The name of the operation a repetition is, as refusals name it. -/
def Greed.operation : Greed → String
  | .greedy => "MAX_REPEAT"
  | .lazy => "MIN_REPEAT"
  | .possessive => "POSSESSIVE_REPEAT"

/-- Refuses a set that the pattern ends in. -/
def unterminatedSet {α : Type} (start : Nat) : Parser α := do
  failWith "unterminated character set" ((← tell) - start)

/-- Refuses a group that the pattern ends in. -/
def unterminatedGroup {α : Type} (start : Nat) : Parser α := do
  failWith "missing ), unterminated subpattern" ((← tell) - start)

/-- The members of a set after `[` and a possible `^`, up to and with the closing `]`. `start`
is the position of the `[`. -/
def parseSetItems (start : Nat) : Parser (List SetItem) := do
  let mut items : Array SetItem := #[]
  for _ in [0:← tokenBound] do
    let some this ← take | unterminatedSet start
    if this == .plain ']' && !items.isEmpty then break
    let first ← match this with
      | .escaped c => classEscape c
      | .plain c => pure (SetItem.char (codePoint c))
    if ← accept '-' then
      let some that ← take | unterminatedSet start
      if that == .plain ']' then
        items := (items.push first).push (.char 45)
        break
      let second ← match that with
        | .escaped c => classEscape c
        | .plain c => pure (SetItem.char (codePoint c))
      let message := "bad character range " ++ String.ofList this.text ++ "-" ++
        String.ofList that.text
      let offset := this.text.length + 1 + that.text.length
      match first, second with
      | .char lo, .char hi =>
        if hi < lo then failWith message offset
        items := items.push (.range lo hi)
      | _, _ => failWith message offset
    else items := items.push first
  pure (dedupe items.toList)

mutual

/-- Alternatives separated by `|`, up to the end or a `)`. -/
def parseChoice : Nat → Bool → Nat → Parser (List Node)
  | 0, _, _ => failWith "nesting too deep" 0
  | fuel + 1, verbose₀, nested => do
    let mut verbose := verbose₀
    let mut alts : Array (List Node) := #[]
    for _ in [0:← tokenBound] do
      let item ← parseSequence fuel verbose (nested + 1) (nested == 0 && alts.isEmpty)
      alts := alts.push item
      if !(← accept '|') then break
      if nested == 0 then verbose := hasFlag (← get).flags verboseFlag
    pure (choiceOf alts.toList)

/-- Nodes in a row, up to the end, a `|` or a `)`. `first` says whether they may start with
flags for the whole pattern. -/
def parseSequence : Nat → Bool → Nat → Bool → Parser (List Node)
  | 0, _, _, _ => failWith "nesting too deep" 0
  | fuel + 1, verbose₀, nested, first => do
    let mut verbose := verbose₀
    let mut items : Array Node := #[]
    for _ in [0:← tokenBound] do
      let some this ← peek | break
      if this == .plain '|' || this == .plain ')' then break
      advance
      if verbose then
        if isPlainIn (some this) verboseBlanks then continue
        if this == .plain '#' then
          for _ in [0:← tokenBound] do
            let t ← take
            if t.isNone || t == some (.plain '\n') then break
          continue
      match this with
      | .escaped c =>
        match ← patternEscape c with
        | .char v => items := items.push (.char v)
        | .category k => items := items.push (.set false [.category k])
        | .anchor a => items := items.push (.anchor a)
        | .backref gid => items := items.push (.backref gid)
      | .plain c =>
        if !specialChars.contains c then items := items.push (.char (codePoint c))
        else if c = '[' then
          let start := (← tell) - 1
          let negated ← accept '^'
          let members ← parseSetItems start
          match members with
          | [.char m] => items := items.push (if negated then .notChar m else .char m)
          | _ => items := items.push (.set negated members)
        else if c = '*' || c = '+' || c = '?' || c = '{' then
          let here ← tell
          let mut lo := 0
          let mut hi : Option Nat := none
          if c = '?' then hi := some 1
          else if c = '+' then lo := 1
          else if c = '{' then
            if (← peek) == some (.plain '}') then
              items := items.push (.char (codePoint c))
              continue
            let los ← takeWhileIn (← tokenBound) decDigitChars
            let his ← if ← accept ',' then takeWhileIn (← tokenBound) decDigitChars else pure los
            if !(← accept '}') then
              items := items.push (.char (codePoint c))
              seek here
              continue
            if !los.isEmpty then
              lo := digitsValue 10 los
              if repeatLimit ≤ lo then throw .countTooLarge
            if !his.isEmpty then
              let h := digitsValue 10 his
              if repeatLimit ≤ h then throw .countTooLarge
              if h < lo then failWith "min repeat greater than max repeat" ((← tell) - here)
              hi := some h
          let offset := (← tell) - here + 1
          let body ← match items.back? with
            | none | some (.anchor _) => failWith "nothing to repeat" offset
            | some (.repetition ..) => failWith "multiple repeat" offset
            | some n => pure (match n with
              | .group none 0 0 b => b
              | _ => [n])
          let greed ← if ← accept '?' then pure Greed.lazy
            else if ← accept '+' then pure Greed.possessive
            else pure Greed.greedy
          items := items.pop.push (.repetition lo hi greed body)
        else if c = '.' then items := items.push .any
        else if c = '^' then items := items.push (.anchor .lineStart)
        else if c = '$' then items := items.push (.anchor .lineEnd)
        else if c = '(' then
          let start := (← tell) - 1
          let mut capture := true
          let mut atomic := false
          let mut name : Option (List Char) := none
          let mut added := 0
          let mut removed := 0
          if ← accept '?' then
            let some char ← take | failWith "unexpected end of pattern" 0
            if char == .plain 'P' then
              if ← accept '<' then
                let n ← takeName '>' "group name"
                checkGroupName n 1
                name := some n
              else if ← accept '=' then
                let n ← takeName ')' "group name"
                checkGroupName n 1
                match (← get).names.lookup (String.ofList n) with
                | none => failWith ("unknown group name " ++ quote (String.ofList n)) (n.length + 1)
                | some gid =>
                  if !(← isClosed gid) then failWith "cannot refer to an open group" (n.length + 1)
                  checkLookbehindGroup gid
                  items := items.push (.backref gid)
                continue
              else
                let some next ← take | failWith "unexpected end of pattern" 0
                failWith ("unknown extension ?P" ++ String.ofList next.text) (next.text.length + 2)
            else if char == .plain ':' then capture := false
            else if char == .plain '#' then
              for _ in [0:← tokenBound] do
                if (← peek).isNone then
                  failWith "missing ), unterminated comment" ((← tell) - start)
                if (← take) == some (.plain ')') then break
              continue
            else if isPlainIn (some char) ['=', '!', '<'] then
              let mut kind := char
              let mut behind := false
              let outer := (← get).lookbehindGroups
              if char == .plain '<' then
                let some k ← take | failWith "unexpected end of pattern" 0
                if !isPlainIn (some k) ['=', '!'] then
                  failWith ("unknown extension ?<" ++ String.ofList k.text) (k.text.length + 2)
                kind := k
                behind := true
                if outer.isNone then
                  let n ← groupCount
                  modify fun s => { s with lookbehindGroups := some n }
              let body ← parseChoice fuel verbose (nested + 1)
              if behind && outer.isNone then
                modify fun s => { s with lookbehindGroups := none }
              if !(← accept ')') then unterminatedGroup start
              items := items.push (.look behind (kind == .plain '!') body)
              continue
            else if char == .plain '(' then
              let condName ← takeName ')' "group name"
              let condText := String.ofList condName
              let gid ← if isIdentifier condName then do
                  checkGroupName condName 1
                  match (← get).names.lookup condText with
                  | none => failWith ("unknown group name " ++ quote condText) (condName.length + 1)
                  | some g => pure g
                else do
                  match ItemRecommender.Decimal.readIntLiteral? condName with
                  | some v =>
                    if v < 0 then
                      failWith ("bad character in group name " ++ quote condText) (condName.length + 1)
                    let g := v.toNat
                    if g = 0 then failWith "bad group number" (condName.length + 1)
                    if groupLimit ≤ g then
                      failWith ("invalid group reference " ++ toString g) (condName.length + 1)
                    let s ← get
                    if (s.refPositions.lookup g).isNone then
                      set { s with refPositions := s.refPositions ++
                        [(g, s.reader.tell - condName.length - 1)] }
                    pure g
                  | none =>
                    failWith ("bad character in group name " ++ quote condText) (condName.length + 1)
              checkLookbehindGroup gid
              let yes ← parseSequence fuel verbose (nested + 1) false
              let no ← if ← accept '|' then do
                  let n ← parseSequence fuel verbose (nested + 1) false
                  if (← peek) == some (.plain '|') then
                    failWith "conditional backref with more than two branches" 0
                  pure (some n)
                else pure none
              if !(← accept ')') then unterminatedGroup start
              items := items.push (.ifGroup gid yes no)
              continue
            else if char == .plain '>' then
              capture := false
              atomic := true
            else if (flagOfToken? (some char)).isSome || char == .plain '-' then
              match ← parseFlags char with
              | none =>
                if !first || !items.isEmpty then
                  failWith "global flags not at the start of the expression" ((← tell) - start)
                verbose := hasFlag (← get).flags verboseFlag
                continue
              | some (a, r) =>
                added := a
                removed := r
                capture := false
            else
              failWith ("unknown extension ?" ++ String.ofList char.text) (char.text.length + 1)
          let gid ← if capture then some <$> openGroup name else pure none
          let subVerbose := (verbose || hasFlag added verboseFlag) && !hasFlag removed verboseFlag
          let body ← parseChoice fuel subVerbose (nested + 1)
          if !(← accept ')') then unterminatedGroup start
          if let some g := gid then closeGroup g body
          if atomic then items := items.push (.atomic body)
          else items := items.push (.group gid added removed body)
    pure (items.toList.flatMap spliced)

end

/-- Checks the flags against the kind of pattern, and completes them: a text pattern that
names no alphabet takes Unicode's. -/
def fixFlags (isText : Bool) (flags : Nat) : Except Error Nat :=
  if isText then
    if hasFlag flags localeFlag then throw (.flags "cannot use LOCALE flag with a str pattern")
    else if !hasFlag flags asciiFlag then pure (flags ||| unicodeFlag)
    else if hasFlag flags unicodeFlag then throw (.flags "ASCII and UNICODE flags are incompatible")
    else pure flags
  else
    if hasFlag flags unicodeFlag then throw (.flags "cannot use UNICODE flag with a bytes pattern")
    else if hasFlag flags localeFlag && hasFlag flags asciiFlag then
      throw (.flags "ASCII and LOCALE flags are incompatible")
    else pure flags

mutual

/-- Refuses what reads but cannot be matched: under the template flag any repetition, and a
look-behind without a single width or wider than `codeLimit`. -/
def checkNodes (template : Bool) (groupWidth : Nat → Width) : List Node → Except Error Unit
  | [] => pure ()
  | n :: rest => do
    checkNode template groupWidth n
    checkNodes template groupWidth rest

/-- The check of one node. -/
def checkNode (template : Bool) (groupWidth : Nat → Width) : Node → Except Error Unit
  | .branch alts => checkAlternatives template groupWidth alts
  | .group _ _ _ body | .atomic body => checkNodes template groupWidth body
  | .repetition _ _ greed body => do
    if template then throw (.compile ("internal: unsupported template operator " ++ greed.operation))
    checkNodes template groupWidth body
  | .ifGroup _ yes no => do
    checkNodes template groupWidth yes
    match no with
    | some n => checkNodes template groupWidth n
    | none => pure ()
  | .look behind _ body => do
    if behind then
      let (lo, hi) := widthOfSeq groupWidth body
      if codeLimit < lo then throw (.compile "looks too much behind")
      if hi != some lo then throw (.compile "look-behind requires fixed-width pattern")
    checkNodes template groupWidth body
  | _ => pure ()

/-- The check of alternatives. -/
def checkAlternatives (template : Bool) (groupWidth : Nat → Width) :
    List (List Node) → Except Error Unit
  | [] => pure ()
  | alt :: rest => do
    checkNodes template groupWidth alt
    checkAlternatives template groupWidth rest

end

/-- Reads a pattern, a text or the characters of bytes, under some flags. -/
def parsePattern (pattern : List Char) (isText : Bool) (flags : Nat) : Except Error Parsed := do
  let start : ParseState :=
    { reader := ⟨pattern.toArray, isText, 0, none⟩, flags, names := [], widths := #[none],
      lookbehindGroups := none, refPositions := [] }
  let reading : Parser Parsed := do
    advance
    let nodes ← parseChoice (2 * pattern.length + 4) (hasFlag flags verboseFlag) 0
    let s ← get
    let fixed ← match fixFlags isText s.flags with
      | .ok f => pure f
      | .error e => throw e
    if (← peek).isSome then failWith "unbalanced parenthesis" 0
    for (g, pos) in s.refPositions do
      if s.widths.size ≤ g then throw (.malformed ("invalid group reference " ++ toString g) pos)
    let widths := (s.widths.toList.drop 1).map fun w => w.getD (0, some 0)
    pure (Parsed.mk nodes fixed (s.widths.size - 1) s.names widths)
  let (parsed, _) ← reading.run start
  checkNodes (hasFlag parsed.flags templateFlag)
    (fun g => (parsed.widths[g - 1]?).getD (0, some 0)) parsed.nodes
  pure parsed

end ItemRecommender.Regex
