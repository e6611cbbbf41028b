import ItemRecommender.Text.EntityTable
import ItemRecommender.Text.Digit
/-!
# Character references of markup

Escaping (`escapeMarkup`) writes `&`, `<` and `>` as the references `&amp;`, `&lt;` and
`&gt;`, and, when quotes are escaped too, `"` and `'` as `&quot;` and `&#x27;`.

Unescaping (`unescapeMarkup`) replaces each reference after an ampersand, read as the first
of three forms that fits:

* `#` and decimal digits, or `#x` (or `#X`) and hexadecimal digits, each perhaps closed by a
  semicolon: the character of that number, unless the number is one of the replaced ones
  (`numericReplacements`); a surrogate or a number beyond the code points gives U+FFFD, and a
  forbidden code point gives nothing;
* up to 32 characters other than blanks, `<`, `&`, `#` and `;`, perhaps closed by a semicolon:
  the characters of the name (`entityTable`), else of the longest prefix of at least two
  characters that is a name, followed by the rest; a reference that names nothing stays.

An ampersand before none of these stays, and reading goes on after each reference.
-/

namespace ItemRecommender.Text

/-- The references the escaping of markup writes for a character, or `none` for one kept. -/
def escapedCharacter (quotes : Bool) (c : Char) : Option (List Char) :=
  match c with
  | '&' => some "&amp;".toList
  | '<' => some "&lt;".toList
  | '>' => some "&gt;".toList
  | '"' => if quotes then some "&quot;".toList else none
  | '\'' => if quotes then some "&#x27;".toList else none
  | _ => none

/-- A text with the characters of markup written as references. -/
def escapeMarkup (quotes : Bool) (cs : List Char) : List Char :=
  cs.flatMap fun c => (escapedCharacter quotes c).getD [c]

/-- Whether a character ends the name of a reference. -/
def endsReferenceName (c : Char) : Bool :=
  c == '\t' || c == '\n' || c == '\x0c' || c == ' ' || c == '<' || c == '&' || c == '#' ||
    c == ';'

/-- The body of a reference and its closing semicolon when one follows. -/
def closedBy (body rest : List Char) : List Char :=
  match rest with
  | ';' :: _ => body ++ [';']
  | _ => body

/-- The text of the reference after an ampersand, in the first form that fits. -/
def referenceAfter? (cs : List Char) : Option (List Char) :=
  match cs with
  | '#' :: rest =>
    let digits := rest.takeWhile isAsciiDigit
    if !digits.isEmpty then some (closedBy ('#' :: digits) (rest.drop digits.length))
    else
      match rest with
      | x :: more =>
        if x == 'x' || x == 'X' then
          let hex := more.takeWhile isAsciiHexDigit
          if hex.isEmpty then none else some (closedBy ('#' :: x :: hex) (more.drop hex.length))
        else none
      | [] => none
  | _ =>
    let name := (cs.takeWhile (!endsReferenceName ·)).take 32
    if name.isEmpty then none else some (closedBy name (cs.drop name.length))

/-- Whether a code point is one no numeric reference stands for. -/
def isForbiddenReference (n : Nat) : Bool :=
  forbiddenReferenceRuns.any fun (lo, hi) => lo ≤ n && n ≤ hi

/-- The characters a numeric reference stands for. -/
def numericReference (n : Nat) : List Char :=
  match numericReplacements.lookup n with
  | some c => [Char.ofNat c]
  | none =>
    if (0xD800 ≤ n ∧ n ≤ 0xDFFF) ∨ 0x10FFFF < n then ['�']
    else if isForbiddenReference n then []
    else [Char.ofNat n]

/-- The code points a name stands for. -/
def entityOf? (name : List Char) : Option (List Nat) :=
  entityTable.lookup (String.ofList name)

/-- The characters a named reference stands for: its name's, else those of its longest prefix
of at least two characters that is a name followed by the rest, else the reference itself. -/
def namedReference (ref : List Char) : List Char :=
  match entityOf? ref with
  | some codes => codes.map Char.ofNat
  | none =>
    let cuts := ((List.range (ref.length - 2)).map (· + 2)).reverse
    match cuts.findSome? fun k => (entityOf? (ref.take k)).map (k, ·) with
    | some (k, codes) => codes.map Char.ofNat ++ ref.drop k
    | none => '&' :: ref

/-- The number of a numeric reference's digits, in base `base`. -/
def referenceNumber (base : Nat) (digits : List Char) : Nat :=
  digits.foldl (fun n c => n * base + (hexDigitValue? c).getD 0) 0

/-- The characters a reference stands for. -/
def referenceText (ref : List Char) : List Char :=
  let digits := ref.filter (· != ';')
  match digits with
  | '#' :: x :: hex =>
    if x == 'x' || x == 'X' then numericReference (referenceNumber 16 hex)
    else numericReference (referenceNumber 10 (x :: hex))
  | _ => namedReference ref

/-- A text with its character references replaced. -/
def unescapeMarkup (cs : List Char) : List Char :=
  match cs with
  | [] => []
  | '&' :: rest =>
    match referenceAfter? rest with
    | some ref => referenceText ref ++ unescapeMarkup (rest.drop ref.length)
    | none => '&' :: unescapeMarkup rest
  | c :: rest => c :: unescapeMarkup rest
termination_by cs.length
decreasing_by
  all_goals simp only [List.length_cons, List.length_drop]
  all_goals omega

end ItemRecommender.Text
