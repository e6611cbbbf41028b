import ItemRecommender.Decimal.Format
import ItemRecommender.Decimal.Literal
import ItemRecommender.Ranking
import ItemRecommender.Text.Fields
import ItemRecommender.Text.LineBreak
/-! # Recommendation lines

    The recommendation file holds one line per user: the user id, a tab, and the items between
    brackets as `item:score` pairs separated by commas. Scores are written in the `score` layout,
    the shortest digits that read back.

    Reading a line drops its trailing line feeds, and then needs an optional minus sign and
    decimal digits (of any script), a tab, an opening bracket, a body without line feed, and a
    closing bracket at the very end. The body, unless empty, is cut at every comma, and each
    piece at its first colon into an item id and a score, read leniently (`readInt`,
    `readFloatLiteral?`); a piece without colon has an empty score. Ids of more than
    `maxIntDigits` digits are refused. -/

namespace ItemRecommender

open ItemRecommender.Decimal ItemRecommender.Text

/-- The line of one user's recommendations. -/
def formatLine (user : Int) (items : List (Recommendation Float)) : String :=
  s!"{user}\t[" ++ ",".intercalate (items.map fun r => s!"{r.item}:{Layout.score.render r.score}") ++
    "]"

/-- A user id as the line starts with it: an optional minus sign and decimal digits of any script
(whether it is negative, and the digit values), and the rest of the line. -/
def readLineUser? (s : List Char) : Option ((Bool × List Nat) × List Char) :=
  let (negative, rest) := match s with
    | '-' :: r => (true, r)
    | r => (false, r)
  let digits := rest.takeWhile fun c => (decimalValue? c).isSome
  if digits.isEmpty then none
  else some ((negative, digits.map fun c => (decimalValue? c).getD 0), rest.drop digits.length)

/-- The body between the brackets of a line, after the user id. -/
def readLineBody? : List Char → Option (List Char)
  | '\t' :: '[' :: rest =>
    if rest.getLast? = some ']' ∧ '\n' ∉ rest then some rest.dropLast else none
  | _ => none

/-- One `item:score` pair of a line. -/
def readPair (piece : List Char) : Except Failure (Recommendation Float) := do
  let item := piece.takeWhile (· ≠ ':')
  let score := (piece.dropWhile (· ≠ ':')).drop 1
  let id ← (readInt item).mapError (Failure.ofIntFault (String.ofList item))
  let some value := readFloatLiteral? score | throw (.notFloatLiteral (String.ofList score))
  pure ⟨id, value⟩

/-- The user and the items of a recommendation line. -/
def parseLine (line : String) : Except Failure (Int × List (Recommendation Float)) := do
  let chars := (line.toList.reverse.dropWhile (· = '\n')).reverse
  let some ((negative, digits), rest) := readLineUser? chars | throw (.malformedLine line)
  let some body := readLineBody? rest | throw (.malformedLine line)
  let user ← (signedValue negative digits).mapError (Failure.ofIntFault line)
  if body.isEmpty then return (user, [])
  let items ← (cutAt ',' body).mapM readPair
  pure (user, items)

/-- The recommendations of a file's text by user, in ascending user order. A line that is
blank is skipped; a user's last line counts. -/
def readRecommendationText (text : String) :
    Except Failure (List (Int × List (Recommendation Float))) := do
  let lines := (fileLines text.toList).filter fun l => !(trimBlank l).isEmpty
  let parsed ← lines.mapM fun l => parseLine (String.ofList l)
  let byUser := Ledger.ofList parsed
  pure (byUser.entries.mergeSort fun a b => decide (a.1 ≤ b.1))

end ItemRecommender
