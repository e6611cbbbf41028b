import ItemRecommender.Decimal.Literal
import ItemRecommender.Decimal.Read
import ItemRecommender.Text.Blank
import ItemRecommender.Text.Digit
import ItemRecommender.Text.Fields
import ItemRecommender.Text.LineBreak
import ItemRecommender.Workspace
/-! # Reading preference files

    A preference input is a file, or a directory whose regular files not starting with `.` or
    `_` are read in order of name. A file is UTF-8 text. Its lines (`splitLines`) are numbered
    from one; blank lines are skipped but counted. Each line holds two or three fields separated
    by commas or tabs: user id, item id and, unless the data is boolean, a value.

    A file is checked as a whole, one rule after the other, and the first line that breaks the
    rule being checked is reported:

    1. every line has two or three fields;
    2. every user id, with blanks trimmed, is an optional sign and decimal digits of any script,
       and then has at most `maxIntDigits` digits;
    3. every item id likewise;
    4. in valued data, every value, with blanks trimmed, is a numeral (`readNumeral?`), and an
       integer numeral has at most `maxIntDigits` digits; a missing value is reported as `nan`.

    Values are the doubles nearest to the numerals, except that a file whose values are all
    integer numerals within the 64-bit range reads them as integers: there `-0` is zero. In
    boolean data every value is one. -/

namespace ItemRecommender

open ItemRecommender.Text ItemRecommender.Decimal

/-- An id field read as an optional sign and decimal digits of any script, with blanks around
it: whether it is negative, and the digit values. -/
def idDigits? (raw : List Char) : Option (Bool × List Nat) :=
  let (negative, digits) := spanSign (trimBlank raw)
  if digits.isEmpty then none else (digits.mapM decimalValue?).map fun ds => (negative, ds)

/-- The value of an id field; more than `maxIntDigits` digits are refused. -/
def readId (raw : List Char) : Except Failure Int :=
  match idDigits? raw with
  | none => throw (.notIntLiteral (String.ofList raw))
  | some (negative, ds) => (signedValue negative ds).mapError (Failure.ofIntFault (String.ofList raw))

/-- The reading of a value text: a numeral, except that an integer numeral of more than
`maxIntDigits` digits is not read. -/
def valueReading? (s : List Char) : Option Reading :=
  match readNumeral? s with
  | some (.numeral n) => if !n.decimal ∧ maxIntDigits < n.whole.length then none else some (.numeral n)
  | r => r

/-- A numbered line with its fields. -/
structure Record where
  line : Nat
  text : List Char
  fields : List (List Char)

/-- The non-blank lines of a text with their numbers. -/
def numberedLines (text : String) : List (Nat × List Char) :=
  ((splitLines text.toList).zipIdx.map fun p => (p.2 + 1, p.1)).filter fun p =>
    !(trimBlank p.2).isEmpty

/-- The first record that fails a check, reported by `fail`. -/
def firstFailure (records : List Record) (ok : Record → Bool) (fail : Record → Failure) :
    Except Failure Unit :=
  match records.find? fun r => !ok r with
  | some r => throw (fail r)
  | none => pure ()

/-- Whether an integer fits the 64-bit integer column of the value reader. -/
def inIntegerRange (i : Int) : Bool := -Int.ofNat (Nat.pow 2 63) ≤ i ∧ i < Int.ofNat (Nat.pow 2 64)

/-- The values of a file's numerals: as integers when all are integer numerals that fit one
64-bit column, otherwise as doubles. -/
def columnValues (readings : List Reading) : List Float :=
  let ints := readings.filterMap fun
    | .numeral n => if n.decimal then none else some n.toInt
    | .infinity _ => none
  let integral := ints.length = readings.length ∧ ints.all inIntegerRange ∧
    ¬(ints.any (· ≥ Int.ofNat (Nat.pow 2 63)) ∧ ints.any (· < 0))
  if integral then ints.map fun i => toFloat (decide (i < 0)) i.natAbs 0
  else readings.map Reading.toFloat

/-- The preferences of one file's text; `path` is the file as messages show it. -/
def parsePreferences (path : String) (text : String) (boolean : Bool) :
    Except Failure (List (Preference Float)) := do
  let records := (numberedLines text).map fun p =>
    ({ line := p.1, text := p.2, fields := cutWhere (fun c => c = ',' || c = '\t') p.2 } : Record)
  firstFailure records (fun r => r.fields.length = 2 ∨ r.fields.length = 3)
    fun r => .fieldCount path r.line r.fields.length (String.ofList r.text)
  let field := fun (r : Record) (i : Nat) => (r.fields[i]?).getD []
  firstFailure records (fun r => (idDigits? (field r 0)).isSome)
    fun r => .notAnInteger path r.line "user_id" (String.ofList (field r 0))
  let users ← records.mapM fun r => readId (field r 0)
  firstFailure records (fun r => (idDigits? (field r 1)).isSome)
    fun r => .notAnInteger path r.line "item_id" (String.ofList (field r 1))
  let items ← records.mapM fun r => readId (field r 1)
  let values ← if boolean then pure (records.map fun _ => (1.0 : Float))
    else do
      let readings ← records.mapM fun r =>
        match r.fields[2]? with
        | none => throw (.badValue path r.line none)
        | some raw =>
          match valueReading? (trimBlank raw) with
          | some reading => pure reading
          | none => throw (.badValue path r.line (some (String.ofList raw)))
      pure (columnValues readings)
  pure (((users.zip items).zip values).map fun ((u, i), v) => ⟨u, i, v⟩)

/-- The files of a preference input, with the paths that messages show. -/
def inputFiles {α : Type} (w : Workspace α) (p : PathName) :
    Except Failure (List (String × Content α)) := do
  let some loc := w.locate p | throw (.inputNotFound p.render)
  match w.fileAt? loc with
  | some c => pure [(p.render, c)]
  | none =>
    if !w.isDir loc then throw (.inputNotFound p.render)
    let files := (w.filesIn loc).filter fun f =>
      !(f.1.startsWith "." || f.1.startsWith "_")
    if files.isEmpty then throw (.noInputFiles p.render)
    pure (files.map fun f => ((p.join f.1).render, f.2))

/-- Every preference of an input, in file order and line order. -/
def readPreferences {α : Type} (w : Workspace α) (path : PathName) (boolean : Bool) :
    Except Failure (List (Preference Float)) := do
  let files ← inputFiles w path
  let perFile ← files.mapM fun f => do
    parsePreferences f.1 (← Workspace.decodeText f.2) boolean
  pure perFile.flatten

/-- The user ids of a users file, ascending and without repeats; `none` when no file is given.
Every non-blank line is one id; all are checked for their form before any for its length. -/
def readUserIds {α : Type} (w : Workspace α) (path : Option PathName) : Except Failure (Option (List Int)) := do
  let some p := path | return none
  if !w.exists? p then throw (.usersFileNotFound p.render)
  let lines := numberedLines (← Workspace.decodeText (← w.openRead p))
  match lines.find? fun l => (idDigits? l.2).isNone with
  | some l => throw (.notAnInteger p.render l.1 "user_id" (String.ofList l.2))
  | none => pure ()
  let ids ← lines.mapM fun l => readId l.2
  pure (some (dropRepeats (ids.mergeSort fun a b => decide (a ≤ b))))

end ItemRecommender
