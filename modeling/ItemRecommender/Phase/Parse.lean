import ItemRecommender.Decimal.Literal
import ItemRecommender.Decimal.Read
import ItemRecommender.Failure
import ItemRecommender.Text.Blank
import ItemRecommender.Text.Capitals
import ItemRecommender.Text.Digit
/-! # Naming a phase

    A phase is named by its number or its label. The text is trimmed of blanks. If it is made of
    digits only (digits in the wide sense of `isDigitLike`), it is read as an integer, which must
    be a phase number. More than `Decimal.maxIntDigits` decimal digits before any other digit are
    refused; otherwise a digit that is not a decimal digit makes it an invalid integer. Otherwise, written in capitals and
    with `-` read as `_`, it must be a label in capitals. -/

namespace ItemRecommender

open ItemRecommender.Text

/-- The phase a text names. -/
def Phase.parse (value : String) : Except Failure Phase := do
  let text := trimBlank value.toList
  if !text.isEmpty && text.all isDigitLike then
    let leading := (text.takeWhile isDecimal).length
    if Decimal.maxIntDigits < leading then throw (.tooManyDigits leading)
    match text.mapM decimalValue? with
    | none => throw (.notIntLiteral (String.ofList text))
    | some ds =>
      let n := Decimal.digitsValue ds
      match Phase.ofNat? n with
      | some p => pure p
      | none => throw (.noSuchPhase n)
  else
    let name := (capitalize text).map fun c => if c = '-' then '_' else c
    match Phase.all.find? fun p => capitalize p.label.toList = name with
    | some p => pure p
    | none => throw (.unknownPhase value)

end ItemRecommender
