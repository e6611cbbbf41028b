import ItemRecommender.Object.Library.Arguments
/-! # The calendar

    Dates of the proleptic Gregorian calendar: a year is a leap year when four divides it,
    unless a hundred does and four hundred does not. Weeks start on Monday, so Monday is
    weekday `0` and Sunday `6`; 1 January of the year 1 was a Monday.

    A date is made of integers; its year lies from 1 to 9999 (other years are first moved into
    range by their place in the 400-year cycle, which repeats the weekdays), its month from 1
    to 12, and its day within the month. The leap-year test and the leap-day count are computed
    with the language's arithmetic, so they accept any numbers. -/

namespace ItemRecommender.Object

/-- Whether a year is a leap year. -/
def isLeapYear (y : Int) : Bool := y % 4 = 0 ∧ (y % 100 ≠ 0 ∨ y % 400 = 0)

/-- The number of days in a month of a year. -/
def daysInMonth (y m : Int) : Nat :=
  match m with
  | 2 => if isLeapYear y then 29 else 28
  | 4 | 6 | 9 | 11 => 30
  | _ => 31

/-- The number of days before 1 January of a year, counted from 1 January of the year 1. -/
def daysBeforeYear (y : Int) : Int :=
  let p := y - 1
  p * 365 + p / 4 - p / 100 + p / 400

/-- The number of days before a date, counted from 1 January of the year 1. -/
def daysBefore (y m d : Int) : Int :=
  daysBeforeYear y + (List.range (m.toNat - 1)).foldl (fun acc (k : Nat) => acc + (daysInMonth y (k + 1) : Int)) 0 +
    (d - 1)

/-- The weekday of a date, Monday being `0`. -/
def weekdayOf (y m d : Int) : Int := daysBefore y m d % 7

/-- An integer argument of a date. -/
def dateNumber (h : Heap) (v : Value) : Except Raised Int :=
  match v with
  | .int i =>
    if i ≥ Int.ofNat (Nat.pow 2 63) ∨ i < -Int.ofNat (Nat.pow 2 63) then
      throw ⟨"OverflowError", "Python int too large to convert to C long"⟩
    else if i ≥ Int.ofNat (Nat.pow 2 31) then
      throw ⟨"OverflowError", "signed integer is greater than maximum"⟩
    else if i < -Int.ofNat (Nat.pow 2 31) then
      throw ⟨"OverflowError", "signed integer is less than minimum"⟩
    else pure i
  | .bool b => pure (if b then 1 else 0)
  | _ => throw ⟨"TypeError", "'" ++ v.typeName h ++ "' object cannot be interpreted as an integer"⟩

/-- A date checked: its year, month and day, each in range. -/
def checkedDate (h : Heap) (y m d : Value) : Except Raised (Int × Int × Int) := do
  let y ← dateNumber h y
  let m ← dateNumber h m
  let d ← dateNumber h d
  if y < 1 ∨ 9999 < y then throw ⟨"ValueError", "year " ++ toString y ++ " is out of range"⟩
  if m < 1 ∨ 12 < m then throw ⟨"ValueError", "month must be in 1..12"⟩
  if d < 1 ∨ (daysInMonth y m : Int) < d then throw ⟨"ValueError", "day is out of range for month"⟩
  pure (y, m, d)

/-- The weekday of a date given as values, a year out of range moved into it first. -/
def weekdayValue (y m d : Value) : Act Int := do
  let inRange ← do
    if ← (Value.int 1).atMost y then y.atMost (.int 9999) else pure false
  let y ← if inRange then pure y else do (Value.int 2000).plus (← y.modulo (.int 400))
  let (y, m, d) ← reading fun h => checkedDate h y m d
  pure (weekdayOf y m d)

/-- Whether a year is a leap year, computed on the value given. -/
def isLeapValue (y : Value) : Act Value := do
  if !(← (← y.modulo (.int 4)).equalTo (.int 0)) then return .bool false
  if !(← (← y.modulo (.int 100)).equalTo (.int 0)) then return .bool true
  pure (.bool (← (← y.modulo (.int 400)).equalTo (.int 0)))

/-- The number of leap years from `y1` up to `y2`, `y2` excluded. -/
def leapDaysValue (y1 y2 : Value) : Act Value := do
  let y1 ← y1.minus (.int 1)
  let y2 ← y2.minus (.int 1)
  let part (k : Int) : Act Value := do (← y2.floorOver (.int k)).minus (← y1.floorOver (.int k))
  (← (← part 4).minus (← part 100)).plus (← part 400)

/-- The weekday of the first day of a month and the month's number of days. -/
def monthRange (y m : Value) : Act (Int × Int) := do
  let inRange ← do
    if ← (Value.int 1).atMost m then m.atMost (.int 12) else pure false
  if !inRange then
    throw ⟨"IllegalMonthError", "bad month number " ++ (← reading fun h => m.repr h) ++
      "; must be 1-12"⟩
  let first ← weekdayValue y m (.int 1)
  let month ← reading fun h => dateNumber h m
  let leap ← if month = 2 then do pure (← (← isLeapValue y).truthy) else pure false
  let days : Int := (daysInMonth 2001 month : Int) + (if leap then 1 else 0)
  pure (first, days)

/-- The weeks of a month, Monday first, with zeros for the days of other months. -/
def monthWeeks (first days : Int) : List (List Value) :=
  let before := (first % 7).toNat
  let after := ((-first - days) % 7).toNat
  let cells := List.replicate before (Value.int 0) ++
    (List.range days.toNat).map (fun (k : Nat) => Value.int (k + 1)) ++ List.replicate after (Value.int 0)
  (List.range (cells.length / 7)).map fun w => (cells.drop (7 * w)).take 7

/-- A function of the calendar module, applied, or `none` for a name it does not have. -/
def calendarFunction (m name : String) (args : List Value) (kwargs : List (String × Value)) :
    Option (Act Value) :=
  let bind (params : List String) : Act (List Value) := do
    let bound ← reading fun _ => bindParameters (name ++ "()") (params.map required) args kwargs
    pure (bound.map (·.getD .none))
  if m = "calendar" then
    match name with
    | "isleap" => some do
      match ← bind ["year"] with
      | [y] => isLeapValue y
      | _ => pure .none
    | "leapdays" => some do
      match ← bind ["y1", "y2"] with
      | [a, b] => leapDaysValue a b
      | _ => pure .none
    | "weekday" => some do
      match ← bind ["year", "month", "day"] with
      | [y, mo, d] => do pure (.int (← weekdayValue y mo d))
      | _ => pure .none
    | "monthrange" => some do
      match ← bind ["year", "month"] with
      | [y, mo] => do
        let (first, days) ← monthRange y mo
        pure (.tuple [.int first, .int days])
      | _ => pure .none
    | "monthcalendar" => some do
      match ← bind ["year", "month"] with
      | [y, mo] => do
        let (first, days) ← monthRange y mo
        let weeks ← (monthWeeks first days).mapM newList
        newList weeks
      | _ => pure .none
    | "firstweekday" => some do
      match ← bind [] with
      | _ => pure (.int 0)
    | _ => none
  else none

end ItemRecommender.Object
