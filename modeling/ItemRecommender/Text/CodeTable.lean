/-!
# Tables of code point properties

A property that Unicode gives every code point is stored as **runs**: each entry holds the first
code point of a run and the value the property takes from there up to the first code point of the
next entry. The entries are sorted by first code point, so the value at a code point is found by a
binary search for the last entry that starts at or before it (`CodeTable.get?`).

The large tables of the library are written as text, stored packed (see `unpackText`) and read
once: entries separated by blanks, each a hexadecimal code point, a colon and the value's text
(`CodeTable.ofText`); most give each code point as its distance from the one before, which packs
smaller (`CodeTable.ofSteps`), and lists of ranges give each range by its gap from the one
before (`hexStepRuns`). Hexadecimal digits are read in either case and written in upper case with at least four digits, as Unicode
writes code points (`upperHex`).
-/

namespace ItemRecommender.Text

/-- The value of a hexadecimal digit, upper or lower case, or `none`. -/
def hexDigitValue? (c : Char) : Option Nat :=
  if '0' ≤ c ∧ c ≤ '9' then some (c.toNat - '0'.toNat)
  else if 'A' ≤ c ∧ c ≤ 'F' then some (c.toNat - 'A'.toNat + 10)
  else if 'a' ≤ c ∧ c ≤ 'f' then some (c.toNat - 'a'.toNat + 10)
  else none

/-- The number that hexadecimal digits spell; a character that is no digit counts as zero. -/
def hexNumber (cs : List Char) : Nat :=
  cs.foldl (fun acc c => acc * 16 + (hexDigitValue? c).getD 0) 0

/-- Inclusive runs of code points written as blank-separated entries in hexadecimal: `LO-HI`,
or one code point for a run of one. -/
def hexRuns (text : String) : List (Nat × Nat) :=
  ((text.splitOn " ").filter (!·.isEmpty)).map fun entry =>
    match entry.splitOn "-" with
    | [lo, hi] => (hexNumber lo.toList, hexNumber hi.toList)
    | _ => (hexNumber entry.toList, hexNumber entry.toList)

/-- Pairs of numbers written as blank-separated `A:B` entries in hexadecimal. -/
def hexPairs (text : String) : List (Nat × Nat) :=
  ((text.splitOn " ").filter (!·.isEmpty)).map fun entry =>
    match entry.splitOn ":" with
    | [a, b] => (hexNumber a.toList, hexNumber b.toList)
    | _ => (hexNumber entry.toList, 0)

/-- Runs given as pairs of a gap and an extent, each run starting `gap` after the mark of the run
before (zero for the first) and setting the mark to its start plus its extent; each comes back
as its start and its extent. -/
def accumulateRuns : List (Nat × Nat) → Nat → List (Nat × Nat)
  | [], _ => []
  | (gap, extent) :: rest, mark => (mark + gap, extent) :: accumulateRuns rest (mark + gap + extent)

/-- Inclusive runs of code points in increasing order, written as `hexPairs` entries `G:L`: the
distance of the run's first code point from the last code point of the run before, and the
run's length less one, left out when it is zero. -/
def hexStepRuns (text : String) : List (Nat × Nat) :=
  (accumulateRuns (hexPairs text) 0).map fun r => (r.1, r.1 + r.2)

/-- Code points mapped to lists of code points, written as blank-separated `A:B,C,...` entries in
hexadecimal. -/
def hexMappings (text : String) : List (Nat × List Nat) :=
  ((text.splitOn " ").filter (!·.isEmpty)).map fun entry =>
    match entry.splitOn ":" with
    | [a, bs] => (hexNumber a.toList, (bs.splitOn ",").map fun b => hexNumber b.toList)
    | _ => (hexNumber entry.toList, [])

/-- A number in upper-case hexadecimal, padded with zeros to at least four digits. -/
def upperHex (n : Nat) : String :=
  let ds := (Nat.toDigits 16 n).map Char.toUpper
  String.ofList (List.replicate (4 - ds.length) '0' ++ ds)

/-- A property of code points as runs sorted by their first code point. -/
structure CodeTable (α : Type) where
  entries : Array (Nat × α)

namespace CodeTable

variable {α : Type}

/-- The count of entries that start at or before `n`, searched between `lo` and `hi`: every
entry below `lo` starts at or before `n`, and none from `hi` on does. -/
def countUpTo (t : CodeTable α) (n lo hi : Nat) (hhi : hi ≤ t.entries.size) : Nat :=
  if h : lo < hi then
    let mid := lo + (hi - lo) / 2
    have hmid : mid < t.entries.size := by omega
    if t.entries[mid].1 ≤ n then countUpTo t n (mid + 1) hi hhi
    else countUpTo t n lo mid (by omega)
  else lo
termination_by hi - lo

/-- The value at a code point: that of the last run starting at or before it, or `none` before
the first run. -/
def get? (t : CodeTable α) (n : Nat) : Option α :=
  match countUpTo t n 0 t.entries.size (Nat.le_refl _) with
  | 0 => none
  | k + 1 => t.entries[k]?.map (·.2)

/-- The value at a code point, or `fallback` before the first run. -/
def getD (t : CodeTable α) (n : Nat) (fallback : α) : α := (t.get? n).getD fallback

/-- A table read from text: entries separated by blanks, each a hexadecimal code point, a colon
and the text that `value` reads. An entry without a colon is skipped. -/
def ofText (value : String → α) (text : String) : CodeTable α :=
  ⟨((text.splitOn " ").filterMap fun entry =>
      match entry.splitOn ":" with
      | start :: v :: more => some (hexNumber start.toList, value (":".intercalate (v :: more)))
      | _ => none).toArray⟩

/-- Entries that give each code point as its distance from the code point of the entry before,
the first from `base`, with their code points. -/
def accumulateSteps : List (Nat × α) → Nat → List (Nat × α)
  | [], _ => []
  | (step, v) :: rest, base => (base + step, v) :: accumulateSteps rest (base + step)

/-- A table read from text as `ofText` reads it, except that each entry gives the distance from
the code point of the entry before, the first from zero. -/
def ofSteps (value : String → α) (text : String) : CodeTable α :=
  ⟨(accumulateSteps (ofText value text).entries.toList 0).toArray⟩

end CodeTable

end ItemRecommender.Text
