import ItemRecommender.Decimal.Format
import ItemRecommender.Json
import ItemRecommender.Workspace
/-! # Dataset files

    On disk a dataset is the byte `0x80` followed by its JSON text, so that a dataset read as
    text fails at its first byte. The JSON holds one member named for the kind of dataset, whose
    value lists the records as `[key, value]` pairs; a sparse vector or column is a list of
    `[index, value]` pairs in entry order. Values are written in their shortest form, which
    reads back to the same double; not-a-number and the infinities are the texts `"nan"`,
    `"inf"` and `"-inf"`, and an excluded slot is `null`. A file that does not start with
    `0x80`, or whose text is no dataset, holds bytes only. -/

namespace ItemRecommender

namespace DatasetFile

/-- A value as written. -/
def valueJson (x : Float) : Json :=
  if x.isNaN then .string "nan"
  else if x.isInf then .string (if x > 0 then "inf" else "-inf")
  else .number (Decimal.Layout.score.render x)

/-- A value as read. -/
def value? : Json → Option Float
  | .string "nan" => some (0.0 / 0.0)
  | .string "inf" => some (1.0 / 0.0)
  | .string "-inf" => some (-1.0 / 0.0)
  | j => j.numberToFloat?

/-- A slot as written. -/
def slotJson : Slot Float → Json
  | .value v => valueJson v
  | .excluded => .null

/-- A slot as read. -/
def slot? : Json → Option (Slot Float)
  | .null => some .excluded
  | j => (value? j).map .value

/-- Pairs with integer keys, as written. -/
def pairsJson {α : Type} (f : α → Json) (ps : List (Int × α)) : Json :=
  .array (ps.map fun p => .array [Json.ofInt p.1, f p.2])

/-- Pairs with integer keys, as read. -/
def pairs? {α : Type} (f : Json → Option α) : Json → Option (List (Int × α))
  | .array items => items.mapM fun
    | .array [k, v] => do pure (← k.toInt?, ← f v)
    | _ => none
  | _ => none

/-- A ledger with integer keys, as read. -/
def ledger? {α : Type} (f : Json → Option α) (j : Json) : Option (Ledger Int α) :=
  (pairs? f j).map Ledger.ofList

/-- The integers of a list, as read. -/
def ints? : Json → Option (List Int)
  | .array items => items.mapM Json.toInt?
  | _ => none

/-- The slots of a list, as read. -/
def slots? : Json → Option (List (Slot Float))
  | .array items => items.mapM slot?
  | _ => none

/-- A rated column, as written. -/
def ratedJson (r : RatedColumn Float) : Json :=
  .object [("column", pairsJson valueJson r.column.entries),
    ("raters", .array (r.raters.map Json.ofInt)), ("slots", .array (r.slots.map slotJson))]

/-- A rated column, as read. -/
def rated? (j : Json) : Option (RatedColumn Float) := do
  pure ⟨← ledger? value? (← j.field? "column"), ← ints? (← j.field? "raters"),
    ← slots? (← j.field? "slots")⟩

/-- The JSON form of a dataset. -/
def toJson : Dataset → Json
  | .itemTable t => .object [("itemTable", pairsJson Json.ofInt t.rows)]
  | .userVectors vs => .object [("userVectors", pairsJson (fun v => pairsJson slotJson v.entries) vs)]
  | .columns cs => .object [("columns", pairsJson (fun c => pairsJson valueJson c.entries) cs)]
  | .joined rs => .object [("joined", pairsJson ratedJson rs)]
  | .objects _ _ => .object [("objects", .null)]

/-- The dataset a JSON form gives. -/
def ofJson? : Json → Option Dataset
  | .object [("itemTable", j)] => do pure (.itemTable ⟨← pairs? Json.toInt? j⟩)
  | .object [("userVectors", j)] => do pure (.userVectors (← pairs? (ledger? slot?) j))
  | .object [("columns", j)] => do pure (.columns (← pairs? (ledger? value?) j))
  | .object [("joined", j)] => do pure (.joined (← pairs? rated? j))
  | _ => none

/-- The bytes of a file. -/
def encode : Content → List UInt8
  | .bytes data => data
  | .dataset d => 0x80 :: (toJson d).compact.toUTF8.toList

/-- The content of a file's bytes. -/
def decode (data : List UInt8) : Content :=
  match data with
  | 0x80 :: rest =>
    match (Text.decodeUtf8 rest).toOption.bind (fun cs => Json.parse? (String.ofList cs)) with
    | some j =>
      match ofJson? j with
      | some d => .dataset d
      | none => .bytes data
    | none => .bytes data
  | _ => .bytes data

end DatasetFile

end ItemRecommender
