import ItemRecommender.ItemTable
import ItemRecommender.Ledger
/-! # User vectors

    A user's vector maps the index of each item the user rated to a slot. Preferences reach the
    vector in input order, so a repeated item keeps its last value and its first place. An item
    that the table does not know fails the user's vector. -/

namespace ItemRecommender

/-- A user's slots by item index. -/
abbrev UserVector (α : Type) := Ledger Int (Slot α)

variable {α : Type}

/-- The vector of one user from the `(item, value)` pairs of the user's preferences. -/
def userVector (table : ItemTable) (user : Int) (values : List (Int × α)) :
    Except Failure (UserVector α) :=
  values.foldlM (fun v p =>
    match table.indexOf? p.1 with
    | none => throw (.unknownItem user p.1)
    | some index => pure (v.insert index (.value p.2))) Ledger.empty

/-- The vectors of all users, in ascending user order. -/
def buildUserVectors (prefs : List (Preference α)) (table : ItemTable) (splits : Int) :
    Except Failure (List (Int × UserVector α)) :=
  let stage : Batch.Stage (Int × α) (UserVector α) :=
    ⟨none, fun user values => do pure [(user, ← userVector table user values)]⟩
  stage.run [prefs.map fun p => pure [(p.user, (p.item, p.value))]] splits

end ItemRecommender
