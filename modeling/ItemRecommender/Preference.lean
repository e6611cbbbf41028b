import ItemRecommender.Scalar
/-! # Preferences and slots

    A preference says that a user rated an item with a value. Inside a user vector a value sits
    in a slot, which pruning may empty: an excluded slot still records that the user rated the
    item, but its value takes part in no score. -/

namespace ItemRecommender

/-- One user's value for one item. -/
structure Preference (α : Type) where
  user : Int
  item : Int
  value : α
  deriving Repr

/-- A user's entry for an item: a value, or excluded by pruning. -/
inductive Slot (α : Type) where
  | value (v : α)
  | excluded
  deriving Repr, DecidableEq

/-- A preference with its value read another way. -/
def Preference.map {α β : Type} (f : α → β) (p : Preference α) : Preference β :=
  ⟨p.user, p.item, f p.value⟩

namespace Slot

variable {α : Type}

/-- The value in a slot, if any. -/
def value? : Slot α → Option α
  | .value v => some v
  | .excluded => none

end Slot

end ItemRecommender
