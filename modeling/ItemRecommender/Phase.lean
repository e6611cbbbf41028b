/-! # Phases

    A run has five phases, numbered 0 to 4. Each of the first four writes a dataset under the
    temporary directory; the last writes the recommendation file. -/

namespace ItemRecommender

/-- The five phases of a run, in order. -/
inductive Phase where
  | itemIndex
  | userVectors
  | cooccurrence
  | partialMultiply
  | aggregate
  deriving DecidableEq, Repr, Inhabited

namespace Phase

/-- Every phase, in order. -/
def all : List Phase := [.itemIndex, .userVectors, .cooccurrence, .partialMultiply, .aggregate]

/-- The number of a phase. -/
def toNat : Phase → Nat
  | .itemIndex => 0
  | .userVectors => 1
  | .cooccurrence => 2
  | .partialMultiply => 3
  | .aggregate => 4

/-- The phase with a number, if any. -/
def ofNat? : Nat → Option Phase
  | 0 => some .itemIndex
  | 1 => some .userVectors
  | 2 => some .cooccurrence
  | 3 => some .partialMultiply
  | 4 => some .aggregate
  | _ => none

/-- The phase with an integer number, if any. -/
def ofInt? (n : Int) : Option Phase := if n < 0 then none else ofNat? n.toNat

/-- The name of a phase in messages and events. -/
def label : Phase → String
  | .itemIndex => "item_id_index"
  | .userVectors => "user_vectors"
  | .cooccurrence => "cooccurrence"
  | .partialMultiply => "partial_multiply"
  | .aggregate => "aggregate_and_recommend"

/-- The file name of the dataset a phase writes, for the four phases that write one. -/
def dataset? : Phase → Option String
  | .itemIndex => some "itemIDIndex.pkl"
  | .userVectors => some "userVectors.pkl"
  | .cooccurrence => some "cooccurrence.pkl"
  | .partialMultiply => some "partialMultiply.pkl"
  | .aggregate => none

instance instLT : LT Phase := ⟨fun p q => p.toNat < q.toNat⟩
instance instLE : LE Phase := ⟨fun p q => p.toNat ≤ q.toNat⟩
instance decidableLt (p q : Phase) : Decidable (p < q) := inferInstanceAs (Decidable (p.toNat < q.toNat))
instance decidableLe (p q : Phase) : Decidable (p ≤ q) := inferInstanceAs (Decidable (p.toNat ≤ q.toNat))

@[simp] theorem ofNat?_toNat (p : Phase) : ofNat? p.toNat = some p := by cases p <;> rfl

theorem toNat_lt_five (p : Phase) : p.toNat < 5 := by cases p <;> decide

theorem toNat_injective {p q : Phase} (h : p.toNat = q.toNat) : p = q := by
  have := ofNat?_toNat p
  rw [h, ofNat?_toNat] at this
  exact (Option.some.inj this).symm

end Phase

end ItemRecommender
