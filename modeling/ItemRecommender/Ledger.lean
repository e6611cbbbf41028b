/-! # Ledgers: maps that remember insertion order

    A `Ledger` maps keys to values and lists its entries in the order their keys were first
    inserted. Writing to a key that is present replaces its value and keeps its place; a new key
    goes to the end. The entries never repeat a key (`nodup`).

    Sparse vectors, co-occurrence columns and score vectors are ledgers keyed by item index: the
    order of their entries decides the order in which later steps meet them. -/

namespace ItemRecommender

/-- A map from keys to values that lists its entries in first-insertion order. -/
structure Ledger (κ : Type) (α : Type) [DecidableEq κ] where
  entries : List (κ × α)
  nodup : (entries.map Prod.fst).Nodup := by simp

namespace Ledger

variable {κ α β : Type} [DecidableEq κ]

/-- The ledger with no entries. -/
def empty : Ledger κ α := ⟨[], by simp⟩

instance instInhabited : Inhabited (Ledger κ α) := ⟨empty⟩

/-- The keys, in order. -/
def keys (m : Ledger κ α) : List κ := m.entries.map Prod.fst

/-- The number of entries. -/
def size (m : Ledger κ α) : Nat := m.entries.length

/-- The value at a key. -/
def get? (m : Ledger κ α) (k : κ) : Option α := (m.entries.find? (·.1 = k)).map Prod.snd

/-- Whether a key is present. -/
def contains (m : Ledger κ α) (k : κ) : Bool := m.entries.any (·.1 = k)

/-- Replacing the value at key `k` keeps the list of keys. -/
theorem map_fst_replace (es : List (κ × α)) (k : κ) (v : α) :
    (es.map fun e => if e.1 = k then (k, v) else e).map Prod.fst = es.map Prod.fst := by
  induction es with
  | nil => rfl
  | cons e es ih =>
    by_cases h : e.1 = k
    · simp [h, ih]
    · simp [h, ih]

/-- Writes `v` at key `k`: in place if present, at the end otherwise. -/
def insert (m : Ledger κ α) (k : κ) (v : α) : Ledger κ α :=
  if h : m.contains k then
    ⟨m.entries.map fun e => if e.1 = k then (k, v) else e, by
      rw [map_fst_replace]; exact m.nodup⟩
  else
    ⟨m.entries ++ [(k, v)], by
      rw [List.map_append, List.nodup_append]
      refine ⟨m.nodup, by simp, ?_⟩
      intro a ha b hb
      simp only [List.map_cons, List.map_nil, List.mem_singleton] at hb
      subst hb
      rintro rfl
      simp only [contains, List.any_eq_true, decide_eq_true_eq] at h
      obtain ⟨e, he, rfl⟩ := List.mem_map.1 ha
      exact h ⟨e, he, rfl⟩⟩

/-- Writes at key `k` the value `f` makes of the value there, if any. -/
def alter (m : Ledger κ α) (k : κ) (f : Option α → α) : Ledger κ α :=
  m.insert k (f (m.get? k))

/-- The ledger of a list of pairs, written left to right: a repeated key keeps its first
place and its last value. -/
def ofList (pairs : List (κ × α)) : Ledger κ α :=
  pairs.foldl (fun m p => m.insert p.1 p.2) empty

/-- Applies `f` to every value. -/
def mapValues (f : α → β) (m : Ledger κ α) : Ledger κ β :=
  ⟨m.entries.map fun e => (e.1, f e.2), by
    rw [List.map_map]
    have : (Prod.fst ∘ fun e : κ × α => (e.1, f e.2)) = Prod.fst := rfl
    rw [this]; exact m.nodup⟩

/-- Keeps the entries that pass a test, in order. -/
def filter (p : κ → α → Bool) (m : Ledger κ α) : Ledger κ α :=
  ⟨m.entries.filter fun e => p e.1 e.2, by
    exact (List.filter_sublist.map Prod.fst).nodup m.nodup⟩

@[simp] theorem keys_empty : (empty : Ledger κ α).keys = [] := rfl

@[simp] theorem get?_empty (k : κ) : (empty : Ledger κ α).get? k = none := rfl

theorem contains_iff (m : Ledger κ α) (k : κ) : m.contains k = true ↔ k ∈ m.keys := by
  simp [contains, keys]

/-- The keys after a write: unchanged if the key was present, else one more at the end. -/
theorem keys_insert (m : Ledger κ α) (k : κ) (v : α) :
    (m.insert k v).keys = if k ∈ m.keys then m.keys else m.keys ++ [k] := by
  by_cases h : m.contains k = true
  · have hk := (contains_iff m k).1 h
    rw [if_pos hk]
    simp only [insert, dif_pos h, keys, map_fst_replace]
  · have hk : k ∉ m.keys := fun h' => h ((contains_iff m k).2 h')
    rw [if_neg hk]
    simp [insert, dif_neg h, keys]

end Ledger

end ItemRecommender
