import ItemRecommender.Object.Embed
/-! # User vectors and co-occurrence columns of objects

    The first two stages of recommending, over objects:

    * `userVectorsOf` groups preferences by user. Each item id is looked up in the map from item
      id to index that the item table gives; an id the map lacks, or maps to nothing, is an
      unknown item. Each user's vector maps the indices to the values, a later value of an index
      replacing an earlier one.
    * `columnsOf` turns each user vector into one partial column per rated index: the other
      indices the user rated, each with weight one, for a user with at least two. The entries
      are the vector's `entries`, iterated and sorted. Partial columns of an index are summed,
      as combiner and as reducer. -/

namespace ItemRecommender.Object

open ItemRecommender.Text

/-- The error of a preference whose item the item table does not know. -/
def unknownItem (h : Heap) (user item : Value) : Except Raised Raised := do
  pure ⟨"InputConsistencyError", "Preference of user " ++ (← user.text h) ++
    " references unknown item " ++ (← item.text h)⟩

/-- The user vectors of preferences, their items numbered by an item table of objects. -/
def userVectorsOf {α : Type} (num : α → Float) (prefs : List (Preference α)) (table : Value)
    (splits : Int) : Act (List (Value × Value)) := do
  let index ← itemIndexOf table
  let records ← preferenceObjects num prefs
  let mapper : Mapper := fun _ pref => do
    let user ← pref.attribute "user_id"
    let item ← pref.attribute "item_id"
    let value ← pref.attribute "value"
    pure [(user, .tuple [item, value])]
  let reducer : Reducer := fun user values => do
    let entries ← values.foldlM (fun es v => do
      let (item, value) ← v.pair
      match ← reading fun h => findEntry h index item with
      | some .none | none => throw (← reading fun h => unknownItem h user item)
      | some i => reading fun h => putEntry h es i value) []
    let vector ← newRecord "UserVector" [("user_id", user), ("entries", ← newDict entries)]
    pure [(user, vector)]
  runStage [⟨records, mapper⟩] reducer none splits

/-- Whether two values differ by the language's `!=`. -/
def differs (h : Heap) (a b : Value) : Except Raised Bool := do
  pure !(← a.equals h b)

/-- The entries of a map, as its `items` gives them. -/
def Value.items (v : Value) : Act (List (Value × Value)) := do
  let h ← get
  match v.mapEntries? h with
  | some es => pure es
  | Option.none => throw (noAttribute h v "items")

/-- The partial columns of one user vector: for each rated index, the other rated indices with
weight one; nothing for fewer than two indices. -/
def partialColumns : Mapper := fun _ vector => do
  let entries ← vector.attribute "entries"
  let indices ← sortValues (← entries.elements)
  if indices.length < 2 then return []
  indices.mapM fun i => do
    let others ← indices.foldlM (fun acc j => do
      if ← reading fun h => differs h j i then reading fun h => putEntry h acc j (.float 1.0)
      else pure acc) []
    pure (i, ← newDict others)

/-- The sum of an index's partial columns. -/
def sumColumns : Reducer := fun index partials => do
  let column ← partials.foldlM (fun acc p => do
    let es ← p.items
    es.foldlM (fun acc (j, v) => do
      let current := (← reading fun h => findEntry h acc j).getD (.float 0.0)
      let total ← current.combine .add v
      reading fun h => putEntry h acc j total) acc) []
  pure [(index, ← newDict column)]

/-- The co-occurrence columns of user vectors of objects. -/
def columnsOf (vectors : Value) (splits : Int) : Act (List (Value × Value)) :=
  runStage [⟨vectors, partialColumns⟩] sumColumns (some sumColumns) splits

end ItemRecommender.Object
