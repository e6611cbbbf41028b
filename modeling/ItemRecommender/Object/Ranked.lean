import ItemRecommender.Object.Joined
import ItemRecommender.Ranking
/-! # Recommendations from joined objects

    The last stage of recommending, over objects. Each joined record fans out one partial score
    vector per rater: the rater's slot times each weight of the column, keyed by the column's
    indices, with the record's index as rated; an excluded slot gives no scores but still rates
    the index. A user's partial vectors are summed, index by index from `0.0`, and their rated
    indices joined, as combiner and as reducer.

    A user's candidates are the summed scores of unrated indices whose score differs from
    `0.0`. Each candidate's item id, from the map from index to item id of the item table,
    becomes a signed 64-bit integer and its score a double, as the core's `int` and `float`
    convert them (all ids first, then all scores); the first `n` by rank (`Ranking`) are
    recommended. The recommendation text writes each user by the text of its id. -/

namespace ItemRecommender.Object

open ItemRecommender.Text

/-- A partial score vector of scores and rated indices. -/
def partialVector (scores : List (Value × Value)) (rated : Value) : Act Value := do
  newRecord "PartialScoreVector" [("scores", ← newDict scores), ("rated", rated)]

/-- The partial score vectors of one joined record, one per rater. -/
def partialProducts : Mapper := fun index joined => do
  let rated := (← reading fun h => tableOf h [index]).frozen
  let rows ← zipElements [← joined.attribute "user_ids", ← joined.attribute "values"]
  rows.mapM fun row => do
    let user := row.headD .none
    let value := row.getD 1 .none
    if isExcludedSlot value then pure (user, ← partialVector [] rated)
    else
      let weights ← (← joined.attribute "vector").items
      let scores ← weights.foldlM (fun acc (j, w) => do
        let product ← value.combine .mul w
        reading fun h => putEntry h acc j product) []
      pure (user, ← partialVector scores rated)

/-- The sum of partial score vectors: scores added index by index from `0.0`, rated indices
joined. -/
def sumPartials (vectors : List Value) : Act (List (Value × Value) × Table Value) :=
  vectors.foldlM (fun (scores, rated) vector => do
    let es ← (← vector.attribute "scores").items
    let scores ← es.foldlM (fun acc (j, v) => do
      let current := (← reading fun h => findEntry h acc j).getD (.float 0.0)
      let total ← current.combine .add v
      reading fun h => putEntry h acc j total) scores
    let rated ← rated.update (← vector.attribute "rated")
    pure (scores, rated)) ([], Table.empty)

/-- The combiner: a user's partial vectors summed into one. -/
def combinePartials : Reducer := fun user vectors => do
  let (scores, rated) ← sumPartials vectors
  pure [(user, ← partialVector scores rated.copy.frozen)]

/-- The first `n` candidates by rank, their ids and scores converted. -/
def topCandidates (candidates : List (Value × Value)) (items : List (Value × Value)) (n : Int) :
    Act (List (Recommendation Float)) := do
  if candidates.isEmpty ∨ n ≤ 0 then return []
  let ids ← candidates.mapM fun (i, _) => do
    match ← reading fun h => findEntry h items i with
    | some id => pure id
    | none => throw (missingKey (← get) i)
  let ids ← ids.mapM fun id => do
    match ← wordFrom id with
    | .int i => pure i
    | _ => pure 0
  let scores ← candidates.mapM fun (_, s) => do
    match s with
    | .none => pure (0.0 / 0.0)
    | _ => s.toFloat
  let ranked : List (Recommendation Float) := (ids.zip scores).map fun (i, s) => ⟨i, s⟩
  pure ((ranked.mergeSort fun a b => !b.precedes a).take n.toNat)

/-- The reducer: a user's recommendations, if there are any. -/
def recommendUser (items : List (Value × Value)) (n : Int) : Reducer := fun user vectors => do
  let (scores, rated) ← sumPartials vectors
  let candidates ← scores.filterM fun (i, s) => do
    if ← reading fun h => hasMember h rated.members i then pure false
    else reading fun h => differs h s (.float 0.0)
  let top ← topCandidates candidates items n
  if top.isEmpty then pure []
  else do
    let line ← newList (top.map fun r => .tuple [.int r.item, .float r.score])
    pure [(user, line)]

/-- The recommendations of joined objects by user, with item ids from an item table of
objects. -/
def recommendationsOf (joined table : Value) (n : Int) (splits : Int) :
    Act (List (Value × Value)) := do
  let items ← indexItemOf table
  runStage [⟨joined, partialProducts⟩] (recommendUser items n) (some combinePartials) splits

/-- The recommendation text: one line per user, its id's text, a tab, and its items. -/
def recommendationLines (recs : List (Value × Value)) : Act String := do
  let lines ← recs.mapM fun (user, line) => do
    let items ← line.elements
    let pairs ← items.mapM fun item => do
      match item with
      | .tuple [.int i, .float s] => pure (toString i ++ ":" ++ floatText s)
      | _ => pure ""
    pure ((← reading fun h => user.text h) ++ "\t[" ++ ",".intercalate pairs ++ "]")
  pure (String.join (lines.map (· ++ "\n")))

end ItemRecommender.Object
