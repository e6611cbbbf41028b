import Mathlib
import ItemRecommender.Ranking
import ItemRecommender.Proofs.Recommender.Ranking
import ItemRecommender.Proofs.Batch.Combine

/-! # The aggregation stage

    The aggregation fans every rated column out into partial vectors keyed by rater
    (`partialsOf`), sums a user's partial vectors in the combiner and once more in the reducer,
    and ranks the sum. Over the rationals a sum of block sums has the candidates of the sum of
    all the parts (`candidatesOf_blocks`), so the blocks the splits happen to make do not show:
    every user with a partial vector, ascending, gets the first `n` candidates of the sum of all
    the user's partial vectors, when there are any (`aggregate_rat`). The score of that sum at
    an index adds, over the rated columns, the user's values times the column's entry there
    (`getD_userTotal`); its rated indices are the indices of the columns the user rates
    (`mem_rated_userTotal`). -/

namespace ItemRecommender

open Batch

section Partials

variable {α : Type} [Scalar α]

/-- The partial vectors of all rated columns, keyed by rater, in order. -/
def partialsOf (joined : List (Int × RatedColumn α)) : List (Int × PartialScores α) :=
  joined.flatMap fun r => partialMultiply r.1 r.2

/-- The sum of all the partial vectors of a user. -/
def userTotal (joined : List (Int × RatedColumn α)) (u : Int) : PartialScores α :=
  sumPartials (valuesAt u (partialsOf joined))

theorem valuesAt_partialsOf (joined : List (Int × RatedColumn α)) (u : Int) :
    valuesAt u (partialsOf joined) = joined.flatMap fun r =>
      (valuesAt u (r.2.raters.zip r.2.slots)).map (partialOf r.1 r.2.column) := by
  rw [partialsOf, List.flatMap, valuesAt_flatten, List.map_map, List.flatMap]
  congr 1
  apply List.map_congr_left
  intro r _
  exact valuesAt_partialMultiply r.1 r.2 u

/-- The indices a user's partial vectors score are indices of the columns. -/
theorem mem_column_of_mem_partials {joined : List (Int × RatedColumn α)} {u : Int}
    {v : PartialScores α} (hv : v ∈ valuesAt u (partialsOf joined)) {j : Int}
    (hj : j ∈ v.scores.keys) : ∃ r ∈ joined, j ∈ r.2.column.keys := by
  rw [valuesAt_partialsOf, List.mem_flatMap] at hv
  obtain ⟨r, hr, hv⟩ := hv
  obtain ⟨s, -, rfl⟩ := List.mem_map.1 hv
  exact ⟨r, hr, ((mem_keys_partialOf r.1 r.2.column s j).1 hj).2⟩

/-- A user's rated indices are the indices of the columns with a slot of the user. -/
theorem mem_rated_userTotal (joined : List (Int × RatedColumn α)) (u i : Int) :
    i ∈ (userTotal joined u).rated ↔
      ∃ r ∈ joined, r.1 = i ∧ valuesAt u (r.2.raters.zip r.2.slots) ≠ [] := by
  rw [userTotal, mem_rated_sumPartials, valuesAt_partialsOf]
  simp only [List.mem_flatMap, List.mem_map]
  constructor
  · rintro ⟨_, ⟨r, hr, s, hs, rfl⟩, hi⟩
    rw [rated_partialOf, List.mem_singleton] at hi
    exact ⟨r, hr, hi.symm, List.ne_nil_of_mem hs⟩
  · rintro ⟨r, hr, rfl, hne⟩
    obtain ⟨s, hs⟩ := List.exists_mem_of_ne_nil _ hne
    exact ⟨_, ⟨r, hr, s, hs, rfl⟩, by simp⟩

/-- Each record of the recommendations carries the user it was made for. -/
theorem recommendFor_keys (table : ItemTable) (n u : Int) (vs : List (PartialScores α))
    (out : List (Int × List (Recommendation α))) (h : recommendFor table n u vs = .ok out) :
    ∀ r ∈ out, r.1 = u := by
  unfold recommendFor at h
  simp only [bind_eq_ok, pure_eq_ok] at h
  obtain ⟨items, -, rfl⟩ := h
  intro r hr
  split at hr <;> simp_all

/-- **The aggregation, user by user.** Every user with a partial vector, ascending, has its
ranking made from block sums of the user's partial vectors, blocks that join back to those
vectors in order; the stage succeeds exactly when all these rankings do, with their records in
user order. -/
theorem aggregate_groups (joined : List (Int × RatedColumn α)) (table : ItemTable) (n : Int)
    {splits : Int} (hsplits : 1 ≤ splits) :
    ∃ groups : List (Int × List (PartialScores α)), groups.map Prod.fst = keysOf (partialsOf joined) ∧
      (∀ g ∈ groups, ∃ blocks : List (List (PartialScores α)),
        blocks.flatten = valuesAt g.1 (partialsOf joined) ∧ g.2 = blocks.map sumPartials) ∧
      ∀ out, aggregate joined table n splits = .ok out ↔
        collect (groups.map fun g => recommendFor table n g.1 g.2) = .ok out := by
  let combine : Int → List (PartialScores α) → Except Failure (List (Int × PartialScores α)) :=
    fun u vs => pure [(u, sumPartials vs)]
  let stage : Stage (PartialScores α) (List (Recommendation α)) :=
    ⟨some combine, recommendFor table n⟩
  have hall : collect [joined.map fun r =>
      (pure (partialMultiply r.1 r.2) : Except Failure _)].flatten = .ok (partialsOf joined) := by
    rw [List.flatten_singleton, collect_map_pure]
    rfl
  have hcomb : ∀ k vs out, combine k vs = .ok out → ∀ r ∈ out, r.1 = k := by
    intro k vs out h r hr
    simp only [combine, pure_eq_ok] at h
    subst h
    simp_all
  obtain ⟨groups, hkv, hkeys, hblocks⟩ :=
    @Stage.keyedValues_summary _ _ stage (fun _ vs => sumPartials vs) rfl _ _ hall splits
  refine ⟨groups, hkeys, fun g hg => ?_, fun out => ?_⟩
  · obtain ⟨blocks, hflat, -, hout⟩ := hblocks g hg
    exact ⟨blocks, hflat, hout⟩
  · exact Stage.run_eq_ok_iff_reduce hsplits (recommendFor_keys table n)
      (fun c hc => by cases hc; exact hcomb) hkv out

end Partials

/-! ## Exact aggregation -/

section Exact

/-- Over the rationals, a user's score at an index adds, over the rated columns, each of the
user's values there times the column's entry at the index. -/
theorem getD_userTotal (joined : List (Int × RatedColumn ℚ)) (u j : Int) :
    ((userTotal joined u).scores.get? j).getD 0 = (joined.map fun r =>
      ((valuesAt u (r.2.raters.zip r.2.slots)).map fun s =>
        s.value?.getD 0 * (r.2.column.get? j).getD 0).sum).sum := by
  rw [userTotal, getD_sumPartials, valuesAt_partialsOf, List.flatMap, List.map_flatten,
    List.sum_flatten, List.map_map, List.map_map]
  congr 1
  apply List.map_congr_left
  intro r _
  simp [Function.comp_def]

/-- A sum of block sums has the candidates of the sum of all the parts. -/
theorem candidatesOf_blocks (table : ItemTable) (blocks : List (List (PartialScores ℚ)))
    (hknown : ∀ v ∈ blocks.flatten, ∀ j ∈ v.scores.keys, (table.itemAt? j).isSome) :
    candidatesOf table (sumPartials (blocks.map sumPartials)) =
      candidatesOf table (sumPartials blocks.flatten) := by
  have hsum : ∀ j ∈ (sumPartials (blocks.map sumPartials)).scores.keys, (table.itemAt? j).isSome := by
    intro j hj
    obtain ⟨v, hv, hjv⟩ := (mem_keys_sumPartials_blocks blocks j).1 hj
    exact hknown v hv j hjv
  have hall : ∀ j ∈ (sumPartials blocks.flatten).scores.keys, (table.itemAt? j).isSome := by
    intro j hj
    obtain ⟨v, hv, hjv⟩ := (mem_keys_sumPartials _ j).1 hj
    exact hknown v hv j hjv
  ext r
  rw [mem_candidatesOf table _ hsum, mem_candidatesOf table _ hall]
  simp only [mem_rated_sumPartials_blocks, getD_sumPartials_blocks]
  simp only [mem_rated_sumPartials, getD_sumPartials]

/-- A user without partial vectors has no candidates. -/
theorem candidatesOf_userTotal_of_nil (table : ItemTable) {joined : List (Int × RatedColumn ℚ)}
    {u : Int} (h : valuesAt u (partialsOf joined) = []) : candidatesOf table (userTotal joined u) = ∅ := by
  rw [userTotal, h]
  rfl

/-- **The aggregation over the rationals**, whatever the split count: every user with a partial
vector, ascending, gets the first `n` candidates of the sum of all the user's partial vectors,
when there are any, provided the table names every index of the columns with an id that fits a
word, distinct indices under distinct ids. -/
theorem aggregate_rat_of_injOn (joined : List (Int × RatedColumn ℚ)) (table : ItemTable) (n : Int)
    {splits : Int} (hsplits : 1 ≤ splits)
    (hknown : ∀ r ∈ joined, ∀ j ∈ r.2.column.keys, ∃ id, table.itemAt? j = some id ∧ fitsWord id = true)
    (hinj : Set.InjOn table.itemAt? {j | ∃ r ∈ joined, j ∈ r.2.column.keys}) :
    aggregate joined table n splits = .ok ((keysOf (partialsOf joined)).flatMap fun u =>
      recordOf u (bestOf (candidatesOf table (userTotal joined u)) n.toNat)) := by
  obtain ⟨groups, hkeys, hblocks, hrun⟩ := aggregate_groups joined table n hsplits
  -- a group's block sums rank as the sum of all the user's partial vectors
  have hgroup : ∀ g ∈ groups, recommendFor table n g.1 g.2 =
      .ok (recordOf g.1 (bestOf (candidatesOf table (userTotal joined g.1)) n.toNat)) := by
    intro g hg
    obtain ⟨blocks, hflat, hout⟩ := hblocks g hg
    have hparts : ∀ v ∈ blocks.flatten, ∀ j ∈ v.scores.keys, ∃ r ∈ joined, j ∈ r.2.column.keys :=
      fun v hv j hj => mem_column_of_mem_partials (hflat ▸ hv) hj
    have hsums : ∀ v ∈ blocks.map sumPartials, ∀ j ∈ v.scores.keys, ∃ r ∈ joined, j ∈ r.2.column.keys := by
      intro v hv j hj
      obtain ⟨b, hb, rfl⟩ := List.mem_map.1 hv
      obtain ⟨w, hw, hjw⟩ := (mem_keys_sumPartials b j).1 hj
      exact hparts w (List.mem_flatten.2 ⟨b, hb, hw⟩) j hjw
    have hnamed : ∀ v ∈ blocks.map sumPartials, ∀ j ∈ v.scores.keys,
        ∃ id, table.itemAt? j = some id ∧ fitsWord id = true := by
      intro v hv j hj
      obtain ⟨r, hr, hjr⟩ := hsums v hv j hj
      exact hknown r hr j hjr
    have hsome : ∀ v ∈ blocks.flatten, ∀ j ∈ v.scores.keys, (table.itemAt? j).isSome := by
      intro v hv j hj
      obtain ⟨r, hr, hjr⟩ := hparts v hv j hj
      obtain ⟨id, hid, -⟩ := hknown r hr j hjr
      simp [hid]
    have hmono : {j | ∃ v ∈ blocks.map sumPartials, j ∈ v.scores.keys} ⊆
        {j | ∃ r ∈ joined, j ∈ r.2.column.keys} := by
      rintro j ⟨v, hv, hj⟩
      exact hsums v hv j hj
    rw [hout, recommendFor_rat table n g.1 _ hnamed (hinj.mono hmono),
      candidatesOf_blocks table blocks hsome, hflat]
    rfl
  rw [hrun, collect_map_eq_ok]
  refine ⟨_, hgroup, ?_⟩
  rw [← hkeys, List.flatMap, List.map_map]
  rfl

/-- The aggregation over the rationals for a table with distinct ids throughout. -/
theorem aggregate_rat (joined : List (Int × RatedColumn ℚ)) (table : ItemTable) (n : Int)
    {splits : Int} (hsplits : 1 ≤ splits)
    (hknown : ∀ r ∈ joined, ∀ j ∈ r.2.column.keys, ∃ id, table.itemAt? j = some id ∧ fitsWord id = true)
    (hinj : ∀ i j id, table.itemAt? i = some id → table.itemAt? j = some id → i = j) :
    aggregate joined table n splits = .ok ((keysOf (partialsOf joined)).flatMap fun u =>
      recordOf u (bestOf (candidatesOf table (userTotal joined u)) n.toNat)) := by
  refine aggregate_rat_of_injOn joined table n hsplits hknown fun i hi j _ hij => ?_
  obtain ⟨r, hr, hir⟩ := hi
  obtain ⟨id, hid, -⟩ := hknown r hr i hir
  exact hinj i j id hid (hij ▸ hid)

end Exact

end ItemRecommender
