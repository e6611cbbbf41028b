import Mathlib
import ItemRecommender.Proofs.Recommender.Aggregate

/-! # The aggregation against its single-pass reference

    The reference reads the joined records once, with no stage, split or combiner: a user's
    rated indices are the indices of the records with a slot of the user (`ratedIndices`), a
    user's score at an index adds, over every record and every slot of the user there, the
    slot's value times the column's entry (`userScore`), and the candidates are the column
    indices the user has not rated, with a score that is not zero (`candidateIndices`). Every
    user with a candidate, ascending, gets the first `n` of them by score, largest first, then
    by item id (`singlePass`).

    A record's raters and slots are read in pairs, so a rater without a slot (past the end of
    the slots) neither rates the record's index nor scores from it.

    Over the rationals the aggregation is the reference for every split count
    (`aggregate_eq_singlePass`): the combiner sums blocks of a user's partial vectors, which
    the stage sums again, and a sum of block sums has the candidates of the sum of all the
    parts. -/

namespace ItemRecommender

open Batch

section Reference

/-- The users with a slot in some record, ascending. -/
def slotUsers (joined : List (Int × RatedColumn ℚ)) : List Int :=
  keysOf (joined.flatMap fun r => r.2.raters.zip r.2.slots)

/-- The indices a user rates: those of the records with a slot of the user. -/
def ratedIndices (joined : List (Int × RatedColumn ℚ)) (u : Int) : List Int :=
  (joined.filter fun r => u ∈ (r.2.raters.zip r.2.slots).map Prod.fst).map Prod.fst

/-- A user's score at an index: over every record and every slot of the user there, the slot's
value times the column's entry at the index, where an excluded slot and a missing entry add
zero. -/
def userScore (joined : List (Int × RatedColumn ℚ)) (u j : Int) : ℚ :=
  (joined.map fun r => ((valuesAt u (r.2.raters.zip r.2.slots)).map fun s =>
    s.value?.getD 0 * (r.2.column.get? j).getD 0).sum).sum

/-- A user's candidates: the column indices the user has not rated, with a score that is not
zero. -/
def candidateIndices (joined : List (Int × RatedColumn ℚ)) (u : Int) : Finset Int :=
  (joined.flatMap fun r => r.2.column.keys).toFinset.filter fun j =>
    j ∉ ratedIndices joined u ∧ userScore joined u j ≠ 0

/-- A user's candidates as recommendations, each under its item id with its score. -/
def candidateItems (table : ItemTable) (joined : List (Int × RatedColumn ℚ)) (u : Int) :
    Finset (Recommendation ℚ) :=
  (candidateIndices joined u).image fun j => ⟨(table.itemAt? j).getD 0, userScore joined u j⟩

/-- **The single-pass reference** of the aggregation: every user with a candidate, ascending,
with the first `n` candidates in ranking order. -/
def singlePass (joined : List (Int × RatedColumn ℚ)) (table : ItemTable) (n : Nat) :
    List (Int × List (Recommendation ℚ)) :=
  ((slotUsers joined).filter fun u => (candidateIndices joined u).Nonempty).map fun u =>
    (u, bestOf (candidateItems table joined u) n)

end Reference

/-! ## The stage against the reference -/

section Agreement

variable (joined : List (Int × RatedColumn ℚ))

/-- The users of the partial vectors are the users with a slot. -/
theorem keysOf_partialsOf : keysOf (partialsOf joined) = slotUsers joined := by
  have hfst : (partialsOf joined).map Prod.fst =
      (joined.flatMap fun r => r.2.raters.zip r.2.slots).map Prod.fst := by
    simp [partialsOf, partialMultiply_eq, List.map_flatMap, Function.comp_def]
  rw [slotUsers, keysOf, keysOf, hfst]

/-- A user rates an index exactly when the reference says so. -/
theorem mem_rated_userTotal_iff (u i : Int) :
    i ∈ (userTotal joined u).rated ↔ i ∈ ratedIndices joined u := by
  rw [mem_rated_userTotal, ratedIndices, List.mem_map]
  simp only [List.mem_filter, decide_eq_true_eq, ne_eq, valuesAt_eq_nil_iff, not_not]
  constructor
  · rintro ⟨r, hr, rfl, hu⟩
    exact ⟨r, ⟨hr, hu⟩, rfl⟩
  · rintro ⟨r, ⟨hr, hu⟩, rfl⟩
    exact ⟨r, hr, rfl, hu⟩

/-- An index where a user scores is an index of some column. -/
theorem mem_columns_of_userScore_ne_zero {u j : Int} (h : userScore joined u j ≠ 0) :
    j ∈ joined.flatMap fun r => r.2.column.keys := by
  rw [userScore, ← getD_userTotal] at h
  -- a nonzero score is an entry of the sum, so of some partial vector, so of its column
  have hkey : j ∈ (userTotal joined u).scores.keys := by
    rw [Ledger.mem_keys_iff]
    cases hget : (userTotal joined u).scores.get? j with
    | none => rw [hget] at h; exact absurd rfl h
    | some s => exact ⟨s, rfl⟩
  obtain ⟨v, hv, hjv⟩ := (mem_keys_sumPartials _ j).1 hkey
  obtain ⟨r, hr, hjr⟩ := mem_column_of_mem_partials hv hjv
  exact List.mem_flatMap.2 ⟨r, hr, hjr⟩

/-- The candidates of a user's summed partial vectors are the reference's, when the table names
every index of the columns. -/
theorem candidatesOf_eq_candidateItems (table : ItemTable)
    (hknown : ∀ r ∈ joined, ∀ j ∈ r.2.column.keys, (table.itemAt? j).isSome) (u : Int) :
    candidatesOf table (userTotal joined u) = candidateItems table joined u := by
  have hsome : ∀ j ∈ (userTotal joined u).scores.keys, (table.itemAt? j).isSome := by
    intro j hj
    obtain ⟨v, hv, hjv⟩ := (mem_keys_sumPartials _ j).1 hj
    obtain ⟨r, hr, hjr⟩ := mem_column_of_mem_partials hv hjv
    exact hknown r hr j hjr
  have hscore : ∀ j, ((userTotal joined u).scores.get? j).getD 0 = userScore joined u j :=
    getD_userTotal joined u
  ext r
  rw [mem_candidatesOf table _ hsome, candidateItems, Finset.mem_image]
  constructor
  · rintro ⟨j, hid, hrated, hget, hne⟩
    rw [hscore] at hget
    have hcol := mem_columns_of_userScore_ne_zero joined (hget ▸ hne)
    refine ⟨j, Finset.mem_filter.2 ⟨List.mem_toFinset.2 hcol, ?_, hget ▸ hne⟩, ?_⟩
    · rwa [← mem_rated_userTotal_iff]
    · rw [hid, hget]
      rfl
  · rintro ⟨j, hj, rfl⟩
    obtain ⟨hcol, hrated, hne⟩ := Finset.mem_filter.1 hj
    obtain ⟨r, hr, hjr⟩ := List.mem_flatMap.1 (List.mem_toFinset.1 hcol)
    obtain ⟨id, hid⟩ := Option.isSome_iff_exists.1 (hknown r hr j hjr)
    refine ⟨j, by simp [hid], ?_, hscore j, hne⟩
    rwa [mem_rated_userTotal_iff]

end Agreement

/-- Keeping the elements that pass, each made into one value. -/
theorem flatMap_ite_singleton {γ δ : Type} (l : List γ) (p : γ → Prop) [DecidablePred p]
    (f : γ → δ) : l.flatMap (fun x => if p x then [f x] else []) = (l.filter fun x => p x).map f := by
  induction l with
  | nil => rfl
  | cons x l ih => by_cases hx : p x <;> simp [hx, ih]

/-- **The aggregation is its single-pass reference.** For every list of joined records (their
indices need not be distinct), every table that names each column index with an id that fits a
word, distinct column indices under distinct ids, every `n ≥ 1` and every split count, the
aggregation over the rationals succeeds with `singlePass`: every user with a candidate,
ascending, with the first `n` candidates by score, largest first, then by item id. Raters and
slots are read in pairs, so a rater without a slot neither rates nor scores. -/
theorem aggregate_eq_singlePass (joined : List (Int × RatedColumn ℚ)) (table : ItemTable)
    {n splits : Int}
    (hknown : ∀ r ∈ joined, ∀ j ∈ r.2.column.keys, ∃ id ∈ table.itemAt? j, fitsWord id = true)
    (hinj : ∀ r ∈ joined, ∀ s ∈ joined, ∀ i ∈ r.2.column.keys, ∀ j ∈ s.2.column.keys,
      table.itemAt? i = table.itemAt? j → i = j)
    (hn : 1 ≤ n) (hsplits : 1 ≤ splits) :
    aggregate joined table n splits = .ok (singlePass joined table n.toNat) := by
  have hN : 1 ≤ n.toNat := by omega
  have hinjOn : Set.InjOn table.itemAt? {j | ∃ r ∈ joined, j ∈ r.2.column.keys} := by
    rintro i ⟨r, hr, hi⟩ j ⟨s, hs, hj⟩ hij
    exact hinj r hr s hs i hi j hj hij
  have hsome : ∀ r ∈ joined, ∀ j ∈ r.2.column.keys, (table.itemAt? j).isSome := by
    intro r hr j hj
    obtain ⟨id, hid, -⟩ := hknown r hr j hj
    exact Option.isSome_iff_exists.2 ⟨id, hid⟩
  rw [aggregate_rat_of_injOn joined table n hsplits hknown hinjOn, keysOf_partialsOf, singlePass,
    ← flatMap_ite_singleton]
  congr 1
  apply List.flatMap_congr
  intro u _
  rw [candidatesOf_eq_candidateItems joined table hsome u, recordOf_bestOf u _ hN, candidateItems]
  simp only [Finset.image_nonempty]

/-- Index 0 lists user 7 among its raters with no slot for the user; index 1 pairs user 7 with
the value 2. Each column holds the other index. -/
def unevenJoined : List (Int × RatedColumn ℚ) :=
  [(0, ⟨Ledger.ofList [(1, 1)], [7], []⟩), (1, ⟨Ledger.ofList [(0, 1)], [7], [.value 2]⟩)]

/-- Items 100 and 101 at indices 0 and 1. -/
def unevenTable : ItemTable := ⟨[(0, 100), (1, 101)]⟩

theorem aggregate_unevenJoined :
    (∀ r ∈ unevenJoined, ∀ j ∈ r.2.column.keys, ∃ id ∈ unevenTable.itemAt? j, fitsWord id = true) ∧
    (∀ r ∈ unevenJoined, ∀ s ∈ unevenJoined, ∀ i ∈ r.2.column.keys, ∀ j ∈ s.2.column.keys,
      unevenTable.itemAt? i = unevenTable.itemAt? j → i = j) ∧ 1 ≤ (1 : Int) ∧ 1 ≤ (1 : Int) ∧
    aggregate unevenJoined unevenTable 1 1 = .ok (singlePass unevenJoined unevenTable (1 : Int).toNat) :=
  ⟨by decide, by decide, by decide, by decide,
    aggregate_eq_singlePass unevenJoined unevenTable (by decide) (by decide) (by decide) (by decide)⟩

/-- A rater without a slot does not rate: user 7 is a rater of index 0, yet the item of index
0 is recommended to user 7, with score 2. -/
theorem aggregate_recommends_index_of_unpaired_rater :
    (∃ r ∈ unevenJoined, r.1 = 0 ∧ 7 ∈ r.2.raters) ∧ unevenTable.itemAt? 0 = some 100 ∧
    (aggregate unevenJoined unevenTable 1 1).toOption.map
      (fun out => out.map fun r => (r.1, r.2.map fun x => (x.item, x.score))) =
        some [(7, [(100, 2)])] := by
  decide +kernel

end ItemRecommender
