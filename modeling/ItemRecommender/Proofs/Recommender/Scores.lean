import Mathlib
import ItemRecommender.Scores
import ItemRecommender.Proofs.Recommender.Cooccurrence

/-! # Partial scores

    A rated column gives each of its raters one partial vector (`partialOf`): the column scaled
    by the rater's value, with the column's index marked as rated; an excluded slot scales
    nothing but still marks the index. Summing partial vectors adds their scores the way
    columns add and unites their rated indices (`sumPartials_eq`), so a sum of sums over
    consecutive blocks is the sum of all the parts. That is what lets the aggregation's combiner
    summarise any blocks of a user's partial vectors. Over the rationals the score of a sum at
    an index is the sum of the parts' scores (`getD_sumPartials`). -/

namespace ItemRecommender

open Batch

section Partials

variable {α : Type} [Scalar α]

/-- The partial vector one slot of a rated column gives its rater. -/
def partialOf (index : Int) (column : Column α) : Slot α → PartialScores α
  | .excluded => ⟨Ledger.empty, [index]⟩
  | .value v => ⟨column.mapValues (v * ·), [index]⟩

theorem partialMultiply_eq (index : Int) (rc : RatedColumn α) :
    partialMultiply index rc =
      (rc.raters.zip rc.slots).map fun p => (p.1, partialOf index rc.column p.2) := by
  unfold partialMultiply
  congr 1
  funext p
  rcases p with ⟨u, _ | _⟩ <;> rfl

/-- The partial vectors of one rater of a rated column, one per slot of the rater. -/
theorem valuesAt_partialMultiply (index : Int) (rc : RatedColumn α) (u : Int) :
    valuesAt u (partialMultiply index rc) =
      (valuesAt u (rc.raters.zip rc.slots)).map (partialOf index rc.column) := by
  rw [partialMultiply_eq, valuesAt_map_snd]

@[simp] theorem rated_partialOf (index : Int) (column : Column α) (s : Slot α) :
    (partialOf index column s).rated = [index] := by
  cases s <;> rfl

theorem mem_keys_partialOf (index : Int) (column : Column α) (s : Slot α) (j : Int) :
    j ∈ (partialOf index column s).scores.keys ↔ s ≠ .excluded ∧ j ∈ column.keys := by
  cases s with
  | excluded => simp [partialOf]
  | value v => simp [partialOf]

theorem mem_unite (set more : List Int) (i : Int) :
    i ∈ unite set more ↔ i ∈ set ∨ i ∈ more := by
  induction more generalizing set with
  | nil => simp [unite]
  | cons m ms ih =>
      show i ∈ unite (if m ∈ set then set else set ++ [m]) ms ↔ _
      rw [ih]
      by_cases hm : m ∈ set
      · rw [if_pos hm, List.mem_cons]
        constructor
        · rintro (h | h)
          · exact Or.inl h
          · exact Or.inr (Or.inr h)
        · rintro (h | rfl | h)
          · exact Or.inl h
          · exact Or.inl hm
          · exact Or.inr h
      · rw [if_neg hm]
        simp only [List.mem_append, List.mem_cons, List.not_mem_nil, or_false]
        tauto

theorem mem_foldl_unite (acc : List Int) (sets : List (List Int)) (i : Int) :
    i ∈ sets.foldl unite acc ↔ i ∈ acc ∨ ∃ s ∈ sets, i ∈ s := by
  induction sets generalizing acc with
  | nil => simp
  | cons s ss ih =>
      rw [List.foldl_cons, ih, mem_unite]
      simp only [List.mem_cons, exists_eq_or_imp]
      tauto

theorem foldl_partials (acc : PartialScores α) (vs : List (PartialScores α)) :
    vs.foldl (fun acc v => ⟨addInto acc.scores v.scores, unite acc.rated v.rated⟩) acc =
      ⟨(vs.map (·.scores)).foldl addInto acc.scores, (vs.map (·.rated)).foldl unite acc.rated⟩ := by
  induction vs generalizing acc with
  | nil => rfl
  | cons v vs ih => exact ih _

/-- **Summing partial vectors** sums their scores as columns and unites their rated indices. -/
theorem sumPartials_eq (vs : List (PartialScores α)) :
    sumPartials vs = ⟨sumColumns (vs.map (·.scores)), (vs.map (·.rated)).foldl unite []⟩ :=
  foldl_partials ⟨Ledger.empty, []⟩ vs

@[simp] theorem mem_keys_sumPartials (vs : List (PartialScores α)) (j : Int) :
    j ∈ (sumPartials vs).scores.keys ↔ ∃ v ∈ vs, j ∈ v.scores.keys := by
  simp [sumPartials_eq]

@[simp] theorem mem_rated_sumPartials (vs : List (PartialScores α)) (i : Int) :
    i ∈ (sumPartials vs).rated ↔ ∃ v ∈ vs, i ∈ v.rated := by
  simp [sumPartials_eq, mem_foldl_unite]

/-- Summing the sums of blocks keeps the keys of summing the parts together. -/
theorem mem_keys_sumPartials_blocks (blocks : List (List (PartialScores α))) (j : Int) :
    j ∈ (sumPartials (blocks.map sumPartials)).scores.keys ↔
      ∃ v ∈ blocks.flatten, j ∈ v.scores.keys := by
  simp only [mem_keys_sumPartials, List.mem_map, List.mem_flatten]
  constructor
  · rintro ⟨_, ⟨b, hb, rfl⟩, hj⟩
    obtain ⟨v, hv, hj⟩ := (mem_keys_sumPartials b j).1 hj
    exact ⟨v, ⟨b, hb, hv⟩, hj⟩
  · rintro ⟨v, ⟨b, hb, hv⟩, hj⟩
    exact ⟨_, ⟨b, hb, rfl⟩, (mem_keys_sumPartials b j).2 ⟨v, hv, hj⟩⟩

/-- Summing the sums of blocks keeps the rated indices of summing the parts together. -/
theorem mem_rated_sumPartials_blocks (blocks : List (List (PartialScores α))) (i : Int) :
    i ∈ (sumPartials (blocks.map sumPartials)).rated ↔ ∃ v ∈ blocks.flatten, i ∈ v.rated := by
  simp only [mem_rated_sumPartials, List.mem_map, List.mem_flatten]
  constructor
  · rintro ⟨_, ⟨b, hb, rfl⟩, hi⟩
    obtain ⟨v, hv, hi⟩ := (mem_rated_sumPartials b i).1 hi
    exact ⟨v, ⟨b, hb, hv⟩, hi⟩
  · rintro ⟨v, ⟨b, hb, hv⟩, hi⟩
    exact ⟨_, ⟨b, hb, rfl⟩, (mem_rated_sumPartials b i).2 ⟨v, hv, hi⟩⟩

end Partials

/-! ## Exact scores -/

section Exact

/-- Over the rationals, a rater's partial score at an index is the rater's value times the
column's, and nothing for an excluded slot. -/
@[simp] theorem getD_partialOf (index : Int) (column : Column ℚ) (s : Slot ℚ) (j : Int) :
    ((partialOf index column s).scores.get? j).getD 0 = s.value?.getD 0 * (column.get? j).getD 0 := by
  cases s with
  | excluded => simp [partialOf, Slot.value?]
  | value v =>
      simp only [partialOf, Ledger.get?_mapValues, Slot.value?, Option.getD_some]
      cases column.get? j <;> simp

/-- Over the rationals, the score of a sum of partial vectors is the sum of their scores. -/
theorem getD_sumPartials (vs : List (PartialScores ℚ)) (j : Int) :
    ((sumPartials vs).scores.get? j).getD 0 = (vs.map fun v => (v.scores.get? j).getD 0).sum := by
  rw [sumPartials_eq, getD_sumColumns, List.map_map]
  rfl

theorem getD_sumPartials_blocks (blocks : List (List (PartialScores ℚ))) (j : Int) :
    ((sumPartials (blocks.map sumPartials)).scores.get? j).getD 0 =
      (blocks.flatten.map fun v => (v.scores.get? j).getD 0).sum := by
  rw [getD_sumPartials, List.map_map, List.map_flatten, List.sum_flatten, List.map_map]
  congr 1
  apply List.map_congr_left
  intro b _
  simp [getD_sumPartials]

end Exact

end ItemRecommender
