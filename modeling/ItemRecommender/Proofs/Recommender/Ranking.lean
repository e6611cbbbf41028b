import Mathlib
import ItemRecommender.Ranking
import ItemRecommender.Proofs.Recommender.Scores
import ItemRecommender.Proofs.Recommender.Exact

/-! # Ranking

    The ranking reads each scored index under its item id (`labelled`); when the table names
    every index with an id that fits a word, nothing else can fail it (`topItems_eq_ok`). Over
    the rationals the ranking order is a linear order on recommendations, larger scores first
    and then smaller ids (`rankKey`). The merge sort of the labelled scores is then the sorted
    set of them, and the ranking keeps the first `n` of that set (`topItems_rat`). A user's
    recommendations are the best of the candidates (`recommendFor_rat`): the indices with a
    score that the user has not rated and whose score is not zero, each under its item id
    (`mem_candidatesOf`). -/

namespace ItemRecommender

section Labels

variable {α : Type} [Scalar α]

/-- The entries of a ledger of scores as recommendations, each index under its item id. -/
def labelled (table : ItemTable) (scores : Ledger Int α) : List (Recommendation α) :=
  scores.entries.map fun e => ⟨(table.itemAt? e.1).getD 0, e.2⟩

/-- A user's record of recommendations, when there are any. -/
def recordOf (u : Int) (items : List (Recommendation α)) : List (Int × List (Recommendation α)) :=
  if items.isEmpty then [] else [(u, items)]

/-- **The ranking** fails on nothing when the table names every scored index with an id that
fits a word: it sorts the labelled scores and keeps the first `n`. -/
theorem topItems_eq_ok (scores : Ledger Int α) (table : ItemTable) (n : Int)
    (hknown : ∀ j ∈ scores.keys, ∃ id, table.itemAt? j = some id ∧ fitsWord id = true) :
    topItems scores table n =
      .ok (((labelled table scores).mergeSort fun a b => !b.precedes a).take n.toNat) := by
  unfold topItems
  by_cases hstop : scores.size = 0 ∨ n ≤ 0
  · rw [if_pos hstop]
    rcases hstop with hsize | hn
    · have hnil : scores.entries = [] := List.eq_nil_of_length_eq_zero hsize
      simp [labelled, hnil]
    · simp [Int.toNat_of_nonpos hn]
  · rw [if_neg hstop]
    have : Inhabited (Recommendation α) := ⟨⟨0, Scalar.zero⟩⟩
    simp only [bind_eq_ok]
    refine ⟨labelled table scores, (mapM_eq_ok _ _ _).2 ⟨_, fun e he => ?_, rfl⟩, rfl⟩
    obtain ⟨id, hid, hfits⟩ := hknown e.1 (List.mem_map_of_mem he)
    simp [hid, hfits]

omit [Scalar α] in
/-- Labelled scores whose indices the table names, distinct indices under distinct ids, have
distinct ids. -/
theorem nodup_items_labelled (scores : Ledger Int α) (table : ItemTable)
    (hknown : ∀ j ∈ scores.keys, (table.itemAt? j).isSome)
    (hinj : Set.InjOn table.itemAt? {j | j ∈ scores.keys}) :
    ((labelled table scores).map Recommendation.item).Nodup := by
  rw [labelled, List.map_map]
  refine List.Nodup.map_on (fun e he f hf hef => ?_) (List.Nodup.of_map Prod.fst scores.nodup)
  have he' : e.1 ∈ scores.keys := List.mem_map_of_mem he
  have hf' : f.1 ∈ scores.keys := List.mem_map_of_mem hf
  obtain ⟨id, hid⟩ := Option.isSome_iff_exists.1 (hknown e.1 he')
  obtain ⟨id', hid'⟩ := Option.isSome_iff_exists.1 (hknown f.1 hf')
  simp only [Function.comp_apply, hid, hid', Option.getD_some] at hef
  -- equal ids come from one index, and an index has one entry
  have hkey : e.1 = f.1 := hinj he' hf' (by rw [hid, hid', hef])
  exact List.inj_on_of_nodup_map scores.nodup he hf hkey

end Labels

/-! ## The ranking order over the rationals -/

section Exact

/-- Where a rational recommendation ranks: larger scores first, then smaller ids. -/
def rankKey (r : Recommendation ℚ) : ℚ ×ₗ Int := toLex (-r.score, r.item)

theorem rankKey_injective : Function.Injective rankKey := by
  rintro ⟨i, s⟩ ⟨j, t⟩ h
  simp only [rankKey, toLex_inj, Prod.mk.injEq, neg_inj] at h
  rw [h.1, h.2]

/-- Rational recommendations in ranking order. -/
instance instRecommendationOrder : LinearOrder (Recommendation ℚ) :=
  LinearOrder.lift' rankKey rankKey_injective

theorem lt_iff_rankKey {a b : Recommendation ℚ} : a < b ↔ rankKey a < rankKey b := Iff.rfl

/-- Over the rationals, coming first in the ranking is being smaller in the ranking order. -/
theorem precedes_rat (a b : Recommendation ℚ) : a.precedes b = decide (a < b) := by
  rw [Bool.eq_iff_iff, decide_eq_true_eq, lt_iff_rankKey, rankKey, rankKey,
    Prod.Lex.toLex_lt_toLex]
  simp only [Recommendation.precedes, Scalar.ranksBefore_rat, Bool.or_eq_true, decide_eq_true_eq,
    Bool.and_eq_true, Bool.not_eq_eq_eq_not, Bool.not_true, decide_eq_false_iff_not, neg_lt_neg_iff, neg_inj]
  rcases lt_trichotomy a.score b.score with h | h | h
  · simp [h, not_lt.2 h.le, h.ne]
  · simp [h]
  · simp [h, not_lt.2 h.le, h.ne']

/-- The first `n` of some rational recommendations in ranking order. -/
def bestOf (cands : Finset (Recommendation ℚ)) (n : Nat) : List (Recommendation ℚ) :=
  (cands.sort (· ≤ ·)).take n

/-- With room for one, a user gets a record exactly when there is a candidate. -/
theorem recordOf_bestOf (u : Int) (cands : Finset (Recommendation ℚ)) {n : Nat} (hn : 1 ≤ n) :
    recordOf u (bestOf cands n) = if cands.Nonempty then [(u, bestOf cands n)] else [] := by
  have hsort : cands.sort (· ≤ ·) = [] ↔ cands = ∅ := by
    constructor
    · intro h
      rw [← Finset.sort_toFinset cands (· ≤ ·), h, List.toFinset_nil]
    · rintro rfl
      exact Finset.sort_empty _
  have hempty : (bestOf cands n).isEmpty ↔ cands = ∅ := by
    rw [List.isEmpty_iff, bestOf, List.take_eq_nil_iff, hsort]
    exact ⟨fun h => h.resolve_left (by omega), Or.inr⟩
  by_cases hc : cands.Nonempty
  · rw [if_pos hc, recordOf, if_neg (by rw [hempty]; exact hc.ne_empty)]
  · rw [if_neg hc, recordOf, if_pos (hempty.2 (Finset.not_nonempty_iff_eq_empty.1 hc))]

/-- Labelled scores with distinct indices under distinct ids are distinct. -/
theorem nodup_labelled (scores : Ledger Int ℚ) (table : ItemTable)
    (hknown : ∀ j ∈ scores.keys, (table.itemAt? j).isSome)
    (hinj : Set.InjOn table.itemAt? {j | j ∈ scores.keys}) :
    (labelled table scores).Nodup :=
  (nodup_items_labelled scores table hknown hinj).of_map _

/-- **The ranking over the rationals** keeps the first `n` of the labelled scores in ranking
order, when the table names every scored index, under distinct ids that fit a word. -/
theorem topItems_rat (scores : Ledger Int ℚ) (table : ItemTable) (n : Int)
    (hknown : ∀ j ∈ scores.keys, ∃ id, table.itemAt? j = some id ∧ fitsWord id = true)
    (hinj : Set.InjOn table.itemAt? {j | j ∈ scores.keys}) :
    topItems scores table n = .ok (bestOf (labelled table scores).toFinset n.toNat) := by
  have hle : (fun a b : Recommendation ℚ => !b.precedes a) = fun a b => decide (a ≤ b) := by
    funext a b
    rw [precedes_rat]
    simp only [← decide_not, not_lt]
  have hnodup := nodup_labelled scores table
    (fun j hj => by obtain ⟨id, hid, -⟩ := hknown j hj; simp [hid]) hinj
  set l := labelled table scores
  have hperm := List.mergeSort_perm l fun a b => decide (a ≤ b)
  have hsorted : (l.mergeSort fun a b => decide (a ≤ b)).Pairwise (· ≤ ·) := by
    have h := @List.pairwise_mergeSort _ (fun a b : Recommendation ℚ => decide (a ≤ b))
      (fun a b c hab hbc => by simp only [decide_eq_true_eq] at *; exact hab.trans hbc)
      (fun a b => by simpa using le_total a b) l
    simpa using h
  have hsort := (List.toFinset_sort (· ≤ ·) (hperm.nodup_iff.2 hnodup)).2 hsorted
  rw [topItems_eq_ok scores table n hknown, hle, bestOf, ← List.toFinset_eq_of_perm _ _ hperm,
    hsort]

/-- The candidates of a user's summed partial vectors: the scored indices the user has not
rated, with a score that is not zero, as recommendations. -/
def candidatesOf (table : ItemTable) (total : PartialScores ℚ) : Finset (Recommendation ℚ) :=
  (labelled table (total.scores.filter fun j s => j ∉ total.rated && !(s == Scalar.zero))).toFinset

/-- A candidate is an index the user has not rated, under its id, with its score, which is not
zero. -/
theorem mem_candidatesOf (table : ItemTable) (total : PartialScores ℚ)
    (hknown : ∀ j ∈ total.scores.keys, (table.itemAt? j).isSome) (r : Recommendation ℚ) :
    r ∈ candidatesOf table total ↔ ∃ j, table.itemAt? j = some r.item ∧ j ∉ total.rated ∧
      (total.scores.get? j).getD 0 = r.score ∧ r.score ≠ 0 := by
  simp only [candidatesOf, labelled, List.mem_toFinset, List.mem_map]
  constructor
  · rintro ⟨e, he, rfl⟩
    have hget : total.scores.get? e.1 = some e.2 := by
      rw [Ledger.get?_eq_some_iff]
      exact (List.mem_filter.1 he).1
    have hpass := (List.mem_filter.1 he).2
    simp only [Scalar.beq_rat, Scalar.zero_rat, Bool.and_eq_true, decide_eq_true_eq,
      Bool.not_eq_eq_eq_not, Bool.not_true, decide_eq_false_iff_not] at hpass
    obtain ⟨id, hid⟩ := Option.isSome_iff_exists.1
      (hknown e.1 ((Ledger.mem_keys_iff _ _).2 ⟨_, hget⟩))
    exact ⟨e.1, by simp [hid], hpass.1, by simp [hget], hpass.2⟩
  · rintro ⟨j, hid, hrated, hscore, hne⟩
    have hget : total.scores.get? j = some r.score := by
      cases hj : total.scores.get? j with
      | none => rw [hj] at hscore; exact absurd hscore.symm (by simpa using hne)
      | some s => rw [hj] at hscore; rw [← hscore]; rfl
    refine ⟨(j, r.score), List.mem_filter.2 ⟨(Ledger.get?_eq_some_iff _ _ _).1 hget, ?_⟩, ?_⟩
    · simp [hrated, hne]
    · simp [hid]

/-- **A user's recommendations over the rationals**: the first `n` candidates of the user's
summed partial vectors in ranking order, and no record when there are none. -/
theorem recommendFor_rat (table : ItemTable) (n : Int) (u : Int) (vs : List (PartialScores ℚ))
    (hknown : ∀ v ∈ vs, ∀ j ∈ v.scores.keys, ∃ id, table.itemAt? j = some id ∧ fitsWord id = true)
    (hinj : Set.InjOn table.itemAt? {j | ∃ v ∈ vs, j ∈ v.scores.keys}) :
    recommendFor table n u vs =
      .ok (recordOf u (bestOf (candidatesOf table (sumPartials vs)) n.toNat)) := by
  -- a candidate is scored by one of the vectors
  have hsub : ∀ j ∈ ((sumPartials vs).scores.filter fun j s =>
      j ∉ (sumPartials vs).rated && !(s == Scalar.zero)).keys, ∃ v ∈ vs, j ∈ v.scores.keys := by
    intro j hj
    obtain ⟨s, hs, -⟩ := (Ledger.mem_keys_filter _ _ _).1 hj
    exact (mem_keys_sumPartials vs j).1 ((Ledger.mem_keys_iff _ _).2 ⟨s, hs⟩)
  have hcand : ∀ j ∈ ((sumPartials vs).scores.filter fun j s =>
      j ∉ (sumPartials vs).rated && !(s == Scalar.zero)).keys,
      ∃ id, table.itemAt? j = some id ∧ fitsWord id = true := by
    intro j hj
    obtain ⟨v, hv, hjv⟩ := hsub j hj
    exact hknown v hv j hjv
  unfold recommendFor
  simp only
  rw [topItems_rat _ table n hcand (hinj.mono hsub)]
  rfl

end Exact

end ItemRecommender
