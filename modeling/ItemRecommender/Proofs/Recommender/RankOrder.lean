import Mathlib
import ItemRecommender.Proofs.Recommender.Ranking

/-! # The ranking under the comparison of doubles

    Doubles compare as IEEE 754 has it: two numbers compare as their values do, so the two zeros
    are equal, and a NaN is neither below nor above anything. The recommender is written over
    any scalar, so that comparison is a hypothesis here (`IeeeOrder`): the numbers that equal
    themselves compare as their keys in a linear order do (for doubles, the key is the extended
    real value), and the others compare false.

    Under it the ranking order is a linear order read off a key (`rankOf`): the score's key
    descending, unordered scores after every other, then the item id ascending. Sorting by
    `precedes` is then stable sorting by that key, which is sorting the numbered list by the key
    and the position together (`mergeSort_precedes`, through the stability of merge sort).

    A user's ranking is then given whole by `rankedFor`: nothing when `n ≤ 0` or no candidate is
    left; the failure of the first candidate, in key order, that the table does not name or
    names with an id outside a word; otherwise one record with the first `n` candidates in
    ranking order (`recommendFor_eq_rankedFor`). -/

namespace ItemRecommender

open Scalar

variable {α β : Type} [Scalar α] [LinearOrder β]

/-- The comparison of doubles read off a key: numbers that equal themselves compare as their
keys do, and a number that differs from itself (a NaN) is neither below nor above anything. -/
structure IeeeOrder (key : α → β) : Prop where
  lt_iff : ∀ a b : α, isUnordered a = false → isUnordered b = false → (a < b ↔ key a < key b)
  not_lt_of_unordered : ∀ a b : α, isUnordered a = true → ¬a < b
  not_lt_unordered : ∀ a b : α, isUnordered b = true → ¬a < b

/-- The rationals compare as doubles that are never NaN, each its own key. -/
theorem ieeeOrder_rat : IeeeOrder (id : ℚ → ℚ) where
  lt_iff _ _ _ _ := Iff.rfl
  not_lt_of_unordered _ _ h := by simp at h
  not_lt_unordered _ _ h := by simp at h

/-! ## The ranking order -/

section Order

/-- Where a score ranks: by its key, largest first, and an unordered score after all others. -/
def scoreRank (key : α → β) (s : α) : WithTop βᵒᵈ :=
  if isUnordered s then ⊤ else ((OrderDual.toDual (key s) : βᵒᵈ) : WithTop βᵒᵈ)

/-- Where a recommendation ranks: by its score, then by its item id. -/
def rankOf (key : α → β) (r : Recommendation α) : WithTop βᵒᵈ ×ₗ Int :=
  toLex (scoreRank key r.score, r.item)

variable {key : α → β}

/-- Under the comparison of doubles, one score ranks before another exactly when its rank is
smaller. -/
theorem ranksBefore_eq (hkey : IeeeOrder key) (a b : α) :
    ranksBefore a b = decide (scoreRank key a < scoreRank key b) := by
  unfold ranksBefore scoreRank
  cases ha : isUnordered a <;> cases hb : isUnordered b
  · -- two ordered scores compare as their keys
    have hlt := hkey.lt_iff b a hb ha
    simp [hlt]
  · have hno := hkey.not_lt_of_unordered b a hb
    simp [hno]
  · have hno := hkey.not_lt_unordered b a ha
    simp [hno]
  · have hno := hkey.not_lt_of_unordered b a hb
    simp [hno]

/-- Under the comparison of doubles, a recommendation comes first exactly when its rank is
smaller. -/
theorem precedes_eq (hkey : IeeeOrder key) (a b : Recommendation α) :
    a.precedes b = decide (rankOf key a < rankOf key b) := by
  rw [Recommendation.precedes, ranksBefore_eq hkey, ranksBefore_eq hkey, rankOf, rankOf]
  rcases lt_trichotomy (scoreRank key a.score) (scoreRank key b.score) with h | h | h
  · simp [Prod.Lex.toLex_lt_toLex, h, not_lt.2 h.le]
  · simp [Prod.Lex.toLex_lt_toLex, h]
  · simp [Prod.Lex.toLex_lt_toLex, h, h.ne', not_lt.2 h.le]

/-- Recommendations sorted by rank, ties kept in the order they come in: the numbered list sorted
by rank and position together. -/
def ranked (key : α → β) (rs : List (Recommendation α)) : List (Recommendation α) :=
  (rs.zipIdx.mergeSort fun a b => decide (toLex (rankOf key a.1, a.2) ≤ toLex (rankOf key b.1, b.2))).map
    Prod.fst

/-- Comparing by rank, ties broken by position, is comparing by rank and position together. -/
theorem zipIdxLE_rank (hkey : IeeeOrder key) (a b : Recommendation α × Nat) :
    List.zipIdxLE (fun x y => !y.precedes x) a b =
      decide (toLex (rankOf key a.1, a.2) ≤ toLex (rankOf key b.1, b.2)) := by
  simp only [List.zipIdxLE, precedes_eq hkey, Bool.not_eq_eq_eq_not, Bool.not_true, decide_eq_false_iff_not,
    not_lt, Prod.Lex.toLex_le_toLex]
  rcases lt_trichotomy (rankOf key a.1) (rankOf key b.1) with h | h | h
  · simp [h, h.le, not_le.2 h, h.ne]
  · simp [h]
  · simp [h.le, not_le.2 h, h.ne']

/-- **Sorting by `precedes` is ranking**: merge sort is stable, so under the comparison of
doubles it orders by rank and keeps the order of equal ranks. -/
theorem mergeSort_precedes (hkey : IeeeOrder key) (rs : List (Recommendation α)) :
    rs.mergeSort (fun a b => !b.precedes a) = ranked key rs := by
  rw [← List.mergeSort_zipIdx, ranked]
  congr 1
  simpa using List.map_mergeSort (f := id) (l := rs.zipIdx)
    (r := List.zipIdxLE fun x y => !y.precedes x) fun a _ b _ => zipIdxLE_rank hkey a b

/-- Ranking only reorders. -/
theorem perm_ranked (key : α → β) (rs : List (Recommendation α)) : (ranked key rs).Perm rs := by
  rw [ranked]
  simpa using ((List.mergeSort_perm rs.zipIdx _).map Prod.fst)

/-- Ranked recommendations come in rank order. -/
theorem pairwise_ranked (key : α → β) (rs : List (Recommendation α)) :
    (ranked key rs).Pairwise fun a b => rankOf key a ≤ rankOf key b := by
  have h := @List.pairwise_mergeSort _ (fun a b : Recommendation α × Nat =>
      decide (toLex (rankOf key a.1, a.2) ≤ toLex (rankOf key b.1, b.2)))
    (fun a b c hab hbc => by simp only [decide_eq_true_eq] at *; exact hab.trans hbc)
    (fun a b => by simpa using le_total _ _) rs.zipIdx
  rw [ranked, List.pairwise_map]
  refine h.imp fun hab => ?_
  simp only [decide_eq_true_eq, Prod.Lex.toLex_le_toLex] at hab
  rcases hab with hlt | ⟨heq, -⟩
  · exact hlt.le
  · exact heq.le

omit [LinearOrder β] in
/-- Equal ranks are ranks of one item. -/
theorem item_eq_of_rankOf_eq {a b : Recommendation α} (h : rankOf key a = rankOf key b) :
    a.item = b.item :=
  (Prod.mk.inj (toLex_inj.1 h)).2

/-- The first ranked recommendations of recommendations with distinct items have distinct
items. -/
theorem nodup_items_take_ranked (key : α → β) {rs : List (Recommendation α)} (m : Nat)
    (hnodup : (rs.map Recommendation.item).Nodup) :
    (((ranked key rs).take m).map Recommendation.item).Nodup :=
  (((perm_ranked key rs).map Recommendation.item).nodup_iff.2 hnodup).sublist
    ((List.take_sublist m _).map _)

/-- The first ranked recommendations of recommendations with distinct items come in strictly
increasing rank. -/
theorem pairwise_lt_take_ranked (key : α → β) {rs : List (Recommendation α)} (m : Nat)
    (hnodup : (rs.map Recommendation.item).Nodup) :
    ((ranked key rs).take m).Pairwise fun a b => rankOf key a < rankOf key b := by
  have hle := (pairwise_ranked key rs).sublist (List.take_sublist m _)
  have hne : ((ranked key rs).take m).Pairwise fun a b => a.item ≠ b.item :=
    List.pairwise_map.1 (nodup_items_take_ranked key m hnodup)
  exact (hle.and hne).imp fun h => lt_of_le_of_ne h.1 fun heq => h.2 (item_eq_of_rankOf_eq heq)

end Order

/-! ## A user's ranking -/

section User

/-- The candidates of a user's partial vectors: the keys of their sum that none of them marks as
rated, whose summed score is not zero (either zero). -/
def candidateScores (vs : List (PartialScores α)) : Ledger Int α :=
  (sumPartials vs).scores.filter fun j s => !(vs.any fun v => decide (j ∈ v.rated)) && !(s == zero)

/-- A candidate is scored by the sum, marked rated by no partial vector, and does not score
zero. -/
theorem mem_candidateScores {vs : List (PartialScores α)} {e : Int × α}
    (he : e ∈ (candidateScores vs).entries) :
    e ∈ (sumPartials vs).scores.entries ∧ (∀ v ∈ vs, e.1 ∉ v.rated) ∧ (e.2 == zero) = false := by
  obtain ⟨hmem, hpass⟩ := List.mem_filter.1 he
  simp only [Bool.and_eq_true, Bool.not_eq_true', List.any_eq_false, decide_eq_true_eq] at hpass
  exact ⟨hmem, hpass.1, hpass.2⟩

/-- Why the table cannot give an index a word-sized item id, if it cannot. -/
def itemFault? (table : ItemTable) (j : Int) : Option Failure :=
  match table.itemAt? j with
  | none => some (.missingIndex j)
  | some id => if fitsWord id then none else some .idTooLarge

/-- **A user's ranking** by the comparison read off `key`: nothing when `n ≤ 0` or there is no
candidate; otherwise the failure of the first candidate, in key order, that the table cannot
give a word-sized id, or else one record with the first `n` candidates in ranking order, each
under its item id. -/
def rankedFor (key : α → β) (table : ItemTable) (n u : Int) (vs : List (PartialScores α)) :
    Except Failure (List (Int × List (Recommendation α))) :=
  if n ≤ 0 ∨ (candidateScores vs).entries = [] then .ok []
  else match (candidateScores vs).entries.findSome? fun e => itemFault? table e.1 with
    | some fault => .error fault
    | none => .ok [(u, (ranked key (labelled table (candidateScores vs))).take n.toNat)]

/-- The candidates `recommendFor` ranks are the keys of the sum none of the vectors marks as
rated, with a score that is not zero. -/
theorem filter_sumPartials_eq (vs : List (PartialScores α)) :
    ((sumPartials vs).scores.filter fun j s => decide (j ∉ (sumPartials vs).rated) && !(s == zero)) =
      candidateScores vs := by
  have hpred : (fun j s => decide (j ∉ (sumPartials vs).rated) && !(s == zero)) =
      fun (j : Int) (s : α) => !(vs.any fun v => decide (j ∈ v.rated)) && !(s == zero) := by
    funext j s
    have hrated : decide (j ∉ (sumPartials vs).rated) = !vs.any fun v => decide (j ∈ v.rated) := by
      rw [Bool.eq_iff_iff]
      simp
    rw [hrated]
  rw [candidateScores, hpred]

omit [Scalar α] in
/-- The step of the ranking that names a candidate by its item id fails where `itemFault?`
says and otherwise gives the candidate under its id. -/
theorem lookup_eq_fault (table : ItemTable) (e : Int × α) :
    (match table.itemAt? e.1 with
      | none => throw (.missingIndex e.1)
      | some id => if fitsWord id then pure (⟨id, e.2⟩ : Recommendation α) else throw .idTooLarge :
        Except Failure (Recommendation α)) =
      (itemFault? table e.1).elim (.ok ⟨(table.itemAt? e.1).getD 0, e.2⟩) .error := by
  unfold itemFault?
  cases table.itemAt? e.1 with
  | none => rfl
  | some id =>
      by_cases hfit : fitsWord id = true
      · simp [hfit]
      · simp [hfit]
        rfl

/-- **The ranking of some scores** under the comparison of doubles: nothing when `n ≤ 0` or
there is no score; else the failure of the first score, in key order, whose index the table
cannot give a word-sized id; else the first `n` labelled scores in ranking order. -/
theorem topItems_eq_ranked {key : α → β} (hkey : IeeeOrder key) (scores : Ledger Int α)
    (table : ItemTable) (n : Int) :
    topItems scores table n = if n ≤ 0 ∨ scores.entries = [] then .ok [] else
      (scores.entries.findSome? fun e => itemFault? table e.1).elim
        (.ok ((ranked key (labelled table scores)).take n.toNat)) .error := by
  unfold topItems
  by_cases hstop : n ≤ 0 ∨ scores.entries = []
  · -- nothing is ranked
    have hstop' : scores.size = 0 ∨ n ≤ 0 := by
      rcases hstop with hn | he
      · exact Or.inr hn
      · exact Or.inl (by rw [Ledger.size, he]; rfl)
    rw [if_pos hstop', if_pos hstop]
    rfl
  · have hstop' : ¬(scores.size = 0 ∨ n ≤ 0) := by
      rintro (hs | hn)
      · exact hstop (Or.inr (List.eq_nil_of_length_eq_zero hs))
      · exact hstop (Or.inl hn)
    rw [if_neg hstop', if_neg hstop,
      mapM_eq_of_fault (fun e => itemFault? table e.1) (fun e => ⟨(table.itemAt? e.1).getD 0, e.2⟩)
        fun e _ => lookup_eq_fault table e]
    cases scores.entries.findSome? fun e => itemFault? table e.1 with
    | some fault => rfl
    | none =>
        show Except.ok (((scores.entries.map fun e =>
            (⟨(table.itemAt? e.1).getD 0, e.2⟩ : Recommendation α)).mergeSort
              fun a b => !b.precedes a).take n.toNat) = _
        rw [← labelled, mergeSort_precedes hkey]
        rfl

/-- A score the table cannot name stops the ranking with its fault. -/
theorem topItems_eq_error {scores : Ledger Int α} {table : ItemTable} {n : Int} {e : Failure}
    (h : topItems scores table n = .error e) : ∃ c ∈ scores.entries, itemFault? table c.1 = some e := by
  unfold topItems at h
  split_ifs at h with hstop
  · cases h
  · rw [mapM_eq_of_fault (fun c => itemFault? table c.1) (fun c => ⟨(table.itemAt? c.1).getD 0, c.2⟩)
      fun c _ => lookup_eq_fault table c] at h
    cases hfault : scores.entries.findSome? fun c => itemFault? table c.1 with
    | none =>
        rw [hfault] at h
        cases h
    | some fault =>
        rw [hfault] at h
        cases h
        exact List.exists_of_findSome?_eq_some hfault

/-- A user's recommendations rank the candidates and keep the ranking as one record when it is
not empty. -/
theorem recommendFor_eq_bind (table : ItemTable) (n u : Int) (vs : List (PartialScores α)) :
    recommendFor table n u vs = topItems (candidateScores vs) table n >>= fun items =>
      pure (if items.isEmpty then [] else [(u, items)]) := by
  unfold recommendFor
  simp only [filter_sumPartials_eq]

/-- A user's recommendations fail only with the fault of a candidate that the table cannot name
with a word-sized id. -/
theorem recommendFor_eq_error {table : ItemTable} {n u : Int} {vs : List (PartialScores α)}
    {e : Failure} (h : recommendFor table n u vs = .error e) :
    ∃ c ∈ (candidateScores vs).entries, itemFault? table c.1 = some e := by
  rw [recommendFor_eq_bind] at h
  cases htop : topItems (candidateScores vs) table n with
  | ok items =>
      rw [htop] at h
      cases h
  | error e' =>
      rw [htop] at h
      cases h
      exact topItems_eq_error htop

/-- A user's recommendations are at most one record, the user's. -/
theorem map_fst_recommendFor_sublist {table : ItemTable} {n u : Int} {vs : List (PartialScores α)}
    {out : List (Int × List (Recommendation α))} (h : recommendFor table n u vs = .ok out) :
    (out.map Prod.fst).Sublist [u] := by
  rw [recommendFor_eq_bind, bind_eq_ok] at h
  obtain ⟨items, -, hout⟩ := h
  rw [pure_eq_ok] at hout
  subst hout
  split <;> simp

/-- A record of a user's recommendations holds the user with the first `n` ranked candidates,
at least one. -/
theorem mem_recommendFor {key : α → β} (hkey : IeeeOrder key) {table : ItemTable} {n u : Int}
    {vs : List (PartialScores α)} {out : List (Int × List (Recommendation α))}
    (h : recommendFor table n u vs = .ok out) {line : Int × List (Recommendation α)}
    (hline : line ∈ out) :
    line = (u, (ranked key (labelled table (candidateScores vs))).take n.toNat) ∧ line.2 ≠ [] := by
  rw [recommendFor_eq_bind, bind_eq_ok] at h
  obtain ⟨items, htop, hout⟩ := h
  rw [pure_eq_ok] at hout
  subst hout
  -- a record is kept only for a ranking that is not empty
  have hne : items ≠ [] := by
    rintro rfl
    simp at hline
  rw [if_neg (by simpa using hne), List.mem_singleton] at hline
  subst hline
  rw [topItems_eq_ranked hkey] at htop
  split_ifs at htop with hstop
  · cases htop
    exact absurd rfl hne
  · cases hfault : (candidateScores vs).entries.findSome? fun c => itemFault? table c.1 with
    | some fault =>
        rw [hfault] at htop
        cases htop
    | none =>
        rw [hfault] at htop
        cases htop
        exact ⟨rfl, hne⟩

/-- **Per-user ranking under the comparison of doubles.** For every table, every `n` and every
list of partial vectors, when the scores compare as doubles do, read off `key`, the
recommendations of a user are `rankedFor`: nothing when `n ≤ 0` or no candidate is left (a
rated index, and a score equal to zero, either zero, is no candidate; NaN is one); else the
`missingIndex` or `idTooLarge` failure of the first offending candidate in key order; else one
record with the first `n` candidates by score, largest first and NaN last, then by item id, then
in key order. -/
theorem recommendFor_eq_rankedFor {key : α → β} (hkey : IeeeOrder key) (table : ItemTable)
    (n u : Int) (vs : List (PartialScores α)) :
    recommendFor table n u vs = rankedFor key table n u vs := by
  unfold recommendFor rankedFor
  simp only [filter_sumPartials_eq]
  rw [topItems_eq_ranked hkey]
  by_cases hstop : n ≤ 0 ∨ (candidateScores vs).entries = []
  · rw [if_pos hstop, if_pos hstop]
    rfl
  · have hn : 0 < n := by omega
    have hne : (candidateScores vs).entries ≠ [] := fun he => hstop (Or.inr he)
    rw [if_neg hstop, if_neg hstop]
    cases (candidateScores vs).entries.findSome? fun e => itemFault? table e.1 with
    | some fault => rfl
    | none =>
        -- every candidate is named: the first `n` of the ranked candidates, never none of them
        have hlen : 0 < (ranked key (labelled table (candidateScores vs))).length := by
          rw [(perm_ranked key _).length_eq, labelled, List.length_map]
          exact List.length_pos_iff.2 hne
        have hsome : ((ranked key (labelled table (candidateScores vs))).take n.toNat).isEmpty = false := by
          rw [List.isEmpty_eq_false_iff, ne_eq, List.take_eq_nil_iff, ← List.length_eq_zero_iff]
          omega
        show Except.ok (if ((ranked key (labelled table (candidateScores vs))).take n.toNat).isEmpty
          then [] else _) = _
        rw [hsome]
        rfl

/-- Two partial vectors of a user: index 2 is rated, index 0 sums to zero, and indices 1 and 3
tie on their score. -/
def tiedPartials : List (PartialScores ℚ) :=
  [⟨Ledger.ofList [(0, 1), (1, 2), (3, 2)], [2]⟩, ⟨Ledger.ofList [(0, -1), (2, 5)], []⟩]

theorem recommendFor_tiedPartials :
    IeeeOrder (id : ℚ → ℚ) ∧
      recommendFor ⟨[(0, 10), (1, 12), (2, 13), (3, 11)]⟩ 1 7 tiedPartials =
        rankedFor id ⟨[(0, 10), (1, 12), (2, 13), (3, 11)]⟩ 1 7 tiedPartials :=
  ⟨ieeeOrder_rat, recommendFor_eq_rankedFor ieeeOrder_rat _ 1 7 tiedPartials⟩

end User

end ItemRecommender
