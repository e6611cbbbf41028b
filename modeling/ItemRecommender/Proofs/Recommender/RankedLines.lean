import Mathlib
import ItemRecommender.Proofs.Recommender.Pipeline
import ItemRecommender.Proofs.Recommender.RankOrder

/-! # The lines of a fresh run

    Whatever the scores are, infinities and NaN included, every line of a fresh run that
    succeeds is ranked as promised (`RankedLine`): it belongs to a selected user and holds
    between one and `n` distinct items, none the user has a preference for and none scoring
    zero, in ranking order; the users ascend. A run fails only on an item id outside the signed
    64-bit range (`runStages_lines_ranked`).

    No score is computed here. A candidate of a user is an index held by some joined column, so
    an index that some vector holds together with another (`IndexColumns`); it therefore has a
    column of its own, which the join pairs with every selected user whose vector holds the
    index, excluded by pruning or not. When the user has a preference for the candidate's item,
    the user's partial vector from that column marks the index rated, and the block sums keep
    the mark (`not_rated_of_candidate`), so the index is no candidate after all. -/

namespace ItemRecommender

open Batch Reference

variable {α β : Type} [Scalar α] [LinearOrder β]

/-- A line of output as the ranking promises it: a selected user with between one and `n`
distinct items, none the user has a preference for and none scoring zero (either zero), by
score, largest first and unordered scores last, then by item id. -/
structure RankedLine (key : α → β) (prefs : List (Preference α)) (users : Option (List Int))
    (n : Nat) (line : Int × List (Recommendation α)) : Prop where
  selected : isSelected users line.1 = true
  nonempty : line.2 ≠ []
  length_le : line.2.length ≤ n
  distinct : (line.2.map Recommendation.item).Nodup
  unrated : ∀ r ∈ line.2, ∀ p ∈ prefs, p.user = line.1 → p.item ≠ r.item
  nonzero : ∀ r ∈ line.2, (r.score == Scalar.zero) = false
  ranked : line.2.Pairwise fun a b => rankOf key a < rankOf key b

/-! ## The columns by index -/

section Columns

/-- The columns of the co-occurrence stage by their indices: one per index held by a vector of
at least two entries, ascending, and column `x` holds every other index that some vector holds
together with `x`. -/
structure IndexColumns (vs : List (Int × UserVector α)) (cols : List (Int × Column α)) : Prop where
  sorted : (cols.map Prod.fst).Pairwise (· < ·)
  mem_keys : ∀ x, x ∈ cols.map Prod.fst ↔ ∃ r ∈ vs, 2 ≤ r.2.size ∧ x ∈ r.2.keys
  mem_column : ∀ c ∈ cols, ∀ j, j ∈ c.2.keys ↔ j ≠ c.1 ∧ ∃ r ∈ vs, c.1 ∈ r.2.keys ∧ j ∈ r.2.keys

/-- The cooccurrence stage always goes through. -/
theorem buildCooccurrence_indexColumns (vs : List (Int × UserVector α)) {splits : Int}
    (hsplits : 1 ≤ splits) : ∃ cols, buildCooccurrence vs splits = .ok cols ∧ IndexColumns vs cols := by
  obtain ⟨cols, hrun, hsorted, hkeys, hcol⟩ := buildCooccurrence_eq_ok vs hsplits
  exact ⟨cols, hrun, ⟨hsorted, hkeys, hcol⟩⟩

variable {vs : List (Int × UserVector α)} {cols : List (Int × Column α)}

omit [Scalar α] in
/-- An index a column holds has a column of its own. -/
theorem IndexColumns.mem_keys_of_mem_column (hC : IndexColumns vs cols) {c : Int × Column α}
    (hc : c ∈ cols) {j : Int} (hj : j ∈ c.2.keys) : j ∈ cols.map Prod.fst := by
  obtain ⟨hne, r, hr, hx, hjr⟩ := (hC.mem_column c hc j).1 hj
  exact (hC.mem_keys j).2 ⟨r, hr, two_le_size hjr hx (Ne.symm hne), hjr⟩

omit [Scalar α] in
/-- An index a column holds is the index of an item of the preferences. -/
theorem IndexColumns.item_of_mem_column {prefs : List (Preference α)} (hV : VectorsOf prefs vs)
    (hC : IndexColumns vs cols) {c : Int × Column α} (hc : c ∈ cols) {j : Int} (hj : j ∈ c.2.keys) :
    ∃ i, (itemTable prefs).itemAt? j = some i ∧ i ∈ items prefs := by
  obtain ⟨-, r, hr, -, hjr⟩ := (hC.mem_column c hc j).1 hj
  obtain ⟨i, hi, hmem⟩ := (hV.mem_keys hr j).1 hjr
  exact ⟨i, hi, itemsOf_subset_items prefs r.1 hmem⟩

/-- A record of the join is a column with the ratings of its index. -/
theorem mem_joinedColumns [Inhabited α] {k : Int} {users : Option (List Int)}
    {r : Int × RatedColumn α} (hr : r ∈ joinedColumns k users cols vs) :
    ∃ c ∈ cols, r.1 = c.1 ∧ r.2.column = c.2 ∧ r.2.raters.zip r.2.slots = ratingsOf k users vs c.1 := by
  obtain ⟨c, hc, hrc⟩ := List.mem_flatMap.1 hr
  obtain ⟨-, rfl⟩ := mem_joinedRecord.1 hrc
  exact ⟨c, (perm_sortByKey cols).subset hc, rfl, rfl, zip_map_fst_snd _⟩

end Columns

/-! ## A user's candidates

    The candidates of the block sums of a user's partial vectors, for any joined records. -/

section Candidates

variable {joined : List (Int × RatedColumn α)} {u : Int} {blocks : List (List (PartialScores α))}

/-- A candidate is scored by one of the user's partial vectors. -/
theorem exists_partial_of_candidate (hblocks : blocks.flatten = valuesAt u (partialsOf joined))
    {e : Int × α} (he : e ∈ (candidateScores (blocks.map sumPartials)).entries) :
    ∃ v ∈ valuesAt u (partialsOf joined), e.1 ∈ v.scores.keys := by
  have hkey : e.1 ∈ (sumPartials (blocks.map sumPartials)).scores.keys :=
    List.mem_map_of_mem (mem_candidateScores he).1
  rw [← hblocks]
  exact (mem_keys_sumPartials_blocks blocks e.1).1 hkey

/-- A candidate is an index some joined column holds. -/
theorem exists_column_of_candidate (hblocks : blocks.flatten = valuesAt u (partialsOf joined))
    {e : Int × α} (he : e ∈ (candidateScores (blocks.map sumPartials)).entries) :
    ∃ r ∈ joined, e.1 ∈ r.2.column.keys := by
  obtain ⟨v, hv, hjv⟩ := exists_partial_of_candidate hblocks he
  exact mem_column_of_mem_partials hv hjv

/-- A user with a candidate has a slot in some joined record. -/
theorem exists_rating_of_candidate (hblocks : blocks.flatten = valuesAt u (partialsOf joined))
    {e : Int × α} (he : e ∈ (candidateScores (blocks.map sumPartials)).entries) :
    ∃ r ∈ joined, valuesAt u (r.2.raters.zip r.2.slots) ≠ [] := by
  obtain ⟨v, hv, -⟩ := exists_partial_of_candidate hblocks he
  rw [valuesAt_partialsOf, List.mem_flatMap] at hv
  obtain ⟨r, hr, hv⟩ := hv
  obtain ⟨s, hs, -⟩ := List.mem_map.1 hv
  exact ⟨r, hr, List.ne_nil_of_mem hs⟩

/-- **No candidate is rated**: the block sums keep every index the user's partial vectors mark
rated, and a candidate is marked by none of them. -/
theorem not_rated_of_candidate (hblocks : blocks.flatten = valuesAt u (partialsOf joined))
    {e : Int × α} (he : e ∈ (candidateScores (blocks.map sumPartials)).entries) :
    e.1 ∉ (userTotal joined u).rated := by
  intro hrated
  obtain ⟨v, hv, hjv⟩ := (mem_rated_sumPartials _ e.1).1 hrated
  rw [← hblocks] at hv
  have hsum : e.1 ∈ (sumPartials (blocks.map sumPartials)).rated :=
    (mem_rated_sumPartials_blocks blocks e.1).2 ⟨v, hv, hjv⟩
  obtain ⟨w, hw, hjw⟩ := (mem_rated_sumPartials _ e.1).1 hsum
  exact (mem_candidateScores he).2.1 w hw hjw

end Candidates

/-! ## The candidates of the stages -/

section Stages

variable [Inhabited α] {prefs : List (Preference α)} {users : Option (List Int)} {k : Int}
  {vs : List (Int × UserVector α)} {cols : List (Int × Column α)} {u : Int}
  {blocks : List (List (PartialScores α))}

/-- A candidate of the stages is the index of an item of the preferences. -/
theorem item_of_candidate (hV : VectorsOf prefs vs) (hC : IndexColumns vs cols)
    (hblocks : blocks.flatten = valuesAt u (partialsOf (joinedColumns k users cols vs)))
    {e : Int × α} (he : e ∈ (candidateScores (blocks.map sumPartials)).entries) :
    ∃ i, (itemTable prefs).itemAt? e.1 = some i ∧ i ∈ items prefs := by
  obtain ⟨r, hr, hjr⟩ := exists_column_of_candidate hblocks he
  obtain ⟨c, hc, -, hcol, -⟩ := mem_joinedColumns hr
  exact hC.item_of_mem_column hV hc (hcol ▸ hjr)

/-- A user with a candidate is a selected user with a vector. -/
theorem selected_of_candidate
    (hblocks : blocks.flatten = valuesAt u (partialsOf (joinedColumns k users cols vs)))
    {e : Int × α} (he : e ∈ (candidateScores (blocks.map sumPartials)).entries) :
    isSelected users u = true ∧ ∃ vec, (u, vec) ∈ vs := by
  obtain ⟨r, hr, hne⟩ := exists_rating_of_candidate hblocks he
  obtain ⟨c, -, -, -, hzip⟩ := mem_joinedColumns hr
  rw [hzip] at hne
  obtain ⟨hsel, vec, hvec, -⟩ := (valuesAt_ratingsOf_ne_nil_iff k users vs c.1 u).1 hne
  exact ⟨hsel, vec, hvec⟩

/-- **No candidate is an item the user has a preference for.** The candidate's index has a
column, which the join pairs with the user, whose vector holds the index. -/
theorem candidate_not_preferred (hV : VectorsOf prefs vs) (hC : IndexColumns vs cols)
    (hblocks : blocks.flatten = valuesAt u (partialsOf (joinedColumns k users cols vs)))
    {e : Int × α} (he : e ∈ (candidateScores (blocks.map sumPartials)).entries) {i : Int}
    (hi : (itemTable prefs).itemAt? e.1 = some i) : i ∉ itemsOf prefs u := by
  intro hmem
  obtain ⟨hsel, vec, hvec⟩ := selected_of_candidate hblocks he
  have hjvec : e.1 ∈ vec.keys := (hV.mem_keys_iff_of_itemAt? hvec hi).2 hmem
  -- the candidate's index has a column of its own
  obtain ⟨r, hr, hjr⟩ := exists_column_of_candidate hblocks he
  obtain ⟨c, hc, -, hcol, -⟩ := mem_joinedColumns hr
  obtain ⟨c', hc', hc'j⟩ := List.mem_map.1 (hC.mem_keys_of_mem_column hc (hcol ▸ hjr))
  have hR : valuesAt u (ratingsOf k users vs c'.1) ≠ [] :=
    (valuesAt_ratingsOf_ne_nil_iff k users vs c'.1 u).2 ⟨hsel, vec, hvec, hc'j ▸ hjvec⟩
  exact not_rated_of_candidate hblocks he ((mem_rated_userTotal_joined (sortByKey cols)
    (ratingsOf k users vs) u e.1).2 ⟨c', (perm_sortByKey cols).symm.subset hc', hc'j, hR⟩)

/-- **A line of the stages is ranked as promised.** -/
theorem rankedLine_of_recommendFor {key : α → β} (hkey : IeeeOrder key) (hV : VectorsOf prefs vs)
    (hC : IndexColumns vs cols)
    (hblocks : blocks.flatten = valuesAt u (partialsOf (joinedColumns k users cols vs))) {n : Int}
    {out : List (Int × List (Recommendation α))}
    (h : recommendFor (itemTable prefs) n u (blocks.map sumPartials) = .ok out)
    {line : Int × List (Recommendation α)} (hline : line ∈ out) :
    RankedLine key prefs users n.toNat line := by
  obtain ⟨rfl, hne⟩ := mem_recommendFor hkey h hline
  set cands := candidateScores (blocks.map sumPartials)
  have hitem : ∀ e ∈ cands.entries, ∃ i, (itemTable prefs).itemAt? e.1 = some i ∧ i ∈ items prefs :=
    fun e he => item_of_candidate hV hC hblocks he
  -- distinct indices are distinct items, so the labelled candidates have distinct ids
  have hdistinct : ((labelled (itemTable prefs) cands).map Recommendation.item).Nodup := by
    refine nodup_items_labelled cands _ (fun j hj => ?_) fun i hi j _ hij => ?_
    · obtain ⟨e, he, rfl⟩ := List.mem_map.1 hj
      obtain ⟨id, hid, -⟩ := hitem e he
      simp [hid]
    · obtain ⟨e, he, rfl⟩ := List.mem_map.1 (show i ∈ cands.keys from hi)
      obtain ⟨id, hid, -⟩ := hitem e he
      exact itemAt?_inj hid (hij ▸ hid)
  -- every recommendation of the line is a labelled candidate
  have hlabel : ∀ r ∈ (ranked key (labelled (itemTable prefs) cands)).take n.toNat,
      ∃ e ∈ cands.entries, r = ⟨((itemTable prefs).itemAt? e.1).getD 0, e.2⟩ := by
    intro r hr
    obtain ⟨e, he, rfl⟩ := List.mem_map.1 ((perm_ranked key _).subset (List.mem_of_mem_take hr))
    exact ⟨e, he, rfl⟩
  refine ⟨?_, hne, List.length_take_le _ _, nodup_items_take_ranked key _ hdistinct, ?_, ?_,
    pairwise_lt_take_ranked key _ hdistinct⟩
  · obtain ⟨r, hr⟩ := List.exists_mem_of_ne_nil _ hne
    obtain ⟨e, he, -⟩ := hlabel r hr
    exact (selected_of_candidate hblocks he).1
  · intro r hr p hp hpu hpi
    obtain ⟨e, he, rfl⟩ := hlabel r hr
    obtain ⟨i, hi, -⟩ := hitem e he
    rw [hi, Option.getD_some] at hpi
    exact candidate_not_preferred hV hC hblocks he hi ((mem_itemsOf prefs u i).2 ⟨p, hp, hpu, hpi⟩)
  · intro r hr
    obtain ⟨e, he, rfl⟩ := hlabel r hr
    exact (mem_candidateScores he).2.2

/-- A fresh run with `k ≥ 1` is the aggregation of the join of the co-occurrence columns with
the user vectors. -/
theorem runStages_eq_aggregate (prefs : List (Preference α)) (users : Option (List Int))
    (hk : 1 ≤ k) (n : Int) {splits : Int} (hsplits : 1 ≤ splits) :
    ∃ vs cols, VectorsOf prefs vs ∧ IndexColumns vs cols ∧
      runStages prefs users k n splits = aggregate (joinedColumns k users cols vs) (itemTable prefs) n splits := by
  obtain ⟨vs, hvs, hV⟩ := buildUserVectors_vectorsOf prefs hsplits
  obtain ⟨cols, hcols, hC⟩ := buildCooccurrence_indexColumns vs hsplits
  have htable : buildItemTable prefs splits = pure (itemTable prefs) := buildItemTable_eq prefs hsplits
  have hvs' : buildUserVectors prefs (itemTable prefs) splits = pure vs := hvs
  have hcols' : buildCooccurrence vs splits = pure cols := hcols
  have hjoin : joinColumns cols vs k users splits = pure (joinedColumns k users cols vs) :=
    joinColumns_eq_joinedColumns hk cols vs users hsplits hC.sorted.nodup
  refine ⟨vs, cols, hV, hC, ?_⟩
  rw [runStages, htable, pure_bind, hvs', pure_bind, hcols', pure_bind, hjoin, pure_bind]

end Stages

/-! ## The whole run -/

/-- **Every line of a fresh run is ranked as promised**, whatever the scores. For all
preferences, every selection of users, every `k ≥ 1`, every `n` and every split count of at
least one, when scores compare as doubles do (read off `key`), a run that succeeds lists its
users in ascending order, each line a `RankedLine`: a selected user with between one and `n`
distinct items, none the user has a preference for (excluded by pruning or not), none scoring
zero, by score, largest first and NaN last, then by item id. A run fails only when some item
id lies outside the signed 64-bit range. -/
theorem runStages_lines_ranked [Inhabited α] {key : α → β} (hkey : IeeeOrder key)
    (prefs : List (Preference α)) (users : Option (List Int)) {k n splits : Int} (hk : 1 ≤ k)
    (hsplits : 1 ≤ splits) :
    (∀ lines, runStages prefs users k n splits = .ok lines →
      (lines.map Prod.fst).Pairwise (· < ·) ∧ ∀ line ∈ lines, RankedLine key prefs users n.toNat line) ∧
    (∀ e, runStages prefs users k n splits = .error e → ∃ p ∈ prefs, fitsWord p.item = false) := by
  obtain ⟨vs, cols, hV, hC, hrun⟩ := runStages_eq_aggregate prefs users hk n hsplits
  obtain ⟨groups, hkeys, hblocks, hiff⟩ :=
    aggregate_groups (joinedColumns k users cols vs) (itemTable prefs) n hsplits
  rw [hrun]
  refine ⟨fun lines hagg => ?_, fun e hagg => ?_⟩
  · -- the rankings of the users all succeed
    obtain ⟨outs, hg, rfl⟩ := (collect_map_eq_ok _ _ _).1 ((hiff lines).1 hagg)
    refine ⟨?_, fun line hline => ?_⟩
    · -- each user gives at most one line, and the users ascend
      have hsub : (groups.flatMap fun g => (outs g).map Prod.fst).Sublist (groups.map Prod.fst) := by
        rw [List.map_eq_flatMap]
        exact List.Sublist.flatMap_right _ fun g hg' => map_fst_recommendFor_sublist (hg g hg')
      rw [List.map_flatten, List.map_map]
      exact (hkeys ▸ pairwise_keysOf _).sublist hsub
    · obtain ⟨l, hl, hline⟩ := List.mem_flatten.1 hline
      obtain ⟨g, hg', rfl⟩ := List.mem_map.1 hl
      obtain ⟨blocks, hflat, hg2⟩ := hblocks g hg'
      have h := hg g hg'
      rw [hg2] at h
      exact rankedLine_of_recommendFor hkey hV hC hflat h hline
  · -- the run stops at a user whose ranking fails, on a candidate the table names
    obtain ⟨e', hfail⟩ : ∃ e', collect (groups.map fun g =>
        recommendFor (itemTable prefs) n g.1 g.2) = .error e' := by
      cases hc : collect (groups.map fun g => recommendFor (itemTable prefs) n g.1 g.2) with
      | ok out =>
          rw [← hiff, hagg] at hc
          cases hc
      | error e' => exact ⟨e', rfl⟩
    obtain ⟨g, hg, hge⟩ := collect_map_eq_error hfail
    obtain ⟨blocks, hflat, hg2⟩ := hblocks g hg
    rw [hg2] at hge
    obtain ⟨c, hc, hfault⟩ := recommendFor_eq_error hge
    obtain ⟨i, hi, hitem⟩ := item_of_candidate hV hC hflat hc
    obtain ⟨p, hp, rfl⟩ := (mem_items prefs i).1 hitem
    refine ⟨p, hp, ?_⟩
    -- the table names the candidate, so its id does not fit a word
    by_contra hfits
    rw [Bool.not_eq_false] at hfits
    simp [itemFault?, hi, hfits] at hfault

end ItemRecommender
