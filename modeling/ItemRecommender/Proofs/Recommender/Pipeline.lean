import Mathlib
import ItemRecommender.Proofs.Recommender.ByItem
import ItemRecommender.Proofs.Recommender.Aggregate

/-! # The stages together

    A fresh run takes the five stages one after the other (`runStages`). Over the rationals
    their result is the specification's (`runStages_eq_recommendations`), for every split count.

    The join gives every column one record with the ratings of its index, so a user's summed
    score at an index adds, over the columns, the user's kept value at the column's index times
    the column's count there (`getD_userTotal_joined`); read by item, that is the specification's
    score (`getD_userTotal_of_itemAt?`). The columns cover every index that scores: an index
    with a nonzero count in some column is held by a vector together with another index, so it
    has a column itself. Hence an item the user has a preference for and that scores for the user
    has a column, and the join gives the user a rating of it, excluded or not: the user's rated
    indices take it out of the candidates (`candidatesOf_userTotal`). -/

namespace ItemRecommender

open Batch Reference

/-- The five stages of a fresh run, each on the outputs of the ones before. -/
def runStages {α : Type} [Scalar α] [Inhabited α] (prefs : List (Preference α))
    (users : Option (List Int)) (k n splits : Int) :
    Except Failure (List (Int × List (Recommendation α))) := do
  let table ← buildItemTable prefs splits
  let vectors ← buildUserVectors prefs table splits
  let columns ← buildCooccurrence vectors splits
  let joined ← joinColumns columns vectors k users splits
  aggregate joined table n splits

/-! ## The joined columns -/

section Joined

variable {α β : Type} [Scalar α] [LinearOrder β]

theorem zip_map_fst_snd {γ δ : Type} (l : List (γ × δ)) : (l.map Prod.fst).zip (l.map Prod.snd) = l := by
  rw [← List.unzip_fst, ← List.unzip_snd, List.zip_unzip]

/-- The ratings of an index that belong to a user: the user's pruned slot there, if the user is
selected. -/
theorem valuesAt_ratingsAt [Inhabited α] (key : α → β) (k : Int) (users : Option (List Int))
    (vs : List (Int × UserVector α)) (x u : Int) :
    valuesAt u (ratingsAt key k users vs x) = if isSelected users u then
      (valuesAt u vs).flatMap fun vec => ((vec.get? x).map (prunedSlot key (presentValues vec) k)).toList
      else [] := by
  induction vs with
  | nil => simp [ratingsAt]
  | cons v vs ih =>
      simp only [ratingsAt] at ih ⊢
      rw [List.filterMap_cons, valuesAt_cons]
      by_cases hu : v.1 = u
      · subst hu
        by_cases hs : isSelected users v.1 <;> cases hg : v.2.get? x <;> simp_all
      · by_cases hs : isSelected users v.1 <;> cases hg : v.2.get? x <;> simp_all

variable (cols : List (Int × Column α)) (R : Int → List (Int × Slot α))

/-- A user's rated indices are the columns whose ratings have one of the user's. -/
theorem mem_rated_userTotal_joined (u i : Int) :
    i ∈ (userTotal (cols.flatMap fun c => joinedRecord c.1 c.2 (R c.1)) u).rated ↔
      ∃ c ∈ cols, c.1 = i ∧ valuesAt u (R c.1) ≠ [] := by
  rw [mem_rated_userTotal]
  simp only [List.mem_flatMap]
  constructor
  · rintro ⟨r, ⟨c, hc, hr⟩, rfl, hne⟩
    obtain ⟨-, rfl⟩ := mem_joinedRecord.1 hr
    exact ⟨c, hc, rfl, by simpa [zip_map_fst_snd] using hne⟩
  · rintro ⟨c, hc, rfl, hne⟩
    have hR : R c.1 ≠ [] := by
      intro h
      rw [h] at hne
      exact hne rfl
    exact ⟨_, ⟨c, hc, mem_joinedRecord.2 ⟨hR, rfl⟩⟩, rfl, by simpa [zip_map_fst_snd] using hne⟩

/-- A user with no rating in any column has no partial vector. -/
theorem valuesAt_partialsOf_joined {u : Int} (h : ∀ c ∈ cols, valuesAt u (R c.1) = []) :
    valuesAt u (partialsOf (cols.flatMap fun c => joinedRecord c.1 c.2 (R c.1))) = [] := by
  rw [valuesAt_partialsOf, List.flatMap_eq_nil_iff]
  intro r hr
  obtain ⟨c, hc, hr⟩ := List.mem_flatMap.1 hr
  obtain ⟨-, rfl⟩ := mem_joinedRecord.1 hr
  simp [zip_map_fst_snd, h c hc]

end Joined

/-! ## Exact scores of the joined columns -/

section Exact

/-- Over the rationals, a user's score at an index adds, over the columns, the user's ratings
of the column's index times the column's entry at the index. -/
theorem getD_userTotal_joined (cols : List (Int × Column ℚ)) (R : Int → List (Int × Slot ℚ))
    (u j : Int) :
    ((userTotal (cols.flatMap fun c => joinedRecord c.1 c.2 (R c.1)) u).scores.get? j).getD 0 =
      (cols.map fun c => ((valuesAt u (R c.1)).map fun s =>
        s.value?.getD 0 * (c.2.get? j).getD 0).sum).sum := by
  rw [getD_userTotal, List.flatMap, List.map_flatten, List.sum_flatten, List.map_map,
    List.map_map]
  congr 1
  apply List.map_congr_left
  intro c _
  by_cases hR : R c.1 = []
  · simp [joinedRecord, hR]
  · simp [joinedRecord, hR, zip_map_fst_snd]

variable {prefs : List (Preference ℚ)} {vs : List (Int × UserVector ℚ)}
  {cols : List (Int × Column ℚ)} {k : Int} {users : Option (List Int)}

/-- The joined columns of the stages, in column order. -/
def joinedOf (vs : List (Int × UserVector ℚ)) (cols : List (Int × Column ℚ)) (k : Int)
    (users : Option (List Int)) : List (Int × RatedColumn ℚ) :=
  cols.flatMap fun c => joinedRecord c.1 c.2 (ratingsAt id k users vs c.1)

/-- The value a user keeps at an index after pruning, zero where there is none. -/
def keptAt (k : Int) (vec : UserVector ℚ) (x : Int) : ℚ :=
  (((vec.get? x).map (prunedSlot id (presentValues vec) k)).bind Slot.value?).getD 0

/-- A selected user's ratings of an index are the user's pruned slot there. -/
theorem valuesAt_ratingsAt_of_mem (hV : VectorsOf prefs vs) {u : Int} {vec : UserVector ℚ}
    (hu : (u, vec) ∈ vs) (hsel : isSelected users u = true) (x : Int) :
    valuesAt u (ratingsAt id k users vs x) =
      ((vec.get? x).map (prunedSlot id (presentValues vec) k)).toList := by
  rw [valuesAt_ratingsAt, if_pos hsel, valuesAt_eq_singleton hV.nodup hu, List.flatMap_singleton]

/-- A selected user's score at an index, column by column. -/
theorem getD_userTotal_eq_sum (hV : VectorsOf prefs vs) {u : Int} {vec : UserVector ℚ}
    (hu : (u, vec) ∈ vs) (hsel : isSelected users u = true) (y : Int) :
    ((userTotal (joinedOf vs cols k users) u).scores.get? y).getD 0 =
      (cols.map fun c => keptAt k vec c.1 * (c.2.get? y).getD 0).sum := by
  rw [joinedOf, getD_userTotal_joined]
  congr 1
  apply List.map_congr_left
  intro c _
  rw [valuesAt_ratingsAt_of_mem hV hu hsel, keptAt]
  cases vec.get? c.1 <;> simp

/-- What a user keeps at the index of one of the user's items is the item's value if the item
is kept. -/
theorem keptAt_of_itemAt? (hV : VectorsOf prefs vs) {u : Int} {vec : UserVector ℚ}
    (hu : (u, vec) ∈ vs) {x i : Int} (hx : (itemTable prefs).itemAt? x = some i)
    (hi : i ∈ itemsOf prefs u) :
    keptAt k vec x = if i ∈ kept prefs k u then value prefs u i else 0 := by
  rw [keptAt, hV.get?_value hu hx hi, Option.map_some, hV.prunedSlot_value hu k hi]
  split <;> rfl

theorem keptAt_of_not_mem {vec : UserVector ℚ} {x : Int} (hx : x ∉ vec.keys) : keptAt k vec x = 0 := by
  rw [keptAt, (Ledger.get?_eq_none_iff vec x).2 hx]
  rfl

/-- **A selected user's score at the index of an item** is the specification's score of the
item. -/
theorem getD_userTotal_of_itemAt? (hV : VectorsOf prefs vs) (hC : ColumnsOf vs cols) {u : Int}
    {vec : UserVector ℚ} (hu : (u, vec) ∈ vs) (hsel : isSelected users u = true) {y j : Int}
    (hy : (itemTable prefs).itemAt? y = some j) :
    ((userTotal (joinedOf vs cols k users) u).scores.get? y).getD 0 = score prefs k u j := by
  -- the count a column keeps, for any index
  let cnt : Int → ℚ := fun x =>
    if y = x then 0 else ((vs.filter fun r => x ∈ r.2.keys ∧ y ∈ r.2.keys).length : ℚ)
  let f : Int → ℚ := fun x => keptAt k vec x * cnt x
  have hcols : (cols.map fun c => keptAt k vec c.1 * (c.2.get? y).getD 0).sum =
      ∑ x ∈ (cols.map Prod.fst).toFinset, f x := by
    rw [List.sum_toFinset f hC.nodup, List.map_map]
    congr 1
    apply List.map_congr_left
    intro c hc
    simp only [Function.comp_apply, f, cnt, hC.getD_eq c hc y]
  -- an index of the vector without a column counts nothing
  have hcnt : ∀ x ∈ vec.keys, x ∉ cols.map Prod.fst → cnt x = 0 := by
    intro x hx hxc
    simp only [cnt]
    split
    · rfl
    · rename_i hyx
      rw [Nat.cast_eq_zero, List.length_eq_zero_iff, List.filter_eq_nil_iff]
      intro r hr hboth
      simp only [decide_eq_true_eq] at hboth
      exact hxc (hC.mem_keys_of_holding hr hboth.1 hboth.2 hyx)
  have hunion : ∑ x ∈ (cols.map Prod.fst).toFinset, f x = ∑ x ∈ vec.keys.toFinset, f x := by
    have hleft : (cols.map Prod.fst).toFinset ⊆ (cols.map Prod.fst).toFinset ∪ vec.keys.toFinset :=
      Finset.subset_union_left
    have hright : vec.keys.toFinset ⊆ (cols.map Prod.fst).toFinset ∪ vec.keys.toFinset :=
      Finset.subset_union_right
    rw [Finset.sum_subset hleft, ← Finset.sum_subset hright]
    · intro x hx hxv
      simp only [f, keptAt_of_not_mem (List.mem_toFinset.not.1 hxv), zero_mul]
    · intro x hx hxc
      have hxv : x ∈ vec.keys := by
        rcases Finset.mem_union.1 hx with h | h
        · exact absurd h hxc
        · exact List.mem_toFinset.1 h
      simp only [f, hcnt x hxv (List.mem_toFinset.not.1 hxc), mul_zero]
  have hitems : ∑ x ∈ vec.keys.toFinset, f x =
      ∑ i ∈ itemsOf prefs u, (if i ∈ kept prefs k u then value prefs u i else 0) *
        cooccurrences prefs i j := by
    refine hV.sum_keys (r := (u, vec)) hu fun x hx => ?_
    obtain ⟨i, hi, hmem⟩ := (hV.mem_keys hu x).1 hx
    simp only [f, cnt, keptAt_of_itemAt? hV hu hi hmem, itemAt_eq hi,
      hV.count_eq_cooccurrences hi hy]
  rw [getD_userTotal_eq_sum hV hu hsel, hcols, hunion, hitems]
  simp only [ite_mul, zero_mul]
  rw [Finset.sum_ite_mem, Finset.inter_eq_right.2 (kept_subset prefs k u)]
  rfl

/-- An index where a user scores has a column. -/
theorem mem_keys_of_getD_ne_zero (hV : VectorsOf prefs vs) (hC : ColumnsOf vs cols) {u : Int}
    {vec : UserVector ℚ} (hu : (u, vec) ∈ vs) (hsel : isSelected users u = true) {y : Int}
    (hy : ((userTotal (joinedOf vs cols k users) u).scores.get? y).getD 0 ≠ 0) :
    y ∈ cols.map Prod.fst := by
  rw [getD_userTotal_eq_sum hV hu hsel] at hy
  obtain ⟨t, ht, hne⟩ := List.exists_mem_ne_zero_of_sum_ne_zero hy
  obtain ⟨c, hc, rfl⟩ := List.mem_map.1 ht
  have hget : (c.2.get? y).getD 0 ≠ 0 := fun h => hne (by rw [h, mul_zero])
  have hkey : y ∈ c.2.keys := by
    by_contra hnot
    rw [(Ledger.get?_eq_none_iff _ _).2 hnot] at hget
    exact hget rfl
  obtain ⟨hne', r, hr, hc1, hyr⟩ := (hC.mem_column c hc y).1 hkey
  exact hC.mem_keys_of_holding hr hyr hc1 (Ne.symm hne')

/-- A selected user's rated indices are the indices of the user's vector that have a column. -/
theorem mem_rated_joinedOf (hV : VectorsOf prefs vs) {u : Int} {vec : UserVector ℚ}
    (hu : (u, vec) ∈ vs) (hsel : isSelected users u = true) (y : Int) :
    y ∈ (userTotal (joinedOf vs cols k users) u).rated ↔ y ∈ cols.map Prod.fst ∧ y ∈ vec.keys := by
  rw [joinedOf, mem_rated_userTotal_joined]
  simp only [valuesAt_ratingsAt_of_mem hV hu hsel, ne_eq, Option.toList_eq_nil_iff,
    Option.map_eq_none_iff, Ledger.get?_eq_none_iff, not_not, List.mem_map]
  constructor
  · rintro ⟨c, hc, rfl, hy⟩
    exact ⟨⟨c, hc, rfl⟩, hy⟩
  · rintro ⟨⟨c, hc, rfl⟩, hy⟩
    exact ⟨c, hc, rfl, hy⟩

/-- Every column of the joined records has only indices of the table, whose items fit a word. -/
theorem mem_table_of_joinedOf (hV : VectorsOf prefs vs) (hC : ColumnsOf vs cols)
    (hfits : ∀ p ∈ prefs, fitsWord p.item = true) {r : Int × RatedColumn ℚ}
    (hr : r ∈ joinedOf vs cols k users) {j : Int} (hj : j ∈ r.2.column.keys) :
    ∃ id, (itemTable prefs).itemAt? j = some id ∧ fitsWord id = true := by
  obtain ⟨c, hc, hrc⟩ := List.mem_flatMap.1 hr
  obtain ⟨-, rfl⟩ := mem_joinedRecord.1 hrc
  obtain ⟨-, v, hv, -, hjv⟩ := (hC.mem_column c hc j).1 hj
  obtain ⟨i, hi, -⟩ := (hV.mem_keys hv j).1 hjv
  obtain ⟨p, hp, rfl⟩ := (mem_items prefs i).1 (mem_items_of_itemAt? hi)
  exact ⟨p.item, hi, hfits p hp⟩

/-- **A selected user's candidates are the specification's.** -/
theorem candidatesOf_userTotal (hV : VectorsOf prefs vs) (hC : ColumnsOf vs cols) {u : Int}
    {vec : UserVector ℚ} (hu : (u, vec) ∈ vs) (hsel : isSelected users u = true)
    (hfits : ∀ p ∈ prefs, fitsWord p.item = true) :
    candidatesOf (itemTable prefs) (userTotal (joinedOf vs cols k users) u) =
      (candidates prefs k u).image fun j => ⟨j, score prefs k u j⟩ := by
  have hknown : ∀ y ∈ (userTotal (joinedOf vs cols k users) u).scores.keys,
      ((itemTable prefs).itemAt? y).isSome := by
    intro y hy
    obtain ⟨v, hv, hyv⟩ := (mem_keys_sumPartials _ y).1 hy
    obtain ⟨r, hr, hyr⟩ := mem_column_of_mem_partials hv hyv
    obtain ⟨id, hid, -⟩ := mem_table_of_joinedOf hV hC hfits hr hyr
    simp [hid]
  ext r
  rw [mem_candidatesOf _ _ hknown, Finset.mem_image]
  constructor
  · rintro ⟨y, hy, hrated, hscore, hne⟩
    rw [getD_userTotal_of_itemAt? hV hC hu hsel hy] at hscore
    -- an item of the user that scores has a column, so the user rated its index
    have hnot : r.item ∉ itemsOf prefs u := by
      intro hmem
      have hcol := mem_keys_of_getD_ne_zero hV hC hu hsel (y := y)
        (by rw [getD_userTotal_of_itemAt? hV hC hu hsel hy, hscore]; exact hne)
      exact hrated ((mem_rated_joinedOf hV hu hsel y).2
        ⟨hcol, (hV.mem_keys_iff_of_itemAt? (r := (u, vec)) hu hy).2 hmem⟩)
    refine ⟨r.item, Finset.mem_filter.2 ⟨mem_items_of_itemAt? hy, hnot, hscore ▸ hne⟩, ?_⟩
    rw [hscore]
  · rintro ⟨j, hj, rfl⟩
    obtain ⟨hitem, hnot, hne⟩ := Finset.mem_filter.1 hj
    have hy := itemAt?_indexAt hitem
    refine ⟨indexAt prefs j, hy, fun hrated => hnot ?_, getD_userTotal_of_itemAt? hV hC hu hsel hy, hne⟩
    exact (hV.mem_keys_iff_of_itemAt? (r := (u, vec)) hu hy).1
      ((mem_rated_joinedOf hV hu hsel _).1 hrated).2

end Exact

/-! ## The whole run -/

/-- **The stages over the rationals meet the item-based specification.** For any preferences
whose item ids fit a word, any selection of users and any `k, n, splits ≥ 1`, the stages of a
fresh run succeed and recommend, for every selected user with a candidate, ascending, the first
`n` candidates of the user by score, largest first, then by id, each with its score. -/
theorem runStages_eq_recommendations (prefs : List (Preference ℚ)) (users : Option (List Int))
    {k n splits : Int} (hk : 1 ≤ k) (hn : 1 ≤ n) (hsplits : 1 ≤ splits)
    (hfits : ∀ p ∈ prefs, fitsWord p.item = true) :
    runStages prefs users k n splits = .ok (recommendations prefs users k n.toNat) := by
  obtain ⟨vs, hvs, hV⟩ := buildUserVectors_vectorsOf prefs hsplits
  obtain ⟨cols, hcols, hC⟩ := buildCooccurrence_columnsOf vs hsplits
  have hkey : Heap.ReadsOff (id : ℚ → ℚ) fun _ => True := fun _ _ _ _ => Iff.rfl
  have hjoin : joinColumns cols vs k users splits = .ok (joinedOf vs cols k users) := by
    rw [joinColumns_eq_ok hkey hk cols vs users hsplits hC.nodup fun _ _ _ _ => trivial,
      flatMap_keysOf_filter cols hC.sorted]
    rfl
  have hagg := aggregate_rat (joinedOf vs cols k users) (itemTable prefs) n hsplits
    (fun r hr j hj => mem_table_of_joinedOf hV hC hfits hr hj) fun _ _ _ hi hj => itemAt?_inj hi hj
  have htable : buildItemTable prefs splits = .ok (itemTable prefs) := buildItemTable_eq prefs hsplits
  rw [runStages]
  simp only [bind_eq_ok]
  refine ⟨itemTable prefs, htable, vs, hvs, cols, hcols, joinedOf vs cols k users, hjoin, ?_⟩
  rw [hagg]
  congr 1
  set joined := joinedOf vs cols k users
  -- a user without partial vectors gets no record
  have hnone : ∀ u, valuesAt u (partialsOf joined) = [] →
      recordOf u (bestOf (candidatesOf (itemTable prefs) (userTotal joined u)) n.toNat) = [] := by
    intro u hu
    rw [candidatesOf_userTotal_of_nil _ hu]
    simp [recordOf, bestOf]
  have hunselected : ∀ u, isSelected users u = false → valuesAt u (partialsOf joined) = [] := by
    intro u hsel
    refine valuesAt_partialsOf_joined cols _ fun c _ => ?_
    rw [valuesAt_ratingsAt, if_neg (by simp [hsel])]
  -- the users with partial vectors are users of the preferences
  have hkeys : keysOf (partialsOf joined) =
      (usersOf prefs).filter fun u => u ∈ keysOf (partialsOf joined) := by
    apply List.SortedLT.eq_of_mem_iff (List.sortedLT_iff_pairwise.2 (pairwise_keysOf _))
      (List.sortedLT_iff_pairwise.2 ((pairwise_usersOf prefs).filter _))
    intro u
    simp only [List.mem_filter, decide_eq_true_eq]
    refine ⟨fun hu => ⟨?_, hu⟩, fun hu => hu.2⟩
    by_contra hnot
    have hvsnil : valuesAt u vs = [] := (valuesAt_eq_nil_iff u vs).2 (by rwa [hV.users])
    have hnil : valuesAt u (partialsOf joined) = [] := by
      refine valuesAt_partialsOf_joined cols _ fun c _ => ?_
      rw [valuesAt_ratingsAt, hvsnil]
      simp
    rw [mem_keysOf] at hu
    exact (valuesAt_eq_nil_iff u _).1 hnil hu
  rw [hkeys, List.flatMap, flatten_map_filter]
  · -- each user of the preferences gets the record of the specification
    have hF : ∀ u ∈ usersOf prefs,
        recordOf u (bestOf (candidatesOf (itemTable prefs) (userTotal joined u)) n.toNat) =
          if isSelected users u = true ∧ (candidates prefs k u).Nonempty then
            [(u, bestOf ((candidates prefs k u).image fun j => ⟨j, score prefs k u j⟩) n.toNat)]
          else [] := by
      intro u hu
      obtain ⟨vec, hvec⟩ := hV.exists_mem hu
      by_cases hsel : isSelected users u = true
      · rw [candidatesOf_userTotal hV hC hvec hsel hfits, recordOf_bestOf u _ (by omega)]
        simp [hsel, Finset.image_nonempty]
      · rw [hnone u (hunselected u (by simpa using hsel))]
        simp [hsel]
    rw [List.map_congr_left hF, flatten_map_ite, recommendations]
    exact List.map_eq_flatMap.symm
  · intro u _ hu
    apply hnone u
    rw [valuesAt_eq_nil_iff, ← mem_keysOf]
    simpa using hu

end ItemRecommender
