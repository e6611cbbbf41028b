import Mathlib
import ItemRecommender.Proofs.Recommender.Cooccurrence

/-! # Co-occurrence counts in a scalar that counts exactly

    Co-occurrence adds units. In a scalar where `count n` stands for the number `n` and counts
    add exactly while their sum stays below a bound (`CountsExactly`: doubles below `2^53`, the
    rationals always), every column the stage builds holds counts:

    * a column `Counts` a function `n` when it holds `count (n j)` at every key `j` with
      `n j ≠ 0` and no other key; adding such columns adds the functions (`counts_addInto`,
      `counts_sumColumns`), since every running total stays below the final one;
    * a partial column of one user is a unit column, so a sum of sums of partial columns, cut
      into blocks in any way, counts the partial columns holding each key
      (`counts_sumColumns_blocks`);
    * the stage, with its combiner for any split count or without it, gives column `i` the count
      of vectors holding `i` and `j` at each `j ≠ i` they share (`CooccurrenceOf`), and these
      counts are symmetric (`countAt_symm`). -/

namespace ItemRecommender

open Batch

variable {α : Type} [Scalar α]

/-! ## Counting columns -/

section Counting

/-- A scalar in which `count n` stands for the number `n`: `count 0` is zero, `count 1` is one,
and counts add exactly while their sum stays below `bound`. -/
structure CountsExactly (count : Nat → α) (bound : Nat) : Prop where
  zero : count 0 = Scalar.zero
  one : count 1 = Scalar.one
  add : ∀ a b, a + b < bound → count a + count b = count (a + b)

variable {count : Nat → α} {bound : Nat}

/-- A column holding the count `n j` at each key `j` where `n j` is not zero, and no other
key. -/
def Counts (count : Nat → α) (n : Int → Nat) (c : Column α) : Prop :=
  ∀ j, c.get? j = if n j = 0 then none else some (count (n j))

omit [Scalar α] in
theorem counts_empty : Counts count (fun _ => 0) (Ledger.empty : Column α) := by
  intro j
  simp

/-- A column holding one unit at each of its keys counts one there. -/
theorem counts_unit (hcount : CountsExactly count bound) {c : Column α}
    (hc : ∀ j v, c.get? j = some v → v = Scalar.one) :
    Counts count (fun j => if j ∈ c.keys then 1 else 0) c := by
  intro j
  by_cases hj : j ∈ c.keys
  · obtain ⟨v, hv⟩ := (Ledger.mem_keys_iff c j).1 hj
    simp [hj, hv, hc j v hv, hcount.one]
  · simp [hj, (Ledger.get?_eq_none_iff c j).2 hj]

/-- **Adding a counting column** adds the counts, where a sum stays below the bound. -/
theorem counts_addInto (hcount : CountsExactly count bound) {n m : Int → Nat} {c d : Column α}
    (hc : Counts count n c) (hd : Counts count m d) (hb : ∀ j, 0 < m j → n j + m j < bound) :
    Counts count (fun j => n j + m j) (addInto c d) := by
  intro j
  rw [get?_addInto, hc j, hd j]
  by_cases hm : m j = 0
  · simp [hm]
  by_cases hn : n j = 0
  · -- a key new to the total starts from zero, which is the count of nothing
    have hadd := hcount.add 0 (m j) (by simpa [hn] using hb j (by omega))
    rw [hcount.zero, Nat.zero_add] at hadd
    simp [hn, hm, hadd]
  · simp [hn, hm, hcount.add (n j) (m j) (hb j (by omega))]

/-- Adding counting columns into a counting total, one after the other. -/
theorem counts_foldl_addInto (hcount : CountsExactly count bound) {ι : Type} (col : ι → Column α)
    (N : ι → Int → Nat) (xs : List ι) (hxs : ∀ x ∈ xs, Counts count (N x) (col x))
    (acc : Column α) (n : Int → Nat) (hacc : Counts count n acc)
    (hb : ∀ j, 0 < (xs.map (N · j)).sum → n j + (xs.map (N · j)).sum < bound) :
    Counts count (fun j => n j + (xs.map (N · j)).sum) ((xs.map col).foldl addInto acc) := by
  induction xs generalizing acc n with
  | nil => simpa using hacc
  | cons x xs ih =>
      simp only [List.map_cons, List.sum_cons, List.foldl_cons] at hb ⊢
      -- the running total after `x` stays below the final one
      have hstep := counts_addInto hcount hacc (hxs x (List.mem_cons_self ..)) fun j hj => by
        have := hb j (by omega)
        omega
      have hrest := ih (fun y hy => hxs y (List.mem_cons_of_mem x hy)) _ _ hstep fun j hj => by
        have := hb j (by omega)
        omega
      simpa only [Nat.add_assoc] using hrest

/-- **Summing counting columns** counts the sum, where the sum stays below the bound. -/
theorem counts_sumColumns (hcount : CountsExactly count bound) {ι : Type} (col : ι → Column α)
    (N : ι → Int → Nat) (xs : List ι) (hxs : ∀ x ∈ xs, Counts count (N x) (col x))
    (hb : ∀ j, 0 < (xs.map (N · j)).sum → (xs.map (N · j)).sum < bound) :
    Counts count (fun j => (xs.map (N · j)).sum) (sumColumns (xs.map col)) := by
  have h := counts_foldl_addInto hcount col N xs hxs Ledger.empty (fun _ => 0) counts_empty
    (by simpa using hb)
  simp only [Nat.zero_add] at h
  exact h

/-- The units a list of unit columns holds at `j`. -/
def unitsAt (cs : List (Column α)) (j : Int) : Nat :=
  (cs.map fun c => if j ∈ c.keys then 1 else 0).sum

/-- **Sums of block sums of unit columns** count the columns holding each key, whatever the
blocks. -/
theorem counts_sumColumns_blocks (hcount : CountsExactly count bound)
    (blocks : List (List (Column α)))
    (hunit : ∀ c ∈ blocks.flatten, ∀ j v, c.get? j = some v → v = Scalar.one)
    (hb : ∀ j, 0 < unitsAt blocks.flatten j → unitsAt blocks.flatten j < bound) :
    Counts count (unitsAt blocks.flatten) (sumColumns (blocks.map sumColumns)) := by
  have htotal : ∀ j, (blocks.map (unitsAt · j)).sum = unitsAt blocks.flatten j := by
    intro j
    simp only [unitsAt, List.map_flatten, List.sum_flatten, List.map_map, Function.comp_def]
  -- each block counts its own units, which are part of the total
  have hblock : ∀ b ∈ blocks, Counts count (unitsAt b) (sumColumns b) := by
    intro b hb'
    have hsub : ∀ j, unitsAt b j ≤ unitsAt blocks.flatten j := by
      intro j
      rw [← htotal j]
      exact List.le_sum_of_mem (List.mem_map_of_mem hb')
    have h := counts_sumColumns hcount id (fun c j => if j ∈ c.keys then 1 else 0) b
      (fun c hc => counts_unit hcount (hunit c (List.mem_flatten.2 ⟨b, hb', hc⟩)))
      fun j hj => lt_of_le_of_lt (hsub j) (hb j (lt_of_lt_of_le hj (hsub j)))
    rw [List.map_id] at h
    exact h
  have hsum := counts_sumColumns hcount sumColumns unitsAt blocks hblock fun j hj => by
    rw [htotal j] at hj ⊢
    exact hb j hj
  simpa only [htotal] using hsum

end Counting

/-! ## The stage -/

section Stage

variable {count : Nat → α} {bound : Nat}

/-- How many vectors hold both `i` and `j`. -/
def together (vectors : List (Int × UserVector α)) (i j : Int) : Nat :=
  (vectors.filter fun r => i ∈ r.2.keys ∧ j ∈ r.2.keys).length

omit [Scalar α] in
theorem together_comm (vectors : List (Int × UserVector α)) (i j : Int) :
    together vectors i j = together vectors j i := by
  unfold together
  congr 1
  exact List.filter_congr fun r _ => by simp [and_comm]

/-- The partial columns of `k` hold a unit at `j ≠ k` for every vector holding both. -/
theorem unitsAt_allColumns (vectors : List (Int × UserVector α)) (k j : Int) :
    unitsAt (valuesAt k (allColumns vectors)) j = if j = k then 0 else together vectors k j := by
  rw [unitsAt, valuesAt_allColumns, List.map_map]
  -- each vector holding `k` adds one unit at every other index it holds
  rw [List.map_congr_left (g := fun r => if j ≠ k ∧ j ∈ r.2.keys then (1 : Nat) else 0)]
  · rw [sum_map_ite_one, holding, List.filter_filter, Nat.cast_id]
    split
    · rename_i hj
      simp [hj]
    · rename_i hj
      unfold together
      congr 1
      apply List.filter_congr
      intro r _
      by_cases hx : k ∈ r.2.keys
      · by_cases hjr : j ∈ r.2.keys
        · simp [hx, hjr, hj, two_le_size hx hjr hj]
        · simp [hjr]
      · simp [hx]
  · intro r _
    simp only [Function.comp_apply, mem_keys_userColumn]
    by_cases hj : j = k <;> by_cases hjr : j ∈ r.2.keys <;> simp [hj, hjr]

/-- Every partial column holds one unit at each of its keys. -/
theorem unit_of_mem_allColumns {vectors : List (Int × UserVector α)} {k : Int} {c : Column α}
    (hc : c ∈ valuesAt k (allColumns vectors)) : ∀ j v, c.get? j = some v → v = Scalar.one := by
  rw [valuesAt_allColumns] at hc
  obtain ⟨r, -, rfl⟩ := List.mem_map.1 hc
  intro j v hv
  rw [Ledger.get?_ofList_const] at hv
  split at hv
  · exact (Option.some.inj hv).symm
  · cases hv

/-- Without its combiner, the stage sums the partial columns of each index at once. -/
theorem plainCooccurrence_eq_ok (vectors : List (Int × UserVector α)) {splits : Int}
    (hsplits : 1 ≤ splits) :
    (⟨none, fun index cs => pure [(index, sumColumns cs)]⟩ : Stage (Column α) (Column α)).run
      [vectors.map fun r => pure (userColumns r.2)] splits =
    .ok ((keysOf (allColumns vectors)).map fun k => (k, sumColumns (valuesAt k (allColumns vectors)))) := by
  let stage : Stage (Column α) (Column α) := ⟨none, fun index cs => pure [(index, sumColumns cs)]⟩
  have hall : collect [vectors.map fun r => (pure (userColumns r.2) : Except Failure _)].flatten =
      .ok (allColumns vectors) := by
    rw [List.flatten_singleton, collect_map_pure]
    rfl
  have hsum : ∀ k vs out, stage.reducer k vs = .ok out → ∀ r ∈ out, r.1 = k := by
    intro k vs out h r hr
    simp only [stage, pure_eq_ok] at h
    subst h
    simp_all
  show stage.run _ splits = _
  rw [Stage.run_eq_ok_iff_reduce hsplits hsum (fun c hc => by cases hc)
    (Stage.keyedValues_none rfl hall splits), collect_map_eq_ok]
  refine ⟨fun g => [(g.1, sumColumns g.2)], fun _ _ => rfl, ?_⟩
  rw [groupsOf, List.map_map, List.map_eq_flatMap]
  rfl

end Stage

/-! ## What the stage computes -/

section Spec

variable {count : Nat → α} {bound : Nat}

/-- The count a list of columns holds at `(i, j)`: the value of column `i` at `j`, if there is
such a column and it holds `j`. -/
def countAt (cols : List (Int × Column α)) (i j : Int) : Option α :=
  (cols.find? (·.1 = i)).bind fun c => c.2.get? j

/-- Co-occurrence columns of `vectors` counted by `count`: ascending, one for every index held by
a vector of at least two entries, and column `i` holding, at each `j ≠ i` that some vector holds
together with `i`, the count of such vectors, and no other key. -/
structure CooccurrenceOf (count : Nat → α) (vectors : List (Int × UserVector α))
    (cols : List (Int × Column α)) : Prop where
  ascending : (cols.map Prod.fst).Pairwise (· < ·)
  mem_iff : ∀ i, i ∈ cols.map Prod.fst ↔ ∃ r ∈ vectors, 2 ≤ r.2.size ∧ i ∈ r.2.keys
  get?_eq : ∀ c ∈ cols, ∀ j, c.2.get? j =
    if j ≠ c.1 ∧ 0 < together vectors c.1 j then some (count (together vectors c.1 j)) else none

/-- Columns on the indices of the partial columns, each counting the partial columns of its
index, are the co-occurrence columns. -/
theorem cooccurrenceOf_of_counts {vectors : List (Int × UserVector α)} {cols : List (Int × Column α)}
    (hkeys : cols.map Prod.fst = keysOf (allColumns vectors))
    (hcols : ∀ c ∈ cols, Counts count (unitsAt (valuesAt c.1 (allColumns vectors))) c.2) :
    CooccurrenceOf count vectors cols where
  ascending := hkeys ▸ pairwise_keysOf _
  mem_iff := fun i => by rw [hkeys, mem_keysOf_allColumns]
  get?_eq := by
    intro c hc j
    rw [hcols c hc j, unitsAt_allColumns]
    by_cases hj : j = c.1
    · simp [hj]
    · by_cases hz : together vectors c.1 j = 0 <;> simp [hj, hz, Nat.pos_iff_ne_zero]

omit [Scalar α] in
/-- **Reading the columns at a pair**: the count of the vectors holding both, for two distinct
indices that some vector holds together, and nothing otherwise. -/
theorem CooccurrenceOf.countAt_eq {vectors : List (Int × UserVector α)}
    {cols : List (Int × Column α)} (h : CooccurrenceOf count vectors cols) (i j : Int) :
    countAt cols i j =
      if i ≠ j ∧ 0 < together vectors i j then some (count (together vectors i j)) else none := by
  unfold countAt
  cases hfind : cols.find? (·.1 = i) with
  | some c =>
      have hci : c.1 = i := by simpa using List.find?_some hfind
      rw [Option.bind_some, h.get?_eq c (List.mem_of_find?_eq_some hfind), hci]
      simp only [ne_comm]
  | none =>
      -- a pair held together makes a vector of two entries, so `i` would have a column
      rw [Option.bind_none, if_neg]
      rintro ⟨hij, hpos⟩
      obtain ⟨r, hr, hi, hj⟩ : ∃ r ∈ vectors, i ∈ r.2.keys ∧ j ∈ r.2.keys := by
        simpa [together, List.length_pos_iff_exists_mem] using hpos
      obtain ⟨c, hc, hci⟩ := List.mem_map.1 ((h.mem_iff i).2 ⟨r, hr, two_le_size hi hj (Ne.symm hij), hi⟩)
      exact List.find?_eq_none.1 hfind c hc (by simp [hci])

omit [Scalar α] in
/-- **Co-occurrence is symmetric.** -/
theorem CooccurrenceOf.countAt_symm {vectors : List (Int × UserVector α)}
    {cols : List (Int × Column α)} (h : CooccurrenceOf count vectors cols) (i j : Int) :
    countAt cols i j = countAt cols j i := by
  rw [h.countAt_eq, h.countAt_eq, together_comm]
  simp only [ne_comm]

omit [Scalar α] in
/-- Two lists of co-occurrence columns of the same vectors have the same indices. -/
theorem CooccurrenceOf.keys_eq {vectors : List (Int × UserVector α)}
    {cols cols' : List (Int × Column α)} (h : CooccurrenceOf count vectors cols)
    (h' : CooccurrenceOf count vectors cols') : cols.map Prod.fst = cols'.map Prod.fst :=
  List.SortedLT.eq_of_mem_iff (List.sortedLT_iff_pairwise.2 h.ascending)
    (List.sortedLT_iff_pairwise.2 h'.ascending) fun i => (h.mem_iff i).trans (h'.mem_iff i).symm

end Spec

/-! ## The stage counts co-occurrences -/

section Exact

variable {count : Nat → α} {bound : Nat}

/-- With its combiner, the stage counts co-occurrences whatever the split count. -/
theorem buildCooccurrence_cooccurrenceOf (hcount : CountsExactly count bound)
    (vectors : List (Int × UserVector α)) {splits : Int} (hsplits : 1 ≤ splits)
    (hbound : ∀ i j, i ≠ j → together vectors i j < bound) :
    ∃ cols, buildCooccurrence vectors splits = .ok cols ∧ CooccurrenceOf count vectors cols := by
  obtain ⟨cols, hrun, hkeys, hcols⟩ := buildCooccurrence_blocks vectors hsplits
  refine ⟨cols, hrun, cooccurrenceOf_of_counts hkeys fun c hc => ?_⟩
  obtain ⟨blocks, hflat, hsum⟩ := hcols c hc
  rw [hsum, ← hflat]
  refine counts_sumColumns_blocks hcount blocks (fun d hd => unit_of_mem_allColumns (hflat ▸ hd))
    fun j hj => ?_
  rw [hflat, unitsAt_allColumns] at hj ⊢
  by_cases hjc : j = c.1
  · rw [if_pos hjc] at hj
    omega
  · rw [if_neg hjc]
    exact hbound c.1 j (Ne.symm hjc)

/-- Without its combiner, the stage counts co-occurrences as well. -/
theorem plainCooccurrence_cooccurrenceOf (hcount : CountsExactly count bound)
    (vectors : List (Int × UserVector α)) {splits : Int} (hsplits : 1 ≤ splits)
    (hbound : ∀ i j, i ≠ j → together vectors i j < bound) :
    ∃ cols, (⟨none, fun index cs => pure [(index, sumColumns cs)]⟩ : Stage (Column α) (Column α)).run
      [vectors.map fun r => pure (userColumns r.2)] splits = .ok cols ∧
      CooccurrenceOf count vectors cols := by
  refine ⟨_, plainCooccurrence_eq_ok vectors hsplits,
    cooccurrenceOf_of_counts (by rw [List.map_map]; exact List.map_id' _) fun c hc => ?_⟩
  obtain ⟨k, -, rfl⟩ := List.mem_map.1 hc
  have h := counts_sumColumns hcount id (fun d j => if j ∈ d.keys then 1 else 0)
    (valuesAt k (allColumns vectors)) (fun d hd => counts_unit hcount (unit_of_mem_allColumns hd))
    fun j hj => by
      change 0 < unitsAt _ j at hj
      change unitsAt _ j < bound
      rw [unitsAt_allColumns] at hj ⊢
      by_cases hjk : j = k
      · rw [if_pos hjk] at hj
        omega
      · rw [if_neg hjk]
        exact hbound k j (Ne.symm hjk)
  rw [List.map_id] at h
  exact h

/-- **Co-occurrence counting.** In a scalar that counts exactly below `bound`, with every count of
vectors sharing two distinct indices below it, the stage gives, for every split count, the
columns in ascending index order, one for each index of a vector with at least two entries,
column `i` holding at each `j ≠ i` the count of the vectors holding both and no other key; the
counts are symmetric, and the same columns come out for every split count and without the
combiner. -/
theorem buildCooccurrence_counts_exactly (hcount : CountsExactly count bound)
    (vectors : List (Int × UserVector α)) {splits : Int} (hsplits : 1 ≤ splits)
    (hbound : ∀ i j, i ≠ j → together vectors i j < bound) :
    ∃ cols, buildCooccurrence vectors splits = .ok cols ∧ CooccurrenceOf count vectors cols ∧
      (∀ i j, countAt cols i j = countAt cols j i) ∧
      (∀ splits', 1 ≤ splits' → ∃ cols', buildCooccurrence vectors splits' = .ok cols' ∧
        cols'.map Prod.fst = cols.map Prod.fst ∧ ∀ i j, countAt cols' i j = countAt cols i j) ∧
      ∃ plain, (⟨none, fun index cs => pure [(index, sumColumns cs)]⟩ :
          Stage (Column α) (Column α)).run [vectors.map fun r => pure (userColumns r.2)] splits =
        .ok plain ∧ plain.map Prod.fst = cols.map Prod.fst ∧
        ∀ i j, countAt plain i j = countAt cols i j := by
  obtain ⟨cols, hrun, hspec⟩ := buildCooccurrence_cooccurrenceOf hcount vectors hsplits hbound
  obtain ⟨plain, hplain, hspec'⟩ := plainCooccurrence_cooccurrenceOf hcount vectors hsplits hbound
  refine ⟨cols, hrun, hspec, hspec.countAt_symm, fun splits' hsplits' => ?_,
    plain, hplain, hspec'.keys_eq hspec, fun i j => by rw [hspec'.countAt_eq, hspec.countAt_eq]⟩
  obtain ⟨cols', hrun', hspec''⟩ := buildCooccurrence_cooccurrenceOf hcount vectors hsplits' hbound
  exact ⟨cols', hrun', hspec''.keys_eq hspec, fun i j => by rw [hspec''.countAt_eq, hspec.countAt_eq]⟩

/-- The rationals count exactly, with no bound. -/
theorem countsExactly_rat (bound : Nat) : CountsExactly (Nat.cast : Nat → ℚ) bound :=
  ⟨Nat.cast_zero, Nat.cast_one, fun a b _ => (Nat.cast_add a b).symm⟩

/-- Three users: two share items `10` and `11`, the second also rates `12`, and the third rates
`12` alone. -/
def threeUsers : List (Int × UserVector ℚ) :=
  [(1, Ledger.ofList [(10, .value 1), (11, .value 2)]),
   (2, Ledger.ofList [(10, .value 1), (11, .excluded), (12, .value 0)]),
   (3, Ledger.ofList [(12, .value 5)])]

/-- The three users counted over the rationals with two splits, each count below `2^53`. -/
theorem buildCooccurrence_threeUsers :
    CountsExactly (Nat.cast : Nat → ℚ) (2 ^ 53) ∧ (1 : Int) ≤ 2 ∧
    (∀ i j, i ≠ j → together threeUsers i j < 2 ^ 53) ∧
    ∃ cols, buildCooccurrence threeUsers 2 = .ok cols ∧
      CooccurrenceOf (Nat.cast : Nat → ℚ) threeUsers cols ∧
      (∀ i j, countAt cols i j = countAt cols j i) ∧
      (∀ splits', 1 ≤ splits' → ∃ cols', buildCooccurrence threeUsers splits' = .ok cols' ∧
        cols'.map Prod.fst = cols.map Prod.fst ∧ ∀ i j, countAt cols' i j = countAt cols i j) ∧
      ∃ plain, (⟨none, fun index cs => pure [(index, sumColumns cs)]⟩ :
          Stage (Column ℚ) (Column ℚ)).run [threeUsers.map fun r => pure (userColumns r.2)] 2 =
        .ok plain ∧ plain.map Prod.fst = cols.map Prod.fst ∧
        ∀ i j, countAt plain i j = countAt cols i j := by
  have hbound : ∀ i j, i ≠ j → together threeUsers i j < 2 ^ 53 := fun i j _ =>
    lt_of_le_of_lt (List.length_filter_le _ _) (by norm_num [threeUsers])
  exact ⟨countsExactly_rat _, by decide, hbound,
    buildCooccurrence_counts_exactly (countsExactly_rat _) threeUsers (by decide) hbound⟩

end Exact

end ItemRecommender
