import Mathlib
import ItemRecommender.Cooccurrence
import ItemRecommender.Proofs.Batch.Combine
import ItemRecommender.Proofs.Ledger
import ItemRecommender.Proofs.Recommender.Exact

/-! # Co-occurrence columns

    Columns are added entry by entry (`addInto`): the sum holds a key when either part does,
    whatever the scalars, and over the rationals its value at a key is the sum of the parts'
    values, an absent key counting as zero. The co-occurrence stage then gives, in ascending
    order, a column for every index that some vector of at least two entries holds
    (`buildCooccurrence_eq_ok`); column `x` holds the other indices rated together with `x`
    (`mem_keys_of_cooccurrence`), and over the rationals its value at `j` is the number of
    vectors holding both (`getD_of_cooccurrence`). The combiner's partial sums change
    neither, whatever the split count. -/

namespace ItemRecommender

open Batch

/-! ## Adding columns -/

section Adding

variable {α : Type} [Scalar α]

/-- Adding entries with distinct keys into a ledger, one after the other. -/
theorem get?_foldl_add (es : List (Int × α)) (hes : (es.map Prod.fst).Nodup) (t : Ledger Int α)
    (j : Int) :
    (es.foldl (fun t e => t.alter e.1 fun old => old.getD Scalar.zero + e.2) t).get? j =
      ((es.find? (·.1 = j)).map fun e => (t.get? j).getD Scalar.zero + e.2).or (t.get? j) := by
  induction es generalizing t with
  | nil => simp
  | cons e es ih =>
      rw [List.map_cons, List.nodup_cons] at hes
      rw [List.foldl_cons, ih hes.2, Ledger.get?_alter]
      by_cases hj : j = e.1
      · -- the key of the head does not come again
        subst hj
        have hnone : es.find? (·.1 = e.1) = none := by
          rw [List.find?_eq_none]
          intro e' he' heq
          exact hes.1 (List.mem_map.2 ⟨e', he', by simpa using heq⟩)
        simp [hnone]
      · simp [hj, Ne.symm hj]

/-- **Adding a column**: a key of the added column gets the sum, every other key keeps its
value. -/
@[simp] theorem get?_addInto (total other : Column α) (j : Int) :
    (addInto total other).get? j =
      ((other.get? j).map fun v => (total.get? j).getD Scalar.zero + v).or (total.get? j) := by
  rw [addInto, get?_foldl_add _ other.nodup]
  simp only [Ledger.get?, Option.map_map]
  rfl

theorem mem_keys_addInto (total other : Column α) (j : Int) :
    j ∈ (addInto total other).keys ↔ j ∈ other.keys ∨ j ∈ total.keys := by
  simp only [Ledger.mem_keys_iff, get?_addInto]
  cases other.get? j <;> cases total.get? j <;> simp

theorem mem_keys_foldl_addInto (acc : Column α) (cs : List (Column α)) (j : Int) :
    j ∈ (cs.foldl addInto acc).keys ↔ j ∈ acc.keys ∨ ∃ c ∈ cs, j ∈ c.keys := by
  induction cs generalizing acc with
  | nil => simp
  | cons c cs ih =>
      rw [List.foldl_cons, ih, mem_keys_addInto]
      simp only [List.mem_cons, exists_eq_or_imp]
      tauto

/-- The keys of a sum of columns are those of its parts. -/
@[simp] theorem mem_keys_sumColumns (cs : List (Column α)) (j : Int) :
    j ∈ (sumColumns cs).keys ↔ ∃ c ∈ cs, j ∈ c.keys := by
  simp [sumColumns, mem_keys_foldl_addInto]

/-- Summing block sums has the keys of summing the blocks' columns together. -/
theorem mem_keys_sumColumns_blocks (blocks : List (List (Column α))) (j : Int) :
    j ∈ (sumColumns (blocks.map sumColumns)).keys ↔ ∃ c ∈ blocks.flatten, j ∈ c.keys := by
  simp only [mem_keys_sumColumns, List.mem_map, List.mem_flatten]
  constructor
  · rintro ⟨_, ⟨b, hb, rfl⟩, hj⟩
    obtain ⟨c, hc, hj⟩ := (mem_keys_sumColumns b j).1 hj
    exact ⟨c, ⟨b, hb, hc⟩, hj⟩
  · rintro ⟨c, ⟨b, hb, hc⟩, hj⟩
    exact ⟨_, ⟨b, hb, rfl⟩, (mem_keys_sumColumns b j).2 ⟨c, hc, hj⟩⟩

end Adding

/-! ## Exact sums -/

section Exact

/-- Over the rationals, the value of a sum of two columns at a key is the sum of the values. -/
@[simp] theorem getD_addInto (total other : Column ℚ) (j : Int) :
    ((addInto total other).get? j).getD 0 = (total.get? j).getD 0 + (other.get? j).getD 0 := by
  rw [get?_addInto]
  cases other.get? j <;> cases total.get? j <;> simp

theorem getD_foldl_addInto (acc : Column ℚ) (cs : List (Column ℚ)) (j : Int) :
    ((cs.foldl addInto acc).get? j).getD 0 =
      (acc.get? j).getD 0 + (cs.map fun c => (c.get? j).getD 0).sum := by
  induction cs generalizing acc with
  | nil => simp
  | cons c cs ih =>
      rw [List.foldl_cons, ih, getD_addInto, List.map_cons, List.sum_cons, add_assoc]

/-- Over the rationals, a sum of columns is the sum of their values at each key. -/
@[simp] theorem getD_sumColumns (cs : List (Column ℚ)) (j : Int) :
    ((sumColumns cs).get? j).getD 0 = (cs.map fun c => (c.get? j).getD 0).sum := by
  simp [sumColumns, getD_foldl_addInto]

theorem getD_sumColumns_blocks (blocks : List (List (Column ℚ))) (j : Int) :
    ((sumColumns (blocks.map sumColumns)).get? j).getD 0 =
      (blocks.flatten.map fun c => (c.get? j).getD 0).sum := by
  rw [getD_sumColumns, List.map_map, List.map_flatten, List.sum_flatten, List.map_map]
  congr 1
  apply List.map_congr_left
  intro b _
  simp

end Exact

/-! ## The partial columns of one user -/

/-- The indices of a vector, ascending. -/
theorem mem_sortedIndices {α : Type} (vector : UserVector α) (x : Int) :
    x ∈ vector.keys.mergeSort (fun a b => decide (a ≤ b)) ↔ x ∈ vector.keys :=
  List.mem_mergeSort

section User

variable {α : Type} [Scalar α]

/-- The partial column of `x` that one user adds: a unit for every other index of the vector. -/
theorem valuesAt_userColumns (vector : UserVector α) (x : Int) :
    valuesAt x (userColumns vector) =
      if 2 ≤ vector.size ∧ x ∈ vector.keys then
        [Ledger.ofList (((vector.keys.mergeSort fun a b => decide (a ≤ b)).filter (· ≠ x)).map
          (·, Scalar.one))]
      else [] := by
  have hnodup : (vector.keys.mergeSort fun a b => decide (a ≤ b)).Nodup :=
    (List.mergeSort_perm _ _).nodup_iff.2 vector.nodup
  have hlen : (vector.keys.mergeSort fun a b => decide (a ≤ b)).length = vector.size := by
    simp [Ledger.keys, Ledger.size]
  unfold userColumns
  simp only [hlen]
  by_cases hsize : vector.size < 2
  · rw [if_pos hsize, if_neg (by omega)]
    rfl
  · rw [if_neg hsize]
    simp only [valuesAt, List.filter_map, Function.comp_def, List.map_map]
    -- the index `x` occurs once among the sorted indices, or not at all
    have hfilter := List.filter_eq (l := vector.keys.mergeSort fun a b => decide (a ≤ b)) x
    simp only [hnodup.count, mem_sortedIndices] at hfilter
    by_cases hx : x ∈ vector.keys
    · rw [if_pos ⟨by omega, hx⟩]
      simp only [hx, if_true, List.replicate_one] at hfilter
      simp [hfilter]
    · rw [if_neg (fun h => hx h.2)]
      simp only [hx, if_false, List.replicate_zero] at hfilter
      simp [hfilter]

/-- A unit partial column holds the other indices of the vector. -/
theorem mem_keys_userColumn (vector : UserVector α) (x j : Int) :
    j ∈ (Ledger.ofList (((vector.keys.mergeSort fun a b => decide (a ≤ b)).filter (· ≠ x)).map
      (·, (Scalar.one : α)))).keys ↔ j ∈ vector.keys ∧ j ≠ x := by
  simp [List.map_map, Function.comp_def]

end User

/-! ## The stage -/

section Stage

variable {α : Type} [Scalar α]

/-- The partial columns of all users, in order. -/
def allColumns (vectors : List (Int × UserVector α)) : List (Int × Column α) :=
  (vectors.map fun r => userColumns r.2).flatten

/-- The vectors of at least two entries that hold `x`. -/
def holding (vectors : List (Int × UserVector α)) (x : Int) : List (Int × UserVector α) :=
  vectors.filter fun r => 2 ≤ r.2.size ∧ x ∈ r.2.keys

theorem valuesAt_allColumns (vectors : List (Int × UserVector α)) (x : Int) :
    valuesAt x (allColumns vectors) = (holding vectors x).map fun r =>
      Ledger.ofList (((r.2.keys.mergeSort fun a b => decide (a ≤ b)).filter (· ≠ x)).map
        (·, Scalar.one)) := by
  rw [allColumns, valuesAt_flatten, List.map_map, Function.comp_def]
  simp only [valuesAt_userColumns]
  rw [flatten_map_ite]
  exact List.map_eq_flatMap.symm

/-- The indices that get a column: those of the vectors with at least two entries. -/
theorem mem_keysOf_allColumns (vectors : List (Int × UserVector α)) (x : Int) :
    x ∈ keysOf (allColumns vectors) ↔ ∃ r ∈ vectors, 2 ≤ r.2.size ∧ x ∈ r.2.keys := by
  rw [mem_keysOf, ← not_iff_not, ← valuesAt_eq_nil_iff, valuesAt_allColumns, List.map_eq_nil_iff,
    holding, List.filter_eq_nil_iff]
  simp

/-- Two distinct keys make a vector of at least two entries. -/
theorem two_le_size {β : Type} {vector : UserVector β} {x j : Int} (hx : x ∈ vector.keys)
    (hj : j ∈ vector.keys) (hne : j ≠ x) : 2 ≤ vector.size := by
  have hlen : vector.size = vector.keys.length := by simp [Ledger.size, Ledger.keys]
  rw [hlen]
  generalize vector.keys = keys at hx hj
  rcases keys with _ | ⟨a, _ | ⟨b, rest⟩⟩
  · simp at hx
  · simp only [List.mem_singleton] at hx hj
    exact absurd (hj.trans hx.symm) hne
  · simp

/-- The stage run in blocks: each column sums the block sums of its partial columns. -/
theorem buildCooccurrence_blocks (vectors : List (Int × UserVector α)) {splits : Int}
    (hsplits : 1 ≤ splits) :
    ∃ cols, buildCooccurrence vectors splits = .ok cols ∧
      cols.map Prod.fst = keysOf (allColumns vectors) ∧
      ∀ c ∈ cols, ∃ blocks : List (List (Column α)),
        blocks.flatten = valuesAt c.1 (allColumns vectors) ∧ c.2 = sumColumns (blocks.map sumColumns) := by
  let sum : Int → List (Column α) → Except Failure (List (Int × Column α)) :=
    fun index cs => pure [(index, sumColumns cs)]
  let stage : Stage (Column α) (Column α) := ⟨some sum, sum⟩
  have hall : collect [vectors.map fun r => (pure (userColumns r.2) : Except Failure _)].flatten =
      .ok (allColumns vectors) := by
    rw [List.flatten_singleton, collect_map_pure]
    rfl
  have hsum : ∀ k vs out, sum k vs = .ok out → ∀ r ∈ out, r.1 = k := by
    intro k vs out h r hr
    simp only [sum, pure_eq_ok] at h
    subst h
    simp_all
  obtain ⟨groups, hkv, hkeys, hblocks⟩ :=
    @Stage.keyedValues_summary _ _ stage (fun _ cs => sumColumns cs) rfl _ _ hall splits
  have hrun : stage.run [vectors.map fun r => pure (userColumns r.2)] splits =
      .ok (groups.map fun g => (g.1, sumColumns g.2)) := by
    rw [Stage.run_eq_ok_iff_reduce hsplits hsum (fun c hc => by cases hc; exact hsum) hkv,
      collect_map_eq_ok]
    exact ⟨fun g => [(g.1, sumColumns g.2)], fun _ _ => rfl, List.map_eq_flatMap⟩
  refine ⟨_, hrun, by rw [← hkeys, List.map_map]; rfl, ?_⟩
  intro c hc
  obtain ⟨g, hg, rfl⟩ := List.mem_map.1 hc
  obtain ⟨blocks, hflat, -, hout⟩ := hblocks g hg
  exact ⟨blocks, hflat, by rw [hout]⟩

/-- **The co-occurrence stage**, whatever the split count: a column for every index held by a
vector of at least two entries, ascending, and column `x` holds every other index that some
vector holds together with `x`. -/
theorem buildCooccurrence_eq_ok (vectors : List (Int × UserVector α)) {splits : Int}
    (hsplits : 1 ≤ splits) :
    ∃ cols, buildCooccurrence vectors splits = .ok cols ∧ (cols.map Prod.fst).Pairwise (· < ·) ∧
      (∀ x, x ∈ cols.map Prod.fst ↔ ∃ r ∈ vectors, 2 ≤ r.2.size ∧ x ∈ r.2.keys) ∧
      ∀ c ∈ cols, ∀ j, j ∈ c.2.keys ↔ j ≠ c.1 ∧ ∃ r ∈ vectors, c.1 ∈ r.2.keys ∧ j ∈ r.2.keys := by
  obtain ⟨cols, hrun, hkeys, hcols⟩ := buildCooccurrence_blocks vectors hsplits
  refine ⟨cols, hrun, hkeys ▸ pairwise_keysOf _, fun x => by rw [hkeys, mem_keysOf_allColumns],
    fun c hc j => ?_⟩
  obtain ⟨blocks, hflat, hsum⟩ := hcols c hc
  rw [hsum, mem_keys_sumColumns_blocks, hflat, valuesAt_allColumns]
  simp only [List.mem_map, holding, List.mem_filter, decide_eq_true_eq]
  constructor
  · rintro ⟨_, ⟨r, ⟨hr, -, hx⟩, rfl⟩, hj⟩
    rw [mem_keys_userColumn] at hj
    exact ⟨hj.2, r, hr, hx, hj.1⟩
  · rintro ⟨hne, r, hr, hx, hj⟩
    exact ⟨_, ⟨r, ⟨hr, two_le_size hx hj hne, hx⟩, rfl⟩, (mem_keys_userColumn r.2 c.1 j).2 ⟨hj, hne⟩⟩

end Stage

/-- Summing ones over the members that pass a test counts them. -/
theorem sum_map_ite_one {ρ R : Type} [AddCommMonoidWithOne R] (l : List ρ) (p : ρ → Prop)
    [DecidablePred p] :
    (l.map fun r => if p r then (1 : R) else 0).sum = ((l.filter fun r => p r).length : R) := by
  induction l with
  | nil => simp
  | cons r l ih =>
      by_cases hr : p r
      · simp [hr, ih, add_comm]
      · simp [hr, ih]

/-- **Co-occurrence counts are exact over the rationals**: column `x` holds at `j ≠ x` the
number of vectors that hold both. -/
theorem getD_of_buildCooccurrence (vectors : List (Int × UserVector ℚ)) {splits : Int}
    (hsplits : 1 ≤ splits) :
    ∃ cols, buildCooccurrence vectors splits = .ok cols ∧ ∀ c ∈ cols, ∀ j, (c.2.get? j).getD 0 =
      if j = c.1 then 0 else ((vectors.filter fun r => c.1 ∈ r.2.keys ∧ j ∈ r.2.keys).length : ℚ) := by
  obtain ⟨cols, hrun, -, hcols⟩ := buildCooccurrence_blocks vectors hsplits
  refine ⟨cols, hrun, fun c hc j => ?_⟩
  obtain ⟨blocks, hflat, hsum⟩ := hcols c hc
  rw [hsum, getD_sumColumns_blocks, hflat, valuesAt_allColumns, List.map_map]
  -- each vector holding `c.1` adds one unit at every other index it holds
  rw [List.map_congr_left (g := fun r => if j ≠ c.1 ∧ j ∈ r.2.keys then (1 : ℚ) else 0)]
  · rw [sum_map_ite_one, holding, List.filter_filter]
    split
    · rename_i hj
      simp [hj]
    · rename_i hj
      congr 2
      apply List.filter_congr
      intro r _
      by_cases hx : c.1 ∈ r.2.keys
      · by_cases hjr : j ∈ r.2.keys
        · simp [hx, hjr, hj, two_le_size hx hjr hj]
        · simp [hjr]
      · simp [hx]
  · intro r _
    simp only [Function.comp_apply, Ledger.get?_ofList_const, List.mem_filter, mem_sortedIndices]
    by_cases hj : j = c.1 <;> by_cases hjr : j ∈ r.2.keys <;> simp [hj, hjr]

end ItemRecommender
