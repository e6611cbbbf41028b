import Mathlib
import ItemRecommender.ItemTable
import ItemRecommender.Proofs.Batch.Combine

/-! # The item table

    The indexing stage numbers the distinct item ids in ascending order (`buildItemTable_eq`):
    its table is `assignIndices` of the ids seen, whatever the split count. The rows of that
    table pair position `n` of the ascending distinct ids (`itemOrder`) with the id there, so
    both columns are without repeats and the two lookups invert each other
    (`indexOf?_eq_some_iff_itemAt?`): every id seen has an index, and different indices name
    different ids. `NumbersDensely` gathers these facts, and `buildItemTable_dense_bijective`
    says the stage's table has them all. -/

namespace ItemRecommender

open Batch

variable {α : Type}

/-- The distinct ids, ascending. -/
def itemOrder (ids : List Int) : List Int := ascending ids

theorem pairwise_itemOrder (ids : List Int) : (itemOrder ids).Pairwise (· < ·) :=
  pairwise_ascending ids

@[simp] theorem mem_itemOrder (ids : List Int) (i : Int) : i ∈ itemOrder ids ↔ i ∈ ids := by
  simp [itemOrder]

theorem nodup_itemOrder (ids : List Int) : (itemOrder ids).Nodup :=
  (pairwise_itemOrder ids).imp (fun h => ne_of_lt h)

/-- Dropping repeats keeps the members of a list. -/
theorem mem_dropRepeats (l : List Int) (i : Int) : i ∈ dropRepeats l ↔ i ∈ l := by
  fun_induction dropRepeats l with
  | case1 b rest ih => simp [ih]
  | case2 a b rest hab ih => simp [ih]
  | case3 l _ => rfl

/-- Dropping repeats from an ascending list leaves it strictly ascending. -/
theorem pairwise_dropRepeats {l : List Int} (h : l.Pairwise (· ≤ ·)) :
    (dropRepeats l).Pairwise (· < ·) := by
  fun_induction dropRepeats l with
  | case1 b rest ih => exact ih (List.pairwise_cons.1 h).2
  | case2 a b rest hab ih =>
      refine List.pairwise_cons.2 ⟨fun c hc => ?_, ih (List.pairwise_cons.1 h).2⟩
      rw [mem_dropRepeats] at hc
      have hab' : a < b := lt_of_le_of_ne ((List.pairwise_cons.1 h).1 b (by simp)) hab
      rcases List.mem_cons.1 hc with rfl | hc
      · exact hab'
      · exact lt_of_lt_of_le hab' ((List.pairwise_cons.1 (List.pairwise_cons.1 h).2).1 c hc)
  | case3 l hl =>
      match l, hl with
      | [], _ => exact List.Pairwise.nil
      | [a], _ => exact List.pairwise_singleton _ a
      | _ :: _ :: _, hl => exact absurd rfl (hl _ _ _)

/-- Sorting and dropping repeats gives the distinct ids ascending. -/
theorem dropRepeats_mergeSort (ids : List Int) :
    dropRepeats (ids.mergeSort fun a b => decide (a ≤ b)) = itemOrder ids := by
  apply List.SortedLT.eq_of_mem_iff
  · apply List.sortedLT_iff_pairwise.2
    apply pairwise_dropRepeats
    exact (List.pairwise_mergeSort (fun a b c hab hbc => by simp at *; omega)
      (fun a b => by simp; omega) ids).imp (by simp)
  · exact List.sortedLT_iff_pairwise.2 (pairwise_itemOrder ids)
  · intro i
    rw [mem_dropRepeats, List.mem_mergeSort, mem_itemOrder]

/-- The rows of the table of some ids: each position of `itemOrder` with the id there. -/
theorem assignIndices_rows (ids : List Int) :
    (assignIndices ids).rows = (itemOrder ids).zipIdx.map fun p => ((p.2 : Int), p.1) := by
  rw [assignIndices, dropRepeats_mergeSort]

theorem mem_rows_assignIndices (ids : List Int) (x i : Int) :
    (x, i) ∈ (assignIndices ids).rows ↔ ∃ n : Nat, x = n ∧ (itemOrder ids)[n]? = some i := by
  rw [assignIndices_rows, List.mem_map]
  constructor
  · rintro ⟨⟨j, n⟩, hmem, hxi⟩
    simp only [Prod.mk.injEq] at hxi
    obtain ⟨rfl, rfl⟩ := hxi
    exact ⟨n, rfl, (List.mem_zipIdx_iff_getElem?.1 hmem)⟩
  · rintro ⟨n, rfl, hn⟩
    exact ⟨(i, n), List.mem_zipIdx_iff_getElem?.2 hn, rfl⟩

/-- A search among pairs that can match at most once finds the one match. -/
theorem find?_eq_some_iff_of_unique {ρ : Type} {L : List ρ} {p : ρ → Bool}
    (hunique : ∀ r ∈ L, ∀ r' ∈ L, p r = true → p r' = true → r = r') (r : ρ) :
    L.find? p = some r ↔ r ∈ L ∧ p r = true := by
  constructor
  · intro h
    exact ⟨List.mem_of_find?_eq_some h, List.find?_some h⟩
  · rintro ⟨hr, hp⟩
    obtain ⟨r', hr'⟩ := Option.isSome_iff_exists.1 (List.find?_isSome.2 ⟨r, hr, hp⟩)
    rw [hr', hunique r' (List.mem_of_find?_eq_some hr') r hr (List.find?_some hr') hp]

/-- Two rows of one table with the same index or the same id are the same row. -/
theorem rows_unique (ids : List Int) {a b : Int × Int} (ha : a ∈ (assignIndices ids).rows)
    (hb : b ∈ (assignIndices ids).rows) : (a.1 = b.1 ∨ a.2 = b.2) → a = b := by
  obtain ⟨na, hxa, hia⟩ := (mem_rows_assignIndices ids a.1 a.2).1 ha
  obtain ⟨nb, hxb, hib⟩ := (mem_rows_assignIndices ids b.1 b.2).1 hb
  rintro (h | h)
  · have hn : na = nb := by omega
    subst hn
    rw [hia] at hib
    exact Prod.ext h (Option.some.inj hib)
  · have hn : na = nb := by
      rw [h] at hia
      exact (List.getElem?_inj (List.getElem?_eq_some_iff.1 hia).1 (nodup_itemOrder ids)).1
        (hia.trans hib.symm)
    subst hn
    exact Prod.ext (by omega) h

theorem indexOf?_eq_some_iff (ids : List Int) (i x : Int) :
    (assignIndices ids).indexOf? i = some x ↔ (x, i) ∈ (assignIndices ids).rows := by
  rw [ItemTable.indexOf?, Option.map_eq_some_iff]
  have hunique : ∀ a ∈ (assignIndices ids).rows.reverse, ∀ b ∈ (assignIndices ids).rows.reverse,
      decide (a.2 = i) = true → decide (b.2 = i) = true → a = b := by
    intro a ha b hb hpa hpb
    simp only [decide_eq_true_eq] at hpa hpb
    exact rows_unique ids (List.mem_reverse.1 ha) (List.mem_reverse.1 hb) (Or.inr (hpa.trans hpb.symm))
  constructor
  · rintro ⟨r, hr, rfl⟩
    obtain ⟨hmem, hri⟩ := (find?_eq_some_iff_of_unique hunique r).1 hr
    have : r.2 = i := by simpa using hri
    rw [← this]
    exact List.mem_reverse.1 hmem
  · intro h
    exact ⟨(x, i), (find?_eq_some_iff_of_unique hunique _).2 ⟨List.mem_reverse.2 h, by simp⟩, rfl⟩

theorem itemAt?_eq_some_iff (ids : List Int) (x i : Int) :
    (assignIndices ids).itemAt? x = some i ↔ (x, i) ∈ (assignIndices ids).rows := by
  rw [ItemTable.itemAt?, Option.map_eq_some_iff]
  have hunique : ∀ a ∈ (assignIndices ids).rows.reverse, ∀ b ∈ (assignIndices ids).rows.reverse,
      decide (a.1 = x) = true → decide (b.1 = x) = true → a = b := by
    intro a ha b hb hpa hpb
    simp only [decide_eq_true_eq] at hpa hpb
    exact rows_unique ids (List.mem_reverse.1 ha) (List.mem_reverse.1 hb) (Or.inl (hpa.trans hpb.symm))
  constructor
  · rintro ⟨r, hr, rfl⟩
    obtain ⟨hmem, hrx⟩ := (find?_eq_some_iff_of_unique hunique r).1 hr
    have : r.1 = x := by simpa using hrx
    rw [← this]
    exact List.mem_reverse.1 hmem
  · intro h
    exact ⟨(x, i), (find?_eq_some_iff_of_unique hunique _).2 ⟨List.mem_reverse.2 h, by simp⟩, rfl⟩

/-- **The two lookups of the item table invert each other.** -/
theorem indexOf?_eq_some_iff_itemAt? (ids : List Int) (i x : Int) :
    (assignIndices ids).indexOf? i = some x ↔ (assignIndices ids).itemAt? x = some i := by
  rw [indexOf?_eq_some_iff, itemAt?_eq_some_iff]

/-- The indices of a table are `0, …, m - 1` for its `m` ids. -/
theorem exists_itemAt?_iff (ids : List Int) (x : Int) :
    (∃ i, (assignIndices ids).itemAt? x = some i) ↔ 0 ≤ x ∧ x < (itemOrder ids).length := by
  simp only [itemAt?_eq_some_iff, mem_rows_assignIndices]
  constructor
  · rintro ⟨i, n, rfl, hn⟩
    exact ⟨Int.natCast_nonneg n, by exact_mod_cast (List.getElem?_eq_some_iff.1 hn).1⟩
  · rintro ⟨h0, hlt⟩
    obtain ⟨n, rfl⟩ := Int.eq_ofNat_of_zero_le h0
    have hn : n < (itemOrder ids).length := by exact_mod_cast hlt
    exact ⟨(itemOrder ids)[n], n, rfl, List.getElem?_eq_getElem hn⟩

/-- Every id seen has an index. -/
theorem exists_indexOf? (ids : List Int) {i : Int} (hi : i ∈ ids) :
    ∃ x, (assignIndices ids).indexOf? i = some x := by
  obtain ⟨n, hn⟩ := List.mem_iff_getElem?.1 ((mem_itemOrder ids i).2 hi)
  exact ⟨n, (indexOf?_eq_some_iff ids i n).2 ((mem_rows_assignIndices ids n i).2 ⟨n, rfl, hn⟩)⟩

/-- Only ids seen have an index. -/
theorem mem_of_indexOf? {ids : List Int} {i x : Int}
    (h : (assignIndices ids).indexOf? i = some x) : i ∈ ids := by
  obtain ⟨n, -, hn⟩ := (mem_rows_assignIndices ids x i).1 ((indexOf?_eq_some_iff ids i x).1 h)
  exact (mem_itemOrder ids i).1 (List.mem_of_getElem? hn)

/-- The table depends only on the set of ids. -/
theorem assignIndices_congr {ids ids' : List Int} (h : ∀ i, i ∈ ids ↔ i ∈ ids') :
    assignIndices ids = assignIndices ids' := by
  have hset : ids.toFinset = ids'.toFinset := by
    ext i
    simp [h i]
  rw [ItemTable.mk.injEq, assignIndices_rows, assignIndices_rows, itemOrder, itemOrder, ascending, ascending, hset]

/-- **The indexing stage numbers the distinct item ids in ascending order**, whatever the
split count. -/
theorem buildItemTable_eq (prefs : List (Preference α)) {splits : Int} (hsplits : 1 ≤ splits) :
    buildItemTable prefs splits = .ok (assignIndices (prefs.map (·.item))) := by
  let keep : Int → List Unit → Except Failure (List (Int × Unit)) := fun k _ => pure [(k, ())]
  let stage : Stage Unit Unit := ⟨some keep, keep⟩
  let all := prefs.map fun p => (p.item, ())
  have hall : collect [prefs.map fun p => (pure [(p.item, ())] : Except Failure _)].flatten =
      .ok all := by
    rw [List.flatten_singleton, collect_map_pure]
    exact congrArg Except.ok List.map_eq_flatMap.symm
  have hkeep : ∀ k vs out, keep k vs = .ok out → ∀ r ∈ out, r.1 = k := by
    intro k vs out h r hr
    simp only [keep, pure_eq_ok] at h
    subst h
    simp_all
  obtain ⟨groups, hkv, hkeys, -⟩ :=
    @Stage.keyedValues_summary _ _ stage (fun _ _ => ()) rfl _ _ hall splits
  -- every group is reduced to its key alone
  have hrun : stage.run [prefs.map fun p => pure [(p.item, ())]] splits =
      .ok (groups.map fun g => (g.1, ())) := by
    rw [Stage.run_eq_ok_iff_reduce hsplits hkeep (fun c hc => by cases hc; exact hkeep) hkv,
      collect_map_eq_ok]
    exact ⟨fun g => [(g.1, ())], fun _ _ => rfl, List.map_eq_flatMap⟩
  show (do
      let distinct ← stage.run [prefs.map fun (p : Preference α) => pure [(p.item, ())]] splits
      pure (assignIndices (distinct.map Prod.fst))) = _
  rw [hrun]
  show Except.ok (assignIndices ((groups.map fun g => (g.1, ())).map Prod.fst)) = _
  rw [List.map_map]
  congr 1
  apply assignIndices_congr
  intro i
  have : ((groups.map fun g => (g.1, ())).map Prod.fst) = keysOf all := by
    rw [← hkeys, List.map_map]
    rfl
  rw [List.map_map] at this
  simp [this, all]

/-- A table that numbers the items of some preferences densely from zero, by ids `ids`: its rows
are `(0, ids[0]), (1, ids[1]), …`, the ids ascend strictly and are exactly the items of the
preferences, and the two lookups are inverse bijections between the ids and `0 ≤ x < m`. -/
structure NumbersDensely (prefs : List (Preference α)) (ids : List Int) (t : ItemTable) : Prop where
  rows_eq : t.rows = ids.zipIdx.map fun p => ((p.2 : Int), p.1)
  ascending : ids.Pairwise (· < ·)
  mem_iff : ∀ i, i ∈ ids ↔ ∃ p ∈ prefs, p.item = i
  indexed_iff : ∀ i, (∃ x, t.indexOf? i = some x) ↔ i ∈ ids
  indices_iff : ∀ x, (∃ i, t.itemAt? x = some i) ↔ 0 ≤ x ∧ x < ids.length
  inverse : ∀ i x, t.indexOf? i = some x ↔ t.itemAt? x = some i

/-- **The item table is dense, ordered and bijective**, whatever the split count. -/
theorem buildItemTable_dense_bijective (prefs : List (Preference α)) {splits : Int}
    (hsplits : 1 ≤ splits) :
    ∃ ids t, buildItemTable prefs splits = .ok t ∧ NumbersDensely prefs ids t := by
  let items := prefs.map (·.item)
  refine ⟨itemOrder items, assignIndices items, buildItemTable_eq prefs hsplits,
    ⟨assignIndices_rows items, pairwise_itemOrder items, fun i => by simp [items], fun i => ?_,
      exists_itemAt?_iff items, indexOf?_eq_some_iff_itemAt? items⟩⟩
  rw [mem_itemOrder]
  exact ⟨fun ⟨_, hx⟩ => mem_of_indexOf? hx, exists_indexOf? items⟩

/-- Three preferences, one item rated twice, indexed over three splits. -/
theorem buildItemTable_repeatedItem : (1 : Int) ≤ 3 ∧ ∃ ids t,
    buildItemTable [(⟨1, 30, ()⟩ : Preference Unit), ⟨2, 10, ()⟩, ⟨1, 10, ()⟩] 3 = .ok t ∧
      NumbersDensely [(⟨1, 30, ()⟩ : Preference Unit), ⟨2, 10, ()⟩, ⟨1, 10, ()⟩] ids t :=
  ⟨by decide, buildItemTable_dense_bijective _ (by decide)⟩

end ItemRecommender
