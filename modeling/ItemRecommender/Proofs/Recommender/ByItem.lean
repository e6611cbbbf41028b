import Mathlib
import ItemRecommender.Proofs.Recommender.Reference
import ItemRecommender.Proofs.Recommender.ItemTable
import ItemRecommender.Proofs.Recommender.Cooccurrence
import ItemRecommender.Proofs.Recommender.Join

/-! # The stages read by item

    The item table numbers the items of the preferences, so the vectors and columns, which are
    keyed by index, can be read by item. The vector stage gives every user of the preferences one
    vector, holding at the index of each of the user's items the value of the user's last
    preference for it and nothing elsewhere (`VectorsOf`, met by `buildUserVectors_vectorsOf`).
    A sum over the indices of such a vector is a sum over the user's items (`VectorsOf.sum_keys`);
    that is how pruning by index keeps exactly the items of `kept` (`VectorsOf.prunedSlot_value`).
    Over the rationals a column counts, at every other index, the vectors that hold both
    (`ColumnsOf`), which read by item is the co-occurrence count (`ColumnsOf.getD_of_itemAt?`). -/

namespace ItemRecommender

open Batch Reference

section Table

variable {α : Type} (prefs : List (Preference α))

/-- The item table of some preferences. -/
def itemTable : ItemTable := assignIndices (prefs.map (·.item))

/-- The item at an index of the table, zero at an index it does not have. -/
def itemAt (x : Int) : Int := ((itemTable prefs).itemAt? x).getD 0

/-- The index of an item, zero for an item the table does not have. -/
def indexAt (i : Int) : Int := ((itemTable prefs).indexOf? i).getD 0

variable {prefs}

theorem indexOf?_itemTable {i x : Int} :
    (itemTable prefs).indexOf? i = some x ↔ (itemTable prefs).itemAt? x = some i :=
  indexOf?_eq_some_iff_itemAt? _ i x

theorem mem_items_of_itemAt? {x i : Int} (h : (itemTable prefs).itemAt? x = some i) :
    i ∈ items prefs := by
  have hmem := mem_of_indexOf? (indexOf?_itemTable.2 h)
  simpa using hmem

theorem itemAt?_indexAt {i : Int} (hi : i ∈ items prefs) :
    (itemTable prefs).itemAt? (indexAt prefs i) = some i := by
  obtain ⟨x, hx⟩ := exists_indexOf? (prefs.map (·.item)) (by simpa using hi)
  have hx' : (itemTable prefs).indexOf? i = some x := hx
  rw [indexAt, hx', Option.getD_some]
  exact indexOf?_itemTable.1 hx'

theorem itemAt_eq {x i : Int} (h : (itemTable prefs).itemAt? x = some i) : itemAt prefs x = i := by
  simp [itemAt, h]

theorem indexAt_eq {x i : Int} (h : (itemTable prefs).itemAt? x = some i) : indexAt prefs i = x := by
  simp [indexAt, indexOf?_itemTable.2 h]

theorem itemAt?_inj {x y i : Int} (hx : (itemTable prefs).itemAt? x = some i)
    (hy : (itemTable prefs).itemAt? y = some i) : x = y :=
  (indexAt_eq hx).symm.trans (indexAt_eq hy)

/-- A user vector's slot at the index of an item is that of the last pair for the item. -/
theorem slotAt_itemTable (values : List (Int × α)) {x i : Int}
    (hx : (itemTable prefs).itemAt? x = some i) :
    slotAt (itemTable prefs) values x =
      ((values.filter fun p => p.1 = i).getLast?).map fun p => .value p.2 := by
  have hpred : ∀ p : Int × α, (itemTable prefs).indexOf? p.1 = some x ↔ p.1 = i := by
    intro p
    rw [indexOf?_itemTable, hx, Option.some.injEq, eq_comm]
  simp only [slotAt, hpred, ← List.head?_filter, List.filter_reverse, List.head?_reverse]

/-- No pair reaches an index the table does not have. -/
theorem slotAt_itemTable_none (values : List (Int × α)) {x : Int}
    (hx : (itemTable prefs).itemAt? x = none) : slotAt (itemTable prefs) values x = none := by
  have hpred : ∀ p : Int × α, (itemTable prefs).indexOf? p.1 ≠ some x := by
    intro p hp
    rw [indexOf?_itemTable, hx] at hp
    cases hp
  simp [slotAt, hpred]

end Table

/-- A key of records with distinct keys has the one value it is listed with. -/
theorem valuesAt_eq_singleton {γ : Type} {l : List (Int × γ)} (hl : (l.map Prod.fst).Nodup)
    {k : Int} {v : γ} (h : (k, v) ∈ l) : valuesAt k l = [v] := by
  have hmem : (k, v) ∈ l.filter fun c => c.1 = k := List.mem_filter.2 ⟨h, by simp⟩
  rcases filter_key_eq_nil_or_singleton l hl k with hnil | ⟨c, hc⟩
  · rw [hnil] at hmem
    cases hmem
  · rw [hc, List.mem_singleton] at hmem
    rw [valuesAt, hc, ← hmem]
    rfl

/-! ## Vectors by item -/

section Vectors

variable {α : Type} (prefs : List (Preference α))

/-- The vectors of the vector stage, read by item: one per user of the preferences, ascending,
holding at the index of each of the user's items the value of the user's last preference for
it, and nothing at an index the table does not have. -/
structure VectorsOf (vs : List (Int × UserVector α)) : Prop where
  users : vs.map Prod.fst = usersOf prefs
  get?_some : ∀ r ∈ vs, ∀ x i, (itemTable prefs).itemAt? x = some i →
    r.2.get? x = (lastValue? prefs r.1 i).map .value
  get?_none : ∀ r ∈ vs, ∀ x, (itemTable prefs).itemAt? x = none → r.2.get? x = none

/-- **The vector stage read by item.** -/
theorem buildUserVectors_vectorsOf {splits : Int} (hsplits : 1 ≤ splits) :
    ∃ vs, buildUserVectors prefs (itemTable prefs) splits = .ok vs ∧ VectorsOf prefs vs := by
  have hknown : ∀ p ∈ prefs, ((itemTable prefs).indexOf? p.item).isSome := by
    intro p hp
    obtain ⟨x, hx⟩ := exists_indexOf? (prefs.map (·.item)) (List.mem_map_of_mem hp)
    simp [itemTable, hx]
  obtain ⟨vs, hrun, husers, hget⟩ := buildUserVectors_eq_ok prefs (itemTable prefs) hsplits hknown
  refine ⟨vs, hrun, ⟨husers, fun r hr x i hx => ?_, fun r hr x hx => ?_⟩⟩
  · rw [hget r hr x, slotAt_itemTable _ hx, List.filter_map, List.getLast?_map, List.filter_filter,
      Option.map_map, lastValue?, Option.map_map]
    have hfilter : (prefs.filter fun p => ((fun q : Int × α => decide (q.1 = i)) ∘
        fun p => (p.item, p.value)) p && decide (p.user = r.1)) =
        prefs.filter fun p => decide (p.user = r.1 ∧ p.item = i) := by
      apply List.filter_congr
      intro p _
      simp only [Function.comp_apply, Bool.decide_and]
      exact Bool.and_comm _ _
    rw [hfilter]
    rfl
  · rw [hget r hr x, slotAt_itemTable_none _ hx]

variable {prefs} {vs : List (Int × UserVector α)}

/-- The indices of a user's vector are those of the user's items. -/
theorem VectorsOf.mem_keys (h : VectorsOf prefs vs) {r : Int × UserVector α} (hr : r ∈ vs)
    (x : Int) : x ∈ r.2.keys ↔ ∃ i, (itemTable prefs).itemAt? x = some i ∧ i ∈ itemsOf prefs r.1 := by
  rw [Ledger.mem_keys_iff]
  cases hx : (itemTable prefs).itemAt? x with
  | none => simp [h.get?_none r hr x hx]
  | some i =>
      rw [h.get?_some r hr x i hx]
      constructor
      · rintro ⟨s, hs⟩
        obtain ⟨a, ha, -⟩ := Option.map_eq_some_iff.1 hs
        exact ⟨i, rfl, (isSome_lastValue? prefs _ _).1 (by simp [ha])⟩
      · rintro ⟨i', hi', hmem⟩
        cases hi'
        obtain ⟨a, ha⟩ := Option.isSome_iff_exists.1 ((isSome_lastValue? prefs _ _).2 hmem)
        exact ⟨.value a, by simp [ha]⟩

/-- At an index of one of a user's items, a vector holds exactly that item. -/
theorem VectorsOf.mem_keys_iff_of_itemAt? (h : VectorsOf prefs vs) {r : Int × UserVector α}
    (hr : r ∈ vs) {x i : Int} (hx : (itemTable prefs).itemAt? x = some i) :
    x ∈ r.2.keys ↔ i ∈ itemsOf prefs r.1 := by
  rw [h.mem_keys hr]
  constructor
  · rintro ⟨i', hi', hmem⟩
    rw [hx, Option.some.injEq] at hi'
    rwa [hi']
  · exact fun hmem => ⟨i, hx, hmem⟩

theorem VectorsOf.nodup (h : VectorsOf prefs vs) : (vs.map Prod.fst).Nodup := by
  rw [h.users]
  exact (pairwise_usersOf prefs).imp ne_of_lt

/-- A user of the preferences has a vector. -/
theorem VectorsOf.exists_mem (h : VectorsOf prefs vs) {u : Int} (hu : u ∈ usersOf prefs) :
    ∃ vec, (u, vec) ∈ vs := by
  rw [← h.users, List.mem_map] at hu
  obtain ⟨r, hr, rfl⟩ := hu
  exact ⟨r.2, hr⟩

/-- A sum over the indices of a user's vector is a sum over the user's items. -/
theorem VectorsOf.sum_keys {M : Type} [AddCommMonoid M] (h : VectorsOf prefs vs)
    {r : Int × UserVector α} (hr : r ∈ vs) {F G : Int → M}
    (hFG : ∀ x ∈ r.2.keys, F x = G (itemAt prefs x)) :
    ∑ x ∈ r.2.keys.toFinset, F x = ∑ i ∈ itemsOf prefs r.1, G i := by
  apply Finset.sum_nbij' (itemAt prefs) (indexAt prefs)
  · intro x hx
    obtain ⟨i, hi, hmem⟩ := (h.mem_keys hr x).1 (List.mem_toFinset.1 hx)
    rwa [itemAt_eq hi]
  · intro i hi
    exact List.mem_toFinset.2 ((h.mem_keys hr _).2
      ⟨i, itemAt?_indexAt (itemsOf_subset_items prefs r.1 hi), hi⟩)
  · intro x hx
    obtain ⟨i, hi, -⟩ := (h.mem_keys hr x).1 (List.mem_toFinset.1 hx)
    rw [itemAt_eq hi, indexAt_eq hi]
  · intro i hi
    exact itemAt_eq (itemAt?_indexAt (itemsOf_subset_items prefs r.1 hi))
  · intro x hx
    exact hFG x (List.mem_toFinset.1 hx)

end Vectors

/-! ## Exact vectors and columns -/

section Exact

variable {prefs : List (Preference ℚ)} {vs : List (Int × UserVector ℚ)}

theorem VectorsOf.get?_value (h : VectorsOf prefs vs) {r : Int × UserVector ℚ} (hr : r ∈ vs)
    {x i : Int} (hx : (itemTable prefs).itemAt? x = some i) (hi : i ∈ itemsOf prefs r.1) :
    r.2.get? x = some (.value (value prefs r.1 i)) := by
  obtain ⟨a, ha⟩ := Option.isSome_iff_exists.1 ((isSome_lastValue? prefs _ _).2 hi)
  rw [h.get?_some r hr x i hx, ha]
  simp [value, ha]

/-- The values a vector holds are the user's values of the user's items, index by index. -/
theorem VectorsOf.presentValues_eq (h : VectorsOf prefs vs) {r : Int × UserVector ℚ}
    (hr : r ∈ vs) : presentValues r.2 = r.2.keys.map fun x => value prefs r.1 (itemAt prefs x) := by
  have hslot : ∀ e ∈ r.2.entries, e.2.value? = some (value prefs r.1 (itemAt prefs e.1)) := by
    intro e he
    have hget : r.2.get? e.1 = some e.2 := (Ledger.get?_eq_some_iff _ _ _).2 he
    obtain ⟨i, hi, hmem⟩ := (h.mem_keys hr e.1).1 (List.mem_map_of_mem he)
    rw [h.get?_value hr hi hmem, Option.some.injEq] at hget
    rw [← hget, itemAt_eq hi]
    rfl
  have hmap : presentValues r.2 = r.2.entries.map fun e => value prefs r.1 (itemAt prefs e.1) := by
    rw [presentValues, ← List.filterMap_eq_map]
    exact List.filterMap_congr hslot
  rw [hmap, Ledger.keys, List.map_map]
  rfl

/-- The values of a vector above a magnitude are the user's items above it. -/
theorem VectorsOf.count_present (h : VectorsOf prefs vs) {r : Int × UserVector ℚ} (hr : r ∈ vs)
    (v : ℚ) : ((presentValues r.2).filter fun w => |v| < |w|).length =
      ((itemsOf prefs r.1).filter fun i => |v| < |value prefs r.1 i|).card := by
  have hnodup : r.2.keys.Nodup := r.2.nodup
  rw [h.presentValues_eq hr, List.filter_map, List.length_map,
    ← List.toFinset_card_of_nodup (hnodup.filter _), List.toFinset_filter, Finset.card_filter,
    Finset.card_filter]
  exact h.sum_keys hr fun x _ => by simp

/-- **Pruning by index keeps the kept items**: a user's value for one of the user's items stays
exactly when the item is among the user's `kept` items. -/
theorem VectorsOf.prunedSlot_value (h : VectorsOf prefs vs) {r : Int × UserVector ℚ} (hr : r ∈ vs)
    (k : Int) {i : Int} (hi : i ∈ itemsOf prefs r.1) :
    prunedSlot id (presentValues r.2) k (.value (value prefs r.1 i)) =
      if i ∈ kept prefs k r.1 then .value (value prefs r.1 i) else .excluded := by
  have hcount := h.count_present hr (value prefs r.1 i)
  simp only [prunedSlot, id, Scalar.magnitude_rat, hcount]
  by_cases hk : i ∈ kept prefs k r.1
  · have hlt := (Finset.mem_filter.1 hk).2
    rw [if_neg (by omega), if_pos hk]
  · have hge : ¬ (((itemsOf prefs r.1).filter fun i' =>
        |value prefs r.1 i| < |value prefs r.1 i'|).card : Int) < k :=
      fun hlt => hk (Finset.mem_filter.2 ⟨hi, hlt⟩)
    rw [if_pos (by omega), if_neg hk]

/-- The vectors holding two indices are the users of both items. -/
theorem VectorsOf.length_holding (h : VectorsOf prefs vs) {x y i j : Int}
    (hx : (itemTable prefs).itemAt? x = some i) (hy : (itemTable prefs).itemAt? y = some j) :
    (vs.filter fun r => x ∈ r.2.keys ∧ y ∈ r.2.keys).length =
      ((prefs.map (·.user)).toFinset.filter fun u => i ∈ itemsOf prefs u ∧ j ∈ itemsOf prefs u).card := by
  have hnodup : (usersOf prefs).Nodup := (pairwise_usersOf prefs).imp ne_of_lt
  calc (vs.filter fun r => x ∈ r.2.keys ∧ y ∈ r.2.keys).length
      = ((vs.map Prod.fst).filter fun u => i ∈ itemsOf prefs u ∧ j ∈ itemsOf prefs u).length := by
        rw [List.filter_map, List.length_map]
        congr 1
        apply List.filter_congr
        intro r hr
        simp [h.mem_keys_iff_of_itemAt? hr hx, h.mem_keys_iff_of_itemAt? hr hy]
    _ = ((usersOf prefs).filter fun u => i ∈ itemsOf prefs u ∧ j ∈ itemsOf prefs u).length := by
        rw [h.users]
    _ = _ := by
        rw [← List.toFinset_card_of_nodup (hnodup.filter _), List.toFinset_filter, usersOf,
          ascending, Finset.sort_toFinset]
        simp

/-- The count a column keeps for two indices, read by item, is the co-occurrence count. -/
theorem VectorsOf.count_eq_cooccurrences (h : VectorsOf prefs vs) {x y i j : Int}
    (hx : (itemTable prefs).itemAt? x = some i) (hy : (itemTable prefs).itemAt? y = some j) :
    (if y = x then 0 else ((vs.filter fun r => x ∈ r.2.keys ∧ y ∈ r.2.keys).length : ℚ)) =
      cooccurrences prefs i j := by
  rw [cooccurrences, h.length_holding hx hy]
  by_cases hyx : y = x
  · subst hyx
    rw [hx, Option.some.injEq] at hy
    simp [hy]
  · have hij : i ≠ j := fun hij => hyx (itemAt?_inj hy (hij ▸ hx))
    simp [hyx, hij]

/-- The columns of the co-occurrence stage over the rationals: one per index held by a vector
of at least two entries, ascending; column `x` holds every other index some vector holds with
`x`, and counts the vectors that hold both. -/
structure ColumnsOf (vs : List (Int × UserVector ℚ)) (cols : List (Int × Column ℚ)) : Prop where
  sorted : (cols.map Prod.fst).Pairwise (· < ·)
  mem_keys : ∀ x, x ∈ cols.map Prod.fst ↔ ∃ r ∈ vs, 2 ≤ r.2.size ∧ x ∈ r.2.keys
  mem_column : ∀ c ∈ cols, ∀ j, j ∈ c.2.keys ↔ j ≠ c.1 ∧ ∃ r ∈ vs, c.1 ∈ r.2.keys ∧ j ∈ r.2.keys
  getD_eq : ∀ c ∈ cols, ∀ j, (c.2.get? j).getD 0 =
    if j = c.1 then 0 else ((vs.filter fun r => c.1 ∈ r.2.keys ∧ j ∈ r.2.keys).length : ℚ)

/-- **The co-occurrence stage over the rationals.** -/
theorem buildCooccurrence_columnsOf (vs : List (Int × UserVector ℚ)) {splits : Int}
    (hsplits : 1 ≤ splits) : ∃ cols, buildCooccurrence vs splits = .ok cols ∧ ColumnsOf vs cols := by
  obtain ⟨cols, hrun, hsorted, hkeys, hcol⟩ := buildCooccurrence_eq_ok vs hsplits
  obtain ⟨cols', hrun', hget⟩ := getD_of_buildCooccurrence vs hsplits
  have hsame : cols' = cols := Except.ok.inj (hrun'.symm.trans hrun)
  subst hsame
  exact ⟨cols', hrun, ⟨hsorted, hkeys, hcol, hget⟩⟩

variable {cols : List (Int × Column ℚ)}

theorem ColumnsOf.nodup (hC : ColumnsOf vs cols) : (cols.map Prod.fst).Nodup :=
  hC.sorted.imp ne_of_lt

/-- An index some vector holds with another index has a column. -/
theorem ColumnsOf.mem_keys_of_holding (hC : ColumnsOf vs cols) {r : Int × UserVector ℚ}
    (hr : r ∈ vs) {x y : Int} (hx : x ∈ r.2.keys) (hy : y ∈ r.2.keys) (hne : y ≠ x) :
    x ∈ cols.map Prod.fst :=
  (hC.mem_keys x).2 ⟨r, hr, two_le_size hx hy hne, hx⟩

/-- **A column read by item** holds the co-occurrence count of its item with every other. -/
theorem ColumnsOf.getD_of_itemAt? (hV : VectorsOf prefs vs) (hC : ColumnsOf vs cols)
    {c : Int × Column ℚ} (hc : c ∈ cols) {y i j : Int} (hi : (itemTable prefs).itemAt? c.1 = some i)
    (hj : (itemTable prefs).itemAt? y = some j) :
    (c.2.get? y).getD 0 = cooccurrences prefs i j := by
  rw [hC.getD_eq c hc y]
  exact hV.count_eq_cooccurrences hi hj

end Exact

end ItemRecommender
