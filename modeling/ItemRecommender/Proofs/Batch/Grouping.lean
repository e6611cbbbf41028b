import Mathlib
import ItemRecommender.Batch.Stage

/-! # Grouping keyed records

    A stage meets the records its splits emit three times: grouped by key in first-seen order
    (`groupByKey`, in each split and again after the shuffle), reordered by partition
    (`reduceOrder`), and at the end sorted by key (`sortByKey`). This file describes each of
    them by what it keeps:

    * `groupByKey` lists every key once, in the order keys first appear, with all of the key's
      values in order (`groupByKey_eq`);
    * `reduceOrder` only permutes the groups (`perm_reduceOrder`);
    * `sortByKey` orders records by key and keeps the records of one key in their order
      (`filter_sortByKey`), which singles its result out among all key-sorted permutations
      (`eq_of_sorted_of_filter_eq`).

    The order a stage promises is that of the distinct keys ascending (`keysOf`), each with its
    values (`groupsOf`). -/

namespace ItemRecommender.Batch

variable {ν ω ρ : Type}

/-! ## Values and keys of keyed records -/

/-- The values of key `k` among keyed records, in order. -/
def valuesAt (k : Int) (pairs : List (Int × ν)) : List ν :=
  (pairs.filter fun p => p.1 = k).map Prod.snd

/-- Adds a key to a list of distinct keys unless it is there. -/
def addKey (ks : List Int) (k : Int) : List Int := if k ∈ ks then ks else ks ++ [k]

/-- The keys of keyed records, each once, in the order they first appear. -/
def firstKeys (pairs : List (Int × ν)) : List Int := (pairs.map Prod.fst).foldl addKey []

/-- Distinct integers, ascending. -/
def ascending (l : List Int) : List Int := l.toFinset.sort

/-- The distinct keys of keyed records, ascending. -/
def keysOf (pairs : List (Int × ν)) : List Int := (pairs.map Prod.fst).toFinset.sort

/-- Every distinct key of keyed records, ascending, with its values in order. -/
def groupsOf (pairs : List (Int × ν)) : List (Int × List ν) :=
  (keysOf pairs).map fun k => (k, valuesAt k pairs)

/-- The values of records whose values are mapped. -/
theorem valuesAt_map_snd {γ : Type} (g : ν → γ) (l : List (Int × ν)) (k : Int) :
    valuesAt k (l.map fun e => (e.1, g e.2)) = (valuesAt k l).map g := by
  simp [valuesAt, List.filter_map, Function.comp_def]

@[simp] theorem valuesAt_nil (k : Int) : valuesAt k ([] : List (Int × ν)) = [] := rfl

@[simp] theorem valuesAt_append (k : Int) (xs ys : List (Int × ν)) :
    valuesAt k (xs ++ ys) = valuesAt k xs ++ valuesAt k ys := by
  simp [valuesAt]

@[simp] theorem valuesAt_cons (k : Int) (p : Int × ν) (ps : List (Int × ν)) :
    valuesAt k (p :: ps) = (if p.1 = k then [p.2] else []) ++ valuesAt k ps := by
  by_cases h : p.1 = k <;> simp [valuesAt, h]

theorem valuesAt_flatten (k : Int) (xss : List (List (Int × ν))) :
    valuesAt k xss.flatten = (xss.map (valuesAt k)).flatten := by
  induction xss with
  | nil => rfl
  | cons xs xss ih => simp [ih]

/-- A key has values exactly when it occurs. -/
theorem valuesAt_eq_nil_iff (k : Int) (pairs : List (Int × ν)) :
    valuesAt k pairs = [] ↔ k ∉ pairs.map Prod.fst := by
  rw [valuesAt, List.map_eq_nil_iff, List.filter_eq_nil_iff, List.mem_map]
  constructor
  · rintro h ⟨p, hp, rfl⟩
    exact h p hp (by simp)
  · intro h p hp hpk
    exact h ⟨p, hp, by simpa using hpk⟩

/-- Records that all carry key `k'` hold values of `k` only when `k = k'`. -/
theorem valuesAt_of_keys_eq {k k' : Int} {pairs : List (Int × ν)}
    (h : ∀ p ∈ pairs, p.1 = k') :
    valuesAt k pairs = if k' = k then pairs.map Prod.snd else [] := by
  by_cases hk : k' = k
  · subst hk
    rw [if_pos rfl, valuesAt, List.filter_eq_self.2 (fun p hp => by simp [h p hp])]
  · rw [if_neg hk, valuesAt, List.filter_eq_nil_iff.2 (fun p hp => by simp [h p hp, hk])]
    rfl

theorem mem_foldl_addKey (k : Int) (ks l : List Int) :
    k ∈ l.foldl addKey ks ↔ k ∈ ks ∨ k ∈ l := by
  induction l generalizing ks with
  | nil => simp
  | cons a l ih =>
      rw [List.foldl_cons, ih]
      by_cases ha : a ∈ ks
      · simp only [addKey, if_pos ha, List.mem_cons]
        constructor
        · rintro (h | h)
          · exact Or.inl h
          · exact Or.inr (Or.inr h)
        · rintro (h | rfl | h)
          · exact Or.inl h
          · exact Or.inl ha
          · exact Or.inr h
      · simp only [addKey, if_neg ha, List.mem_append, List.mem_cons]
        tauto

theorem nodup_foldl_addKey (ks l : List Int) (h : ks.Nodup) : (l.foldl addKey ks).Nodup := by
  induction l generalizing ks with
  | nil => exact h
  | cons a l ih =>
      apply ih
      by_cases ha : a ∈ ks
      · simp only [addKey, if_pos ha]
        exact h
      · simp only [addKey, if_neg ha]
        exact h.append (List.nodup_singleton a) (by simpa using ha)

@[simp] theorem mem_firstKeys (k : Int) (pairs : List (Int × ν)) :
    k ∈ firstKeys pairs ↔ k ∈ pairs.map Prod.fst := by
  simp [firstKeys, mem_foldl_addKey]

theorem nodup_firstKeys (pairs : List (Int × ν)) : (firstKeys pairs).Nodup :=
  nodup_foldl_addKey [] _ List.nodup_nil

theorem firstKeys_append_singleton (pairs : List (Int × ν)) (p : Int × ν) :
    firstKeys (pairs ++ [p]) = addKey (firstKeys pairs) p.1 := by
  simp [firstKeys, List.foldl_append]

@[simp] theorem mem_ascending (l : List Int) (k : Int) : k ∈ ascending l ↔ k ∈ l := by
  simp [ascending, Finset.mem_sort]

theorem pairwise_ascending (l : List Int) : (ascending l).Pairwise (· < ·) :=
  List.sortedLT_iff_pairwise.1 (Finset.sortedLT_sort _)

@[simp] theorem mem_keysOf (k : Int) (pairs : List (Int × ν)) :
    k ∈ keysOf pairs ↔ k ∈ pairs.map Prod.fst := by
  simp [keysOf, Finset.mem_sort]

theorem pairwise_keysOf (pairs : List (Int × ν)) : (keysOf pairs).Pairwise (· < ·) :=
  List.sortedLT_iff_pairwise.1 (Finset.sortedLT_sort _)

theorem nodup_keysOf (pairs : List (Int × ν)) : (keysOf pairs).Nodup :=
  (pairwise_keysOf pairs).nodup

/-- First-seen order and ascending order list the same keys. -/
theorem perm_firstKeys_keysOf (pairs : List (Int × ν)) : (firstKeys pairs).Perm (keysOf pairs) := by
  apply List.perm_of_nodup_nodup_toFinset_eq (nodup_firstKeys pairs) (nodup_keysOf pairs)
  ext k
  simp

/-- The values of `k` in the records of distinct keys, each key's records under that key. -/
theorem valuesAt_flatten_map_keys {ks : List Int} (hks : ks.Nodup) (F : Int → List (Int × ν))
    (hF : ∀ k' ∈ ks, ∀ r ∈ F k', r.1 = k') (k : Int) :
    valuesAt k (ks.map F).flatten = if k ∈ ks then (F k).map Prod.snd else [] := by
  induction ks with
  | nil => rfl
  | cons k0 ks ih =>
      obtain ⟨hk0, hks⟩ := List.nodup_cons.1 hks
      rw [List.map_cons, List.flatten_cons, valuesAt_append,
        valuesAt_of_keys_eq (hF k0 (List.mem_cons_self ..)),
        ih hks (fun k' hk' => hF k' (List.mem_cons_of_mem k0 hk'))]
      by_cases h : k0 = k
      · subst h
        simp [hk0]
      · simp [h, Ne.symm h]

/-- Joining lists kept or dropped by a test is joining the kept ones. -/
theorem flatten_map_ite {α β : Type} (l : List α) (p : α → Prop) [DecidablePred p]
    (f : α → List β) :
    (l.map fun x => if p x then f x else []).flatten = ((l.filter fun x => p x).map f).flatten := by
  induction l with
  | nil => rfl
  | cons x l ih =>
      by_cases h : p x
      · simp [h, ih]
      · simp [h, ih]

/-! ## Grouping in first-seen order -/

/-- Adding a value to groups held as one group per distinct key. -/
theorem addToGroup_map (k : Int) (v : ν) (ks : List Int) (W : Int → List ν) (hks : ks.Nodup)
    (hW : k ∉ ks → W k = []) :
    addToGroup k v (ks.map fun k' => (k', W k')) =
      (addKey ks k).map fun k' => (k', if k' = k then v :: W k' else W k') := by
  induction ks with
  | nil =>
      simp [addToGroup, addKey, hW (List.not_mem_nil)]
  | cons k0 ks ih =>
      obtain ⟨hk0, hks⟩ := List.nodup_cons.1 hks
      by_cases h0 : k0 = k
      · subst h0
        have htail : (ks.map fun k' => (k', W k')) =
            ks.map fun k' => (k', if k' = k0 then v :: W k' else W k') := by
          apply List.map_congr_left
          intro k' hk'
          have hne : k' ≠ k0 := fun h => hk0 (h ▸ hk')
          simp [hne]
        simp [addToGroup, addKey, htail]
      · have hW' : k ∉ ks → W k = [] := fun h => hW (by simp [Ne.symm h0, h])
        have hmem : (k ∈ k0 :: ks) ↔ k ∈ ks := by simp [Ne.symm h0]
        rw [List.map_cons, addToGroup, if_neg h0, ih hks hW']
        simp only [addKey, hmem]
        split <;> simp [h0]

/-- Grouping after a prefix: the groups are the prefix's keys in first-seen order, each with
its values reversed. -/
theorem foldl_addToGroup (pre rest : List (Int × ν)) :
    rest.foldl (fun groups p => addToGroup p.1 p.2 groups)
        ((firstKeys pre).map fun k => (k, (valuesAt k pre).reverse)) =
      (firstKeys (pre ++ rest)).map fun k => (k, (valuesAt k (pre ++ rest)).reverse) := by
  induction rest generalizing pre with
  | nil => simp
  | cons p rest ih =>
      rw [List.foldl_cons]
      have hstep : addToGroup p.1 p.2 ((firstKeys pre).map fun k => (k, (valuesAt k pre).reverse)) =
          (firstKeys (pre ++ [p])).map fun k => (k, (valuesAt k (pre ++ [p])).reverse) := by
        rw [addToGroup_map p.1 p.2 (firstKeys pre) _ (nodup_firstKeys pre)
          (fun h => by simp [(valuesAt_eq_nil_iff p.1 pre).2 (by simpa using h)]),
          firstKeys_append_singleton]
        apply List.map_congr_left
        intro k _
        by_cases hk : k = p.1
        · subst hk
          simp
        · simp [hk, Ne.symm hk]
      rw [hstep, ih (pre ++ [p]), List.append_assoc, List.singleton_append]

/-- `groupByKey` lists each key once, in first-seen order, with all of its values in order. -/
theorem groupByKey_eq (pairs : List (Int × ν)) :
    groupByKey pairs = (firstKeys pairs).map fun k => (k, valuesAt k pairs) := by
  have h := foldl_addToGroup ([] : List (Int × ν)) pairs
  simp only [List.nil_append] at h
  rw [groupByKey, show firstKeys ([] : List (Int × ν)) = [] from rfl, List.map_nil] at *
  rw [h, List.map_map]
  apply List.map_congr_left
  intro k _
  simp

/-- The groups of `groupByKey` are those of `groupsOf`, in another order. -/
theorem perm_groupByKey_groupsOf (pairs : List (Int × ν)) :
    (groupByKey pairs).Perm (groupsOf pairs) := by
  rw [groupByKey_eq, groupsOf]
  exact (perm_firstKeys_keysOf pairs).map _

/-- The groups of `groupsOf` hold strictly ascending keys. -/
theorem pairwise_groupsOf (pairs : List (Int × ν)) :
    ((groupsOf pairs).map Prod.fst).Pairwise (· < ·) := by
  rw [groupsOf, List.map_map]
  have : (Prod.fst ∘ fun k => (k, valuesAt k pairs)) = id := rfl
  rw [this, List.map_id]
  exact pairwise_keysOf pairs

/-! ## Sorting by key -/

theorem perm_sortByKey (L : List (Int × ω)) : (sortByKey L).Perm L := List.mergeSort_perm _ _

theorem pairwise_sortByKey (L : List (Int × ω)) :
    (sortByKey L).Pairwise fun a b => a.1 ≤ b.1 := by
  have h := @List.pairwise_mergeSort _ (fun a b : Int × ω => decide (a.1 ≤ b.1))
    (fun a b c hab hbc => by simp at *; omega) (fun a b => by simp; omega) L
  unfold sortByKey
  exact h.imp (by simp)

/-- Sorting by key keeps the records of each key in their order. -/
theorem filter_sortByKey (L : List (Int × ω)) (k : Int) :
    (sortByKey L).filter (fun r => r.1 = k) = L.filter fun r => r.1 = k := by
  have hsorted : (L.filter fun r => r.1 = k).Pairwise fun a b => decide (a.1 ≤ b.1) = true := by
    apply List.pairwise_of_forall_mem_list
    intro a ha b hb
    simp only [List.mem_filter, decide_eq_true_eq] at ha hb
    simp [ha.2, hb.2]
  have hsub : (L.filter fun r => r.1 = k).Sublist (sortByKey L) :=
    List.sublist_mergeSort (fun a b c hab hbc => by simp at *; omega) (fun a b => by simp; omega)
      hsorted (List.filter_sublist)
  have hsub' := hsub.filter (fun r => decide (r.1 = k))
  simp only [List.filter_filter, Bool.and_self] at hsub'
  have hlen := ((perm_sortByKey L).filter (fun r => decide (r.1 = k))).length_eq
  exact (hsub'.eq_of_length hlen.symm).symm

/-- Two lists sorted by key with the same records of every key, in the same order, are
equal. -/
theorem eq_of_sorted_of_filter_eq {M N : List (Int × ω)}
    (hM : M.Pairwise fun a b => a.1 ≤ b.1) (hN : N.Pairwise fun a b => a.1 ≤ b.1)
    (h : ∀ k, M.filter (fun r => r.1 = k) = N.filter fun r => r.1 = k) : M = N := by
  induction M generalizing N with
  | nil =>
      cases N with
      | nil => rfl
      | cons b N => simpa using (h b.1).symm
  | cons a M ih =>
      cases N with
      | nil => simpa using h a.1
      | cons b N =>
          have hMa := (List.pairwise_cons.1 hM).1
          have hNb := (List.pairwise_cons.1 hN).1
          -- the heads share their key: each lies in the other list, sorted by key
          have hab : a.1 = b.1 := by
            have haN : a ∈ b :: N := by
              have ha : a ∈ (a :: M).filter fun r => r.1 = a.1 := by simp
              rw [h a.1] at ha
              exact List.mem_of_mem_filter ha
            have hbM : b ∈ a :: M := by
              have hb : b ∈ (b :: N).filter fun r => r.1 = b.1 := by simp
              rw [← h b.1] at hb
              exact List.mem_of_mem_filter hb
            rcases List.mem_cons.1 haN with rfl | haN
            · rfl
            · rcases List.mem_cons.1 hbM with rfl | hbM
              · rfl
              · exact le_antisymm (hMa b hbM) (hNb a haN)
          have hhead := h a.1
          rw [List.filter_cons_of_pos (by simp), List.filter_cons_of_pos (by simp [hab])] at hhead
          obtain ⟨rfl, -⟩ := List.cons.inj hhead
          congr 1
          apply ih hM.of_cons hN.of_cons
          intro k
          have hk := h k
          by_cases hka : a.1 = k
          · rw [List.filter_cons_of_pos (by simp [hka]), List.filter_cons_of_pos (by simp [hka])]
              at hk
            exact List.cons.inj hk |>.2
          · rw [List.filter_cons_of_neg (by simp [hka]), List.filter_cons_of_neg (by simp [hka])]
              at hk
            exact hk

/-! ## Groups whose reductions keep their key -/

/-- Reordering groups whose keys are distinct keeps the group of each key. -/
theorem filter_key_eq_of_perm {P Q : List (Int × ρ)} (hPQ : P.Perm Q)
    (hQ : (Q.map Prod.fst).Pairwise (· < ·)) (k : Int) :
    P.filter (fun x => x.1 = k) = Q.filter fun x => x.1 = k := by
  have hp := hPQ.filter (fun x => decide (x.1 = k))
  have hQk : (Q.filter fun x => x.1 = k).Pairwise fun x y => x.1 < y.1 :=
    (List.pairwise_map.1 hQ).sublist List.filter_sublist
  -- at most one group carries the key, so the two filtered lists are both that group
  rcases hq : Q.filter (fun x => decide (x.1 = k)) with _ | ⟨a, _ | ⟨b, t⟩⟩
  · rw [hq] at hp ⊢
    exact List.perm_nil.1 hp
  · rw [hq] at hp ⊢
    exact List.perm_singleton.1 hp
  · exfalso
    have ha : a ∈ Q.filter fun x => x.1 = k := by simp [hq]
    have hb : b ∈ Q.filter fun x => x.1 = k := by simp [hq]
    rw [hq] at hQk
    have hab := List.rel_of_pairwise_cons hQk (List.mem_cons_self ..)
    simp only [List.mem_filter, decide_eq_true_eq] at ha hb
    omega

/-- The records of the groups of one key, when every group's records carry its key. -/
theorem filter_key_flatten_map {P : List (Int × ρ)} (g : Int × ρ → List (Int × ω))
    (hg : ∀ x ∈ P, ∀ r ∈ g x, r.1 = x.1) (k : Int) :
    (P.map g).flatten.filter (fun r => r.1 = k) = ((P.filter fun x => x.1 = k).map g).flatten := by
  induction P with
  | nil => rfl
  | cons x P ih =>
      have hx := hg x (List.mem_cons_self ..)
      rw [List.map_cons, List.flatten_cons, List.filter_append,
        ih (fun y hy => hg y (List.mem_cons_of_mem x hy))]
      by_cases hk : x.1 = k
      · rw [List.filter_eq_self.2 (fun r hr => by simp [hx r hr, hk]),
          List.filter_cons_of_pos (by simp [hk]), List.map_cons, List.flatten_cons]
      · rw [List.filter_eq_nil_iff.2 (fun r hr => by simp [hx r hr, hk]),
          List.filter_cons_of_neg (by simp [hk]), List.nil_append]

/-- Groups in ascending key order, each group's records under its key, give records sorted by
key. -/
theorem pairwise_flatten_map_of_keys {Q : List (Int × ρ)} (g : Int × ρ → List (Int × ω))
    (hQ : (Q.map Prod.fst).Pairwise (· < ·)) (hg : ∀ x ∈ Q, ∀ r ∈ g x, r.1 = x.1) :
    (Q.map g).flatten.Pairwise fun a b => a.1 ≤ b.1 := by
  rw [List.pairwise_flatten, List.pairwise_map]
  constructor
  · intro l hl
    obtain ⟨x, hx, rfl⟩ := List.mem_map.1 hl
    apply List.pairwise_of_forall_mem_list
    intro a ha b hb
    rw [hg x hx a ha, hg x hx b hb]
  · apply (List.pairwise_map.1 hQ).imp_of_mem
    intro x y hx hy hxy a ha b hb
    rw [hg x hx a ha, hg y hy b hb]
    exact le_of_lt hxy

/-- Sorting by key the reductions of groups taken in any order gives the reductions in
ascending key order, when every reduction keeps its group's key. -/
theorem sortByKey_flatten_map {P Q : List (Int × ρ)} (g : Int × ρ → List (Int × ω))
    (hPQ : P.Perm Q) (hQ : (Q.map Prod.fst).Pairwise (· < ·))
    (hg : ∀ x ∈ P, ∀ r ∈ g x, r.1 = x.1) :
    sortByKey (P.map g).flatten = (Q.map g).flatten := by
  have hgQ : ∀ x ∈ Q, ∀ r ∈ g x, r.1 = x.1 := fun x hx => hg x (hPQ.mem_iff.2 hx)
  apply eq_of_sorted_of_filter_eq (pairwise_sortByKey _) (pairwise_flatten_map_of_keys g hQ hgQ)
  intro k
  rw [filter_sortByKey, filter_key_flatten_map g hg, filter_key_flatten_map g hgQ,
    filter_key_eq_of_perm hPQ hQ k]

/-! ## Splits and partitions -/

/-- The splits of a list of records join back to the list. -/
theorem flatten_splitRecords (records : List ρ) (s : Int) :
    (splitRecords records s).flatten = records := by
  unfold splitRecords
  split
  · rename_i h
    rw [List.isEmpty_iff.1 h]
    rfl
  · apply flatten_cut
    rw [sum_splitSizes]
    unfold splitCount
    omega

/-- Reducing in partition order only reorders the groups. -/
theorem perm_reduceOrder (hash : Int → Int) (splits : Int) (groups : List (Int × List ν)) :
    (reduceOrder hash splits groups).Perm groups :=
  List.mergeSort_perm _ _

end ItemRecommender.Batch
