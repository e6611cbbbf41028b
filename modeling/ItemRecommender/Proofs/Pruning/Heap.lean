import Mathlib
import ItemRecommender.Pruning.Heap

/-! # The bounded heap finds the threshold

    The heap compares magnitudes with `<` only. Wherever that comparison is read off a key in a
    linear order (`ReadsOff`: for rationals the key is the number itself; for doubles without
    NaN, their value), the two sifts keep the heap order, and the heap holds, as a multiset,
    the largest magnitudes seen so far:

    * the logical array of a sift is the array with the item put into the hole; `UpOrder` and
      `DownOrder` say which pairs of parent and child are in order while the hole moves, and
      each step of a sift is a swap in the logical array (`siftUp_go_spec`,
      `siftToLeaf_go_spec`);
    * `push` and `replaceTop` end in ordered heaps holding the old items with the new one
      (`push_spec`, `replaceTop_spec`), and the root of an ordered heap is its least item;
    * one pass of `smallestLarge` keeps the items of the heap at least as large as every
      magnitude left out of it (`Kept`), one lemma for each outcome of a step, so its root is
      the threshold: a magnitude lies below it exactly when at least `k` magnitudes lie above
      it (`smallestLarge_spec`). -/

namespace ItemRecommender.Heap

/-! ## Arrays read by position -/

section Arrays

variable {α : Type}

theorem getD_setIfInBounds (a : Array α) (i j : Nat) (v d : α) :
    (a.setIfInBounds i v).getD j d = if j = i ∧ i < a.size then v else a.getD j d := by
  simp only [Array.getD_eq_getD_getElem?, Array.getElem?_setIfInBounds]
  by_cases hij : i = j
  · subst hij
    by_cases hi : i < a.size <;> simp [hi]
  · simp [hij, Ne.symm hij]

theorem getD_mem [Inhabited α] {a : Array α} {i : Nat} (hi : i < a.size) : a.getD i default ∈ a := by
  simp [Array.getD_eq_getD_getElem?, Array.getElem?_eq_getElem hi, Array.getElem_mem]

/-- Arrays of one size that agree at every position are equal. -/
theorem ext_getD [Inhabited α] {a b : Array α} (hsize : a.size = b.size)
    (h : ∀ i < a.size, a.getD i default = b.getD i default) : a = b := by
  apply Array.ext hsize
  intro i hia hib
  have := h i hia
  simpa [Array.getD_eq_getD_getElem?, Array.getElem?_eq_getElem hia,
    Array.getElem?_eq_getElem hib] using this

theorem getD_push [Inhabited α] (a : Array α) (x : α) (i : Nat) :
    (a.push x).getD i default = if i < a.size then a.getD i default else if i = a.size then x
      else default := by
  simp only [Array.getD_eq_getD_getElem?, Array.getElem?_push]
  by_cases hi : i < a.size
  · simp [hi, show i ≠ a.size by omega]
  · by_cases hin : i = a.size
    · simp [hin]
    · simp [hi, hin]

/-- Writing two positions with each other's items is a swap, so it keeps the items. -/
theorem perm_set_set [Inhabited α] (a : Array α) {i j : Nat} (hi : i < a.size) (hj : j < a.size) :
    ((a.setIfInBounds i (a.getD j default)).setIfInBounds j (a.getD i default)).Perm a := by
  have hswap : (a.setIfInBounds i (a.getD j default)).setIfInBounds j (a.getD i default) =
      a.swap i j hi hj := by
    apply ext_getD (by simp)
    intro k hk
    simp only [Array.size_setIfInBounds] at hk
    rw [getD_setIfInBounds, getD_setIfInBounds]
    simp only [Array.getD_eq_getD_getElem?, Array.size_setIfInBounds, Array.getElem?_swap]
    by_cases hkj : k = j
    · subst hkj
      simp [hj, Array.getElem?_eq_getElem hi]
    · by_cases hki : k = i
      · subst hki
        simp [hkj, Ne.symm hkj, hi, Array.getElem?_eq_getElem hj]
      · simp [hkj, hki, Ne.symm hkj, Ne.symm hki]
  rw [hswap]
  exact Array.swap_perm hi hj

/-- Filling the hole at `pos` from position `q` and putting the item at `q` exchanges the two
in the logical array, the array with the item in the hole. -/
theorem exchange_hole [Inhabited α] (heap : Array α) (item : α) {pos q : Nat}
    (hpos : pos < heap.size) (hne : q ≠ pos) :
    (heap.setIfInBounds pos (heap.getD q default)).setIfInBounds q item =
      ((heap.setIfInBounds pos item).setIfInBounds pos
        ((heap.setIfInBounds pos item).getD q default)).setIfInBounds q
        ((heap.setIfInBounds pos item).getD pos default) := by
  rw [getD_setIfInBounds, if_neg (fun h => hne h.1), getD_setIfInBounds, if_pos ⟨rfl, hpos⟩,
    Array.setIfInBounds_setIfInBounds]

end Arrays

/-! ## Heap order -/

section Order

variable {α β : Type} [Inhabited α] [LinearOrder β]

/-- Every position but the root holds an item no smaller than its parent's. -/
def Ordered (key : α → β) (a : Array α) : Prop :=
  ∀ c, 0 < c → c < a.size → key (a.getD ((c - 1) / 2) default) ≤ key (a.getD c default)

/-- The order kept while the item at `pos` moves up: every pair of parent and child but the one
above `pos` is in order, and the parent of `pos` is no larger than the children of `pos`. -/
structure UpOrder (key : α → β) (a : Array α) (pos : Nat) : Prop where
  lt_size : pos < a.size
  except : ∀ c, 0 < c → c < a.size → c ≠ pos →
    key (a.getD ((c - 1) / 2) default) ≤ key (a.getD c default)
  grand : 0 < pos → ∀ c, 0 < c → c < a.size → (c - 1) / 2 = pos →
    key (a.getD ((pos - 1) / 2) default) ≤ key (a.getD c default)

/-- The array with the items at `i` and `j` exchanged, read by position. -/
theorem getD_exchange (a : Array α) {i j k : Nat} (hi : i < a.size) (hj : j < a.size) :
    ((a.setIfInBounds i (a.getD j default)).setIfInBounds j (a.getD i default)).getD k default =
      if k = j then a.getD i default else if k = i then a.getD j default else a.getD k default := by
  rw [getD_setIfInBounds, getD_setIfInBounds]
  by_cases hkj : k = j
  · simp [hkj, hj]
  · by_cases hki : k = i
    · subst hki
      simp [hkj, hi]
    · simp [hkj, hki]

/-- An item smaller than its parent changes places with it, and the order moves up with it. -/
theorem UpOrder.exchange {key : α → β} {a : Array α} {pos : Nat} (o : UpOrder key a pos)
    (hpos : 0 < pos)
    (hlt : key (a.getD pos default) < key (a.getD ((pos - 1) / 2) default)) :
    UpOrder key ((a.setIfInBounds pos (a.getD ((pos - 1) / 2) default)).setIfInBounds
      ((pos - 1) / 2) (a.getD pos default)) ((pos - 1) / 2) := by
  have hsize := o.lt_size
  have hpp : (pos - 1) / 2 < pos := by omega
  refine ⟨by simp; omega, fun c hc hcs hcp => ?_, fun hpp0 c hc hcs hcpar => ?_⟩
  · simp only [Array.size_setIfInBounds] at hcs
    rw [getD_exchange a hsize (by omega), getD_exchange a hsize (by omega)]
    by_cases hcpos : c = pos
    · -- the item, now above its old parent
      subst hcpos
      simp only [if_true, show c ≠ (c - 1) / 2 by omega, if_false]
      exact hlt.le
    · by_cases hpar : (c - 1) / 2 = (pos - 1) / 2
      · -- a sibling of `pos` keeps its place below the item
        simp only [hpar, if_true, hcp, hcpos, if_false]
        exact hlt.le.trans (hpar ▸ o.except c hc hcs hcpos)
      · by_cases hparpos : (c - 1) / 2 = pos
        · -- a child of `pos` gets the old parent above it
          simp only [hparpos, show pos ≠ (pos - 1) / 2 by omega, if_true, if_false, hcp, hcpos]
          exact o.grand hpos c hc hcs hparpos
        · simp only [hpar, hparpos, hcp, hcpos, if_false]
          exact o.except c hc hcs hcpos
  · simp only [Array.size_setIfInBounds] at hcs
    rw [getD_exchange a hsize (by omega), getD_exchange a hsize (by omega)]
    have hg1 : ((pos - 1) / 2 - 1) / 2 ≠ (pos - 1) / 2 := by omega
    have hg2 : ((pos - 1) / 2 - 1) / 2 ≠ pos := by omega
    have hcp : c ≠ (pos - 1) / 2 := by omega
    simp only [hg1, hg2, hcp, if_false]
    have hup := o.except ((pos - 1) / 2) hpp0 (by omega) (by omega)
    by_cases hcpos : c = pos
    · simp only [hcpos, if_true]
      exact hup
    · simp only [hcpos, if_false]
      exact hup.trans (hcpar ▸ o.except c hc hcs hcpos)

/-- An item no smaller than its parent, or at the root, leaves the array ordered. -/
theorem UpOrder.ordered {key : α → β} {a : Array α} {pos : Nat} (o : UpOrder key a pos)
    (hstop : 0 < pos → key (a.getD ((pos - 1) / 2) default) ≤ key (a.getD pos default)) :
    Ordered key a := by
  intro c hc hcs
  by_cases hcpos : c = pos
  · subst hcpos
    exact hstop hc
  · exact o.except c hc hcs hcpos

/-- The order kept while the hole at `pos` moves down: every pair of parent and child that does
not touch `pos` is in order, and the parent of `pos` is no larger than the children of `pos`. -/
structure DownOrder (key : α → β) (a : Array α) (pos : Nat) : Prop where
  lt_size : pos < a.size
  except : ∀ c, 0 < c → c < a.size → c ≠ pos → (c - 1) / 2 ≠ pos →
    key (a.getD ((c - 1) / 2) default) ≤ key (a.getD c default)
  grand : 0 < pos → ∀ c, 0 < c → c < a.size → (c - 1) / 2 = pos →
    key (a.getD ((pos - 1) / 2) default) ≤ key (a.getD c default)

/-- The smallest child of the hole moves up into it, and the hole moves down to the child. -/
theorem DownOrder.exchange {key : α → β} {a : Array α} {pos s : Nat} (o : DownOrder key a pos)
    (hs : s < a.size) (hspos : (s - 1) / 2 = pos) (hs0 : 0 < s)
    (hmin : ∀ c, 0 < c → c < a.size → (c - 1) / 2 = pos →
      key (a.getD s default) ≤ key (a.getD c default)) :
    DownOrder key ((a.setIfInBounds pos (a.getD s default)).setIfInBounds s (a.getD pos default)) s := by
  have hsize := o.lt_size
  have hne : pos ≠ s := by omega
  refine ⟨by simpa using hs, fun c hc hcs hcs' hpar => ?_, fun _ c hc hcs hcpar => ?_⟩
  · simp only [Array.size_setIfInBounds] at hcs
    rw [getD_exchange a hsize hs, getD_exchange a hsize hs]
    by_cases hcpos : c = pos
    · -- the child that moved up, below the parent of the hole
      subst hcpos
      have hg : (c - 1) / 2 ≠ c := by omega
      simp only [hpar, hg, hcs', if_false, if_true]
      exact o.grand hc s hs0 hs hspos
    · by_cases hparpos : (c - 1) / 2 = pos
      · -- the other child stays below the smaller one
        simp only [hcs', hcpos, hparpos, hne, if_false, if_true]
        exact hmin c hc hcs hparpos
      · simp only [hcs', hcpos, hpar, hparpos, if_false]
        exact o.except c hc hcs hcpos hparpos
  · simp only [Array.size_setIfInBounds] at hcs
    rw [getD_exchange a hsize hs, getD_exchange a hsize hs, hspos]
    have hc1 : c ≠ s := by omega
    have hc2 : c ≠ pos := by omega
    simp only [hne, hc1, hc2, if_false, if_true]
    rw [← hcpar]
    exact o.except c hc hcs hc2 (by omega)

/-- A hole with no child below it leaves the order a sift up needs. -/
theorem DownOrder.toUp {key : α → β} {a : Array α} {pos : Nat} (o : DownOrder key a pos)
    (hleaf : a.size ≤ 2 * pos + 1) : UpOrder key a pos :=
  ⟨o.lt_size, fun c hc hcs hcpos => o.except c hc hcs hcpos (by omega),
    fun _ c hc hcs hcpar => by omega⟩

/-- The root of an ordered array is its least item. -/
theorem Ordered.root_le {key : α → β} {a : Array α} (h : Ordered key a) :
    ∀ i, i < a.size → key (a.getD 0 default) ≤ key (a.getD i default) := by
  intro i
  induction i using Nat.strong_induction_on with
  | _ i ih =>
      intro hi
      rcases Nat.eq_zero_or_pos i with rfl | hpos
      · exact le_refl _
      · exact (ih ((i - 1) / 2) (by omega) (by omega)).trans (h i hpos hi)

/-- The root of an ordered heap is its least element. -/
theorem Ordered.root_le_of_mem {key : α → β} {a : Array α} (h : Ordered key a) {t : α}
    (ht : t ∈ a) : key (a.getD 0 default) ≤ key t := by
  obtain ⟨i, hi, rfl⟩ := Array.getElem_of_mem ht
  have := h.root_le i hi
  simpa [Array.getD_eq_getD_getElem?, Array.getElem?_eq_getElem hi] using this

/-- The root of a heap in order is its least item, at the head of its list. -/
theorem Ordered.root_of_getElem? {key : α → β} {a : Array α} (h : Ordered key a) {top : α}
    (hzero : a[0]? = some top) : ∃ tl, a.toList = top :: tl ∧ ∀ t ∈ a.toList, key top ≤ key t := by
  have hpos : 0 < a.size := (Array.getElem?_eq_some_iff.1 hzero).1
  obtain ⟨top', tl, htl⟩ : ∃ top tl, a.toList = top :: tl :=
    List.exists_cons_of_ne_nil (by simpa [← Array.length_toList] using hpos.ne')
  obtain rfl : top' = top := by
    rw [Array.getElem?_eq_getElem hpos, ← Array.getElem_toList] at hzero
    simpa [htl] using hzero
  have htop : a.getD 0 default = top' := by simp [Array.getD_eq_getD_getElem?, hzero]
  exact ⟨tl, htl, fun t ht => htop ▸ h.root_le_of_mem (Array.mem_toList_iff.1 ht)⟩

/-- What the pass keeps after the magnitudes `seen`: a heap of `min k` of them, in heap order,
and the magnitudes left out no larger than any in the heap. -/
structure Kept (key : α → β) (k : Nat) (seen : List α) (heap : Array α) : Prop where
  size_eq : heap.size = min k seen.length
  ordered : Ordered key heap
  rest : ∃ rest : List α, (heap.toList ++ rest).Perm seen ∧
    ∀ t ∈ heap.toList, ∀ r ∈ rest, key r ≤ key t

theorem kept_empty (key : α → β) (k : Nat) : Kept key k [] (#[] : Array α) :=
  ⟨by simp, fun c hc hcs => by simp at hcs, [], by simp, by simp⟩

/-- The heap holds magnitudes seen only. -/
theorem Kept.forall_mem {key : α → β} {k : Nat} {seen : List α} {heap : Array α} {P : α → Prop}
    (h : Kept key k seen heap) (hP : ∀ x ∈ seen, P x) : ∀ t ∈ heap, P t := by
  obtain ⟨rest, hperm, -⟩ := h.rest
  exact fun t ht => hP t (hperm.subset (List.mem_append_left _ (Array.mem_toList_iff.2 ht)))

end Order

/-! ## The sifts -/

section Sifts

variable {α β : Type} [Scalar α] [Inhabited α] [LinearOrder β]

/-- The comparison of the scalars that satisfy `P` is that of their keys. -/
def ReadsOff (key : α → β) (P : α → Prop) : Prop :=
  ∀ a b, P a → P b → (a < b ↔ key a < key b)

theorem siftUp_eq_go (a : Array α) (pos : Nat) :
    siftUp a 0 pos = siftUp.go 0 (a.getD pos default) a pos := rfl

/-- **Moving up** ends in an ordered array with the items of the logical one. -/
theorem siftUp_go_spec {key : α → β} {P : α → Prop} (hkey : ReadsOff key P) (item : α)
    (heap : Array α) (pos : Nat) (o : UpOrder key (heap.setIfInBounds pos item) pos)
    (hP : ∀ x ∈ heap.setIfInBounds pos item, P x) :
    (siftUp.go 0 item heap pos).size = heap.size ∧
      (siftUp.go 0 item heap pos).Perm (heap.setIfInBounds pos item) ∧
      Ordered key (siftUp.go 0 item heap pos) := by
  have hsize : pos < heap.size := by simpa using o.lt_size
  have hitem : (heap.setIfInBounds pos item).getD pos default = item := by
    rw [getD_setIfInBounds]
    simp [hsize]
  induction heap, pos using siftUp.go.induct 0 item with
  | case1 heap pos hpos pp parent hlt ih =>
      -- the item and its parent change places in the logical array
      set L := heap.setIfInBounds pos item
      have hpp : (pos - 1) / 2 ≠ pos := by omega
      have hparent : L.getD ((pos - 1) / 2) default = heap.getD ((pos - 1) / 2) default := by
        rw [getD_setIfInBounds]
        simp [hpp]
      have hL' := exchange_hole heap item hsize hpp
      have hperm := hL' ▸ perm_set_set L (by simpa [L] using hsize) (by simp [L]; omega)
      have hlt' : key (L.getD pos default) < key (L.getD ((pos - 1) / 2) default) := by
        rw [hitem, hparent]
        exact (hkey _ _ (hitem ▸ hP _ (getD_mem (by simpa [L] using hsize)))
          (hparent ▸ hP _ (getD_mem (by simp [L]; omega)))).1 hlt
      have o' := o.exchange hpos hlt'
      rw [← hL'] at o'
      obtain ⟨h1, h2, h3⟩ := ih o' (fun x hx => hP x (hperm.mem_iff.1 hx)) (by simp; omega)
        (by rw [getD_setIfInBounds]; simp; omega)
      rw [siftUp.go.eq_1, dif_pos hpos]
      rw [if_pos (show item < heap.getD ((pos - 1) / 2) default from hlt)]
      exact ⟨h1.trans (by simp), h2.trans hperm, h3⟩
  | case2 heap pos hpos pp parent hge =>
      have hparent : (heap.setIfInBounds pos item).getD ((pos - 1) / 2) default =
          heap.getD ((pos - 1) / 2) default := by
        rw [getD_setIfInBounds]
        simp [show (pos - 1) / 2 ≠ pos by omega]
      rw [siftUp.go.eq_1, dif_pos hpos]
      rw [if_neg (show ¬item < heap.getD ((pos - 1) / 2) default from hge)]
      refine ⟨by simp, Array.Perm.refl _, o.ordered fun _ => ?_⟩
      have hPi : P item := hitem ▸ hP _ (getD_mem (by simpa using hsize))
      have hPp : P (heap.getD ((pos - 1) / 2) default) :=
        hparent ▸ hP _ (getD_mem (by simp; omega))
      rw [hitem, hparent]
      exact not_lt.1 fun h => hge ((hkey _ _ hPi hPp).2 h)
  | case3 heap pos hpos =>
      rw [siftUp.go.eq_1, dif_neg hpos]
      exact ⟨by simp, Array.Perm.refl _, o.ordered fun h => absurd h hpos⟩

/-- The smaller child the hole moves to, as the code chooses it: the right child when there is
one and the left is not smaller than it. -/
theorem smallerChild_spec {key : α → β} {P : α → Prop} (hkey : ReadsOff key P) (a : Array α)
    (pos s : Nat) (hchild : 2 * pos + 1 < a.size)
    (hP : ∀ c, c < a.size → c ≠ pos → P (a.getD c default))
    (hsdef : s = if 2 * pos + 1 + 1 < a.size ∧
        ¬a.getD (2 * pos + 1) default < a.getD (2 * pos + 1 + 1) default then 2 * pos + 1 + 1
      else 2 * pos + 1) :
    s < a.size ∧ (s - 1) / 2 = pos ∧ 0 < s ∧
      ∀ c, 0 < c → c < a.size → (c - 1) / 2 = pos → key (a.getD s default) ≤ key (a.getD c default) := by
  have hPl := hP (2 * pos + 1) hchild (by omega)
  by_cases hc : 2 * pos + 1 + 1 < a.size ∧
      ¬a.getD (2 * pos + 1) default < a.getD (2 * pos + 1 + 1) default
  · have hs : s = 2 * pos + 1 + 1 := hsdef.trans (if_pos hc)
    have hPr := hP (2 * pos + 1 + 1) hc.1 (by omega)
    refine ⟨by omega, by omega, by omega, fun c hc0 hcs hcpar => ?_⟩
    rw [hs]
    rcases (show c = 2 * pos + 1 ∨ c = 2 * pos + 1 + 1 by omega) with rfl | rfl
    · exact not_lt.1 fun h => hc.2 ((hkey _ _ hPl hPr).2 h)
    · exact le_refl _
  · have hs : s = 2 * pos + 1 := hsdef.trans (if_neg hc)
    refine ⟨by omega, by omega, by omega, fun c hc0 hcs hcpar => ?_⟩
    rw [hs]
    rcases (show c = 2 * pos + 1 ∨ c = 2 * pos + 1 + 1 by omega) with rfl | rfl
    · exact le_refl _
    · have hlt : a.getD (2 * pos + 1) default < a.getD (2 * pos + 1 + 1) default := by
        by_contra hn
        exact hc ⟨hcs, hn⟩
      exact ((hkey _ _ hPl (hP _ hcs (by omega))).1 hlt).le

/-- **Moving the hole down** to a leaf, then the item up from there, ends in an ordered array
with the items of the logical one. -/
theorem siftToLeaf_go_spec {key : α → β} {P : α → Prop} (hkey : ReadsOff key P) (item : α)
    (size : Nat) (heap : Array α) (pos : Nat) (hsz : heap.size = size)
    (o : DownOrder key (heap.setIfInBounds pos item) pos)
    (hP : ∀ x ∈ heap.setIfInBounds pos item, P x) :
    (siftToLeaf.go item size heap pos).size = heap.size ∧
      (siftToLeaf.go item size heap pos).Perm (heap.setIfInBounds pos item) ∧
      Ordered key (siftToLeaf.go item size heap pos) := by
  have hsize : pos < heap.size := by simpa using o.lt_size
  fun_induction siftToLeaf.go item size heap pos with
  | case1 heap pos child hchild right smaller ih =>
      subst hsz
      set L := heap.setIfInBounds pos item
      have hL : ∀ c, c ≠ pos → L.getD c default = heap.getD c default := by
        intro c hc
        rw [getD_setIfInBounds]
        simp [hc]
      -- the smaller child, read in the logical array
      obtain ⟨hs, hspar, hs0, hmin⟩ := smallerChild_spec hkey heap pos smaller hchild
        (fun c hc hcpos => hL c hcpos ▸ hP _ (getD_mem (by simpa [L] using hc))) rfl
      have hspos : smaller ≠ pos := by omega
      have hmin' : ∀ c, 0 < c → c < L.size → (c - 1) / 2 = pos →
          key (L.getD smaller default) ≤ key (L.getD c default) := by
        intro c hc hcs hcpar
        rw [hL _ hspos, hL c (by omega)]
        exact hmin c hc (by simpa [L] using hcs) hcpar
      have hL' := exchange_hole heap item hsize hspos
      have hperm := hL' ▸ perm_set_set L (by simpa [L] using hsize) (by simpa [L] using hs)
      have o' := o.exchange (by simpa [L] using hs) hspar hs0 hmin'
      rw [← hL'] at o'
      obtain ⟨h1, h2, h3⟩ := ih (by simp) o' (fun x hx => hP x (hperm.mem_iff.1 hx))
        (by simpa using hs)
      exact ⟨h1.trans (by simp), h2.trans hperm, h3⟩
  | case2 heap pos child hchild =>
      set L := heap.setIfInBounds pos item
      have hitem : L.getD pos default = item := by
        rw [getD_setIfInBounds]
        simp [hsize]
      have hself : L.setIfInBounds pos item = L := Array.setIfInBounds_setIfInBounds ..
      have o' : UpOrder key (L.setIfInBounds pos item) pos := by
        rw [hself]
        exact o.toUp (by simp [L]; omega)
      have hP' : ∀ x ∈ L.setIfInBounds pos item, P x := by
        rw [hself]
        exact hP
      obtain ⟨h1, h2, h3⟩ := siftUp_go_spec hkey item L pos o' hP'
      rw [hself] at h2
      rw [siftUp_eq_go, hitem]
      exact ⟨h1.trans (by simp [L]), h2, h3⟩

theorem siftToLeaf_eq_go (a : Array α) (pos : Nat) :
    siftToLeaf a pos = siftToLeaf.go (a.getD pos default) a.size a pos := rfl

/-- **Pushing** keeps the heap ordered and adds the item. -/
theorem push_spec {key : α → β} {P : α → Prop} (hkey : ReadsOff key P) (heap : Array α)
    (item : α) (ho : Ordered key heap) (hP : ∀ x ∈ heap, P x) (hitem : P item) :
    (push heap item).size = heap.size + 1 ∧ (push heap item).Perm (heap.push item) ∧
      Ordered key (push heap item) := by
  have hself : (heap.push item).setIfInBounds heap.size item = heap.push item := by
    apply ext_getD (by simp)
    intro i hi
    rw [getD_setIfInBounds, getD_push]
    by_cases hin : i = heap.size <;> simp [hin]
  have hlast : (heap.push item).getD heap.size default = item := by simp
  have o : UpOrder key ((heap.push item).setIfInBounds heap.size item) heap.size := by
    rw [hself]
    refine ⟨by simp, fun c hc hcs hcn => ?_, fun _ c hc hcs hcpar => by simp at hcs; omega⟩
    simp only [Array.size_push] at hcs
    rw [getD_push, getD_push, if_pos (by omega), if_pos (by omega)]
    exact ho c hc (by omega)
  have hP' : ∀ x ∈ (heap.push item).setIfInBounds heap.size item, P x := by
    rw [hself]
    intro x hx
    rcases Array.mem_push.1 hx with hx | rfl
    · exact hP x hx
    · exact hitem
  obtain ⟨h1, h2, h3⟩ := siftUp_go_spec hkey item (heap.push item) heap.size o hP'
  rw [hself] at h2
  rw [push, siftUp_eq_go, hlast]
  exact ⟨h1.trans (by simp), h2, h3⟩

/-- **Replacing the root** keeps the heap ordered, with the item in place of the root. -/
theorem replaceTop_spec {key : α → β} {P : α → Prop} (hkey : ReadsOff key P) (heap : Array α)
    (item : α) (hsize : 0 < heap.size) (ho : Ordered key heap) (hP : ∀ x ∈ heap, P x)
    (hitem : P item) :
    (replaceTop heap item).size = heap.size ∧ (replaceTop heap item).Perm (heap.setIfInBounds 0 item) ∧
      Ordered key (replaceTop heap item) := by
  set H := heap.setIfInBounds 0 item
  have hroot : H.getD 0 default = item := by
    rw [getD_setIfInBounds]
    simp [hsize]
  have hself : H.setIfInBounds 0 item = H := Array.setIfInBounds_setIfInBounds ..
  have hH : ∀ c, c ≠ 0 → H.getD c default = heap.getD c default := by
    intro c hc
    rw [getD_setIfInBounds]
    simp [hc]
  have o : DownOrder key (H.setIfInBounds 0 item) 0 := by
    rw [hself]
    refine ⟨by simpa [H] using hsize, fun c hc hcs hc0 hpar => ?_, fun h => absurd h (by omega)⟩
    rw [hH c hc0, hH _ hpar]
    exact ho c hc (by simpa [H] using hcs)
  have hP' : ∀ x ∈ H.setIfInBounds 0 item, P x := by
    rw [hself]
    intro x hx
    obtain ⟨i, hi, rfl⟩ := Array.getElem_of_mem hx
    have hget : H[i] = H.getD i default := by
      simp [Array.getD_eq_getD_getElem?, Array.getElem?_eq_getElem hi]
    rw [hget]
    by_cases hi0 : i = 0
    · rw [hi0, hroot]
      exact hitem
    · rw [hH i hi0]
      exact hP _ (getD_mem (by simpa [H] using hi))
  obtain ⟨h1, h2, h3⟩ := siftToLeaf_go_spec hkey item H.size H 0 rfl o hP'
  rw [hself] at h2
  rw [replaceTop, siftToLeaf_eq_go, hroot]
  exact ⟨h1.trans (by simp [H]), h2, h3⟩

end Sifts

/-! ## Sizes, whatever the comparison -/

section Sizes

variable {α : Type} [Scalar α] [Inhabited α]

theorem size_siftUp_go (start : Nat) (item : α) (heap : Array α) (pos : Nat) :
    (siftUp.go start item heap pos).size = heap.size := by
  induction heap, pos using siftUp.go.induct start item with
  | case1 heap pos hpos pp parent hlt ih =>
      rw [siftUp.go.eq_1, dif_pos hpos, if_pos hlt, ih, Array.size_setIfInBounds]
  | case2 heap pos hpos pp parent hge =>
      rw [siftUp.go.eq_1, dif_pos hpos, if_neg hge, Array.size_setIfInBounds]
  | case3 heap pos hpos =>
      rw [siftUp.go.eq_1, dif_neg hpos, Array.size_setIfInBounds]

theorem size_push (heap : Array α) (item : α) : (push heap item).size = heap.size + 1 := by
  rw [push, siftUp, size_siftUp_go, Array.size_push]

theorem size_siftToLeaf_go (item : α) (size : Nat) (heap : Array α) (pos : Nat) :
    (siftToLeaf.go item size heap pos).size = heap.size := by
  fun_induction siftToLeaf.go item size heap pos with
  | case1 heap pos child hchild right smaller ih =>
      rw [ih, Array.size_setIfInBounds]
  | case2 heap pos child hchild =>
      rw [siftUp, size_siftUp_go, Array.size_setIfInBounds]

theorem size_replaceTop (heap : Array α) (item : α) : (replaceTop heap item).size = heap.size := by
  rw [replaceTop, siftToLeaf, size_siftToLeaf_go, Array.size_setIfInBounds]

end Sizes

/-! ## One pass -/

section Pass

variable {α β : Type} [Scalar α] [Inhabited α] [LinearOrder β]

/-- The step of the pass of `smallestLarge`: push while the heap is short of `k` items, then
replace the root by a larger magnitude. -/
def passStep (k : Int) (heap : Array α) (v : α) : Except Failure (Array α) :=
  let m := Scalar.magnitude v
  if (heap.size : Int) < k then pure (push heap m)
  else match heap[0]? with
    | none => throw .outOfRange
    | some top => pure (if top < m then replaceTop heap m else heap)

/-- The search as a fold of `passStep`, then a look at the root. -/
theorem smallestLarge_eq (values : List α) (k : Int) :
    smallestLarge values k = (do
      let heap ← values.foldlM (passStep k) #[]
      match heap[0]? with
      | none => throw .outOfRange
      | some top => pure top) := rfl

/-- The threshold is the root of the heap the pass leaves. -/
theorem smallestLarge_of_root {values : List α} {k : Int} {heap : Array α}
    (hfold : values.foldlM (passStep k) #[] = .ok heap) {top : α} (hzero : heap[0]? = some top) :
    smallestLarge values k = .ok top := by
  rw [smallestLarge_eq, hfold]
  show (match heap[0]? with
    | none => throw .outOfRange
    | some top => pure top : Except Failure α) = _
  rw [hzero]
  rfl

section Branches

variable {key : α → β} {P : α → Prop} {k : Nat} {seen : List α} {heap : Array α} {m : α}

/-- While the heap is short of `k` it holds every magnitude seen, and the next one is pushed. -/
theorem Kept.push_of_short (hkey : ReadsOff key P) (h : Kept key k seen heap) (hP : ∀ x ∈ seen, P x)
    (hm : P m) (hshort : heap.size < k) : Kept key k (seen ++ [m]) (push heap m) := by
  obtain ⟨rest, hperm, -⟩ := h.rest
  have hlen := hperm.length_eq
  simp only [List.length_append, Array.length_toList] at hlen
  have hsize := h.size_eq
  have hrest : rest = [] := List.eq_nil_of_length_eq_zero (by omega)
  subst hrest
  obtain ⟨h1, h2, h3⟩ := push_spec hkey heap m h.ordered (h.forall_mem hP) hm
  refine ⟨?_, h3, [], ?_, by simp⟩
  · simp only [List.length_append, List.length_singleton]
    omega
  · rw [List.append_nil] at hperm ⊢
    exact (Array.perm_iff_toList_perm.1 h2).trans (by simpa using hperm.append_right _)

/-- A magnitude above the root of a full heap takes the root's place, and the root joins the
magnitudes left out. -/
theorem Kept.replaceTop_of_lt (hkey : ReadsOff key P) (h : Kept key k seen heap)
    (hP : ∀ x ∈ seen, P x) (hm : P m) (hfull : k ≤ heap.size) {top : α}
    (hzero : heap[0]? = some top) (hup : top < m) :
    Kept key k (seen ++ [m]) (replaceTop heap m) := by
  obtain ⟨rest, hperm, hdom⟩ := h.rest
  have hlen := hperm.length_eq
  simp only [List.length_append, Array.length_toList] at hlen
  have hsize := h.size_eq
  have hpos : 0 < heap.size := (Array.getElem?_eq_some_iff.1 hzero).1
  obtain ⟨tl, htl, hroot⟩ := h.ordered.root_of_getElem? hzero
  have hmem := h.forall_mem hP
  have hkup := (hkey _ _ (hmem top (Array.mem_toList_iff.1 (by simp [htl]))) hm).1 hup
  obtain ⟨h1, h2, h3⟩ := replaceTop_spec hkey heap m hpos h.ordered hmem hm
  have hnew : (replaceTop heap m).toList.Perm (m :: tl) := by
    have hset : (heap.setIfInBounds 0 m).toList = m :: tl := by simp [htl]
    exact hset ▸ Array.perm_iff_toList_perm.1 h2
  refine ⟨?_, h3, top :: rest, ?_, ?_⟩
  · simp only [List.length_append, List.length_singleton]
    omega
  · rw [htl] at hperm
    refine (hnew.append_right _).trans ?_
    calc (m :: tl) ++ top :: rest
        _ = m :: (tl ++ top :: rest) := rfl
        List.Perm _ (m :: top :: (tl ++ rest)) := List.Perm.cons _ List.perm_middle
        List.Perm _ ((top :: (tl ++ rest)) ++ [m]) := (List.perm_append_singleton _ _).symm
        List.Perm _ (seen ++ [m]) := hperm.append_right _
  · -- the new magnitude and the old items of the heap are above the root and the rest
    intro t ht r hr
    rcases List.mem_cons.1 (hnew.subset ht) with rfl | ht'
    · rcases List.mem_cons.1 hr with rfl | hr
      · exact hkup.le
      · exact (hdom top (by simp [htl]) r hr).trans hkup.le
    · rcases List.mem_cons.1 hr with rfl | hr
      · exact hroot t (by simp [htl, ht'])
      · exact hdom t (by simp [htl, ht']) r hr

/-- A magnitude no larger than the root of a full heap is left out of it. -/
theorem Kept.skip_of_not_lt (hkey : ReadsOff key P) (h : Kept key k seen heap) (hP : ∀ x ∈ seen, P x)
    (hm : P m) (hfull : k ≤ heap.size) {top : α} (hzero : heap[0]? = some top)
    (hup : ¬ top < m) : Kept key k (seen ++ [m]) heap := by
  obtain ⟨rest, hperm, hdom⟩ := h.rest
  have hsize := h.size_eq
  obtain ⟨tl, htl, hroot⟩ := h.ordered.root_of_getElem? hzero
  have hkle : key m ≤ key top := not_lt.1 fun hlt => hup
    ((hkey _ _ (h.forall_mem hP top (Array.mem_toList_iff.1 (by simp [htl]))) hm).2 hlt)
  refine ⟨?_, h.ordered, rest ++ [m], ?_, ?_⟩
  · simp only [List.length_append, List.length_singleton]
    omega
  · rw [← List.append_assoc]
    exact hperm.append_right _
  · intro t ht r hr
    rcases List.mem_append.1 hr with hr | hr
    · exact hdom t ht r hr
    · rw [List.mem_singleton.1 hr]
      exact hkle.trans (hroot t ht)

end Branches

/-- **One step of the pass** keeps `Kept`: each of its three outcomes does. -/
theorem Kept.step {key : α → β} {P : α → Prop} (hkey : ReadsOff key P) {k : Int} (hk : 1 ≤ k)
    {seen : List α} {heap : Array α} (h : Kept key k.toNat seen heap) (hP : ∀ x ∈ seen, P x)
    (v : α) (hv : P (Scalar.magnitude v)) :
    ∃ heap', passStep k heap v = .ok heap' ∧
      Kept key k.toNat (seen ++ [Scalar.magnitude v]) heap' := by
  have hsize := h.size_eq
  by_cases hlt : (heap.size : Int) < k
  · exact ⟨_, by simp only [passStep, if_pos hlt]; rfl, h.push_of_short hkey hP hv (by omega)⟩
  · obtain ⟨top, hzero⟩ : ∃ top, heap[0]? = some top :=
      ⟨_, Array.getElem?_eq_getElem (by omega)⟩
    by_cases hup : top < Scalar.magnitude v
    · exact ⟨_, by simp only [passStep, if_neg hlt, hzero, if_pos hup]; rfl,
        h.replaceTop_of_lt hkey hP hv (by omega) hzero hup⟩
    · exact ⟨_, by simp only [passStep, if_neg hlt, hzero, if_neg hup]; rfl,
        h.skip_of_not_lt hkey hP hv (by omega) hzero hup⟩

/-- **The pass** over magnitudes whose comparison is read off a key keeps `Kept`. -/
theorem foldlM_passStep {key : α → β} {P : α → Prop} (hkey : ReadsOff key P) {k : Int}
    (hk : 1 ≤ k) (values : List α) (hP : ∀ v ∈ values, P (Scalar.magnitude v)) :
    ∀ (seen : List α) (heap : Array α), Kept key k.toNat seen heap → (∀ x ∈ seen, P x) →
      ∃ heap', values.foldlM (passStep k) heap = .ok heap' ∧
        Kept key k.toNat (seen ++ values.map Scalar.magnitude) heap' := by
  induction values with
  | nil =>
      intro seen heap h _
      exact ⟨heap, rfl, by simpa using h⟩
  | cons v values ih =>
      intro seen heap h hseen
      obtain ⟨heap₁, hstep, h₁⟩ := h.step hkey hk hseen v (hP v (List.mem_cons_self ..))
      have hseen₁ : ∀ x ∈ seen ++ [Scalar.magnitude v], P x := by
        intro x hx
        rcases List.mem_append.1 hx with hx | hx
        · exact hseen x hx
        · rw [List.mem_singleton.1 hx]
          exact hP v (List.mem_cons_self ..)
      obtain ⟨heap₂, hfold, h₂⟩ :=
        ih (fun w hw => hP w (List.mem_cons_of_mem v hw)) _ heap₁ h₁ hseen₁
      refine ⟨heap₂, by rw [List.foldlM_cons, hstep]; exact hfold, by simpa using h₂⟩

/-- **The threshold.** Over magnitudes whose comparison is read off a key, `smallestLarge`
returns one of them, and a magnitude lies below it exactly when at least `k` magnitudes lie
above that magnitude: the least of the `k` largest, ties included, or the least of all when
there are fewer than `k`. -/
theorem smallestLarge_spec {key : α → β} {P : α → Prop} (hkey : ReadsOff key P)
    (values : List α) {k : Int} (hk : 1 ≤ k) (hne : values ≠ [])
    (hP : ∀ v ∈ values, P (Scalar.magnitude v)) :
    ∃ top, smallestLarge values k = .ok top ∧ top ∈ values.map Scalar.magnitude ∧
      ∀ v ∈ values, (key (Scalar.magnitude v) < key top ↔
        k ≤ ((values.filter fun w => key (Scalar.magnitude v) < key (Scalar.magnitude w)).length : Int)) := by
  obtain ⟨heap, hfold, hkept⟩ :=
    foldlM_passStep hkey hk values hP [] #[] (kept_empty key k.toNat) (by simp)
  rw [List.nil_append] at hkept
  obtain ⟨rest, hperm, hdom⟩ := hkept.rest
  have hsize := hkept.size_eq
  have hlen := hperm.length_eq
  simp only [List.length_append, Array.length_toList, List.length_map] at hsize hlen
  have hn : 0 < values.length := List.length_pos_iff.2 hne
  obtain ⟨top, hzero⟩ : ∃ top, heap[0]? = some top := ⟨_, Array.getElem?_eq_getElem (by omega)⟩
  obtain ⟨tl, htl, hroot⟩ := hkept.ordered.root_of_getElem? hzero
  have htopmem : top ∈ heap.toList := by simp [htl]
  refine ⟨top, smallestLarge_of_root hfold hzero,
    hperm.subset (List.mem_append_left _ htopmem), fun v hv => ?_⟩
  -- count the magnitudes above `v` in the heap and in the rest
  set p : α → Bool := fun y => decide (key (Scalar.magnitude v) < key y)
  have hcount : (values.filter fun w => key (Scalar.magnitude v) < key (Scalar.magnitude w)).length =
      (heap.toList.filter p).length + (rest.filter p).length := by
    rw [← List.length_append, ← List.filter_append, (hperm.filter p).length_eq, List.filter_map,
      List.length_map]
    rfl
  rw [hcount]
  constructor
  · intro hlt
    -- the magnitude of `v` is left out of the heap, so the heap is full
    have hout : Scalar.magnitude v ∈ rest := by
      have hin := hperm.symm.subset (List.mem_map_of_mem hv)
      rcases List.mem_append.1 hin with hin | hin
      · exact absurd (hroot _ hin) (not_le.2 hlt)
      · exact hin
    have hfull : heap.size = k.toNat := by
      have := List.length_pos_of_mem hout
      omega
    have hall : heap.toList.filter p = heap.toList :=
      List.filter_eq_self.2 fun t ht => by simpa [p] using hlt.trans_le (hroot t ht)
    rw [hall, Array.length_toList, hfull]
    omega
  · intro hge
    by_contra hnot
    have hle : key top ≤ key (Scalar.magnitude v) := not_lt.1 hnot
    have hnone : rest.filter p = [] :=
      List.filter_eq_nil_iff.2 fun r hr => by simpa [p] using (hdom top htopmem r hr).trans hle
    have hless : (heap.toList.filter p).length < heap.toList.length :=
      List.length_filter_lt_length_iff_exists.2 ⟨top, htopmem, by simpa [p] using hle⟩
    have hzero' : (rest.filter p).length = 0 := by rw [hnone]; rfl
    have hsz : heap.toList.length = heap.size := Array.length_toList
    omega

/-- With `k ≥ 1` a step of the pass never fails, whatever the comparison does: a short heap
takes the magnitude, and a full one has a root. The heap never shrinks and is never left
empty. -/
theorem passStep_ok {k : Int} (hk : 1 ≤ k) (heap : Array α) (v : α) :
    ∃ heap', passStep k heap v = .ok heap' ∧ heap.size ≤ heap'.size ∧ 0 < heap'.size := by
  by_cases hlt : (heap.size : Int) < k
  · refine ⟨push heap (Scalar.magnitude v), by simp only [passStep, if_pos hlt]; rfl, ?_⟩
    rw [size_push]
    omega
  · have hpos : 0 < heap.size := by omega
    obtain ⟨top, htop⟩ : ∃ top, heap[0]? = some top := ⟨_, Array.getElem?_eq_getElem hpos⟩
    by_cases hup : top < Scalar.magnitude v
    · refine ⟨replaceTop heap (Scalar.magnitude v),
        by simp only [passStep, if_neg hlt, htop, if_pos hup]; rfl, ?_⟩
      rw [size_replaceTop]
      omega
    · exact ⟨heap, by simp only [passStep, if_neg hlt, htop, if_neg hup]; rfl, le_refl _, hpos⟩

/-- With `k ≥ 1` the pass never fails, and after one magnitude the heap has a root. -/
theorem foldlM_passStep_ok {k : Int} (hk : 1 ≤ k) (values : List α) :
    ∀ heap : Array α, ∃ heap', values.foldlM (passStep k) heap = .ok heap' ∧
      heap.size ≤ heap'.size ∧ (values ≠ [] → 0 < heap'.size) := by
  induction values with
  | nil => exact fun heap => ⟨heap, rfl, le_refl _, fun h => absurd rfl h⟩
  | cons v values ih =>
      intro heap
      obtain ⟨heap₁, hstep, hle₁, hpos₁⟩ := passStep_ok hk heap v
      obtain ⟨heap₂, hfold, hle₂, -⟩ := ih heap₁
      exact ⟨heap₂, by rw [List.foldlM_cons, hstep]; exact hfold, hle₁.trans hle₂,
        fun _ => Nat.lt_of_lt_of_le hpos₁ hle₂⟩

/-- **The threshold exists** for every nonempty list of values and every `k ≥ 1`, however the
magnitudes compare, NaN included. -/
theorem smallestLarge_ok (values : List α) {k : Int} (hk : 1 ≤ k) (hne : values ≠ []) :
    ∃ top, smallestLarge values k = .ok top := by
  obtain ⟨heap, hfold, -, hpos⟩ := foldlM_passStep_ok hk values #[]
  exact ⟨_, smallestLarge_of_root hfold (Array.getElem?_eq_getElem (hpos hne))⟩

end Pass

end ItemRecommender.Heap
