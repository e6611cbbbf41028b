import Mathlib
import ItemRecommender.Proofs.Pruning.Largest

/-! # The threshold is an order statistic

    Sorted largest first by their keys (`descending`), the magnitudes have their `m`-th largest
    (`kthLargest`) at position `m - 1`: fewer than `m` of them lie above it and at least `m` lie
    at or above it (`countAbove_kthLargest_lt`, `le_countAtLeast_kthLargest`). Those two counts
    pin its key down, and the counting description of the threshold (`smallestLarge_spec`) meets
    them at `m = min k n`: the threshold is the `min k n`-th largest of the `n` magnitudes
    (`key_smallestLarge`).

    The pass fails only for want of a root: with no value, or with no room in the heap
    (`k ≤ 0`), it raises the index error, and otherwise it answers
    (`smallestLarge_eq_error_iff`). After every prefix of the values its heap is an ordered heap
    of the `min k` largest magnitudes seen (`foldlM_passStep_prefix`). -/

namespace ItemRecommender.Heap

variable {α β : Type} [LinearOrder β]

/-! ## Magnitudes largest first -/

section Descending

/-- Magnitudes sorted largest first by their keys; equal keys keep their order. -/
def descending (key : α → β) (ms : List α) : List α :=
  ms.mergeSort fun a b => decide (key b ≤ key a)

variable [Inhabited α]

/-- The `m`-th largest of some magnitudes by their keys, counting from one. -/
def kthLargest (key : α → β) (ms : List α) (m : Nat) : α :=
  (descending key ms).getD (m - 1) default

variable (key : α → β) (ms : List α)

omit [Inhabited α] in
theorem perm_descending : (descending key ms).Perm ms :=
  List.mergeSort_perm _ _

omit [Inhabited α] in
theorem pairwise_descending : (descending key ms).Pairwise fun a b => key b ≤ key a := by
  have h := @List.pairwise_mergeSort _ (fun a b : α => decide (key b ≤ key a))
    (fun a b c hab hbc => by simp only [decide_eq_true_eq] at *; exact hbc.trans hab)
    (fun a b => by simpa using le_total (key b) (key a)) ms
  exact h.imp (by simp)

omit [Inhabited α] in
/-- Sorting keeps how many magnitudes pass any test. -/
theorem length_filter_descending (p : α → Bool) :
    ((descending key ms).filter p).length = (ms.filter p).length :=
  ((perm_descending key ms).filter p).length_eq

variable {ms} {m : Nat}

/-- Sorted largest first, the magnitudes are the `m - 1` before the `m`-th largest, none below
it, then the `m`-th largest, then the rest, none above it. -/
theorem descending_split (hm : 1 ≤ m) (hmn : m ≤ ms.length) :
    ∃ before after, descending key ms = before ++ kthLargest key ms m :: after ∧
      before.length = m - 1 ∧ (∀ a ∈ before, key (kthLargest key ms m) ≤ key a) ∧
      ∀ b ∈ after, key b ≤ key (kthLargest key ms m) := by
  set s := descending key ms with hs_def
  have hlen : m - 1 < s.length := by
    rw [hs_def, descending, List.length_mergeSort]
    omega
  have hget : kthLargest key ms m = s[m - 1] := List.getD_eq_getElem _ _ hlen
  have hsplit : s = s.take (m - 1) ++ s[m - 1] :: s.drop (m - 1 + 1) := by
    rw [← List.drop_eq_getElem_cons hlen, List.take_append_drop]
  have hpair := pairwise_descending key ms
  rw [← hs_def, hsplit, List.pairwise_append, List.pairwise_cons] at hpair
  refine ⟨s.take (m - 1), s.drop (m - 1 + 1), hget ▸ hsplit, ?_, ?_, ?_⟩
  · rw [List.length_take]
    omega
  · intro a ha
    rw [hget]
    exact hpair.2.2 a ha _ List.mem_cons_self
  · intro b hb
    rw [hget]
    exact hpair.2.1.1 b hb

theorem kthLargest_mem (hm : 1 ≤ m) (hmn : m ≤ ms.length) : kthLargest key ms m ∈ ms := by
  obtain ⟨before, after, hs, -⟩ := descending_split key hm hmn
  exact (perm_descending key ms).subset (hs ▸ List.mem_append_right _ List.mem_cons_self)

/-- Fewer than `m` magnitudes lie above the `m`-th largest: only those before it can. -/
theorem countAbove_kthLargest_lt (hm : 1 ≤ m) (hmn : m ≤ ms.length) :
    (ms.filter fun w => key (kthLargest key ms m) < key w).length < m := by
  obtain ⟨before, after, hs, hlen, -, hafter⟩ := descending_split key hm hmn
  set t := kthLargest key ms m
  have hnone : (t :: after).filter (fun w => key t < key w) = [] :=
    List.filter_eq_nil_iff.2 fun b hb => by
      rcases List.mem_cons.1 hb with rfl | hb
      · simp
      · simpa using hafter b hb
  calc (ms.filter fun w => key t < key w).length
      _ = ((descending key ms).filter fun w => key t < key w).length :=
        (length_filter_descending key ms _).symm
      _ = (before.filter fun w => key t < key w).length := by
        rw [hs, List.filter_append, hnone, List.append_nil]
      _ ≤ before.length := List.length_filter_le _ _
      _ < m := by omega

/-- At least `m` magnitudes lie at or above the `m`-th largest: those before it and itself. -/
theorem le_countAtLeast_kthLargest (hm : 1 ≤ m) (hmn : m ≤ ms.length) :
    m ≤ (ms.filter fun w => key (kthLargest key ms m) ≤ key w).length := by
  obtain ⟨before, after, hs, hlen, hbefore, -⟩ := descending_split key hm hmn
  set t := kthLargest key ms m
  have hall : before.filter (fun w => key t ≤ key w) = before :=
    List.filter_eq_self.2 fun a ha => by simpa using hbefore a ha
  calc m
      _ = before.length + 1 := by omega
      _ ≤ ((descending key ms).filter fun w => key t ≤ key w).length := by
        rw [hs, List.filter_append, hall, List.filter_cons_of_pos (by simp), List.length_append,
          List.length_cons]
        omega
      _ = (ms.filter fun w => key t ≤ key w).length := length_filter_descending key ms _

end Descending

/-! ## The threshold -/

section Threshold

variable [Scalar α] [Inhabited α]

/-- **The threshold is the `min k n`-th largest magnitude.** Over magnitudes whose comparison is
read off a key, `smallestLarge` answers one of the `n` magnitudes, and its key is that of the
`min k n`-th largest: the `k`-th largest, or the least when there are fewer than `k`. -/
theorem key_smallestLarge {key : α → β} {P : α → Prop} (hkey : ReadsOff key P)
    (values : List α) {k : Int} (hk : 1 ≤ k) (hne : values ≠ [])
    (hP : ∀ v ∈ values, P (Scalar.magnitude v)) :
    ∃ top, smallestLarge values k = .ok top ∧ top ∈ values.map Scalar.magnitude ∧
      key top = key (kthLargest key (values.map Scalar.magnitude) (min k.toNat values.length)) := by
  obtain ⟨top, hrun, hmem, hspec⟩ := smallestLarge_spec hkey values hk hne hP
  refine ⟨top, hrun, hmem, ?_⟩
  set ms := values.map Scalar.magnitude
  set m := min k.toNat values.length with hm_def
  set t := kthLargest key ms m
  -- the counting description, read at the magnitudes themselves
  have hcount : ∀ x ∈ ms,
      (key x < key top ↔ k ≤ ((ms.filter fun w => key x < key w).length : Int)) := by
    intro x hx
    obtain ⟨v, hv, rfl⟩ := List.mem_map.1 hx
    rw [hspec v hv, List.filter_map, List.length_map]
    rfl
  have hn : ms.length = values.length := List.length_map _
  have hpos : 0 < values.length := List.length_pos_iff.2 hne
  have hm : 1 ≤ m := by omega
  have hmn : m ≤ ms.length := by omega
  apply le_antisymm
  · -- fewer than `m ≤ k` magnitudes lie above `t`, so `t` is not below the threshold
    by_contra hlt
    have habove := (hcount t (kthLargest_mem key hm hmn)).1 (not_le.1 hlt)
    have hfew : (ms.filter fun w => key t < key w).length < m :=
      countAbove_kthLargest_lt key hm hmn
    omega
  · -- below `t`, the threshold would have `m` magnitudes above it: `k` of them, or all `n`
    by_contra hlt
    have hmono : (ms.filter fun w => key t ≤ key w).length ≤
        (ms.filter fun w => key top < key w).length :=
      (List.monotone_filter_right ms fun w hw => by
        simp only [decide_eq_true_eq] at hw ⊢
        exact lt_of_lt_of_le (not_le.1 hlt) hw).length_le
    have hmany : m ≤ (ms.filter fun w => key t ≤ key w).length :=
      le_countAtLeast_kthLargest key hm hmn
    have hself : (ms.filter fun w => key top < key w).length < ms.length :=
      List.length_filter_lt_length_iff_exists.2 ⟨top, hmem, by simp⟩
    have hnot : ¬k ≤ ((ms.filter fun w => key top < key w).length : Int) :=
      fun h => lt_irrefl _ ((hcount top hmem).2 h)
    omega

theorem smallestLarge_nil (k : Int) : smallestLarge ([] : List α) k = .error .outOfRange := rfl

/-- The pass raises the index error exactly when there is no value or no room in the heap;
otherwise it answers (`smallestLarge_ok`). -/
theorem smallestLarge_eq_error_iff (values : List α) (k : Int) :
    smallestLarge values k = .error .outOfRange ↔ values = [] ∨ k ≤ 0 := by
  constructor
  · intro h
    by_contra hno
    rw [not_or] at hno
    obtain ⟨top, htop⟩ := smallestLarge_ok values (by omega : 1 ≤ k) hno.1
    rw [htop] at h
    cases h
  · rintro (rfl | hk)
    · exact smallestLarge_nil k
    · exact smallestLarge_of_nonpos values hk

/-- **The invariant at every prefix**: after the first values, the heap of the pass is an ordered
heap of the `min k` largest magnitudes seen, the others no larger than any in it. -/
theorem foldlM_passStep_prefix {key : α → β} {P : α → Prop} (hkey : ReadsOff key P) {k : Int}
    (hk : 1 ≤ k) {values seen : List α} (hP : ∀ v ∈ values, P (Scalar.magnitude v))
    (hseen : seen <+: values) :
    ∃ heap, seen.foldlM (passStep k) #[] = .ok heap ∧
      Kept key k.toNat (seen.map Scalar.magnitude) heap := by
  obtain ⟨heap, hfold, hkept⟩ := foldlM_passStep hkey hk seen
    (fun v hv => hP v (hseen.subset hv)) [] #[] (kept_empty key k.toNat) (by simp)
  exact ⟨heap, hfold, by simpa using hkept⟩

/-- **The bounded heap finds the `k`-th largest magnitude.** Over magnitudes whose comparison is
read off a key (doubles without NaN, by their values), the pass raises the index error exactly
when there is no value or `k ≤ 0`; otherwise it answers the `min k n`-th largest of the `n`
magnitudes; and after every prefix its heap is an ordered heap in array layout holding the
`min k` largest magnitudes seen. -/
theorem smallestLarge_finds_kth_largest {key : α → β} {P : α → Prop} (hkey : ReadsOff key P)
    (values : List α) (k : Int) (hP : ∀ v ∈ values, P (Scalar.magnitude v)) :
    (smallestLarge values k = .error .outOfRange ↔ values = [] ∨ k ≤ 0) ∧
    (values ≠ [] → 1 ≤ k → ∃ top, smallestLarge values k = .ok top ∧
      top ∈ values.map Scalar.magnitude ∧
      key top = key (kthLargest key (values.map Scalar.magnitude) (min k.toNat values.length))) ∧
    (1 ≤ k → ∀ seen, seen <+: values → ∃ heap, seen.foldlM (passStep k) #[] = .ok heap ∧
      Kept key k.toNat (seen.map Scalar.magnitude) heap) :=
  ⟨smallestLarge_eq_error_iff values k, fun hne hk => key_smallestLarge hkey values hk hne hP,
    fun hk _ hseen => foldlM_passStep_prefix hkey hk hP hseen⟩

/-- Magnitudes `5, 2, 2, 2, 1`, three of them tied. -/
def tiedValues : List ℚ := [5, 2, -2, 2, 1]

/-- Asked for the second largest of `tiedValues`, the pass answers a magnitude tied at `2`. -/
theorem smallestLarge_finds_kth_largest_tied :
    ReadsOff (id : ℚ → ℚ) (fun _ => True) ∧
    (smallestLarge tiedValues 2 = .error .outOfRange ↔ tiedValues = [] ∨ (2 : Int) ≤ 0) ∧
    (tiedValues ≠ [] → (1 : Int) ≤ 2 → ∃ top, smallestLarge tiedValues 2 = .ok top ∧
      top ∈ tiedValues.map Scalar.magnitude ∧
      id top = id (kthLargest id (tiedValues.map Scalar.magnitude)
        (min (2 : Int).toNat tiedValues.length))) ∧
    ((1 : Int) ≤ 2 → ∀ seen, seen <+: tiedValues → ∃ heap,
      seen.foldlM (passStep 2) #[] = .ok heap ∧
        Kept id (2 : Int).toNat (seen.map Scalar.magnitude) heap) :=
  ⟨fun _ _ _ _ => Iff.rfl,
    smallestLarge_finds_kth_largest (P := fun _ => True) (fun _ _ _ _ => Iff.rfl) tiedValues 2
      fun _ _ => trivial⟩

end Threshold

end ItemRecommender.Heap
