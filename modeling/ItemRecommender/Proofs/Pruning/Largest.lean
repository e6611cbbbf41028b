import Mathlib
import ItemRecommender.Proofs.Pruning.Prune
import ItemRecommender.Proofs.Recommender.Exact

/-! # Pruning keeps the largest magnitudes

    A value survives pruning when fewer than `k` of the values present lie above it
    (`prunedSlot`); this module counts what that rule keeps and what it costs to get it.

    * Among the values present, one with fewer than `k` values above it lies above every one
      with at least `k` (`lt_of_countAbove`), and at least `min k n` of the `n` values are
      kept: the excluded value of largest magnitude has `k` values above it, all kept
      (`min_le_length_kept`).
    * For `k ≥ 1` pruning is the rule applied slot by slot (`prune_eq_mapValues`), the early
      returns included, so the pruned vector holds exactly the kept values
      (`presentValues_prune`).
    * For `k ≤ 0` the heap has no room: pruning fails as soon as a value is present, and
      otherwise returns the vector (`prune_of_nonpos`). -/

namespace ItemRecommender

open Heap

variable {α β : Type} [Scalar α] [Inhabited α] [LinearOrder β]

/-! ## Ranks among the values present -/

section Ranks

omit [Inhabited α]

/-- How many of `present` have a larger magnitude than `v`, compared by `key`. -/
def countAbove (key : α → β) (present : List α) (v : α) : Nat :=
  (present.filter fun w => key (Scalar.magnitude v) < key (Scalar.magnitude w)).length

/-- Whether `v` has fewer than `k` values of `present` above it. -/
def isKept (key : α → β) (present : List α) (k : Int) (v : α) : Bool :=
  decide ((countAbove key present v : Int) < k)

theorem prunedSlot_value (key : α → β) (present : List α) (k : Int) (v : α) :
    prunedSlot key present k (.value v) =
      if isKept key present k v then .value v else .excluded := by
  show (if k ≤ (countAbove key present v : Int) then (Slot.excluded : Slot α) else .value v) = _
  by_cases h : (countAbove key present v : Int) < k
  · rw [if_neg (not_le.2 h), isKept, if_pos (decide_eq_true h)]
  · rw [if_pos (not_lt.1 h), isKept, if_neg (by simpa using h)]

/-- A kept value lies above every value with at least `k` values above it. -/
theorem lt_of_countAbove {key : α → β} {present : List α} {k : Int} {v w : α}
    (hv : isKept key present k v) (hw : isKept key present k w = false) :
    key (Scalar.magnitude w) < key (Scalar.magnitude v) := by
  simp only [isKept, decide_eq_true_eq, decide_eq_false_iff_not, not_lt] at hv hw
  by_contra hle
  -- everything above `w` is then above `v` too
  have hmono : countAbove key present w ≤ countAbove key present v :=
    (List.monotone_filter_right present fun u hu => by
      simp only [decide_eq_true_eq] at hu ⊢
      exact lt_of_le_of_lt (not_lt.1 hle) hu).length_le
  omega

/-- **At least `min k n` values are kept.** The excluded value of largest magnitude has at least
`k` values above it, and every one of them is kept. -/
theorem min_le_length_kept (key : α → β) (present : List α) (k : Int) :
    min k present.length ≤ ((present.filter (isKept key present k)).length : Int) := by
  by_cases hall : ∀ v ∈ present, isKept key present k v
  · rw [List.filter_eq_self.2 hall]
    exact min_le_right _ _
  push Not at hall
  set excluded := present.filter fun v => !isKept key present k v
  have hne : excluded ≠ [] := by
    obtain ⟨v, hv, hnot⟩ := hall
    exact List.ne_nil_of_mem (List.mem_filter.2 ⟨hv, by simpa using hnot⟩)
  obtain ⟨t, ht⟩ := Option.ne_none_iff_exists'.1
    (mt List.argmax_eq_none.1 hne : excluded.argmax (fun v => key (Scalar.magnitude v)) ≠ none)
  have htex := List.mem_filter.1 (List.argmax_mem ht)
  -- the values above `t` are all kept, since `t` is the largest excluded one
  have hkept : ∀ w ∈ present, key (Scalar.magnitude t) < key (Scalar.magnitude w) →
      isKept key present k w := by
    intro w hw habove
    by_contra hnot
    have hwex : w ∈ excluded := List.mem_filter.2 ⟨hw, by simpa using hnot⟩
    exact absurd (List.le_of_mem_argmax hwex ht) (not_le.2 habove)
  have hboth : (present.filter fun w => key (Scalar.magnitude t) < key (Scalar.magnitude w)) =
      present.filter fun w =>
        decide (key (Scalar.magnitude t) < key (Scalar.magnitude w)) && isKept key present k w :=
    List.filter_congr fun w hw => by
      by_cases h : key (Scalar.magnitude t) < key (Scalar.magnitude w)
      · simp [h, hkept w hw h]
      · simp [h]
  have habove : List.Sublist (present.filter fun w => key (Scalar.magnitude t) < key (Scalar.magnitude w))
      (present.filter (isKept key present k)) :=
    hboth ▸ List.monotone_filter_right present fun w hw => (Bool.and_eq_true_iff.1 hw).2
  have htk : k ≤ (countAbove key present t : Int) := by
    simpa [isKept] using htex.2
  calc min k present.length ≤ k := min_le_left _ _
    _ ≤ countAbove key present t := htk
    _ ≤ _ := by exact_mod_cast habove.length_le

/-- A slot the rule keeps as a value was that value, with fewer than `k` values above it. -/
theorem prunedSlot_eq_value_iff (key : α → β) (present : List α) (k : Int) {s : Slot α} {v : α} :
    prunedSlot key present k s = .value v ↔ s = .value v ∧ isKept key present k v := by
  cases s with
  | excluded => simp [prunedSlot]
  | value u =>
      rw [prunedSlot_value]
      by_cases h : isKept key present k u
      · simp only [h, if_true, Slot.value.injEq]
        constructor
        · rintro rfl
          exact ⟨rfl, h⟩
        · rintro ⟨rfl, -⟩
          rfl
      · simp only [h, Bool.false_eq_true, if_false, reduceCtorEq, Slot.value.injEq, false_iff]
        rintro ⟨rfl, hv⟩
        exact h hv

/-- The values the rule keeps, in entry order: those with fewer than `k` values above them. -/
theorem presentValues_mapValues_prunedSlot (key : α → β) (present : List α) (k : Int)
    (vector : UserVector α) :
    presentValues (vector.mapValues (prunedSlot key present k)) =
      (presentValues vector).filter (isKept key present k) := by
  simp only [presentValues, Ledger.mapValues, List.filterMap_map, List.filter_filterMap]
  apply List.filterMap_congr
  rintro ⟨x, s⟩ -
  cases s with
  | excluded => rfl
  | value v =>
      show (prunedSlot key present k (.value v)).value? = (some v).filter (isKept key present k)
      rw [prunedSlot_value, Option.filter_some]
      by_cases h : isKept key present k v
      · rw [if_pos h, if_pos h]
        rfl
      · rw [if_neg h, if_neg h]
        rfl

end Ranks

/-! ## Pruning a vector -/

section Prune

/-- With no room in the heap the pass fails at the first value, and the empty heap has no
root. -/
theorem smallestLarge_of_nonpos (values : List α) {k : Int} (hk : k ≤ 0) :
    smallestLarge values k = .error .outOfRange := by
  rw [smallestLarge_eq]
  cases values with
  | nil => rfl
  | cons v vs =>
      have hstep : passStep k #[] v = .error .outOfRange := by
        simp only [passStep, List.size_toArray, List.length_nil, Nat.cast_zero]
        rw [if_neg (by omega)]
        rfl
      rw [List.foldlM_cons, hstep]
      rfl

/-- **Pruning to no value** (`k ≤ 0`) returns the vector while no value is present beyond `k`,
and fails otherwise: the heap is asked for a root it cannot hold. -/
theorem prune_of_nonpos (vector : UserVector α) {k : Int} (hk : k ≤ 0) :
    prune vector k =
      if ((presentValues vector).length : Int) ≤ k then .ok vector else .error .outOfRange := by
  unfold prune
  by_cases h1 : (vector.size : Int) ≤ k
  · have hlen : ((presentValues vector).length : Int) ≤ k :=
      le_trans (by exact_mod_cast length_presentValues_le vector) h1
    rw [if_pos h1, if_pos hlen]
    rfl
  rw [if_neg h1]
  simp only [presentValues]
  by_cases h2 : ((vector.entries.filterMap fun e => e.2.value?).length : Int) ≤ k
  · rw [if_pos h2]
    exact (if_pos h2).symm
  · rw [if_neg h2, smallestLarge_of_nonpos _ hk]
    exact (if_neg h2).symm

/-- **Pruning keeps exactly the values of the `k` largest magnitudes, ties included.** For
`k ≥ 1`, whenever the magnitudes present compare by a key, the pruned vector has the same keys in
the same order, an excluded slot stays excluded and a value is kept unless at least `k` values
present lie above it; so at least `min k n` of the `n` values present are kept, each above every
value pruned. For `k = 0` pruning fails exactly when a value is present, and for `k < 0` it
always fails. -/
theorem prune_keeps_largest_magnitudes {key : α → β} {P : α → Prop} (hkey : ReadsOff key P)
    (vector : UserVector α) (k : Int) (hP : ∀ v ∈ presentValues vector, P (Scalar.magnitude v)) :
    (1 ≤ k → ∃ pruned, prune vector k = .ok pruned ∧ pruned.keys = vector.keys ∧
      (∀ x, pruned.get? x = (vector.get? x).map (prunedSlot key (presentValues vector) k)) ∧
      min k (presentValues vector).length ≤ (presentValues pruned).length ∧
      ∀ x y v w, pruned.get? x = some (.value v) → pruned.get? y = some .excluded →
        vector.get? y = some (.value w) → key (Scalar.magnitude w) < key (Scalar.magnitude v)) ∧
    (k = 0 → prune vector k =
      if (presentValues vector).isEmpty then .ok vector else .error .outOfRange) ∧
    (k < 0 → prune vector k = .error .outOfRange) := by
  set present := presentValues vector
  refine ⟨fun hk => ?_, fun hk => ?_, fun hk => ?_⟩
  · refine ⟨_, prune_eq_mapValues hkey vector hk hP, Ledger.keys_mapValues _ _,
      fun x => Ledger.get?_mapValues _ _ x, ?_, ?_⟩
    · rw [presentValues_mapValues_prunedSlot]
      exact min_le_length_kept key present k
    · intro x y v w hx hy hw
      -- `v` is kept where it stands, and `w` is pruned
      rw [Ledger.get?_mapValues, Option.map_eq_some_iff] at hx hy
      obtain ⟨s, -, hs⟩ := hx
      obtain ⟨t, ht, hpruned⟩ := hy
      rw [hw, Option.some.injEq] at ht
      subst ht
      have hwout : isKept key present k w = false := by
        rw [prunedSlot_value] at hpruned
        by_contra h
        rw [Bool.not_eq_false] at h
        rw [if_pos h] at hpruned
        cases hpruned
      exact lt_of_countAbove ((prunedSlot_eq_value_iff key present k).1 hs).2 hwout
  · subst hk
    rw [prune_of_nonpos vector le_rfl]
    by_cases hempty : present = []
    · simp [present, hempty]
    · have : present.isEmpty = false := by simpa [List.isEmpty_iff] using hempty
      rw [this, if_neg (by simpa [List.length_eq_zero_iff] using hempty)]
      rfl
  · rw [prune_of_nonpos vector hk.le, if_neg (by omega)]

/-- Magnitudes `2, 2, 1` beside an excluded slot. -/
def tiedVector : UserVector ℚ :=
  Ledger.ofList [(0, .value 2), (1, .value (-2)), (2, .value 1), (3, .excluded)]

/-- Ties at the threshold stay: asked for the largest magnitude of `tiedVector`, pruning keeps
both values tied at `2`. -/
theorem prune_keeps_ties :
    ReadsOff (id : ℚ → ℚ) (fun _ => True) ∧
    ((1 : Int) ≤ 1 → ∃ pruned, prune tiedVector 1 = .ok pruned ∧ pruned.keys = tiedVector.keys ∧
      (∀ x, pruned.get? x = (tiedVector.get? x).map (prunedSlot id (presentValues tiedVector) 1)) ∧
      min (1 : Int) (presentValues tiedVector).length ≤ ((presentValues pruned).length : Int) ∧
      ∀ x y v w, pruned.get? x = some (.value v) → pruned.get? y = some .excluded →
        tiedVector.get? y = some (.value w) → id (Scalar.magnitude w) < id (Scalar.magnitude v)) ∧
    ((1 : Int) = 0 → prune tiedVector 1 =
      if (presentValues tiedVector).isEmpty then .ok tiedVector else .error .outOfRange) ∧
    ((1 : Int) < 0 → prune tiedVector 1 = .error .outOfRange) :=
  ⟨fun _ _ _ _ => Iff.rfl,
    prune_keeps_largest_magnitudes (P := fun _ => True) (fun _ _ _ _ => Iff.rfl) tiedVector 1
      fun _ _ => trivial⟩

end Prune

end ItemRecommender
