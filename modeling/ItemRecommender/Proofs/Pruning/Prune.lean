import Mathlib
import ItemRecommender.Pruning
import ItemRecommender.Proofs.Pruning.Heap
import ItemRecommender.Proofs.Batch.Collect
import ItemRecommender.Proofs.Batch.Grouping
import ItemRecommender.Proofs.Ledger

/-! # Pruning a user vector

    Pruning keeps the keys of a vector in their order and changes each slot on its own: an
    excluded slot stays excluded, and a value is excluded exactly when at least `k` values of
    the vector have a larger magnitude (`prune_spec`, with `prunedSlot` saying it without the
    heap). The two early returns agree with this rule, since a value never counts itself. The
    split of a selected user's pruned vector gives, at each index of the vector, one rating of
    the user with the pruned slot (`valuesAt_splitUserVector`); a user left out gives nothing. -/

namespace ItemRecommender

open Batch Heap

variable {α β : Type} [Scalar α] [Inhabited α] [LinearOrder β]

/-- The values of a vector's slots that are not excluded, in entry order. -/
def presentValues (vector : UserVector α) : List α := vector.entries.filterMap fun e => e.2.value?

/-- A slot after pruning to the `k` largest magnitudes among `present`, ties kept: a value with
at least `k` magnitudes above its own is excluded. -/
def prunedSlot (key : α → β) (present : List α) (k : Int) : Slot α → Slot α
  | .excluded => .excluded
  | .value v =>
    if k ≤ ((present.filter fun w => key (Scalar.magnitude v) < key (Scalar.magnitude w)).length : Int)
    then .excluded else .value v

omit [Scalar α] [Inhabited α] in
theorem mem_presentValues {vector : UserVector α} {x : Int} {v : α}
    (h : vector.get? x = some (.value v)) : v ∈ presentValues vector := by
  rw [Ledger.get?_eq_some_iff] at h
  exact List.mem_filterMap.2 ⟨(x, .value v), h, rfl⟩

omit [Scalar α] [Inhabited α] in
theorem length_presentValues_le (vector : UserVector α) :
    (presentValues vector).length ≤ vector.size :=
  List.length_filterMap_le _ _

omit [Inhabited α] in
/-- A value never counts itself among those above it, so with at most `k` values present every
value stays. -/
theorem prunedSlot_of_length_le (key : α → β) {present : List α} {k : Int}
    (hlen : (present.length : Int) ≤ k) {s : Slot α} (hs : ∀ v, s = .value v → v ∈ present) :
    prunedSlot key present k s = s := by
  cases s with
  | excluded => rfl
  | value v =>
      have hlt : (present.filter fun w => key (Scalar.magnitude v) < key (Scalar.magnitude w)).length <
          present.length :=
        List.length_filter_lt_length_iff_exists.2 ⟨v, hs v rfl, by simp⟩
      simp only [prunedSlot]
      rw [if_neg (by omega)]

/-- **Pruning** is the rule applied slot by slot, the early returns included, whenever the
magnitudes compare by a key. -/
theorem prune_eq_mapValues {key : α → β} {P : α → Prop} (hkey : ReadsOff key P)
    (vector : UserVector α) {k : Int} (hk : 1 ≤ k)
    (hP : ∀ v ∈ presentValues vector, P (Scalar.magnitude v)) :
    prune vector k = .ok (vector.mapValues (prunedSlot key (presentValues vector) k)) := by
  -- the early returns keep the vector, which is what the rule gives there
  have hsame : ((presentValues vector).length : Int) ≤ k →
      vector.mapValues (prunedSlot key (presentValues vector) k) = vector := fun hlen =>
    Ledger.mapValues_eq_self vector fun _ s hx =>
      prunedSlot_of_length_le key hlen fun v hv => mem_presentValues (hv ▸ hx)
  unfold prune
  by_cases h1 : (vector.size : Int) ≤ k
  · rw [if_pos h1, hsame (le_trans (by exact_mod_cast length_presentValues_le vector) h1)]
    rfl
  rw [if_neg h1]
  by_cases h2 : ((presentValues vector).length : Int) ≤ k
  · rw [hsame h2]
    simp only [presentValues] at h2
    rw [if_pos h2]
    rfl
  have hne : presentValues vector ≠ [] := by
    intro h
    rw [h] at h2
    simp at h2
    omega
  obtain ⟨top, htop, hmem, hspec⟩ := smallestLarge_spec hkey (presentValues vector) hk hne hP
  have hPtop : P top := by
    obtain ⟨v, hv, rfl⟩ := List.mem_map.1 hmem
    exact hP v hv
  simp only [presentValues] at h2 htop
  rw [if_neg h2, htop]
  refine congrArg Except.ok (Ledger.mapValues_congr vector fun x s hx => ?_)
  cases s with
  | excluded => rfl
  | value v =>
      have hv := mem_presentValues hx
      have hiff := (hkey _ _ (hP v hv) hPtop).trans (hspec v hv)
      simp only [prunedSlot]
      by_cases hlt : Scalar.magnitude v < top
      · rw [if_pos hlt, if_pos (hiff.1 hlt)]
      · rw [if_neg hlt, if_neg (mt hiff.2 hlt)]

/-- **Pruning** keeps the keys in order, an excluded slot excluded, and a value unless at least
`k` values of the vector have a larger magnitude, whenever the magnitudes compare by a key. -/
theorem prune_spec {key : α → β} {P : α → Prop} (hkey : ReadsOff key P) (vector : UserVector α)
    {k : Int} (hk : 1 ≤ k) (hP : ∀ v ∈ presentValues vector, P (Scalar.magnitude v)) :
    ∃ pruned, prune vector k = .ok pruned ∧ pruned.keys = vector.keys ∧
      ∀ x, pruned.get? x = (vector.get? x).map (prunedSlot key (presentValues vector) k) :=
  ⟨_, prune_eq_mapValues hkey vector hk hP, Ledger.keys_mapValues _ _,
    fun x => Ledger.get?_mapValues _ _ x⟩

/-- Pruning that succeeds keeps the keys of the vector, however the magnitudes compare. -/
theorem prune_keys {vector pruned : UserVector α} {k : Int} (h : prune vector k = .ok pruned) :
    pruned.keys = vector.keys := by
  unfold prune at h
  by_cases h1 : (vector.size : Int) ≤ k
  · rw [if_pos h1, pure_eq_ok] at h
    rw [h]
  rw [if_neg h1] at h
  by_cases h2 : ((vector.entries.filterMap fun e => e.2.value?).length : Int) ≤ k
  · rw [if_pos h2, pure_eq_ok] at h
    rw [h]
  -- past the early returns, pruning maps the slots
  rw [if_neg h2, bind_eq_ok] at h
  obtain ⟨threshold, -, h⟩ := h
  rw [pure_eq_ok] at h
  rw [← h, Ledger.keys_mapValues]

/-- The vector pruning gives; for `k ≥ 1` pruning fails on no vector (`prune_eq_ok`). -/
def prunedVector (vector : UserVector α) (k : Int) : UserVector α :=
  (prune vector k).toOption.getD vector

/-- **Pruning never fails** once `k ≥ 1`, however the magnitudes compare: past the early
returns at least one value is present, so the threshold exists. -/
theorem prune_eq_ok (vector : UserVector α) {k : Int} (hk : 1 ≤ k) :
    prune vector k = .ok (prunedVector vector k) := by
  have hok : ∃ pruned, prune vector k = .ok pruned := by
    unfold prune
    by_cases h1 : (vector.size : Int) ≤ k
    · exact ⟨vector, by rw [if_pos h1]; rfl⟩
    rw [if_neg h1]
    by_cases h2 : ((vector.entries.filterMap fun e => e.2.value?).length : Int) ≤ k
    · exact ⟨vector, by rw [if_pos h2]; rfl⟩
    rw [if_neg h2]
    have hne : (vector.entries.filterMap fun e => e.2.value?) ≠ [] := by
      intro h
      rw [h] at h2
      simp only [List.length_nil, Nat.cast_zero] at h2
      omega
    obtain ⟨top, htop⟩ := smallestLarge_ok _ hk hne
    rw [htop]
    exact ⟨_, rfl⟩
  obtain ⟨pruned, hpruned⟩ := hok
  rw [prunedVector, hpruned]
  rfl

/-- The pruned vector has the keys of the vector, whether or not pruning succeeds. -/
@[simp] theorem keys_prunedVector (vector : UserVector α) (k : Int) :
    (prunedVector vector k).keys = vector.keys := by
  unfold prunedVector
  cases hp : prune vector k with
  | error e => rfl
  | ok pruned => rw [Except.toOption, Option.getD_some, prune_keys hp]

/-- Whether a user is among the given users; every user is when none are given. -/
def isSelected (users : Option (List Int)) (user : Int) : Bool := users.all fun us => user ∈ us

/-- The values at a key of entries listed in any order, each key once. -/
theorem valuesAt_of_perm {γ : Type} {l : List (Int × γ)} (m : Ledger Int γ) (hl : l.Perm m.entries)
    (x : Int) : valuesAt x l = (m.get? x).toList := by
  have hp : valuesAt x l |>.Perm ((m.entries.filter fun e => e.1 = x).map Prod.snd) :=
    (hl.filter _).map _
  rw [Ledger.map_snd_filter_entries] at hp
  cases hx : m.get? x with
  | none => rw [hx] at hp; exact List.perm_nil.1 hp
  | some v => rw [hx] at hp; exact List.perm_singleton.1 hp

omit [Scalar α] [Inhabited α] in
/-- The ratings a split makes of a pruned vector, in ascending index order: one at each index
of the vector. -/
theorem valuesAt_ratingsOf_sorted (pruned : UserVector α) (user x : Int) :
    valuesAt x ((pruned.entries.mergeSort fun a b => decide (a.1 ≤ b.1)).map
      fun e => (e.1, JoinPart.rating user e.2)) = ((pruned.get? x).map (JoinPart.rating user)).toList := by
  rw [valuesAt_map_snd, valuesAt_of_perm pruned (List.mergeSort_perm _ _)]
  cases pruned.get? x <;> rfl

/-- The split of a vector whose pruning gives `pruned`: a selected user gives, at each index of
the vector, one rating with the slot of `pruned` there; a user left out gives nothing. -/
theorem splitUserVector_of_prune {k : Int} (users : Option (List Int)) (user : Int)
    {vector pruned : UserVector α} (hpruned : prune vector k = .ok pruned) :
    ∃ parts, splitUserVector k users user vector = .ok parts ∧ ∀ x, valuesAt x parts =
      if isSelected users user then ((pruned.get? x).map (JoinPart.rating user)).toList else [] := by
  unfold splitUserVector
  cases users with
  | none =>
      refine ⟨_, by simp only [hpruned]; rfl, fun x => ?_⟩
      simp only [isSelected, Option.all_none, if_true]
      exact valuesAt_ratingsOf_sorted pruned user x
  | some us =>
      by_cases hu : user ∈ us
      · refine ⟨_, by simp only [hu, not_true_eq_false, if_false, hpruned]; rfl, fun x => ?_⟩
        simp only [isSelected, Option.all_some, hu, decide_true, if_true]
        exact valuesAt_ratingsOf_sorted pruned user x
      · refine ⟨[], by simp only [hu, not_false_eq_true, if_true]; rfl, fun x => ?_⟩
        simp [isSelected, hu]

/-- **Splitting a vector for the join**: a selected user gives, at each index of the vector, one
rating with the pruned slot; a user left out gives nothing. -/
theorem valuesAt_splitUserVector {key : α → β} {P : α → Prop} (hkey : ReadsOff key P) {k : Int}
    (hk : 1 ≤ k) (users : Option (List Int)) (user : Int) (vector : UserVector α)
    (hP : ∀ v ∈ presentValues vector, P (Scalar.magnitude v)) :
    ∃ parts, splitUserVector k users user vector = .ok parts ∧ ∀ x, valuesAt x parts =
      if isSelected users user then
        ((vector.get? x).map fun s => JoinPart.rating user (prunedSlot key (presentValues vector) k s)).toList
      else [] := by
  obtain ⟨pruned, hpruned, -, hget⟩ := prune_spec hkey vector hk hP
  obtain ⟨parts, hparts, hvalues⟩ := splitUserVector_of_prune users user hpruned
  refine ⟨parts, hparts, fun x => ?_⟩
  rw [hvalues x, hget x, Option.map_map]
  rfl

/-- What a split that succeeds gives: for a selected user, at each index, the rating of the
slot of a vector with the keys of the user's vector; for a user left out, nothing. -/
theorem splitUserVector_ok {k : Int} {users : Option (List Int)} {user : Int}
    {vector : UserVector α} {parts : List (Int × JoinPart α)}
    (h : splitUserVector k users user vector = .ok parts) :
    ∃ pruned : UserVector α, pruned.keys = vector.keys ∧ ∀ x, valuesAt x parts =
      if isSelected users user then ((pruned.get? x).map (JoinPart.rating user)).toList else [] := by
  unfold splitUserVector at h
  cases users with
  | none =>
    simp only [bind_eq_ok, pure_eq_ok] at h
    obtain ⟨pruned, hpruned, rfl⟩ := h
    refine ⟨pruned, prune_keys hpruned, fun x => ?_⟩
    simp only [isSelected, Option.all_none, if_true]
    exact valuesAt_ratingsOf_sorted pruned user x
  | some us =>
    by_cases hu : user ∈ us
    · simp only [hu, not_true_eq_false, if_false, bind_eq_ok, pure_eq_ok] at h
      obtain ⟨pruned, hpruned, rfl⟩ := h
      refine ⟨pruned, prune_keys hpruned, fun x => ?_⟩
      simp only [isSelected, Option.all_some, hu, decide_true, if_true]
      exact valuesAt_ratingsOf_sorted pruned user x
    · simp only [hu, not_false_eq_true, if_true, pure_eq_ok] at h
      subst h
      exact ⟨vector, rfl, fun x => by simp [isSelected, hu, valuesAt]⟩

end ItemRecommender