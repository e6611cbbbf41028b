/-! # Splitting records

    A stage reads each input in contiguous splits. A list of `n` records is cut into
    `k = max 1 (min s n)` splits for a requested count `s`; the first `n % k` splits hold
    `n / k + 1` records and the others `n / k`. An empty list has no splits. -/

namespace ItemRecommender.Batch

variable {ρ : Type}

/-- The number of splits for `n > 0` records and a requested count `s`. -/
def splitCount (n : Nat) (s : Int) : Nat := max 1 (min s n).toNat

/-- The sizes of the splits of `n` records into `k` parts. -/
def splitSizes (n k : Nat) : List Nat :=
  (List.range k).map fun i => n / k + if i < n % k then 1 else 0

/-- Cuts records into consecutive pieces of the given sizes. -/
def cut : List Nat → List ρ → List (List ρ)
  | [], _ => []
  | size :: sizes, records => records.take size :: cut sizes (records.drop size)

/-- The splits of a list of records for a requested count `s`. -/
def splitRecords (records : List ρ) (s : Int) : List (List ρ) :=
  if records.isEmpty then []
  else cut (splitSizes records.length (splitCount records.length s)) records

/-- Cutting by sizes that add up to the length loses nothing. -/
theorem flatten_cut (sizes : List Nat) (records : List ρ)
    (h : sizes.foldr (· + ·) 0 = records.length) :
    (cut sizes records).flatten = records := by
  induction sizes generalizing records with
  | nil => simp at h; simp [cut, List.length_eq_zero_iff.1 h.symm]
  | cons size sizes ih =>
    simp only [List.foldr_cons] at h
    simp only [cut, List.flatten_cons]
    rw [ih (records.drop size) (by simp; omega), List.take_append_drop]

/-- Cutting by sizes that add up to the length gives pieces of exactly those sizes. -/
theorem map_length_cut (sizes : List Nat) (records : List ρ)
    (h : sizes.foldr (· + ·) 0 = records.length) :
    (cut sizes records).map List.length = sizes := by
  induction sizes generalizing records with
  | nil => rfl
  | cons size sizes ih =>
    simp only [List.foldr_cons] at h
    simp only [cut, List.map_cons, List.length_take, ih (records.drop size) (by simp; omega)]
    congr 1
    omega

/-- The split sizes of `n` records add up to `n`. -/
theorem sum_splitSizes (n k : Nat) (hk : 0 < k) : (splitSizes n k).foldr (· + ·) 0 = n := by
  change (splitSizes n k).sum = n
  have hsum : ((List.range k).map fun i => n / k + if i < n % k then 1 else 0).sum =
      k * (n / k) + min (n % k) k := by
    clear hk
    generalize n / k = q
    generalize n % k = r
    induction k with
    | zero => simp
    | succ k ih =>
      rw [List.range_succ, List.map_append, List.sum_append, ih]
      by_cases h : k < r <;> simp [h, Nat.add_mul] <;> omega
  rw [splitSizes, hsum, Nat.min_eq_left (Nat.le_of_lt (Nat.mod_lt n hk)), Nat.div_add_mod]

/-- When `k` does not divide `n`, the quotient rounded up is one more than rounded down. -/
theorem ceil_eq_succ_div (n k : Nat) (hk : 0 < k) (hr : 0 < n % k) :
    (n + k - 1) / k = n / k + 1 := by
  have hn := Nat.div_add_mod n k
  have hlt := Nat.mod_lt n hk
  have h1 : n + k - 1 = k * (n / k + 1) + (n % k - 1) := by
    rw [Nat.mul_add, Nat.mul_one]; omega
  rw [h1, Nat.mul_add_div hk, Nat.div_eq_of_lt (show n % k - 1 < k by omega), Nat.add_zero]

end ItemRecommender.Batch
