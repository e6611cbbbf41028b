import ItemRecommender.Batch.Split
/-! # Balanced splits

    Main statement: `splitRecords_balanced`. The splits of a list concatenate to the list, none
    is empty, and for `n` records and a requested count `s` there are `k = max 1 (min s n)` of
    them (none when `n = 0`): the first `n % k` hold `n / k` rounded up, the rest `n / k`. -/

namespace ItemRecommender.Batch

variable {ρ : Type}

/-- Splitting is a balanced contiguous partition into `max 1 (min s n)` non-empty pieces. -/
theorem splitRecords_balanced (records : List ρ) (s : Int) :
    (splitRecords records s).flatten = records ∧ [] ∉ splitRecords records s ∧
    (splitRecords records s).map List.length =
      (List.range (if records.length = 0 then 0 else max 1 (min s records.length).toNat)).map
        fun i => if i < records.length % max 1 (min s records.length).toNat
          then (records.length + max 1 (min s records.length).toNat - 1) /
            max 1 (min s records.length).toNat
          else records.length / max 1 (min s records.length).toNat := by
  generalize hn : records.length = n
  generalize hk : max 1 (min s n).toNat = k
  cases records with
  | nil => simp at hn; subst hn; simp [splitRecords]
  | cons r rs =>
    have hn0 : 0 < n := by simp at hn; omega
    have hk0 : 0 < k := by omega
    have hkn : k ≤ n := by omega
    have hsum : (splitSizes n k).foldr (· + ·) 0 = (r :: rs).length := by rw [sum_splitSizes n k hk0, hn]
    have hsplit : splitRecords (r :: rs) s = cut (splitSizes n k) (r :: rs) := by
      simp [splitRecords, splitCount, hn, hk]
    have hlen := map_length_cut (splitSizes n k) (r :: rs) hsum
    refine ⟨?_, ?_, ?_⟩
    · rw [hsplit]; exact flatten_cut _ _ hsum
    · intro hmem
      have h0 : 0 ∈ splitSizes n k := by
        rw [← hlen, hsplit] at *
        exact List.mem_map.2 ⟨[], hmem, rfl⟩
      simp only [splitSizes, List.mem_map, List.mem_range] at h0
      obtain ⟨i, _, hi⟩ := h0
      have : 0 < n / k := Nat.div_pos hkn hk0
      omega
    · rw [hsplit, hlen, if_neg (by omega), splitSizes]
      apply List.map_congr_left
      intro i _
      by_cases hi : i < n % k
      · rw [if_pos hi, if_pos hi, ceil_eq_succ_div n k hk0 (by omega)]
      · rw [if_neg hi, if_neg hi, Nat.add_zero]

end ItemRecommender.Batch
