import Mathlib
import ItemRecommender.Proofs.Recommender.Scores

/-! # Summing partial vectors in any order and any grouping

    The combiner of the aggregation stage sums a user's partial vectors in blocks and the
    reducer sums the block sums; the stage is right whatever blocks it is given only because
    summing partial vectors forgets order and grouping. Keys and rated indices are unions, so
    this holds of them for every scalar (`mem_keys_sumPartials_regroup`,
    `mem_rated_sumPartials_regroup`).

    Scores are running sums: at an index, a sum of partial vectors holds the parts' scores
    there added left to right from zero, and nothing when no part has one (`get?_sumPartials`).
    Order and grouping then matter only through rounding. Measured by a map `val` to the
    rationals under which addition is exact on the sums that arise (`AddsExactly`), a running
    sum of blocks of running sums measures the sum of all the parts
    (`map_runningSum_blocks`), so regrouping keeps every score's measure
    (`map_get?_sumPartials_regroup`). The rationals add exactly everywhere (`addsExactly_rat`);
    doubles, measured by their values, add exactly on the integers below `2 ^ 53`
    (`SmallInteger`). -/

namespace ItemRecommender

variable {α : Type} [Scalar α]

/-! ## Running sums -/

section Running

/-- One more score added into a running total; an absent total counts as zero. -/
def addScore (total : Option α) (v : α) : Option α := some (total.getD Scalar.zero + v)

/-- Scores added left to right from zero, or nothing for no score. -/
def runningSum (xs : List α) : Option α := xs.foldl addScore none

/-- The scores of some partial vectors at one index, in order. -/
def scoresAt (j : Int) (vs : List (PartialScores α)) : List α := vs.filterMap (·.scores.get? j)

/-- At one key, adding columns into a total adds their values there into the total's. -/
theorem get?_foldl_addInto (acc : Column α) (cs : List (Column α)) (j : Int) :
    (cs.foldl addInto acc).get? j = (cs.filterMap (·.get? j)).foldl addScore (acc.get? j) := by
  induction cs generalizing acc with
  | nil => rfl
  | cons c cs ih =>
      rw [List.foldl_cons, ih, get?_addInto]
      cases hc : c.get? j with
      | none => simp [hc]
      | some v => simp [hc, addScore]

/-- **The score of a sum** of partial vectors at an index is the running sum of their scores
there. -/
theorem get?_sumPartials (vs : List (PartialScores α)) (j : Int) :
    (sumPartials vs).scores.get? j = runningSum (scoresAt j vs) := by
  rw [sumPartials_eq]
  show ((vs.map (·.scores)).foldl addInto Ledger.empty).get? j = _
  rw [get?_foldl_addInto, List.filterMap_map]
  rfl

theorem foldl_addScore_some (xs : List α) (a : α) :
    xs.foldl addScore (some a) = some (xs.foldl (· + ·) a) := by
  induction xs generalizing a with
  | nil => rfl
  | cons x xs ih => exact ih (a + x)

@[simp] theorem runningSum_nil : runningSum ([] : List α) = none := rfl

theorem runningSum_cons (x : α) (xs : List α) :
    runningSum (x :: xs) = some ((x :: xs).foldl (· + ·) Scalar.zero) :=
  foldl_addScore_some xs _

theorem runningSum_eq_none_iff (xs : List α) : runningSum xs = none ↔ xs = [] := by
  cases xs with
  | nil => simp
  | cons x xs => simp [runningSum_cons]

/-- The block sums of some blocks are absent exactly when every block is empty. -/
theorem filterMap_runningSum_eq_nil_iff (bs : List (List α)) :
    bs.filterMap runningSum = [] ↔ bs.flatten = [] := by
  simp [List.filterMap_eq_nil_iff, List.flatten_eq_nil_iff, runningSum_eq_none_iff]

end Running

/-! ## Exact addition -/

section Exact

/-- A scalar adds exactly, as `val` measures it, wherever both summands and their sum have
measures that `Fits`; zero measures zero. The rationals add exactly everywhere; doubles, measured
by their values, add exactly where both summands and the sum are `SmallInteger`s. -/
structure AddsExactly (val : α → ℚ) (Fits : ℚ → Prop) : Prop where
  val_zero : val Scalar.zero = 0
  val_add : ∀ a b, Fits (val a) → Fits (val b) → Fits (val a + val b) →
    val (a + b) = val a + val b

/-- An integer of magnitude below `2 ^ 53`: a double holds each exactly, and the sum of two
doubles holding such integers is exact whenever it is one too. -/
def SmallInteger (q : ℚ) : Prop := ∃ n : ℤ, q = n ∧ |n| < 2 ^ 53

theorem addsExactly_rat : AddsExactly (id : ℚ → ℚ) fun _ => True :=
  ⟨rfl, fun _ _ _ _ _ => rfl⟩

variable {val : α → ℚ} {Fits : ℚ → Prop}

/-- **One exact addition**: a total measuring the sum of `p` plus a value measuring the sum of
`b` measures the sum of both, when every part of `p ++ b` has a sum that fits. -/
theorem val_add_of_sums (h : AddsExactly val Fits) {a y : α} {p b : List α}
    (hfit : ∀ l : List α, l.Sublist (p ++ b) → Fits (l.map val).sum)
    (ha : val a = (p.map val).sum) (hy : val y = (b.map val).sum) :
    val (a + y) = ((p ++ b).map val).sum := by
  have hfa : Fits (val a) := ha ▸ hfit p (List.sublist_append_left _ _)
  have hfy : Fits (val y) := hy ▸ hfit b (List.sublist_append_right _ _)
  have hfay : Fits (val a + val y) := by
    rw [ha, hy, ← List.sum_append, ← List.map_append]
    exact hfit _ (List.Sublist.refl _)
  rw [h.val_add a y hfa hfy hfay, ha, hy, List.map_append, List.sum_append]

/-- Adding values left to right onto a total that measures the sum of `p`: the result measures
the sum of `p` and the values, as long as every part of them has a sum that fits. -/
theorem val_foldl_add (h : AddsExactly val Fits) (xs : List α) :
    ∀ (p : List α) (a : α), (∀ l : List α, l.Sublist (p ++ xs) → Fits (l.map val).sum) →
      val a = (p.map val).sum → val (xs.foldl (· + ·) a) = ((p ++ xs).map val).sum := by
  induction xs with
  | nil =>
      intro p a _ ha
      simpa using ha
  | cons x xs ih =>
      intro p a hfit ha
      have hfit' : ∀ l : List α, l.Sublist ((p ++ [x]) ++ xs) → Fits (l.map val).sum := by
        simpa using hfit
      have hstep : val (a + x) = ((p ++ [x]).map val).sum :=
        val_add_of_sums h (fun l hl => hfit' l (hl.trans (List.sublist_append_left _ _))) ha
          (by simp)
      rw [List.foldl_cons, ih (p ++ [x]) (a + x) hfit' hstep]
      simp

/-- Adding block sums left to right onto a total that measures the sum of `p`: the result
measures the sum of `p` and all the blocks, as long as every part of them has a sum that fits. -/
theorem val_foldl_blocks (h : AddsExactly val Fits) (bs : List (List α)) :
    ∀ (p : List α) (a : α),
      (∀ l : List α, l.Sublist (p ++ bs.flatten) → Fits (l.map val).sum) →
        val a = (p.map val).sum →
          val ((bs.filterMap runningSum).foldl (· + ·) a) = ((p ++ bs.flatten).map val).sum := by
  induction bs with
  | nil =>
      intro p a _ ha
      simpa using ha
  | cons b bs ih =>
      intro p a hfit ha
      cases b with
      | nil =>
          rw [List.filterMap_cons_none runningSum_nil, List.flatten_cons, List.nil_append]
          exact ih p a (by simpa using hfit) ha
      | cons x xs =>
          have hfit' : ∀ l : List α, l.Sublist ((p ++ x :: xs) ++ bs.flatten) →
              Fits (l.map val).sum := by
            simpa using hfit
          have hfit_block : ∀ l : List α, l.Sublist (p ++ x :: xs) → Fits (l.map val).sum :=
            fun l hl => hfit' l (hl.trans (List.sublist_append_left _ _))
          -- the block's own sum is exact, and so is adding it to the total
          have hblock :
              val ((x :: xs).foldl (· + ·) Scalar.zero) = ((x :: xs).map val).sum := by
            simpa using val_foldl_add h (x :: xs) [] Scalar.zero
              (fun l hl => hfit_block l (hl.trans (List.sublist_append_right _ _)))
              (by simpa using h.val_zero)
          rw [List.filterMap_cons, runningSum_cons, List.foldl_cons,
            ih (p ++ x :: xs) _ hfit' (val_add_of_sums h hfit_block ha hblock)]
          simp

/-- Measured exactly, a running sum is the sum of the measures, and nothing for no value. -/
theorem map_runningSum (h : AddsExactly val Fits) (xs : List α)
    (hfit : ∀ l : List α, l.Sublist xs → Fits (l.map val).sum) :
    (runningSum xs).map val = if xs = [] then none else some (xs.map val).sum := by
  cases xs with
  | nil => rfl
  | cons x xs =>
      rw [runningSum_cons, Option.map_some,
        val_foldl_add h (x :: xs) [] Scalar.zero (by simpa using hfit) (by simpa using h.val_zero)]
      simp

/-- **A running sum of block sums**, measured exactly, is the sum of the measures of all the
blocks' values, and nothing when every block is empty. -/
theorem map_runningSum_blocks (h : AddsExactly val Fits) (bs : List (List α))
    (hfit : ∀ l : List α, l.Sublist bs.flatten → Fits (l.map val).sum) :
    (runningSum (bs.filterMap runningSum)).map val =
      if bs.flatten = [] then none else some (bs.flatten.map val).sum := by
  cases hsums : bs.filterMap runningSum with
  | nil => simp [(filterMap_runningSum_eq_nil_iff bs).1 hsums]
  | cons y ys =>
      have hne : bs.flatten ≠ [] := fun hnil => by
        rw [(filterMap_runningSum_eq_nil_iff bs).2 hnil] at hsums
        cases hsums
      rw [runningSum_cons, Option.map_some, ← hsums, if_neg hne,
        val_foldl_blocks h bs [] Scalar.zero (by simpa using hfit) (by simpa using h.val_zero)]
      simp

end Exact

/-! ## Regrouping -/

section Regroup

variable {vs perm : List (PartialScores α)} {groups : List (List (PartialScores α))}

theorem mem_rated_sumPartials_regroup (hperm : perm.Perm vs) (hgroups : groups.flatten = perm)
    (i : Int) :
    i ∈ (sumPartials (groups.map sumPartials)).rated ↔ i ∈ (sumPartials vs).rated := by
  rw [mem_rated_sumPartials_blocks, hgroups, mem_rated_sumPartials]
  simp only [hperm.mem_iff]

theorem mem_keys_sumPartials_regroup (hperm : perm.Perm vs) (hgroups : groups.flatten = perm)
    (j : Int) :
    j ∈ (sumPartials (groups.map sumPartials)).scores.keys ↔
      j ∈ (sumPartials vs).scores.keys := by
  rw [mem_keys_sumPartials_blocks, hgroups, mem_keys_sumPartials]
  simp only [hperm.mem_iff]

/-- **Regrouping keeps every score's measure** where addition is exact on the sums of the
scores at that index. -/
theorem map_get?_sumPartials_regroup {val : α → ℚ} {Fits : ℚ → Prop}
    (h : AddsExactly val Fits) (hperm : perm.Perm vs) (hgroups : groups.flatten = perm) (j : Int)
    (hfit : ∀ l : List α, l.Subperm (scoresAt j vs) → Fits (l.map val).sum) :
    ((sumPartials (groups.map sumPartials)).scores.get? j).map val =
      ((sumPartials vs).scores.get? j).map val := by
  have hp : (scoresAt j perm).Perm (scoresAt j vs) := hperm.filterMap _
  have hflat : (groups.map (scoresAt j)).flatten = scoresAt j perm := by
    rw [← hgroups, scoresAt, List.filterMap_flatten]
    rfl
  -- each block sum is the running sum of the block's scores
  have hsums :
      scoresAt j (groups.map sumPartials) = (groups.map (scoresAt j)).filterMap runningSum := by
    rw [scoresAt, List.filterMap_map, List.filterMap_map]
    congr 1
    funext g
    exact get?_sumPartials g j
  rw [get?_sumPartials, get?_sumPartials, hsums,
    map_runningSum_blocks h _ fun l hl => hfit l (hp.subperm_left.1 (hflat ▸ hl).subperm),
    map_runningSum h _ fun l hl => hfit l hl.subperm, hflat, (hp.map val).sum_eq]
  have hempty : scoresAt j perm = [] ↔ scoresAt j vs = [] :=
    ⟨fun hnil => List.perm_nil.1 (hnil ▸ hp.symm), fun hnil => List.perm_nil.1 (hnil ▸ hp)⟩
  simp only [hempty]

/-- **Summing partial vectors forgets order and grouping.** Summing any permutation of a list
of partial vectors in consecutive groups, then summing the group sums, gives the rated indices
and the score indices of summing the list, for every scalar; and the same score at every index
wherever addition is exact: everywhere for the rationals, and for doubles whenever every part of
the scores at an index sums to an integer below `2 ^ 53`. -/
theorem sumPartials_regroup (vs perm : List (PartialScores α))
    (groups : List (List (PartialScores α))) (hperm : perm.Perm vs)
    (hgroups : groups.flatten = perm) :
    (∀ i, i ∈ (sumPartials (groups.map sumPartials)).rated ↔ i ∈ (sumPartials vs).rated) ∧
    (∀ j, j ∈ (sumPartials (groups.map sumPartials)).scores.keys ↔
      j ∈ (sumPartials vs).scores.keys) ∧
    (∀ val : α → ℚ, AddsExactly val (fun _ => True) → ∀ j,
      ((sumPartials (groups.map sumPartials)).scores.get? j).map val =
        ((sumPartials vs).scores.get? j).map val) ∧
    (∀ val : α → ℚ, AddsExactly val SmallInteger →
      (∀ j (l : List α), l.Subperm (scoresAt j vs) → SmallInteger (l.map val).sum) → ∀ j,
        ((sumPartials (groups.map sumPartials)).scores.get? j).map val =
          ((sumPartials vs).scores.get? j).map val) :=
  ⟨mem_rated_sumPartials_regroup hperm hgroups, mem_keys_sumPartials_regroup hperm hgroups,
    fun _ h j => map_get?_sumPartials_regroup h hperm hgroups j fun _ _ => trivial,
    fun _ h hfit j => map_get?_sumPartials_regroup h hperm hgroups j (hfit j)⟩

/-- Three partial vectors over the rationals: the scores of the first two cancel at index `1`. -/
def cancellingPartials : List (PartialScores ℚ) :=
  [⟨Ledger.ofList [(1, 2), (2, 3)], [10]⟩, ⟨Ledger.ofList [(1, -2)], [11]⟩,
    ⟨Ledger.ofList [(3, 1)], [10]⟩]

/-- The last partial vector moved to the front and summed apart from the other two gives the
same score at every index, the cancelled one included. -/
theorem sumPartials_regroup_rotated :
    (cancellingPartials.drop 2 ++ cancellingPartials.take 2).Perm cancellingPartials ∧
    [cancellingPartials.drop 2, cancellingPartials.take 2].flatten =
      cancellingPartials.drop 2 ++ cancellingPartials.take 2 ∧
    ∀ j, (sumPartials ([cancellingPartials.drop 2, cancellingPartials.take 2].map
      sumPartials)).scores.get? j = (sumPartials cancellingPartials).scores.get? j := by
  have hperm : (cancellingPartials.drop 2 ++ cancellingPartials.take 2).Perm cancellingPartials :=
    List.perm_append_comm.trans (by rw [List.take_append_drop])
  refine ⟨hperm, rfl, fun j => ?_⟩
  simpa using (sumPartials_regroup cancellingPartials _
    [cancellingPartials.drop 2, cancellingPartials.take 2] hperm rfl).2.2.1 id addsExactly_rat j

end Regroup

end ItemRecommender
