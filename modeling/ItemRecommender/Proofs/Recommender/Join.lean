import Mathlib
import ItemRecommender.Join
import ItemRecommender.Proofs.Batch.Combine
import ItemRecommender.Proofs.Pruning.Prune
import ItemRecommender.Proofs.Recommender.Exact

/-! # The join

    For each item index the join meets the index's column, if any, and then the ratings of the
    selected users who rated the index, in the order of the vectors (`ratingsAt`). When the
    column keys are distinct, an index with a column and a rating gives one record holding the
    column with the raters and their pruned slots, indices ascending, and every other index
    gives nothing (`joinColumns_eq_ok`).

    Pruning never fails once `k ≥ 1`, whatever the scalars, so the join is described for every
    input (`joinColumns_pairs_columns_with_raters`): the reduction of an index fails exactly
    when its parts hold two columns (`ratedColumn_eq_error`), and the run stops at the first
    failing reduction, so columns with distinct keys give `joinedColumns` and two columns of one
    index make the join fail naming such an index. -/

namespace ItemRecommender

open Batch Heap

/-! ## One index -/

section Index

variable {α : Type}

/-- The step of `ratedColumn`: a first column is kept, a second one fails, a rating is added. -/
def joinStep (index : Int) (acc : Option (Column α) × List Int × List (Slot α))
    (part : JoinPart α) : Except Failure (Option (Column α) × List Int × List (Slot α)) :=
  match part, acc with
  | .column c, (none, us, ss) => pure (some c, us, ss)
  | .column _, (some _, _, _) => throw (.duplicateColumn index)
  | .rating u s, (c, us, ss) => pure (c, us ++ [u], ss ++ [s])

theorem ratedColumn_eq (index : Int) (parts : List (JoinPart α)) :
    ratedColumn index parts = (do
      let (column?, raters, slots) ← parts.foldlM (joinStep index) (none, [], [])
      match column? with
      | some c => if raters.isEmpty then pure [] else pure [(index, ⟨c, raters, slots⟩)]
      | none => pure []) := rfl

/-- Ratings are added in order, whatever came before them. -/
theorem foldlM_joinStep_ratings (index : Int) (rs : List (Int × Slot α))
    (acc : Option (Column α) × List Int × List (Slot α)) :
    (rs.map fun p => JoinPart.rating p.1 p.2).foldlM (joinStep index) acc =
      .ok (acc.1, acc.2.1 ++ rs.map Prod.fst, acc.2.2 ++ rs.map Prod.snd) := by
  induction rs generalizing acc with
  | nil => simp
  | cons r rs ih =>
      rw [List.map_cons, List.foldlM_cons]
      show (joinStep index acc (.rating r.1 r.2)) >>= _ = _
      rw [show joinStep index acc (.rating r.1 r.2) = .ok (acc.1, acc.2.1 ++ [r.1], acc.2.2 ++ [r.2]) from rfl]
      show List.foldlM _ _ _ = _
      rw [ih]
      simp

/-- An index with a column first and then ratings gives one record, if it has a rating. -/
theorem ratedColumn_column (index : Int) (c : Column α) (rs : List (Int × Slot α)) :
    ratedColumn index (.column c :: rs.map fun p => JoinPart.rating p.1 p.2) =
      .ok (if rs = [] then [] else [(index, ⟨c, rs.map Prod.fst, rs.map Prod.snd⟩)]) := by
  rw [ratedColumn_eq, List.foldlM_cons]
  show (List.foldlM _ (some c, [], []) _ >>= _) = _
  rw [foldlM_joinStep_ratings]
  cases rs <;> rfl

/-- An index with ratings only gives nothing. -/
theorem ratedColumn_ratings (index : Int) (rs : List (Int × Slot α)) :
    ratedColumn index (rs.map fun p => JoinPart.rating p.1 p.2) = .ok [] := by
  rw [ratedColumn_eq, foldlM_joinStep_ratings]
  rfl

/-- A record of `ratedColumn` carries its index. -/
theorem ratedColumn_keys (index : Int) (parts : List (JoinPart α)) (out : List (Int × RatedColumn α))
    (h : ratedColumn index parts = .ok out) : ∀ r ∈ out, r.1 = index := by
  rw [ratedColumn_eq, bind_eq_ok] at h
  obtain ⟨⟨column?, raters, slots⟩, -, hout⟩ := h
  intro r hr
  cases column? with
  | none =>
      simp only [pure_eq_ok] at hout
      simp [← hout] at hr
  | some c =>
      by_cases he : raters.isEmpty = true
      · simp only [he, if_true, pure_eq_ok] at hout
        simp [← hout] at hr
      · simp only [he, if_false, Bool.false_eq_true, pure_eq_ok] at hout
        simp only [← hout, List.mem_singleton] at hr
        rw [hr]

/-- Whether a part of the join is a column. -/
def JoinPart.isColumn : JoinPart α → Bool
  | .column _ => true
  | .rating _ _ => false

/-- The fold of `ratedColumn` fails exactly when the columns it meets, with the one it may hold
already, are two or more; the failure names the index. -/
theorem foldlM_joinStep_eq_error (index : Int) (parts : List (JoinPart α))
    (acc : Option (Column α) × List Int × List (Slot α)) (e : Failure) :
    parts.foldlM (joinStep index) acc = .error e ↔ e = .duplicateColumn index ∧
      2 ≤ (if acc.1.isSome then 1 else 0) + (parts.filter JoinPart.isColumn).length := by
  induction parts generalizing acc with
  | nil =>
      constructor
      · intro h
        cases h
      · rintro ⟨-, h⟩
        split at h <;> simp at h
  | cons part parts ih =>
      obtain ⟨column?, us, ss⟩ := acc
      rw [List.foldlM_cons]
      cases part with
      | column c =>
          cases column? with
          | none =>
              show parts.foldlM (joinStep index) (some c, us, ss) = .error e ↔ _
              rw [ih]
              simp only [Option.isSome_some, Option.isSome_none, if_true, Bool.false_eq_true, if_false,
                List.filter_cons_of_pos (show JoinPart.isColumn (.column c) = true from rfl),
                List.length_cons]
              exact and_congr_right fun _ => by omega
          | some c' =>
              show (Except.error (.duplicateColumn index) : Except Failure _) = .error e ↔ _
              simp only [Except.error.injEq, Option.isSome_some, if_true,
                List.filter_cons_of_pos (show JoinPart.isColumn (.column c) = true from rfl),
                List.length_cons]
              constructor
              · rintro rfl
                exact ⟨rfl, by omega⟩
              · rintro ⟨rfl, -⟩
                rfl
      | rating u s =>
          show parts.foldlM (joinStep index) (column?, us ++ [u], ss ++ [s]) = .error e ↔ _
          rw [ih]
          simp only [List.filter_cons_of_neg (show ¬JoinPart.isColumn (.rating u s) = true from
            Bool.false_ne_true)]

/-- `ratedColumn` fails exactly when its parts hold two columns or more, naming the index. -/
theorem ratedColumn_eq_error (index : Int) (parts : List (JoinPart α)) (e : Failure) :
    ratedColumn index parts = .error e ↔
      e = .duplicateColumn index ∧ 2 ≤ (parts.filter JoinPart.isColumn).length := by
  have hfold := foldlM_joinStep_eq_error index parts (none, [], []) e
  simp only [Option.isSome_none, Bool.false_eq_true, if_false, Nat.zero_add] at hfold
  rw [← hfold, ratedColumn_eq]
  -- past the fold nothing fails
  cases parts.foldlM (joinStep index) (none, [], []) with
  | error e' =>
      constructor
      · intro h
        cases h
        rfl
      · intro h
        cases h
        rfl
  | ok acc =>
      obtain ⟨column?, raters, slots⟩ := acc
      constructor
      · intro h
        cases column? with
        | none => cases h
        | some c =>
            by_cases hr : raters.isEmpty = true
            · rw [show (Except.ok (some c, raters, slots) : Except Failure _) >>= _ = .ok [] by
                simp only [bind, Except.bind, hr, if_true]; rfl] at h
              cases h
            · rw [show (Except.ok (some c, raters, slots) : Except Failure _) >>= _ =
                .ok [(index, ⟨c, raters, slots⟩)] by
                  simp only [bind, Except.bind, hr, if_false, Bool.false_eq_true]; rfl] at h
              cases h
      · intro h
        cases h

end Index

/-! ## The stage -/

section Stage

variable {α β : Type} [Scalar α] [Inhabited α] [LinearOrder β]

/-- The ratings the join meets for index `x`: each selected user's pruned slot there, in the
order of the vectors. -/
def ratingsAt (key : α → β) (k : Int) (users : Option (List Int))
    (vectors : List (Int × UserVector α)) (x : Int) : List (Int × Slot α) :=
  vectors.filterMap fun v =>
    if isSelected users v.1 then (v.2.get? x).map fun s => (v.1, prunedSlot key (presentValues v.2) k s)
    else none

/-- The ratings the join meets for index `x` when vector `v` holds the slot `slot v x` there:
each selected user's slot, in the order of the vectors. -/
def ratingsBy (slot : Int × UserVector α → Int → Option (Slot α)) (users : Option (List Int))
    (vectors : List (Int × UserVector α)) (x : Int) : List (Int × Slot α) :=
  vectors.filterMap fun v => if isSelected users v.1 then (slot v x).map fun s => (v.1, s) else none

omit [Inhabited α] in
/-- The ratings of the pruned vectors are those of the slots pruning gives. -/
theorem ratingsAt_eq_ratingsBy (key : α → β) (k : Int) (users : Option (List Int))
    (vectors : List (Int × UserVector α)) (x : Int) :
    ratingsAt key k users vectors x = ratingsBy (fun v x =>
      (v.2.get? x).map (prunedSlot key (presentValues v.2) k)) users vectors x := by
  simp only [ratingsAt, ratingsBy, Option.map_map]
  rfl

/-- The record the join gives a column: the column with its raters and their slots, when the
index has a rating. -/
def joinedRecord (x : Int) (c : Column α) (rs : List (Int × Slot α)) : List (Int × RatedColumn α) :=
  if rs = [] then [] else [(x, ⟨c, rs.map Prod.fst, rs.map Prod.snd⟩)]

omit [Scalar α] [Inhabited α] [LinearOrder β] in
theorem mem_joinedRecord {x : Int} {c : Column α} {rs : List (Int × Slot α)}
    {r : Int × RatedColumn α} :
    r ∈ joinedRecord x c rs ↔ rs ≠ [] ∧ r = (x, ⟨c, rs.map Prod.fst, rs.map Prod.snd⟩) := by
  unfold joinedRecord
  split <;> simp_all

omit [Scalar α] [Inhabited α] [LinearOrder β] in
/-- The keyed records the join shuffles: the columns, then the ratings of every vector. -/
theorem valuesAt_joinParts (columns : List (Int × Column α))
    (parts : Int × UserVector α → List (Int × JoinPart α))
    (slot : Int × UserVector α → Int → Option (Slot α)) (users : Option (List Int))
    (vectors : List (Int × UserVector α))
    (hparts : ∀ v ∈ vectors, ∀ x, valuesAt x (parts v) = if isSelected users v.1 then
      ((slot v x).map (JoinPart.rating v.1)).toList else []) (x : Int) :
    valuesAt x ((columns.map fun c => (c.1, JoinPart.column c.2)) ++ (vectors.map parts).flatten) =
      ((columns.filter fun c => c.1 = x).map fun c => JoinPart.column c.2) ++
        (ratingsBy slot users vectors x).map fun p => JoinPart.rating p.1 p.2 := by
  rw [valuesAt_append, valuesAt_map_snd, valuesAt_flatten]
  congr 1
  · simp [valuesAt, Function.comp_def]
  · rw [ratingsBy, List.map_filterMap, List.filterMap_eq_flatMap_toList, List.flatMap]
    congr 1
    rw [List.map_map]
    apply List.map_congr_left
    intro v hv
    rw [Function.comp_apply, hparts v hv x]
    by_cases hs : isSelected users v.1 <;> cases slot v x <;> simp [hs]

omit [Scalar α] [Inhabited α] in
/-- Among records with distinct keys, at most one has a given key. -/
theorem filter_key_eq_nil_or_singleton {γ : Type} (l : List (Int × γ)) (hl : (l.map Prod.fst).Nodup)
    (x : Int) : l.filter (fun c => c.1 = x) = [] ∨ ∃ c, l.filter (fun c => c.1 = x) = [c] := by
  have hnodup : ((l.filter fun c => c.1 = x).map Prod.fst).Nodup :=
    ((List.filter_sublist).map Prod.fst).nodup hl
  cases h : l.filter (fun c => c.1 = x) with
  | nil => exact Or.inl rfl
  | cons c rest =>
      cases rest with
      | nil => exact Or.inr ⟨c, rfl⟩
      | cons d rest =>
          have hcmem : c ∈ l.filter (fun c => c.1 = x) := by
            rw [h]
            exact List.mem_cons_self ..
          have hdmem : d ∈ l.filter (fun c => c.1 = x) := by
            rw [h]
            exact List.mem_cons_of_mem _ (List.mem_cons_self ..)
          have hc : c.1 = x := by simpa using (List.mem_filter.1 hcmem).2
          have hd : d.1 = x := by simpa using (List.mem_filter.1 hdmem).2
          rw [h] at hnodup
          simp [hc, hd] at hnodup

omit [Scalar α] [Inhabited α] in
/-- The distinct keys of some records, among a larger ascending list of keys. -/
theorem keysOf_eq_filter {γ δ : Type} (l : List (Int × γ)) (all : List (Int × δ))
    (hsub : ∀ x ∈ l.map Prod.fst, x ∈ all.map Prod.fst) :
    keysOf l = (keysOf all).filter fun x => x ∈ l.map Prod.fst := by
  apply List.SortedLT.eq_of_mem_iff
  · exact List.sortedLT_iff_pairwise.2 (pairwise_keysOf l)
  · exact List.sortedLT_iff_pairwise.2 ((pairwise_keysOf all).filter _)
  · intro x
    simp only [mem_keysOf, List.mem_filter, decide_eq_true_eq]
    exact ⟨fun h => ⟨hsub x h, h⟩, fun h => h.2⟩

/-- The keyed parts the join shuffles when every vector splits into the ratings of its slots
`slot v x`: at each index, its columns, then its ratings. -/
theorem collect_joinParts {slot : Int × UserVector α → Int → Option (Slot α)} {k : Int}
    (columns : List (Int × Column α)) (vectors : List (Int × UserVector α))
    (users : Option (List Int))
    (hsplit : ∀ v ∈ vectors, ∃ parts, splitUserVector k users v.1 v.2 = .ok parts ∧
      ∀ x, valuesAt x parts = if isSelected users v.1 then
        ((slot v x).map (JoinPart.rating v.1)).toList else []) :
    ∃ all, collect [columns.map (fun c => (pure [(c.1, JoinPart.column c.2)] : Except Failure _)),
      vectors.map fun v => splitUserVector k users v.1 v.2].flatten = .ok all ∧
      ∀ x, valuesAt x all = ((columns.filter fun c => c.1 = x).map fun c => JoinPart.column c.2) ++
        (ratingsBy slot users vectors x).map fun p => JoinPart.rating p.1 p.2 := by
  choose! parts hparts hvalues using hsplit
  refine ⟨(columns.map fun c => (c.1, JoinPart.column c.2)) ++ (vectors.map parts).flatten, ?_,
    valuesAt_joinParts columns parts slot users vectors hvalues⟩
  rw [List.flatten_cons, List.flatten_singleton, collect_append, collect_map_pure]
  have hB : collect (vectors.map fun v => splitUserVector k users v.1 v.2) =
      .ok (vectors.map parts).flatten := (collect_map_eq_ok _ _ _).2 ⟨parts, hparts, rfl⟩
  rw [hB]
  exact congrArg (fun l => Except.ok (l ++ (vectors.map parts).flatten)) List.map_eq_flatMap.symm

/-- **The join**, whatever the split count, when the column keys are distinct and every vector
splits into the ratings of its slots `slot v x`: indices ascending, each index with a column
gives the column with the raters of the index and their slots, if it has a rating. -/
theorem joinColumns_eq_of_parts {slot : Int × UserVector α → Int → Option (Slot α)} {k : Int}
    (columns : List (Int × Column α)) (vectors : List (Int × UserVector α))
    (users : Option (List Int)) {splits : Int} (hsplits : 1 ≤ splits)
    (hcols : (columns.map Prod.fst).Nodup)
    (hsplit : ∀ v ∈ vectors, ∃ parts, splitUserVector k users v.1 v.2 = .ok parts ∧
      ∀ x, valuesAt x parts = if isSelected users v.1 then
        ((slot v x).map (JoinPart.rating v.1)).toList else []) :
    joinColumns columns vectors k users splits = .ok ((keysOf columns).flatMap fun x =>
      (columns.filter fun c => c.1 = x).flatMap fun c =>
        joinedRecord x c.2 (ratingsBy slot users vectors x)) := by
  obtain ⟨all, hall, hvalues⟩ := collect_joinParts columns vectors users hsplit
  let R : Int → List (Int × RatedColumn α) := fun x =>
    (columns.filter fun c => c.1 = x).flatMap fun c => joinedRecord x c.2 (ratingsBy slot users vectors x)
  -- each index meets its column, if any, then its ratings
  have hreduce : ∀ g ∈ groupsOf all, ratedColumn g.1 g.2 = .ok (R g.1) := by
    intro g hg
    obtain ⟨x, -, rfl⟩ := List.mem_map.1 hg
    show ratedColumn x (valuesAt x all) = _
    rw [hvalues x]
    rcases filter_key_eq_nil_or_singleton columns hcols x with hnil | ⟨c, hc⟩
    · simp only [R, hnil, List.map_nil, List.nil_append, List.flatMap_nil]
      exact ratedColumn_ratings x _
    · simp only [R, hc, List.map_cons, List.map_nil, List.cons_append, List.nil_append,
        List.flatMap_cons, List.flatMap_nil, List.append_nil]
      rw [ratedColumn_column]
      rfl
  have hrun := (@Stage.run_eq_ok_iff_reduce _ _ ⟨none, ratedColumn⟩ _ _ hsplits ratedColumn_keys
    (fun c hc => by cases hc) _ (Stage.keyedValues_none rfl hall splits) _).2
    ((collect_map_eq_ok _ _ _).2 ⟨fun g => R g.1, hreduce, rfl⟩)
  refine hrun.trans (congrArg Except.ok ?_)
  -- indices without a column give nothing
  have hsub : ∀ x ∈ columns.map Prod.fst, x ∈ all.map Prod.fst := by
    intro x hx
    obtain ⟨c, hc, rfl⟩ := List.mem_map.1 hx
    have hne : valuesAt c.1 all ≠ [] := by
      rw [hvalues c.1]
      exact List.append_ne_nil_of_left_ne_nil
        (List.map_eq_nil_iff.not.2 (List.ne_nil_of_mem (List.mem_filter.2 ⟨hc, by simp⟩))) _
    by_contra hnot
    exact hne ((valuesAt_eq_nil_iff _ _).2 hnot)
  rw [keysOf_eq_filter columns all hsub, List.flatMap, flatten_map_filter]
  · rw [groupsOf, List.map_map]
    rfl
  · intro x _ hx
    have hnone : columns.filter (fun c => c.1 = x) = [] := by
      rw [List.filter_eq_nil_iff]
      intro c hc hcx
      simp only [decide_eq_false_iff_not, List.mem_map] at hx
      exact hx ⟨c, hc, by simpa using hcx⟩
    simp [hnone]

/-- **The join**, whatever the split count, when the column keys are distinct: indices
ascending, each index with a column gives the column with the raters of the index and their
pruned slots, if it has a rating. -/
theorem joinColumns_eq_ok {key : α → β} {P : α → Prop} (hkey : ReadsOff key P) {k : Int}
    (hk : 1 ≤ k) (columns : List (Int × Column α)) (vectors : List (Int × UserVector α))
    (users : Option (List Int)) {splits : Int} (hsplits : 1 ≤ splits)
    (hcols : (columns.map Prod.fst).Nodup)
    (hP : ∀ v ∈ vectors, ∀ w ∈ presentValues v.2, P (Scalar.magnitude w)) :
    joinColumns columns vectors k users splits = .ok ((keysOf columns).flatMap fun x =>
      (columns.filter fun c => c.1 = x).flatMap fun c =>
        joinedRecord x c.2 (ratingsAt key k users vectors x)) := by
  simp only [ratingsAt_eq_ratingsBy]
  refine joinColumns_eq_of_parts columns vectors users hsplits hcols fun v hv => ?_
  obtain ⟨parts, hparts, hvalues⟩ := valuesAt_splitUserVector hkey hk users v.1 v.2 (hP v hv)
  exact ⟨parts, hparts, fun x => by rw [hvalues x, Option.map_map]; rfl⟩

end Stage

/-! ## Every input -/

section Every

variable {α : Type} [Scalar α] [Inhabited α]

omit [Scalar α] [Inhabited α] in
/-- Records with ascending keys, visited key by key, are visited in order. -/
theorem flatMap_keysOf_filter {γ δ : Type} (l : List (Int × γ))
    (hl : (l.map Prod.fst).Pairwise (· < ·)) (F : Int → Int × γ → List δ) :
    (keysOf l).flatMap (fun x => (l.filter fun c => c.1 = x).flatMap (F x)) =
      l.flatMap fun c => F c.1 c := by
  have hkeys : keysOf l = l.map Prod.fst :=
    List.SortedLT.eq_of_mem_iff (List.sortedLT_iff_pairwise.2 (pairwise_keysOf l))
      (List.sortedLT_iff_pairwise.2 hl) fun x => by simp
  rw [hkeys, List.flatMap_map]
  apply List.flatMap_congr
  intro c hc
  have hmem : c ∈ l.filter fun d => d.1 = c.1 := List.mem_filter.2 ⟨hc, by simp⟩
  rcases filter_key_eq_nil_or_singleton l (hl.imp ne_of_lt) c.1 with hnil | ⟨c', hc'⟩
  · rw [hnil] at hmem
    cases hmem
  · rw [hc', List.mem_singleton] at hmem
    rw [hc', ← hmem, List.flatMap_singleton]

omit [Scalar α] [Inhabited α] in
/-- Records with distinct keys, visited key by key, are visited sorted by key. -/
theorem flatMap_keysOf_filter_sortByKey {γ δ : Type} (l : List (Int × γ))
    (hl : (l.map Prod.fst).Nodup) (F : Int → Int × γ → List δ) :
    (keysOf l).flatMap (fun x => (l.filter fun c => c.1 = x).flatMap (F x)) =
      (sortByKey l).flatMap fun c => F c.1 c := by
  have hperm := perm_sortByKey l
  have hkeys : keysOf (sortByKey l) = keysOf l := by
    rw [keysOf, keysOf, List.toFinset_eq_of_perm _ _ (hperm.map Prod.fst)]
  have hnodup : ((sortByKey l).map Prod.fst).Nodup := (hperm.map Prod.fst).nodup_iff.2 hl
  have hsorted : ((sortByKey l).map Prod.fst).Pairwise (· < ·) :=
    ((List.pairwise_map.2 (pairwise_sortByKey l)).and hnodup).imp fun h => lt_of_le_of_ne h.1 h.2
  rw [← flatMap_keysOf_filter (sortByKey l) hsorted F, hkeys]
  simp only [filter_sortByKey]

/-- The ratings the join meets for index `x`: for every vector of a selected user holding the
index, in the order of the vectors, the user with the slot pruning leaves there. -/
def ratingsOf (k : Int) (users : Option (List Int)) (vectors : List (Int × UserVector α)) (x : Int) :
    List (Int × Slot α) :=
  ratingsBy (fun v x => (prunedVector v.2 k).get? x) users vectors x

/-- A user has ratings of an index exactly when the user is selected and has a vector holding
the index. -/
theorem valuesAt_ratingsOf_ne_nil_iff (k : Int) (users : Option (List Int))
    (vectors : List (Int × UserVector α)) (x u : Int) :
    valuesAt u (ratingsOf k users vectors x) ≠ [] ↔
      isSelected users u = true ∧ ∃ vec, (u, vec) ∈ vectors ∧ x ∈ vec.keys := by
  rw [Ne, valuesAt_eq_nil_iff, not_not, ratingsOf, ratingsBy, List.mem_map]
  simp only [List.mem_filterMap]
  constructor
  · rintro ⟨_, ⟨v, hv, hsome⟩, rfl⟩
    by_cases hs : isSelected users v.1
    · rw [if_pos hs] at hsome
      obtain ⟨s, hs', rfl⟩ := Option.map_eq_some_iff.1 hsome
      have hx : x ∈ (prunedVector v.2 k).keys := (Ledger.mem_keys_iff _ x).2 ⟨s, hs'⟩
      exact ⟨hs, v.2, hv, by rwa [keys_prunedVector] at hx⟩
    · rw [if_neg hs] at hsome
      cases hsome
  · rintro ⟨hs, vec, hv, hx⟩
    obtain ⟨s, hs'⟩ := (Ledger.mem_keys_iff _ x).1 ((keys_prunedVector vec k).symm ▸ hx)
    exact ⟨(u, s), ⟨(u, vec), hv, by simp [hs, hs']⟩, rfl⟩

/-- **What the join gives** for distinct column keys: the columns in ascending index order, each
with the users who rated its index and the slots pruning leaves them there, when there is one. -/
def joinedColumns (k : Int) (users : Option (List Int)) (columns : List (Int × Column α))
    (vectors : List (Int × UserVector α)) : List (Int × RatedColumn α) :=
  (sortByKey columns).flatMap fun c => joinedRecord c.1 c.2 (ratingsOf k users vectors c.1)

/-- Every vector splits into the ratings of its pruned slots once `k ≥ 1`. -/
theorem splitUserVector_pruned {k : Int} (hk : 1 ≤ k) (users : Option (List Int))
    (v : Int × UserVector α) :
    ∃ parts, splitUserVector k users v.1 v.2 = .ok parts ∧ ∀ x, valuesAt x parts =
      if isSelected users v.1 then
        (((prunedVector v.2 k).get? x).map (JoinPart.rating v.1)).toList else [] :=
  splitUserVector_of_prune users v.1 (prune_eq_ok v.2 hk)

/-- The join of columns with distinct keys, for `k ≥ 1`, gives `joinedColumns`. -/
theorem joinColumns_eq_joinedColumns {k : Int} (hk : 1 ≤ k) (columns : List (Int × Column α))
    (vectors : List (Int × UserVector α)) (users : Option (List Int)) {splits : Int}
    (hsplits : 1 ≤ splits) (hcols : (columns.map Prod.fst).Nodup) :
    joinColumns columns vectors k users splits = .ok (joinedColumns k users columns vectors) := by
  rw [joinColumns_eq_of_parts columns vectors users hsplits hcols
    fun v _ => splitUserVector_pruned hk users v, flatMap_keysOf_filter_sortByKey columns hcols]
  rfl

/-- The join of columns two of which share an index fails, for `k ≥ 1`, naming an index that
two columns share. -/
theorem joinColumns_eq_error {k : Int} (hk : 1 ≤ k) (columns : List (Int × Column α))
    (vectors : List (Int × UserVector α)) (users : Option (List Int)) {splits : Int}
    (hsplits : 1 ≤ splits) (hdup : ¬(columns.map Prod.fst).Nodup) :
    ∃ i, 2 ≤ (columns.filter fun c => c.1 = i).length ∧
      joinColumns columns vectors k users splits = .error (.duplicateColumn i) := by
  obtain ⟨all, hall, hvalues⟩ := collect_joinParts columns vectors users
    fun v _ => splitUserVector_pruned hk users v
  let stage : Stage (JoinPart α) (RatedColumn α) := ⟨none, ratedColumn⟩
  have hrun := Stage.run_of_emitted stage _ keyHash hsplits ((collect_tasksOf_none _ splits).trans hall)
  -- the parts of an index hold as many columns as carry the index
  have hcount : ∀ x, ((valuesAt x all).filter JoinPart.isColumn).length =
      (columns.filter fun c => c.1 = x).length := by
    intro x
    rw [hvalues x, List.filter_append, List.filter_map, List.filter_map]
    simp [Function.comp_def, JoinPart.isColumn]
  -- two columns share some index, whose reduction fails
  obtain ⟨i, hi⟩ : ∃ i, 2 ≤ (columns.filter fun c => c.1 = i).length := by
    rw [List.nodup_iff_count_le_one] at hdup
    push Not at hdup
    obtain ⟨i, hi⟩ := hdup
    refine ⟨i, ?_⟩
    rw [List.count_eq_countP, List.countP_map, List.countP_eq_length_filter] at hi
    exact hi
  have hkey : i ∈ all.map Prod.fst := by
    by_contra hnot
    rw [← valuesAt_eq_nil_iff] at hnot
    have h0 := hcount i
    rw [hnot] at h0
    simp at h0
    omega
  have hmem := (mem_reduceOrder_groupByKey keyHash splits all (i, valuesAt i all)).2 ⟨hkey, rfl⟩
  have hfail : stage.reducer i (valuesAt i all) = .error (.duplicateColumn i) :=
    (ratedColumn_eq_error i _ _).2 ⟨rfl, by rw [hcount]; exact hi⟩
  -- the run stops at the first failing reduction, which names an index of two columns
  obtain ⟨g, hg, e, hge, hcollect⟩ := collect_map_error_of_mem (f := fun g => stage.reducer g.1 g.2) hmem hfail
  obtain ⟨rfl, hge2⟩ := (ratedColumn_eq_error g.1 g.2 e).1 hge
  obtain ⟨-, hg2⟩ := (mem_reduceOrder_groupByKey keyHash splits all g).1 hg
  refine ⟨g.1, by rw [← hcount, ← hg2]; exact hge2, ?_⟩
  show stage.run _ splits = _
  rw [hrun, hcollect]
  rfl

/-- **The join pairs each column with exactly the users who rated its item.** For any columns,
any user vectors, any `k ≥ 1`, any selection of users and any split count of at least one: when
the column keys are distinct the join gives the columns in ascending index order, each with the
selected users whose vectors hold its index, in the order of the vectors, and the slots pruning
leaves them there, excluded ones included, when there is one such user; when two columns share
an index it fails, naming an index two columns share. -/
theorem joinColumns_pairs_columns_with_raters (columns : List (Int × Column α))
    (vectors : List (Int × UserVector α)) {k : Int} (hk : 1 ≤ k) (users : Option (List Int))
    {splits : Int} (hsplits : 1 ≤ splits) :
    ((columns.map Prod.fst).Nodup →
      joinColumns columns vectors k users splits = .ok (joinedColumns k users columns vectors)) ∧
    (¬(columns.map Prod.fst).Nodup → ∃ i, 2 ≤ (columns.filter fun c => c.1 = i).length ∧
      joinColumns columns vectors k users splits = .error (.duplicateColumn i)) :=
  ⟨joinColumns_eq_joinedColumns hk columns vectors users hsplits,
    joinColumns_eq_error hk columns vectors users hsplits⟩

end Every

/-- Two items that co-occur once. -/
def sharedColumns : List (Int × Column ℚ) := [(0, Ledger.ofList [(1, 1)]), (1, Ledger.ofList [(0, 1)])]

/-- One user who rated both items, the second one excluded. -/
def sharedVectors : List (Int × UserVector ℚ) := [(7, Ledger.ofList [(0, .value 2), (1, .excluded)])]

/-- The join of the two columns with the user's vector, with `k = 1` and two splits. -/
theorem joinColumns_sharedColumns :
    1 ≤ (1 : Int) ∧ 1 ≤ (2 : Int) ∧
      ((sharedColumns.map Prod.fst).Nodup → joinColumns sharedColumns sharedVectors 1 none 2 =
        .ok (joinedColumns 1 none sharedColumns sharedVectors)) ∧
      (¬(sharedColumns.map Prod.fst).Nodup → ∃ i, 2 ≤ (sharedColumns.filter fun c => c.1 = i).length ∧
        joinColumns sharedColumns sharedVectors 1 none 2 = .error (.duplicateColumn i)) :=
  ⟨by decide, by decide,
    joinColumns_pairs_columns_with_raters sharedColumns sharedVectors (by decide) none (by decide)⟩

end ItemRecommender
