import Mathlib
import ItemRecommender.Proofs.Batch.Collect
import ItemRecommender.Proofs.Batch.Grouping

/-! # A stage agrees with grouping by key

    Main statement: `Stage.run_eq_ok_iff_reference`. For any split count of at least one and
    any hash placing keys in partitions, a stage whose reducer and combiner keep the key they
    are called with succeeds exactly when its sequential reference does, and with the same
    output: the keys the map side emits, ascending, each reduced with its values `V_k`.
    Without a combiner `V_k` holds every value the mappers emit for `k`, in input order; with
    one, it joins over the splits, in order, what the combiner makes of each split's values of
    `k`. Without a combiner the output therefore depends on neither the split count nor the
    hash.

    The proof follows the stage. Its map side is compared with `Stage.keyedValues`
    (`mapSide_eq_ok_iff`); its reduce side meets the groups in partition order, which
    `sortByKey_flatten_map` turns into ascending key order (`reduceSide_eq_ok_iff`). -/

namespace ItemRecommender.Batch

variable {ν ω : Type}

/-- The splits of a stage's inputs: the splits of each input, inputs in order. -/
def tasksOf (inputs : List (Input ν)) (splits : Int) : List (Input ν) :=
  inputs.flatMap fun input => splitRecords input splits

/-- What a combiner makes of key `k` over the records the splits emit, splits in order: in each
split that emits `k`, the values of the records the combiner makes of the split's values of
`k`. -/
def combinedValues (c : Int → List ν → Except Failure (List (Int × ν))) (k : Int)
    (emitted : List (List (Int × ν))) : Except Failure (List ν) :=
  collect ((emitted.filter fun e => k ∈ e.map Prod.fst).map fun e =>
    (c k (valuesAt k e)).map fun out => out.map Prod.snd)

/-- Each key that reaches the reducers, ascending, with the values `V_k` it reaches them with. -/
def Stage.keyedValues (stage : Stage ν ω) (inputs : List (Input ν)) (splits : Int) :
    Except Failure (List (Int × List ν)) :=
  match stage.combiner with
  | none => do
    let emitted ← collect inputs.flatten
    pure (groupsOf emitted)
  | some c => do
    let emitted ← (tasksOf inputs splits).mapM collect
    let groups ← (keysOf emitted.flatten).mapM fun k =>
      (combinedValues c k emitted).map fun vs => (k, vs)
    pure (groups.filter fun g => !g.2.isEmpty)

/-- The sequential reference of a stage: every key reduced with its values, keys ascending,
outputs joined in that order. -/
def Stage.reference (stage : Stage ν ω) (inputs : List (Input ν)) (splits : Int) :
    Except Failure (List (Int × ω)) := do
  let groups ← stage.keyedValues inputs splits
  collect (groups.map fun g => stage.reducer g.1 g.2)

/-- A stage with at least one split: the map side, then the reduce side in partition order,
then the sort. -/
theorem Stage.run_eq_ok (stage : Stage ν ω) (inputs : List (Input ν)) {splits : Int}
    (hash : Int → Int) (hsplits : 1 ≤ splits) (out : List (Int × ω)) :
    stage.run inputs splits hash = .ok out ↔ ∃ emitted,
      collect ((tasksOf inputs splits).map (mapSplit stage.combiner)) = .ok emitted ∧
      ∃ reduced, collect ((reduceOrder hash splits (groupByKey emitted)).map fun g =>
        stage.reducer g.1 g.2) = .ok reduced ∧ sortByKey reduced = out := by
  have h0 : splits ≠ 0 := by omega
  have h1 : ¬ splits < 0 := by omega
  simp [Stage.run, tasksOf, h0, h1]

/-- The reduce side: reducing the groups in partition order and sorting by key is reducing
them in ascending key order, when the reducer keeps its key. -/
theorem reduceSide_eq_ok_iff (reducer : Int → List ν → Except Failure (List (Int × ω)))
    (hreducer : ∀ k vs out, reducer k vs = .ok out → ∀ r ∈ out, r.1 = k)
    (hash : Int → Int) (splits : Int) (emitted : List (Int × ν)) (out : List (Int × ω)) :
    (∃ reduced, collect ((reduceOrder hash splits (groupByKey emitted)).map fun g =>
        reducer g.1 g.2) = .ok reduced ∧ sortByKey reduced = out) ↔
      collect ((groupsOf emitted).map fun g => reducer g.1 g.2) = .ok out := by
  have hperm := (perm_reduceOrder hash splits (groupByKey emitted)).trans
    (perm_groupByKey_groupsOf emitted)
  constructor
  · rintro ⟨reduced, hred, rfl⟩
    obtain ⟨g, hg, rfl⟩ := (collect_map_eq_ok _ _ _).1 hred
    rw [sortByKey_flatten_map g hperm (pairwise_groupsOf emitted)
      (fun x hx => hreducer x.1 x.2 (g x) (hg x hx))]
    exact (collect_map_eq_ok _ _ _).2 ⟨g, fun y hy => hg y (hperm.mem_iff.2 hy), rfl⟩
  · intro hout
    obtain ⟨g, hg, rfl⟩ := (collect_map_eq_ok _ _ _).1 hout
    have hgP : ∀ x ∈ reduceOrder hash splits (groupByKey emitted), reducer x.1 x.2 = .ok (g x) :=
      fun x hx => hg x (hperm.mem_iff.1 hx)
    exact ⟨_, (collect_map_eq_ok _ _ _).2 ⟨g, hgP, rfl⟩,
      sortByKey_flatten_map g hperm (pairwise_groupsOf emitted)
        (fun x hx => hreducer x.1 x.2 (g x) (hgP x hx))⟩

theorem mapSplit_none (split : Input ν) : mapSplit none split = collect split := by
  simp [mapSplit]

/-- Without a combiner the map side emits every mapper output in input order, whatever the
splits. -/
theorem collect_tasksOf_none (inputs : List (Input ν)) (splits : Int) :
    collect ((tasksOf inputs splits).map (mapSplit none)) = collect inputs.flatten := by
  have hmap : (tasksOf inputs splits).map (mapSplit none) = (tasksOf inputs splits).map collect :=
    List.map_congr_left (fun t _ => mapSplit_none t)
  rw [hmap, collect_map_collect, tasksOf, List.flatMap, List.flatten_flatten, List.map_map]
  congr 1
  have : (List.flatten ∘ fun input : Input ν => splitRecords input splits) = fun input => input :=
    funext fun input => flatten_splitRecords input splits
  rw [this, List.map_id']

/-! ## The map side with a combiner -/

section Combiner

variable (c : Int → List ν → Except Failure (List (Int × ν)))

/-- A map side that succeeds with a combiner `c`: `E t` is what the mappers of split `t` emit,
and `C k e` is what the combiner makes of the values of `k` in emitted records `e`. -/
structure MapSideOk (tasks : List (Input ν)) (E : Input ν → List (Int × ν))
    (C : Int → List (Int × ν) → List (Int × ν)) : Prop where
  emits : ∀ t ∈ tasks, collect t = .ok (E t)
  combines : ∀ t ∈ tasks, ∀ k ∈ (E t).map Prod.fst, c k (valuesAt k (E t)) = .ok (C k (E t))

/-- What the splits hand to the shuffle: in each split, the combiner's records for each key
in first-seen order. -/
def combinedOutput (tasks : List (Input ν)) (E : Input ν → List (Int × ν))
    (C : Int → List (Int × ν) → List (Int × ν)) : List (Int × ν) :=
  (tasks.map fun t => ((firstKeys (E t)).map fun k => C k (E t)).flatten).flatten

/-- The values `V_k` of key `k` with a combiner: over the splits that emit `k`, in order, the
values of the combiner's records. -/
def combinedOf (tasks : List (Input ν)) (E : Input ν → List (Int × ν))
    (C : Int → List (Int × ν) → List (Int × ν)) (k : Int) : List ν :=
  (((tasks.map E).filter fun e => k ∈ e.map Prod.fst).map fun e => (C k e).map Prod.snd).flatten

theorem mapSplit_some_eq_ok (split : Input ν) (out : List (Int × ν)) :
    mapSplit (some c) split = .ok out ↔ ∃ e, collect split = .ok e ∧
      ∃ H : Int → List (Int × ν), (∀ k ∈ firstKeys e, c k (valuesAt k e) = .ok (H k)) ∧
        out = ((firstKeys e).map H).flatten := by
  simp only [mapSplit, bind_eq_ok, groupByKey_eq, List.map_map]
  constructor
  · rintro ⟨e, he, hc⟩
    exact ⟨e, he, (collect_map_eq_ok _ _ _).1 hc⟩
  · rintro ⟨e, he, hc⟩
    exact ⟨e, he, (collect_map_eq_ok _ _ _).2 hc⟩

/-- The runtime's map side with a combiner succeeds exactly on a `MapSideOk` run, and hands
`combinedOutput` to the shuffle. -/
theorem collect_mapSplit_some_eq_ok (tasks : List (Input ν)) (emitted : List (Int × ν)) :
    collect (tasks.map (mapSplit (some c))) = .ok emitted ↔
      ∃ E C, MapSideOk c tasks E C ∧ emitted = combinedOutput tasks E C := by
  constructor
  · intro h
    obtain ⟨G, hG, rfl⟩ := (collect_map_eq_ok _ _ _).1 h
    let E : Input ν → List (Int × ν) := fun t => (collect t).toOption.getD []
    let C : Int → List (Int × ν) → List (Int × ν) := fun k e => (c k (valuesAt k e)).toOption.getD []
    -- each split's own run names its emitted records and its combiner outputs
    have hsplit : ∀ t ∈ tasks, collect t = .ok (E t) ∧
        (∀ k ∈ firstKeys (E t), c k (valuesAt k (E t)) = .ok (C k (E t))) ∧
        G t = ((firstKeys (E t)).map fun k => C k (E t)).flatten := by
      intro t ht
      obtain ⟨e, he, H, hH, hGt⟩ := (mapSplit_some_eq_ok c t (G t)).1 (hG t ht)
      have hE : E t = e := ok_value_of_eq_ok he []
      have hC : ∀ k ∈ firstKeys e, C k e = H k := fun k hk => ok_value_of_eq_ok (hH k hk) []
      rw [hE]
      refine ⟨he, fun k hk => by rw [hC k hk]; exact hH k hk, ?_⟩
      rw [hGt]
      congr 1
      exact List.map_congr_left fun k hk => (hC k hk).symm
    refine ⟨E, C, ⟨fun t ht => (hsplit t ht).1, fun t ht k hk => ?_⟩, ?_⟩
    · exact (hsplit t ht).2.1 k ((mem_firstKeys k (E t)).2 hk)
    · rw [combinedOutput]
      congr 1
      exact List.map_congr_left fun t ht => (hsplit t ht).2.2
  · rintro ⟨E, C, hok, rfl⟩
    refine (collect_map_eq_ok _ _ _).2 ⟨_, fun t ht => ?_, rfl⟩
    exact (mapSplit_some_eq_ok c t _).2 ⟨E t, hok.emits t ht, fun k => C k (E t),
      fun k hk => hok.combines t ht k ((mem_firstKeys k (E t)).1 hk), rfl⟩

theorem combinedValues_eq_ok (k : Int) (emitted : List (List (Int × ν))) (vs : List ν) :
    combinedValues c k emitted = .ok vs ↔
      ∃ C' : List (Int × ν) → List (Int × ν),
        (∀ e ∈ emitted.filter (fun e => k ∈ e.map Prod.fst), c k (valuesAt k e) = .ok (C' e)) ∧
        vs = ((emitted.filter fun e => k ∈ e.map Prod.fst).map fun e => (C' e).map Prod.snd).flatten := by
  rw [combinedValues, collect_map_eq_ok]
  constructor
  · rintro ⟨g, hg, rfl⟩
    let C' : List (Int × ν) → List (Int × ν) := fun e => (c k (valuesAt k e)).toOption.getD []
    have hC' : ∀ e ∈ emitted.filter (fun e => k ∈ e.map Prod.fst),
        c k (valuesAt k e) = .ok (C' e) ∧ (C' e).map Prod.snd = g e := by
      intro e he
      obtain ⟨o, ho, hog⟩ := (map_eq_ok _ _ _).1 (hg e he)
      rw [show C' e = o from ok_value_of_eq_ok ho []]
      exact ⟨ho, hog⟩
    refine ⟨C', fun e he => (hC' e he).1, ?_⟩
    congr 1
    exact List.map_congr_left fun e he => (hC' e he).2.symm
  · rintro ⟨C', hC', rfl⟩
    exact ⟨fun e => (C' e).map Prod.snd, fun e he => by simp [hC' e he], rfl⟩

/-- The reference's map side with a combiner succeeds exactly on a `MapSideOk` run, and gives
every emitted key with its combined values, dropping keys the combiner gives no value. -/
theorem keyedValues_some_eq_ok {stage : Stage ν ω} (hcomb : stage.combiner = some c)
    (inputs : List (Input ν)) (splits : Int) (groups : List (Int × List ν)) :
    stage.keyedValues inputs splits = .ok groups ↔
      ∃ E C, MapSideOk c (tasksOf inputs splits) E C ∧
        groups = ((keysOf ((tasksOf inputs splits).map E).flatten).map fun k =>
          (k, combinedOf (tasksOf inputs splits) E C k)).filter fun g => !g.2.isEmpty := by
  unfold Stage.keyedValues
  rw [hcomb]
  generalize tasksOf inputs splits = tasks
  simp only [bind_eq_ok, pure_eq_ok, mapM_eq_ok]
  constructor
  · rintro ⟨_, ⟨E, hE, rfl⟩, _, ⟨K, hK, rfl⟩, rfl⟩
    let C : Int → List (Int × ν) → List (Int × ν) := fun k e => (c k (valuesAt k e)).toOption.getD []
    -- every key's combined values name the combiner outputs of the splits that emit it
    have hkey : ∀ k ∈ keysOf (tasks.map E).flatten,
        (∀ e ∈ (tasks.map E).filter (fun e => k ∈ e.map Prod.fst), c k (valuesAt k e) = .ok (C k e)) ∧
        K k = (k, combinedOf tasks E C k) := by
      intro k hk
      obtain ⟨vs, hvs, hKk⟩ := (map_eq_ok _ _ _).1 (hK k hk)
      obtain ⟨C', hC', rfl⟩ := (combinedValues_eq_ok c k _ vs).1 hvs
      have hCC : ∀ e ∈ (tasks.map E).filter (fun e => k ∈ e.map Prod.fst), C k e = C' e :=
        fun e he => ok_value_of_eq_ok (hC' e he) []
      refine ⟨fun e he => by rw [hCC e he]; exact hC' e he, ?_⟩
      rw [← hKk, combinedOf]
      congr 2
      exact List.map_congr_left fun e he => by rw [hCC e he]
    refine ⟨E, C, ⟨hE, fun t ht k hk => ?_⟩, ?_⟩
    · have hmem : k ∈ keysOf (tasks.map E).flatten := by
        rw [mem_keysOf, List.map_flatten, List.mem_flatten]
        exact ⟨(E t).map Prod.fst, List.mem_map.2 ⟨E t, List.mem_map.2 ⟨t, ht, rfl⟩, rfl⟩, hk⟩
      exact (hkey k hmem).1 (E t) (List.mem_filter.2 ⟨List.mem_map.2 ⟨t, ht, rfl⟩, by simpa using hk⟩)
    · congr 1
      exact List.map_congr_left fun k hk => (hkey k hk).2
  · rintro ⟨E, C, hok, rfl⟩
    refine ⟨tasks.map E, ⟨E, hok.emits, rfl⟩, _, ⟨fun k => (k, combinedOf tasks E C k), ?_, rfl⟩, rfl⟩
    intro k _
    rw [map_eq_ok]
    refine ⟨combinedOf tasks E C k, (combinedValues_eq_ok c k _ _).2 ⟨C k, ?_, rfl⟩, rfl⟩
    intro e he
    obtain ⟨he, hk⟩ := List.mem_filter.1 he
    obtain ⟨t, ht, rfl⟩ := List.mem_map.1 he
    exact hok.combines t ht k (by simpa using hk)

variable {c}

/-- With a combiner that keeps its key, the shuffle meets the values of `k` that the reference
names `V_k`. -/
theorem valuesAt_combinedOutput
    (hc : ∀ k vs out, c k vs = .ok out → ∀ r ∈ out, r.1 = k)
    {tasks : List (Input ν)} {E : Input ν → List (Int × ν)}
    {C : Int → List (Int × ν) → List (Int × ν)} (hok : MapSideOk c tasks E C) (k : Int) :
    valuesAt k (combinedOutput tasks E C) = combinedOf tasks E C k := by
  rw [combinedOutput, valuesAt_flatten]
  have hsplit : ∀ t ∈ tasks, valuesAt k ((firstKeys (E t)).map fun k' => C k' (E t)).flatten =
      if k ∈ firstKeys (E t) then (C k (E t)).map Prod.snd else [] := by
    intro t ht
    apply valuesAt_flatten_map_keys (nodup_firstKeys (E t))
    intro k' hk'
    exact hc k' _ _ (hok.combines t ht k' ((mem_firstKeys k' (E t)).1 hk'))
  have hmap : (tasks.map fun t => ((firstKeys (E t)).map fun k' => C k' (E t)).flatten).map
      (valuesAt k) = tasks.map fun t =>
        if k ∈ firstKeys (E t) then (C k (E t)).map Prod.snd else [] := by
    rw [List.map_map]
    exact List.map_congr_left hsplit
  rw [hmap, flatten_map_ite, combinedOf, List.filter_map, List.map_map]
  congr 2
  apply List.filter_congr
  intro t _
  simp

/-- The keys the shuffle meets, ascending, are the reference's keys with values. -/
theorem keysOf_combinedOutput
    (hc : ∀ k vs out, c k vs = .ok out → ∀ r ∈ out, r.1 = k)
    {tasks : List (Input ν)} {E : Input ν → List (Int × ν)}
    {C : Int → List (Int × ν) → List (Int × ν)} (hok : MapSideOk c tasks E C) :
    keysOf (combinedOutput tasks E C) =
      (keysOf (tasks.map E).flatten).filter fun k => !(combinedOf tasks E C k).isEmpty := by
  apply List.SortedLT.eq_of_mem_iff
  · exact List.sortedLT_iff_pairwise.2 (pairwise_keysOf _)
  · exact List.sortedLT_iff_pairwise.2 ((pairwise_keysOf _).filter _)
  intro k
  have hV : k ∈ (combinedOutput tasks E C).map Prod.fst ↔ combinedOf tasks E C k ≠ [] := by
    rw [← valuesAt_combinedOutput hc hok, Ne, valuesAt_eq_nil_iff, not_not]
  -- a key with combined values is emitted by some split
  have hemit : combinedOf tasks E C k ≠ [] → k ∈ ((tasks.map E).flatten).map Prod.fst := by
    intro hne
    obtain ⟨x, hx⟩ := List.exists_mem_of_ne_nil _ hne
    rw [combinedOf, List.mem_flatten] at hx
    obtain ⟨l, hl, -⟩ := hx
    obtain ⟨e, he, -⟩ := List.mem_map.1 hl
    obtain ⟨he, hk⟩ := List.mem_filter.1 he
    rw [List.map_flatten, List.mem_flatten]
    exact ⟨e.map Prod.fst, List.mem_map.2 ⟨e, he, rfl⟩, by simpa using hk⟩
  rw [mem_keysOf, hV, List.mem_filter, mem_keysOf]
  simp only [Bool.not_eq_true', List.isEmpty_eq_false_iff]
  exact ⟨fun h => ⟨hemit h, h⟩, fun h => h.2⟩

theorem groupsOf_combinedOutput
    (hc : ∀ k vs out, c k vs = .ok out → ∀ r ∈ out, r.1 = k)
    {tasks : List (Input ν)} {E : Input ν → List (Int × ν)}
    {C : Int → List (Int × ν) → List (Int × ν)} (hok : MapSideOk c tasks E C) :
    groupsOf (combinedOutput tasks E C) = ((keysOf (tasks.map E).flatten).map fun k =>
      (k, combinedOf tasks E C k)).filter fun g => !g.2.isEmpty := by
  rw [groupsOf, keysOf_combinedOutput hc hok, List.filter_map]
  apply List.map_congr_left
  intro k _
  rw [valuesAt_combinedOutput hc hok]

end Combiner

/-- The map side of a stage succeeds exactly when the reference's does, and the groups of its
output are the reference's keys with their values. -/
theorem mapSide_eq_ok_iff (stage : Stage ν ω)
    (hcombiner : ∀ c, stage.combiner = some c → ∀ k vs out, c k vs = .ok out → ∀ r ∈ out, r.1 = k)
    (inputs : List (Input ν)) (splits : Int) (groups : List (Int × List ν)) :
    stage.keyedValues inputs splits = .ok groups ↔ ∃ emitted,
      collect ((tasksOf inputs splits).map (mapSplit stage.combiner)) = .ok emitted ∧
        groups = groupsOf emitted := by
  cases hcomb : stage.combiner with
  | none =>
      unfold Stage.keyedValues
      rw [hcomb]
      simp only [collect_tasksOf_none, bind_eq_ok, pure_eq_ok]
      constructor
      · rintro ⟨emitted, h, rfl⟩
        exact ⟨emitted, h, rfl⟩
      · rintro ⟨emitted, h, rfl⟩
        exact ⟨emitted, h, rfl⟩
  | some c =>
      have hc := hcombiner c hcomb
      rw [keyedValues_some_eq_ok c hcomb]
      constructor
      · rintro ⟨E, C, hok, rfl⟩
        exact ⟨combinedOutput (tasksOf inputs splits) E C,
          (collect_mapSplit_some_eq_ok c _ _).2 ⟨E, C, hok, rfl⟩,
          (groupsOf_combinedOutput hc hok).symm⟩
      · rintro ⟨emitted, hmap, rfl⟩
        obtain ⟨E, C, hok, rfl⟩ := (collect_mapSplit_some_eq_ok c _ _).1 hmap
        exact ⟨E, C, hok, groupsOf_combinedOutput hc hok⟩

/-! ## The stage against its reference -/

/-- A stage succeeds exactly when its reference does, with the same output. -/
theorem Stage.run_eq_ok_iff_reference (stage : Stage ν ω) (inputs : List (Input ν)) {splits : Int}
    (hash : Int → Int) (hsplits : 1 ≤ splits)
    (hreducer : ∀ k vs out, stage.reducer k vs = .ok out → ∀ r ∈ out, r.1 = k)
    (hcombiner : ∀ c, stage.combiner = some c → ∀ k vs out, c k vs = .ok out → ∀ r ∈ out, r.1 = k)
    (out : List (Int × ω)) :
    stage.run inputs splits hash = .ok out ↔ stage.reference inputs splits = .ok out := by
  rw [Stage.run_eq_ok stage inputs hash hsplits, Stage.reference, bind_eq_ok]
  constructor
  · rintro ⟨emitted, hmap, hred⟩
    exact ⟨groupsOf emitted, (mapSide_eq_ok_iff stage hcombiner inputs splits _).2 ⟨emitted, hmap, rfl⟩,
      (reduceSide_eq_ok_iff stage.reducer hreducer hash splits emitted out).1 hred⟩
  · rintro ⟨groups, hkeyed, hcol⟩
    obtain ⟨emitted, hmap, rfl⟩ := (mapSide_eq_ok_iff stage hcombiner inputs splits _).1 hkeyed
    exact ⟨emitted, hmap, (reduceSide_eq_ok_iff stage.reducer hreducer hash splits emitted out).2 hcol⟩

/-- **The runtime refines grouping by key.** For any split count of at least one and any hash,
a stage whose reducer and combiner emit only records under the key they are called with
succeeds exactly when its sequential reference does, with the same output; without a
combiner that output depends on neither the split count nor the hash. -/
theorem Stage.run_matches_reference (stage : Stage ν ω) (inputs : List (Input ν)) {splits : Int}
    (hash : Int → Int) (hsplits : 1 ≤ splits)
    (hreducer : ∀ k vs out, stage.reducer k vs = .ok out → ∀ r ∈ out, r.1 = k)
    (hcombiner : ∀ c, stage.combiner = some c → ∀ k vs out, c k vs = .ok out → ∀ r ∈ out, r.1 = k)
    (out : List (Int × ω)) :
    (stage.run inputs splits hash = .ok out ↔ stage.reference inputs splits = .ok out) ∧
      (stage.combiner = none → ∀ (splits' : Int) (hash' : Int → Int), 1 ≤ splits' →
        (stage.run inputs splits' hash' = .ok out ↔ stage.run inputs splits hash = .ok out)) := by
  refine ⟨Stage.run_eq_ok_iff_reference stage inputs hash hsplits hreducer hcombiner out, ?_⟩
  intro hnone splits' hash' hsplits'
  -- without a combiner the reference reads the inputs whole, so the split count drops out
  have href : stage.reference inputs splits' = stage.reference inputs splits := by
    simp only [Stage.reference, Stage.keyedValues, hnone]
  rw [Stage.run_eq_ok_iff_reference stage inputs hash' hsplits' hreducer hcombiner out, href,
    Stage.run_eq_ok_iff_reference stage inputs hash hsplits hreducer hcombiner out]

/-- Counting the values of each key over two inputs cut into three splits. -/
theorem run_matches_reference_counting :
    (1 : Int) ≤ 3 ∧
      (∀ k (vs : List Nat) out, ((⟨none, fun k vs => pure [(k, vs.length)]⟩ : Stage Nat Nat).reducer
        k vs = .ok out → ∀ r ∈ out, r.1 = k)) ∧
      (∀ c, (⟨none, fun k vs => pure [(k, vs.length)]⟩ : Stage Nat Nat).combiner = some c →
        ∀ k vs out, c k vs = .ok out → ∀ r ∈ out, r.1 = k) ∧
      (((⟨none, fun k vs => pure [(k, vs.length)]⟩ : Stage Nat Nat).run
          [[.ok [(2, 0), (1, 0)], .ok [(2, 1)]], [.ok [(3, 0)]]] 3 keyHash = .ok [(1, 1), (2, 2), (3, 1)] ↔
        (⟨none, fun k vs => pure [(k, vs.length)]⟩ : Stage Nat Nat).reference
          [[.ok [(2, 0), (1, 0)], .ok [(2, 1)]], [.ok [(3, 0)]]] 3 = .ok [(1, 1), (2, 2), (3, 1)]) ∧
        ((⟨none, fun k vs => pure [(k, vs.length)]⟩ : Stage Nat Nat).combiner = none →
          ∀ (splits' : Int) (hash' : Int → Int), 1 ≤ splits' →
            ((⟨none, fun k vs => pure [(k, vs.length)]⟩ : Stage Nat Nat).run
                [[.ok [(2, 0), (1, 0)], .ok [(2, 1)]], [.ok [(3, 0)]]] splits' hash' =
                .ok [(1, 1), (2, 2), (3, 1)] ↔
              (⟨none, fun k vs => pure [(k, vs.length)]⟩ : Stage Nat Nat).run
                [[.ok [(2, 0), (1, 0)], .ok [(2, 1)]], [.ok [(3, 0)]]] 3 keyHash =
                .ok [(1, 1), (2, 2), (3, 1)]))) := by
  have hred : ∀ k (vs : List Nat) out,
      ((⟨none, fun k vs => pure [(k, vs.length)]⟩ : Stage Nat Nat).reducer k vs = .ok out →
        ∀ r ∈ out, r.1 = k) := by
    intro k vs out h r hr
    simp only [pure_eq_ok] at h
    subst h
    simp only [List.mem_singleton] at hr
    rw [hr]
  have hcomb : ∀ c, (⟨none, fun k vs => pure [(k, vs.length)]⟩ : Stage Nat Nat).combiner = some c →
      ∀ k vs out, c k vs = .ok out → ∀ r ∈ out, r.1 = k := by
    intro c h
    cases h
  exact ⟨by decide, hred, hcomb, Stage.run_matches_reference _ _ keyHash (by decide) hred hcomb _⟩

end ItemRecommender.Batch
