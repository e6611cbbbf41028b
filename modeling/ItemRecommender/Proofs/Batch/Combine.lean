import Mathlib
import ItemRecommender.Proofs.Batch.Reference

/-! # Stages whose mappers never fail

    The stages of the recommender map every record to keyed values without failing, and each
    combiner they use summarises the values of a key in one record under that key. For such a
    stage the reference names the values `V_k` of each key `k` without mentioning splits: they
    are the values of `k` cut into consecutive nonempty blocks, each block summarised
    (`BlockSummary`). A reducer that reads the summaries the way it reads the values then sees
    the same key set and, for an associative summary, the same result, whatever the split
    count. -/

namespace ItemRecommender.Batch

variable {ν ω γ β : Type}

/-- Steps that all succeed run to the join of their outputs. -/
theorem collect_map_pure (f : γ → List β) (xs : List γ) :
    collect (xs.map fun x => (pure (f x) : Except Failure (List β))) = .ok (xs.map f).flatten :=
  (collect_map_eq_ok _ xs _).2 ⟨f, fun _ _ => rfl, rfl⟩

/-- The splits of the inputs join back to the inputs. -/
theorem flatten_tasksOf (inputs : List (Input ν)) (splits : Int) :
    (tasksOf inputs splits).flatten = inputs.flatten := by
  rw [tasksOf, List.flatMap, List.flatten_flatten, List.map_map]
  congr 1
  have : (List.flatten ∘ fun input : Input ν => splitRecords input splits) = fun input => input :=
    funext fun input => flatten_splitRecords input splits
  rw [this, List.map_id']

/-- When all steps of the inputs succeed, so do the steps of every split. -/
theorem collect_tasksOf_eq_ok {inputs : List (Input ν)} {all : List (Int × ν)}
    (hall : collect inputs.flatten = .ok all) (splits : Int) :
    ∃ E : Input ν → List (Int × ν), (∀ t ∈ tasksOf inputs splits, collect t = .ok (E t)) ∧
      ((tasksOf inputs splits).map E).flatten = all := by
  rw [← flatten_tasksOf inputs splits, ← collect_map_collect, collect_map_eq_ok] at hall
  obtain ⟨E, hE, rfl⟩ := hall
  exact ⟨E, hE, rfl⟩

/-- Dropping lists that contribute nothing keeps the join. -/
theorem flatten_map_filter {ρ : Type} (L : List ρ) (p : ρ → Bool) (h : ρ → List β)
    (hnil : ∀ x ∈ L, p x = false → h x = []) :
    ((L.filter p).map h).flatten = (L.map h).flatten := by
  induction L with
  | nil => rfl
  | cons x L ih =>
      have ih' := ih fun y hy => hnil y (List.mem_cons_of_mem x hy)
      by_cases hp : p x = true
      · simp [hp, ih']
      · simp [hp, ih', hnil x (List.mem_cons_self ..) (by simpa using hp)]

/-- Values cut into consecutive nonempty blocks, each summarised by `f`. -/
def BlockSummary (f : List ν → ν) (vs out : List ν) : Prop :=
  ∃ blocks : List (List ν), blocks.flatten = vs ∧ (∀ b ∈ blocks, b ≠ []) ∧ out = blocks.map f

/-- **The reference of a summarising combiner.** When every mapper succeeds, emitting `all`,
and the combiner summarises the values of a key in one record under it, every key of `all`
reaches the reducers, ascending, with summaries of consecutive nonempty blocks of its values. -/
theorem Stage.keyedValues_summary {stage : Stage ν ω} (f : Int → List ν → ν)
    (hcomb : stage.combiner = some fun k vs => pure [(k, f k vs)])
    {inputs : List (Input ν)} {all : List (Int × ν)} (hall : collect inputs.flatten = .ok all)
    (splits : Int) :
    ∃ groups, stage.keyedValues inputs splits = .ok groups ∧ groups.map Prod.fst = keysOf all ∧
      ∀ g ∈ groups, BlockSummary (f g.1) (valuesAt g.1 all) g.2 := by
  obtain ⟨E, hE, hflat⟩ := collect_tasksOf_eq_ok hall splits
  set tasks := tasksOf inputs splits
  let C : Int → List (Int × ν) → List (Int × ν) := fun k e => [(k, f k (valuesAt k e))]
  have hok : MapSideOk (fun k vs => pure [(k, f k vs)]) tasks E C :=
    ⟨hE, fun _ _ _ _ => rfl⟩
  -- the splits that emit `k`, each giving one summary
  let emitting : Int → List (List (Int × ν)) := fun k =>
    (tasks.map E).filter fun e => k ∈ e.map Prod.fst
  have hcombined : ∀ k, combinedOf tasks E C k = (emitting k).map fun e => f k (valuesAt k e) := by
    intro k
    rw [List.map_eq_flatMap]
    rfl
  have hblocks : ∀ k, ((emitting k).map (valuesAt k)).flatten = valuesAt k all := by
    intro k
    rw [← hflat, valuesAt_flatten, flatten_map_filter]
    intro e _ he
    rw [valuesAt_eq_nil_iff]
    simpa using he
  refine ⟨(keysOf all).map fun k => (k, combinedOf tasks E C k),
    (keyedValues_some_eq_ok _ hcomb inputs splits _).2 ⟨E, C, hok, ?_⟩, by simp [Function.comp_def], ?_⟩
  · rw [hflat, List.filter_eq_self.2]
    intro g hg
    obtain ⟨k, hk, rfl⟩ := List.mem_map.1 hg
    -- a key of `all` is emitted by some split, so its summaries are not empty
    have hne : valuesAt k all ≠ [] := by
      rw [Ne, valuesAt_eq_nil_iff, not_not]
      simpa using hk
    rw [← hblocks k] at hne
    obtain ⟨b, hb⟩ := List.exists_mem_of_ne_nil _ hne
    obtain ⟨l, hl, -⟩ := List.mem_flatten.1 hb
    obtain ⟨e, he, -⟩ := List.mem_map.1 hl
    show (!(combinedOf tasks E C k).isEmpty) = true
    rw [hcombined k, Bool.not_eq_true', List.isEmpty_eq_false_iff, ne_eq, List.map_eq_nil_iff]
    exact List.ne_nil_of_mem he
  · intro g hg
    obtain ⟨k, -, rfl⟩ := List.mem_map.1 hg
    refine ⟨(emitting k).map (valuesAt k), hblocks k, ?_, by simp [hcombined k]⟩
    intro b hb
    obtain ⟨e, he, rfl⟩ := List.mem_map.1 hb
    rw [Ne, valuesAt_eq_nil_iff, not_not]
    simpa using (List.mem_filter.1 he).2

/-- The reference without a combiner, when every mapper succeeds. -/
theorem Stage.keyedValues_none {stage : Stage ν ω} (hcomb : stage.combiner = none)
    {inputs : List (Input ν)} {all : List (Int × ν)} (hall : collect inputs.flatten = .ok all)
    (splits : Int) : stage.keyedValues inputs splits = .ok (groupsOf all) := by
  unfold Stage.keyedValues
  rw [hcomb, hall]
  rfl

/-- A stage whose reference meets the groups `groups` reduces them in order. -/
theorem Stage.run_eq_ok_iff_reduce {stage : Stage ν ω} {inputs : List (Input ν)} {splits : Int}
    (hsplits : 1 ≤ splits)
    (hreducer : ∀ k vs out, stage.reducer k vs = .ok out → ∀ r ∈ out, r.1 = k)
    (hcombiner : ∀ c, stage.combiner = some c → ∀ k vs out, c k vs = .ok out → ∀ r ∈ out, r.1 = k)
    {groups : List (Int × List ν)} (hkv : stage.keyedValues inputs splits = .ok groups)
    (out : List (Int × ω)) :
    stage.run inputs splits = .ok out ↔ collect (groups.map fun g => stage.reducer g.1 g.2) = .ok out := by
  rw [Stage.run_eq_ok_iff_reference stage inputs keyHash hsplits hreducer hcombiner out,
    Stage.reference, hkv]
  rfl

/-- A stage whose map side emits `emitted` reduces the groups of `emitted` in partition order,
the first failing reduction stopping it, and sorts the output by key. -/
theorem Stage.run_of_emitted (stage : Stage ν ω) (inputs : List (Input ν)) {splits : Int}
    (hash : Int → Int) (hsplits : 1 ≤ splits) {emitted : List (Int × ν)}
    (hemit : collect ((tasksOf inputs splits).map (mapSplit stage.combiner)) = .ok emitted) :
    stage.run inputs splits hash = (collect ((reduceOrder hash splits (groupByKey emitted)).map
      fun g => stage.reducer g.1 g.2)).map sortByKey := by
  have h0 : splits ≠ 0 := by omega
  have h1 : ¬ splits < 0 := by omega
  unfold Stage.run
  dsimp only
  rw [show (inputs.flatMap fun input => splitRecords input splits) = tasksOf inputs splits from rfl,
    hemit]
  simp only [h0, h1, if_false, ite_self]
  show collect ((reduceOrder hash splits (groupByKey emitted)).map fun g => stage.reducer g.1 g.2) >>=
    (fun reduced => pure (sortByKey reduced)) = _
  cases collect ((reduceOrder hash splits (groupByKey emitted)).map fun g => stage.reducer g.1 g.2) <;> rfl

/-- The groups the reducers meet: every emitted key once, with all of its values. -/
theorem mem_reduceOrder_groupByKey (hash : Int → Int) (splits : Int) (emitted : List (Int × ν))
    (g : Int × List ν) :
    g ∈ reduceOrder hash splits (groupByKey emitted) ↔
      g.1 ∈ emitted.map Prod.fst ∧ g.2 = valuesAt g.1 emitted := by
  rw [((perm_reduceOrder hash splits _).trans (perm_groupByKey_groupsOf emitted)).mem_iff, groupsOf,
    List.mem_map]
  constructor
  · rintro ⟨k, hk, rfl⟩
    exact ⟨(mem_keysOf k emitted).1 hk, rfl⟩
  · rintro ⟨hk, hg⟩
    exact ⟨g.1, (mem_keysOf _ emitted).2 hk, by rw [← hg]⟩

end ItemRecommender.Batch
