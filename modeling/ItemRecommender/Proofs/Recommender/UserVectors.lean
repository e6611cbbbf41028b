import Mathlib
import ItemRecommender.UserVector
import ItemRecommender.Proofs.Batch.Combine
import ItemRecommender.Proofs.Ledger

/-! # User vectors

    The vector stage gives every user of the preferences one vector, users ascending
    (`buildUserVectors_eq_ok`), as long as the table knows every item. A vector is read through
    `get?`: at index `x` it holds the value of the user's last preference for an item the table
    sends to `x`. This is the whole content of a vector that later stages read; the order of its
    entries is that of first insertion and no later stage depends on it.

    A vector fails at the first item the table does not know, and only at such an item
    (`userVector_eq_error_iff`). The stage meets every user's group whatever partition it lands
    in, so it fails exactly when some preference names an unknown item, and then names one
    (`buildUserVectors_eq_error`, `buildUserVectors_fails`); which one may depend on the split
    count, the vectors of a stage that succeeds do not (`buildUserVectors_last_value_wins`). -/

namespace ItemRecommender

open Batch

variable {α : Type}

/-- The distinct users of some preferences, ascending. -/
def usersOf (prefs : List (Preference α)) : List Int := ascending (prefs.map (·.user))

@[simp] theorem mem_usersOf (prefs : List (Preference α)) (u : Int) :
    u ∈ usersOf prefs ↔ ∃ p ∈ prefs, p.user = u := by
  simp [usersOf]

/-- The users of the preferences ascend. -/
theorem pairwise_usersOf (prefs : List (Preference α)) : (usersOf prefs).Pairwise (· < ·) :=
  pairwise_ascending _

/-- The value a user vector holds at an index, read off `(item, value)` pairs: the last pair
whose item the table sends to the index. -/
def slotAt (table : ItemTable) (values : List (Int × α)) (x : Int) : Option (Slot α) :=
  (values.reverse.find? fun p => table.indexOf? p.1 = some x).map fun p => .value p.2

/-- Writing the pairs into a ledger one after the other, all items known. -/
theorem foldlM_insert_eq_ok (table : ItemTable) (user : Int) (values : List (Int × α))
    (hknown : ∀ p ∈ values, (table.indexOf? p.1).isSome) (m : UserVector α) :
    ∃ vec, values.foldlM (fun (v : UserVector α) (p : Int × α) =>
        (match table.indexOf? p.1 with
        | none => throw (.unknownItem user p.1)
        | some index => pure (v.insert index (.value p.2)) : Except Failure (UserVector α))) m =
        .ok vec ∧
      ∀ x, vec.get? x = (slotAt table values x).or (m.get? x) := by
  induction values generalizing m with
  | nil => exact ⟨m, rfl, fun x => by simp [slotAt]⟩
  | cons p ps ih =>
      obtain ⟨index, hindex⟩ := Option.isSome_iff_exists.1 (hknown p (List.mem_cons_self ..))
      obtain ⟨vec, hvec, hget⟩ :=
        ih (fun q hq => hknown q (List.mem_cons_of_mem p hq)) (m.insert index (.value p.2))
      refine ⟨vec, ?_, fun x => ?_⟩
      · rw [List.foldlM_cons, hindex]
        exact hvec
      · -- the head pair is the last one read from the reversed list
        rw [hget x, Ledger.get?_insert]
        by_cases hx : x = index
        · subst hx
          simp [slotAt, List.find?_append, hindex]
        · have hne : table.indexOf? p.1 ≠ some x := by
            rw [hindex]
            exact fun h => hx (Option.some.inj h).symm
          simp [slotAt, List.find?_append, hx, hne]

/-- **A user's vector** holds, at every index, the last value given for an item the table
sends there, as long as the table knows every item. -/
theorem userVector_eq_ok (table : ItemTable) (user : Int) (values : List (Int × α))
    (hknown : ∀ p ∈ values, (table.indexOf? p.1).isSome) :
    ∃ vec, userVector table user values = .ok vec ∧ ∀ x, vec.get? x = slotAt table values x := by
  obtain ⟨vec, hvec, hget⟩ := foldlM_insert_eq_ok table user values hknown Ledger.empty
  exact ⟨vec, hvec, fun x => by simp [hget x]⟩

/-- **The vector stage** gives each user of the preferences, ascending, the vector of the
user's own `(item, value)` pairs, whatever the split count. -/
theorem buildUserVectors_eq_ok (prefs : List (Preference α)) (table : ItemTable) {splits : Int}
    (hsplits : 1 ≤ splits) (hknown : ∀ p ∈ prefs, (table.indexOf? p.item).isSome) :
    ∃ vs, buildUserVectors prefs table splits = .ok vs ∧ vs.map Prod.fst = usersOf prefs ∧
      ∀ r ∈ vs, ∀ x, r.2.get? x =
        slotAt table ((prefs.filter fun p => p.user = r.1).map fun p => (p.item, p.value)) x := by
  let reducer : Int → List (Int × α) → Except Failure (List (Int × UserVector α)) :=
    fun user values => do pure [(user, ← userVector table user values)]
  let stage : Stage (Int × α) (UserVector α) := ⟨none, reducer⟩
  let all := prefs.map fun p => (p.user, (p.item, p.value))
  have hall : collect [prefs.map fun p =>
      (pure [(p.user, (p.item, p.value))] : Except Failure _)].flatten = .ok all := by
    rw [List.flatten_singleton, collect_map_pure]
    exact congrArg Except.ok List.map_eq_flatMap.symm
  have hreducer : ∀ k vs out, reducer k vs = .ok out → ∀ r ∈ out, r.1 = k := by
    intro k vs out h r hr
    simp only [reducer, bind_eq_ok, pure_eq_ok] at h
    obtain ⟨vec, -, rfl⟩ := h
    simp_all
  have hvalues : ∀ u, valuesAt u all = (prefs.filter fun p => p.user = u).map fun p => (p.item, p.value) := by
    intro u
    simp [valuesAt, all, List.filter_map, Function.comp_def]
  -- every group of a user builds its vector
  have hgroup : ∀ g ∈ groupsOf all, ∃ vec, userVector table g.1 g.2 = .ok vec ∧
      ∀ x, vec.get? x = slotAt table g.2 x := by
    intro g hg
    obtain ⟨u, -, rfl⟩ := List.mem_map.1 hg
    refine userVector_eq_ok table u _ fun q hq => ?_
    rw [hvalues] at hq
    obtain ⟨p, hp, rfl⟩ := List.mem_map.1 hq
    exact hknown p (List.mem_filter.1 hp).1
  choose! V hV hget using hgroup
  have hrun : stage.run [prefs.map fun p => pure [(p.user, (p.item, p.value))]] splits =
      .ok ((groupsOf all).map fun g => (g.1, V g)) := by
    rw [Stage.run_eq_ok_iff_reduce hsplits hreducer (fun c hc => by cases hc)
      (Stage.keyedValues_none rfl hall splits), collect_map_eq_ok]
    refine ⟨fun g => [(g.1, V g)], fun g hg => ?_, List.map_eq_flatMap⟩
    show (do pure [(g.1, ← userVector table g.1 g.2)]) = _
    rw [hV g hg]
    rfl
  refine ⟨_, hrun, ?_, ?_⟩
  · simp [groupsOf, keysOf, usersOf, ascending, all, Function.comp_def]
  · intro r hr x
    obtain ⟨g, hg, rfl⟩ := List.mem_map.1 hr
    obtain ⟨u, -, rfl⟩ := List.mem_map.1 hg
    rw [hget _ hg x, hvalues]

/-! ## Unknown items -/

/-- Writing the pairs into a ledger fails only at an item the table does not know, naming it. -/
theorem foldlM_insert_eq_error (table : ItemTable) (user : Int) (values : List (Int × α))
    (m : UserVector α) {e : Failure}
    (h : values.foldlM (fun (v : UserVector α) (p : Int × α) =>
        (match table.indexOf? p.1 with
        | none => throw (.unknownItem user p.1)
        | some index => pure (v.insert index (.value p.2)) : Except Failure (UserVector α))) m =
        .error e) :
    ∃ q ∈ values, table.indexOf? q.1 = none ∧ e = .unknownItem user q.1 := by
  induction values generalizing m with
  | nil => cases h
  | cons p ps ih =>
      rw [List.foldlM_cons] at h
      cases hp : table.indexOf? p.1 with
      | none =>
          rw [hp] at h
          exact ⟨p, List.mem_cons_self .., hp, (Except.error.inj h).symm⟩
      | some index =>
          rw [hp] at h
          obtain ⟨q, hq, hqu, rfl⟩ := ih (m.insert index (.value p.2)) h
          exact ⟨q, List.mem_cons_of_mem p hq, hqu, rfl⟩

/-- Writing the pairs into a ledger succeeds only when the table knows every item. -/
theorem known_of_foldlM_insert_eq_ok (table : ItemTable) (user : Int) (values : List (Int × α))
    (m : UserVector α) {vec : UserVector α}
    (h : values.foldlM (fun (v : UserVector α) (p : Int × α) =>
        (match table.indexOf? p.1 with
        | none => throw (.unknownItem user p.1)
        | some index => pure (v.insert index (.value p.2)) : Except Failure (UserVector α))) m =
        .ok vec) :
    ∀ q ∈ values, (table.indexOf? q.1).isSome := by
  induction values generalizing m with
  | nil => exact fun q hq => nomatch hq
  | cons p ps ih =>
      rw [List.foldlM_cons] at h
      cases hp : table.indexOf? p.1 with
      | none =>
          rw [hp] at h
          cases h
      | some index =>
          rw [hp] at h
          intro q hq
          rcases List.mem_cons.1 hq with rfl | hq
          · simp [hp]
          · exact ih (m.insert index (.value p.2)) h q hq

/-- **A user's vector fails exactly when the table misses one of its items**, and then names
such an item. -/
theorem userVector_eq_error_iff (table : ItemTable) (user : Int) (values : List (Int × α)) :
    ((∃ e, userVector table user values = .error e) ↔
        ∃ q ∈ values, table.indexOf? q.1 = none) ∧
      ∀ e, userVector table user values = .error e →
        ∃ q ∈ values, table.indexOf? q.1 = none ∧ e = .unknownItem user q.1 := by
  have herror : ∀ e, userVector table user values = .error e →
      ∃ q ∈ values, table.indexOf? q.1 = none ∧ e = .unknownItem user q.1 :=
    fun e h => foldlM_insert_eq_error table user values Ledger.empty h
  refine ⟨⟨fun ⟨e, he⟩ => ?_, fun ⟨q, hq, hqu⟩ => ?_⟩, herror⟩
  · obtain ⟨q, hq, hqu, -⟩ := herror e he
    exact ⟨q, hq, hqu⟩
  · cases hvec : userVector table user values with
    | error e => exact ⟨e, rfl⟩
    | ok vec =>
        have hknown := known_of_foldlM_insert_eq_ok table user values Ledger.empty hvec q hq
        rw [hqu] at hknown
        cases hknown

/-! ## The vector stage -/

/-- The stage that builds the user vectors: no combiner, and each user reduced to its vector. -/
def vectorStage (table : ItemTable) : Stage (Int × α) (UserVector α) :=
  ⟨none, fun user values => do pure [(user, ← userVector table user values)]⟩

/-- Building the user vectors is a run of the vector stage. -/
theorem buildUserVectors_eq_run (prefs : List (Preference α)) (table : ItemTable) (splits : Int) :
    buildUserVectors prefs table splits =
      (vectorStage table).run [prefs.map fun p => pure [(p.user, (p.item, p.value))]] splits :=
  rfl

/-- The vector stage's reducer gives exactly the user's vector. -/
theorem vectorStage_reducer_eq_ok {table : ItemTable} {user : Int} {values : List (Int × α)}
    {out : List (Int × UserVector α)} :
    (vectorStage table).reducer user values = .ok out ↔
      ∃ vec, userVector table user values = .ok vec ∧ out = [(user, vec)] := by
  simp only [vectorStage]
  cases userVector table user values <;> simp [bind, Except.bind, pure, Except.pure, eq_comm]

/-- The vector stage's reducer fails as the user's vector does. -/
theorem vectorStage_reducer_eq_error {table : ItemTable} {user : Int} {values : List (Int × α)}
    {e : Failure} :
    (vectorStage table).reducer user values = .error e ↔ userVector table user values = .error e := by
  simp only [vectorStage]
  cases userVector table user values <;> simp [bind, Except.bind, pure, Except.pure]

/-- The vector reducer keeps the user as key. -/
theorem vectorStage_keeps_key (table : ItemTable) :
    ∀ k vs out, (vectorStage (α := α) table).reducer k vs = .ok out → ∀ r ∈ out, r.1 = k := by
  intro k vs out h r hr
  obtain ⟨vec, -, rfl⟩ := vectorStage_reducer_eq_ok.1 h
  simp_all

/-- The vector stage reduces each user's `(item, value)` pairs, users in partition order, and
sorts the vectors by user. -/
theorem buildUserVectors_eq_reduce (prefs : List (Preference α)) (table : ItemTable) {splits : Int}
    (hsplits : 1 ≤ splits) :
    buildUserVectors prefs table splits =
      (collect ((reduceOrder keyHash splits
        (groupByKey (prefs.map fun p => (p.user, (p.item, p.value))))).map fun g =>
          (vectorStage table).reducer g.1 g.2)).map sortByKey := by
  have hemit : collect ((tasksOf [prefs.map fun p => (pure [(p.user, (p.item, p.value))] :
      Except Failure _)] splits).map (mapSplit (vectorStage (α := α) table).combiner)) =
      .ok (prefs.map fun p => (p.user, (p.item, p.value))) := by
    rw [show (vectorStage (α := α) table).combiner = none from rfl, collect_tasksOf_none,
      List.flatten_singleton, collect_map_pure]
    exact congrArg Except.ok List.map_eq_flatMap.symm
  rw [buildUserVectors_eq_run]
  exact Stage.run_of_emitted _ _ keyHash hsplits hemit

/-- The group a user meets in the reduction: the user's pairs in input order. -/
theorem valuesAt_userPairs (prefs : List (Preference α)) (u : Int) :
    valuesAt u (prefs.map fun p => (p.user, (p.item, p.value))) =
      (prefs.filter fun p => p.user = u).map fun p => (p.item, p.value) := by
  simp [valuesAt, List.filter_map, Function.comp_def]

/-- A failing vector stage names a preference whose item the table does not know. -/
theorem buildUserVectors_eq_error (prefs : List (Preference α)) (table : ItemTable) {splits : Int}
    (hsplits : 1 ≤ splits) {e : Failure} (h : buildUserVectors prefs table splits = .error e) :
    ∃ p ∈ prefs, table.indexOf? p.item = none ∧ e = .unknownItem p.user p.item := by
  rw [buildUserVectors_eq_reduce prefs table hsplits] at h
  -- the sort cannot fail, so one reduction failed with `e`
  have hcol : collect ((reduceOrder keyHash splits
      (groupByKey (prefs.map fun p => (p.user, (p.item, p.value))))).map fun g =>
        (vectorStage table).reducer g.1 g.2) = .error e := by
    revert h
    cases collect _ <;> simp [Except.map]
  obtain ⟨g, hg, hfail⟩ := collect_map_eq_error hcol
  obtain ⟨-, hvalues⟩ := (mem_reduceOrder_groupByKey _ _ _ g).1 hg
  obtain ⟨q, hq, hqu, rfl⟩ :=
    (userVector_eq_error_iff table g.1 g.2).2 e (vectorStage_reducer_eq_error.1 hfail)
  rw [hvalues, valuesAt_userPairs] at hq
  obtain ⟨p, hp, rfl⟩ := List.mem_map.1 hq
  obtain ⟨hp, hpu⟩ := List.mem_filter.1 hp
  have hu : p.user = g.1 := of_decide_eq_true hpu
  exact ⟨p, hp, hqu, by rw [hu]⟩

/-- A preference whose item the table does not know fails the vector stage. -/
theorem buildUserVectors_fails (prefs : List (Preference α)) (table : ItemTable) {splits : Int}
    (hsplits : 1 ≤ splits) {p : Preference α} (hp : p ∈ prefs)
    (hunknown : table.indexOf? p.item = none) :
    ∃ e, buildUserVectors prefs table splits = .error e := by
  let all := prefs.map fun p => (p.user, (p.item, p.value))
  -- the group of `p`'s user holds `p`'s pair, so its vector fails
  let g : Int × List (Int × α) := (p.user, valuesAt p.user all)
  have hg : g ∈ reduceOrder keyHash splits (groupByKey all) :=
    (mem_reduceOrder_groupByKey _ _ _ g).2 ⟨List.mem_map.2 ⟨_, List.mem_map_of_mem hp, rfl⟩, rfl⟩
  have hq : (p.item, p.value) ∈ g.2 := by
    show (p.item, p.value) ∈ valuesAt p.user all
    rw [valuesAt_userPairs]
    exact List.mem_map_of_mem (List.mem_filter.2 ⟨hp, by simp⟩)
  obtain ⟨e, he⟩ := (userVector_eq_error_iff table g.1 g.2).1.2 ⟨_, hq, hunknown⟩
  obtain ⟨-, -, e', -, hcol⟩ :=
    collect_map_error_of_mem (f := fun g => (vectorStage table).reducer g.1 g.2) hg
      (vectorStage_reducer_eq_error.2 he)
  refine ⟨e', ?_⟩
  rw [buildUserVectors_eq_reduce prefs table hsplits, hcol]
  rfl

/-! ## The stage as a whole -/

/-- A slot is present at an index exactly when some pair's item is sent there. -/
theorem slotAt_isSome_iff (table : ItemTable) (values : List (Int × α)) (x : Int) :
    (slotAt table values x).isSome ↔ ∃ q ∈ values, table.indexOf? q.1 = some x := by
  simp [slotAt, List.find?_isSome]

/-- The vectors of some preferences under a table: one per user of the preferences, users
strictly ascending, each holding at an index the value of the user's last preference for an item
the table sends there, and holding no index that none of the user's items is sent to. -/
structure LastValues (prefs : List (Preference α)) (table : ItemTable)
    (vs : List (Int × UserVector α)) : Prop where
  ascending : (vs.map Prod.fst).Pairwise (· < ·)
  users : ∀ u, u ∈ vs.map Prod.fst ↔ ∃ p ∈ prefs, p.user = u
  get?_eq : ∀ r ∈ vs, ∀ x, r.2.get? x =
    slotAt table ((prefs.filter fun p => p.user = r.1).map fun p => (p.item, p.value)) x
  keys_iff : ∀ r ∈ vs, ∀ x,
    x ∈ r.2.keys ↔ ∃ p ∈ prefs, p.user = r.1 ∧ table.indexOf? p.item = some x

/-- **User vectors keep the last preference per item.** With at least one split the vector
stage fails exactly when the table misses the item of some preference, and then with the
consistency error naming the user and the item of such a preference. When the table knows every
item it gives the vectors `LastValues` describes, and the same for every split count. -/
theorem buildUserVectors_last_value_wins (prefs : List (Preference α)) (table : ItemTable)
    {splits : Int} (hsplits : 1 ≤ splits) :
    ((∃ e, buildUserVectors prefs table splits = .error e) ↔
        ∃ p ∈ prefs, table.indexOf? p.item = none) ∧
      (∀ e, buildUserVectors prefs table splits = .error e →
        ∃ p ∈ prefs, table.indexOf? p.item = none ∧ e = .unknownItem p.user p.item) ∧
      ((∀ p ∈ prefs, (table.indexOf? p.item).isSome) → ∃ vs, LastValues prefs table vs ∧
        ∀ splits', 1 ≤ splits' → buildUserVectors prefs table splits' = .ok vs) := by
  refine ⟨⟨fun ⟨e, he⟩ => ?_, fun ⟨p, hp, hu⟩ => buildUserVectors_fails prefs table hsplits hp hu⟩,
    fun e he => buildUserVectors_eq_error prefs table hsplits he, fun hknown => ?_⟩
  · obtain ⟨p, hp, hu, -⟩ := buildUserVectors_eq_error prefs table hsplits he
    exact ⟨p, hp, hu⟩
  · obtain ⟨vs, hrun, husers, hget⟩ := buildUserVectors_eq_ok prefs table hsplits hknown
    refine ⟨vs, ⟨?_, fun u => ?_, hget, fun r hr x => ?_⟩, fun splits' hsplits' => ?_⟩
    · rw [husers]
      exact pairwise_usersOf prefs
    · rw [husers, mem_usersOf]
    · rw [Ledger.mem_keys_iff, ← Option.isSome_iff_exists, hget r hr x, slotAt_isSome_iff]
      simp [and_assoc]
    · -- without a combiner the reference reads the inputs whole, so the split count drops out
      rw [buildUserVectors_eq_run] at hrun ⊢
      have hcombiner : ∀ c,
          (vectorStage table : Stage (Int × α) (UserVector α)).combiner = some c →
          ∀ k vs out, c k vs = .ok out → ∀ r ∈ out, r.1 = k := fun c hc => by cases hc
      rw [Stage.run_eq_ok_iff_reference _ _ keyHash hsplits (vectorStage_keeps_key table)
        hcombiner] at hrun
      rw [Stage.run_eq_ok_iff_reference _ _ keyHash hsplits' (vectorStage_keeps_key table)
        hcombiner]
      simpa only [Stage.reference, Stage.keyedValues, vectorStage] using hrun

/-- Two users over two splits; the first rates item `10` twice. -/
def twoRaters : List (Preference Int) := [⟨1, 10, 5⟩, ⟨2, 20, 1⟩, ⟨1, 10, 7⟩]

/-- Two users over a table of two items, one rating an item twice. -/
theorem buildUserVectors_twoRaters : (1 : Int) ≤ 2 ∧
    ((∃ e, buildUserVectors twoRaters ⟨[(0, 10), (1, 20)]⟩ 2 = .error e) ↔
        ∃ p ∈ twoRaters, (ItemTable.mk [(0, 10), (1, 20)]).indexOf? p.item = none) ∧
      (∀ e, buildUserVectors twoRaters ⟨[(0, 10), (1, 20)]⟩ 2 = .error e →
        ∃ p ∈ twoRaters, (ItemTable.mk [(0, 10), (1, 20)]).indexOf? p.item = none ∧
          e = .unknownItem p.user p.item) ∧
      ((∀ p ∈ twoRaters, ((ItemTable.mk [(0, 10), (1, 20)]).indexOf? p.item).isSome) →
        ∃ vs, LastValues twoRaters ⟨[(0, 10), (1, 20)]⟩ vs ∧
          ∀ splits', 1 ≤ splits' → buildUserVectors twoRaters ⟨[(0, 10), (1, 20)]⟩ splits' = .ok vs) :=
  ⟨by decide, buildUserVectors_last_value_wins twoRaters ⟨[(0, 10), (1, 20)]⟩ (by decide)⟩

end ItemRecommender
