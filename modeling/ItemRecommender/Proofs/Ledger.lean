import Mathlib
import ItemRecommender.Ledger

/-! # Lookups in a ledger

    A ledger is read through `get?`. Since its entries never repeat a key, the value at a key is
    the value of the one entry with that key (`get?_eq_some_iff`), and every operation is
    described by what it does to `get?` at each key: writing changes one key, `mapValues` and
    `filter` act key by key, and `ofList` keeps the last value written to each key. Later proofs
    about vectors, columns and scores go through these lemmas and never through the entries. -/

namespace ItemRecommender.Ledger

variable {κ α β : Type} [DecidableEq κ]

theorem get?_eq_some_iff (m : Ledger κ α) (k : κ) (v : α) :
    m.get? k = some v ↔ (k, v) ∈ m.entries := by
  have hnodup := m.nodup
  unfold get?
  generalize m.entries = es at hnodup
  induction es with
  | nil => simp
  | cons e es ih =>
      rw [List.map_cons, List.nodup_cons] at hnodup
      by_cases he : e.1 = k
      · subst he
        have hnot : ∀ w, (e.1, w) ∉ es := fun w hw => hnodup.1 (List.mem_map.2 ⟨_, hw, rfl⟩)
        simp only [List.find?_cons, decide_true, Option.map_some, Option.some.injEq,
          List.mem_cons]
        constructor
        · rintro rfl
          exact Or.inl rfl
        · rintro (h | h)
          · rw [← h]
          · exact absurd h (hnot v)
      · simp only [List.find?_cons, he, decide_false, List.mem_cons]
        have ih' := ih hnodup.2
        constructor
        · exact fun h => Or.inr (ih'.1 h)
        · rintro (h | h)
          · exact absurd (congrArg Prod.fst h).symm he
          · exact ih'.2 h

theorem mem_keys_iff (m : Ledger κ α) (k : κ) : k ∈ m.keys ↔ ∃ v, m.get? k = some v := by
  simp only [keys, List.mem_map, get?_eq_some_iff]
  constructor
  · rintro ⟨e, he, rfl⟩
    exact ⟨e.2, he⟩
  · rintro ⟨v, hv⟩
    exact ⟨(k, v), hv, rfl⟩

theorem get?_eq_none_iff (m : Ledger κ α) (k : κ) : m.get? k = none ↔ k ∉ m.keys := by
  rw [mem_keys_iff, not_exists, Option.eq_none_iff_forall_ne_some]

/-- Replacing the value of key `k` in a list of entries. -/
theorem mem_replace (es : List (κ × α)) (k : κ) (v : α) (x : κ × α) :
    x ∈ es.map (fun e => if e.1 = k then (k, v) else e) ↔
      (x = (k, v) ∧ k ∈ es.map Prod.fst) ∨ (x ∈ es ∧ x.1 ≠ k) := by
  simp only [List.mem_map]
  constructor
  · rintro ⟨e, he, rfl⟩
    by_cases hk : e.1 = k
    · exact Or.inl ⟨by rw [if_pos hk], e, he, hk⟩
    · exact Or.inr ⟨by rw [if_neg hk]; exact he, by rw [if_neg hk]; exact hk⟩
  · rintro (⟨rfl, e, he, hk⟩ | ⟨hx, hk⟩)
    · exact ⟨e, he, by rw [if_pos hk]⟩
    · exact ⟨x, hx, by rw [if_neg hk]⟩

@[simp] theorem get?_insert (m : Ledger κ α) (k k' : κ) (v : α) :
    (m.insert k v).get? k' = if k' = k then some v else m.get? k' := by
  apply Option.ext
  intro w
  rw [get?_eq_some_iff]
  by_cases hc : m.contains k = true
  · have hk : k ∈ m.entries.map Prod.fst := (contains_iff m k).1 hc
    simp only [insert, dif_pos hc, mem_replace, Prod.mk.injEq]
    by_cases hk' : k' = k
    · subst hk'
      simp [hk, eq_comm]
    · simp [hk', get?_eq_some_iff]
  · have hk : k ∉ m.keys := fun h => hc ((contains_iff m k).2 h)
    simp only [insert, dif_neg hc, List.mem_append, List.mem_singleton, Prod.mk.injEq]
    by_cases hk' : k' = k
    · subst hk'
      have hnot : (k', w) ∉ m.entries := fun h =>
        hk ((mem_keys_iff m k').2 ⟨w, (get?_eq_some_iff m k' w).2 h⟩)
      simp [hnot, eq_comm]
    · simp [hk', get?_eq_some_iff]

@[simp] theorem get?_alter (m : Ledger κ α) (k k' : κ) (f : Option α → α) :
    (m.alter k f).get? k' = if k' = k then some (f (m.get? k)) else m.get? k' :=
  get?_insert m k k' _

@[simp] theorem get?_mapValues (f : α → β) (m : Ledger κ α) (k : κ) :
    (m.mapValues f).get? k = (m.get? k).map f := by
  simp only [mapValues, get?, List.find?_map, Option.map_map]
  rfl

@[simp] theorem keys_mapValues (f : α → β) (m : Ledger κ α) : (m.mapValues f).keys = m.keys := by
  simp [mapValues, keys]

/-- `mapValues` reads only the values the ledger holds. -/
theorem mapValues_congr {f g : α → β} (m : Ledger κ α) (h : ∀ k v, m.get? k = some v → f v = g v) :
    m.mapValues f = m.mapValues g := by
  have hentries : (m.entries.map fun e => (e.1, f e.2)) = m.entries.map fun e => (e.1, g e.2) :=
    List.map_congr_left fun e he => by rw [h e.1 e.2 ((get?_eq_some_iff m e.1 e.2).2 he)]
  simp only [mapValues, hentries]

/-- A map that changes none of the values a ledger holds leaves it as it is. -/
theorem mapValues_eq_self {f : α → α} (m : Ledger κ α) (h : ∀ k v, m.get? k = some v → f v = v) :
    m.mapValues f = m := by
  rw [mapValues_congr (g := id) m h]
  cases m
  simp [mapValues]

@[simp] theorem get?_filter (p : κ → α → Bool) (m : Ledger κ α) (k : κ) :
    (m.filter p).get? k = (m.get? k).filter (p k) := by
  apply Option.ext
  intro w
  rw [get?_eq_some_iff, Option.filter_eq_some_iff, get?_eq_some_iff]
  simp [filter]

@[simp] theorem mem_keys_filter (p : κ → α → Bool) (m : Ledger κ α) (k : κ) :
    k ∈ (m.filter p).keys ↔ ∃ v, m.get? k = some v ∧ p k v = true := by
  rw [mem_keys_iff]
  simp [Option.filter_eq_some_iff]

@[simp] theorem mem_keys_insert (m : Ledger κ α) (k k' : κ) (v : α) :
    k' ∈ (m.insert k v).keys ↔ k' = k ∨ k' ∈ m.keys := by
  rw [keys_insert]
  split <;> simp_all [or_iff_right_of_imp, or_comm]

/-- The value a list of pairs leaves at a key: the last one written to it. -/
theorem get?_ofList (pairs : List (κ × α)) (k : κ) :
    (ofList pairs).get? k = (pairs.reverse.find? (·.1 = k)).map Prod.snd := by
  -- written left to right, so the reversed list is read from its head
  suffices h : ∀ m : Ledger κ α, (pairs.foldl (fun m p => m.insert p.1 p.2) m).get? k =
      ((pairs.reverse.find? (·.1 = k)).map Prod.snd).or (m.get? k) by
    simpa [ofList] using h empty
  induction pairs using List.reverseRecOn with
  | nil => simp
  | append_singleton ps p ih =>
      intro m
      rw [List.foldl_append, List.foldl_cons, List.foldl_nil, get?_insert, ih, List.reverse_append]
      by_cases hk : k = p.1
      · subst hk
        simp
      · simp [hk, Ne.symm hk]

@[simp] theorem mem_keys_ofList (pairs : List (κ × α)) (k : κ) :
    k ∈ (ofList pairs).keys ↔ k ∈ pairs.map Prod.fst := by
  rw [mem_keys_iff, ← Option.isSome_iff_exists, get?_ofList, Option.isSome_map,
    List.find?_isSome]
  simp

/-- A ledger giving one value to each key of a list. -/
theorem get?_ofList_const (keys : List κ) (c : α) (j : κ) :
    (ofList (keys.map (·, c))).get? j = if j ∈ keys then some c else none := by
  rw [get?_ofList]
  have hsnd : ∀ e ∈ (keys.map (·, c)).reverse, e.2 = c := by
    intro e he
    obtain ⟨k, -, rfl⟩ := List.mem_map.1 (List.mem_reverse.1 he)
    rfl
  split
  · rename_i hj
    have hmem : (j, c) ∈ (keys.map (·, c)).reverse := by simpa using hj
    have hsome : ((keys.map (·, c)).reverse.find? (·.1 = j)).isSome :=
      List.find?_isSome.2 ⟨(j, c), hmem, by simp⟩
    obtain ⟨e, he⟩ := Option.isSome_iff_exists.1 hsome
    rw [he, Option.map_some, hsnd e (List.mem_of_find?_eq_some he)]
  · rename_i hj
    rw [List.find?_eq_none.2]
    · rfl
    · intro e he hej
      obtain ⟨k, hk, rfl⟩ := List.mem_map.1 (List.mem_reverse.1 he)
      exact hj (by simpa using (show k = j by simpa using hej) ▸ hk)

/-- The values of the entries with key `k`: the one at `k`, if any. -/
theorem map_snd_filter_entries (m : Ledger κ α) (k : κ) :
    (m.entries.filter fun e => e.1 = k).map Prod.snd = (m.get? k).toList := by
  have hnodup := m.nodup
  unfold get?
  generalize m.entries = es at hnodup
  induction es with
  | nil => rfl
  | cons e es ih =>
      rw [List.map_cons, List.nodup_cons] at hnodup
      by_cases he : e.1 = k
      · -- no later entry has the key of the head
        subst he
        have hnone : es.filter (fun e' => e'.1 = e.1) = [] :=
          List.filter_eq_nil_iff.2 fun e' he' heq =>
            hnodup.1 (List.mem_map.2 ⟨e', he', by simpa using heq⟩)
        simp [hnone]
      · simp [he, ih hnodup.2]

/-- A list of pairs with distinct keys is written entry by entry at the end. -/
theorem entries_ofList {pairs : List (κ × α)} (h : (pairs.map Prod.fst).Nodup) :
    (ofList pairs).entries = pairs := by
  induction pairs using List.reverseRecOn with
  | nil => rfl
  | append_singleton ps p ih =>
    rw [List.map_append, List.nodup_append] at h
    have hps := ih h.1
    -- the last key is new, so its entry goes at the end
    have hnew : ¬ (ofList ps).contains p.1 = true := by
      rw [contains_iff, keys, hps]
      intro hp
      exact h.2.2 p.1 hp p.1 (by simp) rfl
    have hstep : ofList (ps ++ [p]) = (ofList ps).insert p.1 p.2 := by
      simp [ofList, List.foldl_append]
    rw [hstep, insert, dif_neg hnew]
    simp [hps]

/-- A ledger is the ledger of its entries. -/
theorem ofList_entries (m : Ledger κ α) : ofList m.entries = m := by
  obtain ⟨es, hnodup⟩ := m
  have h : (ofList es).entries = es := entries_ofList hnodup
  generalize ofList es = L at h ⊢
  obtain ⟨es', _⟩ := L
  dsimp only at h
  subst h
  rfl

end ItemRecommender.Ledger
