import Mathlib
import ItemRecommender.Config
import ItemRecommender.Proofs.Decimal.Written

/-!
# What a fingerprint identifies

A fingerprint joins at `|` the settings that the output of a phase depends on: the resolved
input path, the kind of data and the split count; from phase 3 on the resolved users file
(nothing without one) and the pruning bound; in phase 4 the number of recommendations.

Agreeing configurations always share their fingerprints (`fingerprint_eq_of_agree`). The
converse needs the parts back from the join, and they come back from the right: every part
after the input path is free of `|` (numbers, `True` or `False`) except the users file, so the
input path is what comes before them, whatever it holds. Hence equal fingerprints mean
agreement when no resolved users file holds `|` (`fingerprint_eq_iff_agree`), and with one
that does, two configurations that differ everywhere can share the fingerprints of phases 3
and 4 (`fingerprint_collision_across_separator`). A resolved path is never empty, so a users
file never joins like none.
-/

namespace ItemRecommender

/-! ## Pieces joined at a separator -/

section Joining

variable {α : Type} {a : α}

/-- Two lists cut at a first `a` agree on both sides of it. -/
theorem append_cons_cancel_left {x y z w : List α} (hx : a ∉ x) (hy : a ∉ y)
    (h : x ++ a :: z = y ++ a :: w) : x = y ∧ z = w := by
  induction x generalizing y with
  | nil =>
    cases y with
    | nil => simpa using h
    | cons b y =>
      have hab : a = b := (List.cons.inj h).1
      exact absurd (hab ▸ List.mem_cons_self) hy
  | cons b x ih =>
    cases y with
    | nil =>
      have hab : b = a := (List.cons.inj h).1
      exact absurd (hab ▸ List.mem_cons_self) hx
    | cons c y =>
      obtain ⟨hbc, h⟩ := List.cons.inj h
      obtain ⟨hxy, hzw⟩ := ih (fun hm => hx (List.mem_cons_of_mem b hm))
        (fun hm => hy (List.mem_cons_of_mem c hm)) h
      exact ⟨by rw [hbc, hxy], hzw⟩

/-- Text before the last separator is cut off uniquely: a separator that the ends do not hold
is the last one. -/
theorem append_cons_cancel_right {x y z w : List α} (hz : a ∉ z) (hw : a ∉ w)
    (h : x ++ a :: z = y ++ a :: w) : x = y ∧ z = w := by
  have hrev : z.reverse ++ a :: x.reverse = w.reverse ++ a :: y.reverse := by
    simpa using congrArg List.reverse h
  obtain ⟨hzw, hxy⟩ := append_cons_cancel_left (by simpa using hz) (by simpa using hw) hrev
  exact ⟨List.reverse_injective hxy, List.reverse_injective hzw⟩

/-- Joining one more part adds the separator and the part at the end. -/
theorem intercalate_concat (sep : List α) {L : List (List α)} (hL : L ≠ []) (x : List α) :
    sep.intercalate (L ++ [x]) = sep.intercalate L ++ sep ++ x := by
  induction L with
  | nil => exact absurd rfl hL
  | cons l rest ih =>
    cases rest with
    | nil => simp [List.intercalate_cons_cons]
    | cons m rest =>
      rw [List.cons_append, List.cons_append, List.intercalate_cons_cons, ← List.cons_append,
        ih (List.cons_ne_nil _ _), List.intercalate_cons_cons]
      simp

/-- Pieces joined at a separator that none but the first holds are read back from the join,
given how many there are. -/
theorem intercalate_cons_inj {x y : List α} {xs ys : List (List α)}
    (hlen : xs.length = ys.length) (hxs : ∀ s ∈ xs, a ∉ s) (hys : ∀ s ∈ ys, a ∉ s) :
    [a].intercalate (x :: xs) = [a].intercalate (y :: ys) ↔ x = y ∧ xs = ys := by
  refine ⟨fun h => ?_, fun h => by rw [h.1, h.2]⟩
  induction xs using List.reverseRecOn generalizing ys with
  | nil =>
    obtain rfl : ys = [] := List.eq_nil_of_length_eq_zero hlen.symm
    simpa using h
  | append_singleton xs s ih =>
    obtain ⟨ys, t, rfl⟩ : ∃ ys' t, ys = ys' ++ [t] := by
      rcases List.eq_nil_or_concat ys with rfl | ⟨ys', t, rfl⟩
      · simp at hlen
      · exact ⟨ys', t, List.concat_eq_append⟩
    rw [← List.cons_append, ← List.cons_append, intercalate_concat _ (List.cons_ne_nil _ _),
      intercalate_concat _ (List.cons_ne_nil _ _), List.append_assoc, List.append_assoc,
      List.singleton_append, List.singleton_append] at h
    obtain ⟨hrest, hst⟩ := append_cons_cancel_right (hxs s (by simp)) (hys t (by simp)) h
    obtain ⟨hxy, hrest⟩ := ih (by simpa using hlen) (fun r hr => hxs r (by simp [hr]))
      (fun r hr => hys r (by simp [hr])) hrest
    exact ⟨hxy, by rw [hrest, hst]⟩

end Joining

/-! ## The fingerprint as its parts -/

theorem Resolved.render_ne_empty (r : Resolved) : r.render ≠ "" := by
  intro he
  unfold Resolved.render at he
  dsimp only at he
  split at he <;> split at he <;> simp_all [String.append_eq_empty_iff]

namespace Config

/-- The text of a resolved path is never empty. -/
theorem resolvedText_ne_empty {p : PathName} {t : String} (h : resolvedText p = .ok t) : t ≠ "" := by
  unfold resolvedText at h
  split at h
  · cases h
  · cases h
    exact Resolved.render_ne_empty _

/-- The text of the users file in a fingerprint: its resolved path, or nothing without one. -/
def usersText (c : Config) : Except Failure String :=
  match c.usersFile with
  | some u => resolvedText u
  | none => pure ""

/-- The parts of a fingerprint after the input path, given the text of the users file. -/
def fingerprintTail (c : Config) (p : Phase) (users : String) : List String :=
  [if c.booleanData then "True" else "False", toString c.numSplits] ++
    (if 3 ≤ p.toNat then [users, toString c.maxPrefsPerUser] else []) ++
    (if p.toNat = 4 then [toString c.numRecommendations] else [])

/-- The text of the users file as far as phase `p` reads it: only from phase 3 on. -/
def usersTextUpTo (c : Config) (p : Phase) : Except Failure String :=
  if 3 ≤ p.toNat then c.usersText else pure ""

/-- A fingerprint: the input path, then the users file, then all parts joined. -/
theorem fingerprint_eq_bind (c : Config) (p : Phase) :
    c.fingerprint p = (do
      let input ← resolvedText c.inputPath
      let users ← c.usersTextUpTo p
      pure ("|".intercalate (input :: c.fingerprintTail p users))) := by
  unfold fingerprint usersTextUpTo usersText fingerprintTail
  cases resolvedText c.inputPath with
  | error e => rfl
  | ok input =>
    by_cases h3 : 3 ≤ p.toNat
    · cases c.usersFile with
      | none => simp [h3, bind, Except.bind, pure, Except.pure]
      | some u => cases resolvedText u <;> simp [h3, bind, Except.bind, pure, Except.pure]
    · simp [h3, bind, Except.bind, pure, Except.pure]

/-- A fingerprint that goes through joins the input path and the other parts. -/
theorem fingerprint_eq_ok {c : Config} {p : Phase} {f : String} :
    c.fingerprint p = .ok f ↔ ∃ input users, resolvedText c.inputPath = .ok input ∧
      c.usersTextUpTo p = .ok users ∧ f = "|".intercalate (input :: c.fingerprintTail p users) := by
  rw [fingerprint_eq_bind]
  cases resolvedText c.inputPath with
  | error e => simp [bind, Except.bind]
  | ok input => cases c.usersTextUpTo p <;> simp [bind, Except.bind, pure, Except.pure, eq_comm]

/-- How many parts follow the input path at each phase. -/
theorem length_fingerprintTail (c : Config) (p : Phase) (users : String) :
    (c.fingerprintTail p users).length =
      2 + (if 3 ≤ p.toNat then 2 else 0) + (if p.toNat = 4 then 1 else 0) := by
  unfold fingerprintTail
  split_ifs <;> rfl

theorem booleanText_inj {a b : Bool} :
    (if a then "True" else "False") = (if b then "True" else "False") ↔ a = b := by
  cases a <;> cases b <;> simp

/-- The parts after the input path name the kind of data and the split count, and from phase 3
on the users file and the pruning bound, and in phase 4 the number of recommendations. -/
theorem fingerprintTail_eq_iff {c₁ c₂ : Config} {p : Phase} {u₁ u₂ : String} :
    c₁.fingerprintTail p u₁ = c₂.fingerprintTail p u₂ ↔
      c₁.booleanData = c₂.booleanData ∧ c₁.numSplits = c₂.numSplits ∧
        (3 ≤ p.toNat → u₁ = u₂ ∧ c₁.maxPrefsPerUser = c₂.maxPrefsPerUser) ∧
        (p.toNat = 4 → c₁.numRecommendations = c₂.numRecommendations) := by
  unfold fingerprintTail
  by_cases h3 : 3 ≤ p.toNat <;> by_cases h4 : p.toNat = 4
  · simp [h4, booleanText_inj, and_assoc]
  · simp [h3, h4, booleanText_inj]
  · omega
  · simp [h3, h4, booleanText_inj]

theorem bar_not_mem_toString_int (i : Int) : '|' ∉ (toString i).toList := fun h =>
  absurd (Decimal.numeralChar_of_mem_toString_int i '|' h) (by simp [Decimal.numeralChar])

/-- No part after the input path holds `|` unless the users part does. -/
theorem bar_not_mem_fingerprintTail {c : Config} {p : Phase} {users : String}
    (h : '|' ∉ users.toList) : ∀ t ∈ c.fingerprintTail p users, '|' ∉ t.toList := by
  intro t ht
  unfold fingerprintTail at ht
  simp only [List.mem_append, List.mem_cons, List.not_mem_nil, or_false] at ht
  rcases ht with ((rfl | rfl) | ht) | ht
  · split <;> simp
  · exact bar_not_mem_toString_int _
  · split_ifs at ht
    · rcases List.mem_pair.1 ht with rfl | rfl
      · exact h
      · exact bar_not_mem_toString_int _
    · cases ht
  · split_ifs at ht
    · rw [List.mem_singleton.1 ht]
      exact bar_not_mem_toString_int _
    · cases ht

/-! ## Agreement on the settings a phase depends on -/

/-- Two configurations agree on the settings that the output of phases up to `p` depends on:
the resolved input path, the kind of data and the split count; from phase 3 on also the resolved
users file, or both have none, and the pruning bound; in phase 4 also the number of
recommendations. -/
structure AgreeUpTo (p : Phase) (c₁ c₂ : Config) : Prop where
  input : resolvedText c₁.inputPath = resolvedText c₂.inputPath
  boolean : c₁.booleanData = c₂.booleanData
  splits : c₁.numSplits = c₂.numSplits
  users : 3 ≤ p.toNat → c₁.usersFile.map resolvedText = c₂.usersFile.map resolvedText
  maxPrefs : 3 ≤ p.toNat → c₁.maxPrefsPerUser = c₂.maxPrefsPerUser
  recommendations : p.toNat = 4 → c₁.numRecommendations = c₂.numRecommendations

/-- Users files that resolve alike give the same users part. -/
theorem usersText_eq_of_map {c₁ c₂ : Config}
    (h : c₁.usersFile.map resolvedText = c₂.usersFile.map resolvedText) :
    c₁.usersText = c₂.usersText := by
  unfold usersText
  cases hf₁ : c₁.usersFile <;> cases hf₂ : c₂.usersFile <;> simp_all

/-- The users texts of two configurations are equal exactly when their users files resolve
alike or both are absent: a resolved path is never empty. -/
theorem usersText_ok_eq_iff {c₁ c₂ : Config} {u₁ u₂ : String} (h₁ : c₁.usersText = .ok u₁)
    (h₂ : c₂.usersText = .ok u₂) :
    u₁ = u₂ ↔ c₁.usersFile.map resolvedText = c₂.usersFile.map resolvedText := by
  unfold usersText at h₁ h₂
  cases hf₁ : c₁.usersFile with
  | none =>
    cases hf₂ : c₂.usersFile with
    | none => simp_all [pure, Except.pure]
    | some v =>
      simp only [hf₁, hf₂, pure, Except.pure, Except.ok.injEq] at h₁ h₂
      simpa [← h₁, eq_comm] using resolvedText_ne_empty h₂
  | some v =>
    cases hf₂ : c₂.usersFile with
    | none =>
      simp only [hf₁, hf₂, pure, Except.pure, Except.ok.injEq] at h₁ h₂
      simpa [← h₂] using resolvedText_ne_empty h₁
    | some w =>
      simp only [hf₁, hf₂] at h₁ h₂
      simp [h₁, h₂]

/-- Configurations that agree on the settings phases up to `p` depend on have the same
fingerprint for `p`, whatever else they set: the output path, the temporary directory, the
phase range, resuming and the worker count. -/
theorem fingerprint_eq_of_agree {c₁ c₂ : Config} {p : Phase} (h : AgreeUpTo p c₁ c₂) :
    c₁.fingerprint p = c₂.fingerprint p := by
  have htail : ∀ users, c₁.fingerprintTail p users = c₂.fingerprintTail p users := fun users =>
    fingerprintTail_eq_iff.2 ⟨h.boolean, h.splits, fun h3 => ⟨rfl, h.maxPrefs h3⟩,
      h.recommendations⟩
  have husers : c₁.usersTextUpTo p = c₂.usersTextUpTo p := by
    unfold usersTextUpTo
    split_ifs with h3
    · exact usersText_eq_of_map (h.users h3)
    · rfl
  rw [fingerprint_eq_bind, fingerprint_eq_bind, h.input, husers]
  simp only [htail]

/-- The users part holds no `|` when no resolved users file does. -/
theorem usersTextUpTo_bar_free {c : Config} {p : Phase} {users : String}
    (h : c.usersTextUpTo p = .ok users)
    (hbar : 3 ≤ p.toNat → ∀ u ∈ c.usersFile, '|' ∉ u.resolve.render.toList) :
    '|' ∉ users.toList := by
  unfold usersTextUpTo at h
  split_ifs at h with h3
  · unfold usersText at h
    cases hf : c.usersFile with
    | none => simp_all [pure, Except.pure]
    | some u =>
      rw [hf] at h
      have hu : resolvedText u = .ok users := h
      unfold resolvedText at hu
      split_ifs at hu
      cases hu
      exact hbar h3 u hf
  · cases h
    simp

/-- Equal fingerprints mean agreement when no resolved users file holds `|`: the parts after
the input path hold no separator, so they come back from the right. -/
theorem agree_of_fingerprint_eq {c₁ c₂ : Config} {p : Phase} {f : String}
    (h₁ : c₁.fingerprint p = .ok f) (h₂ : c₂.fingerprint p = .ok f)
    (hbar : 3 ≤ p.toNat → ∀ c ∈ [c₁, c₂], ∀ u ∈ c.usersFile, '|' ∉ u.resolve.render.toList) :
    AgreeUpTo p c₁ c₂ := by
  obtain ⟨i₁, u₁, hi₁, hu₁, hf₁⟩ := fingerprint_eq_ok.1 h₁
  obtain ⟨i₂, u₂, hi₂, hu₂, hf₂⟩ := fingerprint_eq_ok.1 h₂
  have hfree : ∀ c ∈ [c₁, c₂], ∀ users, c.usersTextUpTo p = .ok users →
      ∀ s ∈ (c.fingerprintTail p users).map String.toList, '|' ∉ s := by
    intro c hc users hu
    simpa using bar_not_mem_fingerprintTail (usersTextUpTo_bar_free hu fun h3 => hbar h3 c hc)
  have hlen : ((c₁.fingerprintTail p u₁).map String.toList).length =
      ((c₂.fingerprintTail p u₂).map String.toList).length := by
    simp [length_fingerprintTail]
  obtain ⟨hi, htail⟩ : i₁ = i₂ ∧ c₁.fingerprintTail p u₁ = c₂.fingerprintTail p u₂ := by
    have h := congrArg String.toList (hf₁.symm.trans hf₂)
    rw [String.toList_intercalate, String.toList_intercalate, List.map_cons, List.map_cons,
      show "|".toList = ['|'] from rfl,
      intercalate_cons_inj hlen (hfree c₁ (by simp) u₁ hu₁) (hfree c₂ (by simp) u₂ hu₂)] at h
    exact ⟨String.toList_injective h.1,
      List.map_injective_iff.2 (fun _ _ h => String.toList_injective h) h.2⟩
  obtain ⟨hb, hs, hk, hn⟩ := fingerprintTail_eq_iff.1 htail
  refine ⟨by rw [hi₁, hi₂, hi], hb, hs, fun h3 => ?_, fun h3 => (hk h3).2, hn⟩
  -- from phase 3 on, the users texts are those of the users files
  unfold usersTextUpTo at hu₁ hu₂
  rw [if_pos h3] at hu₁ hu₂
  exact (usersText_ok_eq_iff hu₁ hu₂).1 (hk h3).1

/-- **What a fingerprint identifies.** Two fingerprints of a phase are equal exactly when the
configurations agree on the settings the phase depends on, provided that no resolved users file
holds the separator `|`. Without that proviso the parts cannot be told apart from the right:
the parts after the input path hold no separator, so the input path is all that comes before
them, but a users file holding one shifts the parts (`fingerprint_collision_across_separator`).
Up to phase 2 there is no users file, and equality means agreement outright. -/
theorem fingerprint_eq_iff_agree {c₁ c₂ : Config} {p : Phase} {f₁ f₂ : String}
    (h₁ : c₁.fingerprint p = .ok f₁) (h₂ : c₂.fingerprint p = .ok f₂)
    (hbar : 3 ≤ p.toNat → ∀ c ∈ [c₁, c₂], ∀ u ∈ c.usersFile, '|' ∉ u.resolve.render.toList) :
    f₁ = f₂ ↔ AgreeUpTo p c₁ c₂ := by
  constructor
  · rintro rfl
    exact agree_of_fingerprint_eq h₁ h₂ hbar
  · intro h
    have hsame : (Except.ok f₁ : Except Failure String) = .ok f₂ := by
      rw [← h₁, ← h₂]
      exact fingerprint_eq_of_agree h
    exact Except.ok.inj hsame

/-- Two configurations with one users file, the second writing elsewhere with more workers: at
the last phase their fingerprints are equal exactly when they agree, which they do. -/
theorem fingerprint_eq_iff_agree_elsewhere :
    ∃ c₁ c₂ f₁ f₂, validate [("users_file", .text "users.txt")] = .ok c₁ ∧
      validate [("users_file", .text "users.txt"), ("output_path", .text "elsewhere.txt"),
        ("workers", .int 3)] = .ok c₂ ∧
      c₁.fingerprint .aggregate = .ok f₁ ∧ c₂.fingerprint .aggregate = .ok f₂ ∧
      (f₁ = f₂ ↔ AgreeUpTo .aggregate c₁ c₂) :=
  ⟨_, _, _, _, rfl, rfl, rfl, rfl, fingerprint_eq_iff_agree rfl rfl fun _ c hc u hu => by
    simp only [List.mem_cons, List.not_mem_nil, or_false] at hc
    rcases hc with rfl | rfl <;> simp only [Option.mem_def, Option.some.injEq] at hu <;> subst hu <;>
      decide⟩

/-- A users file whose path holds `|` makes two configurations that differ in every setting of
phase 0 share their fingerprints of phases 3 and 4. -/
theorem fingerprint_collision_across_separator :
    ∃ a b, validate [("input_path", .text "/a"), ("users_file", .text "/u|True|5|/v")] = .ok a ∧
      validate [("input_path", .text "/a|False|4|/u"), ("boolean_data", .bool true),
        ("num_splits", .int 5), ("users_file", .text "/v")] = .ok b ∧
      a.fingerprint .partialMultiply = .ok "/a|False|4|/u|True|5|/v|10" ∧
      b.fingerprint .partialMultiply = .ok "/a|False|4|/u|True|5|/v|10" ∧
      a.fingerprint .aggregate = .ok "/a|False|4|/u|True|5|/v|10|10" ∧
      b.fingerprint .aggregate = .ok "/a|False|4|/u|True|5|/v|10|10" ∧
      ¬ AgreeUpTo .itemIndex a b :=
  ⟨_, _, rfl, rfl, rfl, rfl, rfl, rfl, fun h => absurd h.boolean (by decide)⟩

end Config

end ItemRecommender
