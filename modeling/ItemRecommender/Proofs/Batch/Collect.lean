import Mathlib
import ItemRecommender.Batch.Stage

/-! # Steps that may fail

    Every step of a stage runs in `Except Failure` and the first failure stops the stage.
    Reasoning about a run that succeeds goes through the inversion lemmas of this file: a bound
    computation succeeds exactly when both halves do, and a list of steps run by `collect` or
    `mapM` succeeds exactly when every step does, with the outputs in order.

    The outputs of the steps are named by a function `g` on the steps' arguments, so that no
    proof tracks which output belongs to which step. -/

namespace ItemRecommender

variable {ε α β γ : Type}

@[simp] theorem bind_eq_ok (x : Except ε α) (f : α → Except ε β) (b : β) :
    x >>= f = .ok b ↔ ∃ a, x = .ok a ∧ f a = .ok b := by
  cases x <;> simp [Bind.bind, Except.bind]

@[simp] theorem pure_eq_ok (a b : α) : (pure a : Except ε α) = .ok b ↔ a = b := by
  simp [pure, Except.pure]

@[simp] theorem throw_ne_ok (e : ε) (b : α) : (throw e : Except ε α) ≠ .ok b := by
  simp [throw, throwThe, MonadExceptOf.throw]

@[simp] theorem map_eq_ok (f : α → β) (x : Except ε α) (b : β) :
    x.map f = .ok b ↔ ∃ a, x = .ok a ∧ f a = b := by
  cases x <;> simp [Except.map]

@[simp] theorem fmap_eq_ok (f : α → β) (x : Except ε α) (b : β) :
    f <$> x = .ok b ↔ ∃ a, x = .ok a ∧ f a = b := by
  cases x <;> simp [Functor.map, Except.map]

/-- A succeeding step has one output: the value of a step that succeeds with `a` is `a`. -/
theorem ok_value_of_eq_ok {x : Except ε α} {a : α} (h : x = .ok a) (d : α) :
    x.toOption.getD d = a := by
  subst h
  rfl

/-- `mapM` succeeds exactly when every step does; its outputs are then the step outputs in
order. -/
theorem mapM_eq_ok [Inhabited α] (f : γ → Except ε α) (xs : List γ) (ys : List α) :
    xs.mapM f = .ok ys ↔ ∃ g : γ → α, (∀ x ∈ xs, f x = .ok (g x)) ∧ ys = xs.map g := by
  induction xs generalizing ys with
  | nil =>
      simp only [List.mapM_nil, pure_eq_ok, List.not_mem_nil, false_implies, implies_true,
        List.map_nil, true_and]
      exact ⟨fun h => ⟨fun _ => default, h.symm⟩, fun ⟨_, h⟩ => h.symm⟩
  | cons x xs ih =>
      rw [List.mapM_cons]
      simp only [bind_eq_ok, pure_eq_ok, ih]
      constructor
      · rintro ⟨a, ha, bs, ⟨g, hg, rfl⟩, rfl⟩
        refine ⟨fun y => (f y).toOption.getD a, ?_, ?_⟩
        · intro y hy
          show f y = .ok ((f y).toOption.getD a)
          rcases List.mem_cons.1 hy with rfl | hy
          · rw [ok_value_of_eq_ok ha a]
            exact ha
          · rw [ok_value_of_eq_ok (hg y hy) a]
            exact hg y hy
        · have hgx : (f x).toOption.getD a = a := ok_value_of_eq_ok ha a
          have hrest : xs.map g = xs.map fun y => (f y).toOption.getD a := by
            apply List.map_congr_left
            intro y hy
            rw [ok_value_of_eq_ok (hg y hy) a]
          rw [List.map_cons, hgx, hrest]
      · rintro ⟨g, hg, rfl⟩
        exact ⟨g x, hg x (List.mem_cons_self ..), xs.map g,
          ⟨g, fun y hy => hg y (List.mem_cons_of_mem x hy), rfl⟩, rfl⟩

/-- A `mapM` whose step fails on the list exactly where `fault` names a failure, and otherwise
gives `value`: it fails with the first failure named, in list order, and otherwise gives the
values. -/
theorem mapM_eq_of_fault {f : γ → Except ε α} (fault : γ → Option ε) (value : γ → α) {xs : List γ}
    (hf : ∀ x ∈ xs, f x = (fault x).elim (.ok (value x)) .error) :
    xs.mapM f = (xs.findSome? fault).elim (.ok (xs.map value)) .error := by
  induction xs with
  | nil => rfl
  | cons x xs ih =>
      rw [List.mapM_cons, List.findSome?_cons, hf x (List.mem_cons_self ..)]
      cases fault x with
      | some e => rfl
      | none =>
          show (xs.mapM f >>= fun ys => pure (value x :: ys)) = _
          rw [ih fun y hy => hf y (List.mem_cons_of_mem x hy)]
          cases xs.findSome? fault <;> rfl

namespace Batch

/-- Running a list of steps that output lists: it succeeds exactly when every step does, and
then outputs the step outputs joined in order. -/
theorem collect_eq_ok (steps : List (Except Failure (List β))) (out : List β) :
    collect steps = .ok out ↔
      ∃ outs : List (List β), steps.mapM id = .ok outs ∧ out = outs.flatten := by
  simp only [collect, map_eq_ok]
  constructor
  · rintro ⟨outs, h, rfl⟩
    exact ⟨outs, h, rfl⟩
  · rintro ⟨outs, h, rfl⟩
    exact ⟨outs, h, rfl⟩

theorem collect_cons (x : Except Failure (List β)) (xs : List (Except Failure (List β))) :
    collect (x :: xs) = x >>= fun a => (collect xs).map (a ++ ·) := by
  cases x with
  | error e => rfl
  | ok a =>
      show ((List.mapM id (Except.ok a :: xs)).map List.flatten) = (collect xs).map (a ++ ·)
      rw [List.mapM_cons]
      cases h : xs.mapM id with
      | error e => simp [collect, h, bind, Except.bind, Except.map]
      | ok as => simp [collect, h, bind, Except.bind, Except.map, pure, Except.pure]

theorem collect_append (xs ys : List (Except Failure (List β))) :
    collect (xs ++ ys) = collect xs >>= fun a => (collect ys).map (a ++ ·) := by
  induction xs with
  | nil =>
      rw [List.nil_append]
      show collect ys = (Except.ok [] : Except Failure (List β)) >>= fun a => (collect ys).map (a ++ ·)
      cases collect ys <;> rfl
  | cons x xs ih =>
      rw [List.cons_append, collect_cons, collect_cons, ih]
      cases x with
      | error e => rfl
      | ok a =>
          cases collect xs with
          | error e => rfl
          | ok b =>
              cases collect ys with
              | error e => rfl
              | ok c => simp [bind, Except.bind, Except.map]

/-- Running the steps of several lists list by list is running them all in order. -/
theorem collect_map_collect (xss : List (List (Except Failure (List β)))) :
    collect (xss.map collect) = collect xss.flatten := by
  induction xss with
  | nil => rfl
  | cons xs xss ih =>
      rw [List.map_cons, collect_cons, ih, List.flatten_cons, collect_append]

/-- The steps of a list of arguments run by `collect`: all succeed, with outputs `g x`. -/
theorem collect_map_eq_ok (f : γ → Except Failure (List β)) (xs : List γ) (out : List β) :
    collect (xs.map f) = .ok out ↔
      ∃ g : γ → List β, (∀ x ∈ xs, f x = .ok (g x)) ∧ out = (xs.map g).flatten := by
  rw [collect_eq_ok]
  have hmap : (xs.map f).mapM id = xs.mapM f := by
    rw [List.mapM_map]
    rfl
  simp only [hmap, mapM_eq_ok]
  constructor
  · rintro ⟨outs, ⟨g, hg, rfl⟩, rfl⟩
    exact ⟨g, hg, rfl⟩
  · rintro ⟨g, hg, rfl⟩
    exact ⟨xs.map g, ⟨g, hg, rfl⟩, rfl⟩

/-- A run of steps that fails, fails with the failure of one of its steps. -/
theorem collect_map_eq_error {f : γ → Except Failure (List β)} {xs : List γ} {e : Failure}
    (h : collect (xs.map f) = .error e) : ∃ x ∈ xs, f x = .error e := by
  induction xs with
  | nil => cases h
  | cons x xs ih =>
      rw [List.map_cons, collect_cons] at h
      cases hx : f x with
      | error e' =>
          rw [hx] at h
          cases h
          exact ⟨x, List.mem_cons_self .., hx⟩
      | ok a =>
          rw [hx] at h
          -- the head succeeded, so the failure is one of the rest
          have hrest : collect (xs.map f) = .error e := by
            cases hc : collect (xs.map f) with
            | error e' =>
                rw [hc] at h
                cases h
                rfl
            | ok b =>
                rw [hc] at h
                cases h
          obtain ⟨y, hy, hfy⟩ := ih hrest
          exact ⟨y, List.mem_cons_of_mem x hy, hfy⟩

/-- A run of steps one of which fails does not succeed: it fails with the failure of one of its
steps, not necessarily that one. -/
theorem collect_map_error_of_mem {f : γ → Except Failure (List β)} {xs : List γ} {x : γ}
    (hx : x ∈ xs) {e : Failure} (he : f x = .error e) :
    ∃ y ∈ xs, ∃ e', f y = .error e' ∧ collect (xs.map f) = .error e' := by
  cases hc : collect (xs.map f) with
  | ok out =>
      obtain ⟨g, hg, -⟩ := (collect_map_eq_ok f xs out).1 hc
      rw [hg x hx] at he
      cases he
  | error e' =>
      obtain ⟨y, hy, hfy⟩ := collect_map_eq_error hc
      exact ⟨y, hy, e', hfy, rfl⟩

end Batch

end ItemRecommender
