import Mathlib
import ItemRecommender.Preference
import ItemRecommender.Proofs.Recommender.Ranking
import ItemRecommender.Proofs.Recommender.UserVectors
import ItemRecommender.Proofs.Pruning.Prune

/-! # The item-based specification

    What the recommender computes, said without its stages and over exact values. A user's value
    for an item is that of the user's last preference for it (`value`). Two items co-occur once
    for every user with a preference for both (`cooccurrences`). A user keeps the items that
    fewer than `k` of the user's items beat in magnitude (`kept`), and scores every item by the
    kept values weighted by co-occurrence (`score`). The candidates of a user are the items the
    user has no preference for whose score is not zero (`candidates`), and the recommendations
    are, for every selected user with a candidate, ascending, the first `n` candidates by score,
    largest first, then by id (`recommendations`). -/

namespace ItemRecommender.Reference

section Values

variable {α : Type} (prefs : List (Preference α))

/-- The items of some preferences. -/
def items : Finset Int := (prefs.map (·.item)).toFinset

/-- The items a user has a preference for. -/
def itemsOf (u : Int) : Finset Int := ((prefs.filter fun p => p.user = u).map (·.item)).toFinset

/-- The value of a user's last preference for an item, if there is one. -/
def lastValue? (u i : Int) : Option α :=
  ((prefs.filter fun p => p.user = u ∧ p.item = i).getLast?).map (·.value)

@[simp] theorem mem_items (i : Int) : i ∈ items prefs ↔ ∃ p ∈ prefs, p.item = i := by
  simp [items]

@[simp] theorem mem_itemsOf (u i : Int) :
    i ∈ itemsOf prefs u ↔ ∃ p ∈ prefs, p.user = u ∧ p.item = i := by
  simp [itemsOf, and_assoc]

theorem itemsOf_subset_items (u : Int) : itemsOf prefs u ⊆ items prefs := by
  intro i hi
  obtain ⟨p, hp, -, rfl⟩ := (mem_itemsOf prefs u i).1 hi
  exact (mem_items prefs _).2 ⟨p, hp, rfl⟩

/-- A user has a value for exactly the items the user has a preference for. -/
theorem isSome_lastValue? (u i : Int) : (lastValue? prefs u i).isSome ↔ i ∈ itemsOf prefs u := by
  simp [lastValue?, and_comm]

end Values

section Exact

variable (prefs : List (Preference ℚ))

/-- `v(u, i)`: the value of the user's last preference for the item, zero without one. -/
def value (u i : Int) : ℚ := (lastValue? prefs u i).getD 0

/-- `C(i, j)`, for `i ≠ j`: the number of users with a preference for both items. -/
def cooccurrences (i j : Int) : ℕ :=
  if i = j then 0 else
    ((prefs.map (·.user)).toFinset.filter fun u => i ∈ itemsOf prefs u ∧ j ∈ itemsOf prefs u).card

/-- `kept(u)`: the items of the user that fewer than `k` of the user's items beat in magnitude. -/
def kept (k : Int) (u : Int) : Finset Int :=
  (itemsOf prefs u).filter fun i =>
    (((itemsOf prefs u).filter fun i' => |value prefs u i| < |value prefs u i'|).card : Int) < k

/-- `score(u, j)`: the user's kept values, each weighted by how often its item co-occurs with
`j`. -/
def score (k : Int) (u j : Int) : ℚ :=
  ∑ i ∈ kept prefs k u, value prefs u i * cooccurrences prefs i j

/-- `Cand(u)`: the items the user has no preference for whose score is not zero. -/
def candidates (k : Int) (u : Int) : Finset Int :=
  (items prefs).filter fun j => j ∉ itemsOf prefs u ∧ score prefs k u j ≠ 0

/-- The recommendations of the specification: for every user with a candidate, ascending,
among the selected ones, the first `n` candidates with their scores in ranking order. -/
def recommendations (users : Option (List Int)) (k : Int) (n : Nat) :
    List (Int × List (Recommendation ℚ)) :=
  ((usersOf prefs).filter fun u => isSelected users u ∧ (candidates prefs k u).Nonempty).map
    fun u => (u, bestOf ((candidates prefs k u).image fun j => ⟨j, score prefs k u j⟩) n)

theorem kept_subset (k u : Int) : kept prefs k u ⊆ itemsOf prefs u := Finset.filter_subset _ _

end Exact

end ItemRecommender.Reference
