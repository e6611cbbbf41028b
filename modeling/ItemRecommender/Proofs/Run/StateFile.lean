import Mathlib
import ItemRecommender.Progress
import ItemRecommender.Proofs.Batch.Collect
import ItemRecommender.Proofs.Json.Consumed
import ItemRecommender.Proofs.Json.Reading
import ItemRecommender.Proofs.Ledger
import ItemRecommender.Proofs.Text.Utf8
import ItemRecommender.Proofs.Workspace.Places

/-! # The state file

    Progress whose markers are phase numbers reads back from its text as itself
    (`ofText_render`), so saving it and loading it again gives it back (`load_save`). Loading
    finds fresh progress, or the progress of the text in the file at the place of the state path
    (`load_ok`). A text of lines that each end in a closing bracket, as the recommendation file
    is, reads as no progress at all (`ofText_lines`): a JSON text that holds an object ends with
    a closing brace. -/

namespace ItemRecommender.Progress

open Workspace

variable {α : Type}

/-- Every marker is the marker of a phase. -/
def PhaseKeys (P : Progress) : Prop := ∀ k ∈ P.marks.keys, ∃ p : Phase, (p.toNat : Int) = k

theorem phaseKeys_fresh : fresh.PhaseKeys := by simp [PhaseKeys, fresh]

/-- Dropping markers keeps them keyed by phases. -/
theorem PhaseKeys.invalidateFrom {P : Progress} (h : P.PhaseKeys) (q : Phase) :
    (P.invalidateFrom q).PhaseKeys := by
  intro k hk
  simp only [Progress.invalidateFrom, Ledger.mem_keys_filter] at hk
  obtain ⟨v, hv, -⟩ := hk
  exact h k ((Ledger.mem_keys_iff _ _).2 ⟨v, hv⟩)

/-- Setting a marker keeps the markers keyed by phases. -/
theorem PhaseKeys.mark {P : Progress} (h : P.PhaseKeys) (q : Phase) (f : String) :
    (P.mark q f).PhaseKeys := by
  intro k hk
  simp only [Progress.mark, Ledger.mem_keys_insert] at hk
  rcases hk with rfl | hk
  · exact ⟨q, rfl⟩
  · exact h k hk

/-- The number of a phase reads back from its text. -/
theorem intOfText?_phase (p : Phase) :
    Setting.intOfText? (toString (p.toNat : Int)) = some (p.toNat : Int) := by
  cases p <;> decide

/-- Steps that each give back the argument they were made from succeed on the whole list. -/
theorem mapM_map_eq_some {α β : Type} (f : β → Option α) (g : α → β) :
    ∀ (es : List α), (∀ e ∈ es, f (g e) = some e) → (es.map g).mapM f = some es := by
  intro es h
  induction es with
  | nil => rfl
  | cons e es ih =>
    rw [List.map_cons, List.mapM_cons, h e (List.mem_cons_self ..),
      ih fun e' he' => h e' (List.mem_cons_of_mem _ he')]
    rfl

/-- Progress whose markers are phase numbers reads back from its text. -/
theorem ofText_render (P : Progress) (hP : P.PhaseKeys) : ofText P.render = P := by
  have hparse := Json.parseWith?_pretty "phases"
    (P.marks.entries.map fun e => (toString e.1, e.2))
  have hms : ((P.marks.entries.map fun e => (toString e.1, e.2)).map
      fun m => (m.1, Json.string m.2)) = P.marks.entries.map fun e => (toString e.1, .string e.2) := by
    simp [Function.comp_def]
  rw [hms] at hparse
  unfold ofText render
  rw [hparse]
  simp only [Option.bind_some, ofJson?, List.reverse_cons, List.reverse_nil, List.nil_append,
    List.find?_singleton, decide_true, if_true, Option.map_some]
  rw [mapM_map_eq_some _ _ _ ?pairs]
  · simp [Ledger.ofList_entries]
  -- each marker's member reads back as the marker
  intro e he
  obtain ⟨p, hp⟩ := hP e.1 (List.mem_map_of_mem he)
  rw [← hp, intOfText?_phase, hp]

/-- What loading finds: fresh progress, or the progress of the text in the file the state path
reaches. -/
theorem load_ok {w : Workspace α} {path : PathName} {P : Progress} (h : load w path = .ok P) :
    P = fresh ∨ ∃ loc c text, place? path = some loc ∧ w.fileAt? loc = some c ∧
      decodeText c = .ok text ∧ P = ofText text := by
  unfold load at h
  split_ifs at h
  · simp only [pure, Except.pure, Except.ok.injEq] at h
    exact Or.inl h.symm
  · simp only [bind_eq_ok, pure_eq_ok] at h
    obtain ⟨c, hc, text, htext, rfl⟩ := h
    obtain ⟨loc, hreach, hfile⟩ := openRead_ok hc
    exact Or.inr ⟨loc, c, text, reachPath_place hreach, hfile, htext, rfl⟩

/-- Progress saved is the progress loaded next. -/
theorem load_save {w w' : Workspace α} {path : PathName} {P : Progress} (hP : P.PhaseKeys)
    (h : P.save w path = .ok w') : load w' path = .ok P := by
  obtain ⟨hexists, hread⟩ := openRead_writeWhole h
  unfold load
  simp only [hexists, hread, Bool.not_true, Bool.false_eq_true, if_false, bind, Except.bind,
    decodeText_toUTF8, pure, Except.pure, ofText_render P hP]

/-- Loading finds what it found while the directories stay and the state file is kept. -/
theorem load_of_keepsDirs {w w' : Workspace α} {path : PathName} {c : Content α}
    (hk : KeepsDirs w w') (hr : w.openRead path = .ok c)
    (hsame : ∀ loc, place? path = some loc → w'.fileAt? loc = w.fileAt? loc) :
    load w' path = load w path := by
  obtain ⟨he, ho⟩ := openRead_of_keepsDirs hk hr hsame
  obtain ⟨loc, hreach, hfile⟩ := openRead_ok hr
  obtain ⟨he₀, -⟩ := openRead_of_reach hreach hfile
  simp only [load, he, he₀, ho, hr]

/-- The last character of a text of lines, before blanks, is the last character of its last
line. -/
theorem lastNonBlank_lines (ls : List String) (l : String) (hl : l.toList.getLast? = some ']') :
    ((String.join ((ls ++ [l]).map (· ++ "\n"))).toList.reverse.dropWhile Json.isSpace).head? =
      some ']' := by
  obtain ⟨pre, hpre⟩ : ∃ pre, l.toList = pre ++ [']'] :=
    ⟨l.toList.dropLast, (List.dropLast_append_getLast? _ hl).symm⟩
  simp [String.toList_join, hpre, Json.isSpace]

/-- A text of lines that each end in a closing bracket reads as no progress. -/
theorem ofText_lines (ls : List String) (h : ∀ l ∈ ls, l.toList.getLast? = some ']') :
    ofText (String.join (ls.map (· ++ "\n"))) = fresh := by
  unfold ofText
  cases hp : Json.parseWith? .extended (String.join (ls.map (· ++ "\n"))) with
  | none => rfl
  | some j =>
    cases j with
    | object ms =>
      -- an object would end with a closing brace
      exfalso
      have hclose := Json.parseWith?_object_closes hp
      rcases List.eq_nil_or_concat ls with rfl | ⟨ls', l, rfl⟩
      · simp at hclose
      · rw [List.concat_eq_append] at hclose h
        rw [lastNonBlank_lines ls' l (h l (by simp))] at hclose
        simp at hclose
    | _ => rfl

end ItemRecommender.Progress
